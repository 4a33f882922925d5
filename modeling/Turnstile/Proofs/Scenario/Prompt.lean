/-
**Work takes no time.**

In a scenario time passes only while every job stands still: whatever an action does in a stretch of
its work takes no time, and to the contexts it does nothing but add new ones and cancel some.  So to
a job that stands at a pause the others of its scenario, whatever they are, are such as may do as
they like meanwhile.

Main definitions:

* `Act.Prompt` — work that takes no time and only adds and cancels contexts;
* `Steps.Prompt`, `RateLimiter.Prompt` — operations and limiters that are prompt throughout.

Main results:

* `Wait.prompt_resume`, `RetryPolicy.prompt_resume`, `Layer.prompt_resume` — waits, retries and
  requests are prompt;
* `Running.prompt_start`, `Running.prompt_next` — **every action of a scenario is prompt**;
* `Running.meanwhile_proceed` — **in a scenario nothing else happens during the pause of a job**.
-/

import Turnstile.Proofs.Admission.Pauses
import Turnstile.Scenario.Task

set_option relaxedAutoImplicit false
set_option autoImplicit false

namespace Turnstile

variable {σ α β κ ℓ : Type}

/-! ### Prompt work -/

namespace Act

/-- Work that takes no time, and only adds and cancels contexts. -/
def Prompt (act : Act σ α) : Prop :=
  ∀ w, (act w).2.now = w.now ∧ w.contexts.Evolves (act w).2.contexts

theorem KeepsTime.prompt {act : Act σ α} (h : KeepsTime act) : Prompt act := fun w =>
  ⟨(h w).1, (h w).2 ▸ .refl⟩

namespace Prompt

theorem pure (a : α) : Prompt (Pure.pure a : Act σ α) := (KeepsTime.pure a).prompt

theorem bind {act : Act σ α} {k : α → Act σ β} (h : Prompt act) (hk : ∀ a, Prompt (k a)) :
    Prompt (act >>= k) := fun w => by
  rw [bind_apply]
  exact ⟨(hk _ _).1.trans (h w).1, (h w).2.trans (hk _ _).2⟩

theorem map {act : Act σ α} (h : Prompt act) (f : α → β) : Prompt (f <$> act) := h

theorem ite {c : Prop} [Decidable c] {act act' : Act σ α} (h : Prompt act) (h' : Prompt act') :
    Prompt (if c then act else act') := by
  split
  · exact h
  · exact h'

theorem status (ctx : ContextId) : Prompt (Act.status ctx : Act σ _) := fun _ => ⟨rfl, .refl⟩

theorem now : Prompt (Act.now : Act σ _) := fun _ => ⟨rfl, .refl⟩

theorem log (e : LogEvent) : Prompt (Act.log e : Act σ _) := (KeepsTime.log e).prompt

theorem observe (measured : Bool) (o : Observation) :
    Prompt (Act.observe measured o : Act σ _) := (KeepsTime.observe measured o).prompt

theorem callStore (ctx : ContextId) (f : Call → σ → α × σ) : Prompt (Act.callStore ctx f) :=
  fun _ => ⟨rfl, .refl⟩

theorem jittered (j : Jitter) (d : Duration) : Prompt (Act.jittered j d : Act σ _) :=
  fun _ => ⟨rfl, .refl⟩

theorem newContext {make : Contexts → ContextId × Contexts} (h : ∀ cs : Contexts, cs.Evolves (make cs).2) :
    Prompt (Act.newContext make : Act σ _) := fun w => ⟨rfl, h w.contexts⟩

theorem cancel (ctx : ContextId) : Prompt (Act.cancel ctx : Act σ _) :=
  fun _ => ⟨rfl, .cancel ctx .refl⟩

theorem pace (d : Duration) : Prompt (Act.pace d : Act σ _) := fun w => by
  unfold Act.pace
  cases h : w.pacer.cancelAt with
  | none => simpa [h] using Contexts.Evolves.refl
  | some turn =>
      by_cases hturn : w.pacer.requested + 1 = turn.1
      · simpa [h, hturn] using Contexts.Evolves.refl.cancel turn.2
      · simpa [h, hturn] using Contexts.Evolves.refl

theorem beginSleep (ctx : Option ContextId) (s : Sleeper) (d : Duration) :
    Prompt (Act.beginSleep ctx s d : Act σ _) := by
  cases s with
  | timer => exact fun _ => ⟨rfl, .refl⟩
  | instant => exact fun _ => ⟨rfl, .refl⟩
  | tracking journal => exact fun _ => ⟨rfl, .refl⟩
  | ticking => exact (pace d).bind fun _ _ => ⟨rfl, .refl⟩
  | manual =>
      refine (pace d).bind fun _ w => ?_
      cases (ctx.bind w.status).isSome <;> exact ⟨rfl, .refl⟩

theorem sleep (ctx : ContextId) (s : Sleeper) (d : Duration) :
    Prompt (Act.sleep ctx s d : Act σ _) := by
  refine (status ctx).bind fun finished => ?_
  cases finished with
  | some cause => exact pure _
  | none => exact (beginSleep (some ctx) s d).bind fun pause => pure _

end Prompt

end Act

open Act (Prompt)

/-! ### Limiters -/

namespace SlidingWindow

theorem prompt_allowN [Backend σ] (l : SlidingWindow) (ctx : ContextId) (key : String)
    (n limit : Nat) (window : Duration) : Prompt (l.allowN ctx key n limit window : Act σ _) :=
  (l.keepsTime_allowN ctx key n limit window).prompt

theorem prompt_reset [Backend σ] (l : SlidingWindow) (ctx : ContextId) (key : String) :
    Prompt (l.reset ctx key : Act σ _) := by
  refine (Prompt.status ctx).bind fun finished => ?_
  cases finished with
  | some cause => exact .pure _
  | none =>
      refine (Prompt.callStore ctx _).bind fun result => .bind ?_ fun _ => .pure result
      refine (Prompt.observe _ _).bind fun _ => ?_
      cases result with
      | ok _ => exact .pure _
      | error e => exact .log _

end SlidingWindow

namespace Wait

theorem prompt_finish (w : Wait) (result : Except LimiterError Unit) :
    Prompt (w.finish result : Act σ _) := (w.keepsTime_finish result).prompt

theorem prompt_poll [Backend σ] (w : Wait) : Prompt (w.poll : Act σ _) := by
  refine (Prompt.status w.ctx).bind fun finished => ?_
  cases finished with
  | some cause => exact w.prompt_finish _
  | none =>
      refine (Prompt.observe _ _).bind fun _ =>
        (w.limiter.prompt_allowN w.ctx w.key 1 w.limit w.window).bind fun answer => ?_
      rcases answer with e | _ | _
      · exact prompt_finish _ _
      · refine (Prompt.log _).bind fun _ => (Prompt.sleep _ _ _).bind fun slept => ?_
        cases slept with
        | error cause => exact prompt_finish _ _
        | ok pause => exact .pure _
      · exact prompt_finish _ _

theorem prompt_resume [Backend σ] (w : Wait) (wake : Wake) : Prompt (w.resume wake : Act σ _) := by
  cases wake with
  | timer => exact w.prompt_poll
  | context cause => exact w.prompt_finish _

end Wait

/-! ### Retries -/

/-- Whatever an operation does is prompt. -/
structure Steps.Prompt (op : Steps σ κ α) : Prop where
  call : ∀ n, Act.Prompt (op.call n)
  resume : ∀ rest wake, Act.Prompt (op.resume rest wake)
  abandon : ∀ rest, Act.Prompt (op.abandon rest)

namespace RetryPolicy

theorem prompt_settle (p : RetryPolicy) (ctx : ContextId) (n : Nat)
    (answer : Except LimiterError α) :
    Prompt (p.settle ctx n answer : Act σ (Turn (Retrying κ) _)) := by
  cases answer with
  | ok a => exact .pure _
  | error e =>
      unfold settle
      refine (Prompt.pure _).ite ((p.keepsTime_giveUp n e).prompt.ite ?_)
      exact (Prompt.jittered _ _).bind fun _ => (Prompt.log _).bind fun _ =>
        (Prompt.sleep _ _ _).bind fun _ => .pure _

theorem prompt_follow (p : RetryPolicy) (ctx : ContextId) (n : Nat)
    (turn : Turn κ (Except LimiterError α)) : Prompt (p.follow ctx n turn : Act σ _) := by
  cases turn with
  | done answer => exact p.prompt_settle ctx n answer
  | pause on rest => exact .pure _

variable {op : Steps σ κ α}

theorem prompt_start (p : RetryPolicy) (ctx : ContextId) (h : op.Prompt) :
    Prompt (p.start ctx op) :=
  (h.call 1).bind fun turn => p.prompt_follow ctx 1 turn

theorem prompt_resume (p : RetryPolicy) (ctx : ContextId) (h : op.Prompt) (run : Retrying κ)
    (wake : Wake) : Prompt (p.resume ctx op run wake) := by
  cases run with
  | calling n rest => exact (h.resume rest wake).bind fun turn => p.prompt_follow ctx n turn
  | backingOff n =>
      cases wake with
      | timer => exact (h.call (n + 1)).bind fun turn => p.prompt_follow ctx (n + 1) turn
      | context cause => exact .pure _

theorem prompt_abandon (h : op.Prompt) (run : Retrying κ) : Prompt (abandon op run) := by
  cases run with
  | calling n rest => exact h.abandon rest
  | backingOff n => exact .pure _

end RetryPolicy

/-! ### Requests -/

/-- Whatever a limiter of a layer does is prompt. -/
structure RateLimiter.Prompt [RateLimiter ℓ σ κ] (l : ℓ) : Prop where
  allowN : ∀ ctx key n limit window,
    Act.Prompt (RateLimiter.allowN l ctx key n limit window : Act σ _)
  wait : ∀ ctx key limit window, Act.Prompt (RateLimiter.wait l ctx key limit window : Act σ _)
  resume : ∀ rest wake, Act.Prompt (RateLimiter.resume l rest wake : Act σ _)
  abandon : ∀ rest, Act.Prompt (RateLimiter.abandon l rest : Act σ _)

namespace Layer

theorem prompt_follow (l : Layer ℓ) (key : String)
    (turn : Turn (Admitting κ) (Except LimiterError Bool)) :
    Prompt (l.follow key turn : Act σ _) := by
  cases turn with
  | pause on rest => exact .pure _
  | done answer =>
      refine .bind ((Prompt.observe _ _).bind fun _ => ?_) fun _ => .pure _
      cases l.verdictEvent? key answer with
      | none => exact .pure _
      | some e => exact (Prompt.log e).bind fun _ => .pure _

variable [RateLimiter ℓ σ κ] {l : Layer ℓ}

theorem prompt_decisionSteps (h : RateLimiter.Prompt (σ := σ) l.limiter) (key : String)
    (ctx : ContextId) : (l.decisionSteps key ctx : Steps σ Empty Bool).Prompt where
  call := fun _ => (Prompt.log _).bind fun _ => (h.allowN _ _ _ _ _).bind fun _ => .pure _
  resume := nofun
  abandon := nofun

theorem prompt_waitSteps (h : RateLimiter.Prompt (σ := σ) l.limiter) (key : String)
    (ctx : ContextId) : (l.waitSteps key ctx : Steps σ κ Unit).Prompt where
  call := fun _ => (Prompt.log _).bind fun _ => h.wait _ _ _ _
  resume := h.resume
  abandon := h.abandon

/-- A request is prompt when it begins, -/
theorem prompt_start (h : RateLimiter.Prompt (σ := σ) l.limiter) (parent : ContextId)
    (caller : Caller) : Prompt (l.start parent caller : Act σ _) := by
  have hwaiting : Prompt (fun w : World σ =>
      Act.newContext (fun cs => cs.withTimeout parent w.now l.waitTimeout) w) := fun w =>
    ⟨rfl, Contexts.evolves_withTimeout w.contexts parent w.now l.waitTimeout⟩
  refine .bind ?_ fun turn => l.prompt_follow _ turn
  unfold ask
  refine .ite ?_ ?_
  · exact hwaiting.bind fun ctx =>
      (l.retry.prompt_start ctx (prompt_waitSteps h _ ctx)).bind fun _ => .pure _
  · exact (Prompt.newContext fun _ => .add _ .refl).bind fun ctx =>
      (l.retry.prompt_start ctx (prompt_decisionSteps h _ ctx)).bind fun _ => .pure _

/-- and when it goes on, -/
theorem prompt_resume (h : RateLimiter.Prompt (σ := σ) l.limiter) (a : Admitting κ) (wake : Wake) :
    Prompt (l.resume a wake : Act σ _) := by
  refine .bind ?_ fun turn => l.prompt_follow _ turn
  cases a with
  | deciding key ctx run =>
      exact (l.retry.prompt_resume ctx (prompt_decisionSteps h key ctx) run wake).bind
        fun _ => .pure _
  | awaiting key ctx run =>
      exact (l.retry.prompt_resume ctx (prompt_waitSteps h key ctx) run wake).bind
        fun _ => .pure _

/-- and when it is given up. -/
theorem prompt_abandon (h : RateLimiter.Prompt (σ := σ) l.limiter) (a : Admitting κ) :
    Prompt (l.abandon a : Act σ _) := by
  cases a with
  | deciding key ctx run => exact .pure _
  | awaiting key ctx run => exact RetryPolicy.prompt_abandon (prompt_waitSteps h key ctx) run

end Layer

/-! ### The rig of a scenario -/

namespace Act

theorem Prompt.onRig (f : Rig → α × Rig) : Prompt (Act.onRig f) := fun _ => ⟨rfl, .refl⟩

theorem prompt_countLimiter (l : LiveLimiter) (count : Meter → String → Observation × Meter) :
    Prompt (countLimiter l count) :=
  .ite ((Prompt.onRig _).bind fun _ => .observe _ _) (.pure _)

theorem prompt_release (l : Option LiveLimiter) : Prompt (release l) := by
  cases l with
  | none => exact .pure _
  | some l =>
      exact (Prompt.onRig _).bind fun _ => .ite (prompt_countLimiter l Meter.ended) (.pure _)

theorem prompt_giveBack (l : Option LiveLimiter) : Prompt (giveBack l) :=
  (Prompt.onRig _).bind fun _ => prompt_release l

theorem prompt_installLimiter (l : SlidingWindow) : Prompt (installLimiter l) :=
  (Prompt.onRig _).bind fun l => (prompt_countLimiter l Meter.started).bind fun _ =>
    (Prompt.onRig _).bind fun old => prompt_release old

theorem prompt_dropLimiter : Prompt dropLimiter :=
  (Prompt.onRig _).bind fun old => prompt_release old

theorem prompt_installLayer (layer : Layer RigLimiter) : Prompt (installLayer layer) :=
  (Prompt.onRig _).bind fun old => prompt_release old

end Act

/-- The limiters of a scenario are prompt. -/
theorem RigLimiter.prompt (l : RigLimiter) : RateLimiter.Prompt (σ := Rig) l where
  allowN := fun ctx key n limit window => by
    cases l with
    | sliding l => exact l.limiter.prompt_allowN ctx key n limit window
    | scripted => exact .onRig _
  wait := fun ctx key limit window => by
    cases l with
    | sliding l => exact Wait.prompt_poll _
    | scripted => exact (Prompt.onRig _).bind fun _ => .pure _
  resume := fun w wake => w.prompt_resume wake
  abandon := fun _ => .observe _ _

/-! ### Actions that never pause -/

namespace Act

theorem prompt_journal (number : Nat) : Prompt (journal number : Act σ _) := fun _ => ⟨rfl, .refl⟩

theorem prompt_clearJournal (number : Nat) : Prompt (clearJournal number : Act σ _) :=
  fun _ => ⟨rfl, .refl⟩

theorem prompt_newJournal : Prompt (newJournal : Act σ _) := fun _ => ⟨rfl, .refl⟩

theorem prompt_callDraft (d : Layer.Draft RigLimiter) (c : LayerCall) :
    Prompt (callDraft d c) := by
  cases c with
  | settings json =>
      simp only [callDraft]
      split <;> exact .pure _
  | retryPolicy plan =>
      refine prompt_newJournal.bind fun journal => ?_
      cases plan.policy journal with
      | ok policy => exact (Prompt.onRig _).bind fun _ => .pure _
      | error e => exact .pure _
  | _ => exact .pure _

theorem prompt_draftLayer (d : Layer.Draft RigLimiter) (calls : List LayerCall) :
    Prompt (draftLayer d calls) := by
  induction calls generalizing d with
  | nil => exact .pure _
  | cons c rest ih =>
      refine (prompt_callDraft d c).bind fun drafted => ?_
      cases drafted with
      | ok d => exact ih d
      | error e => exact .pure _

theorem prompt_layerLimiter (l : LayerLimiter) : Prompt (layerLimiter l) := by
  cases l with
  | sliding => exact .onRig _
  | scripted => exact .pure _
  | none => exact .pure _

theorem prompt_finishLayer (d : Layer.Draft RigLimiter) (describe : Bool) :
    Prompt (finishLayer d describe) := by
  unfold finishLayer
  cases d.build with
  | error e => exact .pure _
  | ok layer => exact (prompt_installLayer layer).bind fun _ => .pure _

theorem prompt_buildLayer (l : LayerLimiter) (calls : List LayerCall) (describe : Bool) :
    Prompt (buildLayer l calls describe) := by
  refine (prompt_layerLimiter l).bind fun limiter =>
    (prompt_draftLayer (draftOver limiter true) calls).bind fun drafted => ?_
  cases drafted with
  | error e => exact .pure _
  | ok d => exact prompt_finishLayer d describe

theorem prompt_buildLayerOfSettings (json : String) (describe : Bool) :
    Prompt (buildLayerOfSettings json describe) := by
  unfold buildLayerOfSettings
  cases AdmissionSettings.ofJson json with
  | error e => exact .pure _
  | ok s => exact (prompt_layerLimiter .sliding).bind fun _ => prompt_finishLayer _ describe

theorem prompt_addContext {make : Contexts → ContextId × Contexts}
    (h : ∀ cs : Contexts, cs.Evolves (make cs).2) : Prompt (addContext make) :=
  (Prompt.newContext h).bind fun _ => .onRig _

theorem prompt_changeClocks (which : WhichClock) (f : Nat → Nat) :
    Prompt (changeClocks which f) := fun _ => by
  cases which <;> exact ⟨rfl, .refl⟩

theorem prompt_withLimiter {act : SlidingWindow → Act Rig Answer} (h : ∀ l, Prompt (act l)) :
    Prompt (withLimiter act) := by
  refine (Prompt.onRig _).bind fun l => ?_
  cases l with
  | none => exact .pure _
  | some l => exact h l.limiter

theorem prompt_allowMany (l : SlidingWindow) (ctx : ContextId) (key : String) (n limit : Nat)
    (window : Duration) (times : Nat) : Prompt (allowMany l ctx key n limit window times) := by
  induction times with
  | zero => exact .pure _
  | succ times ih =>
      exact (l.prompt_allowN ctx key n limit window).bind fun _ => ih.bind fun _ => .pure _

theorem prompt_newLimiter (pollInterval : Duration) (sleeper : Sleeper) :
    Prompt (newLimiter pollInterval sleeper) := by
  unfold newLimiter
  cases SlidingWindow.make pollInterval sleeper with
  | error e => exact .pure _
  | ok l => exact (prompt_installLimiter l).bind fun _ => .pure _

/-- What is prompt for each element of a list is prompt for the list. -/
theorem Prompt.mapM {f : α → Act σ β} (h : ∀ a, Prompt (f a)) (as : List α) :
    Prompt (as.mapM f) := by
  induction as with
  | nil => exact .pure _
  | cons a as ih =>
      rw [List.mapM_cons]
      exact (h a).bind fun _ => ih.bind fun _ => .pure _

end Act

/-! ### Actions -/

theorem RetryRun.prompt_steps (r : RetryRun) : r.steps.Prompt where
  call := fun n => by
    refine (Prompt.onRig _).bind fun _ => .ite (.pure _) ?_
    exact Prompt.now.bind fun _ => .pure _
  resume := fun _ _ => .pure _
  abandon := fun _ => .pure _

theorem RetryRun.prompt_answer (r : RetryRun) (result : Except LimiterError String) :
    Prompt (r.answer result) := by
  refine (Prompt.onRig _).bind fun attempts => ?_
  cases r.policy.sleeper.journal? with
  | none => exact .pure _
  | some journal => exact (Act.prompt_journal journal).bind fun _ => .pure _

namespace Running

theorem prompt_followWait (l : LiveLimiter) (turn : Turn Wait (Except LimiterError Unit)) :
    Prompt (followWait l turn) := by
  cases turn with
  | pause on w => exact .pure _
  | done result =>
      have hanswer : Prompt (answerWait result) := fun _ => ⟨rfl, .refl⟩
      exact hanswer.bind fun _ => (Act.prompt_giveBack _).bind fun _ => .pure _

theorem prompt_followRetry (r : RetryRun)
    (turn : Turn (Retrying (Except LimiterError String)) (Except LimiterError String)) :
    Prompt (followRetry r turn) := by
  cases turn with
  | pause on run => exact .pure _
  | done result => exact (r.prompt_answer result).bind fun _ => .pure _

theorem prompt_answerRequest (r : Request) (verdict : Verdict) :
    Prompt (answerRequest r verdict) := by
  have hsleeps : Prompt layerSleeps := by
    refine (Prompt.onRig _).bind fun journal => ?_
    cases journal with
    | none => exact .pure _
    | some journal =>
        exact (Act.prompt_journal journal).bind fun _ =>
          (Act.prompt_clearJournal journal).bind fun _ => .pure _
  cases verdict with
  | answer response =>
      exact (Prompt.onRig _).bind fun _ => hsleeps.bind fun _ => .pure _
  | forward =>
      refine (Prompt.onRig _).bind fun _ => (Prompt.onRig _).bind fun _ => hsleeps.bind fun _ => ?_
      cases r.innerFailure <;> exact .pure _

theorem prompt_followRequest (layer : Layer RigLimiter) (r : Request)
    (turn : Turn (Admitting Wait) Verdict) : Prompt (followRequest layer r turn) := by
  cases turn with
  | pause on a => exact .pure _
  | done verdict =>
      exact (prompt_answerRequest r verdict).bind fun _ =>
        (Act.prompt_giveBack _).bind fun _ => .pure _

theorem prompt_beginWait (l : LiveLimiter) (ctx : ContextId) (key : String) (limit : Nat)
    (window : Duration) (cancelAfterSleeps : Option Nat) :
    Prompt (beginWait l ctx key limit window cancelAfterSleeps) := by
  have hpacer : Prompt (fun w : World Rig =>
      ((), { w with pacer := ⟨0, none, cancelAfterSleeps.map fun n => (n, ctx)⟩ })) :=
    fun _ => ⟨rfl, .refl⟩
  exact (Prompt.onRig _).bind fun _ => hpacer.bind fun _ =>
    (Wait.prompt_poll _).bind fun turn => prompt_followWait l turn

theorem prompt_beginRetry (ctx : ContextId) (plan : PolicyPlan) (outcomes : List Outcome) :
    Prompt (beginRetry ctx plan outcomes) := by
  refine Act.prompt_newJournal.bind fun journal => ?_
  cases plan.policy journal with
  | error e => exact .pure _
  | ok policy =>
      refine (Prompt.onRig _).bind fun number => ?_
      exact (policy.prompt_start ctx (RetryRun.prompt_steps _)).bind fun turn =>
        prompt_followRetry _ turn

theorem prompt_beginRequest (ctx : ContextId) (r : Request) : Prompt (beginRequest ctx r) := by
  refine (Prompt.onRig _).bind fun layer => ?_
  cases layer with
  | none => exact .pure _
  | some layer =>
      refine (Prompt.onRig _).bind fun _ => ?_
      have hrequest (parent : ContextId) : Prompt (do
          followRequest layer r (← layer.start parent r.caller)) :=
        (Layer.prompt_start layer.limiter.prompt parent r.caller).bind fun turn =>
          prompt_followRequest layer r turn
      cases r.bringsContext with
      | true => exact hrequest ctx
      | false => exact (Prompt.newContext fun _ => .add _ .refl).bind hrequest

theorem prompt_beginRun (ctx : ContextId) (payload : String) (takesMs : Option Nat) :
    Prompt (beginRun ctx payload takesMs) := by
  refine (Prompt.status ctx).bind fun finished => ?_
  cases finished with
  | some cause => exact .pure _
  | none => exact Prompt.now.bind fun _ => .pure _

theorem prompt_beginSleep (ctx : ContextId) (duration : Duration) (choice : SleeperChoice) :
    Prompt (beginSleep ctx duration choice) := by
  refine (Prompt.sleep ctx _ duration).bind fun slept => ?_
  cases slept <;> exact .pure _

/-- **Every action of a scenario is prompt** when it begins, -/
theorem prompt_start (ctx : ContextId) (action : Action) : Prompt (start ctx action) := by
  cases action with
  | childContext | deadlineContext _ | freshContext =>
      exact (Act.prompt_addContext fun _ => .add _ .refl).map _
  | timeoutContext timeout =>
      exact Prompt.now.bind fun now =>
        (Act.prompt_addContext fun cs => cs.evolves_withTimeout ctx now timeout).map _
  | cancel => exact (Prompt.cancel ctx).bind fun _ => .pure _
  | contextState => exact fun _ => ⟨rfl, .refl⟩
  | contextSleep duration choice => exact prompt_beginSleep ctx duration choice
  | contextRun payload takesMs => exact prompt_beginRun ctx payload takesMs
  | contextDone => exact .pure _
  | tracked clear =>
      exact (Act.prompt_journal 0).bind fun _ =>
        .ite ((Act.prompt_clearJournal 0).bind fun _ => .pure _) (.pure _)
  | elapse ms => exact Prompt.now.bind fun _ => .pure _
  | advanceClock which d => exact (Act.prompt_changeClocks which _).map _
  | setClock which ms => exact (Act.prompt_changeClocks which _).map _
  | readClocks => exact (Act.prompt_changeClocks .both id).map _
  | failNext e => exact (Prompt.onRig _).bind fun _ => .pure _
  | replyNext v => exact (Prompt.onRig _).bind fun _ => .pure _
  | outcomes list => exact (Prompt.onRig _).bind fun _ => .pure _
  | eval script keys args => exact (Prompt.callStore ctx _).bind fun _ => .pure _
  | delete keys => exact (Prompt.callStore ctx _).bind fun _ => .pure _
  | inspect key => exact fun _ => ⟨rfl, .refl⟩
  | commands cs => exact fun _ => ⟨rfl, .refl⟩
  | allowN key n limit window =>
      exact (Act.prompt_withLimiter fun l =>
        (l.prompt_allowN ctx key n limit window).map _).map _
  | reset key =>
      exact (Act.prompt_withLimiter fun l => (l.prompt_reset ctx key).map _).map _
  | allowMany key n limit window times =>
      exact (Act.prompt_withLimiter fun l =>
        (Act.prompt_allowMany l ctx key n limit window times).bind fun _ => .pure _).map _
  | allowEach key sizes limit window =>
      exact (Act.prompt_withLimiter fun l =>
        (Prompt.mapM (fun n => l.prompt_allowN ctx key n limit window) sizes).map _).map _
  | wait key limit window cancelAfterSleeps =>
      refine (Prompt.onRig _).bind fun l => ?_
      cases l with
      | none => exact .pure _
      | some l => exact prompt_beginWait l ctx key limit window cancelAfterSleeps
  | newLimiter pollInterval sleeper => exact (Act.prompt_newLimiter pollInterval sleeper).map _
  | dropLimiter => exact Act.prompt_dropLimiter.bind fun _ => .pure _
  | describe => exact (Act.prompt_withLimiter fun _ _ => ⟨rfl, .refl⟩).map _
  | retry plan outcomes => exact prompt_beginRetry ctx plan outcomes
  | keyMetrics key => exact (Prompt.onRig _).map _
  | activeLimiters => exact (Prompt.onRig _).map _
  | takeEvents => exact (Prompt.onRig _).map _
  | gather => exact (Prompt.onRig _).map _
  | newLayer limiter calls describe => exact (Act.prompt_buildLayer limiter calls describe).map _
  | layerOfSettings json describe =>
      exact (Act.prompt_buildLayerOfSettings json describe).map _
  | request r => exact prompt_beginRequest ctx r

/-- when it goes on, -/
theorem prompt_next (r : Running) (wake : Wake) : Prompt (r.next wake) := by
  cases r with
  | pausing answer => cases wake <;> exact .pure _
  | elapsing => exact Prompt.now.bind fun _ => .pure _
  | waiting l w => exact (w.prompt_resume wake).bind fun turn => prompt_followWait l turn
  | retrying r run =>
      exact (r.policy.prompt_resume r.ctx r.prompt_steps run wake).bind fun turn =>
        prompt_followRetry r turn
  | requesting layer r a =>
      exact (Layer.prompt_resume layer.limiter.prompt a wake).bind fun turn =>
        prompt_followRequest layer r turn

/-- and when it is given up. -/
theorem prompt_leave (r : Running) : Prompt r.leave := by
  cases r with
  | pausing answer => exact .pure _
  | elapsing => exact .pure _
  | waiting l w => exact (Prompt.observe _ _).bind fun _ => Act.prompt_giveBack _
  | retrying r run => exact RetryPolicy.prompt_abandon r.prompt_steps run
  | requesting layer r a =>
      exact (Layer.prompt_abandon layer.limiter.prompt a).bind fun _ => Act.prompt_giveBack _

/-- The meter takes in what was reported in no time. -/
theorem prompt_drained {act : Act Rig α} (h : Prompt act) : Prompt (drained act) := h

/-- **No stretch of a job takes time**, and to the contexts it does nothing but add and cancel. -/
theorem prompt_perform (stretch : Stretch Piece Running) : Prompt (stretch.perform tasks) := by
  cases stretch with
  | first piece =>
      have hnumber : Prompt (Act.contextNumbered piece.ctx) := .onRig _
      exact prompt_drained (hnumber.bind fun ctx => prompt_start ctx piece.action)
  | further on wake rest =>
      intro w
      have hmoved : (w.afterPause on wake).now = w.now ∧
          (w.afterPause on wake).contexts = w.contexts := by
        unfold World.afterPause
        split <;> exact ⟨rfl, rfl⟩
      obtain ⟨hnow, hcontexts⟩ := prompt_drained (rest.prompt_next wake) (w.afterPause on wake)
      rw [hmoved.2] at hcontexts
      exact ⟨hnow.trans hmoved.1, hcontexts⟩
  | last rest => exact prompt_drained rest.prompt_leave

/-- **In a scenario nothing else happens during the pause of a job** than what may happen there,
whatever the other jobs are, until the job goes on. -/
theorem meanwhile_proceed (limit n : Nat) {s : Schedule Piece Running Answer} {w : World Rig}
    {i : Nat} {j : Job Piece Running Answer} (hj : s.jobs[i]? = some j) {on : Pause}
    {rest : Running} (hpaused : j.phase = .paused on rest) :
    (∃ m < n, ∃ s' v stretch, Schedule.proceed tasks limit m s w = (s', v) ∧ w.Meanwhile on v ∧
        s'.select? v = some (i, stretch)) ∨
      (Schedule.proceed tasks limit n s w).1.jobs[i]? = some j ∧
        w.Meanwhile on (Schedule.proceed tasks limit n s w).2 :=
  Schedule.meanwhile_proceed prompt_perform limit n hj hpaused

end Running

end Turnstile
