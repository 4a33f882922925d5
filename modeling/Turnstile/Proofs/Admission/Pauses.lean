/-
**Where a retried wait pauses.**

A wait sleeps between two polls, and a retry policy sleeps between two attempts.  Both sleeps are on
behalf of the one context of the request, and neither begins when this is finished: then the answer
is that the context is finished, and no policy makes another attempt after such an answer.  The work
between two sleeps takes no time.

Main definitions:

* `Act.KeepsTime` — work that takes no time and leaves the contexts alone;
* `Turn.Timely`, `Act.Timely` — a stretch that tells that its context is finished, and pauses only
  while it is live;
* `Steps.Timely` — an operation that sleeps for one delay, again and again;
* `Retrying.Asleep` — where a run sleeps: within an attempt, or after one that is not the last;
* `Retrying.stage`, `Retrying.Along` — how far a run has got.

Main results:

* `Wait.timely_start`, `Wait.timely_resume` — a wait tells that its context is finished, and else
  sleeps for the poll interval or ends;
* `RetryPolicy.timely_settle` — **no attempt follows when the context is finished**;
* `RetryPolicy.timely_start`, `RetryPolicy.timely_resume` — the stretches of a retried operation,
  each of which **gets on**: its sleep is later than the one before, or at a later stage.
-/

import Turnstile.Proofs.Admission.Attempt
import Turnstile.Proofs.World.Meanwhile

set_option relaxedAutoImplicit false
set_option autoImplicit false

namespace Turnstile

variable {σ α β κ κ' : Type} {ctx : ContextId}

/-! ### Work that takes no time -/

namespace Act

/-- Work that takes no time and leaves the contexts alone. -/
def KeepsTime (act : Act σ α) : Prop :=
  ∀ w, (act w).2.now = w.now ∧ (act w).2.contexts = w.contexts

namespace KeepsTime

theorem pure (a : α) : KeepsTime (Pure.pure a : Act σ α) := fun _ => ⟨rfl, rfl⟩

theorem bind {act : Act σ α} {k : α → Act σ β} (h : KeepsTime act) (hk : ∀ a, KeepsTime (k a)) :
    KeepsTime (act >>= k) := fun w => by
  rw [bind_apply]
  exact ⟨(hk _ _).1.trans (h w).1, (hk _ _).2.trans (h w).2⟩

/-- Work that takes no time finishes no context. -/
theorem status_eq {act : Act σ α} (h : KeepsTime act) (w : World σ) (ctx : ContextId) :
    (act w).2.status ctx = w.status ctx := by
  rw [World.status, (h w).1, (h w).2, World.status]

/-- To report takes no time. -/
theorem of_sameButReports {act : Act σ α}
    (h : ∀ w, World.SameButReports w (act w).2) : KeepsTime act := fun w => by
  obtain ⟨reports, hw⟩ := h w
  rw [hw]
  exact ⟨rfl, rfl⟩

theorem log (e : LogEvent) : KeepsTime (Act.log e : Act σ _) :=
  of_sameButReports fun w => .log w e

theorem observe (measured : Bool) (o : Observation) :
    KeepsTime (Act.observe measured o : Act σ _) :=
  of_sameButReports fun w => .observe w measured o

end KeepsTime

/-- A sleep in virtual time pauses while its context is live. -/
theorem sleep_timer {w : World σ} (h : w.status ctx = none) (d : Duration) :
    Act.sleep ctx .timer d w = (.ok (.asleep ctx w.now d), w) := by
  have hstatus : Act.status ctx w = (none, w) := by rw [Act.status, h]
  unfold Act.sleep
  rw [bind_apply, hstatus]
  rfl

end Act

/-! ### Stretches of work on behalf of a context -/

/-- A stretch of work on behalf of a context, which is finished or not: if it ends it tells that
the context is finished, and if it pauses the context is live and `P` says where. -/
def Turn.Timely (finished : Option ContextError) (P : Pause → κ → Prop) :
    Turn κ (Except LimiterError α) → Prop
  | .done answer => ∀ cause, finished = some cause → answer = .error (.context cause)
  | .pause on rest => finished = none ∧ P on rest

namespace Turn

variable {finished : Option ContextError} (P : Pause → κ → Prop)

/-- While the context is live any answer will do. -/
theorem timely_live (h : finished = none) (answer : Except LimiterError α) :
    (done answer : Turn κ _).Timely finished P := fun cause hcause => by
  rw [h] at hcause
  exact absurd hcause.symm (Option.some_ne_none cause)

/-- It may be told that the context is finished if it is. -/
theorem timely_finished {cause : ContextError} (h : finished = some cause) :
    (done (.error (.context cause)) : Turn κ (Except LimiterError α)).Timely finished P :=
  fun cause' hcause => by rw [Option.some.inj (h.symm.trans hcause)]

end Turn

/-- The stretch takes no time, and ends as it should on behalf of a context. -/
structure Act.Timely (act : Act σ (Turn κ (Except LimiterError α))) (ctx : ContextId)
    (P : Pause → κ → Prop) (w : World σ) : Prop where
  now : (act w).2.now = w.now
  contexts : (act w).2.contexts = w.contexts
  turn : (act w).1.Timely (w.status ctx) P

namespace Act

variable {P : Pause → κ → Prop} {P' : Pause → κ' → Prop} {w : World σ}

theorem Timely.pure {turn : Turn κ (Except LimiterError α)} (h : turn.Timely (w.status ctx) P) :
    (Pure.pure turn : Act σ _).Timely ctx P w := ⟨rfl, rfl, h⟩

/-- Work that only ends. -/
theorem KeepsTime.timely {act : Act σ (Turn κ (Except LimiterError α))} (h : KeepsTime act)
    {answer : Except LimiterError α} (hdone : (act w).1 = .done answer)
    (htold : (Turn.done answer).Timely (w.status ctx) P) : act.Timely ctx P w :=
  ⟨(h w).1, (h w).2, hdone ▸ htold⟩

/-- Work before that takes no time. -/
theorem KeepsTime.timely_bind {act : Act σ β} {k : β → Act σ (Turn κ (Except LimiterError α))}
    (h : KeepsTime act) (hk : (k (act w).1).Timely ctx P (act w).2) :
    (act >>= k).Timely ctx P w :=
  ⟨hk.now.trans (h w).1, hk.contexts.trans (h w).2, h.status_eq w ctx ▸ hk.turn⟩

theorem Timely.mono {act : Act σ (Turn κ (Except LimiterError α))} {P' : Pause → κ → Prop}
    (h : act.Timely ctx P w) (hP : ∀ on rest, w.status ctx = none → P on rest → P' on rest) :
    act.Timely ctx P' w := by
  obtain ⟨hnow, hcontexts, hturn⟩ := h
  refine ⟨hnow, hcontexts, ?_⟩
  cases hact : (act w).1 with
  | done answer =>
      rw [hact] at hturn
      exact hturn
  | pause on rest =>
      rw [hact] at hturn
      exact ⟨hturn.1, hP on rest hturn.1 hturn.2⟩

/-- Work before that only reads. -/
theorem Timely.of_reads {act : Act σ β} {k : β → Act σ (Turn κ (Except LimiterError α))} {b : β}
    (h : act w = (b, w)) (hk : (k b).Timely ctx P w) : (act >>= k).Timely ctx P w := by
  obtain ⟨hnow, hcontexts, hturn⟩ := hk
  constructor <;> rwa [bind_apply, h]

/-- Work afterwards, which depends on how the stretch before has ended. -/
theorem Timely.bind {act : Act σ (Turn κ (Except LimiterError α))}
    {k : Turn κ (Except LimiterError α) → Act σ (Turn κ' (Except LimiterError β))}
    (h : act.Timely ctx P w) (hk : ∀ turn (v : World σ), v.now = w.now →
      turn.Timely (v.status ctx) P → (k turn).Timely ctx P' v) :
    (act >>= k).Timely ctx P' w := by
  have hstatus : (act w).2.status ctx = w.status ctx := by
    rw [World.status, h.now, h.contexts, World.status]
  have hafter := hk (act w).1 (act w).2 h.now (hstatus ▸ h.turn)
  exact ⟨hafter.now.trans h.now, hafter.contexts.trans h.contexts, hstatus ▸ hafter.turn⟩

end Act

/-! ### Waits -/

theorem SlidingWindow.keepsTime_allowN [Backend σ] (l : SlidingWindow) (ctx : ContextId)
    (key : String) (n limit : Nat) (window : Duration) :
    Act.KeepsTime (l.allowN ctx key n limit window : Act σ _) := fun w => by
  obtain ⟨w', ⟨reports, rfl⟩, hanswer⟩ := l.allowN_world ctx key n limit window w
  rw [hanswer]
  exact ⟨rfl, rfl⟩

namespace Wait

variable {l : SlidingWindow} {v : World σ}

/-- What is left of a wait of a limiter on behalf of a context. -/
structure Of (w : Wait) (l : SlidingWindow) (ctx : ContextId) : Prop where
  limiter : w.limiter = l
  ctx : w.ctx = ctx

/-- Where a wait sleeps: until the next poll. -/
def Asleep (l : SlidingWindow) (ctx : ContextId) (now : Nat) (on : Pause) (w : Wait) : Prop :=
  on = .asleep ctx now l.pollInterval ∧ w.Of l ctx

theorem keepsTime_finish (w : Wait) (result : Except LimiterError Unit) :
    Act.KeepsTime (w.finish result : Act σ _) := by
  refine (Act.KeepsTime.observe _ _).bind fun _ => (Act.KeepsTime.observe _ _).bind fun _ => ?_
  cases result with
  | ok _ => exact .pure _
  | error e => exact (Act.KeepsTime.log _).bind fun _ => .pure _

theorem timely_finish (w : Wait) {result : Except LimiterError Unit} {P : Pause → Wait → Prop}
    (h : (Turn.done result).Timely (v.status ctx) P) : (w.finish result).Timely ctx P v :=
  (w.keepsTime_finish result).timely (w.finish_answer result v) h

/-- A poll whose context is live ends, or sleeps until the next one. -/
theorem timely_follow {w : Wait} (hw : w.Of l ctx) (htimer : l.sleeper = .timer)
    (answer : Except LimiterError Bool) (hlive : v.status ctx = none) :
    (w.follow answer).Timely ctx (Asleep l ctx v.now) v := by
  obtain ⟨rfl, rfl⟩ := hw
  rcases answer with e | _ | _
  · exact w.timely_finish (Turn.timely_live _ hlive (.error e))
  · refine (Act.KeepsTime.log _).timely_bind ?_
    have hlive' : (Act.log (.awaitingCapacity w.key w.cycles) v).2.status w.ctx = none := hlive
    rw [htimer]
    exact .of_reads (Act.sleep_timer hlive' _) (.pure ⟨hlive, rfl, rfl, rfl⟩)
  · exact w.timely_finish (Turn.timely_live _ hlive (.ok ()))

theorem timely_poll [Backend σ] {w : Wait} (hw : w.Of l ctx) (htimer : l.sleeper = .timer)
    (v : World σ) : w.poll.Timely ctx (Asleep l ctx v.now) v := by
  obtain ⟨rfl, rfl⟩ := hw
  have hread : Act.status w.ctx v = (v.status w.ctx, v) := rfl
  refine .of_reads hread ?_
  cases hstatus : v.status w.ctx with
  | some cause => exact w.timely_finish (Turn.timely_finished _ hstatus)
  | none =>
      -- neither the report of the poll nor the decision takes any time
      have hreport : Act.KeepsTime (Act.observe w.limiter.measured
          (.waiting w.key (.ofNat (w.cycles + 1))) : Act σ _) := .observe _ _
      have hasks : Act.KeepsTime (w.limiter.allowN w.ctx w.key 1 w.limit w.window : Act σ _) :=
        w.limiter.keepsTime_allowN w.ctx w.key 1 w.limit w.window
      refine hreport.timely_bind (hasks.timely_bind ?_)
      have hnow := (hasks _).1.trans (hreport v).1
      have hsame : Of { w with cycles := w.cycles + 1 } w.limiter w.ctx := ⟨rfl, rfl⟩
      rw [← hnow]
      exact timely_follow hsame htimer _
        ((hasks.status_eq _ w.ctx).trans ((hreport.status_eq v w.ctx).trans hstatus))

/-- A wait tells that its context is finished, and else ends or sleeps for the poll interval, -/
theorem timely_start [Backend σ] (htimer : l.sleeper = .timer) (ctx : ContextId) (key : String)
    (limit : Nat) (window : Duration) (v : World σ) :
    (Wait.start l ctx key limit window).Timely ctx (Asleep l ctx v.now) v :=
  timely_poll ⟨rfl, rfl⟩ htimer v

/-- and so it does after a sleep. -/
theorem timely_resume [Backend σ] {w : Wait} (hw : w.Of l ctx) (htimer : l.sleeper = .timer)
    {now : Nat} {d : Duration} {wake : Wake} (hwake : v.wake? (.asleep ctx now d) = some wake) :
    (w.resume wake).Timely ctx (Asleep l ctx v.now) v := by
  rcases World.wake?_asleep hwake with ⟨cause, hcause, rfl⟩ | ⟨-, rfl, -⟩
  · exact w.timely_finish (Turn.timely_finished _ hcause)
  · exact timely_poll hw htimer v

end Wait

/-! ### Retried operations -/

/-- Whatever an operation does is on behalf of a context, and where it pauses it sleeps for one
delay; `P` holds of what is left of it then. -/
structure Steps.Timely (op : Steps σ κ α) (ctx : ContextId) (d : Duration) (P : κ → Prop) :
    Prop where
  call : ∀ n w, (op.call n).Timely ctx (fun on rest => on = .asleep ctx w.now d ∧ P rest) w
  resume : ∀ {rest wake} {w : World σ} {now : Nat}, P rest →
    w.wake? (.asleep ctx now d) = some wake →
    (op.resume rest wake).Timely ctx (fun on rest => on = .asleep ctx w.now d ∧ P rest) w

/-- Where a run sleeps that began to sleep at an instant in its `n`-th attempt, or after it if
another one is left. -/
inductive Retrying.Asleep (p : RetryPolicy) (ctx : ContextId) (now : Nat) (d : Duration)
    (P : κ → Prop) (n : Nat) : Pause → Retrying κ → Prop
  | calling {rest : κ} (h : P rest) : Asleep p ctx now d P n (.asleep ctx now d) (.calling n rest)
  | backingOff (delay : Duration) (h : n < p.maxAttempts) :
      Asleep p ctx now d P n (.asleep ctx now delay) (.backingOff n)

/-- How far a run has got: every attempt is a stage, and so is the sleep after it. -/
def Retrying.stage : Retrying κ → Nat
  | .calling n _ => 2 * n
  | .backingOff n => 2 * n + 1

theorem Retrying.stage_calling (n : Nat) (rest : κ) : (calling n rest).stage = 2 * n := rfl

theorem Retrying.stage_backingOff (n : Nat) : (backingOff n : Retrying κ).stage = 2 * n + 1 := rfl

/-- A run sleeps in one of its attempts, or after it, and has got at least so far: it gets on in its
stages or in time. -/
def Retrying.Along (p : RetryPolicy) (ctx : ContextId) (d : Duration) (P : κ → Prop)
    (far now : Nat) (on : Pause) (run : Retrying κ) : Prop :=
  ∃ n ≤ max 1 p.maxAttempts, run.Asleep p ctx now d P n on ∧ far ≤ run.stage + now

namespace Retrying

variable {p : RetryPolicy} {now n far : Nat} {d : Duration} {P : κ → Prop} {on : Pause}
  {run : Retrying κ}

theorem Asleep.le_stage (h : run.Asleep p ctx now d P n on) : 2 * n ≤ run.stage := by
  cases h with
  | calling _ => exact Nat.le_refl _
  | backingOff _ _ => exact Nat.le_succ _

theorem Along.exists_asleep (h : run.Along p ctx d P far now on) :
    ∃ delay, on = .asleep ctx now delay := by
  obtain ⟨n, -, hasleep, -⟩ := h
  cases hasleep with
  | calling _ => exact ⟨d, rfl⟩
  | backingOff delay _ => exact ⟨delay, rfl⟩

/-- The attempts limit the stages of a run, so that only time lets it get on for ever. -/
theorem Along.far_le (h : run.Along p ctx d P far now on) :
    far ≤ 2 * max 1 p.maxAttempts + now := by
  obtain ⟨n, hn, hasleep, hfar⟩ := h
  refine Nat.le_trans hfar (Nat.add_le_add_right ?_ now)
  cases hasleep with
  | calling _ => exact Nat.mul_le_mul_left 2 hn
  | backingOff _ hlast =>
      rw [stage_backingOff]
      omega

end Retrying

namespace RetryPolicy

variable {p : RetryPolicy} {op : Steps σ κ α} {d : Duration} {P : κ → Prop} {w : World σ}

theorem keepsTime_giveUp (p : RetryPolicy) (n : Nat) (e : LimiterError) :
    Act.KeepsTime (p.giveUp n e : Act σ (Turn (Retrying κ) (Except _ α))) := by
  unfold giveUp
  split
  · exact (Act.KeepsTime.log _).bind fun _ => .pure _
  · exact .pure _

/-- After an attempt that is not the last a policy sleeps. -/
theorem timely_backOff (htimer : p.sleeper = .timer) {n : Nat} (hn : n < p.maxAttempts)
    (e : LimiterError) (hlive : w.status ctx = none) :
    (p.backOff ctx n e : Act σ (Turn (Retrying κ) (Except _ α))).Timely ctx
      (Retrying.Asleep p ctx w.now d P n) w := by
  have hjitter : Act.KeepsTime (Act.jittered p.jitter (p.backoff.delay n) : Act σ _) :=
    fun _ => ⟨rfl, rfl⟩
  refine hjitter.timely_bind ((Act.KeepsTime.log _).timely_bind ?_)
  -- neither the jitter nor the log finishes a context
  have hlive' : (Act.log (.retrying n (Act.jittered p.jitter (p.backoff.delay n) w).1 e)
    (Act.jittered p.jitter (p.backoff.delay n) w).2).2.status ctx = none := hlive
  rw [htimer]
  refine .of_reads (Act.sleep_timer hlive' _) ?_
  exact .pure ⟨hlive, .backingOff _ hn⟩

/-- **No attempt follows when the context is finished**: that it is, is the answer then, and no
policy tries again after this one. -/
theorem timely_settle (htimer : p.sleeper = .timer) (n : Nat) {answer : Except LimiterError α}
    (htold : ∀ cause, w.status ctx = some cause → answer = .error (.context cause)) :
    (p.settle ctx n answer).Timely ctx (Retrying.Asleep p ctx w.now d P n) w := by
  cases answer with
  | ok a => exact .pure htold
  | error e =>
      cases hretry : e.isRetryable with
      | false =>
          simp only [settle, hretry, Bool.not_false, if_true]
          exact .pure htold
      | true =>
          have hlive : w.status ctx = none := by
            cases hstatus : w.status ctx with
            | none => rfl
            | some cause =>
                rw [Except.error.inj (htold cause hstatus)] at hretry
                exact absurd hretry Bool.false_ne_true
          simp only [settle, hretry, Bool.not_true, Bool.false_eq_true, if_false]
          split
          · exact (p.keepsTime_giveUp n e).timely (p.giveUp_answer n e w) htold
          · exact timely_backOff htimer (Nat.lt_of_not_le ‹_›) e hlive

theorem timely_follow (htimer : p.sleeper = .timer) (n : Nat)
    {turn : Turn κ (Except LimiterError α)}
    (h : turn.Timely (w.status ctx) fun on rest => on = .asleep ctx w.now d ∧ P rest) :
    (p.follow ctx n turn).Timely ctx (Retrying.Asleep p ctx w.now d P n) w := by
  cases turn with
  | done answer => exact timely_settle htimer n h
  | pause on rest =>
      obtain ⟨hlive, rfl, hrest⟩ := h
      exact .pure ⟨hlive, .calling hrest⟩

theorem timely_attempt (htimer : p.sleeper = .timer) (hop : op.Timely ctx d P) (n : Nat)
    (w : World σ) :
    (p.attempt ctx op n).Timely ctx (Retrying.Asleep p ctx w.now d P n) w :=
  (hop.call n w).bind fun _ v hnow hturn => by
    rw [← hnow] at hturn ⊢
    exact timely_follow htimer n hturn

/-- The first stretch of a run. -/
theorem timely_start (htimer : p.sleeper = .timer) (hop : op.Timely ctx d P) (w : World σ) :
    (p.start ctx op).Timely ctx (Retrying.Along p ctx d P 0 w.now) w :=
  (timely_attempt htimer hop 1 w).mono fun _ _ _ hasleep =>
    ⟨1, Nat.le_max_left .., hasleep, Nat.zero_le _⟩

/-- **A run gets on.**  What ends a sleep is that the context is finished, and then the run ends, or
the timer; then the next sleep, if there is one, is later in the same attempt or after it. -/
theorem timely_resume (htimer : p.sleeper = .timer) (hop : op.Timely ctx d P) (hd : 0 < d.nanos)
    {far now : Nat} {on : Pause} {run : Retrying κ} (h : run.Along p ctx d P far now on)
    {wake : Wake} (hwake : w.wake? on = some wake) :
    (p.resume ctx op run wake).Timely ctx (Retrying.Along p ctx d P (far + 1) w.now) w := by
  obtain ⟨n, hn, hasleep, hfar⟩ := h
  cases hasleep with
  | @calling rest hrest =>
      have hnext : (p.resume ctx op (.calling n rest) wake).Timely ctx
          (Retrying.Asleep p ctx w.now d P n) w :=
        (hop.resume hrest hwake).bind fun _ v hnow hturn => by
          rw [← hnow] at hturn ⊢
          exact timely_follow htimer n hturn
      refine hnext.mono fun on' run' hlive hasleep => ⟨n, hn, hasleep, ?_⟩
      rcases World.wake?_asleep hwake with ⟨cause, hcause, -⟩ | ⟨-, -, htime⟩
      · exact nomatch hlive.symm.trans hcause
      · have hstage : 2 * n ≤ run'.stage := hasleep.le_stage
        rw [Retrying.stage_calling] at hfar
        omega
  | backingOff delay hlast =>
      rcases World.wake?_asleep hwake with ⟨cause, hcause, rfl⟩ | ⟨-, rfl, htime⟩
      · exact .pure (Turn.timely_finished _ hcause)
      · refine (timely_attempt htimer hop (n + 1) w).mono fun on' run' _ hasleep =>
          ⟨n + 1, Nat.le_trans hlast (Nat.le_max_right ..), hasleep, ?_⟩
        have hstage : 2 * (n + 1) ≤ run'.stage := hasleep.le_stage
        rw [Retrying.stage_backingOff] at hfar
        omega

end RetryPolicy

end Turnstile
