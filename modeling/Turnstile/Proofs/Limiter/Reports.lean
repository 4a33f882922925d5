/-
**What is observed of the calls of a limiter.**

A limiter that is measured reports an observation at several places: in a decision, around the
decision of a poll, at the end of a wait and when a wait is given up.  Work only adds to what was
reported before.  So what is observed of a call is what it adds, and of calls put together what they
add one after the other: a decision adds its latency and, if it did not fail, its answer; a poll
adds the size of the wait before its decision; and a stretch that ends a wait adds the size zero and
the latency of the wait at its end, whether it made a decision or not.

Main definitions:

* `World.observed` — the observations reported so far;
* `Act.Adds` — the observations that work adds;
* `SlidingWindow.observedOf`, `Wait.polling`, `Wait.closing` — those of a decision, of a poll and of
  the end of a wait;
* `Wait.Observes` — how a poll ends and what is observed of it.

Main results:

* `Act.Adds.bind` — what work adds that is put together;
* `SlidingWindow.adds_allowN`, `SlidingWindow.adds_reset` — what is observed of a decision and of a
  reset;
* `Wait.observes_poll` — **what is observed of a poll**.
-/

import Turnstile.Proofs.Limiter.Stretch

set_option relaxedAutoImplicit false
set_option autoImplicit false

namespace Turnstile

variable {σ α β : Type}

/-! ### Observations -/

/-- The observation that is reported, if one is. -/
def Report.observation? : Report → Option Observation
  | .observed o => some o
  | .logged _ => none

/-- The observations reported so far, in their order. -/
def World.observed (w : World σ) : List Observation :=
  w.reports.toList.filterMap Report.observation?

namespace Act

/-- The observations that work adds in a world to those reported before. -/
def Adds (act : Act σ α) (w : World σ) (added : List Observation) : Prop :=
  (act w).2.observed = w.observed ++ added

variable {w : World σ} {added more : List Observation}

/-- Work that reports nothing adds nothing. -/
theorem Adds.of_reports {act : Act σ α} (h : (act w).2.reports = w.reports) : Adds act w [] := by
  rw [Adds, World.observed, h, List.append_nil]
  rfl

theorem Adds.pure (a : α) : Adds (Pure.pure a : Act σ α) w [] := .of_reports rfl

/-- Work that is put together adds what its parts add, one after the other. -/
theorem Adds.bind {act : Act σ α} {k : α → Act σ β} (h : Adds act w added)
    (hk : Adds (k (act w).1) (act w).2 more) : Adds (act >>= k) w (added ++ more) := by
  rw [Adds, bind_apply, hk, h, List.append_assoc]

/-- Work before that adds nothing. -/
theorem Adds.after {act : Act σ α} {k : α → Act σ β} (h : Adds act w [])
    (hk : Adds (k (act w).1) (act w).2 added) : Adds (act >>= k) w added := h.bind hk

/-- Work afterwards that adds nothing. -/
theorem Adds.before {act : Act σ α} {k : α → Act σ β} (h : Adds act w added)
    (hk : Adds (k (act w).1) (act w).2 []) : Adds (act >>= k) w added := by
  have hboth := h.bind hk
  rw [List.append_nil] at hboth
  exact hboth

/-- An event that is logged is no observation. -/
theorem adds_log (e : LogEvent) (w : World σ) : Adds (Act.log e) w [] := by
  simp [Adds, Act.log, World.observed, Report.observation?]

theorem adds_observe (o : Observation) (w : World σ) : Adds (Act.observe true o) w [o] := by
  simp [Adds, Act.observe, World.observed, Report.observation?]

theorem reports_pace (d : Duration) (w : World σ) : (Act.pace d w).2.reports = w.reports := by
  unfold Act.pace
  cases h : w.pacer.cancelAt with
  | none => simp [h]
  | some turn => by_cases hturn : w.pacer.requested + 1 = turn.1 <;> simp [h, hturn]

theorem reports_beginSleep (ctx : Option ContextId) (sleeper : Sleeper) (d : Duration)
    (w : World σ) : (Act.beginSleep ctx sleeper d w).2.reports = w.reports := by
  cases sleeper with
  | timer => rfl
  | instant => rfl
  | tracking journal => rfl
  | ticking => exact reports_pace d w
  | manual =>
      rw [Act.beginSleep, bind_apply, ← reports_pace d w]
      cases (ctx.bind (Act.pace d w).2.status).isSome <;> rfl

/-- To fall asleep adds nothing. -/
theorem adds_sleep (ctx : ContextId) (sleeper : Sleeper) (d : Duration) (w : World σ) :
    Adds (Act.sleep ctx sleeper d) w [] := by
  refine .after (.of_reports rfl) ?_
  cases (Act.status ctx w).1 with
  | some cause => exact .pure _
  | none => exact .after (.of_reports (reports_beginSleep ..)) (.pure _)

end Act

/-! ### Decisions and resets -/

namespace SlidingWindow

/-- What is observed of a decision about a key: its latency, and its answer if it did not fail. -/
def observedOf (key : String) : Except LimiterError Bool → List Observation
  | .ok allowed => [.latency key Operation.allowN.label .zero, .request key allowed]
  | .error _ => [.latency key Operation.allowN.label .zero]

variable {l : SlidingWindow}

theorem adds_report (h : l.measured = true) (key : String) (n limit : Nat)
    (result : Except LimiterError Bool) (w : World σ) :
    Act.Adds (l.report key n limit result) w (observedOf key result) := by
  unfold report
  rw [h]
  cases result with
  | ok allowed =>
      exact (Act.adds_observe _ w).bind ((Act.adds_observe _ _).before (Act.adds_log _ _))
  | error e => exact (Act.adds_observe _ w).before (Act.adds_log _ _)

/-- A call for a decision adds what is observed of its answer. -/
theorem adds_allowN [Backend σ] (h : l.measured = true) (ctx : ContextId) (key : String)
    (n limit : Nat) (window : Duration) (w : World σ) :
    Act.Adds (l.allowN ctx key n limit window) w
      (observedOf key (l.allowN ctx key n limit window w).1) := by
  have hreading : Act.Adds (Act.limiterReading l.clock) w [] := .of_reports rfl
  have hcall (call : Call → σ → Except LimiterError Bool × σ) :
      Act.Adds (Act.callStore ctx call) w [] := .of_reports rfl
  exact hreading.after ((hcall _).after ((adds_report h key n limit _ _).before (.pure _)))

/-- A reset adds its latency, if its context is live. -/
theorem adds_reset [Backend σ] (h : l.measured = true) (ctx : ContextId) (key : String)
    (w : World σ) :
    Act.Adds (l.reset ctx key) w
      (if (w.status ctx).isNone then [.latency key Operation.reset.label .zero] else []) := by
  have hread : Act.status ctx w = (w.status ctx, w) := rfl
  have hstatus : Act.Adds (Act.status ctx) w [] := .of_reports rfl
  refine hstatus.after ?_
  rw [hread]
  cases w.status ctx with
  | some cause => exact .pure _
  | none =>
      have hcall (call : Call → σ → Except LimiterError Unit × σ) :
          Act.Adds (Act.callStore ctx call) w [] := .of_reports rfl
      refine (hcall _).after (.before ?_ (.pure _))
      unfold reportReset
      rw [h]
      refine (Act.adds_observe _ _).before ?_
      cases (Act.callStore ctx (fun call => forget call key) w).1 with
      | ok _ => exact .pure _
      | error e => exact Act.adds_log _ _

end SlidingWindow

/-! ### Waits -/

namespace Wait

/-- What is observed of a poll whose decision is answered: the size of the wait, and the
decision. -/
def polling (w : Wait) (answer : Except LimiterError Bool) : List Observation :=
  .waiting w.key (.ofNat (w.cycles + 1)) :: SlidingWindow.observedOf w.key answer

/-- What is observed at the end of a wait. -/
def closing (w : Wait) : List Observation :=
  [.waiting w.key .zero, .latency w.key Operation.wait.label .zero]

variable {w : Wait}

theorem adds_finish (h : w.limiter.measured = true) (result : Except LimiterError Unit)
    (v : World σ) : Act.Adds (w.finish result) v w.closing := by
  unfold finish
  rw [h]
  refine (Act.adds_observe _ v).bind ((Act.adds_observe _ _).before ?_)
  cases result with
  | ok _ => exact .pure _
  | error e => exact (Act.adds_log _ _).after (.pure _)

/-- What follows the sleep after a denial: the wait ends if its context is finished by then. -/
def rested (w : Wait) :
    Except ContextError Pause → Act σ (Turn Wait (Except LimiterError Unit))
  | .error cause => w.finish (.error (.context cause))
  | .ok pause => return .pause pause w

theorem adds_rested (h : w.limiter.measured = true) (slept : Except ContextError Pause)
    (v : World σ) :
    (∃ result, (w.rested slept v).1 = .done result ∧ Act.Adds (w.rested slept) v w.closing) ∨
      ∃ on, (w.rested slept v).1 = .pause on w ∧ Act.Adds (w.rested slept) v [] := by
  cases slept with
  | error cause => exact Or.inl ⟨_, w.finish_answer _ v, adds_finish h _ v⟩
  | ok pause => exact Or.inr ⟨pause, rfl, .pure _⟩

/-- What follows the decision of a poll ends the wait and closes it, or leaves it as it is and adds
nothing. -/
theorem adds_follow (h : w.limiter.measured = true) (answer : Except LimiterError Bool)
    (v : World σ) :
    (∃ result, (w.follow answer v).1 = .done result ∧ Act.Adds (w.follow answer) v w.closing) ∨
      ∃ on, (w.follow answer v).1 = .pause on w ∧ Act.Adds (w.follow answer) v [] := by
  rcases answer with e | _ | _
  · exact Or.inl ⟨_, w.finish_answer (.error e) v, adds_finish h _ v⟩
  · -- the wait sleeps, unless its context is finished by then
    have hlog := Act.adds_log (.awaitingCapacity w.key w.cycles) v
    have hsleep := Act.adds_sleep w.ctx w.limiter.sleeper w.limiter.pollInterval
      (Act.log (.awaitingCapacity w.key w.cycles) v).2
    rcases adds_rested h _ _ with ⟨result, hended, hadds⟩ | ⟨on, hpaused, hadds⟩
    · exact Or.inl ⟨result, hended, hlog.after (hsleep.after hadds)⟩
    · exact Or.inr ⟨on, hpaused, hlog.after (hsleep.after hadds)⟩
  · exact Or.inl ⟨_, w.finish_answer (.ok ()) v, adds_finish h _ v⟩

/-- A wait that is given up adds the size zero. -/
theorem adds_abandon (h : w.limiter.measured = true) (v : World σ) :
    Act.Adds w.abandon v [.waiting w.key .zero] := by
  unfold abandon
  rw [h]
  exact Act.adds_observe _ v

/-- The decision of a poll, if its context is live. -/
def visit? (w : Wait) (s : Setting) : Option Visit :=
  if (s.status w.ctx).isNone then
    some (Visit.within s w.limiter.clock w.ctx w.key 1 w.limit w.window)
  else none

/-- How a stretch of a wait ends whose decision, if it makes one, is answered so, and what is
observed of it: another poll follows, or the wait has ended with this one, or without it. -/
inductive Observes (w : Wait) :
    Option (Except LimiterError Bool) → Turn Wait (Except LimiterError Unit) →
      List Observation → Prop
  | asleep (answer : Except LimiterError Bool) (on : Pause) :
      Observes w (some answer) (.pause on { w with cycles := w.cycles + 1 }) (w.polling answer)
  | ended (answer : Except LimiterError Bool) (result : Except LimiterError Unit) :
      Observes w (some answer) (.done result) (w.polling answer ++ w.closing)
  | finished (result : Except LimiterError Unit) : Observes w none (.done result) w.closing

/-- The end of a wait outside of a poll. -/
theorem observes_finish (h : w.limiter.measured = true) (result : Except LimiterError Unit)
    (v : World σ) :
    ∃ added, Act.Adds (w.finish result) v added ∧ w.Observes none (w.finish result v).1 added :=
  ⟨w.closing, adds_finish h result v, (w.finish_answer result v).symm ▸ .finished result⟩

/-- **What is observed of a poll.** -/
theorem observes_poll (h : w.limiter.measured = true) (s : Setting) (ks : Keyspace) :
    ∃ added, Act.Adds w.poll (s.over ks) added ∧
      w.Observes ((w.visit? s).map fun v => (v.pay ks).1) (w.poll (s.over ks)).1 added := by
  have hread : Act.status w.ctx (s.over ks) = (s.status w.ctx, s.over ks) :=
    Act.Silent.status w.ctx s ks
  have hstatus : Act.Adds (Act.status w.ctx) (s.over ks) [] := .of_reports rfl
  cases hfinished : s.status w.ctx with
  | some cause =>
      rw [hfinished] at hread
      obtain ⟨added, hadds, hobserves⟩ := observes_finish h (.error (.context cause)) (s.over ks)
      refine ⟨added, hstatus.after ?_, ?_⟩
      · rw [hread]
        exact hadds
      · have hnone : w.visit? s = none := by simp [visit?, hfinished]
        rw [hnone, poll, Act.bind_apply, hread]
        exact hobserves
  | none =>
      rw [hfinished] at hread
      let size : Observation := .waiting w.key (.ofNat (w.cycles + 1))
      let s' : Setting := (Act.observe w.limiter.measured size s).2
      -- what the poll reports before its decision does not change this
      have hsize : Act.observe w.limiter.measured size (s.over ks) = ((), s'.over ks) :=
        Act.Silent.observe w.limiter.measured size s ks
      have hvisit : w.visit? s =
          some (Visit.within s' w.limiter.clock w.ctx w.key 1 w.limit w.window) := by
        rw [(World.SameButReports.observe s w.limiter.measured size).within]
        simp [visit?, hfinished]
      let asked := w.limiter.allowN w.ctx w.key 1 w.limit w.window (s'.over ks)
      have hanswer : asked.1 =
          ((Visit.within s' w.limiter.clock w.ctx w.key 1 w.limit w.window).pay ks).1 :=
        congrArg Prod.fst (w.limiter.on_allowN w.ctx w.key 1 w.limit w.window s' ks)
      have hpoll : w.poll (s.over ks) =
          { w with cycles := w.cycles + 1 }.follow asked.1 asked.2 := by
        rw [poll, Act.bind_apply, hread]
        simp only [Act.bind_apply]
        rw [hsize]
      have hopening : Act.Adds (Act.observe w.limiter.measured size) (s.over ks) [size] := by
        rw [h]
        exact Act.adds_observe size (s.over ks)
      have hdecision : Act.Adds (w.limiter.allowN w.ctx w.key 1 w.limit w.window)
          (Act.observe w.limiter.measured size (s.over ks)).2
          (SlidingWindow.observedOf w.key asked.1) := by
        rw [hsize]
        exact SlidingWindow.adds_allowN h w.ctx w.key 1 w.limit w.window (s'.over ks)
      have hadds {more : List Observation}
          (hmore : Act.Adds ({ w with cycles := w.cycles + 1 }.follow asked.1) asked.2 more) :
          Act.Adds w.poll (s.over ks) (w.polling asked.1 ++ more) := by
        refine hstatus.after ?_
        rw [hread]
        refine hopening.bind (hdecision.bind ?_)
        rw [hsize]
        exact hmore
      rw [hvisit, Option.map_some, ← hanswer, hpoll]
      rcases adds_follow (w := { w with cycles := w.cycles + 1 }) h asked.1 asked.2 with
        ⟨result, hended, hmore⟩ | ⟨on, hpaused, hmore⟩
      · exact ⟨_, hadds hmore, hended.symm ▸ .ended asked.1 result⟩
      · refine ⟨_, hadds hmore, ?_⟩
        rw [hpaused, List.append_nil]
        exact .asleep asked.1 on

end Wait

end Turnstile
