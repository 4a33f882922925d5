/-
**What the calls of a limiter ask of the store.**

A call for a decision makes one decision.  A poll of a wait makes one unless its context is
finished, and the answer says how the poll ends: an admission ends the wait, a denial is followed by
a sleep, an error ends the wait.  Nothing lies between an admission and its report, so what the
store has admitted the caller is told at once.

Main definitions:

* `Visit.within` — the circumstances of a decision in a setting;
* `Wait.Polled` — how a poll ends whose decision is answered.

Main results:

* `SlidingWindow.deals_allowN` — a call for a decision makes one and answers it;
* `Wait.deals_poll` — **a poll makes at most one decision, and ends as this is answered**;
* `SlidingWindow.reset_over` — a reset in a setting.
-/

import Turnstile.Proofs.World.Setting

set_option relaxedAutoImplicit false
set_option autoImplicit false

namespace Turnstile

/-- The circumstances of a decision in a setting. -/
def Visit.within (s : Setting) (clock : ClockSource) (ctx : ContextId) (key : String)
    (n limit : Nat) (window : Duration) : Visit :=
  ⟨s.limiterReading clock, ⟨s.status ctx, s.storeReading⟩, s.backend, key, n, limit, window⟩

/-! ### Worlds that differ in their reports -/

/-- Two worlds differ at most in what was reported. -/
def World.SameButReports {σ : Type} (w w' : World σ) : Prop := ∃ reports, w' = { w with reports }

namespace World.SameButReports

variable {σ : Type} {w w' w'' : World σ}

theorem trans (h : SameButReports w w') (h' : SameButReports w' w'') : SameButReports w w'' := by
  obtain ⟨r, rfl⟩ := h
  obtain ⟨r', rfl⟩ := h'
  exact ⟨r', rfl⟩

theorem observe (w : World σ) (measured : Bool) (o : Observation) :
    SameButReports w (Act.observe measured o w).2 := by
  cases measured with
  | true => exact ⟨_, rfl⟩
  | false => exact ⟨w.reports, rfl⟩

theorem log (w : World σ) (e : LogEvent) : SameButReports w (Act.log e w).2 := ⟨_, rfl⟩

theorem status (h : SameButReports w w') (ctx : ContextId) : w'.status ctx = w.status ctx := by
  obtain ⟨r, rfl⟩ := h
  rfl

theorem now (h : SameButReports w w') : w'.now = w.now := by
  obtain ⟨r, rfl⟩ := h
  rfl

theorem backend (h : SameButReports w w') : w'.backend = w.backend := by
  obtain ⟨r, rfl⟩ := h
  rfl

theorem within {s s' : Setting} (h : SameButReports s s') (clock : ClockSource) (ctx : ContextId)
    (key : String) (n limit : Nat) (window : Duration) :
    Visit.within s' clock ctx key n limit window = Visit.within s clock ctx key n limit window := by
  obtain ⟨r, rfl⟩ := h
  rfl

end World.SameButReports

namespace SlidingWindow

/-! ### Decisions -/

theorem silent_report (l : SlidingWindow) (key : String) (n limit : Nat)
    (result : Except LimiterError Bool) :
    Act.Silent (l.report key n limit result) (l.report key n limit result) := by
  refine (Act.Silent.observe _ _).bind fun _ => ?_
  cases result with
  | ok allowed => exact (Act.Silent.observe _ _).bind fun _ => Act.Silent.log _
  | error e => exact Act.Silent.log _

theorem sameButReports_report (l : SlidingWindow) (key : String) (n limit : Nat)
    (result : Except LimiterError Bool) {σ : Type} (w : World σ) :
    World.SameButReports w (l.report key n limit result w).2 := by
  have hlatency := World.SameButReports.observe w l.measured
    (.latency key Operation.allowN.label .zero)
  cases result with
  | ok allowed =>
      exact hlatency.trans ((World.SameButReports.observe _ l.measured (.request key allowed)).trans
        (World.SameButReports.log _ _))
  | error e => exact hlatency.trans (World.SameButReports.log _ _)

/-- **A call for a decision makes one decision, and answers what was decided.** -/
theorem deals_allowN (l : SlidingWindow) (ctx : ContextId) (key : String) (n limit : Nat)
    (window : Duration) (s : Setting) :
    Act.Deals (l.allowN ctx key n limit window) s (fun _ _ => False)
      fun v answer result s' => v = Visit.within s l.clock ctx key n limit window ∧
        result = answer ∧ ∀ ctx, s'.status ctx = s.status ctx := by
  have hreading : Act.Silent (Act.limiterReading l.clock) (Act.limiterReading l.clock) :=
    fun _ _ => rfl
  have hcall : Act.Deals (Act.callStore ctx fun call =>
      decide (s.limiterReading l.clock) call key n limit window) s (fun _ _ => False)
      fun v answer result s' => v = Visit.within s l.clock ctx key n limit window ∧
        result = answer ∧ ∀ ctx, s'.status ctx = s.status ctx := by
    refine .asks (Visit.within s l.clock ctx key n limit window) (fun answer => (answer, { s with
      backend := (Visit.within s l.clock ctx key n limit window).faultsAfter })) (fun ks => ?_)
      fun answer => ⟨rfl, rfl, fun ctx => rfl⟩
    rw [Act.callStore_over]
    exact congrArg (fun r => (r.1, { s.over ks with backend := r.2 }))
      (Visit.decide_eq_pay (Visit.within s l.clock ctx key n limit window) ks)
  refine Act.Deals.of_silent hreading (hcall.bind (fun result =>
    (silent_report l key n limit result).bind fun _ => Act.Silent.pure result) ?_ ?_)
  · exact fun _ _ h => h.elim
  · rintro v answer result s' ⟨hv, hresult, hstatus⟩
    refine ⟨hv, hresult, fun ctx => ?_⟩
    exact ((sameButReports_report l key n limit result s').status ctx).trans (hstatus ctx)

/-- Such a call answers and leaves what the decision does. -/
theorem on_allowN (l : SlidingWindow) (ctx : ContextId) (key : String) (n limit : Nat)
    (window : Duration) (s : Setting) (ks : Keyspace) :
    (l.allowN ctx key n limit window).on s ks =
      (Visit.within s l.clock ctx key n limit window).pay ks := by
  rcases (l.deals_allowN ctx key n limit window s).on_cases with ⟨a, s', -, h⟩ | ⟨v, f, hrun, h⟩
  · exact h.elim
  · obtain ⟨rfl, hanswer, -⟩ := h (v.pay ks).1
    rw [hrun, hanswer]

/-! ### Resets -/

theorem silent_reportReset (l : SlidingWindow) (key : String) (result : Except LimiterError Unit) :
    Act.Silent (l.reportReset key result) (l.reportReset key result) := by
  refine (Act.Silent.observe _ _).bind fun _ => ?_
  cases result with
  | ok _ => exact Act.Silent.pure _
  | error e => exact Act.Silent.log _

/-- **A reset in a setting**: what bars it is answered, and otherwise the two slots of the key are
emptied. -/
theorem reset_over (l : SlidingWindow) (ctx : ContextId) (key : String) (s : Setting)
    (ks : Keyspace) :
    ∃ s' : Setting, l.reset ctx key (s.over ks) =
      match resetBar? ⟨s.status ctx, s.storeReading⟩ key s.backend with
      | some e => (.error e, s'.over ks)
      | none => (.ok (), s'.over (ks.without key)) := by
  have hread : Act.status ctx (s.over ks) = (s.status ctx, s.over ks) := Act.Silent.status ctx s ks
  unfold reset
  rw [Act.bind_apply, hread]
  cases hstatus : s.status ctx with
  | some cause => exact ⟨s, rfl⟩
  | none =>
      obtain ⟨left, hforget⟩ := forget_holding ⟨none, s.storeReading⟩ key s.backend ks
      simp only [Act.bind_apply, Act.callStore_over, hstatus, hforget]
      cases resetBar? ⟨none, s.storeReading⟩ key s.backend with
      | some e =>
          exact ⟨_, (((silent_reportReset l key (.error e)).bind fun _ => Act.Silent.pure _)
            { s with backend := left } ks)⟩
      | none =>
          exact ⟨_, (((silent_reportReset l key (.ok ())).bind fun _ => Act.Silent.pure _)
            { s with backend := left } (ks.without key))⟩

end SlidingWindow

/-! ### Polls -/

/-- How a poll ends whose decision is answered: with the admission, with a pause that another poll
follows, or with the failure. -/
inductive Wait.Polled (w : Wait) :
    Except LimiterError Bool → Turn Wait (Except LimiterError Unit) → Prop
  | admitted : Polled w (.ok true) (.done (.ok ()))
  | denied (on : Pause) : Polled w (.ok false) (.pause on w)
  | failed (e : LimiterError) : Polled w (.error e) (.done (.error e))

namespace Wait

theorem silent_finish (w : Wait) (result : Except LimiterError Unit) :
    Act.Silent (w.finish result) (w.finish result) := by
  refine (Act.Silent.observe _ _).bind fun _ => (Act.Silent.observe _ _).bind fun _ => ?_
  cases result with
  | ok _ => exact Act.Silent.pure _
  | error e => exact (Act.Silent.log _).bind fun _ => Act.Silent.pure _

theorem finish_answer {σ : Type} (w : Wait) (result : Except LimiterError Unit) (s : World σ) :
    (w.finish result s).1 = .done result := by
  cases result <;> rfl

theorem silent_follow (w : Wait) (answer : Except LimiterError Bool) :
    Act.Silent (w.follow answer) (w.follow answer) := by
  rcases answer with e | _ | _
  · exact silent_finish w (.error e)
  · refine (Act.Silent.log _).bind fun _ => (Act.Silent.sleep _ _ _).bind fun slept => ?_
    cases slept with
    | error cause => exact silent_finish w (.error (.context cause))
    | ok pause => exact Act.Silent.pure _
  · exact silent_finish w (.ok ())

/-- While its context is not finished, a poll goes on as its decision is answered. -/
theorem polled_follow (w : Wait) (answer : Except LimiterError Bool) {s : Setting}
    (hstatus : s.status w.ctx = none) : w.Polled answer (w.follow answer s).1 := by
  rcases answer with e | _ | _
  · exact (finish_answer w (.error e) s).symm ▸ .failed e
  · have hlog := (World.SameButReports.log s (.awaitingCapacity w.key w.cycles)).status w.ctx
    obtain ⟨on, s', hsleep⟩ := Act.sleep_of_status (hlog.trans hstatus) w.limiter.sleeper
      w.limiter.pollInterval
    simp only [follow, Act.bind_apply, hsleep]
    exact .denied on
  · exact (finish_answer w (.ok ()) s).symm ▸ .admitted

/-- **A poll makes at most one decision, and ends as this is answered.** -/
theorem deals_poll (w : Wait) (s : Setting) :
    Act.Deals w.poll s
      (fun turn _ => ∃ cause, s.status w.ctx = some cause ∧ turn = .done (.error (.context cause)))
      fun v answer turn _ => s.status w.ctx = none ∧
        v = Visit.within s w.limiter.clock w.ctx w.key 1 w.limit w.window ∧
        Polled { w with cycles := w.cycles + 1 } answer turn := by
  have hread : Act.status w.ctx s = (s.status w.ctx, s) := rfl
  refine Act.Deals.of_silent (Act.Silent.status w.ctx) ?_
  rw [hread]
  cases hstatus : s.status w.ctx with
  | some cause =>
      exact (silent_finish w _).deals ⟨cause, rfl, finish_answer w _ s⟩
  | none =>
      -- what the poll reports changes neither the clocks nor the contexts
      have hsame := World.SameButReports.observe s w.limiter.measured
        (.waiting w.key (.ofNat (w.cycles + 1)))
      refine Act.Deals.of_silent (Act.Silent.observe _ _) ?_
      refine (SlidingWindow.deals_allowN _ _ _ _ _ _ _).bind (fun answer => silent_follow _ answer)
        (fun _ _ h => h.elim) ?_
      rintro v answer result s' ⟨hv, rfl, hs'⟩
      have hnone : s'.status w.ctx = none := ((hs' w.ctx).trans (hsame.status w.ctx)).trans hstatus
      exact ⟨rfl, hv.trans (hsame.within _ _ _ _ _ _), polled_follow _ result hnone⟩

end Wait

end Turnstile
