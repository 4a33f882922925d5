/-
**One attempt to decide a request.**

In reject mode a layer asks its limiter for one decision, and its retry policy says what follows the
answer: the end, or a sleep after which the next attempt is made.  An attempt makes exactly one call
of the store, whatever this store is.  All the rest, the reports, the jitter and the sleep, leaves
the store as the call left it.  So of a stretch there are only two things to know: what the limiter
decides on the store that it finds, and what the policy makes of it.

Main definitions:

* `Act.KeepsStore` — work that leaves the store as it is.

Main results:

* `SlidingWindow.allowN_world` — a call for a decision answers what is decided, and leaves the store
  that the decision leaves;
* `RetryPolicy.settle_eq_ok_iff`, `RetryPolicy.settle_of_final`, `RetryPolicy.settle_of_last`,
  `RetryPolicy.settle_of_retry` — what a policy makes of an answer;
* `Layer.ask_reject`, `Layer.askOn_backingOff` — **a stretch of asking is one decision and what the
  policy makes of it**.
-/

import Turnstile.Proofs.Admission.Stretch

set_option relaxedAutoImplicit false
set_option autoImplicit false

namespace Turnstile

variable {σ α β κ : Type}

/-! ### Contexts of requests -/

/-- A child is finished when its parent is. -/
theorem Contexts.err?_child (cs : Contexts) (i : ContextId) (now : Nat) :
    (cs.child i).2.err? (cs.child i).1 now = cs.err? i now := by
  have hnode : (cs.child i).2.get? (cs.child i).1 =
      some ⟨some i, cs.isCancelled i, cs.deadline? i⟩ := by
    simp [Contexts.child, Contexts.add, Contexts.get?]
  unfold Contexts.err?
  rw [Contexts.isCancelled, Contexts.deadline?, hnode]
  rfl

/-! ### Work that keeps the store -/

namespace Act

/-- Work that leaves the store as it is. -/
def KeepsStore (act : Act σ α) : Prop := ∀ w, (act w).2.backend = w.backend

namespace KeepsStore

theorem pure (a : α) : KeepsStore (Pure.pure a : Act σ α) := fun _ => rfl

theorem bind {act : Act σ α} {k : α → Act σ β} (h : KeepsStore act)
    (hk : ∀ a, KeepsStore (k a)) : KeepsStore (act >>= k) := fun w => by
  rw [bind_apply, hk, h]

end KeepsStore

end Act

/-! ### What a policy makes of an answer -/

namespace RetryPolicy

/-- Whatever a policy makes of an answer, it leaves the store alone. -/
theorem keepsStore_settle (p : RetryPolicy) (ctx : ContextId) (n : Nat)
    (result : Except LimiterError α) :
    Act.KeepsStore (p.settle ctx n result : Act σ (Turn (Retrying κ) _)) :=
  (p.aloof_settle (τ := σ) ctx n result).keeps

theorem giveUp_answer (p : RetryPolicy) (n : Nat) (e : LimiterError) (w : World σ) :
    ((p.giveUp n e : Act σ (Turn (Retrying κ) (Except _ α))) w).1 = .done (.error e) := by
  unfold giveUp
  split <;> rfl

/-- An answer that is no error, or one that another attempt cannot mend, is the end. -/
theorem settle_of_final (p : RetryPolicy) (ctx : ContextId) (n : Nat)
    {result : Except LimiterError α} (h : ∀ e, result = .error e → e.isRetryable = false)
    (w : World σ) : (p.settle ctx n result w : Turn (Retrying κ) _ × _).1 = .done result := by
  cases result with
  | ok a => rfl
  | error e => simp [settle, h e rfl]; rfl

/-- The last attempt is the end. -/
theorem settle_of_last (p : RetryPolicy) (ctx : ContextId) {n : Nat} (h : p.maxAttempts ≤ n)
    (result : Except LimiterError α) (w : World σ) :
    (p.settle ctx n result w : Turn (Retrying κ) _ × _).1 = .done result := by
  cases result with
  | ok a => rfl
  | error e =>
      cases hretry : e.isRetryable with
      | false => simp [settle, hretry]; rfl
      | true => simp [settle, hretry, h, giveUp_answer]

/-- After any other attempt the policy sleeps, while the context is not finished. -/
theorem settle_of_retry (p : RetryPolicy) {ctx : ContextId} {n : Nat} (h : n < p.maxAttempts)
    {e : LimiterError} (hretry : e.isRetryable = true) {w : World σ}
    (hlive : w.status ctx = none) :
    ∃ on, ((p.settle ctx n (.error e) : Act σ (Turn (Retrying κ) (Except _ α))) w).1 =
      .pause on (.backingOff n) := by
  -- neither the jitter nor the log finishes a context
  let slept := Act.jittered p.jitter (p.backoff.delay n) w
  have hlive' : (Act.log (.retrying n slept.1 e) slept.2).2.status ctx = none := hlive
  obtain ⟨on, w', hsleep⟩ := Act.sleep_of_status hlive' p.sleeper slept.1
  refine ⟨on, ?_⟩
  simp only [settle, hretry, Bool.not_true, Bool.false_eq_true, if_false, Nat.not_le.2 h]
  change (resting n (Act.sleep ctx p.sleeper slept.1
    (Act.log (.retrying n slept.1 e) slept.2).2).1 : Turn (Retrying κ) (Except _ α)) = _
  rw [hsleep]
  rfl

/-- A policy ends with an answer just if the attempt gave it. -/
theorem settle_eq_ok_iff (p : RetryPolicy) (ctx : ContextId) (n : Nat)
    {result : Except LimiterError α} {a : α} (w : World σ) :
    (p.settle ctx n result w : Turn (Retrying κ) _ × _).1 = .done (.ok a) ↔ result = .ok a := by
  have hresting (slept : Except ContextError Pause) :
      (resting n slept : Turn (Retrying κ) (Except _ α)) ≠ .done (.ok a) := by
    cases slept <;> simp [resting]
  cases result with
  | ok a' => exact ⟨fun h => Turn.done.inj h, fun h => congrArg Turn.done h⟩
  | error e =>
      refine iff_of_false ?_ nofun
      unfold settle
      simp only
      split
      · exact fun h => nomatch h
      split
      · rw [giveUp_answer]
        exact fun h => nomatch h
      · exact hresting _

end RetryPolicy

theorem Layer.keepsStore_conclude (l : Layer SlidingWindow) (key : String)
    (result : Except LimiterError Bool) : Act.KeepsStore (l.conclude key result : Act σ _) :=
  (l.aloof_conclude (τ := σ) key result).keeps

/-! ### Decisions -/

theorem SlidingWindow.allowN_world [Backend σ] (l : SlidingWindow) (ctx : ContextId) (key : String)
    (n limit : Nat) (window : Duration) (w : World σ) :
    let r := decide (w.limiterReading l.clock) ⟨w.status ctx, w.storeReading⟩ key n limit window
      w.backend
    ∃ w', World.SameButReports { w with backend := r.2 } w' ∧
      l.allowN ctx key n limit window w = (r.1, w') :=
  ⟨_, l.sameButReports_report key n limit _ _, rfl⟩

namespace Layer

/-- What a stretch of asking makes of what its policy does. -/
def deciding (key : String) (ctx : ContextId) :
    Turn (Retrying Empty) (Except LimiterError Bool) × World σ →
      Turn (Admitting Wait) (Except LimiterError Bool) × World σ :=
  Prod.map (Turn.map (.deciding key ctx) id) id

theorem deciding_eq_done_iff {key : String} {ctx : ContextId}
    {r : Turn (Retrying Empty) (Except LimiterError Bool) × World σ}
    {answer : Except LimiterError Bool} :
    (deciding key ctx r).1 = .done answer ↔ r.1 = .done answer := by
  obtain ⟨turn, w⟩ := r
  cases turn <;> simp [deciding, Turn.map]

variable [Backend σ]

/-- What the limiter of a layer decides about a key on behalf of a context. -/
def decision (l : Layer SlidingWindow) (key : String) (ctx : ContextId) (w : World σ) :
    Except LimiterError Bool × σ :=
  SlidingWindow.decide (w.limiterReading l.limiter.clock) ⟨w.status ctx, w.storeReading⟩ key l.cost
    l.limit l.window w.backend

/-- An attempt is one decision, and what the policy makes of it. -/
theorem attempt_eq (l : Layer SlidingWindow) (key : String) (ctx : ContextId) (n : Nat)
    (w : World σ) :
    ∃ w', World.SameButReports { w with backend := (l.decision key ctx w).2 } w' ∧
      l.retry.attempt ctx (l.decisionSteps key ctx) n w =
        l.retry.settle ctx n (l.decision key ctx w).1 w' := by
  obtain ⟨w', ⟨reports, rfl⟩, hanswer⟩ := l.limiter.allowN_world ctx key l.cost l.limit l.window
    (Act.log (.asking key n .reject) w).2
  refine ⟨_, ⟨reports, rfl⟩, ?_⟩
  have hcall : (l.decisionSteps key ctx).call n w =
      (fun r => (.done r.1, r.2)) (l.limiter.allowN ctx key l.cost l.limit l.window
        (Act.log (.asking key n .reject) w).2) := rfl
  rw [RetryPolicy.attempt, Act.bind_apply, hcall, hanswer]
  rfl

/-- The decision on behalf of a child context is the one on behalf of its parent. -/
theorem decision_child (l : Layer SlidingWindow) (key : String) (parent : ContextId)
    (w : World σ) :
    l.decision key (w.contexts.child parent).1
        { w with contexts := (w.contexts.child parent).2 } = l.decision key parent w := by
  have hstatus : ({ w with contexts := (w.contexts.child parent).2 } : World σ).status
      (w.contexts.child parent).1 = w.status parent := Contexts.err?_child ..
  rw [decision, hstatus]
  rfl

/-- **The first stretch of a request in reject mode** is one decision on behalf of its context, and
what the policy makes of it on behalf of a child of this. -/
theorem ask_reject {l : Layer SlidingWindow} (h : l.waitMode = false) (parent : ContextId)
    (key : String) (w : World σ) :
    ∃ w', World.SameButReports { w with
        contexts := (w.contexts.child parent).2
        backend := (l.decision key parent w).2 } w' ∧
      l.ask parent key w = deciding key (w.contexts.child parent).1
        (l.retry.settle (w.contexts.child parent).1 1 (l.decision key parent w).1 w') := by
  obtain ⟨w', hsame, hattempt⟩ := l.attempt_eq key (w.contexts.child parent).1 1
    { w with contexts := (w.contexts.child parent).2 }
  rw [decision_child] at hsame hattempt
  have hask : l.ask parent key w = deciding key (w.contexts.child parent).1
      (l.retry.attempt (w.contexts.child parent).1
        (l.decisionSteps key (w.contexts.child parent).1) 1
        { w with contexts := (w.contexts.child parent).2 }) := by
    unfold ask
    rw [h]
    rfl
  exact ⟨w', hsame, by rw [hask, hattempt]⟩

/-- **A stretch after a sleep** is one decision too. -/
theorem askOn_backingOff (l : Layer SlidingWindow) (key : String) (ctx : ContextId) (n : Nat)
    (w : World σ) :
    ∃ w', World.SameButReports { w with backend := (l.decision key ctx w).2 } w' ∧
      l.askOn (.deciding key ctx (.backingOff n)) .timer w =
        deciding key ctx (l.retry.settle ctx (n + 1) (l.decision key ctx w).1 w') := by
  obtain ⟨w', hsame, hattempt⟩ := l.attempt_eq key ctx (n + 1) w
  have hask : l.askOn (.deciding key ctx (.backingOff n)) .timer w =
      deciding key ctx (l.retry.attempt ctx (l.decisionSteps key ctx) (n + 1) w) := rfl
  exact ⟨w', hsame, by rw [hask, hattempt]⟩

end Layer

end Turnstile
