/-
**What a layer asks of the store.**

A layer asks its limiter under a retry policy, for one decision or by waiting.  All of this pursues
one bid: its cost in reject mode and one event in wait mode.  What becomes of the request is
concluded from the answer without another look at the store, so a request that fails open was not
admitted by the limiter, and one that was admitted is told so at once.

Main definitions:

* `Layer.bid` — what a layer asks for;
* `Layer.Asking` — what is left of asking for a bid.

Main results:

* `Layer.pursues_ask`, `Layer.pursues_askOn` — **a layer pursues its bid**;
* `Layer.aloof_conclude`, `Layer.conclude_verdict` — what follows does not look at the store.
-/

import Turnstile.Admission.Service
import Turnstile.Proofs.Retry.Stretch

set_option relaxedAutoImplicit false
set_option autoImplicit false

namespace Turnstile

namespace Layer

variable {l : Layer SlidingWindow}

/-- What a layer asks for about a key: its cost, or one event where it waits. -/
def bid (l : Layer SlidingWindow) (key : String) : Bid :=
  ⟨key, if l.waitMode then 1 else l.cost, l.limit, l.window⟩

/-- What is left at a pause of asking for a bid. -/
def Asking (l : Layer SlidingWindow) (b : Bid) : Admitting Wait → Prop
  | .deciding key _ _ => l.waitMode = false ∧ l.bid key = b
  | .awaiting key _ run => l.waitMode = true ∧ l.bid key = b ∧ run.Each fun w => w.bid = b

theorem Asking.bid_eq {b : Bid} {a : Admitting Wait} (h : l.Asking b a) : l.bid a.key = b := by
  cases a with
  | deciding key ctx run => exact h.2
  | awaiting key ctx run => exact h.2.1

theorem bid_of_reject (h : l.waitMode = false) (key : String) :
    l.bid key = ⟨key, l.cost, l.limit, l.window⟩ := by
  simp [bid, h]

theorem bid_of_wait (h : l.waitMode = true) (key : String) :
    l.bid key = ⟨key, 1, l.limit, l.window⟩ := by
  simp [bid, h]

/-! ### The two operations -/

/-- One decision pursues the bid of a layer in reject mode. -/
theorem decisionSteps_pursue (h : l.waitMode = false) (key : String) (ctx : ContextId) :
    (l.decisionSteps key ctx : Steps MemoryStore Empty Bool).Pursue (l.bid key) id
      fun _ => True where
  call := fun n => by
    rw [bid_of_reject h]
    exact Act.Pursues.of_silent (Act.Silent.log (.asking key n .reject))
      (fun s => Act.storeReading_log s _) fun _ =>
        l.limiter.pursues_allowN ctx key l.cost l.limit l.window _
  resume := fun rest => nomatch rest

/-- A wait pursues the bid of a layer in wait mode. -/
theorem waitSteps_pursue (h : l.waitMode = true) (key : String) (ctx : ContextId) :
    (l.waitSteps key ctx : Steps MemoryStore Wait Unit).Pursue (l.bid key) (fun _ => true)
      fun w => w.bid = l.bid key where
  call := fun n => by
    rw [bid_of_wait h]
    exact Act.Pursues.of_silent (Act.Silent.log (.asking key n .wait))
      (fun s => Act.storeReading_log s _) fun _ =>
        Wait.pursues_start l.limiter ctx key l.limit l.window
  resume := fun rest wake hrest => hrest ▸ rest.pursues_resume wake

/-! ### Asking -/

theorem granted_map (result : Except LimiterError Unit) :
    granted id (result.map fun _ => true) = granted (fun _ => true) result := by
  cases result <;> rfl

/-- **A layer pursues its bid**, -/
theorem pursues_ask (l : Layer SlidingWindow) (parent : ContextId) (key : String) :
    Act.Pursues (l.bid key) (granted id) (l.Asking (l.bid key)) (l.ask parent key) := by
  have hwaiting : Act.Silent
      (fun w => Act.newContext (fun cs => cs.withTimeout parent w.now l.waitTimeout) w)
      (fun w => Act.newContext (fun cs => cs.withTimeout parent w.now l.waitTimeout) w) :=
    fun _ _ => rfl
  unfold ask
  cases h : l.waitMode with
  | true =>
      exact Act.Pursues.of_silent hwaiting (fun _ => rfl) fun ctx =>
        (l.retry.pursues_start ctx (waitSteps_pursue h key ctx)).map
          (fun run hrun => ⟨h, rfl, hrun⟩) granted_map
  | false =>
      exact Act.Pursues.of_silent (Act.Silent.newContext fun cs => cs.child parent) (fun _ => rfl)
        fun ctx => (l.retry.pursues_start ctx (decisionSteps_pursue h key ctx)).map
          (fun run _ => ⟨h, rfl⟩) fun _ => rfl

/-- and so does what is left of asking at a pause. -/
theorem pursues_askOn {b : Bid} {a : Admitting Wait} (h : l.Asking b a) (wake : Wake) :
    Act.Pursues b (granted id) (l.Asking b) (l.askOn a wake) := by
  cases a with
  | deciding key ctx run =>
      obtain ⟨hmode, rfl⟩ := h
      have hrun : run.Each fun _ => True := by cases run <;> trivial
      exact (l.retry.pursues_resume ctx (decisionSteps_pursue hmode key ctx) hrun wake).map
        (fun run _ => ⟨hmode, rfl⟩) fun _ => rfl
  | awaiting key ctx run =>
      obtain ⟨hmode, rfl, hrun⟩ := h
      exact (l.retry.pursues_resume ctx (waitSteps_pursue hmode key ctx) hrun wake).map
        (fun run hrun => ⟨hmode, rfl, hrun⟩) granted_map

/-! ### Concluding -/

/-- The verdict on an answer has nothing to do with the store. -/
theorem aloof_conclude {ℓ σ τ : Type} (l : Layer ℓ) (key : String)
    (result : Except LimiterError Bool) :
    Act.Aloof (l.conclude key result : Act σ _) (l.conclude key result : Act τ _) := by
  refine (Act.Aloof.observe _ _).bind fun _ => ?_
  cases l.verdictEvent? key result with
  | none => exact .pure _
  | some e => exact (Act.Aloof.log e).bind fun _ => .pure _

theorem conclude_verdict {ℓ σ : Type} (l : Layer ℓ) (key : String)
    (result : Except LimiterError Bool) (w : World σ) :
    (l.conclude key result w).1 = l.verdict key result := by
  unfold conclude
  rw [Act.bind_apply]
  cases l.verdictEvent? key result <;> rfl

/-- To give up leaves the store alone. -/
theorem abandon_over (l : Layer SlidingWindow) (a : Admitting Wait) (s : Setting) (ks : Keyspace) :
    ∃ s' : Setting, l.abandon a (s.over ks) = ((), s'.over ks) := by
  cases a with
  | deciding key ctx run => exact ⟨s, rfl⟩
  | awaiting key ctx run =>
      cases run with
      | calling n w => exact ⟨_, Act.Silent.observe w.limiter.measured (.waiting w.key .zero) s ks⟩
      | backingOff n => exact ⟨s, rfl⟩

end Layer

end Turnstile
