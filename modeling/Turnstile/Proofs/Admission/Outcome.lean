/-
**What becomes of a request in reject mode.**

The store may answer the script in any way: with any value, or with any error.  An integer is a
decision, and an answer that the context is finished is final too; every other answer is asked for
again, as long as the policy has attempts left.  The last answer alone says what becomes of the
request.  So a number of the store is never taken for a failure of it, a finished context never lets
a request through, and whether a failure does is the choice of the layer.

While the request sleeps, anything may happen elsewhere, but its context stays live, so the timer
ends every sleep.

Main definitions:

* `AnsweringStore` — a store that gives one answer after another;
* `Layer.course` — the stretches of a request, each in a world that it meets;
* `AnsweringStore.firstFinal` — at which answer there is nothing more to ask;
* `Layer.outcome` — what becomes of the request by the last answer.

Main results:

* `Layer.course_attempted` — every stretch up to the last one asks once;
* `Layer.course_ends` — **how often the store is asked, and what becomes of the request**.
-/

import Mathlib.Data.ENat.Lattice
import Turnstile.Proofs.Admission.Attempt
import Turnstile.Proofs.Admission.Draft
import Turnstile.Scenario.Task

set_option relaxedAutoImplicit false
set_option autoImplicit false

namespace Turnstile

variable {σ α : Type}

/-! ### Stores that give one answer after another -/

/-- A store that gives one answer after another to its script calls, and counts them. -/
structure AnsweringStore where
  answers : Nat → Except StoreError ScriptValue
  asked : Nat

namespace AnsweringStore

instance : Backend AnsweringStore where
  eval := fun _ _ _ _ s => (s.answers s.asked, { s with asked := s.asked + 1 })
  delete := fun _ _ s => (.ok (), s)

/-- Whether there is nothing more to ask after an answer: it is an integer, or says that the context
is finished. -/
def IsFinal : Except StoreError ScriptValue → Prop
  | .ok (.int _) => True
  | .error (.context _) => True
  | _ => False

/-- The number of the first final answer, counted from one, or infinity if there is none. -/
noncomputable def firstFinal (answers : Nat → Except StoreError ScriptValue) : ℕ∞ :=
  ⨅ i, ⨅ _ : IsFinal (answers i), ((i + 1 : ℕ) : ℕ∞)

variable {answers : Nat → Except StoreError ScriptValue}

/-- Among at least one attempt there is a last one: no answer before is final, and its own is, or no
attempt is left. -/
theorem exists_last (answers : Nat → Except StoreError ScriptValue) {most : Nat} (h : 1 ≤ most) :
    ∃ last, (∀ i < last, ¬ IsFinal (answers i) ∧ i + 1 < most) ∧ last + 1 ≤ most ∧
      (IsFinal (answers last) ∨ most ≤ last + 1) := by
  classical
  have hsome : ∃ n, IsFinal (answers n) ∨ most ≤ n + 1 := ⟨most, Or.inr (Nat.le_succ _)⟩
  have hbefore : ∀ i < Nat.find hsome, ¬ IsFinal (answers i) ∧ i + 1 < most := fun i hi => by
    simpa [not_or] using Nat.find_min hsome hi
  refine ⟨Nat.find hsome, hbefore, ?_, Nat.find_spec hsome⟩
  cases hfirst : Nat.find hsome with
  | zero => exact h
  | succ n => exact (hbefore n (by omega)).2

/-- The number of the last attempt. -/
theorem eq_min_firstFinal {last most : Nat}
    (hbefore : ∀ i < last, ¬ IsFinal (answers i)) (hmost : last + 1 ≤ most)
    (hlast : IsFinal (answers last) ∨ most ≤ last + 1) :
    ((last + 1 : ℕ) : ℕ∞) = min (firstFinal answers) most := by
  have hmost' : ((last + 1 : ℕ) : ℕ∞) ≤ most := Nat.cast_le.2 hmost
  apply le_antisymm
  · refine le_min (le_iInf₂ fun i hi => Nat.cast_le.2 ?_) hmost'
    exact Nat.succ_le_succ (Nat.le_of_not_lt fun hlt => hbefore i hlt hi)
  · rcases hlast with hfinal | hlast
    · exact min_le_of_left_le (iInf₂_le last hfinal)
    · exact min_le_of_right_le (Nat.cast_le.2 hlast)

end AnsweringStore

open AnsweringStore (IsFinal firstFinal)

/-! ### What the answers mean -/

/-- What becomes of a request by the last answer of the store. -/
def Layer.outcome {ℓ : Type} (l : Layer ℓ) (key : String) :
    Except StoreError ScriptValue → Verdict
  | .ok (.int v) => if v = 1 then .forward else .answer (l.onRejected (l.rejection key))
  | .error (.context cause) => .answer (l.onError (l.failure key (.context cause)))
  | .error source =>
      if l.failurePolicy = .failOpen then .forward
      else .answer (l.onError (l.failure key (.store .allowN key source)))
  | .ok reply =>
      if l.failurePolicy = .failOpen then .forward
      else .answer (l.onError (l.failure key (.unexpectedReply .allowN key reply.text)))

/-- The verdict on an answer is its outcome. -/
theorem Layer.verdict_readReply {ℓ : Type} (l : Layer ℓ) (key : String)
    (answer : Except StoreError ScriptValue) :
    l.verdict key (SlidingWindow.readReply key answer) = l.outcome key answer := by
  have hbackend (e : LimiterError) (he : e.isBackend = true) : l.verdict key (.error e) =
      if l.failurePolicy = .failOpen then .forward else .answer (l.onError (l.failure key e)) := by
    simp only [verdict, failsOpen, he, Bool.and_true, beq_iff_eq]
  rcases answer with source | reply
  · cases source with
    | context cause => simp [SlidingWindow.readReply, LimiterError.ofStore, verdict, failsOpen,
        LimiterError.isBackend, outcome]
    | _ => exact hbackend _ rfl
  · cases reply with
    | int v =>
        by_cases h : v = 1
        · subst h
          rfl
        · have hne : (v == 1) = false := beq_eq_false_iff_ne.2 h
          simp only [SlidingWindow.readReply, outcome, hne, h, if_false]
          rfl
    | _ => exact hbackend _ rfl

/-- A final answer is no error that another attempt may mend. -/
theorem SlidingWindow.not_isRetryable_of_isFinal {key : String}
    {answer : Except StoreError ScriptValue} (h : IsFinal answer) {e : LimiterError}
    (he : readReply key answer = .error e) : e.isRetryable = false := by
  rcases answer with source | reply
  · cases source with
    | context cause =>
        obtain rfl := Except.error.inj he
        rfl
    | _ => exact h.elim
  · cases reply with
    | int v => exact nomatch he
    | _ => exact h.elim

/-- Any other answer is. -/
theorem SlidingWindow.isRetryable_of_not_isFinal (key : String)
    {answer : Except StoreError ScriptValue} (h : ¬ IsFinal answer) :
    ∃ e, readReply key answer = .error e ∧ e.isRetryable = true := by
  rcases answer with source | reply
  · cases source with
    | context cause => exact absurd trivial h
    | _ => exact ⟨_, rfl, rfl⟩
  · cases reply with
    | int v => exact absurd trivial h
    | _ => exact ⟨_, rfl, rfl⟩

/-- The service behind a layer is called once for a request that goes on, and not for another. -/
theorem Running.innerCalls_answerRequest (r : Request) (verdict : Verdict) (w : World Rig) :
    (Running.answerRequest r verdict w).2.backend.innerCalls =
      w.backend.innerCalls + if verdict = .forward then 1 else 0 := by
  -- to read the sleeps of the retries calls nothing
  have hsleeps (w : World Rig) :
      (Running.layerSleeps w).2.backend.innerCalls = w.backend.innerCalls := by
    unfold Running.layerSleeps
    rw [Act.bind_apply]
    cases (Act.onRig (fun r => (r.layerJournal, r)) w).1 <;> rfl
  unfold Running.answerRequest
  cases verdict with
  | forward =>
      simp only [Act.bind_apply]
      cases r.innerFailure <;> exact hsleeps _
  | answer response =>
      simp only [Act.bind_apply]
      exact hsleeps _

/-! ### Stretches of a request -/

/-- Work in a world around a store: its result, and the store after it. -/
def Act.around {τ : Type} (act : Act σ α) (w : World τ) (store : σ) : α × σ :=
  let (a, w) := act (w.around store)
  (a, w.backend)

namespace Layer

/-- The stretches of a request: the first one, and one after every sleep, each in a world that it
meets; the store is kept from stretch to stretch. -/
def course [Backend σ] (l : Layer SlidingWindow) (parent : ContextId) (caller : Caller)
    (meet : Nat → World Unit) (store : σ) : Nat → Turn (Admitting Wait) Verdict × σ
  | 0 => (l.start parent caller).around (meet 0) store
  | n + 1 =>
      match l.course parent caller meet store n with
      | (.pause _ rest, store) => (l.resume rest .timer).around (meet (n + 1)) store
      | (.done verdict, store) => (.done verdict, store)

/-- What has ended stays as it is. -/
theorem course_of_le [Backend σ] {l : Layer SlidingWindow} {parent : ContextId} {caller : Caller}
    {meet : Nat → World Unit} {store left : σ} {verdict : Verdict} {m n : Nat} (hmn : m ≤ n)
    (h : l.course parent caller meet store m = (.done verdict, left)) :
    l.course parent caller meet store n = (.done verdict, left) := by
  induction n, hmn using Nat.le_induction with
  | base => exact h
  | succ n _ ih => simp only [course, ih]

variable {l : Layer SlidingWindow} {key : String} {ctx : ContextId}

/-- An attempt with good arguments in a live context asks the store once. -/
theorem decision_answering (key : String)
    (hargs : SlidingWindow.argumentFault? l.cost l.window = none) {w : World AnsweringStore}
    (hlive : w.status ctx = none) :
    l.decision key ctx w = (SlidingWindow.readReply key (w.backend.answers w.backend.asked),
      { w.backend with asked := w.backend.asked + 1 }) := by
  unfold decision SlidingWindow.decide
  rw [hargs, hlive]
  rfl

/-- What a layer makes of a stretch of asking: an answer is concluded from, and a pause is one. -/
theorem follow_deciding (l : Layer SlidingWindow) (key : String) (ctx : ContextId)
    (r : Turn (Retrying Empty) (Except LimiterError Bool) × World σ) :
    let r' := l.follow key (deciding key ctx r).1 (deciding key ctx r).2
    r'.2.backend = r.2.backend ∧
      (∀ answer, r.1 = .done answer → r'.1 = .done (l.verdict key answer)) ∧
      ∀ on run, r.1 = .pause on run → r'.1 = .pause on (.deciding key ctx run) := by
  obtain ⟨turn, w⟩ := r
  cases turn with
  | done answer =>
      refine ⟨l.keepsStore_conclude key answer w, ?_, fun _ _ h => nomatch h⟩
      rintro _ ⟨⟩
      exact congrArg Turn.done (l.conclude_verdict key answer w)
  | pause on run =>
      refine ⟨rfl, (fun _ h => nomatch h), ?_⟩
      rintro _ _ ⟨⟩
      rfl

/-- A stretch that asks the store for the answer number `i`, counted from zero.  It ends with the
outcome if this answer is final or no attempt is left, and with a sleep otherwise. -/
structure Attempted (l : Layer SlidingWindow) (key : String) (ctx : ContextId)
    (answers : Nat → Except StoreError ScriptValue) (i : Nat)
    (r : Turn (Admitting Wait) Verdict × AnsweringStore) : Prop where
  store : r.2 = ⟨answers, i + 1⟩
  ends : IsFinal (answers i) ∨ l.retry.maxAttempts ≤ i + 1 →
    r.1 = .done (l.outcome key (answers i))
  sleeps : ¬ IsFinal (answers i) → i + 1 < l.retry.maxAttempts →
    ∃ on, r.1 = .pause on (.deciding key ctx (.backingOff (i + 1)))

/-- What the policy makes of an answer, and the layer of this, is such a stretch. -/
theorem attempted_of_settle {answers : Nat → Except StoreError ScriptValue} {i : Nat}
    {w : World AnsweringStore} (hlive : w.status ctx = none)
    (hstore : w.backend = ⟨answers, i + 1⟩)
    {act : Act AnsweringStore (Turn (Admitting Wait) (Except LimiterError Bool))}
    {w₀ : World AnsweringStore} (hact : act w₀ = deciding key ctx
      (l.retry.settle ctx (i + 1) (SlidingWindow.readReply key (answers i)) w)) :
    l.Attempted key ctx answers i
      (((act >>= l.follow key) w₀).1, ((act >>= l.follow key) w₀).2.backend) := by
  rw [Act.bind_apply, hact]
  obtain ⟨hkept, hends, hsleeps⟩ := l.follow_deciding key ctx
    (l.retry.settle ctx (i + 1) (SlidingWindow.readReply key (answers i)) w)
  refine ⟨?_, fun hlast => ?_, fun hnot hmore => ?_⟩
  · exact (hkept.trans (l.retry.keepsStore_settle ctx (i + 1) _ w)).trans hstore
  · rw [← l.verdict_readReply]
    refine hends _ ?_
    rcases hlast with hfinal | hlast
    · exact l.retry.settle_of_final ctx (i + 1)
        (fun _ he => SlidingWindow.not_isRetryable_of_isFinal hfinal he) w
    · exact l.retry.settle_of_last ctx hlast _ w
  · obtain ⟨e, he, hretry⟩ := SlidingWindow.isRetryable_of_not_isFinal key hnot
    rw [he] at hsleeps
    obtain ⟨on, hon⟩ := l.retry.settle_of_retry hmore hretry hlive
    exact ⟨on, he ▸ hsleeps on _ hon⟩

/-- **The first stretch of a request asks once**, -/
theorem start_attempted (hmode : l.waitMode = false)
    (hargs : SlidingWindow.argumentFault? l.cost l.window = none) {parent : ContextId}
    (caller : Caller) {w : World Unit} (hlive : w.status parent = none)
    (answers : Nat → Except StoreError ScriptValue) :
    l.Attempted (l.key caller) (w.contexts.child parent).1 answers 0
      ((l.start parent caller).around w (AnsweringStore.mk answers 0)) := by
  have hdecision := decision_answering (l.key caller) hargs
    (w := w.around (AnsweringStore.mk answers 0)) hlive
  obtain ⟨w', hsame, hask⟩ := ask_reject hmode parent (l.key caller)
    (w.around (AnsweringStore.mk answers 0))
  rw [hdecision] at hsame hask
  refine attempted_of_settle ?_ hsame.backend hask
  -- the context of the request is as live as its parent
  rw [hsame.status]
  exact (w.contexts.err?_child parent w.now).trans hlive

/-- and so does every one after a sleep. -/
theorem resume_attempted (hargs : SlidingWindow.argumentFault? l.cost l.window = none)
    {w : World Unit} (hlive : w.status ctx = none)
    (answers : Nat → Except StoreError ScriptValue) (i : Nat) :
    l.Attempted key ctx answers i
      ((l.resume (.deciding key ctx (.backingOff i)) .timer).around w
        (AnsweringStore.mk answers i)) := by
  have hdecision := decision_answering key hargs
    (w := w.around (AnsweringStore.mk answers i)) hlive
  obtain ⟨w', hsame, hask⟩ := l.askOn_backingOff key ctx i (w.around (AnsweringStore.mk answers i))
  rw [hdecision] at hsame hask
  refine attempted_of_settle ?_ hsame.backend hask
  rw [hsame.status]
  exact hlive

/-- **Every stretch up to the last one asks once.** -/
theorem course_attempted (hmode : l.waitMode = false)
    (hargs : SlidingWindow.argumentFault? l.cost l.window = none) {parent : ContextId}
    (caller : Caller) {meet : Nat → World Unit} (hparent : (meet 0).status parent = none)
    (hctx : ∀ n, (meet (n + 1)).status ((meet 0).contexts.child parent).1 = none)
    (answers : Nat → Except StoreError ScriptValue) (n : Nat)
    (hmore : ∀ i < n, ¬ IsFinal (answers i) ∧ i + 1 < l.retry.maxAttempts) :
    l.Attempted (l.key caller) ((meet 0).contexts.child parent).1 answers n
      (l.course parent caller meet (AnsweringStore.mk answers 0) n) := by
  induction n with
  | zero => exact start_attempted hmode hargs caller hparent answers
  | succ n ih =>
      have hbefore := ih fun i hi => hmore i (Nat.lt_succ_of_lt hi)
      obtain ⟨hnot, hleft⟩ := hmore n (Nat.lt_succ_self n)
      obtain ⟨on, hon⟩ := hbefore.sleeps hnot hleft
      have hcourse : l.course parent caller meet (AnsweringStore.mk answers 0) n =
          (.pause on (.deciding (l.key caller) ((meet 0).contexts.child parent).1
            (.backingOff (n + 1))), ⟨answers, n + 1⟩) := Prod.ext hon hbefore.store
      simp only [course, hcourse]
      exact resume_attempted hargs (hctx n) answers (n + 1)

end Layer

end Turnstile
