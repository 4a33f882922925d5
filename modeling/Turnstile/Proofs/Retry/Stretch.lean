/-
**What retried calls ask of the store.**

A wait polls again and again, and a retry policy calls again and again, but all of this pursues one
bid: the same number of events of the same key, under the same limit and in the same window.  In
each stretch of the work at most one decision is made, for this bid.  An admission is told at once:
the stretch ends with it, without another call, another sleep or an error in between.  A decision
that admits nothing is never told as an admission.

Main definitions:

* `Bid`, `Bid.Made` — what is asked for, and a decision about it;
* `Turn.Tells` — a stretch ends with an admission just if its decision is one;
* `Act.Pursues`, `Steps.Pursue` — work and operations that pursue a bid;
* `Retrying.Each` — what is left of a run is what may be left of the operation.

Main results:

* `Wait.pursues_start`, `Wait.pursues_resume` — a wait pursues a bid for one event;
* `RetryPolicy.tells_settle` — **a policy passes an admission on and makes none up**;
* `RetryPolicy.pursues_start`, `RetryPolicy.pursues_resume` — a retried operation pursues the bid of
  the operation.
-/

import Turnstile.Proofs.Limiter.Stretch
import Turnstile.Retry.Policy

set_option relaxedAutoImplicit false
set_option autoImplicit false

namespace Turnstile

variable {σ τ α β κ κ' : Type}

/-- What is asked for, again and again: `n` events of a key under a limit in a window. -/
structure Bid where
  key : String
  n : Nat
  limit : Nat
  window : Duration
  deriving DecidableEq

/-- A decision is about a bid, at a time of the store. -/
structure Bid.Made (b : Bid) (now : Nat) (v : Visit) : Prop where
  key : v.key = b.key
  n : v.n = b.n
  limit : v.limit = b.limit
  window : v.window = b.window
  time : v.call.now = now

/-- Whether a result is one that `read` takes for an admission. -/
def granted (read : α → Bool) : Except LimiterError α → Bool
  | .ok a => read a
  | .error _ => false

/-- A stretch whose decision, if it makes one, is answered by `answer`: it ends with an admission
just if the answer is one, and where it pauses it is none and what is left satisfies `P`. -/
def Turn.Tells (admits : α → Bool) (P : κ → Prop) (answer : Option (Except LimiterError Bool)) :
    Turn κ α → Prop
  | .done a => admits a = true ↔ answer = some (.ok true)
  | .pause _ rest => answer ≠ some (.ok true) ∧ P rest

theorem Turn.Tells.done_granted (P : κ → Prop) (answer : Except LimiterError Bool) :
    (Turn.done answer : Turn κ _).Tells (granted id) P (some answer) := by
  rcases answer with e | _ | _ <;> simp [Turn.Tells, granted]

theorem Turn.Tells.done_error {read : α → Bool} {P : κ → Prop}
    {answer : Option (Except LimiterError Bool)} (e : LimiterError)
    (h : answer ≠ some (.ok true)) :
    (Turn.done (.error e) : Turn κ _).Tells (granted read) P answer := by
  simpa [Turn.Tells, granted] using h

theorem Turn.Tells.map {admits : α → Bool} {P : κ → Prop} {admits' : β → Bool} {P' : κ' → Prop}
    {answer : Option (Except LimiterError Bool)} {turn : Turn κ α} (h : turn.Tells admits P answer)
    {f : κ → κ'} {g : α → β} (hf : ∀ rest, P rest → P' (f rest))
    (hg : ∀ a, admits' (g a) = admits a) : (turn.map f g).Tells admits' P' answer := by
  cases turn with
  | done a => exact (iff_of_eq (congrArg (· = true) (hg a))).trans h
  | pause on rest => exact ⟨h.1, hf rest h.2⟩

/-! ### Work that pursues a bid -/

namespace Act

/-- In every setting the work makes at most one decision, about the bid and at the time of the
store, and tells what is answered. -/
def Pursues (b : Bid) (admits : α → Bool) (P : κ → Prop) (act : Act MemoryStore (Turn κ α)) :
    Prop :=
  ∀ s : Setting, Deals act s (fun turn _ => turn.Tells admits P none)
    fun v answer turn _ => b.Made s.storeReading v ∧ turn.Tells admits P (some answer)

variable {b : Bid} {admits : α → Bool} {P : κ → Prop} {act : Act MemoryStore (Turn κ α)}

theorem Silent.pursues {act' : Act (List StoreError) (Turn κ α)} (h : Silent act act')
    (htells : ∀ s, (act' s).1.Tells admits P none) (b : Bid) : Pursues b admits P act := fun s =>
  h.deals (htells s)

namespace Pursues

theorem of_silent {g : Act MemoryStore β} {g' : Act (List StoreError) β}
    {k : β → Act MemoryStore (Turn κ α)} (hg : Silent g g')
    (htime : ∀ s, (g' s).2.storeReading = s.storeReading)
    (h : ∀ a, Pursues b admits P (k a)) : Pursues b admits P (g >>= k) := fun s =>
  Deals.of_silent hg (htime s ▸ h (g' s).1 (g' s).2)

theorem bind {admits' : β → Bool} {P' : κ' → Prop} {k : Turn κ α → Act MemoryStore (Turn κ' β)}
    {k' : Turn κ α → Act (List StoreError) (Turn κ' β)} (h : Pursues b admits P act)
    (hk : ∀ turn, Silent (k turn) (k' turn))
    (htells : ∀ answer turn s, turn.Tells admits P answer → (k' turn s).1.Tells admits' P' answer) :
    Pursues b admits' P' (act >>= k) := fun s =>
  (h s).bind hk (fun turn s' hturn => htells none turn s' hturn)
    fun _ answer turn s' hturn => ⟨hturn.1, htells (some answer) turn s' hturn.2⟩

/-- The same work with its result and its rest in another form. -/
theorem map {admits' : β → Bool} {P' : κ' → Prop} (h : Pursues b admits P act) {f : κ → κ'}
    {g : α → β} (hf : ∀ rest, P rest → P' (f rest)) (hg : ∀ a, admits' (g a) = admits a) :
    Pursues b admits' P' (act >>= fun turn => pure (turn.map f g)) :=
  h.bind (fun _ => Silent.pure _) fun _ _ _ hturn => hturn.map hf hg

end Pursues

theorem storeReading_log (s : Setting) (e : LogEvent) :
    (Act.log e s).2.storeReading = s.storeReading := rfl

end Act

/-! ### Decisions and waits -/

theorem Visit.made_within (s : Setting) (clock : ClockSource) (ctx : ContextId) (key : String)
    (n limit : Nat) (window : Duration) :
    Bid.Made ⟨key, n, limit, window⟩ s.storeReading
      (Visit.within s clock ctx key n limit window) := ⟨rfl, rfl, rfl, rfl, rfl⟩

/-- A call for a decision pursues its bid, and never pauses. -/
theorem SlidingWindow.pursues_allowN (l : SlidingWindow) (ctx : ContextId) (key : String)
    (n limit : Nat) (window : Duration) (P : κ → Prop) :
    Act.Pursues ⟨key, n, limit, window⟩ (granted id) P
      (l.allowN ctx key n limit window >>= fun result => pure (.done result)) := by
  intro s
  refine (l.deals_allowN ctx key n limit window s).bind (fun _ => Act.Silent.pure _)
    (fun _ _ h => h.elim) ?_
  rintro v answer result s' ⟨rfl, rfl, -⟩
  exact ⟨Visit.made_within s _ _ _ _ _ _, Turn.Tells.done_granted P result⟩

namespace Wait

/-- What a wait asks for. -/
def bid (w : Wait) : Bid := ⟨w.key, 1, w.limit, w.window⟩

theorem pursues_poll (w : Wait) :
    Act.Pursues w.bid (granted fun _ => true) (fun rest => rest.bid = w.bid) w.poll := by
  intro s
  refine (w.deals_poll s).mono ?_ ?_
  · rintro turn s' ⟨cause, -, rfl⟩
    exact Turn.Tells.done_error (.context cause) (by simp)
  · rintro v answer turn s' ⟨-, rfl, hpolled⟩
    refine ⟨Visit.made_within s _ _ _ _ _ _, ?_⟩
    cases hpolled <;> simp [Turn.Tells, granted, bid]

theorem pursues_start (l : SlidingWindow) (ctx : ContextId) (key : String) (limit : Nat)
    (window : Duration) :
    Act.Pursues ⟨key, 1, limit, window⟩ (granted fun _ => true)
      (fun rest => rest.bid = ⟨key, 1, limit, window⟩) (Wait.start l ctx key limit window) :=
  pursues_poll ⟨l, ctx, key, limit, window, 0⟩

theorem pursues_resume (w : Wait) (wake : Wake) :
    Act.Pursues w.bid (granted fun _ => true) (fun rest => rest.bid = w.bid) (w.resume wake) := by
  cases wake with
  | timer => exact w.pursues_poll
  | context cause =>
      refine (silent_finish w (.error (.context cause))).pursues (fun s => ?_) w.bid
      rw [finish_answer]
      exact Turn.Tells.done_error (.context cause) (by simp)

end Wait

/-! ### Retried operations -/

/-- What is left of a run in the middle of an attempt satisfies `P`. -/
def Retrying.Each (P : κ → Prop) : Retrying κ → Prop
  | .calling _ rest => P rest
  | .backingOff _ => True

/-- All that an operation does pursues a bid. -/
structure Steps.Pursue (b : Bid) (read : α → Bool) (P : κ → Prop) (op : Steps MemoryStore κ α) :
    Prop where
  call : ∀ n, Act.Pursues b (granted read) P (op.call n)
  resume : ∀ rest wake, P rest → Act.Pursues b (granted read) P (op.resume rest wake)

namespace RetryPolicy

variable {read : α → Bool} {P : κ → Prop} {answer : Option (Except LimiterError Bool)}

theorem aloof_giveUp (p : RetryPolicy) (n : Nat) (e : LimiterError) :
    Act.Aloof (p.giveUp n e : Act σ (Turn (Retrying κ) (Except _ α))) (p.giveUp n e : Act τ _) := by
  unfold giveUp
  exact .ite ((Act.Aloof.log _).bind fun _ => .pure _) (.pure _)

theorem aloof_backOff (p : RetryPolicy) (ctx : ContextId) (n : Nat) (e : LimiterError) :
    Act.Aloof (p.backOff ctx n e : Act σ (Turn (Retrying κ) (Except _ α)))
      (p.backOff ctx n e : Act τ _) := by
  refine (Act.Aloof.jittered _ _).bind fun delay => (Act.Aloof.log _).bind fun _ => ?_
  exact (Act.Aloof.sleep _ _ _).bind fun slept => .pure _

/-- What a policy makes of an answer has nothing to do with the store. -/
theorem aloof_settle (p : RetryPolicy) (ctx : ContextId) (n : Nat)
    (result : Except LimiterError α) :
    Act.Aloof (p.settle ctx n result : Act σ (Turn (Retrying κ) _))
      (p.settle ctx n result : Act τ _) := by
  cases result with
  | ok a => exact .pure (Turn.done (Except.ok a))
  | error e =>
      unfold settle
      exact (Act.Aloof.pure _).ite ((aloof_giveUp p n e).ite (aloof_backOff p ctx n e))

theorem aloof_follow (p : RetryPolicy) (ctx : ContextId) (n : Nat)
    (turn : Turn κ (Except LimiterError α)) :
    Act.Aloof (p.follow ctx n turn : Act σ _) (p.follow ctx n turn : Act τ _) := by
  cases turn with
  | done result => exact aloof_settle p ctx n result
  | pause on rest => exact .pure _

theorem tells_giveUp (p : RetryPolicy) (n : Nat) (e : LimiterError)
    (h : answer ≠ some (.ok true)) (s : Setting) :
    (p.giveUp n e s).1.Tells (granted read) (Retrying.Each P) answer := by
  unfold giveUp
  split <;> exact Turn.Tells.done_error e h

theorem tells_backOff (p : RetryPolicy) (ctx : ContextId) (n : Nat) (e : LimiterError)
    (h : answer ≠ some (.ok true)) (s : Setting) :
    (p.backOff ctx n e s).1.Tells (granted read) (Retrying.Each P) answer := by
  have hresting (slept : Except ContextError Pause) :
      (resting n slept).Tells (granted read) (Retrying.Each P) answer := by
    cases slept with
    | error cause => exact Turn.Tells.done_error (.context cause) h
    | ok pause => exact ⟨h, trivial⟩
  exact hresting _

/-- **A policy passes an admission on, and makes none up.** -/
theorem tells_settle (p : RetryPolicy) (ctx : ContextId) (n : Nat)
    {result : Except LimiterError α}
    (h : granted read result = true ↔ answer = some (.ok true)) (s : Setting) :
    (p.settle ctx n result s).1.Tells (granted read) (Retrying.Each P) answer := by
  cases result with
  | ok a => exact h
  | error e =>
      have hnot : answer ≠ some (.ok true) := by simpa [granted] using h
      unfold settle
      simp only
      split
      · exact Turn.Tells.done_error e hnot
      split
      · exact p.tells_giveUp n e hnot s
      · exact p.tells_backOff ctx n e hnot s

theorem tells_follow (p : RetryPolicy) (ctx : ContextId) (n : Nat)
    {turn : Turn κ (Except LimiterError α)} (h : turn.Tells (granted read) P answer)
    (s : Setting) :
    (p.follow ctx n turn s).1.Tells (granted read) (Retrying.Each P) answer := by
  cases turn with
  | done result => exact p.tells_settle ctx n h s
  | pause on rest => exact h

variable {b : Bid} {op : Steps MemoryStore κ α}

theorem pursues_attempt (p : RetryPolicy) (ctx : ContextId) (h : op.Pursue b read P) (n : Nat) :
    Act.Pursues b (granted read) (Retrying.Each P) (p.attempt ctx op n) :=
  (h.call n).bind (fun turn => .of_aloof (p.aloof_follow ctx n turn)) fun _ _ s hturn => p.tells_follow ctx n hturn s

/-- A retried operation pursues the bid of the operation, -/
theorem pursues_start (p : RetryPolicy) (ctx : ContextId) (h : op.Pursue b read P) :
    Act.Pursues b (granted read) (Retrying.Each P) (p.start ctx op) :=
  p.pursues_attempt ctx h 1

/-- and so does what is left of it at a pause. -/
theorem pursues_resume (p : RetryPolicy) (ctx : ContextId) (h : op.Pursue b read P)
    {run : Retrying κ} (hrun : run.Each P) (wake : Wake) :
    Act.Pursues b (granted read) (Retrying.Each P) (p.resume ctx op run wake) := by
  cases run with
  | calling n rest =>
      -- the attempt goes on where it paused
      exact (h.resume rest wake hrun).bind (fun turn => .of_aloof (p.aloof_follow ctx n turn))
        fun _ _ s hturn => p.tells_follow ctx n hturn s
  | backingOff n =>
      cases wake with
      | timer =>
          -- the next attempt begins, for the same bid
          exact p.pursues_attempt ctx h (n + 1)
      | context cause =>
          exact (Act.Silent.pure (Turn.done (Except.error (LimiterError.context cause)))).pursues
            (fun _ => Turn.Tells.done_error (.context cause) (by simp)) b

end RetryPolicy

end Turnstile
