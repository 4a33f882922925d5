/-
**What is seen of the moves of a run.**

Calls for decisions, resets and waits of measured limiters run side by side on one store.  Of each
move it is seen whether its decision is answered, how it ends, and which observations it adds.  A
move counts one observation of a kind if this is what it is to count, and none otherwise: an answer
for a decision that did not fail, a latency for a decision, for a wait that returns and for a reset
on behalf of a live context.

Main definitions:

* `Move.wait?`, `Move.decision?` — the wait that moves, and the decision of a move;
* `Sight`, `Traffic.sights` — what is seen of a move, and of the moves of a run;
* `Tally` — what observations of one kind count;
* `sizes` — the sizes of waits among observations;
* `Move.Observes` — what a move comes to and what is observed of it, case by case;
* `Sight.Accounts` — what is seen of a move accounts for it.

Main results:

* `Traffic.observes_step` — **what is observed of a move**;
* `Move.Observes.countP_eq` — a move adds one observation of a kind, or none;
* `Traffic.accounts_sights` — what is seen of the moves of a run accounts for them.
-/

import Mathlib.Control.Monad.Basic
import Turnstile.Proofs.Limiter.Reports
import Turnstile.Proofs.Traffic.Run

set_option relaxedAutoImplicit false
set_option autoImplicit false

namespace Turnstile

/-! ### Decisions of moves -/

/-- The wait that is at a pause under a name. -/
def Paused.waiting? (paused : Paused) (ticket : Ticket) : Option Wait :=
  match paused ticket with
  | some (.waiting w) => some w
  | _ => none

namespace Move

/-- The wait that begins, goes on or is dropped with a move, as it stands before. -/
def wait? (paused : Paused) : Move → Option Wait
  | .wait _ l ctx key limit window => some ⟨l, ctx, key, limit, window, 0⟩
  | .resume ticket _ | .abandon ticket => paused.waiting? ticket
  | _ => none

/-- The decision of a move: that of a call for one, or of a poll. -/
def decision? (paused : Paused) (s : Setting) : Move → Option Visit
  | .allowN l ctx key n limit window => some (Visit.within s l.clock ctx key n limit window)
  | .wait _ l ctx key limit window => Wait.visit? ⟨l, ctx, key, limit, window, 0⟩ s
  | .resume ticket .timer => (paused.waiting? ticket).bind (·.visit? s)
  | _ => none

/-- A move of a call of a measured limiter itself, not of a request. -/
def IsMeasured : Move → Prop
  | .allowN l .. | .reset l .. | .wait _ l .. => l.measured = true
  | .request .. => False
  | .resume .. | .abandon .. => True

/-- The name of the wait that begins with a move. -/
def begins? : Move → Option Ticket
  | .wait number _ _ key .. => some ⟨key, number⟩
  | _ => none

/-- Whether a move is a reset on behalf of a live context. -/
def resetsLive (s : Setting) : Move → Bool
  | .reset _ ctx _ => (s.status ctx).isNone
  | _ => false

end Move

/-! ### What is seen of a run -/

/-- Whether a caller is told the end of a wait. -/
def Notice.returns : Notice → Bool
  | .waited _ => true
  | _ => false

/-- What is seen of a move: its limiter key, the name of its call if this may pause, the answer of
its decision if it makes one, whether it is the end of a wait that returns, whether it is a reset on
behalf of a live context, and the observations that it adds. -/
structure Sight where
  key : String
  ticket : Option Ticket
  answer : Option (Except LimiterError Bool)
  returned : Bool
  reset : Bool
  observations : List Observation

namespace Traffic

/-- The observations that a move adds to those reported before. -/
def observed (t : Traffic) (s : Setting) (m : Move) : List Observation :=
  (m.work t.paused (s.over t.keyspace)).2.observed.drop s.observed.length

/-- The answer of the decision of a move. -/
def answer? (t : Traffic) (s : Setting) (m : Move) : Option (Except LimiterError Bool) :=
  (m.decision? t.paused s).map fun v => (v.pay t.keyspace).1

/-- What is seen of a move. -/
def sight (t : Traffic) (s : Setting) (m : Move) : Sight where
  key := m.key
  ticket := m.ticket?
  answer := t.answer? s m
  returned := ((t.step s m).1.told.map Notice.returns).getD false
  reset := m.resetsLive s
  observations := t.observed s m

/-- What is seen of the moves of a run. -/
def sights : Traffic → List (Setting × Move) → List Sight
  | _, [] => []
  | t, (s, m) :: rest => t.sight s m :: (t.step s m).2.sights rest

theorem sights_append (t : Traffic) (xs ys : List (Setting × Move)) :
    t.sights (xs ++ ys) = t.sights xs ++ (t.after xs).sights ys := by
  induction xs generalizing t with
  | nil => rfl
  | cons x xs ih => exact congrArg (t.sight x.1 x.2 :: ·) (ih (t.step x.1 x.2).2)

end Traffic

/-! ### What observations count -/

/-- A kind of observations that are counted: the answers of decisions, or the latencies of an
operation. -/
inductive Tally
  | request (allowed : Bool)
  | latency (op : Operation)

namespace Tally

/-- Whether an observation is of a kind and about a key. -/
def sees (key : String) : Tally → Observation → Bool
  | .request allowed, .request k a => k == key && a == allowed
  | .latency op, .latency k label _ => k == key && label == op.label
  | _, _ => false

/-- What the observations of a kind are to count: the decisions about a key that are answered so;
the decisions about it, the waits for it that return, or the resets of it on behalf of a live
context. -/
def happens (key : String) : Tally → Sight → Bool
  | .request allowed, x => x.key == key && decide (x.answer = some (.ok allowed))
  | .latency .allowN, x => x.key == key && x.answer.isSome
  | .latency .wait, x => x.key == key && x.returned
  | .latency .reset, x => x.key == key && x.reset

end Tally

/-- The sizes of waits for a key among observations, in their order. -/
def sizes (key : String) (os : List Observation) : List Quantity := os.filterMap (·.size? key)

theorem sizes_append (key : String) (os os' : List Observation) :
    sizes key (os ++ os') = sizes key os ++ sizes key os' := List.filterMap_append ..

theorem sizes_cons (key : String) (o : Observation) (os : List Observation) :
    sizes key (o :: os) = (o.size? key).toList ++ sizes key os := by
  cases h : o.size? key <;> simp [sizes, h]

section Parts

variable (key : String) (k : Tally) (w : Wait) (answer : Except LimiterError Bool)

/-- A decision shows no size. -/
theorem sizes_observedOf (j : String) : sizes key (SlidingWindow.observedOf j answer) = [] := by
  cases answer <;> rfl

theorem sizes_polling :
    sizes key (w.polling answer) = if w.key = key then [.ofNat (w.cycles + 1)] else [] := by
  rw [Wait.polling, sizes_cons, sizes_observedOf, List.append_nil]
  by_cases h : w.key = key <;> simp [Observation.size?, h]

theorem sizes_closing : sizes key w.closing = if w.key = key then [.zero] else [] := by
  by_cases h : w.key = key <;> simp [sizes, Wait.closing, Observation.size?, h]

/-- What a decision counts: its answer if it did not fail, and its latency. -/
theorem countP_observedOf (j : String) :
    (SlidingWindow.observedOf j answer).countP (k.sees key) =
      match k with
      | .request allowed => if j = key ∧ answer = .ok allowed then 1 else 0
      | .latency .allowN => if j = key then 1 else 0
      | .latency _ => 0 := by
  by_cases h : j = key
  · rcases k with allowed | op
    · rcases answer with e | a
      · simp [SlidingWindow.observedOf, Tally.sees]
      · by_cases ha : a = allowed <;> simp [SlidingWindow.observedOf, Tally.sees, h, ha]
    · cases op <;> cases answer <;> simp [SlidingWindow.observedOf, Tally.sees, h, Operation.label]
  · rcases k with allowed | op
    · cases answer <;> simp [SlidingWindow.observedOf, Tally.sees, h]
    · cases op <;> cases answer <;> simp [SlidingWindow.observedOf, Tally.sees, h]

/-- A poll counts what its decision does. -/
theorem countP_polling :
    (w.polling answer).countP (k.sees key) =
      (SlidingWindow.observedOf w.key answer).countP (k.sees key) := by
  cases k <;> simp [Wait.polling, Tally.sees]

/-- What the end of a wait counts: its latency. -/
theorem countP_closing :
    w.closing.countP (k.sees key) =
      match k with
      | .latency .wait => if w.key = key then 1 else 0
      | _ => 0 := by
  rcases k with allowed | op
  · simp [Wait.closing, Tally.sees]
  · by_cases h : w.key = key <;> cases op <;>
      simp [Wait.closing, Tally.sees, h, Operation.label]

end Parts

/-! ### What is observed of a move -/

/-- The calls at pauses are waits of measured limiters for the keys of their names. -/
def Paused.Measured (paused : Paused) : Prop :=
  ∀ ticket task, paused ticket = some task →
    ∃ w, task = .waiting w ∧ w.key = ticket.key ∧ w.limiter.measured = true

theorem Paused.waiting?_eq_some {paused : Paused} {ticket : Ticket} {w : Wait} :
    paused.waiting? ticket = some w ↔ paused ticket = some (.waiting w) := by
  unfold waiting?
  split
  · next w' htask => simp [htask]
  · next hnot =>
      refine iff_of_false nofun fun htask => ?_
      exact hnot w htask

/-- Where no wait is at a pause, nothing is. -/
theorem Paused.Measured.eq_none {paused : Paused} (h : paused.Measured) {ticket : Ticket}
    (hnone : paused.waiting? ticket = none) : paused ticket = none := by
  cases htask : paused ticket with
  | none => rfl
  | some task =>
      obtain ⟨w, rfl, -⟩ := h ticket task htask
      rw [Paused.waiting?_eq_some.2 htask] at hnone
      exact nomatch hnone

/-- A wait that moves has a name. -/
theorem Move.ticket?_of_wait? {m : Move} {paused : Paused} {w : Wait}
    (h : m.wait? paused = some w) : ∃ number, m.ticket? = some ⟨m.key, number⟩ := by
  cases m with
  | allowN l ctx key n limit window => exact nomatch h
  | reset l ctx key => exact nomatch h
  | wait number l ctx key limit window => exact ⟨number, rfl⟩
  | request number l parent caller => exact nomatch h
  | resume ticket wake => exact ⟨ticket.number, rfl⟩
  | abandon ticket => exact ⟨ticket.number, rfl⟩

theorem Move.ticket?_of_begins? {m : Move} {ticket : Ticket} (h : m.begins? = some ticket) :
    m.ticket? = some ticket := by
  cases m with
  | wait number l ctx key limit window => exact h
  | _ => exact nomatch h

/-- Where no wait moves under a name, none is at a pause and none begins. -/
theorem Move.IsMeasured.idle {m : Move} (hm : m.IsMeasured) {paused : Paused}
    (hpaused : paused.Measured) {ticket : Ticket} (hticket : m.ticket? = some ticket)
    (hnone : m.wait? paused = none) : paused ticket = none ∧ m.begins? = none := by
  cases m with
  | allowN l ctx key n limit window => exact nomatch hticket
  | reset l ctx key => exact nomatch hticket
  | wait number l ctx key limit window => exact nomatch hnone
  | request number l parent caller => exact hm.elim
  | resume moved wake =>
      obtain rfl := Option.some.inj hticket
      exact ⟨hpaused.eq_none hnone, rfl⟩
  | abandon moved =>
      obtain rfl := Option.some.inj hticket
      exact ⟨hpaused.eq_none hnone, rfl⟩

/-- What a move comes to whose decision, if it makes one, is answered so, and what is observed of
it. -/
inductive Move.Observes (m : Move) (paused : Paused) (s : Setting) :
    Option (Except LimiterError Bool) → Landing → List Observation → Prop
  /-- A call for a decision. -/
  | decided (alone : m.ticket? = none) (noReset : m.resetsLive s = false) (n : Nat)
      (answer : Except LimiterError Bool) :
      Observes m paused s (some answer) ⟨some (.decided n answer), none⟩
        (SlidingWindow.observedOf m.key answer)
  /-- A reset on behalf of a live context. -/
  | reset (alone : m.ticket? = none) (live : m.resetsLive s = true)
      (result : Except LimiterError Unit) :
      Observes m paused s none ⟨some (.cleared result), none⟩
        [.latency m.key Operation.reset.label .zero]
  /-- A reset on behalf of a finished one. -/
  | barred (alone : m.ticket? = none) (finished : m.resetsLive s = false)
      (result : Except LimiterError Unit) :
      Observes m paused s none ⟨some (.cleared result), none⟩ []
  /-- A stretch of a wait. -/
  | waits {w : Wait} {answer : Option (Except LimiterError Bool)}
      {turn : Turn Wait (Except LimiterError Unit)} {added : List Observation}
      (of : m.wait? paused = some w) (key : w.key = m.key) (noReset : m.resetsLive s = false)
      (measured : w.limiter.measured = true) (stretch : w.Observes answer turn added) :
      Observes m paused s answer (.ofTurn (Task.ofWait turn)) added
  /-- A wait that is dropped. -/
  | dropped {w : Wait} (of : m.wait? paused = some w) (noReset : m.resetsLive s = false) :
      Observes m paused s none .empty [.waiting m.key .zero]
  /-- A move of a wait that is not at a pause. -/
  | idle (nothing : m.wait? paused = none) (noReset : m.resetsLive s = false) :
      Observes m paused s none .empty []

namespace Traffic

variable {t : Traffic} {s : Setting} {m : Move}

/-- What work adds is what is observed of its move. -/
theorem observed_of_adds {added : List Observation}
    (h : Act.Adds (m.work t.paused) (s.over t.keyspace) added) : t.observed s m = added := by
  have hsame : (s.over t.keyspace).observed = s.observed := rfl
  rw [observed, h, hsame, List.drop_left]

/-- What is observed of a stretch of a wait is observed of its move. -/
theorem observes_wait {w : Wait} {act : Act MemoryStore (Turn Wait (Except LimiterError Unit))}
    {answer : Option (Except LimiterError Bool)} (hof : m.wait? t.paused = some w)
    (hkey : w.key = m.key) (hreset : m.resetsLive s = false) (hmeasured : w.limiter.measured = true)
    (hwork : m.work t.paused = do return .ofTurn (Task.ofWait (← act)))
    (hstretch : ∃ added, Act.Adds act (s.over t.keyspace) added ∧
      w.Observes answer (act (s.over t.keyspace)).1 added) :
    m.Observes t.paused s answer (t.step s m).1 (t.observed s m) := by
  obtain ⟨added, hadds, hobserves⟩ := hstretch
  have hlanding : (t.step s m).1 = .ofTurn (Task.ofWait (act (s.over t.keyspace)).1) := by
    simp only [step, Act.on, hwork]
    rfl
  have hobserved : t.observed s m = added := by
    refine observed_of_adds ?_
    rw [hwork]
    exact hadds.before (.pure _)
  rw [hlanding, hobserved]
  exact .waits hof hkey hreset hmeasured hobserves

/-- A move that does nothing. -/
theorem observes_idle (hnone : m.wait? t.paused = none) (hreset : m.resetsLive s = false)
    (hwork : m.work t.paused = pure .empty) :
    m.Observes t.paused s none (t.step s m).1 (t.observed s m) := by
  have hlanding : (t.step s m).1 = .empty := by
    simp only [step, Act.on, hwork]
    rfl
  have hobserved : t.observed s m = [] := by
    refine observed_of_adds ?_
    rw [hwork]
    exact .pure _
  rw [hlanding, hobserved]
  exact .idle hnone hreset

/-- **What is observed of a move.** -/
theorem observes_step (hm : m.IsMeasured) (hpaused : t.paused.Measured) (s : Setting) :
    m.Observes t.paused s (t.answer? s m) (t.step s m).1 (t.observed s m) := by
  cases m with
  | allowN l ctx key n limit window =>
      let v := Visit.within s l.clock ctx key n limit window
      have hanswer : (l.allowN ctx key n limit window (s.over t.keyspace)).1 =
          (v.pay t.keyspace).1 :=
        congrArg Prod.fst (l.on_allowN ctx key n limit window s t.keyspace)
      have hobserved : t.observed s (.allowN l ctx key n limit window) =
          SlidingWindow.observedOf key (v.pay t.keyspace).1 := by
        rw [← hanswer]
        exact observed_of_adds
          ((SlidingWindow.adds_allowN hm ctx key n limit window _).before (.pure _))
      rw [hobserved, step_allowN]
      exact .decided rfl rfl n _
  | reset l ctx key =>
      have hadds := SlidingWindow.adds_reset hm ctx key (s.over t.keyspace)
      have hobserved : t.observed s (.reset l ctx key) =
          if (s.status ctx).isNone then [.latency key Operation.reset.label .zero] else [] :=
        observed_of_adds (hadds.before (.pure _))
      have hlanding : (t.step s (.reset l ctx key)).1 =
          ⟨some (.cleared (l.reset ctx key (s.over t.keyspace)).1), none⟩ := rfl
      rw [hobserved, hlanding]
      by_cases hlive : (s.status ctx).isNone = true
      · have hresets : (Move.reset l ctx key).resetsLive s = true := hlive
        rw [if_pos hlive]
        exact .reset rfl hresets _
      · have hbarred : (Move.reset l ctx key).resetsLive s = false := Bool.eq_false_iff.2 hlive
        rw [if_neg hlive]
        exact .barred rfl hbarred _
  | wait number l ctx key limit window =>
      exact observes_wait rfl rfl rfl hm rfl
        (Wait.observes_poll (w := ⟨l, ctx, key, limit, window, 0⟩) hm s t.keyspace)
  | request number l parent caller => exact hm.elim
  | resume ticket wake =>
      cases htask : t.paused ticket with
      | none =>
          have hnone : (Move.resume ticket wake).wait? t.paused = none := by
            simp [Move.wait?, Paused.waiting?, htask]
          have hanswer : t.answer? s (.resume ticket wake) = none := by
            cases wake <;> simp [answer?, Move.decision?, Paused.waiting?, htask]
          rw [hanswer]
          exact observes_idle hnone rfl (by simp [Move.work, htask])
      | some task =>
          obtain ⟨w, rfl, hkey, hmeasured⟩ := hpaused ticket task htask
          have hof : t.paused.waiting? ticket = some w := Paused.waiting?_eq_some.2 htask
          have hwork : (Move.resume ticket wake).work t.paused =
              do return .ofTurn (Task.ofWait (← w.resume wake)) := by
            simp only [Move.work, htask, Task.resume]
            rfl
          refine observes_wait hof hkey rfl hmeasured hwork ?_
          cases wake with
          | timer =>
              have hanswer : t.answer? s (.resume ticket .timer) =
                  (w.visit? s).map fun v => (v.pay t.keyspace).1 := by
                simp [answer?, Move.decision?, hof]
              rw [hanswer]
              exact Wait.observes_poll hmeasured s t.keyspace
          | context cause => exact Wait.observes_finish hmeasured _ _
  | abandon ticket =>
      cases htask : t.paused ticket with
      | none =>
          have hnone : (Move.abandon ticket).wait? t.paused = none := by
            simp [Move.wait?, Paused.waiting?, htask]
          exact observes_idle hnone rfl (by simp [Move.work, htask])
      | some task =>
          obtain ⟨w, rfl, hkey, hmeasured⟩ := hpaused ticket task htask
          have hof : t.paused.waiting? ticket = some w := Paused.waiting?_eq_some.2 htask
          have hwork : (Move.abandon ticket).work t.paused = do
              w.abandon
              return .empty := by
            simp only [Move.work, htask, Task.abandon]
          have hobserved : t.observed s (.abandon ticket) = [.waiting ticket.key .zero] := by
            refine observed_of_adds ?_
            rw [hwork, ← hkey]
            exact (Wait.adds_abandon hmeasured _).before (.pure _)
          have hlanding : (t.step s (.abandon ticket)).1 = .empty := by
            simp only [step, Act.on, hwork]
            rfl
          rw [hobserved, hlanding]
          exact .dropped hof rfl

end Traffic

/-! ### What a move counts -/

namespace Move.Observes

variable {m : Move} {paused : Paused} {s : Setting} {answer : Option (Except LimiterError Bool)}
  {e : Landing} {added : List Observation}

/-- **A move adds one observation of a kind if this is what it is to count, and none otherwise.** -/
theorem countP_eq (h : m.Observes paused s answer e added) (key : String) (k : Tally) :
    added.countP (k.sees key) =
      if k.happens key ⟨m.key, m.ticket?, answer, (e.told.map Notice.returns).getD false,
        m.resetsLive s, added⟩ then 1 else 0 := by
  cases h with
  | decided alone noReset n answer =>
      rw [countP_observedOf]
      rcases k with allowed | op
      · simp [Tally.happens]
      · cases op <;> simp [Tally.happens, Notice.returns, noReset]
  | reset alone live result =>
      rcases k with allowed | op
      · simp [Tally.sees, Tally.happens]
      · cases op <;> simp [Tally.sees, Tally.happens, Notice.returns, live, Operation.label]
  | barred alone finished result =>
      rcases k with allowed | op
      · simp [Tally.happens]
      · cases op <;> simp [Tally.happens, Notice.returns, finished]
  | dropped of noReset =>
      rcases k with allowed | op
      · simp [Tally.sees, Tally.happens]
      · cases op <;> simp [Tally.sees, Tally.happens, Landing.empty, noReset]
  | idle nothing noReset =>
      rcases k with allowed | op
      · simp [Tally.happens]
      · cases op <;> simp [Tally.happens, Landing.empty, noReset]
  | @waits w answer turn added of hkey noReset measured stretch =>
      rw [← hkey]
      cases stretch with
      | asleep answer on =>
          rw [countP_polling, countP_observedOf]
          rcases k with allowed | op
          · simp [Tally.happens]
          · cases op <;>
              simp [Tally.happens, Landing.ofTurn, Task.ofWait, Turn.map, noReset]
      | ended answer result =>
          rw [List.countP_append, countP_polling, countP_observedOf, countP_closing]
          rcases k with allowed | op
          · simp [Tally.happens]
          · cases op <;>
              simp [Tally.happens, Landing.ofTurn, Task.ofWait, Turn.map, Notice.returns, noReset]
      | finished result =>
          rw [countP_closing]
          rcases k with allowed | op
          · simp [Tally.happens]
          · cases op <;>
              simp [Tally.happens, Landing.ofTurn, Task.ofWait, Turn.map, Notice.returns, noReset]

/-- A size for a key is observed of a call of this key. -/
theorem owned (h : m.Observes paused s answer e added) {key : String}
    (hsize : sizes key added ≠ []) : ∃ number, m.ticket? = some ⟨key, number⟩ := by
  cases h with
  | decided => exact absurd (sizes_observedOf key _ _) hsize
  | reset => exact absurd rfl hsize
  | barred => exact absurd rfl hsize
  | idle => exact absurd rfl hsize
  | dropped of =>
      obtain rfl : m.key = key := by
        by_contra hkey
        exact hsize (by simp [sizes, Observation.size?, hkey])
      exact Move.ticket?_of_wait? of
  | @waits w answer turn added of hkey noReset measured stretch =>
      obtain rfl : w.key = key := by
        by_contra hother
        have hpolling (answer : Except LimiterError Bool) : sizes key (w.polling answer) = [] := by
          rw [sizes_polling, if_neg hother]
        have hclosing : sizes key w.closing = [] := by rw [sizes_closing, if_neg hother]
        cases stretch with
        | asleep answer on => exact hsize (hpolling answer)
        | ended answer result =>
            rw [sizes_append, hpolling, hclosing] at hsize
            exact hsize rfl
        | finished result => exact hsize hclosing
      rw [hkey]
      exact Move.ticket?_of_wait? of

/-- What a move leaves at a pause is a wait of a measured limiter for its key. -/
theorem left_eq (h : m.Observes paused s answer e added) {task : Task}
    (htask : e.left = some task) :
    ∃ w, task = .waiting w ∧ w.key = m.key ∧ w.limiter.measured = true := by
  cases h with
  | decided => exact nomatch htask
  | reset => exact nomatch htask
  | barred => exact nomatch htask
  | dropped => exact nomatch htask
  | idle => exact nomatch htask
  | @waits w answer turn added of hkey noReset measured stretch =>
      cases stretch with
      | asleep answer on => exact ⟨_, (Option.some.inj htask).symm, hkey, measured⟩
      | ended answer result => exact nomatch htask
      | finished result => exact nomatch htask

end Move.Observes

namespace Traffic

variable {t : Traffic} {s : Setting} {m : Move}

/-- The calls at pauses stay waits of measured limiters. -/
theorem measured_step (hm : m.IsMeasured) (hpaused : t.paused.Measured) (s : Setting) :
    (t.step s m).2.paused.Measured := by
  intro ticket task htask
  rw [paused_step] at htask
  by_cases hmoved : m.ticket? = some ticket
  · rw [if_pos hmoved] at htask
    rw [ticket_key hmoved]
    exact (observes_step hm hpaused s).left_eq htask
  · rw [if_neg hmoved] at htask
    exact hpaused ticket task htask

end Traffic

/-! ### What is seen of a run accounts for it -/

/-- What is seen of a move accounts for it: it counts one observation of a kind if this is what it
is to count, and a size for a key is reported by a call of this key. -/
structure Sight.Accounts (x : Sight) : Prop where
  counts : ∀ (key : String) (k : Tally),
    x.observations.countP (k.sees key) = if k.happens key x then 1 else 0
  owned : ∀ key : String, sizes key x.observations ≠ [] →
    ∃ number, x.ticket = some ⟨key, number⟩

namespace Traffic

/-- What is seen of a move of a measured limiter accounts for it. -/
theorem accounts_sight {t : Traffic} {m : Move} (hm : m.IsMeasured) (hpaused : t.paused.Measured)
    (s : Setting) : (t.sight s m).Accounts where
  counts := (observes_step hm hpaused s).countP_eq
  owned := fun _ => (observes_step hm hpaused s).owned

theorem accounts_sights {t : Traffic} (hpaused : t.paused.Measured) {run : List (Setting × Move)}
    (hmeasured : ∀ x ∈ run, x.2.IsMeasured) : ∀ x ∈ t.sights run, x.Accounts := by
  induction run generalizing t with
  | nil => exact nofun
  | cons x rest ih =>
      have hx : x.2.IsMeasured := hmeasured x List.mem_cons_self
      intro y hy
      rcases List.mem_cons.1 hy with rfl | hy
      · exact accounts_sight hx hpaused x.1
      · exact ih (measured_step hx hpaused x.1)
          (fun z hz => hmeasured z (List.mem_cons_of_mem x hz)) y hy

/-- The calls at pauses are waits of measured limiters after every run. -/
theorem measured_after {t : Traffic} (hpaused : t.paused.Measured) {run : List (Setting × Move)}
    (hmeasured : ∀ x ∈ run, x.2.IsMeasured) : (t.after run).paused.Measured := by
  induction run generalizing t with
  | nil => exact hpaused
  | cons x rest ih =>
      exact ih (measured_step (hmeasured x List.mem_cons_self) hpaused x.1)
        fun z hz => hmeasured z (List.mem_cons_of_mem x hz)

theorem measured_start : start.paused.Measured := fun _ _ h => nomatch h

end Traffic

end Turnstile
