/-
**What a bounded log retains.**

A log in memory holds as many observations as its capacity allows.  Each one made beyond that pushes
out the oldest one, which is counted.  To clear the log takes the observations and leaves the count.
So what the log is told falls into stretches, cut where it is cleared, and the stretches tell all
about it: it holds the end of the last one, as much of it as fits, and it has counted whatever any of
them had beyond the capacity.  What it answers about a key or a kind is read off what it holds.

Main definitions:

* `Chronicle` — observations in stretches, cut where the log was cleared;
* `Chronicle.beyond` — how many observations its stretches had beyond a capacity;
* `MeterBench.chronicle` — what a log is told in the course of steps;
* `MemoryLog.Retains` — a log holds and has counted what a chronicle says.

Main results:

* `MemoryLog.Retains.push`, `MemoryLog.Retains.clear` — what a log is told next;
* `MeterBench.Retains.perform` — **a step tells the log and its chronicle the same**;
* `MeterBench.retained_after` — **what a log holds, has counted and answers after any steps**.
-/

import Mathlib.Algebra.Ring.Nat
import Mathlib.Data.List.DropRight
import Turnstile.Proofs.Metrics.Agreement
import Turnstile.Proofs.Metrics.Alive

set_option relaxedAutoImplicit false
set_option autoImplicit false

namespace Turnstile

/-! ### Stretches -/

/-- The observations that a log was told, cut where it was cleared: the stretches that have ended,
and the last one. -/
structure Chronicle where
  ended : List (List Observation)
  last : List Observation

/-- A step that clears the log. -/
def MeterStep.clears : MeterStep → Bool
  | .clear => true
  | _ => false

namespace Chronicle

/-- Nothing was told yet. -/
def initial : Chronicle := ⟨[], []⟩

/-- The stretches, oldest first; there is always one. -/
def stretches (r : Chronicle) : List (List Observation) := r.ended ++ [r.last]

/-- The last stretch goes on. -/
def tell (r : Chronicle) (os : List Observation) : Chronicle := ⟨r.ended, r.last ++ os⟩

/-- The last stretch ends. -/
def cut (r : Chronicle) : Chronicle := ⟨r.stretches, []⟩

/-- What becomes of a chronicle in a step that tells the log some observations. -/
def next (r : Chronicle) (s : MeterStep) (told : List Observation) : Chronicle :=
  if s.clears then r.cut else r.tell told

/-- How many observations the stretches had beyond a capacity, each for itself. -/
def beyond (r : Chronicle) (capacity : Nat) : Nat :=
  (r.stretches.map fun os => os.length - capacity).sum

@[simp] theorem tell_nil (r : Chronicle) : r.tell [] = r := by
  simp [tell]

theorem tell_tell (r : Chronicle) (os os' : List Observation) :
    (r.tell os).tell os' = r.tell (os ++ os') := by
  simp [tell]

@[simp] theorem flatten_cut (r : Chronicle) : r.cut.stretches.flatten = r.stretches.flatten := by
  simp [cut, stretches]

@[simp] theorem flatten_tell (r : Chronicle) (os : List Observation) :
    (r.tell os).stretches.flatten = r.stretches.flatten ++ os := by
  simp [tell, stretches]

theorem length_next (r : Chronicle) (s : MeterStep) (told : List Observation) :
    (r.next s told).stretches.length =
      r.stretches.length + if s.clears then 1 else 0 := by
  unfold next
  split <;> simp [cut, tell, stretches]

theorem beyond_eq (r : Chronicle) (capacity : Nat) :
    r.beyond capacity =
      (r.ended.map fun os => os.length - capacity).sum + (r.last.length - capacity) := by
  simp [beyond, stretches]

/-- A stretch that begins has nothing beyond any capacity. -/
@[simp] theorem beyond_cut (r : Chronicle) (capacity : Nat) :
    r.cut.beyond capacity = r.beyond capacity := by
  rw [beyond_eq, cut, List.length_nil, Nat.zero_sub, Nat.add_zero, beyond]

theorem beyond_tell_singleton (r : Chronicle) (o : Observation) (capacity : Nat) :
    (r.tell [o]).beyond capacity =
      r.beyond capacity + if capacity ≤ r.last.length then 1 else 0 := by
  have hlength : (r.tell [o]).last.length = r.last.length + 1 := by simp [tell]
  rw [beyond_eq, beyond_eq, hlength, show (r.tell [o]).ended = r.ended from rfl]
  split <;> omega

/-- No more observations are beyond a capacity than there are. -/
theorem beyond_le (r : Chronicle) (capacity : Nat) :
    r.beyond capacity ≤ r.stretches.flatten.length := by
  rw [beyond]
  induction r.stretches with
  | nil => exact Nat.le_refl _
  | cons os rest ih =>
      rw [List.map_cons, List.sum_cons, List.flatten_cons, List.length_append]
      omega

end Chronicle

/-! ### What a log is told next -/

namespace MemoryLog

variable {l : MemoryLog} {r : Chronicle} {capacity : Nat}

/-- A log of a capacity holds the end of the last stretch of a chronicle, and has counted what its
stretches had beyond the capacity. -/
structure Retains (l : MemoryLog) (capacity : Nat) (r : Chronicle) : Prop where
  capacity_eq : l.capacity = capacity
  events_eq : l.events = r.last.rtake capacity
  evicted_eq : l.evicted = r.beyond capacity

theorem retains_ofCapacity (capacity : Nat) :
    (ofCapacity capacity).Retains (max capacity 1) .initial :=
  ⟨rfl, (List.rtake_nil _).symm, by simp [Chronicle.beyond_eq, Chronicle.initial, ofCapacity]⟩

/-- **An observation more.** -/
theorem Retains.push (h : l.Retains capacity r) (hpos : 0 < capacity) (o : Observation) :
    (l.push o).Retains capacity (r.tell [o]) := by
  have hheld : l.held = min capacity r.last.length := by
    rw [← length_events, h.events_eq, List.rtake, List.length_drop]
    omega
  have hfull : l.capacity ≤ l.held ↔ capacity ≤ r.last.length := by
    rw [h.capacity_eq, hheld]
    omega
  constructor
  · rw [capacity_push, h.capacity_eq]
  · have hlength : (r.last ++ [o]).length = r.last.length + 1 := by simp
    rw [events_push, h.events_eq, Chronicle.tell, List.rtake, List.rtake, hlength]
    by_cases hroom : capacity ≤ r.last.length
    · rw [if_pos (hfull.2 hroom), List.tail_drop,
        List.drop_append_of_le_length (by omega), Nat.sub_add_comm hroom]
    · have hnone : r.last.length - capacity = 0 := by omega
      have hnone' : r.last.length + 1 - capacity = 0 := by omega
      rw [if_neg (hfull.not.2 hroom), hnone, hnone', List.drop_zero, List.drop_zero]
  · rw [evicted_push (h.capacity_eq ▸ hpos), h.evicted_eq, Chronicle.beyond_tell_singleton]
    by_cases hroom : capacity ≤ r.last.length
    · rw [if_pos (hfull.2 hroom), if_pos hroom]
    · rw [if_neg (hfull.not.2 hroom), if_neg hroom, Nat.add_zero]

theorem Retains.pushAll (h : l.Retains capacity r) (hpos : 0 < capacity) (os : List Observation) :
    (os.foldl MemoryLog.push l).Retains capacity (r.tell os) := by
  induction os generalizing l r with
  | nil => simpa using h
  | cons o os ih =>
      have hone := ih (h.push hpos o)
      rwa [Chronicle.tell_tell, List.singleton_append] at hone

/-- **The log is cleared**: the count of what gave way stays. -/
theorem Retains.clear (h : l.Retains capacity r) : l.clear.Retains capacity r.cut := by
  refine ⟨h.capacity_eq, ?_, ?_⟩
  · rw [Chronicle.cut, List.rtake_nil]
    rfl
  · rw [Chronicle.beyond_cut, ← h.evicted_eq]
    rfl

end MemoryLog

/-! ### What is asked of a log -/

/-- A fold that counts two results apart. -/
theorem foldl_results {α : Type} {f : Nat × Nat → α → Nat × Nat} (result? : α → Option Bool)
    (hf : ∀ yes no a, f (yes, no) a = (yes + (result? a).toList.count true,
      no + (result? a).toList.count false)) (as : List α) (yes no : Nat) :
    as.foldl f (yes, no) =
      (yes + (as.filterMap result?).count true, no + (as.filterMap result?).count false) := by
  induction as generalizing yes no with
  | nil => rfl
  | cons a as ih =>
      have hcons : (a :: as).filterMap result? = (result? a).toList ++ as.filterMap result? := by
        rw [List.filterMap_cons]
        cases result? a <;> rfl
      rw [List.foldl_cons, hf, ih, hcons, List.count_append, List.count_append, Nat.add_assoc,
        Nat.add_assoc]

namespace MemoryLog

/-- The decisions on a key are counted by their results. -/
theorem requests_eq (l : MemoryLog) (key : String) :
    l.requests key = ((l.events.filterMap (Observation.decision? key)).count true,
      (l.events.filterMap (Observation.decision? key)).count false) := by
  refine (foldl_results (Observation.decision? key) (fun yes no o => ?_) l.events 0 0).trans ?_
  · cases o with
    | request k allowed =>
        by_cases hkey : k = key <;> cases allowed <;> simp [Observation.decision?, hkey]
    | latency | waiting | active => rfl
  · rw [Nat.zero_add, Nat.zero_add]

theorem latencyOperations_eq (l : MemoryLog) (key : String) :
    l.latencyOperations key = l.events.filterMap (Observation.operation? key) := by
  refine List.filterMap_congr fun o _ => ?_
  cases o <;> rfl

theorem waitingSizes_eq (l : MemoryLog) (key : String) :
    l.waitingSizes key = l.events.filterMap (Observation.size? key) := by
  refine List.filterMap_congr fun o _ => ?_
  cases o <;> rfl

/-- The number of a kind is the last one reported. -/
theorem activeLimiters?_eq (l : MemoryLog) (kind : String) :
    l.activeLimiters? kind = lastActive? kind l.events := by
  rw [lastActive?, List.getLast?_filterMap, activeLimiters?]
  congr 1

end MemoryLog

/-! ### Steps -/

namespace MeterBench

variable {b : MeterBench} {r : Chronicle} {capacity : Nat}

/-- What steps tell a log, after what a chronicle says. -/
def chronicle (b : MeterBench) (r : Chronicle) : List MeterStep → Chronicle
  | [] => r
  | s :: rest => (b.perform s).2.2.chronicle (r.next s (b.turn s).1) rest

/-- The hook of a bench is a log that retains what a chronicle says. -/
def Retains (b : MeterBench) (capacity : Nat) (r : Chronicle) : Prop :=
  ∃ l, b.meter.hook = .memory l ∧ l.Retains capacity r

/-- The hook of a bench after a step has taken in what the step reports. -/
theorem perform_hook (b : MeterBench) (s : MeterStep) :
    (b.perform s).2.2.meter.hook = ((b.turn s).2.meter.hook.observeAll (b.turn s).1).1 := rfl

/-- **A step tells the log and its chronicle the same.** -/
theorem Retains.perform (h : b.Retains capacity r) (hpos : 0 < capacity) (s : MeterStep) :
    (b.perform s).2.2.Retains capacity (r.next s (b.turn s).1) := by
  obtain ⟨l, hhook, hl⟩ := h
  by_cases hs : s = .clear
  · subst hs
    refine ⟨l.clear, ?_, hl.clear⟩
    rw [perform_hook, MeterBench.turn, hhook]
    rfl
  · have hnext : r.next s (b.turn s).1 = r.tell (b.turn s).1 := by
      cases s with
      | clear => exact absurd rfl hs
      | observe | share | start | build | drop | query | queryActive | events | registerAgain
      | gather => rfl
    refine ⟨_, ?_, hnext ▸ hl.pushAll hpos (b.turn s).1⟩
    rw [perform_hook, b.turn_hook hs, hhook, Hook.observeAll_memory]

theorem Retains.after (h : b.Retains capacity r) (hpos : 0 < capacity) (steps : List MeterStep) :
    (b.after steps).Retains capacity (b.chronicle r steps) := by
  induction steps generalizing b r with
  | nil => exact h
  | cons s rest ih => exact ih (h.perform hpos s)

/-- Clearing reports nothing. -/
theorem turn_clear (b : MeterBench) : (b.turn .clear).1 = [] := by
  rw [MeterBench.turn]
  split <;> rfl

/-- A chronicle has all that steps report, in order. -/
theorem flatten_chronicle (b : MeterBench) (r : Chronicle) (steps : List MeterStep) :
    (b.chronicle r steps).stretches.flatten = r.stretches.flatten ++ b.told steps := by
  induction steps generalizing b r with
  | nil => rw [chronicle, told, List.append_nil]
  | cons s rest ih =>
      rw [chronicle, told, ih, ← List.append_assoc, Chronicle.next]
      congr 1
      cases s with
      | clear => rw [MeterStep.clears, if_pos rfl, Chronicle.flatten_cut, turn_clear, List.append_nil]
      | observe | share | start | build | drop | query | queryActive | events | registerAgain
      | gather => exact r.flatten_tell _

/-- A chronicle has a stretch more for every step that clears the log. -/
theorem length_chronicle (b : MeterBench) (r : Chronicle) (steps : List MeterStep) :
    (b.chronicle r steps).stretches.length =
      r.stretches.length + steps.countP MeterStep.clears := by
  induction steps generalizing b r with
  | nil => rfl
  | cons s rest ih =>
      rw [chronicle, ih, Chronicle.length_next, List.countP_cons]
      omega

/-- **What a log holds, has counted and answers after any steps**, whoever holds copies of its
handle.  What the steps reported falls into stretches, one more than the log was cleared.  The log
holds the end of the last stretch, as much as its capacity allows, and it has counted what each
stretch had beyond the capacity; that is never more than was reported, so a 64-bit count can hold it
until as many observations were made.  The answers about a key count and list the decisions,
latencies and waits on it that are held, and the answer about a kind is the last number that is. -/
theorem retained_after (capacity : Nat) (steps : List MeterStep) :
    let first := ofHook (.memory (.ofCapacity capacity))
    let b := first.after steps
    let r := first.chronicle .initial steps
    let most := max capacity 1
    let kept := r.last.rtake (min most r.last.length)
    let gone := (r.stretches.map fun os => os.length - most).sum
    r.stretches.flatten = first.told steps ∧
    r.stretches.length = steps.countP MeterStep.clears + 1 ∧
    (∃ l, b.meter.hook = .memory l ∧ l.events = kept ∧ l.evicted = gone) ∧
    gone ≤ (first.told steps).length ∧
    b.held = .held kept.length gone ∧
    b.perform .events = (.events kept, [], b) ∧
    (∀ key, b.perform (.query key) = (.keyMetrics
        ((kept.filterMap (Observation.decision? key)).count true)
        ((kept.filterMap (Observation.decision? key)).count false)
        (kept.filterMap (Observation.operation? key)) (kept.filterMap (Observation.size? key)),
      [], b)) ∧
    ∀ kind, b.perform (.queryActive kind) = (.active (lastActive? kind kept), [], b) := by
  intro first b r most kept gone
  have hretains : b.Retains most r :=
    Retains.after ⟨_, rfl, MemoryLog.retains_ofCapacity capacity⟩ (Nat.le_max_right ..) steps
  obtain ⟨l, hhook, hl⟩ := hretains
  have hkept : l.events = kept := by
    rw [hl.events_eq]
    simp only [kept, List.rtake]
    congr 1
    omega
  have hobservations : b.observations = l := by rw [observations, hhook]
  have hflatten : r.stretches.flatten = first.told steps := first.flatten_chronicle .initial steps
  have hquiet (s : MeterStep) (hs : b.turn s = ([], b)) : b.perform s = (b.answer b s, [], b) := by
    rw [perform, hs]
    rfl
  refine ⟨hflatten, ?_, ⟨l, hhook, hkept, hl.evicted_eq⟩, hflatten ▸ r.beyond_le most, ?_, ?_,
    fun key => ?_, fun kind => ?_⟩
  · rw [first.length_chronicle .initial steps, Nat.add_comm]
    rfl
  · rw [held, hobservations, ← l.length_events, hkept, hl.evicted_eq]
    rfl
  · rw [hquiet .events rfl, answer, hobservations, hkept]
  · rw [hquiet (.query key) rfl, answer, hobservations, l.requests_eq, l.latencyOperations_eq,
      l.waitingSizes_eq, hkept]
  · rw [hquiet (.queryActive kind) rfl, answer, hobservations, l.activeLimiters?_eq, hkept]

end MeterBench

end Turnstile
