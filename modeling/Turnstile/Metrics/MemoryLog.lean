/-
**A bounded log of observations.**

The log holds at most a given number of observations, at least one; when it is full the oldest one
gives way, and is counted.  Clearing the log keeps that count.  The observations are kept in two
lists, the older ones in order and the newer ones in reverse, so that adding one and dropping the
oldest one both take a single step most of the time.

Main definitions:

* `MemoryLog` — the log, `MemoryLog.events` the observations it holds;
* `MemoryLog.push`, `MemoryLog.clear` — what changes it;
* `MemoryLog.requests`, `MemoryLog.latencyOperations`, `MemoryLog.waitingSizes`,
  `MemoryLog.activeLimiters?` — what it tells;
* `MemoryLog.describe` — its descriptive text.

Main results:

* `MemoryLog.events_push`, `MemoryLog.evicted_push` — what `push` does, through `events`, and to the
  count of what gave way.
-/

import Turnstile.Metrics.Observation

set_option relaxedAutoImplicit false
set_option autoImplicit false

namespace Turnstile

/-- A bounded log: the observations held, how many those are, how many it may hold, and how many
gave way. -/
structure MemoryLog where
  older : List Observation
  newer : List Observation
  held : Nat
  capacity : Nat
  evicted : Nat
  held_eq : held = older.length + newer.length

namespace MemoryLog

/-- The observations held, oldest first. -/
def events (l : MemoryLog) : List Observation := l.older ++ l.newer.reverse

/-- The empty log of a capacity; it holds at least one observation. -/
def ofCapacity (capacity : Nat) : MemoryLog := ⟨[], [], 0, max capacity 1, 0, rfl⟩

/-- The capacity of a log unless another one is given. -/
def defaultCapacity : Nat := 10000

/-- Adds an observation without looking at the capacity. -/
def add (l : MemoryLog) (o : Observation) : MemoryLog :=
  ⟨l.older, o :: l.newer, l.held + 1, l.capacity, l.evicted, by
    have := l.held_eq
    simp only [List.length_cons]
    omega⟩

/-- Drops the oldest observation, if there is one, and counts it. -/
def dropOldest (l : MemoryLog) : MemoryLog :=
  match h : l.older with
  | _ :: rest =>
      ⟨rest, l.newer, l.held - 1, l.capacity, l.evicted + 1, by
        have := l.held_eq
        rw [h, List.length_cons] at this
        omega⟩
  | [] =>
      match h' : l.newer.reverse with
      | _ :: rest =>
          ⟨rest, [], l.held - 1, l.capacity, l.evicted + 1, by
            have e := congrArg List.length h'
            have := l.held_eq
            rw [h] at this
            simp only [List.length_reverse, List.length_cons, List.length_nil] at e this ⊢
            omega⟩
      | [] => l

/-- Adds an observation; in a full log the oldest one gives way. -/
def push (l : MemoryLog) (o : Observation) : MemoryLog :=
  if l.capacity ≤ l.held then l.dropOldest.add o else l.add o

/-- Forgets the observations held. -/
def clear (l : MemoryLog) : MemoryLog := ⟨[], [], 0, l.capacity, l.evicted, rfl⟩

@[simp] theorem events_add (l : MemoryLog) (o : Observation) :
    (l.add o).events = l.events ++ [o] := by
  simp [events, add]

theorem events_dropOldest (l : MemoryLog) : l.dropOldest.events = l.events.tail := by
  unfold dropOldest events
  split
  · next h => simp [h]
  · next h =>
      split
      · next h' => simp [h, h']
      · next h' => simp [h, h']

theorem length_events (l : MemoryLog) : l.events.length = l.held := by
  simp [events, l.held_eq]

theorem capacity_dropOldest (l : MemoryLog) : l.dropOldest.capacity = l.capacity := by
  unfold dropOldest
  split
  · rfl
  · split <;> rfl

@[simp] theorem capacity_push (l : MemoryLog) (o : Observation) :
    (l.push o).capacity = l.capacity := by
  unfold push
  split
  · exact l.capacity_dropOldest
  · rfl

/-- In a full log the oldest observation gives way. -/
theorem events_push (l : MemoryLog) (o : Observation) :
    (l.push o).events = (if l.capacity ≤ l.held then l.events.tail else l.events) ++ [o] := by
  unfold push
  split
  · rw [events_add, events_dropOldest]
  · rw [events_add]

/-- Where something is held, the oldest observation that is dropped is counted. -/
theorem evicted_dropOldest {l : MemoryLog} (h : 0 < l.held) :
    l.dropOldest.evicted = l.evicted + 1 := by
  unfold dropOldest
  split
  · rfl
  · next hold =>
      split
      · rfl
      · next hnew =>
          have hempty : l.held = 0 := by
            rw [← length_events, events, hold, hnew]
            rfl
          exact absurd hempty (Nat.ne_of_gt h)

/-- In a full log an observation is counted as given way. -/
theorem evicted_push {l : MemoryLog} (h : 0 < l.capacity) (o : Observation) :
    (l.push o).evicted = if l.capacity ≤ l.held then l.evicted + 1 else l.evicted := by
  unfold push
  split
  · next hfull => exact evicted_dropOldest (Nat.lt_of_lt_of_le h hfull)
  · rfl

/-- How many decisions on a key were admissions, and how many denials. -/
def requests (l : MemoryLog) (key : String) : Nat × Nat :=
  l.events.foldl (fun (yes, no) o => match o with
    | .request k true => if k = key then (yes + 1, no) else (yes, no)
    | .request k false => if k = key then (yes, no + 1) else (yes, no)
    | _ => (yes, no)) (0, 0)

/-- The operations on a key whose latency was observed, in order. -/
def latencyOperations (l : MemoryLog) (key : String) : List String :=
  l.events.filterMap fun o => match o with
    | .latency k operation _ => if k = key then some operation else none
    | _ => none

/-- The waiting sizes of a key, in order. -/
def waitingSizes (l : MemoryLog) (key : String) : List Quantity :=
  l.events.filterMap fun o => match o with
    | .waiting k size => if k = key then some size else none
    | _ => none

/-- The last number of limiters of a kind. -/
def activeLimiters? (l : MemoryLog) (kind : String) : Option Quantity :=
  l.events.reverse.findSome? fun o => match o with
    | .active k count => if k = kind then some count else none
    | _ => none

/-- The descriptive text of a log. -/
def describe (l : MemoryLog) : String :=
  Text.record "MemoryMetrics"
    [("events", Text.shared (Text.listed (l.events.map Observation.describe))),
      ("capacity", toString l.capacity), ("evicted", toString l.evicted)]

end MemoryLog

end Turnstile
