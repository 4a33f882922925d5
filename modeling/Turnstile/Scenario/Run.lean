/-
**Running a scenario.**

A scenario is set up and then runs its steps one after the other.  A step ends when its action and
all steps beside it have ended; one that has not ended after a minute of virtual time is given up.
An aborted script ends the whole scenario, which then has no outline.

Main definitions:

* `Scenario.Setup`, `Setup.build` — the world at the start, or why its limiter is refused;
* `Scenario.Outline` — what came of a step, and what was noted down meanwhile;
* `Scenario.Fault` — why a scenario has no outlines;
* `Scenario.runStep` — runs one step, unless a script is aborted in it;
* `Scenario.run` — runs all steps.
-/

import Turnstile.Scenario.Task

set_option relaxedAutoImplicit false
set_option autoImplicit false

namespace Turnstile

namespace Scenario

/-! ### Setting up -/

/-- Where the observations of a scenario go. -/
inductive HookChoice
  | memory (capacity : Nat)
  | log
  | discard
  | exposition
  deriving DecidableEq

/-- The hook of a choice. -/
def HookChoice.hook : HookChoice → Hook
  | .memory capacity => .memory (.ofCapacity capacity)
  | .log => .log
  | .discard => .discard
  | .exposition => .exposition .empty

/-- How a scenario begins.  One with `defaults` begins with a limiter and a store without any choice:
they read the system's clock, and the limiter is not measured. -/
structure Setup where
  limiterClock : Nat
  storeClock : Nat
  pollInterval : Duration
  sleeper : Sleeper
  hook : HookChoice
  defaults : Bool
  deriving DecidableEq

/-- The limiter at the start. -/
def Setup.limiter (s : Setup) : Except ConfigError SlidingWindow :=
  if s.defaults then .ok .plain else SlidingWindow.make s.pollInterval s.sleeper

/-- The world at the start. -/
def Setup.build (s : Setup) : Except ConfigError (World Rig) := do
  let limiter ← s.limiter
  let world := World.start s.limiterClock s.storeClock (Rig.start MemoryStore.initial s.hook.hook)
  let world := { world with storeSource := if s.defaults then .system else .own }
  return (Running.drained (Act.installLimiter limiter) world).2

/-! ### Running -/

/-- What came of a step, none if it was given up as a whole, and what was noted down
meanwhile. -/
structure Outline where
  answer : Option StepAnswer
  storeCalls : List StoreCall
  limiterCalls : List LimiterCall
  log : List LogEvent

/-- Why a scenario has no outlines: its limiter was refused, or a script was aborted. -/
inductive Fault
  | refused (e : ConfigError)
  | aborted

/-- Whether what came of a job is an aborted script. -/
def aborts : Option Answer × Nat → Bool
  | (some (.reply (.ok .aborted)), _) => true
  | _ => false

/-- The virtual time after which a step is given up. -/
def patience : Nat := Instant.ofMillis 60000

/-- Takes away what was noted down. -/
def takeNotes (answer : Option StepAnswer) (w : World Rig) : Outline × World Rig :=
  let r := w.backend
  (⟨answer, r.store.calls.reverse, r.limiterCalls.reverse, r.log.reverse⟩,
    { w with
      backend := { r with store := { r.store with calls := [] }, limiterCalls := [], log := [] } })

/-- The job of a piece. -/
def job (start : Nat) (piece : Piece) : Job Piece Running Answer where
  startAt := start
  abandonAt := piece.abortAfterMs.map fun ms => start + Instant.ofMillis ms
  phase := .pending piece

/-- What came of a job and how long that took. -/
def result (j : Job Piece Running Answer) : Option Answer × Nat :=
  match j.phase with
  | .ended at_ answer => (some answer, at_ - j.startAt)
  | .abandoned at_ => (none, at_ - j.startAt)
  | _ => (none, 0)

/-- Runs one step. -/
def runStep (s : Step) (w : World Rig) : Except Fault (Outline × World Rig) :=
  let jobs := (s.pieces w.now).map fun (start, piece) => job start piece
  let ((finished, jobs), w) := Schedule.run Running.tasks (w.now + patience) jobs w
  let results := jobs.map result
  if results.any aborts then .error .aborted
  else
    let answer := (s.collect results).1
    .ok (takeNotes (if finished then some answer else none) w)

/-- Runs steps one after the other. -/
def runSteps : List Step → World Rig → Except Fault (List Outline)
  | [], _ => .ok []
  | s :: rest, w => do
      let (outline, w) ← runStep s w
      return outline :: (← runSteps rest w)

/-- Sets a scenario up and runs its steps; the answer begins with what was noted down before the
first of them. -/
def run (setup : Setup) (steps : List Step) : Except Fault (Outline × List Outline) := do
  let world ← setup.build.mapError Fault.refused
  let (first, world) := takeNotes none world
  return (first, ← runSteps steps world)

end Scenario

end Turnstile
