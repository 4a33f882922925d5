/-
**The world in which calls run.**

Time is virtual: it passes only when every task stands still.  A task therefore runs in stretches;
each stretch changes the world and ends with the answer of the task or with a pause.  A pause names
the context that it races and the timer that ends it; whoever runs the tasks resumes one when its
pause is over.

Main definitions:

* `World` — the instant, the contexts, the clocks, the store and everything reported;
* `Act` — a stretch of work on the world;
* `ClockSource` — where the time is read;
* `Sleeper` — the ways to let a delay pass;
* `Pause`, `Wake`, `Turn` — how a stretch ends and what ends a pause;
* `World.wake?`, `World.afterPause`, `World.due` — whether a pause is over, the world after it, and
  when it will be over;
* `Act.sleep` — a sleep that ends early when its context is finished.
-/

import Turnstile.Context
import Turnstile.Log
import Turnstile.Retry.Delay
import Turnstile.Store.Backend
import Turnstile.Text.Descriptive

set_option relaxedAutoImplicit false
set_option autoImplicit false

namespace Turnstile

/-! ### Clocks -/

/-- Where a limiter or a store reads the time. -/
inductive ClockSource
  /-- A clock of its own, which moves when it is moved. -/
  | own
  /-- The clock of the system, which nobody moves. -/
  | system
  deriving DecidableEq

/-- A clock reading after a duration: it wraps around at `2 ^ 64` milliseconds. -/
def clockAfter (reading : Nat) (d : Duration) : Nat :=
  (reading + d.clampedMillis) % (maxWord + 1)

/-! ### Sleepers -/

/-- A way to let a delay pass. -/
inductive Sleeper
  /-- Virtual time passes. -/
  | timer
  /-- Nothing happens. -/
  | instant
  /-- Nothing happens, but the delay is written into a journal. -/
  | tracking (journal : Nat)
  /-- The clocks are moved when the sleep begins; no virtual time passes. -/
  | manual
  /-- Virtual time passes, and the clocks are moved when the sleep is complete. -/
  | ticking
  deriving DecidableEq

/-- The descriptive text of a sleeper; one that keeps a journal shows the delays `written` in
it. -/
def Sleeper.describe (written : List Duration) : Sleeper → String
  | .timer => "TokioSleeper"
  | .instant => "InstantSleeper"
  | .tracking _ =>
      Text.record "TrackingSleeper"
        [("calls", Text.shared (Text.listed (written.map Duration.text)))]
  | .manual => "ManualSleeper"
  | .ticking => "TickingSleeper"

/-- The sleeps asked of the sleepers that move the clocks: how many, the last delay, and at which
of them a context is to be cancelled. -/
structure Pacer where
  requested : Nat
  last : Option Duration
  cancelAt : Option (Nat × ContextId)
  deriving DecidableEq

/-! ### Pauses -/

/-- Where a task stands still: the context it races, the instant at which its timer fires, and how
far the clocks move when it does. -/
structure Pause where
  context : Option ContextId
  timer : Option Nat
  moves : Option Duration
  deriving DecidableEq

/-- What ended a pause. -/
inductive Wake
  | timer
  | context (cause : ContextError)
  deriving DecidableEq

/-- How a stretch of work ends: with an answer, or with a pause and what is left to do. -/
inductive Turn (κ α : Type)
  | done (answer : α)
  | pause (on : Pause) (rest : κ)

/-- The same end with the rest and the answer of another task. -/
def Turn.map {κ κ' α α' : Type} (f : κ → κ') (g : α → α') : Turn κ α → Turn κ' α'
  | .done a => .done (g a)
  | .pause on k => .pause on (f k)

/-! ### The world -/

/-- Everything that calls can see or change, around a store whose state is a `σ`. -/
structure World (σ : Type) where
  /-- The virtual instant. -/
  now : Nat
  contexts : Contexts
  /-- The reading of the limiters' clock, in milliseconds. -/
  limiterClock : Nat
  /-- The reading of the store's clock, in milliseconds. -/
  storeClock : Nat
  /-- The reading of the system's clock, in milliseconds. -/
  systemClock : Nat
  /-- Where the store reads the time. -/
  storeSource : ClockSource
  /-- The delays that tracking sleepers have written down, by journal. -/
  journals : Array (Array Duration)
  pacer : Pacer
  words : WordSource
  /-- What was reported and not yet taken away. -/
  reports : Array Report
  backend : σ

/-- A stretch of work on the world. -/
abbrev Act (σ : Type) := StateM (World σ)

/-- What the clock of the system reads. -/
def systemReading : Nat := 1700000000000

namespace World

variable {σ : Type}

/-- A world at its start, with both clocks at given readings. -/
def start (limiterClock storeClock : Nat) (backend : σ) : World σ where
  now := 0
  contexts := .initial
  limiterClock
  storeClock
  systemClock := systemReading
  storeSource := .own
  journals := #[#[]]
  pacer := ⟨0, none, none⟩
  words := .cycle [0]
  reports := #[]
  backend

/-- Why a context is finished now, if it is. -/
def status (w : World σ) (ctx : ContextId) : Option ContextError := w.contexts.err? ctx w.now

/-- What the limiters' clock or that of the system reads. -/
def limiterReading (w : World σ) : ClockSource → Nat
  | .own => w.limiterClock
  | .system => w.systemClock

/-- What the store reads as the time. -/
def storeReading (w : World σ) : Nat :=
  match w.storeSource with
  | .own => w.storeClock
  | .system => w.systemClock

/-- Moves both clocks on. -/
def moveClocks (w : World σ) (d : Duration) : World σ :=
  { w with
    limiterClock := clockAfter w.limiterClock d
    storeClock := clockAfter w.storeClock d }

/-- What ended a pause, if it is over.  A finished context comes before a timer. -/
def wake? (w : World σ) (p : Pause) : Option Wake :=
  match p.context.bind w.status with
  | some cause => some (.context cause)
  | none =>
      match p.timer with
      | some t => if t ≤ w.now then some .timer else none
      | none => none

/-- The world after a pause: a timer that has run out may move the clocks. -/
def afterPause (w : World σ) (p : Pause) (wake : Wake) : World σ :=
  match wake, p.moves with
  | .timer, some d => w.moveClocks d
  | _, _ => w

/-- The smaller of two instants, where there are any. -/
def sooner : Option Nat → Option Nat → Option Nat
  | some a, some b => some (min a b)
  | some a, none => some a
  | none, b => b

/-- The instant at which a pause ends if nothing else happens before. -/
def due (w : World σ) (p : Pause) : Option Nat :=
  sooner ((p.context.bind w.contexts.deadline?).map Instant.tick) (p.timer.map Instant.tick)

end World

namespace Act

variable {σ : Type}

/-- Why a context is finished now, if it is. -/
def status (ctx : ContextId) : Act σ (Option ContextError) := fun w => (w.status ctx, w)

/-- Reports an observation if it is to be measured. -/
def observe (measured : Bool) (o : Observation) : Act σ Unit := fun w =>
  ((), if measured then { w with reports := w.reports.push (.observed o) } else w)

/-- Logs an event. -/
def log (e : LogEvent) : Act σ Unit := fun w =>
  ((), { w with reports := w.reports.push (.logged e) })

/-- Calls the store on behalf of a context. -/
def callStore {α : Type} (ctx : ContextId) (f : Call → σ → α × σ) : Act σ α := fun w =>
  let (answer, backend) := f ⟨w.status ctx, w.storeReading⟩ w.backend
  (answer, { w with backend })

/-- What a limiter reads as the time. -/
def limiterReading (source : ClockSource) : Act σ Nat := fun w => (w.limiterReading source, w)

/-- A new context made from the registry. -/
def newContext (make : Contexts → ContextId × Contexts) : Act σ ContextId := fun w =>
  let (id, contexts) := make w.contexts
  (id, { w with contexts })

/-- Cancels a context. -/
def cancel (ctx : ContextId) : Act σ Unit := fun w =>
  ((), { w with contexts := w.contexts.cancel ctx })

/-- A delay after jitter. -/
def jittered (j : Jitter) (d : Duration) : Act σ Duration := fun w =>
  let (d, words) := j.apply d w.words
  (d, { w with words })

/-- Notes a sleep asked of a sleeper that moves the clocks; the context whose turn it is is
cancelled. -/
def pace (d : Duration) : Act σ Unit := fun w =>
  let requested := w.pacer.requested + 1
  let w := { w with pacer := { w.pacer with requested, last := some d } }
  match w.pacer.cancelAt with
  | some (n, ctx) =>
      if requested = n then ((), { w with contexts := w.contexts.cancel ctx }) else ((), w)
  | none => ((), w)

/-- Asks a sleeper for a delay: the pause that lets it pass while racing a context.  A sleep whose
context is cancelled by the very request does not begin. -/
def beginSleep (ctx : Option ContextId) (s : Sleeper) (d : Duration) : Act σ Pause :=
  match s with
  | .timer => fun w => (⟨ctx, some (Instant.tick (w.now + d.nanos)), none⟩, w)
  | .instant => fun w => (⟨ctx, some w.now, none⟩, w)
  | .tracking journal => fun w =>
      (⟨ctx, some w.now, none⟩, { w with journals := w.journals.modify journal (·.push d) })
  | .manual => do
      pace d
      fun w => (⟨ctx, some w.now, none⟩,
        if (ctx.bind w.status).isSome then w else w.moveClocks d)
  | .ticking => do
      pace d
      fun w => (⟨ctx, some (Instant.tick (w.now + d.nanos)), some d⟩, w)

/-- A sleep that races a context.  A finished context ends it before it begins. -/
def sleep (ctx : ContextId) (s : Sleeper) (d : Duration) : Act σ (Except ContextError Pause) := do
  match ← status ctx with
  | some cause => return .error cause
  | none => return .ok (← beginSleep (some ctx) s d)

end Act

end Turnstile
