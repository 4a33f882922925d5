/-
**The rig of a scenario.**

A scenario runs calls on one limiter over one store in memory, with at most one admission layer in
front of a service that counts its calls.  The rig is all of that together with what is noted down
about it: the calls that reached the store, those that reached the scripted limiter, the attempts
of retries, and the log.

A limiter is alive as long as the rig, its layer or a call under way holds it; every begin and end
of one is observed.

Main definitions:

* `RigLimiter` — the limiters that a layer of a scenario asks;
* `Rig` — the state, a `Backend` through its store;
* `Rig.eval` — runs a script on the store, past the limiters;
* `Rig.drain` — hands what was reported to the meter;
* `Act.installLimiter`, `Act.dropLimiter`, `Act.installLayer` — the changes that begin or end
  limiters;
* `Act.borrow`, `Act.giveBack` — the begin and the end of a call on a limiter.
-/

import Turnstile.Admission.Service
import Turnstile.Metrics.Hook
import Turnstile.Store.Memory

set_option relaxedAutoImplicit false
set_option autoImplicit false

namespace Turnstile

/-- A call that reached the scripted limiter. -/
inductive LimiterCall
  | allowN (key : String) (n limit : Nat) (window : Duration)
  | wait (key : String) (limit : Nat) (window : Duration)
  deriving DecidableEq

/-- A sliding-window limiter of a scenario, told from the others by its number. -/
structure LiveLimiter where
  number : Nat
  limiter : SlidingWindow
  deriving DecidableEq

/-- The limiters that a layer of a scenario asks: a sliding-window limiter, or one that answers
outcomes laid ready. -/
inductive RigLimiter
  | sliding (l : LiveLimiter)
  | scripted
  deriving DecidableEq

/-- The sliding-window limiter behind a limiter, if it is one. -/
def RigLimiter.live? : RigLimiter → Option LiveLimiter
  | .sliding l => some l
  | .scripted => none

/-- The state of a scenario beyond its world. -/
structure Rig where
  store : TappedStore
  /-- The outcomes laid ready for the scripted limiter. -/
  outcomes : List (Except LimiterError Bool)
  /-- The calls that reached the scripted limiter, latest first. -/
  limiterCalls : List LimiterCall
  meter : Meter
  /-- What was logged, latest first. -/
  log : List LogEvent
  limiter : Option LiveLimiter
  /-- The sliding-window limiters made so far. -/
  made : Nat
  /-- The numbers of the limiters that calls under way hold, once for every call. -/
  borrowed : List Nat
  layer : Option (Layer RigLimiter)
  /-- The journal of the last retry policy given to a layer. -/
  layerJournal : Option Nat
  /-- The contexts by the numbers under which the scenario knows them. -/
  contexts : Array ContextId
  /-- The attempts that retries made, by retry. -/
  attempts : Array (Array Nat)
  innerCalls : Nat

namespace Rig

/-- A rig with a store and a hook, and nothing else. -/
def start (store : MemoryStore) (hook : Hook) : Rig where
  store := .ofMemory store
  outcomes := []
  limiterCalls := []
  meter := .ofHook hook
  log := []
  limiter := none
  made := 0
  borrowed := []
  layer := none
  layerJournal := none
  contexts := #[0]
  attempts := #[]
  innerCalls := 0

/-- Works on the store. -/
def onStore {α : Type} (act : TappedStore → α × TappedStore) (r : Rig) : α × Rig :=
  let (answer, store) := act r.store
  (answer, { r with store })

/-- Runs a script on the store and tells how it ended. -/
def eval (call : Call) (script : Script) (keys : List String) (args : List ScriptArg) :
    Rig → Except StoreError ScriptEnd × Rig :=
  onStore (TappedStore.eval call script keys args)

instance : Backend Rig where
  eval := fun call script keys args => onStore (Backend.eval call script keys args)
  delete := fun call keys => onStore (Backend.delete call keys)

/-- Hands what was reported to the meter; what goes to the log is noted down. -/
def drain (w : World Rig) : World Rig :=
  let (events, meter) := w.backend.meter.reportAll w.reports
  { w with
    reports := #[]
    backend := { w.backend with meter, log := events.foldl (fun log e => e :: log) w.backend.log } }

/-- The sliding-window limiter of the layer, if it is over one. -/
def layerLimiter? (r : Rig) : Option LiveLimiter := r.layer.bind fun l => l.limiter.live?

/-- Whether the rig, its layer or a call under way holds the limiter of a number. -/
def holds (r : Rig) (number : Nat) : Bool :=
  r.limiter.any (·.number == number) || r.layerLimiter?.any (·.number == number) ||
    r.borrowed.contains number

/-- The observations that a memory hook holds; none for another hook. -/
def observations (r : Rig) : MemoryLog :=
  match r.meter.hook with
  | .memory l => l
  | _ => .ofCapacity MemoryLog.defaultCapacity

/-- Forgets the observations that a memory hook holds. -/
def clearObservations (r : Rig) : Rig :=
  match r.meter.hook with
  | .memory l => { r with meter := { r.meter with hook := .memory l.clear } }
  | _ => r

end Rig

namespace Act

/-- Changes the rig. -/
def onRig {α : Type} (f : Rig → α × Rig) : Act Rig α := fun w =>
  let (answer, backend) := f w.backend
  (answer, { w with backend })

/-- Counts a limiter up or down and reports the number, if limiters are measured. -/
def countLimiter (l : LiveLimiter)
    (count : Meter → String → Observation × Meter) : Act Rig Unit := do
  if l.limiter.measured then
    let o ← onRig fun r =>
      let (o, meter) := count r.meter slidingWindowKind
      (o, { r with meter })
    observe true o

/-- Ends a limiter that is no longer held. -/
def release (l : Option LiveLimiter) : Act Rig Unit := do
  if let some l := l then
    let held ← onRig fun r => (r.holds l.number, r)
    if !held then countLimiter l Meter.ended

/-- A call begins to hold a limiter. -/
def borrow (l : Option LiveLimiter) : Act Rig Unit :=
  onRig fun r => ((), { r with borrowed := l.elim r.borrowed fun l => l.number :: r.borrowed })

/-- A call no longer holds a limiter, which ends unless it is still held. -/
def giveBack (l : Option LiveLimiter) : Act Rig Unit := do
  onRig fun r => ((), { r with borrowed := l.elim r.borrowed fun l => r.borrowed.erase l.number })
  release l

/-- Begins a limiter and puts it in the place of the one before, which ends unless it is still
held. -/
def installLimiter (limiter : SlidingWindow) : Act Rig Unit := do
  let l ← onRig fun r => (⟨r.made, limiter⟩, { r with made := r.made + 1 })
  countLimiter l Meter.started
  let old ← onRig fun r => (r.limiter, { r with limiter := some l })
  release old

/-- Drops the limiter; it ends unless it is still held. -/
def dropLimiter : Act Rig Unit := do
  let old ← onRig fun r => (r.limiter, { r with limiter := none })
  release old

/-- Puts a layer in the place of the one before, whose limiter ends unless it is still held. -/
def installLayer (layer : Layer RigLimiter) : Act Rig Unit := do
  let old ← onRig fun r => (r.layerLimiter?, { r with layer := some layer })
  release old

/-- Notes a call that reached the scripted limiter and takes the next outcome; without one the call
is admitted. -/
def nextOutcome (call : LimiterCall) : Act Rig (Except LimiterError Bool) :=
  onRig fun r =>
    let r := { r with limiterCalls := call :: r.limiterCalls }
    match r.outcomes with
    | outcome :: rest => (outcome, { r with outcomes := rest })
    | [] => (.ok true, r)

end Act

namespace RigLimiter

/-- One decision. -/
def allowN (l : RigLimiter) (ctx : ContextId) (key : String) (n limit : Nat) (window : Duration) :
    Act Rig (Except LimiterError Bool) :=
  match l with
  | .sliding l => l.limiter.allowN ctx key n limit window
  | .scripted => Act.nextOutcome (.allowN key n limit window)

/-- A wait; the scripted limiter never lets one pause, and any answer but an error admits. -/
def wait (l : RigLimiter) (ctx : ContextId) (key : String) (limit : Nat) (window : Duration) :
    Act Rig (Turn Wait (Except LimiterError Unit)) :=
  match l with
  | .sliding l => Wait.start l.limiter ctx key limit window
  | .scripted => do
      let outcome ← Act.nextOutcome (.wait key limit window)
      return .done (outcome.map fun _ => ())

instance : RateLimiter RigLimiter Rig Wait where
  allowN := allowN
  wait := wait
  resume := fun _ => Wait.resume
  abandon := fun _ => Wait.abandon

end RigLimiter

end Turnstile
