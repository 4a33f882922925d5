/-
**A meter on its own.**

A meter can be driven without a store: observations are handed to its hook, limiters of any kind are
begun and ended, and what the hook tells is asked for.  Whoever holds a share of the meter is on the
bench: a copy of its handle, a guard that keeps a limiter of some kind counted, or a sliding-window
limiter, which keeps itself counted.  All shares are of one meter.

Main definitions:

* `Holder` — what holds a share of a meter;
* `MeterStep`, `MeterAnswer` — what is done and what comes of it;
* `MeterBench` — a meter with its holders and its registry;
* `MeterBench.begin`, `MeterBench.finish` — a holder comes or goes, with what this tells the hook;
* `MeterBench.perform` — one step, with what it logs;
* `MeterBench.run` — steps one after the other.
-/

import Turnstile.Limiter.SlidingWindow
import Turnstile.Metrics.Hook

set_option relaxedAutoImplicit false
set_option autoImplicit false

namespace Turnstile

/-- What holds a share of a meter. -/
inductive Holder
  /-- A copy of the handle. -/
  | handle
  /-- Keeps a limiter of a kind counted. -/
  | guard (kind : String)
  | limiter (l : SlidingWindow)

/-- The kind under which a holder is counted, if it is. -/
def Holder.kind? : Holder → Option String
  | .handle => none
  | .guard kind => some kind
  | .limiter _ => some slidingWindowKind

/-- What is done with a meter.  A holder that begins has the next number. -/
inductive MeterStep
  | observe (o : Observation)
  /-- Copies the handle. -/
  | share
  /-- Begins a limiter of a kind, of which only the guard is kept. -/
  | start (kind : String)
  /-- Builds a sliding-window limiter. -/
  | build (pollInterval : Duration) (sleeper : Sleeper)
  /-- Drops a holder; a second time this does nothing. -/
  | drop (holder : Nat)
  | query (key : String)
  | queryActive (kind : String)
  | events
  | clear
  /-- Registers the four families a second time. -/
  | registerAgain
  | gather

/-- What comes of a step. -/
inductive MeterAnswer
  /-- The observations held by a memory hook, and those that gave way. -/
  | held (count evicted : Nat)
  /-- A limiter could not be built. -/
  | refused (e : ConfigError)
  | keyMetrics (admitted denied : Nat) (operations : List String) (sizes : List Quantity)
  | active (count : Option Quantity)
  | events (os : List Observation)
  | families (fs : List Family)
  | registered (r : Except RegistryError Unit)

/-- A meter, its holders by number (none once dropped), and the registry of its families. -/
structure MeterBench where
  meter : Meter
  holders : Array (Option Holder)
  registry : Registry

namespace MeterBench

/-- A bench around a hook that registers nothing. -/
def ofHook (h : Hook) : MeterBench := ⟨.ofHook h, #[], ⟨[]⟩⟩

/-- A bench around a hook for collection, in a registry with nothing else. -/
def ofExposition : MeterBench :=
  match Exposition.install (⟨[]⟩ : Registry) with
  | (.ok x, registry) => ⟨.ofHook (.exposition x), #[], registry⟩
  | (.error _, registry) => ⟨.ofHook .discard, #[], registry⟩

/-- The observations that a memory hook holds; none for another hook. -/
def observations (b : MeterBench) : MemoryLog :=
  match b.meter.hook with
  | .memory l => l
  | _ => .ofCapacity MemoryLog.defaultCapacity

/-- The number of observations held and given way. -/
def held (b : MeterBench) : MeterAnswer := .held b.observations.held b.observations.evicted

/-- A holder begins; if it is counted, the new number is to be observed. -/
def begin (b : MeterBench) (holder : Holder) : List Observation × MeterBench :=
  let b := { b with holders := b.holders.push (some holder) }
  match holder.kind? with
  | some kind =>
      let (o, meter) := b.meter.started kind
      ([o], { b with meter })
  | none => ([], b)

/-- A holder ends; if it was counted, the new number is to be observed. -/
def finish (b : MeterBench) (i : Nat) : List Observation × MeterBench :=
  match b.holders[i]?.join with
  | none => ([], b)
  | some holder =>
      let b := { b with holders := b.holders.setIfInBounds i none }
      match holder.kind? with
      | some kind =>
          let (o, meter) := b.meter.ended kind
          ([o], { b with meter })
      | none => ([], b)

/-- What a step tells the hook, and the bench before the hook is told. -/
def turn (b : MeterBench) : MeterStep → List Observation × MeterBench
  | .observe o => ([o], b)
  | .share => b.begin .handle
  | .start kind => b.begin (.guard kind)
  | .build pollInterval sleeper =>
      match SlidingWindow.make pollInterval sleeper with
      | .ok l => b.begin (.limiter l)
      | .error _ => ([], b)
  | .drop i => b.finish i
  | .clear =>
      match b.meter.hook with
      | .memory l => ([], { b with meter := { b.meter with hook := .memory l.clear } })
      | _ => ([], b)
  | .registerAgain => ([], { b with registry := (Exposition.install b.registry).2 })
  | .query _ | .queryActive _ | .events | .gather => ([], b)

/-- What comes of a step that was made at a bench and left another one. -/
def answer (b after : MeterBench) : MeterStep → MeterAnswer
  | .observe _ | .share | .start _ | .drop _ | .clear => after.held
  | .build pollInterval sleeper =>
      match SlidingWindow.make pollInterval sleeper with
      | .ok _ => after.held
      | .error e => .refused e
  | .query key =>
      let l := b.observations
      let (admitted, denied) := l.requests key
      .keyMetrics admitted denied (l.latencyOperations key) (l.waitingSizes key)
  | .queryActive kind => .active (b.observations.activeLimiters? kind)
  | .events => .events b.observations.events
  | .registerAgain => .registered ((Exposition.install b.registry).1.map fun _ => ())
  | .gather =>
      match b.meter.hook with
      | .exposition x => .families x.collect
      | _ => .families []

/-- One step: what comes of it, and what it logs. -/
def perform (b : MeterBench) (s : MeterStep) : MeterAnswer × List LogEvent × MeterBench :=
  let (told, turned) := b.turn s
  let (events, meter) := turned.meter.observeAll told
  let after := { turned with meter }
  (b.answer after s, events, after)

/-- Steps one after the other: what comes of each, and what it logs. -/
def run (b : MeterBench) : List MeterStep → List (MeterAnswer × List LogEvent)
  | [] => []
  | s :: rest =>
      let (answer, events, b) := b.perform s
      (answer, events) :: b.run rest

end MeterBench

end Turnstile
