/-
**Where observations go.**

A hook receives every observation: it keeps it in memory, adds it to metrics for collection, writes
it to the log, or drops it.  A meter is a hook together with the numbers of limiters alive, which
every start and end of a limiter reports.

Main definitions:

* `Hook`, `Hook.observe`, `Hook.observeAll` — the hooks and what they do with observations;
* `Meter`, `Meter.started`, `Meter.ended` — limiters counted by kind;
* `Meter.report` — takes in what was reported and says what goes to the log.
-/

import Turnstile.Log
import Turnstile.Metrics.Exposition
import Turnstile.Metrics.MemoryLog

set_option relaxedAutoImplicit false
set_option autoImplicit false

namespace Turnstile

/-- Where observations go. -/
inductive Hook
  | discard
  | log
  | memory (l : MemoryLog)
  | exposition (x : Exposition)

namespace Hook

/-- What a hook does with an observation, and what it logs about it. -/
def observe (h : Hook) (o : Observation) : Hook × List LogEvent :=
  match h with
  | .discard => (.discard, [])
  | .log => (.log, [.measured o])
  | .memory l => (.memory (l.push o), [])
  | .exposition x => (.exposition (x.observe o), [])

/-- What a hook does with observations, one after the other, and what it logs about them. -/
def observeAll (h : Hook) : List Observation → Hook × List LogEvent
  | [] => (h, [])
  | o :: rest =>
      let (h, events) := h.observe o
      let (h, more) := h.observeAll rest
      (h, events ++ more)

/-- The descriptive text of a hook; one for collection shows its name only. -/
def describe : Hook → String
  | .discard => "NullMetrics"
  | .log => "LogMetrics"
  | .memory l => l.describe
  | .exposition _ => "PrometheusMetrics"

end Hook

/-- How many limiters of each kind are alive. -/
abbrev ActiveCounts := List (String × Nat)

namespace ActiveCounts

/-- The number of limiters of a kind. -/
def count (c : ActiveCounts) (kind : String) : Nat := (c.lookup kind).getD 0

/-- Changes the number of limiters of a kind. -/
def update (kind : String) (f : Nat → Nat) : ActiveCounts → ActiveCounts
  | [] => [(kind, f 0)]
  | (k, n) :: rest => if k = kind then (k, f n) :: rest else (k, n) :: update kind f rest

end ActiveCounts

/-- A hook and the numbers of limiters alive. -/
structure Meter where
  hook : Hook
  active : ActiveCounts

namespace Meter

/-- A meter that has seen no limiter. -/
def ofHook (h : Hook) : Meter := ⟨h, []⟩

/-- Counts a limiter of a kind up or down; the new number is to be observed. -/
def adjust (m : Meter) (kind : String) (f : Nat → Nat) : Observation × Meter :=
  let active := ActiveCounts.update kind f m.active
  (.active kind (.ofNat (ActiveCounts.count active kind)), { m with active })

/-- A limiter of a kind begins. -/
def started (m : Meter) (kind : String) : Observation × Meter := m.adjust kind (· + 1)

/-- A limiter of a kind ends; the number stops at zero. -/
def ended (m : Meter) (kind : String) : Observation × Meter := m.adjust kind (· - 1)

/-- Hands an observation to the hook; the answer is what goes to the log. -/
def observe (m : Meter) (o : Observation) : List LogEvent × Meter :=
  let (hook, events) := m.hook.observe o
  (events, { m with hook })

/-- Hands observations to the hook, one after the other; the answer is what goes to the log. -/
def observeAll (m : Meter) (os : List Observation) : List LogEvent × Meter :=
  let (hook, events) := m.hook.observeAll os
  (events, { m with hook })

/-- Takes in one report; the answer is what goes to the log. -/
def report (m : Meter) : Report → List LogEvent × Meter
  | .observed o => m.observe o
  | .logged e => ([e], m)

/-- Takes in reports in order; the answer is what goes to the log. -/
def reportAll (m : Meter) (reports : Array Report) : Array LogEvent × Meter :=
  reports.foldl (fun (events, m) r =>
    let (more, m) := m.report r
    (events ++ more.toArray, m)) (#[], m)

end Meter

end Turnstile
