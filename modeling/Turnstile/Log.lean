/-
**What is logged.**

Each line of the log is an event of the domain; its level, its target, its message and its fields
follow from the event.

Main definitions:

* `LogEvent` — the events;
* `LogEntry` — a line of the log;
* `LogEvent.entry` — the line of an event;
* `Report` — an observation or an event, in the order in which they happen.
-/

import Turnstile.Metrics.Observation

set_option relaxedAutoImplicit false
set_option autoImplicit false

namespace Turnstile

/-- How important a line is. -/
inductive LogLevel
  | trace
  | debug
  | warn
  deriving DecidableEq

/-- The name of a level. -/
def LogLevel.name : LogLevel → String
  | .trace => "TRACE"
  | .debug => "DEBUG"
  | .warn => "WARN"

/-- A field of a line. -/
inductive LogField
  | text (s : String)
  | number (n : Nat)
  | truth (b : Bool)
  | reading (x : Quantity)

/-- A line of the log. -/
structure LogEntry where
  level : LogLevel
  target : String
  message : String
  fields : List (String × LogField)

/-- How a request is decided: by one decision or by waiting for an admission. -/
inductive AdmissionMode
  | reject
  | wait
  deriving DecidableEq

/-- The events that are logged. -/
inductive LogEvent
  /-- An observation that goes to the log. -/
  | measured (o : Observation)
  /-- A call was admitted. -/
  | admitted (key : String) (n limit : Nat)
  /-- A call was denied. -/
  | denied (key : String) (n limit : Nat)
  /-- A decision failed. -/
  | decisionFailed (key : String) (error : LimiterError)
  /-- A wait goes to sleep before its next poll. -/
  | awaitingCapacity (key : String) (cycles : Nat)
  /-- A wait ended without admission. -/
  | waitEnded (key : String) (cycles : Nat) (error : LimiterError)
  /-- A reset failed. -/
  | resetFailed (key : String) (error : LimiterError)
  /-- The last attempt failed. -/
  | retriesExhausted (attempts : Nat) (error : LimiterError)
  /-- An attempt failed and another one follows. -/
  | retrying (attempt : Nat) (delay : Duration) (error : LimiterError)
  /-- The admission layer asks its limiter. -/
  | asking (key : String) (attempt : Nat) (mode : AdmissionMode)
  /-- A request is over quota. -/
  | requestRejected (key : String) (limit : Nat)
  /-- The limiter failed and the request is let through. -/
  | failedOpen (key : String) (error : LimiterError)
  /-- The limiter failed and the request is refused. -/
  | failedClosed (key : String) (error : LimiterError)
  /-- A connection to a remote store is being opened. -/
  | opening
  /-- A connection to a remote store could not be opened. -/
  | connectionFailed
  /-- A remote script failed. -/
  | scriptFailed (script : String)
  /-- A broken connection is given up. -/
  | discarding

/-- The line of an observation that goes to the log. -/
def Observation.entry : Observation → LogEntry
  | .request key allowed =>
      ⟨.debug, "windowgate::metrics", "request", [("key", .text key), ("allowed", .truth allowed)]⟩
  | .latency key operation seconds =>
      ⟨.trace, "windowgate::metrics", "latency",
        [("key", .text key), ("operation", .text operation), ("seconds", .reading seconds)]⟩
  | .waiting key size =>
      ⟨.trace, "windowgate::metrics", "waiting_queue_size",
        [("key", .text key), ("size", .reading size)]⟩
  | .active kind count =>
      ⟨.debug, "windowgate::metrics", "active_limiters",
        [("kind", .text kind), ("count", .reading count)]⟩

/-- The line of an event. -/
def LogEvent.entry : LogEvent → LogEntry
  | .measured o => o.entry
  | .admitted key n limit =>
      ⟨.trace, "windowgate::limiter", "admitted",
        [("key", .text key), ("n", .number n), ("limit", .number limit)]⟩
  | .denied key n limit =>
      ⟨.debug, "windowgate::limiter", "denied",
        [("key", .text key), ("n", .number n), ("limit", .number limit)]⟩
  | .decisionFailed key error =>
      let (level, message) :=
        if error.isBackend then (LogLevel.warn, "allow_n failed")
        else (LogLevel.debug, "allow_n aborted")
      ⟨level, "windowgate::limiter", message, [("key", .text key), ("error", .text error.message)]⟩
  | .awaitingCapacity key cycles =>
      ⟨.trace, "windowgate::limiter", "waiting for capacity",
        [("key", .text key), ("cycles", .number cycles)]⟩
  | .waitEnded key cycles error =>
      ⟨.debug, "windowgate::limiter", "wait ended without admission",
        [("key", .text key), ("cycles", .number cycles), ("error", .text error.message)]⟩
  | .resetFailed key error =>
      ⟨.warn, "windowgate::limiter", "reset failed",
        [("key", .text key), ("error", .text error.message)]⟩
  | .retriesExhausted attempts error =>
      ⟨.warn, "windowgate::retry", "retries exhausted",
        [("attempts", .number attempts), ("error", .text error.message)]⟩
  | .retrying attempt delay error =>
      ⟨.debug, "windowgate::retry", "retrying limiter call",
        [("attempt", .number attempt), ("delay_ms", .number (delay.millis % (maxWord + 1))),
          ("error", .text error.message)]⟩
  | .asking key attempt mode =>
      let message := match mode with
        | .reject => Operation.allowN.label
        | .wait => Operation.wait.label
      ⟨.trace, "windowgate::admission", message,
        [("key", .text key), ("attempt", .number attempt)]⟩
  | .requestRejected key limit =>
      ⟨.debug, "windowgate::admission", "request rejected",
        [("key", .text key), ("limit", .number limit)]⟩
  | .failedOpen key error =>
      ⟨.warn, "windowgate::admission", "limiter failed, admitting request",
        [("key", .text key), ("error", .text error.message)]⟩
  | .failedClosed key error =>
      ⟨.warn, "windowgate::admission", "limiter failed, refusing request",
        [("key", .text key), ("error", .text error.message)]⟩
  | .opening => ⟨.debug, "windowgate::redis", "opening multiplexed connection", []⟩
  | .connectionFailed => ⟨.warn, "windowgate::redis", "connection failed", []⟩
  | .scriptFailed script =>
      ⟨.warn, "windowgate::redis", "script failed", [("script", .text script)]⟩
  | .discarding => ⟨.debug, "windowgate::redis", "discarding connection", []⟩

/-- What a limiter or an admission layer reports, in the order in which it happens. -/
inductive Report
  | observed (o : Observation)
  | logged (e : LogEvent)

end Turnstile
