/-
**The sliding-window limiter.**

A limiter decides whether `n` events of a key fit its quota, by one script call on the store; it
can wait until one event fits, and it can forget a key.  Waiting is a loop of polls with a sleep
between them.  Each poll is one stretch of work: it ends with the answer of the wait, or with a
pause after which the next poll follows.

Main definitions:

* `SlidingWindow` — a limiter;
* `SlidingWindow.decide` — one decision, as a function of the store;
* `SlidingWindow.allowN`, `SlidingWindow.reset` — the calls that never pause;
* `Wait`, `Wait.start`, `Wait.resume`, `Wait.abandon` — the call that does.
-/

import Turnstile.Limiter.Script
import Turnstile.World

set_option relaxedAutoImplicit false
set_option autoImplicit false

namespace Turnstile

variable {σ : Type}

/-- A limiter: the delay between the polls of a wait, the sleeper that lets it pass, where the time
is read, and whether its observations are measured. -/
structure SlidingWindow where
  pollInterval : Duration
  sleeper : Sleeper
  clock : ClockSource
  measured : Bool
  deriving DecidableEq

namespace SlidingWindow

/-- The delay between polls unless another one is given. -/
def defaultPollInterval : Duration := ⟨100000000, by omega⟩

/-- A limiter without any choice: it reads the system's clock and is not measured. -/
def plain : SlidingWindow := ⟨defaultPollInterval, .timer, .system, false⟩

/-- A measured limiter on a clock of its own with a poll interval, which must not be zero. -/
def make (pollInterval : Duration) (sleeper : Sleeper) : Except ConfigError SlidingWindow :=
  if pollInterval.isZero then .error .zeroPollInterval
  else .ok ⟨pollInterval, sleeper, .own, true⟩

/-! ### Decisions -/

/-- Why the arguments of a call cannot be honoured, if they cannot. -/
def argumentFault? (n : Nat) (window : Duration) : Option LimiterError :=
  if n = 0 then some (.invalidArgument "n must be at least 1")
  else if window.millis = 0 then
    some (.invalidArgument ("window must be at least 1ms (got " ++ window.text ++ ")"))
  else none

/-- The arguments of the script for a decision. -/
def scriptArgs (clock n limit : Nat) (window : Duration) : List ScriptArg :=
  [.ofNat clock, .ofNat window.clampedMillis, .ofNat limit, .ofNat n]

/-- What the reply of the script means. -/
def readReply (key : String) : Except StoreError ScriptValue → Except LimiterError Bool
  | .error source => .error (.ofStore .allowN key source)
  | .ok (.int v) => .ok (v == 1)
  | .ok other => .error (.unexpectedReply .allowN key other.text)

/-- One decision: whether `n` events of `key` fit.  Bad arguments and a finished context are
found before the store is called. -/
def decide [Backend σ] (clock : Nat) (call : Call) (key : String) (n limit : Nat)
    (window : Duration) (s : σ) : Except LimiterError Bool × σ :=
  match argumentFault? n window with
  | some fault => (.error fault, s)
  | none =>
      match call.status with
      | some cause => (.error (.context cause), s)
      | none =>
          let (reply, s) := Backend.eval call SlidingScript.script (SlidingScript.keys key)
            (scriptArgs clock n limit window) s
          (readReply key reply, s)

/-- What is logged about a decision. -/
def decisionEvent (key : String) (n limit : Nat) : Except LimiterError Bool → LogEvent
  | .ok true => .admitted key n limit
  | .ok false => .denied key n limit
  | .error e => .decisionFailed key e

/-- Reports a decision: how long it took, how it ended if it did not fail, and what is logged. -/
def report (l : SlidingWindow) (key : String) (n limit : Nat) (result : Except LimiterError Bool) :
    Act σ Unit := do
  Act.observe l.measured (.latency key Operation.allowN.label .zero)
  if let .ok allowed := result then
    Act.observe l.measured (.request key allowed)
  Act.log (decisionEvent key n limit result)

/-- Decides whether `n` events of `key` fit, and reports it. -/
def allowN [Backend σ] (l : SlidingWindow) (ctx : ContextId) (key : String) (n limit : Nat)
    (window : Duration) : Act σ (Except LimiterError Bool) := do
  let clock ← Act.limiterReading l.clock
  let result ← Act.callStore ctx fun call => decide clock call key n limit window
  l.report key n limit result
  return result

/-- Forgets a key. -/
def forget [Backend σ] (call : Call) (key : String) (s : σ) : Except LimiterError Unit × σ :=
  match Backend.delete call (SlidingScript.keys key) s with
  | (.ok _, s) => (.ok (), s)
  | (.error source, s) => (.error (.ofStore .reset key source), s)

/-- Reports a reset: how long it took, and its failure if it failed. -/
def reportReset (l : SlidingWindow) (key : String) (result : Except LimiterError Unit) :
    Act σ Unit := do
  Act.observe l.measured (.latency key Operation.reset.label .zero)
  if let .error e := result then
    Act.log (.resetFailed key e)

/-- Forgets a key, and reports it unless the context is finished. -/
def reset [Backend σ] (l : SlidingWindow) (ctx : ContextId) (key : String) :
    Act σ (Except LimiterError Unit) := do
  match ← Act.status ctx with
  | some cause => return .error (.context cause)
  | none =>
      let result ← Act.callStore ctx fun call => forget call key
      l.reportReset key result
      return result

/-- The descriptive text of a limiter whose clock and hook are described by `clock` and `hook`, and
whose sleeper, if it keeps a journal, has `written` these delays. -/
def describe (l : SlidingWindow) (clock hook : String) (written : List Duration) : String :=
  Text.record "SlidingWindowLimiter"
    [("clock", clock), ("sleeper", l.sleeper.describe written),
      ("metrics", Text.record "Metrics" [("hook", hook)]),
      ("poll_interval", l.pollInterval.text)]

end SlidingWindow

/-! ### Waiting -/

/-- A wait between two polls: its limiter, its arguments, and the polls made so far. -/
structure Wait where
  limiter : SlidingWindow
  ctx : ContextId
  key : String
  limit : Nat
  window : Duration
  cycles : Nat
  deriving DecidableEq

namespace Wait

/-- The end of a wait: its size goes back to zero. -/
def finish (w : Wait) (result : Except LimiterError Unit) :
    Act σ (Turn Wait (Except LimiterError Unit)) := do
  Act.observe w.limiter.measured (.waiting w.key .zero)
  Act.observe w.limiter.measured (.latency w.key Operation.wait.label .zero)
  if let .error e := result then
    Act.log (.waitEnded w.key w.cycles e)
  return .done result

/-- What follows the decision of a poll: the wait ends if the event is admitted or if the decision
failed; else it sleeps until the next poll. -/
def follow (w : Wait) : Except LimiterError Bool → Act σ (Turn Wait (Except LimiterError Unit))
  | .ok true => w.finish (.ok ())
  | .error e => w.finish (.error e)
  | .ok false => do
      Act.log (.awaitingCapacity w.key w.cycles)
      match ← Act.sleep w.ctx w.limiter.sleeper w.limiter.pollInterval with
      | .error cause => w.finish (.error (.context cause))
      | .ok pause => return .pause pause w

/-- One poll: the wait ends if its context is finished, else a decision says what follows. -/
def poll [Backend σ] (w : Wait) : Act σ (Turn Wait (Except LimiterError Unit)) := do
  match ← Act.status w.ctx with
  | some cause => w.finish (.error (.context cause))
  | none =>
      let w := { w with cycles := w.cycles + 1 }
      Act.observe w.limiter.measured (.waiting w.key (.ofNat w.cycles))
      w.follow (← w.limiter.allowN w.ctx w.key 1 w.limit w.window)

/-- Begins a wait for one event of a key. -/
def start [Backend σ] (l : SlidingWindow) (ctx : ContextId) (key : String) (limit : Nat)
    (window : Duration) : Act σ (Turn Wait (Except LimiterError Unit)) :=
  poll ⟨l, ctx, key, limit, window, 0⟩

/-- Goes on after a sleep. -/
def resume [Backend σ] (w : Wait) : Wake → Act σ (Turn Wait (Except LimiterError Unit))
  | .timer => w.poll
  | .context cause => w.finish (.error (.context cause))

/-- Gives a wait up: its size goes back to zero. -/
def abandon (w : Wait) : Act σ Unit := Act.observe w.limiter.measured (.waiting w.key .zero)

end Wait

end Turnstile
