/-
**The steps of a scenario.**

A step is an action, the context on behalf of which it runs, and other steps that run beside it,
each after a time of its own.  Every step has an answer.

Main definitions:

* `Action`, `Step` — what is done;
* `Answer`, `StepAnswer` — what comes of it;
* `Step.pieces` — the actions of a step with the instants at which they begin;
* `Step.collect` — answers put together in the shape of the step.
-/

import Turnstile.Metrics.Exposition
import Turnstile.Retry.Policy
import Turnstile.Scenario.Rig
import Turnstile.Settings.Reader
import Turnstile.Store.Keyspace

set_option relaxedAutoImplicit false
set_option autoImplicit false

namespace Turnstile

/-! ### Actions -/

/-- The clocks that an action is about. -/
inductive WhichClock
  | limiter
  | store
  | both
  deriving DecidableEq

/-- An outcome of an operation under retry: a payload or an error, after some milliseconds. -/
structure Outcome where
  result : Except LimiterError String
  takesMs : Nat

/-- The limiter that a layer is built over. -/
inductive LayerLimiter
  | sliding
  | scripted
  | none
  deriving DecidableEq

/-- One call on a layer under construction. -/
inductive LayerCall
  | change (c : Layer.Change RigLimiter)
  | retryPolicy (p : PolicyPlan)
  | settings (json : String)
  /-- The key of every caller. -/
  | fixedKey (key : String)
  /-- Rejections are answered with what the handler was given. -/
  | echoRejections
  /-- Failed decisions are answered with what the handler was given. -/
  | echoErrors

/-- A request of a scenario: who makes it, its context if it brings one, and how the service behind
the layer takes it. -/
structure Request where
  caller : Caller
  bringsContext : Bool
  innerStatus : Nat
  innerFailure : Option String

/-- What a step does. -/
inductive Action
  -- contexts
  | childContext
  | timeoutContext (timeout : Duration)
  | deadlineContext (atMs : Nat)
  | freshContext
  | cancel
  | contextState
  | contextSleep (duration : Duration) (choice : SleeperChoice)
  /-- A future races the context: it is ready after some milliseconds, or never. -/
  | contextRun (payload : String) (takesMs : Option Nat)
  | contextDone
  | tracked (clear : Bool)
  -- time
  | elapse (ms : Nat)
  | advanceClock (which : WhichClock) (d : Duration)
  | setClock (which : WhichClock) (ms : Nat)
  | readClocks
  -- store
  | failNext (e : StoreError)
  | replyNext (v : ScriptValue)
  | eval (script : Script) (keys : List String) (args : List ScriptArg)
  | delete (keys : List String)
  | inspect (key : String)
  | commands (cs : List KeyCommand)
  -- limiter
  | allowN (key : String) (n limit : Nat) (window : Duration)
  | reset (key : String)
  | allowMany (key : String) (n limit : Nat) (window : Duration) (times : Nat)
  | allowEach (key : String) (sizes : List Nat) (limit : Nat) (window : Duration)
  | wait (key : String) (limit : Nat) (window : Duration) (cancelAfterSleeps : Option Nat)
  | newLimiter (pollInterval : Duration) (sleeper : Sleeper)
  | dropLimiter
  | describe
  -- retry
  | retry (plan : PolicyPlan) (outcomes : List Outcome)
  -- metrics
  | keyMetrics (key : String)
  | activeLimiters
  | takeEvents
  | gather
  -- admission
  | newLayer (limiter : LayerLimiter) (calls : List LayerCall) (describe : Bool)
  | layerOfSettings (json : String) (describe : Bool)
  | outcomes (list : List (Except LimiterError Bool))
  | request (r : Request)

/-- An action with its context and the milliseconds after which it is given up. -/
structure Piece where
  action : Action
  ctx : Nat
  abortAfterMs : Option Nat

/-- A step: the milliseconds after which it begins, its piece of work, and the steps beside it. -/
inductive Step
  | mk (afterMs : Nat) (piece : Piece) (beside : List Step)

/-! ### Answers -/

/-- The answer of an action. -/
inductive Answer
  | done
  | context (number : Nat)
  | contextState (cause : Option ContextError) (remaining deadline : Option Duration)
  | contextEnded (cause : ContextError)
  | payload (text : String)
  | tracked (delays : List Duration)
  | now (ms : Nat)
  | clocks (limiter store : Nat)
  | reply (r : Except StoreError ScriptEnd)
  | deleted (r : Except StoreError Unit)
  | inspected (int : Option Int) (present : Bool) (members : Nat) (ttl : Option Duration)
  | inspectedBriefly (int : Option Int) (present expires : Bool)
  | rows (r : Except StoreError (List (Except StoreError Cell)))
  | decision (r : Except LimiterError Bool)
  | resetDone (r : Except LimiterError Unit)
  | marks (text : String)
  | decisions (rs : List (Except LimiterError Bool))
  | waited (r : Except LimiterError Unit) (sleeps : Nat) (last : Option Duration)
  | limiterBuilt (pollInterval : Duration)
  | refused (e : ConfigError)
  | refusedBackoff (e : BackoffError)
  | unreadable (e : Json.Failure)
  | descriptions (limiter store : String)
  | retried (r : Except LimiterError String) (attempts : List Nat)
      (sleeps : Option (List Duration))
  | keyMetrics (admitted denied : Nat) (operations : List String) (sizes : List Quantity)
  | activeLimiters (count : Option Quantity)
  | events (os : List Observation) (evicted : Nat)
  | families (fs : List Family)
  | layerBuilt (description : Option String)
  | response (r : Response) (innerCalls : Nat) (sleeps : Option (List Duration))
  | innerFailed (text : String) (innerCalls : Nat) (sleeps : Option (List Duration))
  /-- There is no limiter or layer to act on. -/
  | missing (what : String)

/-- The answer of a step: that of its own action, none if that was given up, the virtual
nanoseconds it took, and the answers of the steps beside it. -/
inductive StepAnswer
  | mk (own : Option Answer) (took : Nat) (beside : List StepAnswer)

/-! ### The shape of a step -/

mutual

/-- The pieces of a step with the instants at which they begin, its own first. -/
def Step.pieces (start : Nat) : Step → List (Nat × Piece)
  | .mk afterMs piece beside =>
      (start + Instant.ofMillis afterMs, piece) ::
        Step.allPieces (start + Instant.ofMillis afterMs) beside

/-- The pieces of several steps. -/
def Step.allPieces (start : Nat) : List Step → List (Nat × Piece)
  | [] => []
  | s :: rest => s.pieces start ++ Step.allPieces start rest

end

mutual

/-- The answers of the pieces of a step put together in its shape, and the answers left over. -/
def Step.collect : Step → List (Option Answer × Nat) → StepAnswer × List (Option Answer × Nat)
  | .mk _ _ beside, (own, took) :: rest =>
      let (others, rest) := Step.collectAll beside rest
      (.mk own took others, rest)
  | .mk _ _ beside, [] =>
      let (others, rest) := Step.collectAll beside []
      (.mk none 0 others, rest)

/-- The answers of several steps, and the answers left over. -/
def Step.collectAll :
    List Step → List (Option Answer × Nat) → List StepAnswer × List (Option Answer × Nat)
  | [], answers => ([], answers)
  | s :: others, answers =>
      let (first, answers) := s.collect answers
      let (rest, answers) := Step.collectAll others answers
      (first :: rest, answers)

end

end Turnstile
