/-
**Retry policies.**

A policy says how many calls are made at most, how long to pause between them, how the pauses are
spread, and which sleeper lets them pass.  A plan says by which calls a schedule or a policy comes
about.  Carrying it out gives the policy, or the first refusal: a schedule is refused at its call,
everything else at the end.

Under a policy an operation is called with attempt numbers `1`, `2`, … until it succeeds, fails in a
way that another attempt cannot mend, or the attempts are used up.  Between two attempts lies a sleep
that ends early when the context is finished.

Main definitions:

* `RetryStrategy` — the plain configuration, `RetryStrategy.backoff` its schedule;
* `RetryPolicy` — a policy;
* `RetryPolicy.Builder` — the way to one: it keeps the first refusal of a schedule until the end;
* `BackoffPlan`, `BackoffPlan.backoff` — a schedule with caps set one after the other;
* `PolicyPlan`, `PolicyPlan.policy` — a plan, and the policy it gives;
* `PolicyFault` — why there is none;
* `Steps` — an operation that may pause: how it begins, goes on and is given up;
* `Retrying` — a run between two stretches: within a call, or between two calls;
* `RetryPolicy.settle` — what follows an attempt: the end, or a sleep;
* `RetryPolicy.attempt`, `RetryPolicy.resume`, `RetryPolicy.abandon` — the run.
-/

import Turnstile.Retry.Delay
import Turnstile.World

set_option relaxedAutoImplicit false
set_option autoImplicit false

namespace Turnstile

/-- A plain retry configuration: calls in total, the first delay, whether it doubles, and the cap
of the doubling, where zero is none. -/
structure RetryStrategy where
  maxAttempts : Nat
  retryInterval : Duration
  exponential : Bool
  maxRetryInterval : Duration
  deriving DecidableEq

/-- The schedule of a configuration. -/
def RetryStrategy.backoff (s : RetryStrategy) : Except ConfigError Backoff :=
  if s.exponential then
    let uncapped := Backoff.exponential s.retryInterval none
    if s.maxRetryInterval.isZero then .ok uncapped
    else match uncapped.withCap s.maxRetryInterval with
      | .ok b => .ok b
      | .error e => .error (.invalidBackoff e)
  else .ok (.constant s.retryInterval)

/-- A retry policy. -/
structure RetryPolicy where
  maxAttempts : Nat
  backoff : Backoff
  jitter : Jitter
  sleeper : Sleeper
  deriving DecidableEq

namespace RetryPolicy

/-- One attempt. -/
def single : RetryPolicy := ⟨1, .constant .zero, .none, .timer⟩

/-- A policy under construction. -/
structure Builder where
  maxAttempts : Nat
  backoff : Except ConfigError Backoff
  jitter : Jitter
  sleeper : Sleeper

namespace Builder

/-- Three attempts, a tenth of a second apart. -/
def initial : Builder := ⟨3, .ok (.constant (.ofMillis 100)), .none, .timer⟩

/-- Takes attempts and schedule from a plain configuration. -/
def withStrategy (b : Builder) (s : RetryStrategy) : Builder :=
  { b with maxAttempts := s.maxAttempts, backoff := s.backoff }

/-- The policy, if it makes an attempt and its schedule is accepted. -/
def build (b : Builder) : Except ConfigError RetryPolicy :=
  if b.maxAttempts = 0 then .error (.invalidMaxAttempts 0)
  else match b.backoff with
    | .ok backoff => .ok ⟨b.maxAttempts, backoff, b.jitter, b.sleeper⟩
    | .error e => .error e

end Builder

/-- The policy of a plain configuration, without jitter. -/
def ofStrategy (s : RetryStrategy) : Except ConfigError RetryPolicy :=
  (Builder.initial.withStrategy s).build

/-- The descriptive text of a policy, as it is before its first sleep. -/
def describe (p : RetryPolicy) : String :=
  Text.record "RetryPolicy"
    [("max_attempts", toString p.maxAttempts), ("backoff", p.backoff.describe),
      ("jitter", p.jitter.describe), ("sleeper", p.sleeper.describe [])]

end RetryPolicy

/-! ### Plans -/

/-- A schedule and the caps set on it, one after the other. -/
structure BackoffPlan where
  initial : Backoff
  caps : List Duration
  deriving DecidableEq

/-- The schedule of a plan, or the first refusal of a cap. -/
def BackoffPlan.backoff (p : BackoffPlan) : Except BackoffError Backoff :=
  p.caps.foldlM Backoff.withCap p.initial

/-- The sleepers that a policy may be given; a tracking one has a journal of its own. -/
inductive SleeperChoice
  | timer
  | instant
  | tracking
  deriving DecidableEq

/-- The sleeper of a choice, where tracking ones write into a given journal. -/
def SleeperChoice.sleeper (journal : Nat) : SleeperChoice → Sleeper
  | .timer => .timer
  | .instant => .instant
  | .tracking => .tracking journal

/-- One call on a policy under construction. -/
inductive PolicyChange
  | maxAttempts (n : Nat)
  | backoff (p : BackoffPlan)
  | strategy (s : RetryStrategy)
  | jitter (j : Jitter)
  | sleeper (c : SleeperChoice)
  deriving DecidableEq

/-- How a policy comes about. -/
inductive PolicyPlan
  | single
  | ofStrategy (s : RetryStrategy)
  | build (changes : List PolicyChange)
  deriving DecidableEq

/-- Why there is no policy. -/
inductive PolicyFault
  | backoff (e : BackoffError)
  | config (e : ConfigError)
  deriving DecidableEq

/-- The effect of one call. -/
def PolicyChange.apply (journal : Nat) (b : RetryPolicy.Builder) :
    PolicyChange → Except BackoffError RetryPolicy.Builder
  | .maxAttempts n => .ok { b with maxAttempts := n }
  | .backoff p =>
      match p.backoff with
      | .ok schedule => .ok { b with backoff := .ok schedule }
      | .error e => .error e
  | .strategy s => .ok (b.withStrategy s)
  | .jitter j => .ok { b with jitter := j }
  | .sleeper c => .ok { b with sleeper := c.sleeper journal }

/-- The policy of a plan, where tracking sleepers write into a given journal. -/
def PolicyPlan.policy (journal : Nat) : PolicyPlan → Except PolicyFault RetryPolicy
  | .single => .ok .single
  | .ofStrategy s => (RetryPolicy.ofStrategy s).mapError .config
  | .build changes => do
      let builder ← (changes.foldlM (PolicyChange.apply journal) .initial).mapError .backoff
      builder.build.mapError .config

/-- The journal that a sleeper writes into. -/
def Sleeper.journal? : Sleeper → Option Nat
  | .tracking journal => some journal
  | _ => none

/-! ### Calling until it works -/

variable {σ κ α : Type}

/-- An operation that may pause, given the number of the attempt: how it begins, how it goes on
after a pause, and what is left to do when it is given up at one. -/
structure Steps (σ κ α : Type) where
  call : Nat → Act σ (Turn κ (Except LimiterError α))
  resume : κ → Wake → Act σ (Turn κ (Except LimiterError α))
  abandon : κ → Act σ Unit

/-- A run at a pause: the operation's own in the middle of an attempt, or the one after a failed
attempt. -/
inductive Retrying (κ : Type)
  | calling (attempt : Nat) (rest : κ)
  | backingOff (attempt : Nat)

namespace RetryPolicy

/-- The end of a run with the error of its last attempt. -/
def giveUp (p : RetryPolicy) (attempt : Nat) (e : LimiterError) :
    Act σ (Turn (Retrying κ) (Except LimiterError α)) := do
  if 1 < p.maxAttempts then
    Act.log (.retriesExhausted attempt e)
  return .done (.error e)

/-- Where a run stands after a failed attempt: at its end if the sleep did not begin. -/
def resting (attempt : Nat) :
    Except ContextError Pause → Turn (Retrying κ) (Except LimiterError α)
  | .error cause => .done (.error (.context cause))
  | .ok pause => .pause pause (.backingOff attempt)

/-- The sleep after a failed attempt. -/
def backOff (p : RetryPolicy) (ctx : ContextId) (attempt : Nat) (e : LimiterError) :
    Act σ (Turn (Retrying κ) (Except LimiterError α)) := do
  let delay ← Act.jittered p.jitter (p.backoff.delay attempt)
  Act.log (.retrying attempt delay e)
  return resting attempt (← Act.sleep ctx p.sleeper delay)

/-- What follows the answer of an attempt. -/
def settle (p : RetryPolicy) (ctx : ContextId) (attempt : Nat) :
    Except LimiterError α → Act σ (Turn (Retrying κ) (Except LimiterError α))
  | .ok v => return .done (.ok v)
  | .error e =>
      if !e.isRetryable then return .done (.error e)
      else if p.maxAttempts ≤ attempt then p.giveUp attempt e
      else p.backOff ctx attempt e

/-- What follows a stretch of the operation. -/
def follow (p : RetryPolicy) (ctx : ContextId) (attempt : Nat) :
    Turn κ (Except LimiterError α) → Act σ (Turn (Retrying κ) (Except LimiterError α))
  | .done answer => p.settle ctx attempt answer
  | .pause on rest => return .pause on (.calling attempt rest)

/-- Makes an attempt. -/
def attempt (p : RetryPolicy) (ctx : ContextId) (op : Steps σ κ α) (number : Nat) :
    Act σ (Turn (Retrying κ) (Except LimiterError α)) := do
  p.follow ctx number (← op.call number)

/-- Begins a run. -/
def start (p : RetryPolicy) (ctx : ContextId) (op : Steps σ κ α) :
    Act σ (Turn (Retrying κ) (Except LimiterError α)) :=
  p.attempt ctx op 1

/-- Goes on after a pause. -/
def resume (p : RetryPolicy) (ctx : ContextId) (op : Steps σ κ α) :
    Retrying κ → Wake → Act σ (Turn (Retrying κ) (Except LimiterError α))
  | .calling number rest, wake => do p.follow ctx number (← op.resume rest wake)
  | .backingOff number, .timer => p.attempt ctx op (number + 1)
  | .backingOff _, .context cause => return .done (.error (.context cause))

/-- Gives a run up. -/
def abandon (op : Steps σ κ α) : Retrying κ → Act σ Unit
  | .calling _ rest => op.abandon rest
  | .backingOff _ => return ()

end RetryPolicy

end Turnstile
