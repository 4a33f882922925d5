/-
**Errors.**

Three things are kept apart: a finished context, a failure of the store or of what it answered, and
a quota denial, which is no error at all.  Each error is a cause; its wording is in one `message`
function per type.

Main definitions:

* `ContextError`, `StoreError`, `LimiterError` — why a call ended without a decision;
* `LimiterError.ofStore` — the error of a call whose store failed;
* `LimiterError.isBackend` — the errors that are failures of the infrastructure;
* `BackoffError`, `ConfigError` — why a configuration is refused.

Main results:

* `LimiterError.isBackend_ofStore` — a store failure is one of the infrastructure unless the
  context caused it.
-/

import Turnstile.Duration

set_option relaxedAutoImplicit false
set_option autoImplicit false

namespace Turnstile

/-! ### Finished contexts -/

/-- Why a context is finished. -/
inductive ContextError
  | cancelled
  | deadlineExceeded
  deriving DecidableEq

/-- The wording of a context error. -/
def ContextError.message : ContextError → String
  | .cancelled => "context cancelled"
  | .deadlineExceeded => "context deadline exceeded"

/-- The name of a context error. -/
def ContextError.name : ContextError → String
  | .cancelled => "Cancelled"
  | .deadlineExceeded => "DeadlineExceeded"

/-! ### Store failures -/

/-- Why a store call failed. -/
inductive StoreError
  /-- The store could not be reached, or the connection broke. -/
  | connection (text : String)
  /-- The script failed while it ran. -/
  | script (text : String)
  /-- The store has no script of this name. -/
  | unknownScript (name : String)
  /-- The key holds a value of another type. -/
  | wrongType (key : String)
  /-- The call was abandoned because its context is finished. -/
  | context (cause : ContextError)
  /-- Anything else. -/
  | other (text : String)
  deriving DecidableEq

/-- The wording of a store error. -/
def StoreError.message : StoreError → String
  | .connection text => "connection error: " ++ text
  | .script text => "script error: " ++ text
  | .unknownScript name => "unknown script `" ++ name ++ "`"
  | .wrongType key =>
      "WRONGTYPE operation against key `" ++ key ++ "` holding the wrong kind of value"
  | .context cause => cause.message
  | .other text => text

/-- The name of a store error; that of a finished context is the context's own. -/
def StoreError.name : StoreError → String
  | .connection _ => "Connection"
  | .script _ => "Script"
  | .unknownScript _ => "UnknownScript"
  | .wrongType _ => "WrongType"
  | .context cause => cause.name
  | .other _ => "Other"

/-! ### Limiter failures -/

/-- The operations of a limiter. -/
inductive Operation
  | allowN
  | wait
  | reset
  deriving DecidableEq

/-- The label of an operation in messages, logs and metrics. -/
def Operation.label : Operation → String
  | .allowN => "allow_n"
  | .wait => "wait"
  | .reset => "reset"

/-- Why a limiter call gave no decision. -/
inductive LimiterError
  /-- The store call failed. -/
  | store (op : Operation) (key : String) (source : StoreError)
  /-- The store answered something other than an integer. -/
  | unexpectedReply (op : Operation) (key reply : String)
  /-- The context is finished. -/
  | context (cause : ContextError)
  /-- The arguments cannot be honoured. -/
  | invalidArgument (text : String)
  deriving DecidableEq

namespace LimiterError

/-- The error of a limiter call whose store failed.  A call that the store abandoned because of the
context has the context's own error. -/
def ofStore (op : Operation) (key : String) : StoreError → LimiterError
  | .context cause => .context cause
  | source => .store op key source

/-- The wording of a limiter error. -/
def message : LimiterError → String
  | .store op key source => op.label ++ " failed for key `" ++ key ++ "`: " ++ source.message
  | .unexpectedReply op key reply =>
      op.label ++ " for key `" ++ key ++ "` returned an unexpected reply: " ++ reply
  | .context cause => cause.message
  | .invalidArgument text => "invalid argument: " ++ text

/-- The wordings of the causes behind an error, outermost first. -/
def causes : LimiterError → List String
  | .store _ _ source => [source.message]
  | _ => []

/-- Whether the error is a failure of the infrastructure: of the store, or a reply that makes no
sense. -/
def isBackend : LimiterError → Bool
  | .store .. | .unexpectedReply .. => true
  | _ => false

/-- Whether the context ended the call. -/
def isContext : LimiterError → Bool
  | .context _ => true
  | _ => false

/-- The context error behind a limiter error. -/
def context? : LimiterError → Option ContextError
  | .context cause => some cause
  | _ => none

/-- Whether another attempt makes sense: a finished context or a bad argument fails in the same way
every time. -/
def isRetryable (e : LimiterError) : Bool := e.isBackend

theorem isBackend_ofStore {op : Operation} {key : String} {source : StoreError} :
    (ofStore op key source).isBackend = true ↔ ∀ cause, source ≠ .context cause := by
  cases source <;> simp [ofStore, isBackend]

end LimiterError

/-! ### Refused configurations -/

/-- Why a backoff schedule is refused. -/
inductive BackoffError
  | capOnConstant
  | zeroCap
  | capBelowBase (base cap : Duration)
  deriving DecidableEq

/-- The wording of a refused backoff schedule. -/
def BackoffError.message : BackoffError → String
  | .capOnConstant => "with_max is only valid for exponential backoff"
  | .zeroCap => "max must be greater than zero"
  | .capBelowBase base cap => "max (" ++ cap.text ++ ") must be >= base (" ++ base.text ++ ")"

/-- The name of a refused backoff schedule. -/
def BackoffError.name : BackoffError → String
  | .capOnConstant => "ConstantDoesNotSupportMax"
  | .zeroCap => "MaxMustBePositive"
  | .capBelowBase .. => "MaxLessThanBase"

/-- Why a limiter or admission configuration is refused. -/
inductive ConfigError
  | missingLimiter
  | zeroLimit
  | zeroWindow
  | missingWaitTimeout
  | invalidMaxAttempts (attempts : Nat)
  | invalidBackoff (cause : BackoffError)
  | zeroPollInterval
  | zeroCost
  | invalidStatus (code : Nat)
  deriving DecidableEq

/-- The wording of a refused configuration. -/
def ConfigError.message : ConfigError → String
  | .missingLimiter => "a limiter is required"
  | .zeroLimit => "limit must be greater than zero"
  | .zeroWindow => "window must be at least one millisecond"
  | .missingWaitTimeout => "wait mode requires a non-zero wait timeout"
  | .invalidMaxAttempts attempts => "max_attempts must be > 0 (got " ++ toString attempts ++ ")"
  | .invalidBackoff cause => "invalid retry backoff: " ++ cause.message
  | .zeroPollInterval => "poll interval must be greater than zero"
  | .zeroCost => "cost must be greater than zero"
  | .invalidStatus code => "invalid HTTP status code " ++ toString code

/-- The name of a refused configuration. -/
def ConfigError.name : ConfigError → String
  | .missingLimiter => "MissingLimiter"
  | .zeroLimit => "ZeroLimit"
  | .zeroWindow => "ZeroWindow"
  | .missingWaitTimeout => "MissingWaitTimeout"
  | .invalidMaxAttempts _ => "InvalidMaxAttempts"
  | .invalidBackoff _ => "InvalidBackoff"
  | .zeroPollInterval => "ZeroPollInterval"
  | .zeroCost => "ZeroCost"
  | .invalidStatus _ => "InvalidStatus"

/-- The wording of the cause behind a refused configuration. -/
def ConfigError.cause? : ConfigError → Option String
  | .invalidBackoff cause => some cause.message
  | _ => none

end Turnstile
