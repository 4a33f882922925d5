/-
**Settings of an admission layer.**

Settings are plain data, with durations in whole milliseconds, so that they can come from a text.
Whether they make sense is decided when a layer is built from them.  They are written as a compact
JSON object with all fields in order; what is absent is `null`.

Main definitions:

* `RetrySettings`, `AdmissionSettings` — the settings;
* `AdmissionSettings.window`, `AdmissionSettings.waitTimeout`, `RetrySettings.strategy` — what
  their numbers stand for;
* `FailurePolicy` — what happens to a request whose decision failed;
* `AdmissionSettings.toJson`, `RetrySettings.toJson` — the written forms.
-/

import Turnstile.Json.Basic
import Turnstile.Retry.Policy

set_option relaxedAutoImplicit false
set_option autoImplicit false

namespace Turnstile

/-- What happens to a request when the limiter fails: it is refused, or it is let through. -/
inductive FailurePolicy
  | failClosed
  | failOpen
  deriving DecidableEq

/-- The name of a failure policy. -/
def FailurePolicy.describe : FailurePolicy → String
  | .failClosed => "FailClosed"
  | .failOpen => "FailOpen"

/-- Settings of the retries of an admission layer. -/
structure RetrySettings where
  maxAttempts : Nat
  retryIntervalMs : Nat
  exponential : Bool
  maxRetryIntervalMs : Nat
  jitter : Jitter
  deriving DecidableEq

/-- The retry configuration that settings stand for. -/
def RetrySettings.strategy (s : RetrySettings) : RetryStrategy where
  maxAttempts := s.maxAttempts
  retryInterval := .ofMillis s.retryIntervalMs
  exponential := s.exponential
  maxRetryInterval := .ofMillis s.maxRetryIntervalMs

/-- Settings of an admission layer. -/
structure AdmissionSettings where
  limit : Nat
  windowMs : Nat
  waitMode : Option Bool
  waitTimeoutMs : Option Nat
  cost : Option Nat
  retry : Option RetrySettings
  failurePolicy : Option FailurePolicy
  rejectedStatus : Option Nat
  rejectedMessage : Option String
  errorStatus : Option Nat
  errorMessage : Option String
  deriving DecidableEq

namespace AdmissionSettings

/-- The window. -/
def window (s : AdmissionSettings) : Duration := .ofMillis s.windowMs

/-- The bound of a wait. -/
def waitTimeout (s : AdmissionSettings) : Option Duration := s.waitTimeoutMs.map Duration.ofMillis

end AdmissionSettings

/-! ### Writing -/

namespace Settings

/-- A written value, or `null`. -/
def optional {α : Type} (write : α → String) : Option α → String
  | some v => write v
  | none => "null"

/-- The name of a jitter. -/
def jitterName : Jitter → String
  | .none => "none"
  | .full => "full"
  | .equal => "equal"

/-- The name of a failure policy. -/
def failurePolicyName : FailurePolicy → String
  | .failClosed => "fail_closed"
  | .failOpen => "fail_open"

end Settings

open Settings

/-- Retry settings, written. -/
def RetrySettings.toJson (s : RetrySettings) : String :=
  Json.object
    [("max_attempts", toString s.maxAttempts), ("retry_interval_ms", toString s.retryIntervalMs),
      ("use_exponential_backoff", Text.truth s.exponential),
      ("max_retry_interval_ms", toString s.maxRetryIntervalMs),
      ("jitter", Json.string (jitterName s.jitter))]

/-- Settings, written. -/
def AdmissionSettings.toJson (s : AdmissionSettings) : String :=
  Json.object
    [("limit", toString s.limit), ("window_ms", toString s.windowMs),
      ("wait_mode", optional Text.truth s.waitMode),
      ("wait_timeout_ms", optional toString s.waitTimeoutMs), ("cost", optional toString s.cost),
      ("retry", optional RetrySettings.toJson s.retry),
      ("failure_policy", optional (Json.string ∘ failurePolicyName) s.failurePolicy),
      ("rejected_status", optional toString s.rejectedStatus),
      ("rejected_message", optional Json.string s.rejectedMessage),
      ("error_status", optional toString s.errorStatus),
      ("error_message", optional Json.string s.errorMessage)]

end Turnstile
