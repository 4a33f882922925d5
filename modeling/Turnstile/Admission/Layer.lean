/-
**Admission layers.**

A layer is configured by a sequence of calls, each of which sets one thing or takes over settings,
and checked once at the end.  Settings always replace limit and window and leave alone what they do
not mention; a complete retry policy has precedence over a retry configuration.

A layer answers a request over quota with the limit, the window and the time after which another try
makes sense; a request whose decision failed is answered without the cause of the failure.

Main definitions:

* `Response` — an answer;
* `Rejection`, `Rejection.retryAfter`, `Rejection.response` — a request over quota;
* `AdmissionError`, `AdmissionError.message`, `AdmissionError.response` — a failed decision;
* `RateLimiter` — what a layer needs of its limiters;
* `Layer` — a checked configuration;
* `Layer.Draft` — a configuration under construction;
* `Layer.Change`, `Layer.Draft.apply` — one call and its effect;
* `Layer.Draft.build` — the check.
-/

import Turnstile.Admission.Caller
import Turnstile.Error
import Turnstile.Json.Basic
import Turnstile.Limiter.SlidingWindow
import Turnstile.Settings.Basic

set_option relaxedAutoImplicit false
set_option autoImplicit false

namespace Turnstile

/-! ### Answers -/

/-- An answer: its status, its headers and its body. -/
structure Response where
  status : Nat
  headers : List (String × String)
  body : String
  deriving DecidableEq

/-- A request over quota: its key, the limit and the window, and the configured answer. -/
structure Rejection where
  key : String
  limit : Nat
  window : Duration
  status : Nat
  text : String
  deriving DecidableEq

namespace Rejection

/-- The seconds after which another try makes sense: the window, rounded up to at least one
second. -/
def retryAfter (r : Rejection) : Nat :=
  if 0 < r.window.subsecNanos then min (r.window.secs + 1) maxWord else max r.window.secs 1

/-- The answer to a request over quota. -/
def response (r : Rejection) : Response where
  status := r.status
  headers := [("content-type", "application/json"), ("retry-after", toString r.retryAfter)]
  body := Json.object
    [("error", Json.string "rate_limit_exceeded"), ("message", Json.string r.text),
      ("limit", toString r.limit), ("window", Json.string r.window.text),
      ("window_ms", toString r.window.clampedMillis)]

end Rejection

/-- A request whose decision failed: its key, the cause, and the configured answer. -/
structure AdmissionError where
  key : String
  source : LimiterError
  status : Nat
  text : String
  deriving DecidableEq

namespace AdmissionError

/-- The wording of a failed decision. -/
def message (e : AdmissionError) : String :=
  "admission failed for key `" ++ e.key ++ "`: " ++ e.source.message

/-- The wordings of the causes behind a failed decision, outermost first. -/
def causes (e : AdmissionError) : List String := e.source.message :: e.source.causes

/-- The answer to a request whose decision failed. -/
def response (e : AdmissionError) : Response where
  status := e.status
  headers := [("content-type", "application/json")]
  body := Json.object
    [("error", Json.string "internal_error"), ("message", Json.string e.text)]

end AdmissionError

variable {ℓ : Type}

/-! ### Limiters -/

/-- What a layer needs of its limiters `ℓ` around a store whose state is a `σ`: a decision, and a
wait that may pause with what is left to do as a `κ`. -/
class RateLimiter (ℓ σ : Type) (κ : outParam Type) where
  allowN : ℓ → ContextId → String → Nat → Nat → Duration → Act σ (Except LimiterError Bool)
  wait : ℓ → ContextId → String → Nat → Duration → Act σ (Turn κ (Except LimiterError Unit))
  resume : ℓ → κ → Wake → Act σ (Turn κ (Except LimiterError Unit))
  abandon : ℓ → κ → Act σ Unit

instance {σ : Type} [Backend σ] : RateLimiter SlidingWindow σ Wait where
  allowN := SlidingWindow.allowN
  wait := Wait.start
  resume := fun _ => Wait.resume
  abandon := fun _ => Wait.abandon

/-! ### Layers -/

/-- A checked configuration. -/
structure Layer (ℓ : Type) where
  limiter : ℓ
  key : Caller → String
  limit : Nat
  window : Duration
  cost : Nat
  waitMode : Bool
  waitTimeout : Duration
  retry : RetryPolicy
  failurePolicy : FailurePolicy
  rejectedStatus : Nat
  rejectedMessage : String
  errorStatus : Nat
  errorMessage : String
  onRejected : Rejection → Response
  onError : AdmissionError → Response
  measured : Bool

namespace Layer

/-- The descriptive text of a layer. -/
def describe (l : Layer ℓ) : String :=
  Text.record "AdmissionLayer"
    [("limit", toString l.limit), ("window", l.window.text), ("cost", toString l.cost),
      ("wait_mode", Text.truth l.waitMode), ("wait_timeout", l.waitTimeout.text),
      ("retry", l.retry.describe), ("failure_policy", l.failurePolicy.describe)]

/-- A configuration under construction. -/
structure Draft (ℓ : Type) where
  limiter : Option ℓ
  key : Caller → String
  limit : Nat
  window : Duration
  cost : Nat
  waitMode : Bool
  waitTimeout : Option Duration
  retryStrategy : Option RetryStrategy
  retryJitter : Jitter
  retryPolicy : Option RetryPolicy
  failurePolicy : FailurePolicy
  rejectedStatus : Nat
  rejectedMessage : String
  errorStatus : Nat
  errorMessage : String
  onRejected : Rejection → Response
  onError : AdmissionError → Response
  measured : Bool

/-- One call on a configuration under construction. -/
inductive Change (ℓ : Type)
  | limiter (l : ℓ)
  | key (f : Caller → String)
  | limit (n : Nat)
  | window (d : Duration)
  | cost (n : Nat)
  | waitMode (enabled : Bool)
  | waitTimeout (d : Duration)
  | retry (s : RetryStrategy)
  | retryJitter (j : Jitter)
  | retryPolicy (p : RetryPolicy)
  | failurePolicy (p : FailurePolicy)
  | rejectedStatus (code : Nat)
  | rejectedMessage (text : String)
  | errorStatus (code : Nat)
  | errorMessage (text : String)
  | settings (s : AdmissionSettings)
  | onRejected (f : Rejection → Response)
  | onError (f : AdmissionError → Response)
  | measured (enabled : Bool)

namespace Draft

/-- Callers are known by address, a request costs one event, and nothing is retried. -/
def initial : Draft ℓ where
  limiter := none
  key := Caller.addressKey
  limit := 0
  window := .zero
  cost := 1
  waitMode := false
  waitTimeout := none
  retryStrategy := none
  retryJitter := .none
  retryPolicy := none
  failurePolicy := .failClosed
  rejectedStatus := 429
  rejectedMessage := "rate limit exceeded"
  errorStatus := 500
  errorMessage := "internal server error"
  onRejected := Rejection.response
  onError := AdmissionError.response
  measured := false

/-- Takes over settings: limit and window always, everything else where it is given. -/
def withSettings (d : Draft ℓ) (s : AdmissionSettings) : Draft ℓ :=
  { d with
    limit := s.limit
    window := s.window
    waitMode := s.waitMode.getD d.waitMode
    waitTimeout := s.waitTimeout.or d.waitTimeout
    cost := s.cost.getD d.cost
    retryStrategy := (s.retry.map RetrySettings.strategy).or d.retryStrategy
    retryJitter := (s.retry.map RetrySettings.jitter).getD d.retryJitter
    failurePolicy := s.failurePolicy.getD d.failurePolicy
    rejectedStatus := s.rejectedStatus.getD d.rejectedStatus
    rejectedMessage := s.rejectedMessage.getD d.rejectedMessage
    errorStatus := s.errorStatus.getD d.errorStatus
    errorMessage := s.errorMessage.getD d.errorMessage }

/-- The effect of one call. -/
def apply (d : Draft ℓ) : Change ℓ → Draft ℓ
  | .limiter l => { d with limiter := some l }
  | .key f => { d with key := f }
  | .limit n => { d with limit := n }
  | .window w => { d with window := w }
  | .cost n => { d with cost := n }
  | .waitMode enabled => { d with waitMode := enabled }
  | .waitTimeout t => { d with waitTimeout := some t }
  | .retry s => { d with retryStrategy := some s }
  | .retryJitter j => { d with retryJitter := j }
  | .retryPolicy p => { d with retryPolicy := some p }
  | .failurePolicy p => { d with failurePolicy := p }
  | .rejectedStatus code => { d with rejectedStatus := code }
  | .rejectedMessage text => { d with rejectedMessage := text }
  | .errorStatus code => { d with errorStatus := code }
  | .errorMessage text => { d with errorMessage := text }
  | .settings s => d.withSettings s
  | .onRejected f => { d with onRejected := f }
  | .onError f => { d with onError := f }
  | .measured enabled => { d with measured := enabled }

/-- The bound of a wait: wait mode needs one that is not zero, reject mode does not use it. -/
def checkWaitTimeout (d : Draft ℓ) : Except ConfigError Duration :=
  match d.waitTimeout with
  | some t =>
      if d.waitMode && t.isZero then .error .missingWaitTimeout else .ok t
  | none => if d.waitMode then .error .missingWaitTimeout else .ok .zero

/-- A status of three digits. -/
def checkStatus (code : Nat) : Except ConfigError Nat :=
  if 100 ≤ code ∧ code ≤ 999 then .ok code else .error (.invalidStatus code)

/-- The retry policy: a complete one first, else that of the retry configuration, else none. -/
def checkRetry (d : Draft ℓ) : Except ConfigError RetryPolicy :=
  match d.retryPolicy, d.retryStrategy with
  | some p, _ => .ok p
  | none, some s => { RetryPolicy.Builder.initial.withStrategy s with jitter := d.retryJitter }.build
  | none, none => .ok .single

/-- The checked configuration, or the first thing that is wrong with it. -/
def build (d : Draft ℓ) : Except ConfigError (Layer ℓ) := do
  match d.limiter with
  | none => .error .missingLimiter
  | some limiter =>
      if d.limit = 0 then .error .zeroLimit
      else if d.window.millis = 0 then .error .zeroWindow
      else if d.cost = 0 then .error .zeroCost
      else
        let waitTimeout ← d.checkWaitTimeout
        let rejectedStatus ← checkStatus d.rejectedStatus
        let errorStatus ← checkStatus d.errorStatus
        let retry ← d.checkRetry
        .ok {
          limiter, waitTimeout, rejectedStatus, errorStatus, retry
          key := d.key
          limit := d.limit
          window := d.window
          cost := d.cost
          waitMode := d.waitMode
          failurePolicy := d.failurePolicy
          rejectedMessage := d.rejectedMessage
          errorMessage := d.errorMessage
          onRejected := d.onRejected
          onError := d.onError
          measured := d.measured }

end Draft

end Layer

end Turnstile
