/-
**Deciding a request.**

For every request the layer derives a key, asks its limiter under a context of its own, and either
forwards the request or answers it.  In reject mode it asks for one decision, in wait mode it waits
until admitted, bounded by the layer's timeout and by the context of the request.

Main definitions:

* `Verdict` — what becomes of a request;
* `Admitting`, `Layer.ask`, `Layer.askOn` — the answer of the limiter, which may take pauses;
* `Layer.conclude` — the verdict on it;
* `Layer.start`, `Layer.resume`, `Layer.abandon` — both together.
-/

import Turnstile.Admission.Layer
import Turnstile.Retry.Policy

set_option relaxedAutoImplicit false
set_option autoImplicit false

namespace Turnstile

variable {ℓ σ κ : Type}

/-- What becomes of a request: it goes on to the service behind the layer, or it is answered
here. -/
inductive Verdict
  | forward
  | answer (r : Response)
  deriving DecidableEq

/-- A decision at a pause: the key, the context made for it, and the run of the limiter calls.  A
single decision never pauses within a call. -/
inductive Admitting (κ : Type)
  | deciding (key : String) (ctx : ContextId) (run : Retrying Empty)
  | awaiting (key : String) (ctx : ContextId) (run : Retrying κ)

/-- The key that is decided about. -/
def Admitting.key : Admitting κ → String
  | .deciding key .. | .awaiting key .. => key

namespace Layer

/-- Whether a failure lets requests through. -/
def failsOpen (l : Layer ℓ) (e : LimiterError) : Bool :=
  l.failurePolicy == .failOpen && e.isBackend

/-- The rejection of a request. -/
def rejection (l : Layer ℓ) (key : String) : Rejection :=
  ⟨key, l.limit, l.window, l.rejectedStatus, l.rejectedMessage⟩

/-- The error of a request. -/
def failure (l : Layer ℓ) (key : String) (e : LimiterError) : AdmissionError :=
  ⟨key, e, l.errorStatus, l.errorMessage⟩

/-- The verdict on the answer of the limiter. -/
def verdict (l : Layer ℓ) (key : String) : Except LimiterError Bool → Verdict
  | .ok true => .forward
  | .ok false => .answer (l.onRejected (l.rejection key))
  | .error e => if l.failsOpen e then .forward else .answer (l.onError (l.failure key e))

/-- What is logged about a verdict. -/
def verdictEvent? (l : Layer ℓ) (key : String) : Except LimiterError Bool → Option LogEvent
  | .ok true => none
  | .ok false => some (.requestRejected key l.limit)
  | .error e => some (if l.failsOpen e then .failedOpen key e else .failedClosed key e)

/-- Reports the answer of the limiter and gives the verdict. -/
def conclude (l : Layer ℓ) (key : String) (result : Except LimiterError Bool) :
    Act σ Verdict := do
  Act.observe l.measured (.latency key admissionLabel .zero)
  if let some e := l.verdictEvent? key result then
    Act.log e
  return l.verdict key result

/-- One decision as an operation to be retried. -/
def decisionSteps [RateLimiter ℓ σ κ] (l : Layer ℓ) (key : String) (ctx : ContextId) : Steps σ Empty Bool where
  call := fun attempt => do
    Act.log (.asking key attempt .reject)
    return .done (← RateLimiter.allowN l.limiter ctx key l.cost l.limit l.window)
  resume := fun rest _ => nomatch rest
  abandon := fun rest => nomatch rest

/-- A wait as an operation to be retried. -/
def waitSteps [RateLimiter ℓ σ κ] (l : Layer ℓ) (key : String) (ctx : ContextId) : Steps σ κ Unit where
  call := fun attempt => do
    Act.log (.asking key attempt .wait)
    RateLimiter.wait l.limiter ctx key l.limit l.window
  resume := RateLimiter.resume l.limiter
  abandon := RateLimiter.abandon l.limiter

/-- Begins to ask the limiter about a key, for a request whose context is `parent`. -/
def ask [RateLimiter ℓ σ κ] (l : Layer ℓ) (parent : ContextId) (key : String) :
    Act σ (Turn (Admitting κ) (Except LimiterError Bool)) := do
  if l.waitMode then
    let ctx ← fun w => Act.newContext (fun cs => cs.withTimeout parent w.now l.waitTimeout) w
    let turn ← l.retry.start ctx (l.waitSteps key ctx)
    return turn.map (.awaiting key ctx) (·.map fun _ => true)
  else
    let ctx ← Act.newContext fun cs => cs.child parent
    let turn ← l.retry.start ctx (l.decisionSteps key ctx)
    return turn.map (.deciding key ctx) id

/-- Goes on asking after a pause. -/
def askOn [RateLimiter ℓ σ κ] (l : Layer ℓ) :
    Admitting κ → Wake → Act σ (Turn (Admitting κ) (Except LimiterError Bool))
  | .deciding key ctx run, wake => do
      let turn ← l.retry.resume ctx (l.decisionSteps key ctx) run wake
      return turn.map (.deciding key ctx) id
  | .awaiting key ctx run, wake => do
      let turn ← l.retry.resume ctx (l.waitSteps key ctx) run wake
      return turn.map (.awaiting key ctx) (·.map fun _ => true)

/-- What follows a stretch of asking: an answer is concluded from. -/
def follow (l : Layer ℓ) (key : String) :
    Turn (Admitting κ) (Except LimiterError Bool) → Act σ (Turn (Admitting κ) Verdict)
  | .done answer => return .done (← l.conclude key answer)
  | .pause on rest => return .pause on rest

/-- Begins to decide a request whose context is `parent`. -/
def start [RateLimiter ℓ σ κ] (l : Layer ℓ) (parent : ContextId) (caller : Caller) :
    Act σ (Turn (Admitting κ) Verdict) := do
  l.follow (l.key caller) (← l.ask parent (l.key caller))

/-- Goes on after a pause. -/
def resume [RateLimiter ℓ σ κ] (l : Layer ℓ) (a : Admitting κ) (wake : Wake) :
    Act σ (Turn (Admitting κ) Verdict) := do
  l.follow a.key (← l.askOn a wake)

/-- Gives a decision up. -/
def abandon [RateLimiter ℓ σ κ] (l : Layer ℓ) : Admitting κ → Act σ Unit
  | .deciding .. => return ()
  | .awaiting key ctx run => RetryPolicy.abandon (l.waitSteps key ctx) run

end Layer

end Turnstile
