/-
**Building layers in a scenario.**

A layer is built by calls on a draft that already reports its measurements.  A call may be refused
by itself; then none of the later ones is made.

Main definitions:

* `Echo.rejection`, `Echo.failure` — handlers that answer what they were given;
* `LayerFault` — why a layer was not built;
* `Act.draftLayer` — carries out the calls;
* `Act.buildLayer` — builds a layer and puts it in the place of the one before.
-/

import Turnstile.Scenario.Step

set_option relaxedAutoImplicit false
set_option autoImplicit false

namespace Turnstile

namespace Echo

/-- A duration as seconds and nanoseconds. -/
def span (d : Duration) : String := Json.array [toString d.secs, toString d.subsecNanos]

/-- Answers a rejection with what is known about it. -/
def rejection (r : Rejection) : Response where
  status := 299
  headers := []
  body := Json.array
    [Json.string r.key, toString r.limit, span r.window, toString r.status, Json.string r.text]

/-- Answers a failed decision with what is known about it. -/
def failure (e : AdmissionError) : Response where
  status := 599
  headers := []
  body := Json.array
    [Json.string e.key, Json.string e.message, toString e.status, Json.string e.text]

end Echo

/-- Why a layer was not built. -/
inductive LayerFault
  | config (e : ConfigError)
  | backoff (e : BackoffError)
  | settings (e : Json.Failure)

/-- The answer that a fault gives. -/
def LayerFault.answer : LayerFault → Answer
  | .config e => .refused e
  | .backoff e => .refusedBackoff e
  | .settings e => .unreadable e

/-- The fault of a refused policy. -/
def LayerFault.ofPolicy : PolicyFault → LayerFault
  | .backoff e => .backoff e
  | .config e => .config e

namespace Act

/-- A new journal for a tracking sleeper. -/
def newJournal {σ : Type} : Act σ Nat := fun w =>
  (w.journals.size, { w with journals := w.journals.push #[] })

/-- What a tracking sleeper has written into its journal. -/
def journal {σ : Type} (number : Nat) : Act σ (List Duration) := fun w =>
  ((w.journals[number]?.getD #[]).toList, w)

/-- Empties a journal. -/
def clearJournal {σ : Type} (number : Nat) : Act σ Unit := fun w =>
  ((), { w with journals := w.journals.setIfInBounds number #[] })

/-- Carries out one call. -/
def callDraft (d : Layer.Draft RigLimiter) :
    LayerCall → Act Rig (Except LayerFault (Layer.Draft RigLimiter))
  | .change c => return .ok (d.apply c)
  | .fixedKey key => return .ok (d.apply (.key fun _ => key))
  | .echoRejections => return .ok (d.apply (.onRejected Echo.rejection))
  | .echoErrors => return .ok (d.apply (.onError Echo.failure))
  | .settings json =>
      match AdmissionSettings.ofJson json with
      | .ok s => return .ok (d.apply (.settings s))
      | .error e => return .error (.settings e)
  | .retryPolicy plan => do
      match plan.policy (← newJournal) with
      | .ok policy =>
          onRig fun r => ((), { r with layerJournal := policy.sleeper.journal? })
          return .ok (d.apply (.retryPolicy policy))
      | .error e => return .error (.ofPolicy e)

/-- Carries out calls, up to the first that is refused. -/
def draftLayer (d : Layer.Draft RigLimiter) :
    List LayerCall → Act Rig (Except LayerFault (Layer.Draft RigLimiter))
  | [] => return .ok d
  | c :: rest => do
      match ← callDraft d c with
      | .ok d => draftLayer d rest
      | .error e => return .error e

/-- The limiter that a layer is built over, if there is one. -/
def layerLimiter : LayerLimiter → Act Rig (Option RigLimiter)
  | .sliding => onRig fun r => (r.limiter.map RigLimiter.sliding, r)
  | .scripted => return some .scripted
  | .none => return none

/-- A draft over a limiter, whose layer reports its measurements or not. -/
def draftOver (limiter : Option RigLimiter) (measured : Bool) : Layer.Draft RigLimiter :=
  { (Layer.Draft.initial : Layer.Draft RigLimiter) with limiter, measured }

/-- Checks a draft and puts the layer in the place of the one before; a draft that is refused
changes nothing. -/
def finishLayer (d : Layer.Draft RigLimiter) (describe : Bool) : Act Rig Answer := do
  match d.build with
  | .error e => return .refused e
  | .ok layer =>
      installLayer layer
      return .layerBuilt (if describe then some layer.describe else none)

/-- Builds a layer by calls. -/
def buildLayer (limiter : LayerLimiter) (calls : List LayerCall) (describe : Bool) :
    Act Rig Answer := do
  let limiter ← layerLimiter limiter
  match ← draftLayer (draftOver limiter true) calls with
  | .error e => return e.answer
  | .ok d => finishLayer d describe

/-- Builds a layer from settings; it does not report its measurements. -/
def buildLayerOfSettings (json : String) (describe : Bool) : Act Rig Answer := do
  match AdmissionSettings.ofJson json with
  | .error e => return .unreadable e
  | .ok s =>
      let limiter ← layerLimiter .sliding
      finishLayer ((draftOver limiter false).apply (.settings s)) describe

end Act

end Turnstile
