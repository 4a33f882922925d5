/-
**Metrics for collection.**

Four families of metrics are registered, one after the other, and keep values by label values: a
counter of decisions, a histogram of latencies, and two gauges.  A value is found by a digest of its
label values run together, so two combinations that run together to the same text share the value of
the one that came first.  A collection lists the families that have any value, by name, and in each
the values by their labels.

Main definitions:

* `Descriptor` — what a family is registered as;
* `Registrar` — the registries, `Registry` the one of this library;
* `registerAll` — registers families up to the first that is refused;
* `Series`, `Series.update` — values by label values;
* `Histogram` — counts of observations up to given bounds;
* `Exposition` — the four families, `Exposition.observe` what an observation does to them;
* `Exposition.install` — registers the four families, one after the other;
* `Exposition.collect` — what a collection lists.
-/

import Turnstile.Metrics.Observation

set_option relaxedAutoImplicit false
set_option autoImplicit false

namespace Turnstile

/-! ### Registries -/

/-- What a family is registered as: its name, its description, and the names of its labels. -/
structure Descriptor where
  name : String
  help : String
  labels : List String
  deriving DecidableEq

/-- The registries whose state is a `ρ`, and which refuse a family with an `ε`. -/
class Registrar (ρ : Type) (ε : outParam Type) where
  /-- Takes in a family, or says why not. -/
  register : Descriptor → ρ → Except ε ρ

/-- Registers families one after the other, up to the first that is refused; those taken in before
it stay. -/
def registerAll {ρ ε : Type} [Registrar ρ ε] : List Descriptor → ρ → Except ε Unit × ρ
  | [], r => (.ok (), r)
  | d :: rest, r =>
      match Registrar.register d r with
      | .ok r => registerAll rest r
      | .error e => (.error e, r)

/-- A registry that refuses a family only for its name. -/
structure Registry where
  families : List Descriptor
  deriving DecidableEq

/-- The only way a registration fails there: the name is taken. -/
inductive RegistryError
  | duplicate
  deriving DecidableEq

/-- The wording of a failed registration. -/
def RegistryError.message : RegistryError → String
  | .duplicate => "Duplicate metrics collector registration attempted"

/-- Takes in a family, if its name is free. -/
def Registry.register (d : Descriptor) (r : Registry) : Except RegistryError Registry :=
  if r.families.any fun f => f.name == d.name then .error .duplicate else .ok ⟨r.families ++ [d]⟩

instance : Registrar Registry RegistryError := ⟨Registry.register⟩

/-! ### Values by label values -/

/-- A value with the label values under which it came in. -/
structure Labelled (β : Type) where
  labels : List String
  value : β

/-- Values by the digests of their label values, in the order in which they came in. -/
abbrev Series (β : Type) := List (UInt64 × Labelled β)

namespace Series

variable {β : Type}

/-- One byte more in a digest. -/
def digestByte (h : UInt64) (b : UInt8) : UInt64 := (h ^^^ b.toUInt64) * 0x100000001b3

/-- The digest of label values: of their bytes, one text after the other. -/
def digest (labels : List String) : UInt64 :=
  labels.foldl (fun h s => s.toUTF8.foldl digestByte h) 0xcbf29ce484222325

/-- Changes the value of a digest, which begins as `zero` under some label values. -/
def change (d : UInt64) (labels : List String) (zero : β) (f : β → β) : Series β → Series β
  | [] => [(d, ⟨labels, f zero⟩)]
  | (e, v) :: rest =>
      if e = d then (e, ⟨v.labels, f v.value⟩) :: rest else (e, v) :: change d labels zero f rest

/-- Changes the value of a combination of label values, which begins as `zero`. -/
def update (labels : List String) (zero : β) (f : β → β) (s : Series β) : Series β :=
  change (digest labels) labels zero f s

/-- The values by increasing label values. -/
def sorted (s : Series β) : List (Labelled β) :=
  (s.map Prod.snd).mergeSort fun a b => !(decide (b.labels < a.labels))

end Series

/-! ### Histograms -/

/-- Observations: how many fell into each bucket, how many there were, and their sum. -/
structure Histogram where
  buckets : List Nat
  count : Nat
  sum : Quantity

namespace Histogram

/-- The upper bounds of the buckets; a value that equals a bound belongs to its bucket. -/
def bounds : List Quantity :=
  [0.0005, 0.001, 0.0025, 0.005, 0.01, 0.025, 0.05, 0.1, 0.25, 0.5, 1, 5].map .ofFloat

/-- No observations. -/
def empty : Histogram := ⟨bounds.map fun _ => 0, 0, .zero⟩

/-- Counts a value in the first bucket that holds it. -/
def countIn (x : Quantity) : List Quantity → List Nat → List Nat
  | b :: bs, n :: ns => if x.atMost b then (n + 1) :: ns else n :: countIn x bs ns
  | _, ns => ns

/-- Adds an observation. -/
def observe (h : Histogram) (x : Quantity) : Histogram :=
  ⟨countIn x bounds h.buckets, h.count + 1, h.sum.plus x⟩

/-- The counts added up from the first bucket on. -/
def accumulated : Nat → List Nat → List Nat
  | _, [] => []
  | before, n :: ns => (before + n) :: accumulated (before + n) ns

/-- How many observations are at most each bound. -/
def cumulative (h : Histogram) : List (Quantity × Nat) := bounds.zip (accumulated 0 h.buckets)

end Histogram

/-! ### The four families -/

/-- The values of the four families. -/
structure Exposition where
  requests : Series Nat
  latency : Series Histogram
  waiting : Series Quantity
  active : Series Quantity

/-- A collected value. -/
inductive Reading
  | counter (n : Nat)
  | gauge (x : Quantity)
  | histogram (h : Histogram)

/-- The name of a kind of collected value. -/
def Reading.kind : Reading → String
  | .counter _ => "COUNTER"
  | .gauge _ => "GAUGE"
  | .histogram _ => "HISTOGRAM"

/-- A collected family: its name, its description, and its values by named labels. -/
structure Family where
  name : String
  help : String
  metrics : List (List (String × String) × Reading)

namespace Exposition

/-- No values. -/
def empty : Exposition := ⟨[], [], [], []⟩

/-- The label of a decision. -/
def resultLabel (allowed : Bool) : String := if allowed then "allowed" else "rejected"

/-- The counter of decisions. -/
def requestsFamily : Descriptor :=
  ⟨"windowgate_requests_total", "Admission decisions by key and result", ["key", "result"]⟩

/-- The histogram of latencies. -/
def latencyFamily : Descriptor :=
  ⟨"windowgate_operation_duration_seconds", "Limiter operation latency in seconds",
    ["key", "operation"]⟩

/-- The gauge of waits. -/
def waitingFamily : Descriptor :=
  ⟨"windowgate_waiting_queue_size", "Poll cycles of the current wait per key", ["key"]⟩

/-- The gauge of limiters. -/
def activeFamily : Descriptor :=
  ⟨"windowgate_active_limiters", "Live limiter instances by kind", ["kind"]⟩

/-- The four families, in the order in which they are registered. -/
def families : List Descriptor := [requestsFamily, latencyFamily, waitingFamily, activeFamily]

/-- Registers the four families, one after the other. -/
def install {ρ ε : Type} [Registrar ρ ε] (r : ρ) : Except ε Exposition × ρ :=
  match registerAll families r with
  | (.ok _, r) => (.ok empty, r)
  | (.error e, r) => (.error e, r)

/-- What an observation does to the values. -/
def observe (x : Exposition) : Observation → Exposition
  | .request key allowed =>
      { x with requests := Series.update [key, resultLabel allowed] 0 (· + 1) x.requests }
  | .latency key operation seconds =>
      { x with latency := Series.update [key, operation] .empty (·.observe seconds) x.latency }
  | .waiting key size => { x with waiting := Series.update [key] .zero (fun _ => size) x.waiting }
  | .active kind count => { x with active := Series.update [kind] .zero (fun _ => count) x.active }

/-- A family with its values, by increasing label values. -/
def listed {β : Type} (d : Descriptor) (reading : β → Reading) (s : Series β) : Family :=
  ⟨d.name, d.help, s.sorted.map fun v => (d.labels.zip v.labels, reading v.value)⟩

/-- The families that have any value, by name. -/
def collect (x : Exposition) : List Family :=
  [listed activeFamily .gauge x.active, listed latencyFamily .histogram x.latency,
    listed requestsFamily .counter x.requests,
    listed waitingFamily .gauge x.waiting].filter fun f => !f.metrics.isEmpty

end Exposition

end Turnstile
