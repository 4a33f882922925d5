/-
**What is measured.**

Limiters and admission layers report observations; what becomes of one is up to the hook that
receives it, and no decision depends on it.

What is measured as a number is a quantity, a 64-bit floating-point pattern.  It is kept as the
pattern, so a quantity that is no number is handed on as it came, with its sign and its payload.  A
count becomes the nearest pattern, in whole numbers throughout.  Quantities are added to a running
sum and compared with bounds.

Main definitions:

* `Quantity` — the patterns;
* `Quantity.ofNat`, `Quantity.ofFloat` — the ways to make one;
* `Quantity.plus` — a sum;
* `Quantity.atMost` — a comparison;
* `Quantity.text` — the descriptive text;
* `Observation` — one measurement;
* `Observation.describe` — its descriptive text;
* `Observation.decision?`, `Observation.operation?`, `Observation.size?`, `Observation.number?` — what
  it tells of a key or a kind.

Main results:

* `Quantity.plus_of_isNaN` — a sum that is no number stays what it is, however much is added.
-/

import Turnstile.Decimal.Notation
import Turnstile.Error
import Turnstile.Text.Descriptive

set_option relaxedAutoImplicit false
set_option autoImplicit false

namespace Turnstile

/-! ### Quantities -/

/-- A 64-bit floating-point pattern. -/
structure Quantity where
  bits : UInt64
  deriving DecidableEq

namespace Quantity

/-- The quantity of a floating-point number. -/
def ofFloat (x : Float) : Quantity := ⟨x.toBits⟩

/-- Nothing. -/
def zero : Quantity := ⟨0⟩

/-- The pattern of what is beyond all numbers. -/
def infinity : Nat := 2047 <<< 52

/-- A quotient rounded to the nearest whole number, and of two equally near ones to the even one. -/
def roundedQuotient (n d : Nat) : Nat :=
  let q := n / d
  if 2 * (n % d) < d ∨ 2 * (n % d) = d ∧ q % 2 = 0 then q else q + 1

/-- The 53 leading bits of a count that is not zero, rounded; with all of them set, rounding may
give one bit more. -/
def significand (n : Nat) : Nat := roundedQuotient (n <<< 52) (1 <<< n.log2)

/-- The quantity of a count. -/
def ofNat (n : Nat) : Quantity :=
  if n = 0 then zero
  else
    -- the leading bit of the significand is not stored: it adds one to the exponent
    ⟨(min ((1022 + n.log2) <<< 52 + significand n) infinity).toUInt64⟩

/-- The number that a pattern stands for. -/
def value (q : Quantity) : Float := Float.ofBits q.bits

/-- Whether a pattern stands for no number: its exponent is full and its payload is not empty. -/
def isNaN (q : Quantity) : Bool := (q.bits &&& 0x7FFFFFFFFFFFFFFF) > 0x7FF0000000000000

/-- The bit that tells a quiet pattern from a signalling one. -/
def quietBit : UInt64 := 0x0008000000000000

/-- The pattern with its quiet bit set. -/
def quiet (q : Quantity) : Quantity := ⟨q.bits ||| quietBit⟩

/-- What comes of an operation on numbers that has no number as its result. -/
def indefinite : Quantity := ⟨0xFFF8000000000000⟩

/-- A sum.  Of two terms the first that is no number gives the result. -/
def plus (a b : Quantity) : Quantity :=
  if a.isNaN then a.quiet
  else if b.isNaN then b.quiet
  else
    let sum := ofFloat (a.value + b.value)
    if sum.isNaN then indefinite else sum

/-- Whether a quantity is at most another one; what is no number is not. -/
def atMost (a b : Quantity) : Bool := a.value ≤ b.value

/-- The descriptive text of a quantity. -/
def text (q : Quantity) : String := Decimal.floatText .descriptive q.bits.toNat

theorem plus_of_isNaN {a : Quantity} (h : a.isNaN) (b : Quantity) : a.plus b = a.quiet := by
  simp [plus, h]

end Quantity

/-! ### Observations -/

/-- One measurement. -/
inductive Observation
  /-- A decision on a key. -/
  | request (key : String) (allowed : Bool)
  /-- How long an operation on a key took. -/
  | latency (key operation : String) (seconds : Quantity)
  /-- How many polls the current wait on a key has made. -/
  | waiting (key : String) (size : Quantity)
  /-- How many limiters of a kind are alive. -/
  | active (kind : String) (count : Quantity)

/-- The descriptive text of an observation. -/
def Observation.describe : Observation → String
  | .request key allowed =>
      Text.record "Request" [("key", Quoted.quote key), ("allowed", Text.truth allowed)]
  | .latency key operation seconds =>
      Text.record "Latency"
        [("key", Quoted.quote key), ("operation", Quoted.quote operation), ("seconds", seconds.text)]
  | .waiting key size =>
      Text.record "WaitingQueueSize" [("key", Quoted.quote key), ("size", size.text)]
  | .active kind count =>
      Text.record "ActiveLimiters" [("kind", Quoted.quote kind), ("count", count.text)]

/-! ### What an observation tells of a key or a kind -/

/-- The result of an observation, if it is a decision on a key. -/
def Observation.decision? (key : String) : Observation → Option Bool
  | .request k allowed => if k = key then some allowed else none
  | _ => none

/-- The operation of an observation, if it is the latency of one on a key. -/
def Observation.operation? (key : String) : Observation → Option String
  | .latency k operation _ => if k = key then some operation else none
  | _ => none

/-- The size of the wait for a key that an observation reports. -/
def Observation.size? (key : String) : Observation → Option Quantity
  | .waiting k size => if k = key then some size else none
  | _ => none

/-- The number of limiters that an observation reports for a kind. -/
def Observation.number? (kind : String) : Observation → Option Quantity
  | .active k number => if k = kind then some number else none
  | _ => none

/-! ### Labels -/

/-- The operation label of the admission layer's own latency. -/
def admissionLabel : String := "admission"

/-- The kind under which sliding-window limiters are counted. -/
def slidingWindowKind : String := "sliding_window"

end Turnstile
