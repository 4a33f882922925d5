/-
**How a floating-point number is written.**

A finite binary number is `m * 2 ^ q`.  The reals that round to it form an interval around it, with
its ends included exactly if `m` is even.  Among the decimals with one digit, then two, and so on,
the first grid that has a point in the interval gives the digits; of two such points the nearer one
is taken, and of two equally near ones the even one.  All comparisons are made in whole numbers.

A number is written with these shortest digits.  If the power of ten of its first digit lies in the
range of the style it is written positionally, with at least one digit on either side of the point;
else as one digit, a point with the further digits if there are any, and the exponent.

Main definitions:

* `Decimal.Binary` — a positive finite number as `mantissa * 2 ^ exponent`, with the fact whether
  the gap below it is half the gap above it;
* `Decimal.Digits` — a decimal as digits and the power of ten of the last one;
* `Decimal.shortest` — the digits chosen;
* `Decimal.Magnitude.ofBits` — a 64-bit pattern taken apart;
* `Decimal.Style`, `Decimal.Style.write` — the decisions of a notation, and the text of digits in it;
* `Decimal.floatText` — the text of a 64-bit pattern.
-/

set_option relaxedAutoImplicit false
set_option autoImplicit false

namespace Turnstile

/-! ### The shortest decimal that reads back -/

namespace Decimal

/-- A positive number `mantissa * 2 ^ exponent`.  `narrowBelow` says that the next smaller number
is only half as far away as the next larger one. -/
structure Binary where
  mantissa : Nat
  exponent : Int
  narrowBelow : Bool
  deriving DecidableEq

/-- A decimal `digits * 10 ^ exponent`. -/
structure Digits where
  digits : Nat
  exponent : Int
  deriving DecidableEq

/-- What a 64-bit pattern denotes, its sign aside. -/
inductive Magnitude
  | zero
  | finite (b : Binary)
  | infinite
  | notANumber
  deriving DecidableEq

/-- The sign of a 64-bit pattern. -/
def isNegative (bits : Nat) : Bool := (bits >>> 63) % 2 == 1

/-- A 64-bit pattern taken apart into its magnitude. -/
def Magnitude.ofBits (bits : Nat) : Magnitude :=
  let fraction : Nat := bits % (1 <<< 52)
  let biased : Nat := (bits >>> 52) % (1 <<< 11)
  if biased = 2047 then
    if fraction = 0 then .infinite else .notANumber
  else if biased = 0 then
    if fraction = 0 then .zero else .finite ⟨fraction, -1074, false⟩
  else .finite ⟨(1 <<< 52) + fraction, (biased : Int) - 1075, fraction == 0 && biased != 1⟩

/-- The fraction `n * base ^ e` as numerator and denominator. -/
def scaled (n base : Nat) (e : Int) : Nat × Nat :=
  if 0 ≤ e then (n * base.pow e.toNat, 1) else (n, base.pow (-e).toNat)

namespace Binary

/-- Four times the mantissa: the unit in which the interval's ends are whole. -/
def center (b : Binary) : Nat := 4 * b.mantissa

/-- The lower end of the interval of numbers that round to `b`, in the same unit. -/
def lower (b : Binary) : Nat := 4 * b.mantissa - (if b.narrowBelow then 1 else 2)

/-- The upper end of the interval, in the same unit. -/
def upper (b : Binary) : Nat := 4 * b.mantissa + 2

/-- Whether the decimal `d` rounds to `b`: it lies between the ends, and on one only if the
mantissa is even. -/
def covers (b : Binary) (d : Digits) : Bool :=
  let (dn, dd) := scaled d.digits 10 d.exponent
  let (un, ud) := scaled 1 2 (b.exponent - 2)
  let value := dn * ud
  let unit := un * dd
  if b.mantissa % 2 = 0 then b.lower * unit ≤ value && value ≤ b.upper * unit
  else b.lower * unit < value && value < b.upper * unit

/-- The power of ten of the first digit of `b`. -/
def leadingPower (b : Binary) : Int :=
  let (n, d) := scaled b.mantissa 2 b.exponent
  ((Nat.toDigits 10 (n * Nat.pow 10 400 / d)).length : Int) - 401

/-- The grid point of step `10 ^ e` next to `b` from below. -/
def floorAt (b : Binary) (e : Int) : Nat :=
  let (n, d) := scaled b.mantissa 2 b.exponent
  let (un, ud) := scaled 1 10 e
  n * ud / (d * un)

/-- Whether twice the way up to `b` from the grid point `k` is less than (`lt`), equal to or
greater than one step `10 ^ e`. -/
def halfwayAt (b : Binary) (e : Int) (k : Nat) : Ordering :=
  let (n, d) := scaled b.mantissa 2 b.exponent
  let (un, ud) := scaled 1 10 e
  compare (2 * n * ud) ((2 * k + 1) * un * d)

/-- The point of the grid with step `10 ^ e` that rounds to `b` and is nearest to it, if any
does. -/
def onGrid? (b : Binary) (e : Int) : Option Digits :=
  let k := b.floorAt e
  let below : Digits := ⟨k, e⟩
  let above : Digits := ⟨k + 1, e⟩
  match b.covers below, b.covers above with
  | false, false => none
  | true, false => some below
  | false, true => some above
  | true, true =>
      match b.halfwayAt e k with
      | .lt => some below
      | .gt => some above
      | .eq => some (if k % 2 = 0 then below else above)

end Binary

/-- The first grid with a point that rounds to `b`, from `count` digits on; `fuel` bounds the
number of grids tried. -/
def shortestFrom (b : Binary) (power : Int) : Nat → Nat → Digits
  | 0, _ => ⟨b.floorAt (power - 16), power - 16⟩
  | fuel + 1, count =>
      match b.onGrid? (power - (count : Int) + 1) with
      | some d => d
      | none => shortestFrom b power fuel (count + 1)

/-- The shortest decimal that rounds to `b`, and of those the nearest. -/
def shortest (b : Binary) : Digits := shortestFrom b b.leadingPower 17 1

/-- The digits without zeros at the end. -/
def Digits.trimmed (d : Digits) : Nat → Digits
  | 0 => d
  | fuel + 1 =>
      if d.digits ≠ 0 ∧ d.digits % 10 = 0 then
        (⟨d.digits / 10, d.exponent + 1⟩ : Digits).trimmed fuel
      else d

end Decimal

/-! ### Notation -/

namespace Decimal

/-- The decisions of a notation: the powers of ten of the first digit that are written
positionally, and whether an exponent that is not negative has a sign. -/
structure Style where
  leastPositional : Int
  greatestPositional : Int
  plusSign : Bool
  deriving DecidableEq

/-- The notation of messages about documents: positional from `10 ^ -5` up to below `10 ^ 16`. -/
def Style.document : Style := ⟨-5, 15, true⟩

/-- The notation of descriptive texts: positional from `10 ^ -4` up to below `10 ^ 16`. -/
def Style.descriptive : Style := ⟨-4, 15, false⟩

/-- The exponent part of a number in exponent form. -/
def Style.exponentText (s : Style) (power : Int) : String :=
  "e" ++ (if power < 0 then "-" else if s.plusSign then "+" else "") ++ toString power.natAbs

/-- The text of a decimal, its sign aside. -/
def Style.write (s : Style) (d : Digits) : String :=
  let d := d.trimmed 20
  let ds := Nat.toDigits 10 d.digits
  let power := d.exponent + (ds.length : Int) - 1
  if s.leastPositional ≤ power ∧ power ≤ s.greatestPositional then
    if power < 0 then
      "0." ++ String.ofList (List.replicate (-power - 1).toNat '0' ++ ds)
    else
      let whole := ds.take (power.toNat + 1)
      let rest := ds.drop (power.toNat + 1)
      let whole := whole ++ List.replicate (power.toNat + 1 - whole.length) '0'
      String.ofList whole ++ "." ++ (if rest.isEmpty then "0" else String.ofList rest)
  else
    let rest := ds.drop 1
    String.ofList (ds.take 1) ++ (if rest.isEmpty then "" else "." ++ String.ofList rest) ++
      s.exponentText power

/-- The text of a 64-bit floating-point pattern in a style. -/
def floatText (s : Style) (bits : Nat) : String :=
  let sign := if isNegative bits then "-" else ""
  match Magnitude.ofBits bits with
  | .zero => sign ++ "0.0"
  | .finite b => sign ++ s.write (shortest b)
  | .infinite => sign ++ "inf"
  | .notANumber => "NaN"

end Decimal

end Turnstile
