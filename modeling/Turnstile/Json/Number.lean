/-
**Numbers in JSON.**

A number is read as a 64-bit integer where it is one, and otherwise as a floating-point number: the
leading digits that fit a 64-bit word, times or divided by a power of ten.  A number beyond the
floating-point range breaks the grammar.

Main definitions:

* `Json.Number` — the values;
* `Json.Read` — readers of a text;
* `Json.readNumber` — reads a number after its sign;
* `Json.skipNumber` — passes over one without asking for its value.
-/

import Turnstile.Duration
import Turnstile.Json.Basic

set_option relaxedAutoImplicit false
set_option autoImplicit false

namespace Turnstile

namespace Json

/-- A reader: it takes something from the beginning of a text, or fails. -/
abbrev Read := StateT (List Char) (Except Failure)

namespace Read

variable {α : Type}

/-- Runs a reader on a text: what it takes, and the rest of the text. -/
def on (r : Read α) (cs : List Char) : Except Failure (α × List Char) := StateT.run r cs

/-- A failure. -/
def fail (e : Failure) : Read α := fun _ => .error e

/-- The next character, left in place. -/
def peek : Read (Option Char) := fun cs => .ok (cs.head?, cs)

/-- Passes over the next character. -/
def advance : Read Unit := fun cs => .ok ((), cs.tail)

/-- Takes the next character; the text must not end here. -/
def next : Read Char
  | c :: cs => .ok (c, cs)
  | [] => .error .truncated

/-- Takes the digits at the beginning. -/
def digits : Read (List Char) := fun cs =>
  .ok (cs.takeWhile Char.isDigit, cs.dropWhile Char.isDigit)

end Read

/-- The value of a number. -/
inductive Number
  | natural (n : Nat)
  | negative (v : Int)
  | floating (bits : Nat)
  deriving DecidableEq

/-- What a number is where something else is wanted. -/
def Number.found : Number → Found
  | .natural n => .integer n
  | .negative v => .integer v
  | .floating bits => .floating bits

/-! ### Floating point -/

/-- The greatest power of ten with a floating-point value. -/
def greatestPower : Nat := 308

/-- A power of ten. -/
def powerOfTen (e : Nat) : Float := Float.ofScientific 1 false e

/-- Divides by a power of ten, in steps where one is not enough. -/
def divided (f : Float) (e : Nat) : Nat → Float
  | 0 => f
  | fuel + 1 =>
      if e ≤ greatestPower then f / powerOfTen e
      else if f == 0 then f
      else divided (f / powerOfTen greatestPower) (e - greatestPower) fuel

/-- The value of `significand * 10 ^ exponent` without its sign, if it is in range. -/
def floating? (significand : Nat) (exponent : Int) : Option Float :=
  let f := Float.ofNat significand
  if exponent < 0 then some (divided f (-exponent).toNat ((-exponent).toNat + 1))
  else if exponent.toNat ≤ greatestPower then
    let g := f * powerOfTen exponent.toNat
    if g.isInf then none else some g
  else if significand = 0 then some f else none

/-- A floating-point number with its sign. -/
def signed (negative : Bool) (f : Float) : Number :=
  .floating (if negative then -f else f).toBits.toNat

/-- The number `significand * 10 ^ exponent`. -/
def scaledNumber (negative : Bool) (significand : Nat) (exponent : Int) : Read Number :=
  match floating? significand exponent with
  | some f => return signed negative f
  | none => .fail .malformed

/-! ### Reading -/

/-- Whether a further digit still fits a 64-bit word. -/
def fits (significand : Nat) (c : Char) : Bool :=
  significand * 10 + (c.toNat - '0'.toNat) ≤ maxWord

/-- The value of digits after `significand` as far as it fits a 64-bit word, and the number of
digits that it covers. -/
def leading (significand : Nat) : List Char → Nat × Nat
  | [] => (significand, 0)
  | c :: cs =>
      if fits significand c then
        let (v, n) := leading (significand * 10 + (c.toNat - '0'.toNat)) cs
        (v, n + 1)
      else (significand, 0)

/-- The greatest exponent that is added up; a larger one settles the number. -/
def greatestExponent : Nat := 2147483647

/-- Reads an exponent after its letter, and gives the number. -/
def readExponent (negative : Bool) (significand : Nat) (exponent : Int) : Read Number := do
  let sign ← Read.peek
  if sign = some '+' ∨ sign = some '-' then Read.advance
  let first ← Read.next
  if !first.isDigit then .fail .malformed
  else
    let more ← Read.digits
    let value := (first :: more).foldl (fun acc c => acc * 10 + (c.toNat - '0'.toNat)) 0
    if greatestExponent < value then
      if significand ≠ 0 ∧ sign ≠ some '-' then .fail .malformed
      else return signed negative 0
    else
      let shift : Int := if sign = some '-' then -(value : Int) else value
      scaledNumber negative significand (exponent + shift)

/-- Reads the digits after a point, and what follows them. -/
def readFraction (negative : Bool) (significand : Nat) (exponent : Int) : Read Number := do
  let places ← Read.digits
  if places.isEmpty then
    match ← Read.peek with
    | some _ => .fail .malformed
    | none => .fail .truncated
  else
    let (significand, used) := leading significand places
    let exponent := exponent - used
    match ← Read.peek with
    | some 'e' | some 'E' => do
        Read.advance
        readExponent negative significand exponent
    | _ => scaledNumber negative significand exponent

/-- Reads what follows the digits before a point.  `dropped` of them no longer fit. -/
def readAfterWhole (negative : Bool) (significand dropped : Nat) : Read Number := do
  match ← Read.peek with
  | some '.' => do
      Read.advance
      readFraction negative significand dropped
  | some 'e' | some 'E' => do
      Read.advance
      readExponent negative significand dropped
  | _ =>
      if 0 < dropped then scaledNumber negative significand dropped
      else if !negative then return .natural significand
      else if significand = 0 ∨ 9223372036854775808 < significand then
        return signed true (Float.ofNat significand)
      else return .negative (-(significand : Int))

/-- Reads a number after its sign. -/
def readNumber (negative : Bool) : Read Number := do
  let first ← Read.next
  if first = '0' then
    match ← Read.peek with
    | some c => if c.isDigit then .fail .malformed else readAfterWhole negative 0 0
    | none => readAfterWhole negative 0 0
  else if first.isDigit then
    let more ← Read.digits
    let (significand, used) := leading 0 (first :: more)
    readAfterWhole negative significand (more.length + 1 - used)
  else .fail .malformed

/-! ### Passing over -/

/-- Passes over digits, of which there must be one. -/
def skipDigits : Read Unit := do
  let ds ← Read.digits
  if ds.isEmpty then .fail .malformed

/-- Passes over an exponent after its letter. -/
def skipExponent : Read Unit := do
  let sign ← Read.peek
  if sign = some '+' ∨ sign = some '-' then Read.advance
  skipDigits

/-- Passes over what follows the digits before a point. -/
def skipAfterWhole : Read Unit := do
  match ← Read.peek with
  | some '.' => do
      Read.advance
      skipDigits
      match ← Read.peek with
      | some 'e' | some 'E' => do
          Read.advance
          skipExponent
      | _ => return ()
  | some 'e' | some 'E' => do
      Read.advance
      skipExponent
  | _ => return ()

/-- Passes over a number after its sign. -/
def skipNumber : Read Unit := do
  match ← Read.peek with
  | some '0' => do
      Read.advance
      match ← Read.peek with
      | some c => if c.isDigit then .fail .malformed else skipAfterWhole
      | none => return ()
  | some c =>
      if c.isDigit then do
        let _ ← Read.digits
        skipAfterWhole
      else .fail .malformed
  | none => .fail .malformed

end Json

end Turnstile
