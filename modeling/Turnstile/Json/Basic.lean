/-
**JSON, written and refused.**

In compact JSON a string stands between double quotes.  Only a double quote, a backslash and the
control characters below the space are escaped; five of these have short escapes.

A text is read from left to right, and the first problem counts.  It is malformed, or it ends
inside a value, or it is well formed so far but does not hold what is wanted.

Main definitions:

* `Json.escape`, `Json.string` — the written form of a character and of a string;
* `Json.object`, `Json.array` — objects and arrays of written values;
* `Json.Found` — what was found where something else was wanted;
* `Json.Mismatch` — a text that does not hold what is wanted, `Mismatch.message` the wording;
* `Json.Failure` — the three ways in which a text cannot be read.
-/

import Turnstile.Decimal.Notation
import Turnstile.Text.Descriptive

set_option relaxedAutoImplicit false
set_option autoImplicit false

namespace Turnstile

/-! ### Writing -/

namespace Json

/-- The lower-case hexadecimal digit of a number below sixteen. -/
def hexDigit (n : Nat) : Char := Nat.digitChar (n % 16)

/-- The written form of one character of a string. -/
def escape (c : Char) : List Char :=
  if c = '"' then ['\\', '"']
  else if c = '\\' then ['\\', '\\']
  else if c = '\x08' then ['\\', 'b']
  else if c = '\t' then ['\\', 't']
  else if c = '\n' then ['\\', 'n']
  else if c = '\x0c' then ['\\', 'f']
  else if c = '\r' then ['\\', 'r']
  else if c.toNat < 0x20 then ['\\', 'u', '0', '0', hexDigit (c.toNat / 16), hexDigit c.toNat]
  else [c]

/-- The written form of a string. -/
def string (s : String) : String := String.ofList ('"' :: s.toList.flatMap escape ++ ['"'])

/-- The written form of an object. -/
def object (members : List (String × String)) : String :=
  "\x7b" ++ String.intercalate "," (members.map fun (name, value) => string name ++ ":" ++ value) ++
    "\x7d"

/-- The written form of an array. -/
def array (items : List String) : String := "[" ++ String.intercalate "," items ++ "]"

end Json

/-! ### Why a text cannot be read -/

namespace Json

/-- What was found where something else was wanted. -/
inductive Found
  | null
  | boolean (b : Bool)
  | integer (v : Int)
  | floating (bits : Nat)
  | text (s : String)
  | sequence
  | map
  deriving DecidableEq

/-- The wording of what was found. -/
def Found.message : Found → String
  | .null => "null"
  | .boolean b => "boolean `" ++ Text.truth b ++ "`"
  | .integer v => "integer `" ++ toString v ++ "`"
  | .floating bits => "floating point `" ++ Decimal.floatText .document bits ++ "`"
  | .text s => "string " ++ Quoted.quote s
  | .sequence => "sequence"
  | .map => "map"

/-- A text that does not hold what is wanted. -/
inductive Mismatch
  | missingField (name : String)
  | duplicateField (name : String)
  | invalidType (found : Found) (expected : String)
  | invalidValue (found : Int) (expected : String)
  | unknownVariant (name : String) (known : List String)
  | invalidLength (count : Nat) (expected : String)
  deriving DecidableEq

/-- The names of the known variants: two are joined by "or", more are listed. -/
def variantList (known : List String) : String :=
  let quoted := known.map fun name => "`" ++ name ++ "`"
  match quoted with
  | [one] => one
  | [one, other] => one ++ " or " ++ other
  | _ => "one of " ++ String.intercalate ", " quoted

/-- The wording of a mismatch. -/
def Mismatch.message : Mismatch → String
  | .missingField name => "missing field `" ++ name ++ "`"
  | .duplicateField name => "duplicate field `" ++ name ++ "`"
  | .invalidType found expected => "invalid type: " ++ found.message ++ ", expected " ++ expected
  | .invalidValue found expected =>
      "invalid value: " ++ (Found.integer found).message ++ ", expected " ++ expected
  | .unknownVariant name known =>
      "unknown variant `" ++ name ++ "`, expected " ++ variantList known
  | .invalidLength count expected =>
      "invalid length " ++ toString count ++ ", expected " ++ expected

/-- Why a text cannot be read. -/
inductive Failure
  /-- The text breaks the grammar. -/
  | malformed
  /-- The text ends inside a value. -/
  | truncated
  /-- The text does not hold what is wanted. -/
  | mismatch (m : Mismatch)
  deriving DecidableEq

end Json

end Turnstile
