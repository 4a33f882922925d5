/-
**Reading JSON text piece by piece.**

The readers here take one piece of a text each: blanks, a word, a string, a number, the opening of
the next element or member.  What is not wanted is passed over without asking for its value: a
skipped value may be nested to any depth, and its strings and numbers only have to be well formed.

Main definitions:

* `Json.blanks`, `Json.upcoming`, `Json.word` — blanks, what follows them, and fixed words;
* `Json.readString` — the text of a string after its opening quote;
* `Json.found` — what stands here instead of what is wanted;
* `Json.skipValue` — passes over a value;
* `Json.hasElement`, `Json.endArray`, `Json.hasMember`, `Json.endObject`, `Json.colon` — arrays and
  objects.
-/

import Turnstile.Json.Number

set_option relaxedAutoImplicit false
set_option autoImplicit false

namespace Turnstile

namespace Json

/-! ### Blanks and words -/

/-- The blanks of a text. -/
def isBlank (c : Char) : Bool := c == ' ' || c == '\n' || c == '\t' || c == '\r'

/-- Passes over blanks. -/
def blanks : Read Unit := fun cs => .ok ((), cs.dropWhile isBlank)

/-- Passes over blanks; the next character after them, left in place. -/
def upcoming : Read (Option Char) := do
  blanks
  Read.peek

/-- Takes exactly the given characters. -/
def word : List Char → Read Unit
  | [] => return ()
  | c :: cs => do
      let d ← Read.next
      if d = c then word cs else .fail .malformed

/-! ### Strings -/

/-- The value of a hexadecimal digit. -/
def hexValue? (c : Char) : Option Nat :=
  if c.isDigit then some (c.toNat - '0'.toNat)
  else if 'a' ≤ c ∧ c ≤ 'f' then some (c.toNat - 'a'.toNat + 10)
  else if 'A' ≤ c ∧ c ≤ 'F' then some (c.toNat - 'A'.toNat + 10)
  else none

/-- The value of hexadecimal digits. -/
def hexNumber? (cs : List Char) : Option Nat :=
  cs.foldlM (fun acc c => (hexValue? c).map fun v => acc * 16 + v) 0

/-- Takes the four hexadecimal digits of an escape.  A text of fewer than four bytes ends here. -/
def readHex : Read Nat := fun cs =>
  let four := cs.take 4
  if (String.ofList four).utf8ByteSize < 4 then .error .truncated
  else match hexNumber? four with
    | some v => if four.length = 4 then .ok (v, cs.drop 4) else .error .malformed
    | none => .error .malformed

/-- The character of an escape of one letter. -/
def shortEscape? (c : Char) : Option Char :=
  if c = '"' ∨ c = '\\' ∨ c = '/' then some c
  else if c = 'b' then some '\x08'
  else if c = 'f' then some '\x0c'
  else if c = 'n' then some '\n'
  else if c = 'r' then some '\r'
  else if c = 't' then some '\t'
  else none

/-- Whether a code is the first half of a pair. -/
def isHighHalf (n : Nat) : Bool := 0xD800 ≤ n && n ≤ 0xDBFF

/-- Whether a code is the second half of a pair. -/
def isLowHalf (n : Nat) : Bool := 0xDC00 ≤ n && n ≤ 0xDFFF

/-- Takes the character of an escape by code, after the letter; two halves make one character. -/
def readCode : Read Char := do
  let high ← readHex
  if isLowHalf high then .fail .malformed
  else if isHighHalf high then
    if (← Read.next) ≠ '\\' then .fail .malformed
    else if (← Read.next) ≠ 'u' then .fail .malformed
    else
      let low ← readHex
      if isLowHalf low then
        return Char.ofNat ((high - 0xD800) * 1024 + (low - 0xDC00) + 0x10000)
      else .fail .malformed
  else return Char.ofNat high

/-- Takes the character of an escape, after the backslash. -/
def readEscape : Read Char := do
  let c ← Read.next
  if c = 'u' then readCode
  else match shortEscape? c with
    | some d => return d
    | none => .fail .malformed

/-- Takes the characters of a string up to its closing quote; `fuel` bounds their number. -/
def readChars : Nat → List Char → Read (List Char)
  | 0, _ => .fail .truncated
  | fuel + 1, acc => do
      let c ← Read.next
      if c = '"' then return acc.reverse
      else if c = '\\' then
        let d ← readEscape
        readChars fuel (d :: acc)
      else if c.toNat < 0x20 then .fail .malformed
      else readChars fuel (c :: acc)

/-- Takes a string after its opening quote. -/
def readString : Read String := do
  let cs ← get
  return String.ofList (← readChars (cs.length + 1) [])

/-- Passes over a string after its opening quote; `fuel` bounds its length. -/
def skipChars : Nat → Read Unit
  | 0 => .fail .truncated
  | fuel + 1 => do
      let c ← Read.next
      if c = '"' then return ()
      else if c = '\\' then
        let d ← Read.next
        if d = 'u' then
          let _ ← readHex
          skipChars fuel
        else if (shortEscape? d).isSome then skipChars fuel
        else .fail .malformed
      else if c.toNat < 0x20 then .fail .malformed
      else skipChars fuel

/-- Passes over a string after its opening quote. -/
def skipString : Read Unit := do
  let cs ← get
  skipChars (cs.length + 1)

/-! ### What stands here -/

/-- What stands here; called where a value is expected and its first character is known to be one
that does not begin what is wanted.  Words, numbers and strings are read to their end. -/
def found : Read Found := do
  match ← Read.peek with
  | some 'n' => do
      word "null".toList
      return .null
  | some 't' => do
      word "true".toList
      return .boolean true
  | some 'f' => do
      word "false".toList
      return .boolean false
  | some '-' => do
      Read.advance
      return (← readNumber true).found
  | some '"' => do
      Read.advance
      return .text (← readString)
  | some '[' => return .sequence
  | some '\x7b' => return .map
  | some c => if c.isDigit then return (← readNumber false).found else .fail .malformed
  | none => .fail .malformed

/-- Fails because something else is wanted here. -/
def unwanted {α : Type} (expected : String) : Read α := do
  let f ← found
  .fail (.mismatch (.invalidType f expected))

/-! ### Skipped values -/

/-- What encloses a skipped value. -/
inductive Frame
  | array
  | object
  deriving DecidableEq

/-- What comes next while values are skipped: a value; the first element or member of the
innermost frame, or its end; what follows a complete value in the innermost frame; or a member. -/
inductive Skipping
  | value
  | opened
  | complete
  | member
  deriving DecidableEq

/-- The character that closes a frame. -/
def Frame.closing : Frame → Char
  | .array => ']'
  | .object => '\x7d'

/-- What the inside of a frame begins with. -/
def Frame.inside : Frame → Skipping
  | .array => .value
  | .object => .member

/-- Passes over values until every frame is closed; `fuel` bounds the number of pieces. -/
def skipFrames : Nat → Skipping → List Frame → Read Unit
  | 0, _, _ => .fail .truncated
  | fuel + 1, .value, frames => do
      match ← upcoming with
      | none => .fail .truncated
      | some 'n' => do
          word "null".toList
          skipFrames fuel .complete frames
      | some 't' => do
          word "true".toList
          skipFrames fuel .complete frames
      | some 'f' => do
          word "false".toList
          skipFrames fuel .complete frames
      | some '-' => do
          Read.advance
          skipNumber
          skipFrames fuel .complete frames
      | some '"' => do
          Read.advance
          skipString
          skipFrames fuel .complete frames
      | some '[' => do
          Read.advance
          skipFrames fuel .opened (.array :: frames)
      | some '\x7b' => do
          Read.advance
          skipFrames fuel .opened (.object :: frames)
      | some c =>
          if c.isDigit then do
            skipNumber
            skipFrames fuel .complete frames
          else .fail .malformed
  | _ + 1, .complete, [] => return ()
  | fuel + 1, .complete, frame :: frames => do
      match ← upcoming with
      | none => .fail .truncated
      | some c =>
          if c = ',' then do
            Read.advance
            skipFrames fuel frame.inside (frame :: frames)
          else if c = frame.closing then do
            Read.advance
            skipFrames fuel .complete frames
          else .fail .malformed
  | _ + 1, .opened, [] => return ()
  | fuel + 1, .opened, frame :: frames => do
      match ← upcoming with
      | none => .fail .truncated
      | some c =>
          if c = frame.closing then do
            Read.advance
            skipFrames fuel .complete frames
          else skipFrames fuel frame.inside (frame :: frames)
  | fuel + 1, .member, frames => do
      match ← upcoming with
      | none => .fail .truncated
      | some '"' => do
          Read.advance
          skipString
          match ← upcoming with
          | none => .fail .truncated
          | some ':' => do
              Read.advance
              skipFrames fuel .value frames
          | some _ => .fail .malformed
      | some _ => .fail .malformed

/-- Passes over a value of any depth. -/
def skipValue : Read Unit := do
  let cs ← get
  skipFrames (3 * cs.length + 3) .value []

/-! ### Arrays and objects -/

/-- Whether another element follows in an array, and passes over the comma before it. -/
def hasElement (isFirst : Bool) : Read Bool := do
  match ← upcoming with
  | none => .fail .truncated
  | some ']' => return false
  | some c =>
      if isFirst then return true
      else if c = ',' then
        Read.advance
        match ← upcoming with
        | none => .fail .truncated
        | some ']' => .fail .malformed
        | some _ => return true
      else .fail .malformed

/-- Passes over the end of an array. -/
def endArray : Read Unit := do
  match ← upcoming with
  | none => .fail .truncated
  | some ']' => Read.advance
  | some _ => .fail .malformed

/-- Whether another member follows in an object; passes over the comma before it and the opening
quote of its name. -/
def hasMember (isFirst : Bool) : Read Bool := do
  match ← upcoming with
  | none => .fail .truncated
  | some '\x7d' => return false
  | some c =>
      if isFirst then
        if c = '"' then
          Read.advance
          return true
        else .fail .malformed
      else if c = ',' then
        Read.advance
        match ← upcoming with
        | none => .fail .truncated
        | some '"' => do
            Read.advance
            return true
        | some _ => .fail .malformed
      else .fail .malformed

/-- Passes over the end of an object. -/
def endObject : Read Unit := do
  match ← upcoming with
  | none => .fail .truncated
  | some '\x7d' => Read.advance
  | some _ => .fail .malformed

/-- Passes over the colon of a member. -/
def colon : Read Unit := do
  match ← upcoming with
  | none => .fail .truncated
  | some ':' => Read.advance
  | some _ => .fail .malformed

/-! ### Values of a type -/

/-- Reads a number that must be a natural one up to `most`. -/
def readNatural (most : Nat) (expected : String) : Read Nat := do
  match ← upcoming with
  | none => .fail .truncated
  | some c =>
      if c = '-' ∨ c.isDigit then
        if c = '-' then Read.advance
        match ← readNumber (c = '-') with
        | .natural n =>
            if n ≤ most then return n else .fail (.mismatch (.invalidValue n expected))
        | .negative v => .fail (.mismatch (.invalidValue v expected))
        | .floating bits => .fail (.mismatch (.invalidType (.floating bits) expected))
      else unwanted expected

/-- Reads a truth value. -/
def readTruth : Read Bool := do
  match ← upcoming with
  | none => .fail .truncated
  | some 't' => do
      word "true".toList
      return true
  | some 'f' => do
      word "false".toList
      return false
  | some _ => unwanted "a boolean"

/-- Reads a string. -/
def readText (expected : String) : Read String := do
  match ← upcoming with
  | none => .fail .truncated
  | some '"' => do
      Read.advance
      readString
  | some _ => unwanted expected

/-- Reads nothing in the form of `null`. -/
def readUnit : Read Unit := do
  match ← upcoming with
  | none => .fail .truncated
  | some 'n' => word "null".toList
  | some _ => unwanted "unit"

/-- Reads a value, or none in the form of `null`. -/
def readOptional {α : Type} (r : Read α) : Read (Option α) := do
  match ← upcoming with
  | some 'n' => do
      word "null".toList
      return none
  | _ => return some (← r)

/-- Finds a variant by name. -/
def variant {α : Type} (known : List (String × α)) (name : String) : Read α :=
  match known.lookup name with
  | some v => return v
  | none => .fail (.mismatch (.unknownVariant name (known.map Prod.fst)))

/-- Reads the name of a member where one has to stand: nothing but a string will do. -/
def readMemberName : Read String := do
  match ← upcoming with
  | none => .fail .truncated
  | some '"' => do
      Read.advance
      readString
  | some _ => .fail .malformed

/-- Reads a variant: its name, or an object with the name as its only member and nothing as the
value. -/
def readVariant {α : Type} (known : List (String × α)) : Read α := do
  match ← upcoming with
  | none => .fail .truncated
  | some '"' => do
      Read.advance
      variant known (← readString)
  | some '\x7b' => do
      Read.advance
      let v ← variant known (← readMemberName)
      colon
      readUnit
      endObject
      return v
  | some _ => .fail .malformed

/-- Reads a whole text: nothing but blanks may follow. -/
def readAll {α : Type} (r : Read α) (text : String) : Except Failure α :=
  match (do
    let v ← r
    match ← upcoming with
    | none => return v
    | some _ => .fail .malformed : Read α).on text.toList with
  | .ok (v, _) => .ok v
  | .error e => .error e

end Json

end Turnstile
