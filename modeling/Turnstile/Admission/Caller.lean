/-
**Who makes a request.**

A request is counted under a key taken from it: the address of its caller, or the value of a header
where that has one.

The text of an address is what a caller is known by.  A four-byte address is written with dots.  A
sixteen-byte address is written as eight groups in hexadecimal; the longest run of two or more zero
groups, the first of equals, is left out as `::`; one that holds a four-byte address behind
`::ffff:` ends in that address's own text.

Main definitions:

* `Address` — an address of either size;
* `Address.text` — its text;
* `Address.ofSocket?` — the address in a text of address and port;
* `Caller` — the part of a request that tells who makes it;
* `Caller.addressKey` — the key by address;
* `Caller.headerKey` — the key by a header.
-/

set_option relaxedAutoImplicit false
set_option autoImplicit false

namespace Turnstile

/-- A network address: four bytes, or eight groups of sixteen bits. -/
inductive Address
  | v4 (a b c d : UInt8)
  | v6 (groups : Vector UInt16 8)
  deriving DecidableEq

namespace Address

/-! ### Text -/

/-- Texts joined by a separator. -/
def joined (separator : List Char) : List (List Char) → List Char
  | [] => []
  | [x] => x
  | x :: rest => x ++ separator ++ joined separator rest

/-- Four bytes in decimal with dots between them. -/
def dotted (bytes : List Nat) : List Char := joined ['.'] (bytes.map (Nat.toDigits 10))

/-- Groups in hexadecimal with colons between them. -/
def colons (groups : List Nat) : List Char := joined [':'] (groups.map (Nat.toDigits 16))

/-- How many zero groups stand at the beginning. -/
def leadingZeros (groups : List Nat) : Nat := (groups.takeWhile (· == 0)).length

/-- The place and length of the longest run of zero groups, the first of equals; the run may be
empty. -/
def longestZeros (groups : List Nat) : Nat × Nat :=
  (List.range groups.length).foldl
    (fun best i =>
      let run := leadingZeros (groups.drop i)
      if best.2 < run then (i, run) else best)
    (0, 0)

/-- Eight groups, with the longest run of at least two zero groups left out. -/
def compressed (groups : List Nat) : List Char :=
  let (start, run) := longestZeros groups
  if 2 ≤ run then
    colons (groups.take start) ++ [':', ':'] ++ colons (groups.drop (start + run))
  else colons groups

/-- The text of eight groups. -/
def groupsText (groups : List Nat) : List Char :=
  match groups with
  | [0, 0, 0, 0, 0, 0xffff, high, low] =>
      "::ffff:".toList ++ dotted [high / 256, high % 256, low / 256, low % 256]
  | _ => compressed groups

/-- The text of an address. -/
def text : Address → String
  | .v4 a b c d => String.ofList (dotted [a.toNat, b.toNat, c.toNat, d.toNat])
  | .v6 groups => String.ofList (groupsText (groups.toList.map UInt16.toNat))

/-! ### Reading -/

/-- The pieces between the occurrences of a separator; there is always one. -/
def pieces (separator : Char) : List Char → List (List Char)
  | [] => [[]]
  | c :: rest =>
      if c = separator then [] :: pieces separator rest
      else match pieces separator rest with
        | piece :: more => (c :: piece) :: more
        | [] => [[c]]

/-- The value of a hexadecimal digit. -/
def hexValue? (c : Char) : Option Nat :=
  if c.isDigit then some (c.toNat - '0'.toNat)
  else if 'a' ≤ c ∧ c ≤ 'f' then some (c.toNat - 'a'.toNat + 10)
  else if 'A' ≤ c ∧ c ≤ 'F' then some (c.toNat - 'A'.toNat + 10)
  else none

/-- The value of digits of a base. -/
def valueOf? (base : Nat) (digits : List Char) : Option Nat :=
  if digits.isEmpty then none
  else digits.foldlM (fun acc c => do
    let v ← hexValue? c
    if v < base then some (acc * base + v) else none) 0

/-- A byte in decimal, without zeros in front. -/
def byte? (digits : List Char) : Option Nat := do
  let v ← valueOf? 10 digits
  if v < 256 ∧ (digits.length = 1 ∨ digits.head? ≠ some '0') then some v else none

/-- Four bytes with dots between them. -/
def dotted? (cs : List Char) : Option (List Nat) := do
  let bytes ← (pieces '.' cs).mapM byte?
  if bytes.length = 4 then some bytes else none

/-- A group of at most four hexadecimal digits. -/
def group? (digits : List Char) : Option Nat :=
  if digits.length ≤ 4 then valueOf? 16 digits else none

/-- Groups with colons between them; the last two may be written as four bytes. -/
def groups? (cs : List Char) : Option (List Nat) :=
  if cs.isEmpty then some []
  else
    let parts := pieces ':' cs
    match parts.getLast?.bind dotted? with
    | some [a, b, c, d] => do
        let front ← parts.dropLast.mapM group?
        some (front ++ [a * 256 + b, c * 256 + d])
    | _ => parts.mapM group?

/-- A text cut at its first `::`. -/
def cutAtGap? : List Char → Option (List Char × List Char)
  | ':' :: ':' :: rest => some ([], rest)
  | c :: rest => (cutAtGap? rest).map fun (before, after) => (c :: before, after)
  | [] => none

/-- Eight groups, some of which may be left out once. -/
def eight? (cs : List Char) : Option (List Nat) :=
  match cutAtGap? cs with
  | none => do
      let groups ← groups? cs
      if groups.length = 8 then some groups else none
  | some (before, after) => do
      let front ← groups? before
      let back ← groups? after
      if before.contains '.' then none
      else if front.length + back.length ≤ 7 then
        some (front ++ List.replicate (8 - front.length - back.length) 0 ++ back)
      else none

/-- The address of eight groups. -/
def ofGroups? (groups : List Nat) : Option Address :=
  let words := (groups.map Nat.toUInt16).toArray
  if h : words.size = 8 then some (.v6 ⟨words, h⟩) else none

/-- A number in decimal, at most `most`. -/
def bounded? (most : Nat) (digits : List Char) : Option Nat := do
  let v ← valueOf? 10 digits
  if v ≤ most then some v else none

/-- The address in a text such as `1.2.3.4:80` or `[::1]:80`; a scope after `%` is left aside. -/
def ofSocket? (s : String) : Option Address :=
  match s.toList with
  | '[' :: rest => do
      let inside := rest.takeWhile (· != ']')
      let address := inside.takeWhile (· != '%')
      match inside.dropWhile (· != '%') with
      | '%' :: scope => do let _ ← bounded? 4294967295 scope
      | _ => pure ()
      match rest.dropWhile (· != ']') with
      | ']' :: ':' :: port => do let _ ← bounded? 65535 port
      | _ => none
      ofGroups? (← eight? address)
  | cs => do
      match pieces ':' cs with
      | [host, port] => do
          let _ ← bounded? 65535 port
          match ← dotted? host with
          | [a, b, c, d] => some (.v4 a.toUInt8 b.toUInt8 c.toUInt8 d.toUInt8)
          | _ => none
      | _ => none

end Address

/-! ### Keys -/

/-- The part of a request that tells who makes it: the address it comes from, if known, and its
headers in order, with one character per byte in the values. -/
structure Caller where
  address : Option Address
  headers : List (String × String)

namespace Caller

/-- The key of callers without a known address. -/
def unknownKey : String := "unknown"

/-- The key by address. -/
def addressKey (c : Caller) : String :=
  match c.address with
  | some a => a.text
  | none => unknownKey

/-- The characters of a header name. -/
def isNameChar (c : Char) : Bool :=
  c.isAlphanum ||
    ['!', '#', '$', '%', '&', '\x27', '*', '+', '-', '.', '^', '_', '\x60', '|', '~'].contains c

/-- A header name in lower case, if it is one. -/
def headerName? (name : String) : Option String :=
  if name.toList.all isNameChar && !name.isEmpty then
    some (String.ofList (name.toList.map Char.toLower))
  else none

/-- The first value of a header. -/
def header? (c : Caller) (name : String) : Option String := do
  let wanted ← headerName? name
  let (_, value) ← c.headers.find? fun (label, _) => headerName? label == some wanted
  some value

/-- Whether a character may stand in a header value that has a text. -/
def isVisible (c : Char) : Bool := c == '\t' || (0x20 ≤ c.toNat && c.toNat < 0x7F)

/-- Whether a character is a blank of a header value. -/
def isPadding (c : Char) : Bool := c == ' ' || c == '\t'

/-- The text of a header value without blanks at its ends, if it has a text other than blanks. -/
def valueText? (value : String) : Option String :=
  let cs := value.toList
  if cs.all isVisible then
    let inner := ((cs.dropWhile isPadding).reverse.dropWhile isPadding).reverse
    if inner.isEmpty then none else some (String.ofList inner)
  else none

/-- The key by the first value of a header; without one, the key by address. -/
def headerKey (name : String) (c : Caller) : String :=
  match (c.header? name).bind valueText? with
  | some key => key
  | none => c.addressKey

end Caller

end Turnstile
