/-
**The grammar of JSON texts.**

A text of JSON spells a tree: `null`, a truth value, a number, a string, an array of trees, or an
object whose members are names with trees.  Blanks may stand around every value, name and mark, and
that is the only freedom: a tree keeps the characters of its numbers and the escapes of its strings,
and the members of its objects in their order, with repetitions.  So two texts of one tree differ in
blanks alone, and whatever else may differ between two texts is a difference between trees.

The grammar is the one of RFC 8259.  A string may hold escapes of halves of a pair that stand alone;
these stand for no character, so such a string is well formed but denotes no text.

Main definitions:

* `Json.Piece`, `Json.Numeral`, `Json.Tree` — pieces of strings, numbers, trees;
* `Json.Spells` — **the texts of a tree**, without the blanks around it;
* `Json.Document` — a whole text;
* `Json.unescape?`, `Json.denotes?` — the text that a string denotes;
* `Json.Ends` — what may follow a value.

Main results:

* `Json.Spells.starts` — the first character of a value tells what kind of a value it is.
-/

import Turnstile.Json.Scan

set_option relaxedAutoImplicit false
set_option autoImplicit false

namespace Turnstile

namespace Json

/-! ### Blanks -/

/-- Nothing but blanks. -/
def Blank (cs : List Char) : Prop := ∀ c ∈ cs, isBlank c = true

theorem blank_nil : Blank [] := fun _ h => nomatch h

theorem Blank.append {cs cs' : List Char} (h : Blank cs) (h' : Blank cs') : Blank (cs ++ cs') :=
  fun c hc => (List.mem_append.1 hc).elim (h c) (h' c)

/-- What may follow a value: a blank, a comma, the end of an array or an object, or nothing. -/
def Ends (rest : List Char) : Prop :=
  ∀ c ∈ rest.head?, isBlank c = true ∨ c = ',' ∨ c = ']' ∨ c = '\x7d'

theorem ends_nil : Ends [] := fun _ h => nomatch h

theorem ends_cons {c : Char} (h : c = ',' ∨ c = ']' ∨ c = '\x7d') (rest : List Char) :
    Ends (c :: rest) := fun _ hc => .inr (Option.some.inj hc ▸ h)

/-- Blanks may stand before whatever may follow a value. -/
theorem Ends.after_blank {before rest : List Char} (h : Ends rest) (hb : Blank before) :
    Ends (before ++ rest) := by
  cases before with
  | nil => exact h
  | cons b bs => exact fun c hc => .inl (Option.some.inj hc ▸ hb b List.mem_cons_self)

/-! ### Strings -/

/-- A character that stands for itself in a string. -/
def isPlain (c : Char) : Bool := c != '"' && c != '\\' && decide (0x20 ≤ c.toNat)

/-- A piece of a string: a character, an escape of one letter with what it stands for, or an escape
by a code of four digits. -/
inductive Piece
  | plain (c : Char) (ok : isPlain c = true)
  | short (c d : Char) (ok : shortEscape? c = some d)
  | code (a b c d : Char) (n : Nat) (ok : hexNumber? [a, b, c, d] = some n)

theorem isPlain_iff {c : Char} : isPlain c = true ↔ (c ≠ '"' ∧ c ≠ '\\') ∧ 0x20 ≤ c.toNat := by
  simp [isPlain]

/-- The letter of an escape by a code is not that of a short one. -/
theorem ne_u_of_short {c d : Char} (ok : shortEscape? c = some d) : c ≠ 'u' := by
  rintro rfl
  simp [shortEscape?] at ok

/-- The characters of a piece. -/
def Piece.chars : Piece → List Char
  | .plain c _ => [c]
  | .short c _ _ => ['\\', c]
  | .code a b c d _ _ => ['\\', 'u', a, b, c, d]

/-- The characters of a string, without its opening quote. -/
def closed (ps : List Piece) : List Char := ps.flatMap Piece.chars ++ ['"']

/-- The characters that pieces denote; a half of a pair that stands alone denotes none. -/
def unescape? : List Piece → Option (List Char)
  | [] => some []
  | .plain c _ :: ps => (unescape? ps).map (c :: ·)
  | .short _ d _ :: ps => (unescape? ps).map (d :: ·)
  | .code _ _ _ _ n _ :: ps =>
      if isLowHalf n then none
      else if isHighHalf n then
        match ps with
        | .code _ _ _ _ n' _ :: ps =>
            if isLowHalf n' then
              (unescape? ps).map
                (Char.ofNat ((n - 0xD800) * 1024 + (n' - 0xDC00) + 0x10000) :: ·)
            else none
        | _ => none
      else (unescape? ps).map (Char.ofNat n :: ·)

/-- The text that a string denotes. -/
def denotes? (ps : List Piece) : Option String := (unescape? ps).map String.ofList

/-! ### Numbers -/

/-- One or more decimal digits. -/
structure Digits where
  first : Char
  more : List Char
  first_digit : first.isDigit = true
  more_digits : ∀ d ∈ more, d.isDigit = true

/-- The characters of digits. -/
def Digits.chars (ds : Digits) : List Char := ds.first :: ds.more

/-- The exponent of a number: its letter, its sign if it has one, its digits. -/
structure Exponent where
  letter : Char
  sign : Option Char
  digits : Digits
  letter_ok : letter = 'e' ∨ letter = 'E'
  sign_ok : ∀ c ∈ sign, c = '+' ∨ c = '-'

/-- The characters of an exponent. -/
def Exponent.chars (e : Exponent) : List Char := e.letter :: (e.sign.toList ++ e.digits.chars)

/-- A number: its sign, its whole part without zeros in front, the digits after its point and its
exponent, if it has them. -/
structure Numeral where
  negative : Bool
  whole : Digits
  fraction : Option Digits
  exponent : Option Exponent
  no_zeros : whole.first = '0' → whole.more = []

namespace Numeral

/-- What follows the whole part of a number. -/
def tail (n : Numeral) : List Char :=
  (n.fraction.elim [] fun ds => '.' :: ds.chars) ++ n.exponent.elim [] Exponent.chars

/-- The characters of a number without its sign. -/
def unsigned (n : Numeral) : List Char := n.whole.chars ++ n.tail

/-- The characters of a number. -/
def chars (n : Numeral) : List Char := if n.negative then '-' :: n.unsigned else n.unsigned

end Numeral

/-! ### Trees and their texts -/

/-- What a text of JSON spells. -/
inductive Tree
  | null
  | truth (b : Bool)
  | number (n : Numeral)
  | text (ps : List Piece)
  | array (items : List Tree)
  | object (members : List (List Piece × Tree))

/-- A member of an object: its name and its value. -/
abbrev Member := List Piece × Tree

/-- A value in an array: its text, and the blanks around it. -/
structure Item where
  before : List Char
  value : Tree
  text : List Char
  after : List Char
  blank_before : Blank before
  blank_after : Blank after

/-- The characters of a value in an array. -/
def Item.chars (i : Item) : List Char := i.before ++ (i.text ++ i.after)

/-- A member in an object: its name, the text of its value, and the blanks around both. -/
structure Labelled where
  before : List Char
  name : List Piece
  between : List Char
  item : Item
  blank_before : Blank before
  blank_between : Blank between

namespace Labelled

/-- The member. -/
def member (e : Labelled) : Member := (e.name, e.item.value)

/-- The characters of a member from its name on. -/
def chars (e : Labelled) : List Char :=
  '"' :: (closed e.name ++ (e.between ++ ':' :: e.item.chars))

/-- The characters of a member. -/
def spaced (e : Labelled) : List Char := e.before ++ e.chars

end Labelled

/-- **The texts of a tree**, without blanks around them. -/
inductive Spells : Tree → List Char → Prop
  | null : Spells .null ['n', 'u', 'l', 'l']
  | yes : Spells (.truth true) ['t', 'r', 'u', 'e']
  | no : Spells (.truth false) ['f', 'a', 'l', 's', 'e']
  | number (n : Numeral) : Spells (.number n) n.chars
  | text (ps : List Piece) : Spells (.text ps) ('"' :: closed ps)
  | noItems (inner : List Char) (blank : Blank inner) : Spells (.array []) ('[' :: (inner ++ [']']))
  | items (i : Item) (is : List Item) (each : ∀ j ∈ i :: is, Spells j.value j.text) :
      Spells (.array (i.value :: is.map Item.value))
        ('[' :: (i.chars ++ (is.flatMap fun j => ',' :: j.chars) ++ [']']))
  | noMembers (inner : List Char) (blank : Blank inner) :
      Spells (.object []) ('\x7b' :: (inner ++ ['\x7d']))
  | members (e : Labelled) (es : List Labelled)
      (each : ∀ j ∈ e :: es, Spells j.item.value j.item.text) :
      Spells (.object (e.member :: es.map Labelled.member))
        ('\x7b' :: (e.spaced ++ (es.flatMap fun j => ',' :: j.spaced) ++ ['\x7d']))

/-- A text of a tree, with blanks around it. -/
def Document (v : Tree) (text : String) : Prop :=
  ∃ before spelled after, Blank before ∧ Blank after ∧ Spells v spelled ∧
    text.toList = before ++ (spelled ++ after)

/-! ### First characters -/

/-- The first character of a value tells its kind. -/
structure Starts (v : Tree) (c : Char) : Prop where
  solid : isBlank c = false
  null : c = 'n' ↔ v = .null
  yes : c = 't' ↔ v = .truth true
  no : c = 'f' ↔ v = .truth false
  number : c = '-' ∨ c.isDigit = true ↔ ∃ n, v = .number n
  text : c = '"' ↔ ∃ ps, v = .text ps
  array : c = '[' ↔ ∃ vs, v = .array vs
  object : c = '\x7b' ↔ ∃ ms, v = .object ms
  inside : c ≠ ',' ∧ c ≠ ']' ∧ c ≠ '\x7d'

theorem digit_ne {c d : Char} (h : c.isDigit = true) (hd : d.isDigit = false) : c ≠ d := by
  rintro rfl
  rw [h] at hd
  exact nomatch hd

theorem starts_digit {c : Char} (h : c.isDigit = true) (n : Numeral) : Starts (.number n) c where
  solid := by
    simp only [isBlank, Bool.or_eq_false_iff, beq_eq_false_iff_ne]
    exact ⟨⟨⟨digit_ne h rfl, digit_ne h rfl⟩, digit_ne h rfl⟩, digit_ne h rfl⟩
  null := by simp [digit_ne h (show 'n'.isDigit = false from rfl)]
  yes := by simp [digit_ne h (show 't'.isDigit = false from rfl)]
  no := by simp [digit_ne h (show 'f'.isDigit = false from rfl)]
  number := by simp [h]
  text := by simp [digit_ne h (show '"'.isDigit = false from rfl)]
  array := by simp [digit_ne h (show '['.isDigit = false from rfl)]
  object := by simp [digit_ne h (show '\x7b'.isDigit = false from rfl)]
  inside := ⟨digit_ne h rfl, digit_ne h rfl, digit_ne h rfl⟩

/-- **The first character of a value tells what kind of a value it is.** -/
theorem Spells.starts {v : Tree} {text : List Char} (h : Spells v text) :
    ∃ c cs, text = c :: cs ∧ Starts v c := by
  cases h with
  | number n =>
      unfold Numeral.chars
      split
      · exact ⟨_, _, rfl, by constructor <;> first | decide | simp⟩
      · exact ⟨_, _, rfl, starts_digit n.whole.first_digit n⟩
  | null | yes | no | text | noItems | items | noMembers | members =>
      exact ⟨_, _, rfl, by constructor <;> first | decide | simp⟩

end Json

end Turnstile
