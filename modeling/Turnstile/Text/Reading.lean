/-
**What texts and bytes stand for.**

A text reads as an integer if, blanks at both ends aside, it is an optional sign and one or more
decimal digits, and the number fits a signed 64-bit word.

A byte sequence is read as UTF-8.  It falls into characters and, where it is not well formed, into
broken pieces: the longest run of bytes that could still have begun a character is one such piece,
and reading goes on with the byte that broke it.  So every byte sequence has a text, with one
replacement character per broken piece.

Main definitions:

* `Text.isBlank` — the blank characters;
* `Text.trimBlank` — a text without the blanks at its ends;
* `Text.fitsWord`, `Text.clampWord`, `Text.negation?` — the signed 64-bit range;
* `Text.readInteger?` — the number that a text denotes;
* `Utf8.Partial` — a character begun: its code so far and the ranges of the bytes it still needs;
* `Utf8.first`, `Partial.next` — the two ways to take one byte;
* `Utf8.pieces` — the characters and the broken pieces of a byte sequence;
* `Utf8.repair` — the text of a byte sequence.
-/

set_option relaxedAutoImplicit false
set_option autoImplicit false

namespace Turnstile

namespace Text

/-! ### Blanks -/

/-- The characters that count as blank: the control blanks, the spaces of all widths, and the line
and paragraph separators. -/
def isBlank (c : Char) : Bool :=
  let n := c.toNat
  (9 ≤ n && n ≤ 13) || n == 0x20 || n == 0x85 || n == 0xA0 || n == 0x1680 ||
    (0x2000 ≤ n && n ≤ 0x200A) || n == 0x2028 || n == 0x2029 || n == 0x202F || n == 0x205F ||
    n == 0x3000

/-- The characters without the blanks at either end. -/
def trimBlank (cs : List Char) : List Char :=
  ((cs.dropWhile isBlank).reverse.dropWhile isBlank).reverse

/-! ### The signed 64-bit range -/

/-- The least signed 64-bit integer. -/
def minInt : Int := -9223372036854775808

/-- The greatest signed 64-bit integer. -/
def maxInt : Int := 9223372036854775807

/-- Whether an integer fits a signed 64-bit word. -/
def fitsWord (v : Int) : Bool := decide (minInt ≤ v) && decide (v ≤ maxInt)

/-- An integer brought into the signed 64-bit range by its nearer end. -/
def clampWord (v : Int) : Int := max minInt (min v maxInt)

/-- The negation of a signed 64-bit integer; the least one has no positive counterpart. -/
def negation? (v : Int) : Option Int := if v = minInt then none else some (-v)

theorem fitsWord_iff {v : Int} : fitsWord v = true ↔ minInt ≤ v ∧ v ≤ maxInt := by
  simp [fitsWord]

theorem clampWord_of_fits {v : Int} (h : fitsWord v = true) : clampWord v = v := by
  have := fitsWord_iff.1 h
  unfold clampWord
  omega

theorem fitsWord_clampWord (v : Int) : fitsWord (clampWord v) = true := by
  rw [fitsWord_iff]
  unfold clampWord minInt maxInt
  omega

theorem negation?_eq_none_iff {v : Int} : negation? v = none ↔ v = minInt := by
  unfold negation?
  split <;> simp_all

theorem negation?_of_ne {v : Int} (h : v ≠ minInt) : negation? v = some (-v) := if_neg h

/-- A number that is not negative has a negation. -/
@[simp] theorem negation?_natCast (n : Nat) : negation? (n : Int) = some (-(n : Int)) :=
  negation?_of_ne (by unfold minInt; omega)

/-! ### Reading -/

/-- The number that decimal digits denote, after `acc`; `none` if another character is among
them. -/
def digitsValue? : Nat → List Char → Option Nat
  | acc, [] => some acc
  | acc, c :: cs =>
      if c.isDigit then digitsValue? (acc * 10 + (c.toNat - '0'.toNat)) cs else none

/-- The number that one or more decimal digits denote. -/
def natural? : List Char → Option Nat
  | [] => none
  | cs => digitsValue? 0 cs

/-- The integer that an optional sign and one or more digits denote, in unbounded arithmetic. -/
def signed? : List Char → Option Int
  | '-' :: cs => (natural? cs).map fun n => -(n : Int)
  | '+' :: cs => (natural? cs).map fun n => (n : Int)
  | cs => (natural? cs).map fun n => (n : Int)

/-- The signed 64-bit integer that a text denotes, blanks at its ends aside. -/
def readInteger? (s : String) : Option Int :=
  match signed? (trimBlank s.toList) with
  | some v => if fitsWord v then some v else none
  | none => none

end Text

/-! ### Bytes read as text -/

namespace Utf8

/-- What stands for bytes that are no character. -/
def replacement : Char := '\uFFFD'

/-- A character of several bytes of which some are still to come: the bytes seen, latest first, the
value of those, the range of the next byte, and how many further continuation bytes follow that
one. -/
structure Partial where
  seen : List Nat
  code : Nat
  low : Nat
  high : Nat
  more : Nat
  deriving DecidableEq

/-- What one byte leads to. -/
inductive Progress
  | complete (c : Char)
  | awaiting (p : Partial)
  | broken
  deriving DecidableEq

/-- A first byte: a character of its own, the beginning of a longer one, or neither.  The range of
the second byte excludes overlong forms, surrogates and codes above the last one. -/
def first (b : Nat) : Progress :=
  if b < 0x80 then .complete (Char.ofNat b)
  else if 0xC2 ≤ b ∧ b ≤ 0xDF then .awaiting ⟨[b], b - 0xC0, 0x80, 0xBF, 0⟩
  else if b = 0xE0 then .awaiting ⟨[b], 0, 0xA0, 0xBF, 1⟩
  else if b = 0xED then .awaiting ⟨[b], 0xD, 0x80, 0x9F, 1⟩
  else if 0xE1 ≤ b ∧ b ≤ 0xEF then .awaiting ⟨[b], b - 0xE0, 0x80, 0xBF, 1⟩
  else if b = 0xF0 then .awaiting ⟨[b], 0, 0x90, 0xBF, 2⟩
  else if 0xF1 ≤ b ∧ b ≤ 0xF3 then .awaiting ⟨[b], b - 0xF0, 0x80, 0xBF, 2⟩
  else if b = 0xF4 then .awaiting ⟨[b], 4, 0x80, 0x8F, 2⟩
  else .broken

/-- A further byte of a character begun. -/
def Partial.next (p : Partial) (b : Nat) : Progress :=
  if p.low ≤ b ∧ b ≤ p.high then
    let code := p.code * 64 + (b - 0x80)
    match p.more with
    | 0 => .complete (Char.ofNat code)
    | more + 1 => .awaiting ⟨b :: p.seen, code, 0x80, 0xBF, more⟩
  else .broken

/-- A piece of a byte sequence: a character, or bytes that are none. -/
inductive Piece
  | char (c : Char)
  | broken (bytes : List Nat)
  deriving DecidableEq

/-- The bytes of a character that will not be finished. -/
def Partial.piece (p : Partial) : Piece := .broken p.seen.reverse

/-- The pieces of a byte sequence that follows an unfinished character, if there is one. -/
def piecesFrom : Option Partial → List Nat → List Piece
  | none, [] => []
  | some p, [] => [p.piece]
  | none, b :: rest =>
      match first b with
      | .complete c => .char c :: piecesFrom none rest
      | .awaiting p => piecesFrom (some p) rest
      | .broken => .broken [b] :: piecesFrom none rest
  | some p, b :: rest =>
      match p.next b with
      | .complete c => .char c :: piecesFrom none rest
      | .awaiting q => piecesFrom (some q) rest
      | .broken =>
          p.piece :: match first b with
            | .complete c => .char c :: piecesFrom none rest
            | .awaiting q => piecesFrom (some q) rest
            | .broken => .broken [b] :: piecesFrom none rest

/-- The pieces of a byte sequence. -/
def pieces (bytes : List Nat) : List Piece := piecesFrom none bytes

/-- What a piece looks like in a text. -/
def Piece.shown : Piece → Char
  | .char c => c
  | .broken _ => replacement

/-- The text of a byte sequence. -/
def repair (bytes : List Nat) : String := String.ofList ((pieces bytes).map Piece.shown)

end Utf8

end Turnstile
