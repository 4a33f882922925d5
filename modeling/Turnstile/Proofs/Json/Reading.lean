/-
**Readers take what was written.**

A value that was written in compact form is read back by the reader of its type, whatever follows it
inside an object: the reader takes the written form to its last character and leaves the rest.  This
holds for numbers of 64 bits, truth values, strings of any characters, variants and optional values.

Main definitions:

* `Json.Closes` — what may follow a value inside an object;
* `Json.Reads` — a reader takes a written value before anything that may follow it;
* `Json.Opens` — a written value that is told apart from `null` by its first character.

Main results:

* `Json.readChars_escape` — one character of a string;
* `Json.reads_string` — **strings are read back**, whatever characters they consist of;
* `Json.reads_natural`, `Json.reads_truth`, `Json.reads_variant` — numbers, truth values, variants;
* `Json.reads_optional` — a value or its absence.
-/

import Mathlib.Tactic.ByContra
import Mathlib.Tactic.SplitIfs
import Turnstile.Json.Basic
import Turnstile.Json.Scan
import Turnstile.Text.Descriptive

set_option relaxedAutoImplicit false
set_option autoImplicit false

namespace Turnstile

namespace Json

/-! ### Readers one after another -/

namespace Read

variable {α β : Type}

@[simp] theorem on_pure (v : α) (cs : List Char) : (pure v : Read α).on cs = .ok (v, cs) := rfl

/-- After a reader that takes something, the next one goes on from what it leaves. -/
theorem on_bind {r : Read α} {f : α → Read β} {cs rest : List Char} {v : α}
    (h : r.on cs = .ok (v, rest)) : (r >>= f).on cs = (f v).on rest := by
  have h' : r cs = .ok (v, rest) := h
  show (r cs >>= fun p => f p.1 p.2) = _
  rw [h']
  rfl

@[simp] theorem on_get_bind (f : List Char → Read β) (cs : List Char) :
    ((get : Read (List Char)) >>= f).on cs = (f cs).on cs := rfl

@[simp] theorem on_advance_bind (f : Unit → Read β) (c : Char) (cs : List Char) :
    (advance >>= f).on (c :: cs) = (f ()).on cs := rfl

@[simp] theorem on_next_bind (f : Char → Read β) (c : Char) (cs : List Char) :
    (next >>= f).on (c :: cs) = (f c).on cs := rfl

@[simp] theorem on_digits_bind (f : List Char → Read β) (cs : List Char) :
    (digits >>= f).on cs = (f (cs.takeWhile Char.isDigit)).on (cs.dropWhile Char.isDigit) := rfl

end Read

variable {α β : Type}

@[simp] theorem on_upcoming_nil_bind (f : Option Char → Read β) :
    (upcoming >>= f).on [] = (f none).on [] := rfl

theorem on_upcoming_bind {c : Char} (h : isBlank c = false) (f : Option Char → Read β)
    (cs : List Char) : (upcoming >>= f).on (c :: cs) = (f (some c)).on (c :: cs) := by
  have taken : upcoming.on (c :: cs) = .ok (some c, c :: cs) := by
    show Except.ok (((c :: cs).dropWhile isBlank).head?, (c :: cs).dropWhile isBlank) = _
    rw [List.dropWhile_cons_of_neg (by simp [h])]
    rfl
  exact Read.on_bind taken

/-! ### Written values -/

/-- What may follow a value inside an object: a comma, the end of the object, or nothing at all. -/
def Closes (rest : List Char) : Prop := ∀ c ∈ rest.head?, c = ',' ∨ c = '\x7d'

/-- A reader takes a written value, whatever may follow it, and gives `v`. -/
def Reads (r : Read α) (written : String) (v : α) : Prop :=
  ∀ rest, Closes rest → r.on (written.toList ++ rest) = .ok (v, rest)

/-- A written value is told apart from `null` by its first character. -/
def Opens (written : String) : Prop :=
  ∃ c cs, written.toList = c :: cs ∧ isBlank c = false ∧ c ≠ 'n'

theorem Reads.map {r : Read α} {written : String} {v : α} (h : Reads r written v) (g : α → β) :
    Reads (do return g (← r)) written (g v) := by
  intro rest closes
  rw [Read.on_bind (h rest closes)]
  rfl

/-- A text that is one written value. -/
theorem readAll_of_reads {r : Read α} {written : String} {v : α} (h : Reads r written v) :
    readAll r written = .ok v := by
  have taken : r.on written.toList = .ok (v, []) := by
    simpa using h [] (by simp [Closes])
  unfold readAll
  rw [Read.on_bind taken, on_upcoming_nil_bind]
  rfl

/-! ### Truth values -/

theorem opens_truth (b : Bool) : Opens (Text.truth b) := by
  cases b with
  | true => exact ⟨'t', ['r', 'u', 'e'], rfl, rfl, by decide⟩
  | false => exact ⟨'f', ['a', 'l', 's', 'e'], rfl, rfl, by decide⟩

theorem reads_truth (b : Bool) : Reads readTruth (Text.truth b) b := by
  intro rest _
  cases b with
  | true => rfl
  | false => rfl

/-! ### Strings -/

theorem hexNumber?_hexDigit {n : Nat} (h : n < 32) :
    hexNumber? ['0', '0', hexDigit (n / 16), hexDigit n] = some n := by
  have all : ∀ m : Fin 32,
      hexNumber? ['0', '0', hexDigit (m / 16), hexDigit m] = some m.val := by decide
  exact all ⟨n, h⟩

/-- Four digits with the value of a code are taken as that code. -/
theorem on_readHex {a b c d : Char} {n : Nat} (h : hexNumber? [a, b, c, d] = some n)
    (rest : List Char) : readHex.on (a :: b :: c :: d :: rest) = .ok (n, rest) := by
  have bytes : 4 ≤ (String.ofList [a, b, c, d]).utf8ByteSize := by
    have ha := Char.utf8Size_pos a
    have hb := Char.utf8Size_pos b
    have hc := Char.utf8Size_pos c
    have hd := Char.utf8Size_pos d
    simp
    omega
  show readHex (a :: b :: c :: d :: rest) = _
  have four : (a :: b :: c :: d :: rest).take 4 = [a, b, c, d] := rfl
  simp only [readHex, four, if_neg (Nat.not_lt.mpr bytes), h]
  rfl

/-- The code of a control character is taken as that character. -/
theorem on_readCode {c : Char} (h : c.toNat < 32) (rest : List Char) :
    readCode.on ('0' :: '0' :: hexDigit (c.toNat / 16) :: hexDigit c.toNat :: rest) =
      .ok (c, rest) := by
  unfold readCode
  rw [Read.on_bind (on_readHex (hexNumber?_hexDigit h) rest)]
  have low : isLowHalf c.toNat = false := by simp [isLowHalf]; omega
  have high : isHighHalf c.toNat = false := by simp [isHighHalf]; omega
  simp [low, high]

theorem readChars_backslash (fuel : Nat) (acc : List Char) {c : Char} {cs rest : List Char}
    (h : readEscape.on cs = .ok (c, rest)) :
    (readChars (fuel + 1) acc).on ('\\' :: cs) = (readChars fuel (c :: acc)).on rest := by
  simp [readChars, Read.on_bind h]

/-- **One character of a string**: its written form is taken as that character. -/
theorem readChars_escape (fuel : Nat) (acc : List Char) (c : Char) (rest : List Char) :
    (readChars (fuel + 1) acc).on (escape c ++ rest) = (readChars fuel (c :: acc)).on rest := by
  -- seven characters have an escape of one letter, the other control characters one by code
  unfold escape
  split_ifs with quote backslash backspace tab newline feed carriage control
  · subst quote
    exact readChars_backslash fuel acc rfl
  · subst backslash
    exact readChars_backslash fuel acc rfl
  · subst backspace
    exact readChars_backslash fuel acc rfl
  · subst tab
    exact readChars_backslash fuel acc rfl
  · subst newline
    exact readChars_backslash fuel acc rfl
  · subst feed
    exact readChars_backslash fuel acc rfl
  · subst carriage
    exact readChars_backslash fuel acc rfl
  · apply readChars_backslash
    simpa [readEscape] using on_readCode control rest
  · simp [readChars, quote, backslash, control]

/-- The characters of a string are taken up to its closing quote. -/
theorem on_readChars (cs : List Char) (fuel : Nat) (acc rest : List Char)
    (h : cs.length < fuel) :
    (readChars fuel acc).on (cs.flatMap escape ++ '"' :: rest) = .ok (acc.reverse ++ cs, rest) := by
  induction cs generalizing fuel acc with
  | nil =>
      obtain ⟨fuel, rfl⟩ : ∃ m, fuel = m + 1 := ⟨fuel - 1, by simp at h; omega⟩
      simp [readChars]
  | cons c cs ih =>
      obtain ⟨fuel, rfl⟩ : ∃ m, fuel = m + 1 := ⟨fuel - 1, by simp at h; omega⟩
      rw [List.flatMap_cons, List.append_assoc, readChars_escape,
        ih fuel (c :: acc) (by simpa using h)]
      simp

theorem length_le_flatMap_escape (cs : List Char) : cs.length ≤ (cs.flatMap escape).length := by
  induction cs with
  | nil => simp
  | cons c cs ih =>
      have one : 0 < (escape c).length := by unfold escape; split_ifs <;> simp
      simp only [List.flatMap_cons, List.length_append, List.length_cons]
      omega

theorem toList_string (s : String) :
    (string s).toList = '"' :: (s.toList.flatMap escape ++ ['"']) := by
  simp [string]

theorem opens_string (s : String) : Opens (string s) :=
  ⟨'"', _, toList_string s, rfl, by decide⟩

/-- **A string is read back** after its opening quote, whatever follows it. -/
theorem on_readString (s : String) (rest : List Char) :
    readString.on (s.toList.flatMap escape ++ '"' :: rest) = .ok (s, rest) := by
  have enough : s.toList.length < (s.toList.flatMap escape ++ '"' :: rest).length + 1 := by
    have := length_le_flatMap_escape s.toList
    simp only [List.length_append]
    omega
  unfold readString
  rw [Read.on_get_bind, Read.on_bind (on_readChars s.toList _ [] rest enough)]
  simp

theorem reads_string (s expected : String) : Reads (readText expected) (string s) s := by
  intro rest _
  rw [toList_string]
  unfold readText
  rw [List.cons_append, on_upcoming_bind rfl]
  simpa using on_readString s rest

/-! ### Variants -/

theorem reads_variant {known : List (String × α)} {name : String} {v : α}
    (h : known.lookup name = some v) : Reads (readVariant known) (string name) v := by
  intro rest _
  rw [toList_string]
  unfold readVariant
  rw [List.cons_append, on_upcoming_bind rfl]
  have taken := on_readString name rest
  simp [Read.on_bind taken, variant, h]

/-! ### Numbers -/

/-- The first digit of a number is zero only where the number is. -/
theorem toDigits_head (n : Nat) :
    ∃ c cs, Nat.toDigits 10 n = c :: cs ∧ (c = '0' → n = 0) := by
  induction n using Nat.strongRecOn with
  | ind n ih =>
      rcases Nat.lt_or_ge n 10 with small | large
      · refine ⟨n.digitChar, [], Nat.toDigits_of_lt_base small, ?_⟩
        have all : ∀ m : Fin 10, Nat.digitChar m = '0' → m.val = 0 := by decide
        exact all ⟨n, small⟩
      · obtain ⟨c, cs, digits, zero⟩ := ih (n / 10) (by omega)
        refine ⟨c, cs ++ [(n % 10).digitChar], ?_, ?_⟩
        · rw [Nat.toDigits_eq_if (by decide), if_neg (by omega), digits]
          rfl
        · intro h
          have := zero h
          omega

theorem le_ofDigitChars (ds : List Char) (acc : Nat) : acc ≤ Nat.ofDigitChars 10 ds acc := by
  induction ds generalizing acc with
  | nil => exact Nat.le_refl acc
  | cons d ds ih =>
      rw [Nat.ofDigitChars_cons]
      exact Nat.le_trans (by omega) (ih _)

/-- Digits whose value fits a 64-bit word are all covered. -/
theorem leading_eq (ds : List Char) (acc : Nat) (h : Nat.ofDigitChars 10 ds acc ≤ maxWord) :
    leading acc ds = (Nat.ofDigitChars 10 ds acc, ds.length) := by
  induction ds generalizing acc with
  | nil => rfl
  | cons d ds ih =>
      rw [Nat.ofDigitChars_cons, Nat.mul_comm] at h ⊢
      have fit : fits acc d = true :=
        decide_eq_true (Nat.le_trans (le_ofDigitChars ds _) h)
      rw [leading, if_pos fit, ih _ h]
      rfl

/-- Digits are taken up to what may follow a value. -/
theorem digits_before {ds rest : List Char} (h : ∀ d ∈ ds, d.isDigit = true)
    (closes : Closes rest) :
    (ds ++ rest).takeWhile Char.isDigit = ds ∧ (ds ++ rest).dropWhile Char.isDigit = rest := by
  have stop : rest.takeWhile Char.isDigit = [] ∧ rest.dropWhile Char.isDigit = rest := by
    cases rest with
    | nil => exact ⟨rfl, rfl⟩
    | cons c cs =>
        obtain rfl | rfl := closes c rfl
        · exact ⟨rfl, rfl⟩
        · exact ⟨rfl, rfl⟩
  rw [List.takeWhile_append_of_pos h, List.dropWhile_append_of_pos h, stop.1, stop.2]
  exact ⟨List.append_nil ds, rfl⟩

/-- Where a value may end a number has no fraction and no exponent. -/
theorem on_readAfterWhole (n : Nat) {rest : List Char} (closes : Closes rest) :
    (readAfterWhole false n 0).on rest = .ok (.natural n, rest) := by
  cases rest with
  | nil => rfl
  | cons c cs =>
      obtain rfl | rfl := closes c rfl
      · rfl
      · rfl

/-- **A number is read back** from its digits. -/
theorem on_readNumber {n : Nat} (h : n ≤ maxWord) {rest : List Char} (closes : Closes rest) :
    (readNumber false).on (Nat.toDigits 10 n ++ rest) = .ok (.natural n, rest) := by
  have isDigit : ∀ d ∈ Nat.toDigits 10 n, d.isDigit = true := fun d hd =>
    Nat.isDigit_of_mem_toDigits (by decide) (by decide) hd
  have value : Nat.ofDigitChars 10 (Nat.toDigits 10 n) 0 = n := Nat.ofDigitChars_ten_toDigits
  obtain ⟨c, cs, digits, zero⟩ := toDigits_head n
  unfold readNumber
  by_cases hc : c = '0'
  · -- a number that begins with a zero is zero, and nothing but its end follows
    obtain rfl := zero hc
    have after := on_readAfterWhole 0 closes
    cases rest with
    | nil => exact after
    | cons e es =>
        obtain rfl | rfl := closes e rfl
        · exact after
        · exact after
  · rw [digits] at isDigit value ⊢
    have rest_digits : ∀ d ∈ cs, d.isDigit = true := fun d hd => isDigit d (by simp [hd])
    obtain ⟨taken, left⟩ := digits_before rest_digits closes
    have covered : leading 0 (c :: cs) = (n, cs.length + 1) := by
      rw [leading_eq _ _ (by rw [value]; exact h), value]
      rfl
    rw [List.cons_append, Read.on_next_bind, if_neg hc, if_pos (isDigit c (by simp)),
      Read.on_digits_bind, taken, left]
    simpa [covered] using on_readAfterWhole n closes

theorem toList_toString (n : Nat) : (toString n).toList = Nat.toDigits 10 n := by
  rw [Nat.toString_eq_ofList_toDigits, String.toList_ofList]

/-- A digit is no blank, and neither a letter nor a sign. -/
theorem digit_plain {c : Char} (h : c.isDigit = true) :
    isBlank c = false ∧ c ≠ 'n' ∧ c ≠ '-' := by
  refine ⟨?_, ?_, ?_⟩
  · by_contra blank
    simp only [isBlank, Bool.not_eq_false, Bool.or_eq_true, beq_iff_eq] at blank
    obtain ((rfl | rfl) | rfl) | rfl := blank <;> exact absurd h (by decide)
  · rintro rfl
    exact absurd h (by decide)
  · rintro rfl
    exact absurd h (by decide)

theorem toString_head (n : Nat) :
    ∃ c cs, (toString n).toList = c :: cs ∧ c.isDigit = true := by
  obtain ⟨c, cs, digits, -⟩ := toDigits_head n
  refine ⟨c, cs, by rw [toList_toString, digits], ?_⟩
  exact Nat.isDigit_of_mem_toDigits (b := 10) (n := n) (by decide) (by decide) (by simp [digits])

theorem opens_toString (n : Nat) : Opens (toString n) := by
  obtain ⟨c, cs, digits, digit⟩ := toString_head n
  have plain := digit_plain digit
  exact ⟨c, cs, digits, plain.1, plain.2.1⟩

theorem reads_natural {n most : Nat} (expected : String) (h : n ≤ most) (hmost : most ≤ maxWord) :
    Reads (readNatural most expected) (toString n) n := by
  intro rest closes
  have taken := on_readNumber (Nat.le_trans h hmost) closes
  rw [← toList_toString] at taken
  obtain ⟨c, cs, digits, digit⟩ := toString_head n
  obtain ⟨blank, -, sign⟩ := digit_plain digit
  rw [digits, List.cons_append] at taken ⊢
  unfold readNatural
  rw [on_upcoming_bind blank]
  simp only [digit, sign, false_or, if_true, if_false, decide_false]
  rw [Read.on_bind taken]
  simp [h]

/-! ### Values that may be absent -/

theorem reads_null (r : Read α) : Reads (readOptional r) "null" none := by
  intro rest _
  rfl

/-- **A value is read back as one that is there**, where it is told apart from `null`. -/
theorem Reads.optional {r : Read α} {written : String} {v : α} (h : Reads r written v)
    (opens : Opens written) : Reads (readOptional r) written (some v) := by
  intro rest closes
  obtain ⟨c, cs, chars, blank, other⟩ := opens
  have taken := h rest closes
  rw [chars, List.cons_append] at taken ⊢
  unfold readOptional
  rw [on_upcoming_bind blank]
  split
  · rename_i null
    exact absurd (Option.some.inj null) other
  · rw [Read.on_bind taken]
    rfl

end Json

end Turnstile
