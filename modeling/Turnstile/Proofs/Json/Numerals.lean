/-
**What is read as a natural number.**

A number stands for a natural one if it has no sign, no fraction and no exponent, and its digits fit
a 64-bit word.  Any other one is read as something else, if at all: as a negative number, or as a
floating-point one.  What a floating-point number is does not matter here, only that the readers
that compute one never give a natural number.

Main definitions:

* `Json.Numeral.natural?`, `Json.Tree.natural?` — the natural number that a number, and a tree,
  stands for;
* `Json.NeverNatural` — a reader of numbers that takes no natural one;
* `Json.accepted` — what is made of a number where a natural one is wanted.

Main results:

* `Json.neverNatural_fraction`, `Json.neverNatural_exponent`, `Json.neverNatural_negative` — behind
  a point, behind the letter of an exponent, and behind a sign, no natural number is read;
* `Json.take?_readNumber_whole`, `Json.take?_readAfterWhole` — the whole part of a number, and what
  follows it;
* `Json.take?_readNumber_natural`, `Json.take?_readNumber_other` — which numbers are read as
  natural ones;
* `Json.understands_natural` — **the meaning of a reader of natural numbers**.
-/

import Turnstile.Proofs.Json.Meaning

set_option relaxedAutoImplicit false
set_option autoImplicit false

namespace Turnstile

namespace Json

variable {α : Type}

open Read

/-! ### Readers that take no natural number -/

/-- A reader of numbers never takes a natural one. -/
def NeverNatural (r : Read Number) : Prop := ∀ cs n rest, r.take? cs ≠ some (.natural n, rest)

theorem neverNatural_fail (e : Failure) : NeverNatural (.fail e) := fun _ _ _ => nofun

theorem neverNatural_signed (negative : Bool) (f : Float) :
    NeverNatural (return signed negative f) := fun _ _ _ => nofun

theorem NeverNatural.bind {r : Read α} {f : α → Read Number} (h : ∀ a, NeverNatural (f a)) :
    NeverNatural (r >>= f) := by
  intro cs n rest hn
  rw [take?_bind] at hn
  obtain ⟨p, -, hp⟩ := Option.bind_eq_some_iff.1 hn
  exact h p.1 p.2 n rest hp

theorem NeverNatural.ite {p : Prop} [Decidable p] {r r' : Read Number} (h : NeverNatural r)
    (h' : NeverNatural r') : NeverNatural (if p then r else r') := by
  split
  · exact h
  · exact h'

theorem neverNatural_scaled (negative : Bool) (significand : Nat) (exponent : Int) :
    NeverNatural (scaledNumber negative significand exponent) := by
  unfold scaledNumber
  split
  · exact neverNatural_signed negative _
  · exact neverNatural_fail _

theorem neverNatural_exponent (negative : Bool) (significand : Nat) (exponent : Int) :
    NeverNatural (readExponent negative significand exponent) := by
  refine .bind fun sign => ?_
  -- the sign, if there is one, is passed over, and the digits decide
  refine .ite (.bind fun _ => .bind fun first => ?_) (.bind fun first => ?_)
  all_goals
    refine .ite (neverNatural_fail _) (.bind fun more => .ite ?_ (neverNatural_scaled _ _ _))
    exact .ite (neverNatural_fail _) (neverNatural_signed negative 0)

theorem neverNatural_fraction (negative : Bool) (significand : Nat) (exponent : Int) :
    NeverNatural (readFraction negative significand exponent) := by
  refine .bind fun places => ?_
  split
  · refine .bind fun c => ?_
    split <;> exact neverNatural_fail _
  · refine .bind fun c => ?_
    split
    · exact .bind fun _ => neverNatural_exponent _ _ _
    · exact .bind fun _ => neverNatural_exponent _ _ _
    · exact neverNatural_scaled _ _ _

/-- A negative number is never a natural one. -/
theorem neverNatural_afterWhole (significand dropped : Nat) :
    NeverNatural (readAfterWhole true significand dropped) := by
  refine .bind fun c => ?_
  split
  · exact .bind fun _ => neverNatural_fraction _ _ _
  · exact .bind fun _ => neverNatural_exponent _ _ _
  · exact .bind fun _ => neverNatural_exponent _ _ _
  · split
    · exact neverNatural_scaled _ _ _
    · simp only [Bool.not_true, Bool.false_eq_true, if_false]
      split
      · exact neverNatural_signed _ _
      · exact fun _ _ _ => nofun

theorem neverNatural_negative : NeverNatural (readNumber true) := by
  refine .bind fun first => ?_
  split
  · refine .bind fun c => ?_
    split
    · split
      · exact neverNatural_fail _
      · exact neverNatural_afterWhole _ _
    · exact neverNatural_afterWhole _ _
  · split
    · exact .bind fun more => neverNatural_afterWhole _ _
    · exact neverNatural_fail _

/-! ### Natural numbers -/

/-- The natural number that a number is, if it has no sign, no fraction and no exponent. -/
def Numeral.natural? (n : Numeral) : Option Nat :=
  match n.negative, n.fraction, n.exponent with
  | false, none, none => some (Nat.ofDigitChars 10 n.whole.chars 0)
  | _, _, _ => none

theorem Numeral.natural?_eq (n : Numeral) : n.natural? =
    if n.negative = false ∧ n.tail = [] then some (Nat.ofDigitChars 10 n.whole.chars 0)
    else none := by
  unfold natural? tail
  cases n.negative <;> cases n.fraction <;> cases n.exponent <;> simp [Exponent.chars]

theorem leading_le (ds : List Char) (acc : Nat) : (leading acc ds).2 ≤ ds.length := by
  induction ds generalizing acc with
  | nil => exact Nat.le_refl 0
  | cons d ds ih =>
      rw [leading]
      split
      · exact Nat.succ_le_succ (ih _)
      · exact Nat.zero_le _

/-- Digits that are all covered have a value that fits a 64-bit word. -/
theorem le_of_leading_full {ds : List Char} {acc : Nat} (hacc : acc ≤ maxWord)
    (h : (leading acc ds).2 = ds.length) : Nat.ofDigitChars 10 ds acc ≤ maxWord := by
  induction ds generalizing acc with
  | nil => exact hacc
  | cons d ds ih =>
      rw [leading] at h
      split at h
      · rename_i hfits
        rw [Nat.ofDigitChars_cons, Nat.mul_comm]
        exact ih (of_decide_eq_true hfits) (Nat.succ.inj h)
      · exact absurd h (by simp)

/-- The whole part of a number is read as its value, as far as that fits a 64-bit word. -/
theorem take?_readNumber_whole (n : Numeral) {rest : List Char} (h : Ends rest) :
    ∃ significand dropped, (readNumber false).take? (n.unsigned ++ rest) =
        (readAfterWhole false significand dropped).take? (n.tail ++ rest) ∧
      (Nat.ofDigitChars 10 n.whole.chars 0 ≤ maxWord →
        significand = Nat.ofDigitChars 10 n.whole.chars 0 ∧ dropped = 0) ∧
      (maxWord < Nat.ofDigitChars 10 n.whole.chars 0 → 0 < dropped) := by
  have hhalts := halts_tail n h
  have hdigits := on_digits n.whole.more_digits hhalts
  have hnumber : (readNumber false).take? (n.unsigned ++ rest) = _ :=
    take?_bind_of_on (show next.on (n.unsigned ++ rest) =
      .ok (n.whole.first, n.whole.more ++ n.tail ++ rest) from rfl) _
  rw [hnumber]
  by_cases hzero : n.whole.first = '0'
  · have hchars : n.whole.chars = ['0'] := by rw [Digits.chars, hzero, n.no_zeros hzero]
    refine ⟨0, 0, ?_, ?_⟩
    · rw [if_pos hzero, n.no_zeros hzero, List.nil_append, take?_peek_bind]
      cases hhead : (n.tail ++ rest).head? with
      | none => rfl
      | some c => simp only [hhalts c hhead, Bool.false_eq_true, if_false]
    · rw [hchars]
      exact ⟨fun _ => ⟨by decide, rfl⟩, fun hlt => absurd hlt (by decide)⟩
  · refine ⟨(leading 0 n.whole.chars).1, n.whole.more.length + 1 - (leading 0 n.whole.chars).2,
      ?_, fun hle => ?_, fun hlt => ?_⟩
    · rw [if_neg hzero, if_pos n.whole.first_digit, List.append_assoc,
        take?_bind_of_on hdigits]
      rfl
    · rw [leading_eq _ _ hle]
      exact ⟨rfl, Nat.sub_self _⟩
    · have hle := leading_le n.whole.chars 0
      have hne : (leading 0 n.whole.chars).2 ≠ n.whole.chars.length := fun hfull =>
        absurd (le_of_leading_full (Nat.zero_le _) hfull) (by omega)
      simp only [Digits.chars, List.length_cons] at hle hne ⊢
      omega

/-- Behind its whole part a number is a natural one only if it ends there. -/
theorem take?_readAfterWhole (n : Numeral) (significand dropped : Nat) {rest : List Char}
    (h : Ends rest) :
    (n.tail = [] → dropped = 0 → (readAfterWhole false significand dropped).take?
      (n.tail ++ rest) = some (.natural significand, rest)) ∧
    (n.tail ≠ [] ∨ 0 < dropped → ∀ m rest', (readAfterWhole false significand dropped).take?
      (n.tail ++ rest) ≠ some (.natural m, rest')) := by
  constructor
  · rintro htail rfl
    have hother := h.other
    rw [htail, List.nil_append, readAfterWhole, take?_peek_bind]
    split
    · rename_i hc
      exact absurd rfl (hother _ hc).2.1
    · rename_i hc
      exact absurd rfl (hother _ hc).2.2.1
    · rename_i hc
      exact absurd rfl (hother _ hc).2.2.2
    · rfl
  · intro hmore m rest'
    rw [readAfterWhole, take?_peek_bind]
    split
    · exact NeverNatural.bind (fun _ => neverNatural_fraction _ _ _) _ m rest'
    · exact NeverNatural.bind (fun _ => neverNatural_exponent _ _ _) _ m rest'
    · exact NeverNatural.bind (fun _ => neverNatural_exponent _ _ _) _ m rest'
    · rename_i hpoint he hE
      -- neither a fraction nor an exponent follows, so digits were dropped
      have htail : n.tail = [] := by
        unfold Numeral.tail at hpoint he hE ⊢
        cases hf : n.fraction with
        | some ds => exact absurd (by rw [hf]; rfl) hpoint
        | none =>
            cases hx : n.exponent with
            | none => rfl
            | some e =>
                simp only [hf, hx, Option.elim_none, Option.elim_some, List.nil_append,
                  Exponent.chars, List.cons_append, List.head?_cons, Option.some.injEq] at he hE
                exact (e.letter_ok.elim he hE).elim
      rw [if_pos (hmore.resolve_left fun hne => hne htail)]
      exact neverNatural_scaled _ _ _ _ m rest'

/-- **The whole part alone is read as its value**, if that fits a 64-bit word. -/
theorem take?_readNumber_natural (n : Numeral) {rest : List Char} (h : Ends rest)
    (htail : n.tail = []) (hfits : Nat.ofDigitChars 10 n.whole.chars 0 ≤ maxWord) :
    (readNumber false).take? (n.unsigned ++ rest) =
      some (.natural (Nat.ofDigitChars 10 n.whole.chars 0), rest) := by
  obtain ⟨significand, dropped, hwhole, hvalue, -⟩ := take?_readNumber_whole n h
  obtain ⟨rfl, rfl⟩ := hvalue hfits
  rw [hwhole, (take?_readAfterWhole n _ _ h).1 htail rfl]

/-- **Any other number is not read as a natural one.** -/
theorem take?_readNumber_other (n : Numeral) {rest : List Char} (h : Ends rest)
    (hother : n.tail ≠ [] ∨ maxWord < Nat.ofDigitChars 10 n.whole.chars 0) (m : Nat)
    (rest' : List Char) :
    (readNumber false).take? (n.unsigned ++ rest) ≠ some (.natural m, rest') := by
  obtain ⟨significand, dropped, hwhole, -, hover⟩ := take?_readNumber_whole n h
  rw [hwhole]
  exact (take?_readAfterWhole n significand dropped h).2 (hother.imp_right hover) m rest'

/-- The natural number that a tree is, up to a bound. -/
def Tree.natural? (most : Nat) : Tree → Option Nat
  | .number n => n.natural?.filter fun v => v ≤ most
  | _ => none

/-- What is made of a number that is read where a natural one up to a bound is wanted. -/
def accepted (most : Nat) (expected : String) : Number → Read Nat
  | .natural n => if n ≤ most then return n else .fail (.mismatch (.invalidValue n expected))
  | .negative v => .fail (.mismatch (.invalidValue v expected))
  | .floating bits => .fail (.mismatch (.invalidType (.floating bits) expected))

variable {most : Nat} {expected : String}

/-- What is no natural number is not taken for one. -/
theorem take?_accepted_of_never {r : Read Number} {cs : List Char}
    (h : ∀ n rest, r.take? cs ≠ some (.natural n, rest)) :
    (r >>= accepted most expected).take? cs = none := by
  rw [take?_bind]
  cases hr : r.take? cs with
  | none => rfl
  | some p =>
      obtain ⟨n | v | bits, rest⟩ := p
      · exact absurd hr (h n rest)
      · rfl
      · rfl

/-- A number without a sign is taken for the natural one that it is. -/
theorem take?_accepted_unsigned (hmost : most ≤ maxWord) {n : Numeral} (hneg : n.negative = false)
    {rest : List Char} (h : Ends rest) :
    (readNumber false >>= accepted most expected).take? (n.unsigned ++ rest) =
      (Tree.natural? most (.number n)).map fun v => (v, rest) := by
  rw [Tree.natural?, n.natural?_eq]
  by_cases htail : n.tail = []
  · rw [if_pos ⟨hneg, htail⟩, Option.filter_some]
    rcases Nat.lt_or_ge maxWord (Nat.ofDigitChars 10 n.whole.chars 0) with hlarge | hfits
    · have hbeyond : ¬ Nat.ofDigitChars 10 n.whole.chars 0 ≤ most := by omega
      rw [take?_accepted_of_never (take?_readNumber_other n h (.inr hlarge))]
      simp [hbeyond]
    · rw [take?_bind, take?_readNumber_natural n h htail hfits, Option.bind_some, accepted]
      simp only [decide_eq_true_eq]
      split <;> rfl
  · rw [if_neg fun hplain => htail hplain.2]
    exact take?_accepted_of_never (take?_readNumber_other n h (.inl htail))

theorem Spells.chars_of_number {n : Numeral} {text : List Char} (h : Spells (.number n) text) :
    text = n.chars := by
  cases h
  rfl

/-- **A natural number up to a bound is read as itself**, and nothing else is read. -/
theorem understands_natural (hmost : most ≤ maxWord) (expected : String) :
    Understands (readNatural most expected) (Tree.natural? most) := by
  refine understands_of_upcoming fun v c cs rest hv hc hrest => ?_
  by_cases hnum : c = '-' ∨ c.isDigit = true
  · obtain ⟨n, rfl⟩ := hc.number.1 hnum
    have hchars := hv.chars_of_number
    simp only [hnum, if_true]
    cases hneg : n.negative with
    | true =>
        rw [Numeral.chars, if_pos hneg] at hchars
        obtain ⟨rfl, rfl⟩ := List.cons.inj hchars
        have hmeaning : Tree.natural? most (.number n) = none := by
          simp [Tree.natural?, Numeral.natural?, hneg]
        simp only [if_true, decide_true]
        rw [take?_advance_bind, hmeaning]
        exact take?_accepted_of_never (neverNatural_negative _)
    | false =>
        rw [Numeral.chars, if_neg (by simp [hneg])] at hchars
        have hsign : c ≠ '-' := by
          rw [(List.cons.inj hchars).1]
          exact digit_ne n.whole.first_digit rfl
        simp only [hsign, if_false, decide_false]
        rw [← List.cons_append, hchars]
        exact take?_accepted_unsigned hmost hneg hrest
  · simp only [hnum, if_false, take?_unwanted]
    cases v with
    | number n => exact absurd (hc.number.2 ⟨n, rfl⟩) hnum
    | _ => rfl

end Json

end Turnstile
