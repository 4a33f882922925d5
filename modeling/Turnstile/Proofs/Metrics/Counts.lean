/-
**Counts as patterns.**

A count is reported as a floating-point pattern.  This module says which number a pattern stands
for, from its sign, its exponent and its fraction, and when a pattern tells a count: it stands for
the count itself up to 2⁵³, and beyond that, as far as counts go, no pattern stands for a nearer
number.  The pattern that is made of a count tells it.

The proof follows the two steps in which the pattern is made.  The leading bits are a quotient
rounded to the nearest whole number, so no multiple of the unit of the last bit is nearer to the
count.  Every other number with a pattern is below the leading bit of the count, which is itself such
a multiple.

Main definitions:

* `Quantity.number?` — the number that a pattern stands for;
* `Quantity.Tells` — a pattern tells a count.

Main results:

* `Quantity.roundedQuotient_nearest` — no multiple is nearer than the rounded one;
* `Quantity.number?_packed` — the number of a pattern put together from its parts;
* `Quantity.number?_ofNat` — the number of the pattern of a count;
* `Quantity.tells_ofNat` — **the pattern of a count tells it**.
-/

import Mathlib.Algebra.Order.Field.Power
import Mathlib.Data.Rat.Cast.Order
import Mathlib.Tactic.Linarith
import Mathlib.Tactic.LinearCombination
import Mathlib.Tactic.NormNum
import Mathlib.Tactic.Positivity
import Mathlib.Tactic.Ring
import Turnstile.Duration
import Turnstile.Metrics.Observation

set_option relaxedAutoImplicit false
set_option autoImplicit false

namespace Turnstile

namespace Quantity

/-! ### What a pattern stands for -/

/-- The sign of a pattern. -/
def sign (q : Quantity) : ℚ := if Decimal.isNegative q.bits.toNat then -1 else 1

/-- The number that a pattern stands for, if it stands for one. -/
def number? (q : Quantity) : Option ℚ :=
  match Decimal.Magnitude.ofBits q.bits.toNat with
  | .zero => some 0
  | .finite b => some (q.sign * (b.mantissa * 2 ^ b.exponent))
  | .infinite | .notANumber => none

/-- A pattern tells a count: exactly as far as every whole number has a pattern, and as nearly as
any pattern does for all 64-bit words. -/
structure Tells (q : Quantity) (n : Nat) : Prop where
  exactly : n ≤ 2 ^ 53 → q.number? = some (n : ℚ)
  nearest : n ≤ maxWord → ∃ x, q.number? = some x ∧
    ∀ (q' : Quantity) (y : ℚ), q'.number? = some y → |x - n| ≤ |y - n|

/-- The pattern of nothing tells zero. -/
theorem tells_zero : zero.Tells 0 := by
  have hzero : zero.number? = some 0 := by
    simp [number?, zero, Decimal.Magnitude.ofBits]
  refine ⟨fun _ => by rw [hzero, Nat.cast_zero], fun _ => ⟨0, hzero, fun q' y _ => ?_⟩⟩
  simp

/-- The significand of a number that is not infinite has at most 53 bits. -/
theorem mantissa_lt {bits : Nat} {b : Decimal.Binary}
    (h : Decimal.Magnitude.ofBits bits = .finite b) : b.mantissa < 2 ^ 53 := by
  simp only [Decimal.Magnitude.ofBits, Nat.shiftLeft_eq] at h
  split_ifs at h <;> obtain rfl := Decimal.Magnitude.finite.inj h <;> simp only <;> omega

/-- A pattern that stands for a number stands for 53 bits with a sign, times a power of two. -/
theorem exists_of_number? {q : Quantity} {y : ℚ} (h : q.number? = some y) :
    ∃ m e : ℤ, |m| < 2 ^ 53 ∧ y = m * 2 ^ e := by
  unfold number? at h
  split at h
  · exact ⟨0, 0, by decide, by simpa using h.symm⟩
  · next b hb =>
      have hlt : ((b.mantissa : ℕ) : ℤ) < 2 ^ 53 := by exact_mod_cast mantissa_lt hb
      obtain rfl := Option.some.inj h
      unfold sign
      split_ifs
      · exact ⟨-b.mantissa, b.exponent, by rwa [abs_neg, Nat.abs_cast], by push_cast; ring⟩
      · exact ⟨b.mantissa, b.exponent, by rwa [Nat.abs_cast], by push_cast; ring⟩
  · exact nomatch h
  · exact nomatch h

theorem number?_of_finite {q : Quantity} {b : Decimal.Binary}
    (hsign : Decimal.isNegative q.bits.toNat = false)
    (hb : Decimal.Magnitude.ofBits q.bits.toNat = .finite b) :
    q.number? = some ((b.mantissa : ℚ) * 2 ^ b.exponent) := by
  rw [number?, sign, hb, hsign]
  simp

/-- A pattern put together from an exponent and a fraction is taken apart into these. -/
theorem ofBits_packed {e f : Nat} (he : e ≤ 2045) (hf : f < 2 ^ 52) :
    Decimal.Magnitude.ofBits ((e + 1) * 2 ^ 52 + f) =
      .finite ⟨2 ^ 52 + f, (e : ℤ) - 1074, f == 0 && e + 1 != 1⟩ := by
  have hbiased : ((e + 1) * 2 ^ 52 + f) / 2 ^ 52 % 2 ^ 11 = e + 1 := by omega
  have hfraction : ((e + 1) * 2 ^ 52 + f) % 2 ^ 52 = f := by omega
  have hexponent : ((e + 1 : ℕ) : ℤ) - 1075 = (e : ℤ) - 1074 := by omega
  simp only [Decimal.Magnitude.ofBits, Nat.shiftRight_eq_div_pow, Nat.shiftLeft_eq, Nat.one_mul,
    hbiased, hfraction, hexponent]
  rw [if_neg (by omega), if_neg (by omega)]

theorem number?_of_fields {e f : Nat} (he : e ≤ 2045) (hf : f < 2 ^ 52) :
    number? ⟨((e + 1) * 2 ^ 52 + f).toUInt64⟩ =
      some (((2 ^ 52 + f : ℕ) : ℚ) * 2 ^ ((e : ℤ) - 1074)) := by
  have hbits : ((e + 1) * 2 ^ 52 + f).toUInt64.toNat = (e + 1) * 2 ^ 52 + f := by
    rw [Nat.toUInt64_eq, UInt64.toNat_ofNat', Nat.mod_eq_of_lt (by omega)]
  have hsign : Decimal.isNegative ((e + 1) * 2 ^ 52 + f) = false := by
    simp only [Decimal.isNegative, Nat.shiftRight_eq_div_pow, beq_eq_false_iff_ne]
    omega
  rw [← hbits] at hsign
  exact number?_of_finite hsign ((congrArg _ hbits).trans (ofBits_packed he hf))

/-- **The number of a pattern put together from its parts.**  The leading bit of the significand is
added to the exponent, and so is the carry of one that was rounded up beyond its bits. -/
theorem number?_packed {e m : Nat} (he : e ≤ 2044) (hm : 2 ^ 52 ≤ m) (hm' : m ≤ 2 ^ 53) :
    number? ⟨(e * 2 ^ 52 + m).toUInt64⟩ = some ((m : ℚ) * 2 ^ ((e : ℤ) - 1074)) := by
  rcases Nat.lt_or_eq_of_le hm' with hlt | hcarry
  · obtain ⟨f, rfl⟩ := Nat.exists_eq_add_of_le hm
    have hparts : e * 2 ^ 52 + (2 ^ 52 + f) = (e + 1) * 2 ^ 52 + f := by omega
    rw [hparts, number?_of_fields (by omega) (by omega)]
  · have hparts : e * 2 ^ 52 + m = (e + 1 + 1) * 2 ^ 52 + 0 := by omega
    have hhalf : m = (2 ^ 52 + 0) * 2 := by omega
    have hexponent : ((e + 1 : ℕ) : ℤ) - 1074 = (e : ℤ) - 1074 + 1 := by omega
    rw [hparts, number?_of_fields (by omega) (by omega), hexponent, zpow_add_one₀ two_ne_zero, hhalf,
      Nat.cast_mul, Nat.cast_ofNat, mul_assoc, mul_comm _ (2 : ℚ)]

/-! ### Quotients -/

variable {n d : Nat}

/-- **No multiple is nearer than the rounded quotient.** -/
theorem roundedQuotient_nearest (n : Nat) (hd : 0 < d) (k : ℤ) :
    |(roundedQuotient n d * d : ℤ) - n| ≤ |k * d - n| := by
  have hsplit : (n : ℤ) = (n / d : ℕ) * d + (n % d : ℕ) := by
    exact_mod_cast (Nat.div_add_mod' n d).symm
  have hrest : n % d < d := Nat.mod_lt n hd
  generalize hq : n / d = q at hsplit
  generalize hr : n % d = r at hsplit hrest
  -- the multiples below are at least as far as `q`, those above at least as far as `q + 1`
  have hfar : (r : ℤ) ≤ |k * d - n| ∧ k ≤ q ∨ (d - r : ℤ) ≤ |k * d - n| ∧ q < k := by
    rcases lt_or_ge (q : ℤ) k with hk | hk
    · have hsteps : 0 ≤ (k - q - 1) * d := mul_nonneg (by omega) (by omega)
      exact Or.inr ⟨le_trans (by rw [hsplit]; linarith) (le_abs_self _), hk⟩
    · have hsteps : 0 ≤ (q - k) * d := mul_nonneg (by omega) (by omega)
      exact Or.inl ⟨le_trans (by rw [hsplit]; linarith) (neg_le_abs _), hk⟩
  unfold roundedQuotient
  simp only [hq, hr]
  split_ifs with hdown
  · have hnear : |(q * d : ℤ) - n| = r := by
      rw [hsplit, abs_sub_comm, add_sub_cancel_left, Nat.abs_cast]
    rw [hnear]
    omega
  · have hnear : |(((q + 1 : ℕ) : ℤ) * d) - n| = d - r := by
      have hgap : (((q + 1 : ℕ) : ℤ) * d) - n = d - r := by
        rw [hsplit]
        push_cast
        ring
      rw [hgap, abs_of_nonneg (by omega)]
    rw [hnear]
    omega

theorem roundedQuotient_of_dvd (h : d ∣ n) (hd : 0 < d) : roundedQuotient n d * d = n := by
  have hrest : n % d = 0 := Nat.mod_eq_zero_of_dvd h
  rw [roundedQuotient]
  simp only [hrest, Nat.mul_zero, hd, true_or, if_true]
  exact Nat.div_mul_cancel h

theorem significand_eq (n : Nat) :
    significand n = roundedQuotient (n * 2 ^ 52) (2 ^ n.log2) := by
  rw [significand, Nat.shiftLeft_eq, Nat.shiftLeft_eq, Nat.one_mul]

/-- The leading bits of a count are 53, or one with a carry. -/
theorem significand_bounds (h : n ≠ 0) : 2 ^ 52 ≤ significand n ∧ significand n ≤ 2 ^ 53 := by
  have hlow : 2 ^ n.log2 ≤ n := Nat.log2_self_le h
  have hhigh : n < 2 ^ n.log2 * 2 := by
    rw [← Nat.pow_succ]
    exact Nat.lt_log2_self
  have hleast : 2 ^ 52 ≤ n * 2 ^ 52 / 2 ^ n.log2 :=
    (Nat.le_div_iff_mul_le (Nat.two_pow_pos _)).2 (by omega)
  have hmost : n * 2 ^ 52 / 2 ^ n.log2 < 2 ^ 53 :=
    (Nat.div_lt_iff_lt_mul (Nat.two_pow_pos _)).2 (by omega)
  rw [significand_eq, roundedQuotient]
  split_ifs <;> omega

/-! ### The pattern of a count -/

theorem log2_le_of_word (h : n ≤ maxWord) : n.log2 ≤ 63 := by
  by_cases hn : n = 0
  · simp [hn]
  · exact Nat.le_of_lt_succ ((Nat.log2_lt hn).2 (Nat.lt_of_le_of_lt h (by decide)))

/-- **The number of the pattern of a count**: its leading bits, in their place. -/
theorem number?_ofNat (h : n ≠ 0) (hword : n ≤ maxWord) :
    (ofNat n).number? = some ((significand n : ℚ) * 2 ^ ((n.log2 : ℤ) - 52)) := by
  obtain ⟨hleast, hmost⟩ := significand_bounds h
  have hlog := log2_le_of_word hword
  have hfinite : (1022 + n.log2) * 2 ^ 52 + significand n ≤ infinity := by
    rw [infinity, Nat.shiftLeft_eq]
    omega
  rw [ofNat, if_neg h, Nat.shiftLeft_eq, Nat.min_eq_left hfinite, number?_packed (by omega) hleast hmost]
  congr 3
  push_cast
  ring

/-- A whole number of units in terms of the count that has this unit. -/
theorem units_sub (n : Nat) (k : ℤ) :
    (k : ℚ) * 2 ^ ((n.log2 : ℤ) - 52) - n =
      ((k * (2 ^ n.log2 : ℕ) - (n * 2 ^ 52 : ℕ) : ℤ) : ℚ) * 2 ^ (-52 : ℤ) := by
  rw [sub_eq_add_neg (n.log2 : ℤ) 52, zpow_add₀ two_ne_zero, zpow_natCast]
  have hback : (2 : ℚ) ^ 52 * 2 ^ (-52 : ℤ) = 1 := by norm_num
  push_cast
  linear_combination (n : ℚ) * hback

/-- No whole number of units is nearer to a count than its leading bits. -/
theorem significand_nearest (n : Nat) (k : ℤ) :
    |(significand n : ℚ) * 2 ^ ((n.log2 : ℤ) - 52) - n| ≤ |(k : ℚ) * 2 ^ ((n.log2 : ℤ) - 52) - n| := by
  have hnear := roundedQuotient_nearest (n * 2 ^ 52) (Nat.two_pow_pos n.log2) k
  have hunits := units_sub n (significand n)
  rw [Int.cast_natCast] at hunits
  rw [← significand_eq] at hnear
  rw [hunits, units_sub, abs_mul, abs_mul]
  refine mul_le_mul_of_nonneg_right ?_ (abs_nonneg _)
  exact_mod_cast hnear

/-- No number with a pattern is nearer to a count than its leading bits. -/
theorem nearest_ofNat (h : n ≠ 0) {q' : Quantity} {y : ℚ} (hy : q'.number? = some y) :
    |(significand n : ℚ) * 2 ^ ((n.log2 : ℤ) - 52) - n| ≤ |y - n| := by
  obtain ⟨m, e, hm, rfl⟩ := exists_of_number? hy
  rcases le_or_gt ((n.log2 : ℤ) - 52) e with he | he
  · -- the number is a whole number of units
    obtain ⟨j, hj⟩ := Int.eq_ofNat_of_zero_le (sub_nonneg.2 he)
    have hunits : (m : ℚ) * 2 ^ e = ((m * 2 ^ j : ℤ) : ℚ) * 2 ^ ((n.log2 : ℤ) - 52) := by
      rw [← sub_add_cancel e ((n.log2 : ℤ) - 52), hj, zpow_add₀ two_ne_zero]
      push_cast
      rw [zpow_natCast]
      ring
    rw [hunits]
    exact significand_nearest n _
  · -- the number is at most the leading bit of the count, which is a whole number of units
    have hlow : (2 : ℚ) ^ n.log2 ≤ n := by exact_mod_cast Nat.log2_self_le h
    have hlead : ((2 ^ 52 : ℤ) : ℚ) * 2 ^ ((n.log2 : ℤ) - 52) = 2 ^ n.log2 := by
      have hback : (2 : ℚ) ^ 52 * 2 ^ (-52 : ℤ) = 1 := by norm_num
      rw [sub_eq_add_neg, zpow_add₀ two_ne_zero, zpow_natCast]
      push_cast
      linear_combination (2 : ℚ) ^ n.log2 * hback
    have hsmall : (m : ℚ) * 2 ^ e ≤ 2 ^ n.log2 := by
      have hbits : (m : ℚ) ≤ 2 ^ (53 : ℤ) := by exact_mod_cast le_trans (le_abs_self m) hm.le
      calc (m : ℚ) * 2 ^ e ≤ 2 ^ (53 : ℤ) * 2 ^ e :=
            mul_le_mul_of_nonneg_right hbits (by positivity)
        _ = 2 ^ (53 + e) := (zpow_add₀ two_ne_zero _ _).symm
        _ ≤ 2 ^ (n.log2 : ℤ) := zpow_le_zpow_right₀ one_le_two (by omega)
        _ = 2 ^ n.log2 := zpow_natCast 2 _
    refine le_trans (significand_nearest n (2 ^ 52)) ?_
    rw [hlead, abs_sub_comm, abs_of_nonneg (by linarith), abs_sub_comm]
    exact le_trans (by linarith) (le_abs_self _)

/-- The leading bits of a count up to 2⁵³ are all of it. -/
theorem significand_exact (h : n ≠ 0) (hn : n ≤ 2 ^ 53) :
    (significand n : ℚ) * 2 ^ ((n.log2 : ℤ) - 52) = n := by
  have hdvd : 2 ^ n.log2 ∣ n * 2 ^ 52 := by
    rcases Nat.lt_or_eq_of_le hn with hn | rfl
    · have hlog : n.log2 < 53 := (Nat.log2_lt h).2 hn
      exact Nat.dvd_mul_left_of_dvd (Nat.pow_dvd_pow 2 (Nat.le_of_lt_succ hlog)) n
    · exact Nat.dvd_mul_right_of_dvd (by rw [Nat.log2_two_pow]) _
  have hall : significand n * 2 ^ n.log2 = n * 2 ^ 52 := by
    rw [significand_eq]
    exact roundedQuotient_of_dvd hdvd (Nat.two_pow_pos _)
  have hunits := units_sub n (significand n)
  rw [Int.cast_natCast] at hunits
  rw [← sub_eq_zero, hunits, ← hall]
  push_cast
  ring

/-- **The pattern of a count tells it.** -/
theorem tells_ofNat (n : Nat) : (ofNat n).Tells n := by
  by_cases h : n = 0
  · subst h
    exact tells_zero
  · refine ⟨fun hn => ?_, fun hword => ⟨_, number?_ofNat h hword, fun q' y hy => ?_⟩⟩
    · rw [number?_ofNat h (Nat.le_trans hn (by decide)), significand_exact h hn]
    · exact nearest_ofNat h hy

end Quantity

end Turnstile
