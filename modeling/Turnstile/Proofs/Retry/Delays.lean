/-
**What the delays of a schedule are.**

The doubling of an exponential schedule is computed in unsigned 128-bit numbers that stop at the
largest one, with an exponent of 32 bits, and its result is read as a 64-bit number.  Nothing of
this shows: a power or a product that stops there is longer than a day anyway, so is every product
with an exponent that is cut off, and a day of nanoseconds is a 64-bit number.  The delay is what
it is in unbounded numbers, for every base and every attempt.

Main definitions:

* `Backoff.grown` — a delay as it is before it is bounded;
* `Backoff.bound` — what bounds the delays of a schedule.

Main results:

* `Backoff.min_times_powerOfTwo`, `Backoff.min_mul_cut` — below a bound the numbers that stop and
  the exponents that are cut off are exact;
* `Backoff.nanos_delay_succ` — **a delay is what has grown, up to the bound**;
* `Backoff.delay_closed_form` — **the delays of a schedule in unbounded numbers**, which never get
  shorter, double up to the bound, and do not exceed a cap.
-/

import Mathlib.Algebra.Ring.Nat
import Mathlib.Order.Monotone.Basic
import Turnstile.Retry.Delay

set_option relaxedAutoImplicit false
set_option autoImplicit false

namespace Turnstile

theorem Duration.nanos_min (a b : Duration) : (min a b).nanos = min a.nanos b.nanos := by
  have hmin : min a b = if a ≤ b then a else b := rfl
  rw [hmin]
  by_cases h : a ≤ b
  · have hle : a.nanos ≤ b.nanos := h
    rw [if_pos h, Nat.min_eq_left hle]
  · have hle : b.nanos ≤ a.nanos := Nat.le_of_not_le h
    rw [if_neg h, Nat.min_eq_right hle]

namespace Backoff

theorem nanos_longest : longest.nanos = 86400000000000 := rfl

/-! ### Numbers that stop -/

variable {a top : Nat}

theorem powerOfTwo_eq (e : Nat) : powerOfTwo e = min (2 ^ e) maxWide := by
  unfold powerOfTwo
  split
  · next h =>
      have hpow : 2 ^ e ≤ 2 ^ 127 := Nat.pow_le_pow_right (by decide) (by omega)
      have hfits : 2 ^ 127 ≤ maxWide := by decide
      rw [Nat.min_eq_left (Nat.le_trans hpow hfits)]
      rfl
  · next h =>
      have hpow : 2 ^ 128 ≤ 2 ^ e := Nat.pow_le_pow_right (by decide) (by omega)
      have hstops : maxWide ≤ 2 ^ 128 := by decide
      rw [Nat.min_eq_right (Nat.le_trans hstops hpow)]

/-- A product with a number that is not zero is as large as the other factor. -/
theorem le_mul_of_pos (ha : 0 < a) {b : Nat} (h : top ≤ b) : top ≤ a * b :=
  Nat.le_trans h (Nat.le_mul_of_pos_left b ha)

/-- **Below a bound the numbers that stop are exact**: where they stop the product is larger. -/
theorem min_times_powerOfTwo (htop : top ≤ maxWide) (a e : Nat) :
    min (times a (powerOfTwo e)) top = min (a * 2 ^ e) top := by
  rw [times, powerOfTwo_eq]
  rcases Nat.eq_zero_or_pos a with rfl | ha
  · simp
  · rcases Nat.le_total (2 ^ e) maxWide with hfits | hstops
    · rw [Nat.min_eq_left hfits, Nat.min_assoc, Nat.min_eq_right htop]
    · rw [Nat.min_eq_right hstops, Nat.min_assoc, Nat.min_eq_right htop,
        Nat.min_eq_right (le_mul_of_pos ha htop),
        Nat.min_eq_right (le_mul_of_pos ha (Nat.le_trans htop hstops))]

/-- **Below a bound an exponent may be cut off** where the power reaches the bound. -/
theorem min_mul_cut {most : Nat} (hmost : top ≤ 2 ^ most) (a k : Nat) :
    min (a * 2 ^ min k most) top = min (a * 2 ^ k) top := by
  rcases Nat.le_total k most with hle | hcut
  · rw [Nat.min_eq_left hle]
  · rcases Nat.eq_zero_or_pos a with rfl | ha
    · simp
    · have hpow : 2 ^ most ≤ 2 ^ k := Nat.pow_le_pow_right (by decide) hcut
      rw [Nat.min_eq_right hcut, Nat.min_eq_right (le_mul_of_pos ha hmost),
        Nat.min_eq_right (le_mul_of_pos ha (Nat.le_trans hmost hpow))]

theorem longest_le_pow_maxExponent : longest.nanos ≤ 2 ^ maxExponent := by
  have hday : longest.nanos ≤ 2 ^ 47 := by decide
  have hpow : 2 ^ 47 ≤ 2 ^ maxExponent := Nat.pow_le_pow_right (by decide) (by decide)
  exact Nat.le_trans hday hpow

/-! ### Delays -/

/-- The nanoseconds of a delay before it is bounded: always those of a constant schedule, and those
of the base of an exponential one after so many doublings. -/
def grown : Backoff → Nat → Nat
  | .constant d, _ => d.nanos
  | .exponential base _, k => base.nanos * 2 ^ k

/-- The nanoseconds that bound the delays of a schedule: those of a day, or of the cap if these are
fewer. -/
def bound : Backoff → Nat
  | .exponential _ (some cap) => min cap.nanos longest.nanos
  | _ => longest.nanos

/-- The delay of an exponential schedule before it is capped, in machine numbers and in unbounded
ones. -/
theorem nanos_doubled (base : Duration) (k : Nat) :
    (Duration.ofNanos (min (times base.nanos (powerOfTwo (min k maxExponent))) longest.nanos %
      (maxWord + 1))).nanos = min (base.nanos * 2 ^ k) longest.nanos := by
  rw [min_times_powerOfTwo (by decide), min_mul_cut longest_le_pow_maxExponent]
  have hday : min (base.nanos * 2 ^ k) longest.nanos ≤ longest.nanos := Nat.min_le_right ..
  rw [nanos_longest] at hday ⊢
  rw [Duration.nanos_ofNanos, Nat.mod_eq_of_lt (by unfold maxWord; omega)]
  unfold Duration.maxNanos
  omega

/-- **A delay is what has grown, up to the bound.** -/
theorem nanos_delay_succ (b : Backoff) (k : Nat) :
    (b.delay (k + 1)).nanos = min (b.grown k) b.bound := by
  cases b with
  | constant d => exact Duration.nanos_min d longest
  | exponential base cap =>
      cases cap with
      | none =>
          simp only [delay, grown, bound, Duration.nanos_min, nanos_doubled]
          omega
      | some cap =>
          simp only [delay, grown, bound, Duration.nanos_min, nanos_doubled]
          omega

/-- What divides the delays before they are bounded, and the bound, divides all delays. -/
theorem dvd_nanos_delay {b : Backoff} {unit : Nat} (hgrown : ∀ k, unit ∣ b.grown k)
    (hbound : unit ∣ b.bound) (k : Nat) : unit ∣ (b.delay k).nanos := by
  cases k with
  | zero => exact Nat.dvd_zero unit
  | succ k =>
      rw [nanos_delay_succ]
      rcases Nat.le_total (b.grown k) b.bound with hle | hle
      · rw [Nat.min_eq_left hle]
        exact hgrown k
      · rw [Nat.min_eq_right hle]
        exact hbound

theorem grown_le_succ (b : Backoff) (k : Nat) : b.grown k ≤ b.grown (k + 1) := by
  cases b with
  | constant d => exact Nat.le_refl _
  | exponential base cap =>
      exact Nat.mul_le_mul_left _ (Nat.pow_le_pow_right (by decide) (Nat.le_succ k))

/-- A later delay is not shorter. -/
theorem monotone_delay (b : Backoff) : Monotone fun k => (b.delay k).nanos := by
  refine monotone_nat_of_le_succ ?_
  intro k
  cases k with
  | zero => exact Nat.zero_le _
  | succ k =>
      simp only [nanos_delay_succ]
      have hgrown := b.grown_le_succ k
      omega

/-- The delays of an exponential schedule double up to the bound. -/
theorem nanos_delay_exponential (base : Duration) (cap : Option Duration) (k : Nat) :
    ((exponential base cap).delay (k + 2)).nanos =
      min (2 * ((exponential base cap).delay (k + 1)).nanos) (exponential base cap).bound := by
  have hgrown : (exponential base cap).grown (k + 1) = 2 * (exponential base cap).grown k := by
    simp only [grown, Nat.pow_succ]
    rw [← Nat.mul_assoc, Nat.mul_comm]
  rw [nanos_delay_succ, nanos_delay_succ, hgrown]
  omega

/-- A cap that is accepted is the one of the schedule. -/
theorem withCap_eq_ok {b capped : Backoff} {cap : Duration} (h : b.withCap cap = .ok capped) :
    ∃ base, capped = .exponential base (some cap) := by
  unfold withCap at h
  split at h
  · exact nomatch h
  · split at h
    · next base _ =>
        split at h
        · exact nomatch h
        · exact ⟨base, (Except.ok.inj h).symm⟩
    · exact nomatch h

/-- **The delays of a schedule in unbounded numbers.**  The first call has none.  Any other attempt
of a constant schedule has its delay, and of an exponential schedule its base times a power of two,
up to the cap if there is one and up to a day.  So a later delay is not shorter, the delays of an
exponential schedule double until they meet their bound, and none exceeds a cap that was set. -/
theorem delay_closed_form (b : Backoff) :
    b.delay 0 = .zero ∧
    (∀ k, (b.delay (k + 1)).nanos =
      match b with
      | .constant d => min d.nanos longest.nanos
      | .exponential base none => min (base.nanos * 2 ^ k) longest.nanos
      | .exponential base (some cap) =>
          min (base.nanos * 2 ^ k) (min cap.nanos longest.nanos)) ∧
    (Monotone fun k => (b.delay k).nanos) ∧
    (∀ base cap, b = .exponential base cap →
      ∀ k, (b.delay (k + 2)).nanos = min (2 * (b.delay (k + 1)).nanos) b.bound) ∧
    ∀ cap capped, b.withCap cap = .ok capped → ∀ k, capped.delay k ≤ cap := by
  refine ⟨?_, ?_, b.monotone_delay, ?_, ?_⟩
  · cases b <;> rfl
  · intro k
    rw [nanos_delay_succ]
    cases b with
    | constant d => rfl
    | exponential base cap => cases cap <;> rfl
  · rintro base cap rfl k
    exact nanos_delay_exponential base cap k
  · intro cap capped hcapped k
    obtain ⟨base, rfl⟩ := withCap_eq_ok hcapped
    cases k with
    | zero => exact Nat.zero_le _
    | succ k =>
        have hle : ((exponential base (some cap)).delay (k + 1)).nanos ≤ cap.nanos := by
          rw [nanos_delay_succ]
          exact Nat.le_trans (Nat.min_le_right ..) (Nat.min_le_left ..)
        exact hle

/-- A tenth of a second that doubles up to a second. -/
example : (List.range 7).map (fun k => ((exponential (Duration.ofMillis 100)
    (some (Duration.ofMillis 1000))).delay k).nanos / 1000000) =
      [0, 100, 200, 400, 800, 1000, 1000] := by
  decide +kernel

end Backoff

end Turnstile
