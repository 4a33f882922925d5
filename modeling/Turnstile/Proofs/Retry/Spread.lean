/-
**Where a delay lands that is spread at random.**

A draw from a range of 64-bit numbers never leaves the range, whatever the words are: the second
word adds one to the offset only where the offset is not the last one.  And it leaves no number of
the range out.  So the results of a jitter are known exactly: every whole number of milliseconds
from nothing, or from half of them, up to the whole milliseconds of the delay.

None of these is longer than the delay.  But half of the whole milliseconds, rounded down, is less
than half of the delay unless the delay is an even number of milliseconds: a delay of 3 ms may
become one of 1 ms.

Main definitions:

* `Jitter.results` — the delays that a jitter can make of a delay;
* `Jitter.floor` — the fewest milliseconds of them.

Main results:

* `WordSource.between_mem`, `WordSource.exists_between` — a draw gives the numbers of its range and
  no others;
* `Jitter.mem_results_iff` — the results of a jitter;
* `Jitter.results_spread` — **what the two jitters give, and when a delay keeps its half**;
* `Jitter.equal_below_half` — a delay of 3 ms does not.
-/

import Mathlib.Data.Set.Operations
import Turnstile.Retry.Delay

set_option relaxedAutoImplicit false
set_option autoImplicit false

namespace Turnstile

namespace WordSource

/-! ### Drawing from a range -/

variable {low high size w v : Nat}

theorem next_lt (s : WordSource) : s.next.1 < wordCount :=
  Nat.mod_lt _ (by decide)

/-- The offset that a word gives is below the size of the range. -/
theorem offset_lt (hw : w < wordCount) (hsize : 0 < size) : w * size / wordCount < size := by
  have hprod : w * size < wordCount * size := Nat.mul_lt_mul_of_pos_right hw hsize
  exact Nat.div_lt_of_lt_mul hprod

/-- **Where the second word carries, the offset is not the last one.** -/
theorem offset_succ_lt (hw : w < wordCount) (hv : v < wordCount) (hsize : 0 < size)
    (hcarry : wordCount ≤ w * size % wordCount + v * size / wordCount) :
    w * size / wordCount + 1 < size := by
  have hparts : wordCount * (w * size / wordCount) + w * size % wordCount = w * size :=
    Nat.div_add_mod ..
  have hsecond : v * size / wordCount < size := offset_lt hv hsize
  have hfirst : w * size + size ≤ wordCount * size := by
    rw [← Nat.succ_mul]
    exact Nat.mul_le_mul_right size hw
  have hlt : wordCount * (w * size / wordCount + 1) < wordCount * size := by
    rw [Nat.mul_succ]
    omega
  exact Nat.lt_of_mul_lt_mul_left hlt

/-- A draw from a range that is not of all words, by its first word and maybe a second one. -/
theorem between_cases (s : WordSource) (hlt : high - low + 1 < wordCount) :
    (s.between low high).1 = low + s.next.1 * (high - low + 1) / wordCount ∨
    (wordCount ≤ s.next.1 * (high - low + 1) % wordCount +
        s.next.2.next.1 * (high - low + 1) / wordCount ∧
      (s.between low high).1 = low + s.next.1 * (high - low + 1) / wordCount + 1) := by
  have hsize : (high - low + 1) % wordCount = high - low + 1 := Nat.mod_eq_of_lt hlt
  have hpos : high - low + 1 ≠ 0 := Nat.succ_ne_zero _
  simp only [between, hsize, if_neg hpos]
  split
  · split
    · next hcarry => exact .inr ⟨hcarry, rfl⟩
    · exact .inl rfl
  · exact .inl rfl

/-- A range of as many numbers as there are words is that of all words. -/
theorem eq_all (hhigh : high ≤ maxWord) (hall : ¬ high - low + 1 < wordCount) :
    low = 0 ∧ high = maxWord := by
  unfold maxWord at hhigh ⊢
  unfold wordCount at hall
  omega

theorem between_all (s : WordSource) : (s.between 0 maxWord).1 = s.next.1 := rfl

/-- **A draw does not leave its range.** -/
theorem between_mem (s : WordSource) (hle : low ≤ high) (hhigh : high ≤ maxWord) :
    low ≤ (s.between low high).1 ∧ (s.between low high).1 ≤ high := by
  by_cases hlt : high - low + 1 < wordCount
  · have hsize : 0 < high - low + 1 := Nat.succ_pos _
    have hoffset := offset_lt s.next_lt hsize
    rcases between_cases s hlt with hfirst | ⟨hcarry, hsecond⟩
    · rw [hfirst]
      exact ⟨Nat.le_add_right .., by omega⟩
    · have hnext := offset_succ_lt s.next_lt s.next.2.next_lt hsize hcarry
      rw [hsecond, Nat.add_assoc]
      exact ⟨Nat.le_add_right .., by omega⟩
  · obtain ⟨rfl, rfl⟩ := eq_all hhigh hlt
    rw [between_all]
    exact ⟨Nat.zero_le _, Nat.le_of_lt_succ s.next_lt⟩

/-- The word that gives an offset: the least one whose product with the size reaches it. -/
theorem exists_offset {x : Nat} (hx : x < size) (hsize : size < wordCount) :
    ∃ w < wordCount, w * size / wordCount = x ∧ w * size % wordCount < size := by
  have hpos : 0 < size := Nat.zero_lt_of_lt hx
  let w := (x * wordCount + (size - 1)) / size
  have hlow : x * wordCount ≤ w * size := by
    have hup := Nat.lt_mul_div_succ (x * wordCount + (size - 1)) hpos
    have hw : size * ((x * wordCount + (size - 1)) / size + 1) = w * size + size := by
      rw [Nat.mul_succ, Nat.mul_comm]
    omega
  have hup : w * size ≤ x * wordCount + (size - 1) := Nat.div_mul_le_self ..
  have hrest : w * size = wordCount * x + (w * size - x * wordCount) := by
    rw [Nat.mul_comm wordCount x]
    omega
  have hsmall : w * size - x * wordCount < size := by omega
  have hoffset : w * size / wordCount = x := by
    rw [hrest, Nat.mul_add_div (by decide), Nat.div_eq_of_lt (by omega), Nat.add_zero]
  refine ⟨w, ?_, hoffset, ?_⟩
  · have hmore : (x + 1) * wordCount ≤ size * wordCount := Nat.mul_le_mul_right _ hx
    rw [Nat.succ_mul] at hmore
    have hlt : w * size < wordCount * size := by
      rw [Nat.mul_comm wordCount size]
      omega
    exact Nat.lt_of_mul_lt_mul_right hlt
  · rw [hrest, Nat.mul_add_mod, Nat.mod_eq_of_lt (by omega)]
    exact hsmall

/-- The first word of a source that gives two words in turn. -/
theorem next_cycle (hw : w < wordCount) : (cycle [w, 0]).next.1 = w :=
  Nat.mod_eq_of_lt hw

theorem next_next_cycle (w : Nat) : (cycle [w, 0]).next.2.next.1 = 0 := rfl

/-- **Every number of a range is drawn from some source.** -/
theorem exists_between {x : Nat} (hlow : low ≤ x) (hx : x ≤ high) (hhigh : high ≤ maxWord) :
    ∃ s : WordSource, (s.between low high).1 = x := by
  by_cases hlt : high - low + 1 < wordCount
  · have hwithin : x - low < high - low + 1 := by omega
    obtain ⟨w, hw, hoffset, hrest⟩ := exists_offset hwithin hlt
    refine ⟨cycle [w, 0], ?_⟩
    have hcases := between_cases (cycle [w, 0]) hlt
    rw [next_cycle hw, next_next_cycle, hoffset] at hcases
    rcases hcases with hfirst | ⟨hcarry, -⟩
    · rw [hfirst]
      omega
    · -- the second word is zero, and what is left of the product is too small to carry
      rw [Nat.zero_mul, Nat.zero_div] at hcarry
      omega
  · obtain ⟨rfl, rfl⟩ := eq_all hhigh hlt
    refine ⟨cycle [x, 0], ?_⟩
    rw [between_all, next_cycle]
    exact Nat.lt_succ_of_le hx

end WordSource

namespace Duration

variable {d : Duration} {k : Nat}

theorem clampedMillis_le (d : Duration) : d.clampedMillis ≤ maxWord := Nat.min_le_right ..

theorem ofMillis_zero : ofMillis 0 = zero := rfl

/-- So many milliseconds, if a 64-bit number counts them, are a duration as they are. -/
theorem nanos_ofMillis (hk : k ≤ maxWord) : (ofMillis k).nanos = k * 1000000 := by
  rw [ofMillis, nanos_ofNanos]
  unfold maxWord at hk
  unfold maxNanos
  omega

/-- A duration is not shorter than its whole milliseconds. -/
theorem ofMillis_le (hk : k ≤ d.clampedMillis) : ofMillis k ≤ d := by
  have hle : (ofMillis k).nanos ≤ d.nanos := by
    rw [nanos_ofMillis (Nat.le_trans hk d.clampedMillis_le)]
    unfold clampedMillis millis at hk
    omega
  exact hle

end Duration

namespace Jitter

variable {j : Jitter} {r : Duration}

/-! ### The results of a jitter -/

/-- The fewest milliseconds that a jitter draws, of so many. -/
def floor : Jitter → Nat → Nat
  | .equal, ms => ms / 2
  | _, _ => 0

/-- The delays that a jitter can make of a delay, over all sources of words. -/
def results (j : Jitter) (d : Duration) : Set Duration :=
  Set.range fun s => (j.apply d s).1

theorem floor_le (j : Jitter) (ms : Nat) : j.floor ms ≤ ms := by
  cases j with
  | equal => exact Nat.div_le_self ms 2
  | none => exact Nat.zero_le ms
  | full => exact Nat.zero_le ms

/-- A jitter draws from its floor up to the whole milliseconds of the delay, if there are any. -/
theorem apply_eq (hj : j ≠ .none) (d : Duration) (s : WordSource) :
    (j.apply d s).1 = if d.clampedMillis = 0 then .zero
      else .ofMillis (s.between (j.floor d.clampedMillis) d.clampedMillis).1 := by
  cases j with
  | none => exact absurd rfl hj
  | full => simp only [apply, floor]; split <;> rfl
  | equal => simp only [apply, floor]; split <;> rfl

/-- **The results of a jitter** are its floor, the whole milliseconds of the delay, and every whole
number of milliseconds between them. -/
theorem mem_results_iff (hj : j ≠ .none) (d : Duration) :
    r ∈ j.results d ↔
      ∃ k, j.floor d.clampedMillis ≤ k ∧ k ≤ d.clampedMillis ∧ r = .ofMillis k := by
  constructor
  · rintro ⟨s, rfl⟩
    simp only [apply_eq hj]
    split
    · next hzero =>
        refine ⟨0, ?_, Nat.zero_le _, rfl⟩
        rw [hzero]
        exact j.floor_le 0
    · have hmem := s.between_mem (j.floor_le d.clampedMillis) d.clampedMillis_le
      exact ⟨_, hmem.1, hmem.2, rfl⟩
  · rintro ⟨k, hfloor, hk, rfl⟩
    obtain ⟨s, hs⟩ := WordSource.exists_between hfloor hk d.clampedMillis_le
    refine ⟨s, ?_⟩
    simp only [apply_eq hj, hs]
    split
    · next hzero =>
        have hk0 : k = 0 := by omega
        rw [hk0, Duration.ofMillis_zero]
    · rfl

/-- No result is longer than the delay. -/
theorem le_of_mem_results (hj : j ≠ .none) {d : Duration} (h : r ∈ j.results d) : r ≤ d := by
  obtain ⟨k, -, hk, rfl⟩ := (mem_results_iff hj d).mp h
  exact Duration.ofMillis_le hk

/-! ### Half of a delay -/

theorem nanos_of_mem_equal {d : Duration} (h : r ∈ equal.results d) :
    d.clampedMillis / 2 * 1000000 ≤ r.nanos := by
  obtain ⟨k, hfloor, hk, rfl⟩ := (mem_results_iff (by decide) d).mp h
  rw [Duration.nanos_ofMillis (Nat.le_trans hk d.clampedMillis_le)]
  exact Nat.mul_le_mul_right _ hfloor

/-- Half of the whole milliseconds is a result. -/
theorem half_mem_equal (d : Duration) : .ofMillis (d.clampedMillis / 2) ∈ equal.results d :=
  (mem_results_iff (by decide) d).mpr ⟨_, Nat.le_refl _, Nat.div_le_self _ _, rfl⟩

/-- **A delay keeps its half exactly if it is an even number of milliseconds**, one that is counted
by a 64-bit number. -/
theorem keeps_half_iff (d : Duration) :
    (∀ r ∈ equal.results d, d.nanos ≤ 2 * r.nanos) ↔
      ∃ m, 2 * m ≤ maxWord ∧ d = .ofMillis (2 * m) := by
  constructor
  · intro hkeeps
    have hhalf := hkeeps _ (half_mem_equal d)
    rw [Duration.nanos_ofMillis
      (Nat.le_trans (Nat.div_le_self _ _) d.clampedMillis_le)] at hhalf
    have hclamped := d.clampedMillis_le
    have heven : 2 * (d.clampedMillis / 2) ≤ maxWord := by omega
    refine ⟨d.clampedMillis / 2, heven, Duration.ext_nanos ?_⟩
    rw [Duration.nanos_ofMillis heven]
    unfold Duration.clampedMillis Duration.millis at hhalf ⊢
    omega
  · rintro ⟨m, hm, rfl⟩ r hr
    have hfloor := nanos_of_mem_equal hr
    have hnanos := Duration.nanos_ofMillis hm
    have hmillis : (Duration.ofMillis (2 * m)).clampedMillis = 2 * m := by
      unfold Duration.clampedMillis Duration.millis
      omega
    omega

/-- Of a delay whose milliseconds fit a word, less than two milliseconds are missing. -/
theorem nanos_lt_of_mem_equal {d : Duration} (hfits : d.millis ≤ maxWord)
    (h : r ∈ equal.results d) : d.nanos < 2 * r.nanos + 2000000 := by
  have hfloor := nanos_of_mem_equal h
  have hclamped : d.clampedMillis = d.millis := Nat.min_eq_left hfits
  rw [hclamped] at hfloor
  unfold Duration.millis at hfloor
  omega

/-- **What the two jitters give.**  Spread over the whole of it a delay becomes any whole number of
milliseconds up to its own, and spread over the second half any from half of these, rounded down;
neither is ever longer than the delay.  The second is never shorter than half of the delay exactly
where the delay is an even number of milliseconds; else it can be, by less than two milliseconds in
twice its length where the milliseconds of the delay fit a word. -/
theorem results_spread (d : Duration) :
    full.results d = { r | ∃ k ≤ d.clampedMillis, r = .ofMillis k } ∧
    equal.results d =
      { r | ∃ k, d.clampedMillis / 2 ≤ k ∧ k ≤ d.clampedMillis ∧ r = .ofMillis k } ∧
    (∀ r ∈ full.results d, r ≤ d) ∧ (∀ r ∈ equal.results d, r ≤ d) ∧
    ((∀ r ∈ equal.results d, d.nanos ≤ 2 * r.nanos) ↔
      ∃ m, 2 * m ≤ maxWord ∧ d = .ofMillis (2 * m)) ∧
    (d.millis ≤ maxWord → ∀ r ∈ equal.results d, d.nanos < 2 * r.nanos + 2000000) := by
  refine ⟨?_, ?_, ?_, ?_, keeps_half_iff d, ?_⟩
  · ext r
    rw [mem_results_iff (by decide)]
    constructor
    · rintro ⟨k, -, hk, hr⟩
      exact ⟨k, hk, hr⟩
    · rintro ⟨k, hk, hr⟩
      exact ⟨k, Nat.zero_le k, hk, hr⟩
  · ext r
    exact mem_results_iff (by decide) d
  · intro r hr
    exact le_of_mem_results (by decide) hr
  · intro r hr
    exact le_of_mem_results (by decide) hr
  · intro hfits r hr
    exact nanos_lt_of_mem_equal hfits hr

/-- A delay of 3 ms spread over its second half can become one of 1 ms. -/
theorem equal_below_half :
    2 * (equal.apply (.ofMillis 3) (.cycle [0])).1.nanos < (Duration.ofMillis 3).nanos := by
  decide

end Jitter

end Turnstile
