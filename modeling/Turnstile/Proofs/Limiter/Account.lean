/-
**The account of a limiter key.**

All that decisions ever learn about a key is how much of its quota is in use and when that lapses.
An account is just these two numbers.  This module says what a decision does to an account, and
proves that the script on the two slots of a key does the same: the counter slot shows the account
before and the account after.  Markers take no part in it.

Main definitions:

* `Account`, `Account.asOf` — an account, and what is left of it at a time;
* `Account.take` — a decision on an account;
* `Slot.Counts` — a counter slot shows an account.

Main results:

* `Slot.Counts.incrBy` — adding to a counter slot is adding to the account, up to the greatest word;
* `SlidingScript.settle_of_counts` — **the script does to the counter what a decision does to the
  account**, and answers the same;
* `Account.lt_lapseAfter` — what is admitted lapses only after the window has passed.
-/

import Turnstile.Limiter.SlidingWindow
import Turnstile.Proofs.Limiter.Settlement

set_option relaxedAutoImplicit false
set_option autoImplicit false

namespace Turnstile

/-- What a limiter key has in use, and the store time at which that lapses. -/
structure Account where
  used : Nat
  lapse : Option Nat
  deriving DecidableEq

namespace Account

/-- Nothing is in use. -/
def fresh : Account := ⟨0, none⟩

/-- What is left of an account at a time: all of it until it lapses, nothing from then on. -/
def asOf (now : Nat) (a : Account) : Account :=
  match a.lapse with
  | some t => if t ≤ now then fresh else a
  | none => a

/-- A number of a caller brought into the signed 64-bit range. -/
def word (n : Nat) : Nat := min n 9223372036854775807

/-- When an admission at a time lapses: after the lifetime of the keys, which is counted from this
time on up to the largest 64-bit word. -/
def lapseAfter (now : Nat) (window : Duration) : Nat :=
  Keyspace.expiryAfter now (SlidingScript.keyTtl (word window.clampedMillis))

/-- A decision on an account.  A sum beyond the signed 64-bit range is an error of the script; one
within the limit is admitted and puts the lapse off; any other one is denied. -/
def take (now n limit : Nat) (window : Duration) (a : Account) :
    Except StoreError Bool × Account :=
  let a := a.asOf now
  if 9223372036854775807 < a.used + word n then (.error Keyspace.overflow, a)
  else if a.used + word n ≤ word limit then
    (.ok true, ⟨a.used + word n, some (lapseAfter now window)⟩)
  else (.ok false, a)

/-! ### Accounts in time -/

@[simp] theorem asOf_fresh (now : Nat) : fresh.asOf now = fresh := rfl

/-- What is left of an account is nothing, or all of it while it has not lapsed. -/
theorem asOf_cases (now : Nat) (a : Account) :
    a.asOf now = fresh ∧ (∃ t, a.lapse = some t ∧ t ≤ now) ∨
      a.asOf now = a ∧ ∀ t, a.lapse = some t → now < t := by
  unfold asOf
  cases h : a.lapse with
  | none => exact Or.inr ⟨rfl, by simp⟩
  | some t =>
      rcases Nat.lt_or_ge now t with ht | ht
      · refine Or.inr ⟨by simp [Nat.not_le.2 ht], ?_⟩
        intro u hu
        simp only [Option.some.injEq] at hu
        omega
      · exact Or.inl ⟨by simp [ht], t, rfl, ht⟩

/-- Whatever is left at a time lapses later. -/
theorem lt_lapse_asOf {now t : Nat} {a : Account} (h : (a.asOf now).lapse = some t) : now < t := by
  rcases asOf_cases now a with ⟨ha, -⟩ | ⟨ha, hlt⟩
  · rw [ha] at h
    simp [fresh] at h
  · rw [ha] at h
    exact hlt t h

/-- Time that goes on takes away no less. -/
theorem asOf_asOf {now later : Nat} (h : now ≤ later) (a : Account) :
    (a.asOf now).asOf later = a.asOf later := by
  rcases asOf_cases now a with ⟨ha, t, ht, hle⟩ | ⟨ha, -⟩
  · rw [ha, asOf_fresh]
    have : t ≤ later := Nat.le_trans hle h
    simp [asOf, ht, this]
  · rw [ha]

/-! ### Decisions in time -/

/-- A decision depends on what is left of the account. -/
theorem take_congr {now : Nat} {a a' : Account} (h : a.asOf now = a'.asOf now) (n limit : Nat)
    (window : Duration) : a.take now n limit window = a'.take now n limit window := by
  unfold take
  rw [h]

/-- A decision that admits nothing takes nothing but what has lapsed. -/
theorem take_of_not_admitted {now n limit : Nat} {window : Duration} {a : Account}
    (h : (a.take now n limit window).1 ≠ .ok true) :
    (a.take now n limit window).2 = a.asOf now := by
  unfold take at h ⊢
  by_cases hover : 9223372036854775807 < (a.asOf now).used + word n
  · simp only [hover, if_true]
  · by_cases hfit : (a.asOf now).used + word n ≤ word limit
    · simp [hover, hfit] at h
    · simp only [hover, hfit, if_false]

/-- A decision that admits takes a sum within the limit, and puts the lapse off. -/
theorem take_of_admitted {now n limit : Nat} {window : Duration} {a : Account}
    (h : (a.take now n limit window).1 = .ok true) :
    (a.asOf now).used + word n ≤ word limit ∧
      (a.take now n limit window).2 =
        ⟨(a.asOf now).used + word n, some (lapseAfter now window)⟩ := by
  unfold take at h ⊢
  by_cases hover : 9223372036854775807 < (a.asOf now).used + word n
  · simp [hover] at h
  · by_cases hfit : (a.asOf now).used + word n ≤ word limit
    · simp only [hover, hfit, if_true, if_false, and_self]
    · simp [hover, hfit] at h

/-! ### The numbers of the script -/

theorem coe_word (n : Nat) : ((word n : Nat) : Int) = min (n : Int) Text.maxInt := by
  unfold word Text.maxInt
  omega

theorem word_le (n : Nat) : word n ≤ 9223372036854775807 := Nat.min_le_right ..

theorem word_of_le {n : Nat} (h : n ≤ 9223372036854775807) : word n = n := Nat.min_eq_left h

/-- The keys live for the window in whole seconds, rounded up, and one second more. -/
theorem clampedMillis_keyTtl {ms : Nat} (h : ms ≤ 9223372036854775807) :
    (SlidingScript.keyTtl ms).clampedMillis = (ms + 999) / 1000 * 1000 + 1000 := by
  have hms : (max (ms : Int) 0).toNat = ms := by omega
  simp only [SlidingScript.keyTtl, hms, Duration.clampedMillis, Duration.millis, Duration.ofSecs,
    Duration.nanos_ofNanos, Duration.maxNanos, maxWord]
  omega

/-- **What is admitted lapses only after the window has passed.** -/
theorem lt_lapseAfter {now : Nat} {window : Duration} (hnow : now < 4611686018427387904)
    (hwindow : window.millis ≤ 9223372036854775807) :
    now + window.millis < lapseAfter now window := by
  have hclamped : window.clampedMillis = window.millis := by
    unfold Duration.clampedMillis maxWord
    omega
  rw [lapseAfter, hclamped, word_of_le hwindow, Keyspace.expiryAfter,
    clampedMillis_keyTtl hwindow]
  unfold maxWord
  omega

end Account

/-! ### Counters that show accounts -/

/-- A counter slot shows an account: an absent counter is an account with nothing in use. -/
inductive Slot.Counts : Slot → Account → Prop
  | absent : Slot.Counts none Account.fresh
  | held (used : Nat) (lapse : Option Nat) :
      Slot.Counts (some ⟨.int used, lapse⟩) ⟨used, lapse⟩

namespace Slot

/-- A counter expires when the account lapses. -/
theorem Counts.live {s : Slot} {a : Account} (h : Counts s a) (now : Nat) :
    Counts (live now s) (a.asOf now) := by
  cases h with
  | absent => exact .absent
  | held used lapse =>
      rw [live_some]
      cases lapse with
      | none => exact .held used none
      | some t =>
          by_cases ht : t ≤ now
          · simp only [Entry.expired, Account.asOf, ht, decide_true, if_true]
            exact .absent
          · simp only [Entry.expired, Account.asOf, ht, decide_false, Bool.false_eq_true, if_false]
            exact .held used (some t)

/-- A counter that shows what is left of an account is not expired. -/
theorem live_of_asOf (now : Nat) (a : Account) (v : Int) :
    live now (some ⟨.int v, (a.asOf now).lapse⟩) = some ⟨.int v, (a.asOf now).lapse⟩ := by
  rw [live_some]
  cases h : (a.asOf now).lapse with
  | none => rfl
  | some t =>
      have : ¬ t ≤ now := Nat.not_le.2 (Account.lt_lapse_asOf h)
      simp [Entry.expired, this]

/-- **Adding to a counter is adding to the account**, up to the greatest signed word.  Where the sum
goes beyond it the counter still shows what was left. -/
theorem Counts.incrBy {s : Slot} {a : Account} (h : Counts s a) (now : Nat) (key : String) {n : Nat}
    (hn : n ≤ 9223372036854775807) :
    if 9223372036854775807 < (a.asOf now).used + n then
      ∃ s', Slot.incrBy now key n s = (.error Keyspace.overflow, s') ∧ Counts s' (a.asOf now)
    else
      Slot.incrBy now key n s =
        (.ok ((a.asOf now).used + n), some ⟨.int ((a.asOf now).used + n), (a.asOf now).lapse⟩) := by
  have hlive := h.live now
  unfold Slot.incrBy
  generalize a.asOf now = b at hlive ⊢
  generalize Slot.live now s = l at hlive ⊢
  cases hlive with
  | absent =>
      have hsum : ¬ 9223372036854775807 < 0 + n := by omega
      simp only [Account.fresh, hsum, if_false]
      simp
  | held used lapse =>
      have hfits : Text.fitsWord ((used : Int) + n) = true ↔ ¬ 9223372036854775807 < used + n := by
        rw [Text.fitsWord_iff]
        unfold Text.minInt Text.maxInt
        omega
      by_cases hlt : 9223372036854775807 < used + n
      · have hno : Text.fitsWord ((used : Int) + n) = false := by
          simpa [hlt] using hfits
        simp only [hlt, if_true, hno, Bool.false_eq_true, if_false]
        exact ⟨_, rfl, .held used lapse⟩
      · have hyes : Text.fitsWord ((used : Int) + n) = true := hfits.2 hlt
        simp only [hlt, if_false, hyes, if_true]

/-- What was just added to a counter can be taken back. -/
theorem incrBy_neg {now : Nat} (key : String) {n : Nat} {v : Int} {expiry : Option Nat}
    (hv : 0 ≤ v) (hsum : v + n ≤ 9223372036854775807)
    (hlive : live now (some ⟨.int (v + n), expiry⟩) = some ⟨.int (v + n), expiry⟩) :
    incrBy now key (-(n : Int)) (some ⟨.int (v + n), expiry⟩) =
      (.ok v, some ⟨.int v, expiry⟩) := by
  have hback : v + n + -n = v := by omega
  have hfits : Text.fitsWord v = true := by
    rw [Text.fitsWord_iff]
    unfold Text.minInt Text.maxInt
    omega
  unfold incrBy
  rw [hlive]
  simp only [hback, hfits, if_true]

end Slot

/-! ### Decisions -/

namespace SlidingScript

/-- How the script ends with a decision. -/
def verdictEnd (admitted : Bool) : ScriptEnd := .replied (.int (if admitted then 1 else 0))

/-- **The script does to the counter what a decision does to the account**, and answers the same;
the marker slot keeps holding markers. -/
theorem settle_of_counts {events counter : Slot} {a : Account} (hevents : events.IsMarkers)
    (hcounter : counter.Counts a) (clock : Nat) (eventKey counterKey : String) (now : Int)
    (n limit : Nat) (window : Duration) :
    let r := settle clock eventKey counterKey now (Account.word window.clampedMillis)
      (Account.word limit) (Account.word n) events counter
    let t := a.take clock n limit window
    r.1 = t.1.map verdictEnd ∧ r.2.1.IsMarkers ∧ r.2.2.Counts t.2 := by
  obtain ⟨removed, events', hremove, hevents'⟩ :=
    Slot.removeByScore_of_isMarkers (hevents.live clock) eventKey Text.minInt
      (Text.clampWord (now - Account.word window.clampedMillis))
  have hadd := hcounter.incrBy clock counterKey (Account.word_le n)
  simp only [settle, hremove, Account.take]
  by_cases hover : 9223372036854775807 < (a.asOf clock).used + Account.word n
  · -- the sum leaves the signed range
    rw [if_pos hover] at hadd
    obtain ⟨s', hincr, hs'⟩ := hadd
    simp only [hincr, hover, if_true]
    exact ⟨rfl, hevents', hs'⟩
  rw [if_neg hover] at hadd
  simp only [hadd, hover, if_false]
  by_cases hfit : (a.asOf clock).used + Account.word n ≤ Account.word limit
  · -- admitted
    have hlimit : ¬ ((Account.word limit : Nat) : Int) <
        ((a.asOf clock).used : Int) + (Account.word n : Nat) := by omega
    simp only [hlimit, hfit, if_false, if_true]
    refine ⟨rfl, (isMarkers_marked hevents' clock eventKey now _).expire clock _, ?_⟩
    have hsum : ((a.asOf clock).used : Int) + (Account.word n : Nat) =
        (((a.asOf clock).used + Account.word n : Nat) : Int) := by omega
    simp only [Slot.expire, Slot.live_of_asOf, hsum]
    exact .held _ _
  · -- denied: what was added is taken back
    have hlimit : ((Account.word limit : Nat) : Int) <
        ((a.asOf clock).used : Int) + (Account.word n : Nat) := by omega
    simp only [hlimit, hfit, if_false, if_true, Text.negation?_natCast]
    rw [Slot.incrBy_neg counterKey (by omega) (by omega) (Slot.live_of_asOf ..)]
    exact ⟨rfl, hevents', .held _ _⟩

end SlidingScript

end Turnstile
