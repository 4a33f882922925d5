/-
**What a decision leaves behind.**

A decision changes its two slots in up to six steps, four of which can fail.  Yet what it leaves is
said in two sentences, whatever the slots held before.  If it admits nothing, the counter reads as
it did, and the markers have lost at most those out of the window: nothing can fail any more once
the counter has been raised, and what a denial takes back is exactly what was added.  If it admits,
the counter has grown by the events and is within the limit, their markers have joined those that
are still in the window, and both slots expire together.

A counter is read as a zero without expiry where nothing is left of it, which is how a decision
reads it.

Main definitions:

* `Slot.counted` — a counter slot as a decision reads it;
* `SlidingScript.Ends` — what the script leaves, by whether it admits.

Main results:

* `Slot.incrBy_eq` — adding to a counter in terms of what it is read as;
* `SlidingScript.ends_settle` — the script ends in no other way;
* `SlidingWindow.leaves_allowN` — **what a decision leaves**, on any keyspace.
-/

import Turnstile.Proofs.Limiter.Booking
import Turnstile.Proofs.Limiter.Markers
import Turnstile.Proofs.Limiter.Stretch

set_option relaxedAutoImplicit false
set_option autoImplicit false

namespace Turnstile

open SlidingScript (counterKey counterKey_ne recent marked marker keyTtl settle)

/-! ### Counters as they are read -/

namespace Slot

variable {now : Nat} {s : Slot} {v k : Int} {expiry : Option Nat}

/-- A counter slot as a decision reads it: a zero without expiry where nothing is left. -/
def counted (now : Nat) (s : Slot) : Entry := (live now s).getD ⟨.int 0, none⟩

theorem expired_counted (now : Nat) (s : Slot) : (counted now s).expired now = false := by
  unfold counted
  cases h : live now s with
  | none => rfl
  | some e => exact (eq_of_live_eq_some h).2

/-- What is left of a counter is read as the counter is. -/
theorem counted_live (now : Nat) (s : Slot) : counted now (live now s) = counted now s := by
  rw [counted, live_live (Nat.le_refl now), counted]

/-- An integer that replaces what is read, with the same expiry, has not expired. -/
theorem live_of_counted (h : counted now s = ⟨.int v, expiry⟩) (k : Int) :
    live now (some ⟨.int k, expiry⟩) = some ⟨.int k, expiry⟩ := by
  have hexpired := expired_counted now s
  rw [h] at hexpired
  exact live_of_not_expired hexpired

/-- **Adding to a counter** adds to what it is read as, and keeps the expiry. -/
theorem incrBy_eq (now : Nat) (key : String) (hk : Text.fitsWord k = true) (s : Slot) :
    incrBy now key k s =
      match counted now s with
      | ⟨.int v, expiry⟩ =>
          if Text.fitsWord (v + k) then (.ok (v + k), some ⟨.int (v + k), expiry⟩)
          else (.error Keyspace.overflow, live now s)
      | ⟨.set _, _⟩ => (.error (.wrongType key), live now s) := by
  unfold incrBy counted
  rcases live now s with _ | ⟨v | members, expiry⟩
  · simp [hk]
  · rfl
  · rfl

end Slot

/-! ### How the script ends -/

namespace SlidingScript

/-- What the script leaves.  If it admits nothing, the counter is read as it was, and the markers
out of the window are gone.  If it admits, it found an integer that is within the limit together
with the events, and both slots expire together. -/
inductive Ends (clock : Nat) (key : String) (now window limit : Int) (n : Nat)
    (events counter : Slot) : Except StoreError ScriptEnd × Slot × Slot → Prop
  | spares (reply : Except StoreError ScriptEnd) (left : Slot)
      (refused : reply ≠ .ok (.replied (.int 1)))
      (same : left.counted clock = counter.counted clock) :
      Ends clock key now window limit n events counter
        (reply, recent clock key now window events, left)
  | admits (v : Int) (expiry : Option Nat) (found : counter.counted clock = ⟨.int v, expiry⟩)
      (within : v + n ≤ limit) (markers : (recent clock key now window events).IsMarkers) :
      Ends clock key now window limit n events counter
        (.ok (.replied (.int 1)),
          (Slot.expire clock (keyTtl window)
            (marked clock key now n (recent clock key now window events))).2,
          some ⟨.int (v + n), some (Keyspace.expiryAfter clock (keyTtl window))⟩)

/-- **The script ends in no other way**, whatever the two slots hold.  Once the counter has been
raised nothing can fail: the markers are known to be a set, and what was added can be taken back. -/
theorem ends_settle (clock : Nat) (key counterKey : String) (now window : Int) {limit : Int}
    {n : Nat} (hlimit : 0 ≤ limit) (hn : n ≤ 9223372036854775807) (events counter : Slot) :
    Ends clock key now window limit n events counter
      (settle clock key counterKey now window limit n events counter) := by
  have hkept : (Slot.removeByScore clock key Text.minInt (Text.clampWord (now - window)) events).2 =
      recent clock key now window events := rfl
  have hword : Text.fitsWord (n : Int) = true := by
    rw [Text.fitsWord_iff]
    unfold Text.minInt Text.maxInt
    omega
  have hminus : Text.fitsWord (-(n : Int)) = true := by
    rw [Text.fitsWord_iff]
    unfold Text.minInt Text.maxInt
    omega
  unfold settle
  rcases hremove : Slot.removeByScore clock key Text.minInt (Text.clampWord (now - window)) events
    with ⟨e | removed, events'⟩
  · obtain rfl : events' = recent clock key now window events := by rw [← hkept, hremove]
    exact .spares _ counter nofun rfl
  have hmarkers : events'.IsMarkers := Slot.isMarkers_of_removeByScore_ok hremove
  obtain rfl : events' = recent clock key now window events := by rw [← hkept, hremove]
  simp only [Slot.incrBy_eq clock counterKey hword]
  rcases hfound : counter.counted clock with ⟨v | members, expiry⟩
  · by_cases hfits : Text.fitsWord (v + n) = true
    · simp only [hfits, if_true]
      have hlive := Slot.live_of_counted hfound
      by_cases hover : limit < v + n
      · -- the sum was a word and is beyond the limit, so what was counted before is a word too
        have hback : Text.fitsWord v = true := by
          rw [Text.fitsWord_iff] at hfits ⊢
          unfold Text.minInt Text.maxInt at hfits ⊢
          omega
        have hsum : Slot.counted clock (some ⟨.int (v + n), expiry⟩) = ⟨.int (v + n), expiry⟩ := by
          rw [Slot.counted, hlive]
          rfl
        have hdown : Slot.incrBy clock counterKey (-n) (some ⟨.int (v + n), expiry⟩) =
            (.ok v, some ⟨.int v, expiry⟩) := by
          rw [Slot.incrBy_eq clock counterKey hminus, hsum]
          simp only [Int.add_neg_cancel_right, hback, if_true]
        simp only [hover, if_true, Text.negation?_natCast, hdown]
        refine .spares _ _ (by simp) ?_
        rw [Slot.counted, hlive, hfound]
        rfl
      · simp only [hover, if_false, Slot.expire_eq_of_live (hlive _)]
        exact .admits v expiry hfound (Int.not_lt.1 hover) hmarkers
    · simp only [hfits, Bool.false_eq_true, if_false]
      exact .spares _ _ nofun (Slot.counted_live clock counter)
  · exact .spares _ _ nofun (Slot.counted_live clock counter)

end SlidingScript

/-! ### What a decision leaves -/

namespace Visit

/-- The time that a decision writes: the limiter's clock as a word. -/
def time (v : Visit) : Int := Account.word v.clock

/-- A score is out of the window of a decision. -/
def Stale (v : Visit) (score : Int) : Prop :=
  Text.minInt ≤ score ∧ score ≤ v.time - Account.word v.window.clampedMillis

/-- A marker is one of those that a decision writes. -/
def Marks (v : Visit) (m : String) : Prop := ∃ i, 1 ≤ i ∧ i ≤ Account.word v.n ∧ m = marker v.time i

/-- What a decision leaves of a keyspace, by what it answers. -/
structure Leaves (v : Visit) (ks : Keyspace) (r : Except LimiterError Bool × Keyspace) : Prop where
  /-- Unless it admits, the counter reads as it did, and no marker in the window is lost. -/
  spares : r.1 ≠ .ok true →
    Slot.counted v.call.now (r.2.get? (counterKey v.key)) =
        Slot.counted v.call.now (ks.get? (counterKey v.key)) ∧
      Slot.Loses v.Stale (Slot.live v.call.now (ks.get? v.key))
        (Slot.live v.call.now (r.2.get? v.key))
  /-- If it admits, the counter grew within the limit, the new markers join those in the window, and
  both slots expire together. -/
  admits : r.1 = .ok true → ∃ (used : Int) (members : Table Int),
    (Slot.counted v.call.now (ks.get? (counterKey v.key))).value = .int used ∧
      used + Account.word v.n ≤ Account.word v.limit ∧
      r.2.get? (counterKey v.key) =
        some ⟨.int (used + Account.word v.n), some (Account.lapseAfter v.call.now v.window)⟩ ∧
      r.2.get? v.key = some ⟨.set members, some (Account.lapseAfter v.call.now v.window)⟩ ∧
      ∀ m score, members.get? m = some score ↔
        v.Marks m ∧ score = v.time ∨
          ¬ v.Marks m ∧ Slot.score? (Slot.live v.call.now (ks.get? v.key)) m = some score ∧
            ¬ v.Stale score
  /-- Unless it fails, no marker is left that is out of the window. -/
  evicts : ∀ admitted, r.1 = .ok admitted → ∀ m score,
    Slot.score? (Slot.live v.call.now (r.2.get? v.key)) m = some score → ¬ v.Stale score
  /-- No other key changes. -/
  aside : ∀ key, key ≠ v.key → key ≠ counterKey v.key → r.2.get? key = ks.get? key

/-- A window ends in the range of words. -/
theorem clampWord_cut (v : Visit) :
    Text.clampWord (v.time - Account.word v.window.clampedMillis) =
      v.time - Account.word v.window.clampedMillis := by
  have hclock := Account.word_le v.clock
  have hwindow := Account.word_le v.window.clampedMillis
  refine Text.clampWord_of_fits (Text.fitsWord_iff.2 ?_)
  unfold time Text.minInt Text.maxInt
  omega

/-- The time of a decision is in its window. -/
theorem not_stale_time (v : Visit) (hwindow : 1 ≤ v.window.millis) : ¬ v.Stale v.time := by
  rintro ⟨-, hle⟩
  unfold Account.word Duration.clampedMillis maxWord at hle
  omega

/-- What a decision keeps of the markers, before it adds any. -/
def kept (v : Visit) (events : Slot) : Slot :=
  recent v.call.now v.key v.time (Account.word v.window.clampedMillis) events

theorem loses_kept (v : Visit) (events : Slot) :
    Slot.Loses v.Stale (Slot.live v.call.now events) (v.kept events) := by
  rw [kept, recent, clampWord_cut]
  exact Slot.loses_removeByScore ..

theorem live_kept (v : Visit) (events : Slot) :
    Slot.live v.call.now (v.kept events) = v.kept events :=
  Slot.live_removeByScore ..

theorem score?_kept (v : Visit) (events : Slot) (m : String) (score : Int) :
    Slot.score? (v.kept events) m = some score ↔
      Slot.score? (Slot.live v.call.now events) m = some score ∧ ¬ v.Stale score := by
  rw [kept, recent, clampWord_cut]
  exact Slot.score?_removeByScore ..

/-- The markers after an admission: its own, and those in the window. -/
theorem exists_members (v : Visit) {events : Slot} (hn : 1 ≤ v.n)
    (markers : Slot.IsMarkers (v.kept events)) :
    ∃ members, (Slot.expire v.call.now (keyTtl (Account.word v.window.clampedMillis))
        (marked v.call.now v.key v.time (Account.word v.n) (v.kept events))).2 =
        some ⟨.set members, some (Account.lapseAfter v.call.now v.window)⟩ ∧
      ∀ m score, members.get? m = some score ↔
        v.Marks m ∧ score = v.time ∨
          ¬ v.Marks m ∧ Slot.score? (Slot.live v.call.now events) m = some score ∧
            ¬ v.Stale score := by
  have hmembers := Slot.score?_marked markers (v.live_kept events) v.key v.time (Account.word v.n)
  have hlive := Slot.live_marked (v.live_kept events) v.key v.time (Account.word v.n)
  -- an event at least is admitted, so there is a set by now
  have hone : 1 ≤ Account.word v.n := by
    unfold Account.word
    omega
  obtain ⟨members, expiry, hset⟩ := Slot.set_of_score?
    ((hmembers (marker v.time 1) v.time).2 (Or.inl ⟨⟨1, Nat.le_refl 1, hone, rfl⟩, rfl⟩))
  rw [hset] at hmembers hlive
  refine ⟨members, ?_, fun m score => ?_⟩
  · rw [hset, Slot.expire_eq_of_live hlive]
    rfl
  · rw [← v.score?_kept events m score]
    exact hmembers m score

/-- **What a decision leaves** of any keyspace. -/
theorem leaves_pay (v : Visit) (ks : Keyspace) : v.Leaves ks (v.pay ks) := by
  cases hbar : v.bar? with
  | some e =>
      rw [pay_of_bar hbar]
      exact ⟨fun _ => ⟨rfl, .nothing _⟩, nofun, nofun, fun _ _ _ => rfl⟩
  | none =>
      have hevents (a b : Slot) :
          ((ks.assign v.key a).assign (counterKey v.key) b).get? v.key = a := by
        rw [Keyspace.get?_assign_of_ne _ (counterKey_ne v.key), Keyspace.get?_assign_self]
      have hends := SlidingScript.ends_settle v.call.now v.key (counterKey v.key) v.time
        (Account.word v.window.clampedMillis) (Int.natCast_nonneg (Account.word v.limit))
        (Account.word_le v.n) (ks.get? v.key) (ks.get? (counterKey v.key))
      have haside (key : String) (hkey : key ≠ v.key) (hcounter : key ≠ counterKey v.key) :
          (v.pay ks).2.get? key = ks.get? key :=
        v.get?_pay_of_ne ks hkey.symm hcounter.symm
      rw [pay_eq, onSlots, hbar] at haside ⊢
      change SlidingScript.Ends _ _ _ _ _ _ _ _ (settle v.call.now v.key (counterKey v.key)
        (Account.word v.clock) _ _ _ _ _) at hends
      simp only at haside ⊢
      generalize settle v.call.now v.key (counterKey v.key) (Account.word v.clock)
        (Account.word v.window.clampedMillis) (Account.word v.limit) (Account.word v.n)
        (ks.get? v.key) (ks.get? (counterKey v.key)) = r at hends haside ⊢
      cases hends with
      | spares reply left refused same =>
          refine ⟨fun _ => ⟨?_, ?_⟩, fun hadmitted => ?_, fun _ _ m score hm => ?_, haside⟩
          · rw [Keyspace.get?_assign_self]
            exact same
          · rw [hevents]
            change Slot.Loses _ _ (Slot.live v.call.now (v.kept (ks.get? v.key)))
            rw [v.live_kept]
            exact v.loses_kept (ks.get? v.key)
          · exact absurd (SlidingWindow.readReply_eq_true_iff.1 hadmitted) refused
          · rw [hevents] at hm
            change Slot.score? (Slot.live v.call.now (v.kept (ks.get? v.key))) m = some score at hm
            rw [v.live_kept] at hm
            exact ((v.score?_kept _ m score).1 hm).2
      | admits used expiry found within markers =>
          obtain ⟨⟨hn, hwindow⟩, -⟩ := bar?_eq_none_iff.1 hbar
          obtain ⟨members, hset, hmembers⟩ := v.exists_members hn markers
          refine ⟨fun hrefused => absurd rfl hrefused, fun _ => ?_, fun _ _ m score hm => ?_,
            haside⟩
          · refine ⟨used, members, by rw [found], within, ?_, ?_, hmembers⟩
            · rw [Keyspace.get?_assign_self]
              rfl
            · rw [hevents]
              exact hset
          · have hget : members.get? m = some score := by
              rw [hevents] at hm
              change Slot.score? (Slot.live v.call.now (Slot.expire _ _ (marked _ _ _ _
                (v.kept (ks.get? v.key)))).2) m = some score at hm
              rw [hset, Slot.score?_live_set] at hm
              exact (Option.ite_none_left_eq_some.1 hm).2
            obtain ⟨-, rfl⟩ | ⟨-, -, hfresh⟩ := (hmembers m score).1 hget
            · exact v.not_stale_time hwindow
            · exact hfresh

end Visit

/-- **What a decision leaves**, on any keyspace and in any setting of clocks, contexts and
faults. -/
theorem SlidingWindow.leaves_allowN (l : SlidingWindow) (ctx : ContextId) (key : String)
    (n limit : Nat) (window : Duration) (s : Setting) (ks : Keyspace) :
    (Visit.within s l.clock ctx key n limit window).Leaves ks
      ((l.allowN ctx key n limit window).on s ks) := by
  rw [on_allowN]
  exact Visit.leaves_pay _ ks

end Turnstile
