/-
**The arithmetic of the script, at the ends of the range.**

The script computes with signed 64-bit words that its caller chooses and a counter that any earlier
call may have left.  Each of its steps has a guard of its own.  The end of the window is clamped,
the sum of the counter is checked, the lifetime of the keys is a short word and cannot leave the
range, and their expiry is clamped to the largest time.  One step has no guard: to take back what
was added, a denial adds the negation of `n`, and the least word has none.  So the script ends in
one of six ways, and in five of them its arithmetic is that of unbounded integers: it admits exactly
what fits the limit, and whenever it does not admit, the counter reads as before.  In the sixth one
`n` is the least word and the sum is beyond the limit.  Then the script is aborted before anything is
taken back, and the counter has lost 2⁶³.

Main definitions:

* `Keyspace.reading` — the integer of a key as it counts, zero where nothing is left;
* `SlidingScript.Course` — the ways in which the script ends on words;
* `SlidingScript.Aborts` — the circumstances in which it is aborted;
* `SlidingScript.Effect` — what it answers and leaves, in unbounded arithmetic.

Main results:

* `SlidingScript.course_settle` — the script ends in no other way;
* `SlidingScript.clampedMillis_keyTtl` — the lifetime of the keys is exact for every word;
* `SlidingScript.staysReachable_decide` — the script leaves a reachable keyspace;
* `MemoryStore.eval_effect` — **what an evaluation on words does**;
* `MemoryStore.eval_aborts` — a call that is aborted, and a counter that reads less after it.
-/

import Turnstile.Proofs.Limiter.PostState
import Turnstile.Proofs.Store.Words

set_option relaxedAutoImplicit false
set_option autoImplicit false

namespace Turnstile

open SlidingScript (recent marked marker keyTtl settle)

/-! ### Readings -/

namespace Slot

/-- The integer of a slot as it counts: zero where nothing is left. -/
def reading (now : Nat) (key : String) (s : Slot) : Except StoreError Int :=
  match counted now s with
  | ⟨.int v, _⟩ => .ok v
  | ⟨.set _, _⟩ => .error (.wrongType key)

variable {now later : Nat} {s : Slot}

/-- What a counter is read as is read the same way ever after. -/
theorem counted_counted (h : now ≤ later) (s : Slot) :
    counted later (some (counted now s)) = counted later s := by
  have hlive := live_live h s
  rw [counted, counted, counted, ← hlive]
  cases live now s <;> rfl

/-- Slots that read the same way do so ever after. -/
theorem reading_congr {s' : Slot} (h : now ≤ later) (same : counted now s' = counted now s)
    (key : String) : reading later key s' = reading later key s := by
  unfold reading
  rw [← counted_counted h s', ← counted_counted h s, same]

theorem reading_of_counted {v : Int} {expiry : Option Nat} (h : counted now s = ⟨.int v, expiry⟩)
    (key : String) : reading now key s = .ok v := by
  rw [reading, h]

theorem exists_counted_of_reading {key : String} {v : Int} (h : reading now key s = .ok v) :
    ∃ expiry, counted now s = ⟨.int v, expiry⟩ := by
  unfold reading at h
  rcases hs : counted now s with ⟨w | members, expiry⟩ <;> rw [hs] at h
  · exact ⟨expiry, by rw [Except.ok.inj h]⟩
  · exact nomatch h

/-- A new expiry changes no member. -/
theorem score?_expire (h : live now s = s) (ttl : Duration) (m : String) :
    score? (expire now ttl s).2 m = score? s m := by
  rw [expire, h]
  rcases s with _ | ⟨_ | _, _⟩ <;> rfl

theorem expiry_of_expire {ttl : Duration} {e : Entry} (h : (expire now ttl s).2 = some e) :
    e.expiresAt = some (Keyspace.expiryAfter now ttl) := by
  unfold expire at h
  cases hs : live now s with
  | none => simp [hs] at h
  | some e' =>
      simp only [hs, Option.some.injEq] at h
      exact h ▸ rfl

/-- What is read in a slot of words is a word. -/
theorem Words.fits_of_counted (h : s.Words) {v : Int} {expiry : Option Nat}
    (hv : counted now s = ⟨.int v, expiry⟩) : Text.fitsWord v = true := by
  have hlive := h.live now
  unfold counted at hv
  cases hs : Slot.live now s with
  | none =>
      rw [hs] at hv
      obtain ⟨rfl, -⟩ := Entry.mk.inj hv |>.imp_left Value.int.inj
      decide
  | some e =>
      rw [hs] at hv hlive
      obtain rfl : e = ⟨.int v, expiry⟩ := hv
      exact hlive.int

end Slot

namespace Keyspace

/-- The integer of a key at a time as it counts: zero where the key is absent or has expired. -/
def reading (ks : Keyspace) (now : Nat) (key : String) : Except StoreError Int :=
  (ks.int? now key).1.map fun v => v.getD 0

theorem reading_eq (ks : Keyspace) (now : Nat) (key : String) :
    ks.reading now key = Slot.reading now key (ks.get? key) := by
  unfold reading int? Slot.reading Slot.counted
  simp only [purge_eq, get?_assign_self]
  rcases Slot.live now (ks.get? key) with _ | ⟨v | members, expiry⟩ <;> rfl

/-- The markers of a key can be counted if what is left there is no integer. -/
theorem cardinality_ok_iff (ks : Keyspace) (now : Nat) (key : String) :
    (∃ size, (ks.cardinality now key).1 = .ok size) ↔ (Slot.live now (ks.get? key)).IsMarkers := by
  unfold cardinality
  simp only [purge_eq, get?_assign_self]
  rcases Slot.live now (ks.get? key) with _ | ⟨v | members, expiry⟩ <;> simp

end Keyspace

namespace SlidingScript

variable {clock : Nat} {eventKey counterKey : String} {now window limit n : Int}

/-! ### How the script ends on words -/

/-- Removing markers fails exactly on an integer. -/
theorem removeByScore_eq_recent (clock : Nat) (eventKey : String) (now window : Int)
    (events : Slot) :
    (∃ removed, (Slot.live clock events).IsMarkers ∧
        Slot.removeByScore clock eventKey Text.minInt (Text.clampWord (now - window)) events =
          (.ok removed, recent clock eventKey now window events)) ∨
      ¬ (Slot.live clock events).IsMarkers ∧
        Slot.removeByScore clock eventKey Text.minInt (Text.clampWord (now - window)) events =
          (.error (.wrongType eventKey), recent clock eventKey now window events) := by
  unfold recent Slot.removeByScore
  rcases Slot.live clock events with _ | ⟨v | members, expiry⟩
  · exact .inl ⟨0, trivial, rfl⟩
  · exact .inr ⟨fun h => h, rfl⟩
  · exact .inl ⟨_, trivial, rfl⟩

/-- The ways in which the script ends on words: it finds a value of another type under one of its
keys, the sum is no word, the sum is beyond the limit and is taken back or its last term has no
negation, or the events are admitted. -/
inductive Course (clock : Nat) (eventKey counterKey : String) (now window limit n : Int)
    (events counter : Slot) : Except StoreError ScriptEnd × Slot × Slot → Prop
  | strayEvents (stray : ¬ (events.live clock).IsMarkers) :
      Course clock eventKey counterKey now window limit n events counter
        (.error (.wrongType eventKey), recent clock eventKey now window events, counter)
  | strayCounter (members : Table Int) (expiry : Option Nat)
      (found : counter.counted clock = ⟨.set members, expiry⟩) :
      Course clock eventKey counterKey now window limit n events counter
        (.error (.wrongType counterKey), recent clock eventKey now window events,
          counter.live clock)
  | overflows (v : Int) (expiry : Option Nat) (found : counter.counted clock = ⟨.int v, expiry⟩)
      (sum : Text.fitsWord (v + n) = false) :
      Course clock eventKey counterKey now window limit n events counter
        (.error Keyspace.overflow, recent clock eventKey now window events, counter.live clock)
  | denies (v : Int) (expiry : Option Nat) (found : counter.counted clock = ⟨.int v, expiry⟩)
      (sum : Text.fitsWord (v + n) = true) (beyond : limit < v + n) (least : n ≠ Text.minInt) :
      Course clock eventKey counterKey now window limit n events counter
        (.ok (.replied (.int 0)), recent clock eventKey now window events,
          some ⟨.int v, expiry⟩)
  | aborts (v : Int) (expiry : Option Nat) (markers : (events.live clock).IsMarkers)
      (found : counter.counted clock = ⟨.int v, expiry⟩) (beyond : limit < v + n)
      (least : n = Text.minInt) :
      Course clock eventKey counterKey now window limit n events counter
        (.ok .aborted, recent clock eventKey now window events, some ⟨.int (v + n), expiry⟩)
  | admits (v : Int) (expiry : Option Nat) (markers : (events.live clock).IsMarkers)
      (found : counter.counted clock = ⟨.int v, expiry⟩) (sum : Text.fitsWord (v + n) = true)
      (within : v + n ≤ limit) :
      Course clock eventKey counterKey now window limit n events counter
        (.ok (.replied (.int 1)),
          (Slot.expire clock (keyTtl window)
            (marked clock eventKey now n.toNat (recent clock eventKey now window events))).2,
          some ⟨.int (v + n), some (Keyspace.expiryAfter clock (keyTtl window))⟩)

/-- What was added is taken back, if it has a negation. -/
theorem incrBy_back {v : Int} {expiry : Option Nat} (hv : Text.fitsWord v = true)
    (hn : Text.fitsWord n = true) (hleast : n ≠ Text.minInt)
    (hlive : ∀ w, Slot.live clock (some ⟨.int w, expiry⟩) = some ⟨.int w, expiry⟩) :
    Slot.incrBy clock counterKey (-n) (some ⟨.int (v + n), expiry⟩) =
      (.ok v, some ⟨.int v, expiry⟩) := by
  have hsum : Slot.counted clock (some ⟨.int (v + n), expiry⟩) = ⟨.int (v + n), expiry⟩ := by
    rw [Slot.counted, hlive]
    rfl
  rw [Slot.incrBy_eq clock counterKey (Text.fitsWord_neg hn hleast), hsum]
  simp only [Int.add_neg_cancel_right, hv, if_true]

/-- **The script ends in no other way** on words. -/
theorem course_settle (hn : Text.fitsWord n = true) {counter : Slot} (hcounter : counter.Words)
    (clock : Nat) (eventKey counterKey : String) (now window limit : Int) (events : Slot) :
    Course clock eventKey counterKey now window limit n events counter
      (settle clock eventKey counterKey now window limit n events counter) := by
  unfold settle
  rcases removeByScore_eq_recent clock eventKey now window events with
    ⟨removed, hmarkers, hremove⟩ | ⟨hstray, hremove⟩
  · simp only [hremove, Slot.incrBy_eq clock counterKey hn]
    rcases hfound : counter.counted clock with ⟨v | members, expiry⟩
    · have hlive := Slot.live_of_counted hfound
      cases hsum : Text.fitsWord (v + n) with
      | false =>
          simp only [hsum, Bool.false_eq_true, if_false]
          exact .overflows v expiry hfound hsum
      | true =>
          simp only [hsum, if_true]
          by_cases hlimit : limit < v + n
          · simp only [hlimit, if_true]
            by_cases hleast : n = Text.minInt
            · rw [Text.negation?_eq_none_iff.2 hleast]
              exact .aborts v expiry hmarkers hfound hlimit hleast
            · simp only [Text.negation?_of_ne hleast,
                incrBy_back (hcounter.fits_of_counted hfound) hn hleast hlive]
              exact .denies v expiry hfound hsum hlimit hleast
          · simp only [hlimit, if_false, Slot.expire_eq_of_live (hlive _)]
            exact .admits v expiry hmarkers hfound hsum (Int.not_lt.1 hlimit)
    · exact .strayCounter members expiry hfound
  · simp only [hremove]
    exact .strayEvents hstray

/-! ### Lifetimes -/

/-- The lifetime of the keys is exact for every word: the window in whole seconds, rounded up, and
one second more, or one second for a window before zero. -/
theorem clampedMillis_keyTtl (h : Text.fitsWord window = true) :
    (keyTtl window).clampedMillis = 1000 * (((max window 0).toNat + 999) / 1000 + 1) := by
  have hmax : window ≤ 9223372036854775807 := (Text.fitsWord_iff.1 h).2
  simp only [keyTtl, Duration.clampedMillis, Duration.millis, Duration.ofSecs,
    Duration.nanos_ofNanos, Duration.maxNanos, maxWord]
  omega

/-- When the keys of an admission expire. -/
def lapse (clock : Nat) (window : Int) : Nat :=
  min (clock + 1000 * (((max window 0).toNat + 999) / 1000 + 1)) maxWord

theorem expiryAfter_keyTtl (h : Text.fitsWord window = true) (clock : Nat) :
    Keyspace.expiryAfter clock (keyTtl window) = lapse clock window := by
  rw [Keyspace.expiryAfter, clampedMillis_keyTtl h, lapse]

/-! ### The script is made of commands -/

/-- The script leaves a reachable keyspace. -/
theorem staysReachable_decide (hnow : Text.fitsWord now = true) (hn : Text.fitsWord n = true)
    (clock : Nat) (eventKey counterKey : String) (window limit : Int) :
    (decide clock eventKey counterKey now window limit n).StaysReachable := by
  have hincr {k : Int} (hk : Text.fitsWord k = true) :
      (KeyspaceM.attempt fun ks => ks.incrBy clock counterKey k).StaysReachable :=
    .attempt (c := .incrBy counterKey k) hk clock fun _ => rfl
  have hexpire (key : String) :
      (KeyspaceM.always fun ks => ks.expire clock key (keyTtl window)).StaysReachable :=
    .always (c := .expire key (keyTtl window)) trivial clock fun _ => rfl
  have hadd (m : String) :
      (KeyspaceM.attempt fun ks => ks.addMember clock eventKey now m).StaysReachable :=
    .attempt (c := .addMember eventKey now m) hnow clock fun _ => rfl
  have hremove : (KeyspaceM.attempt fun ks => ks.removeByScore clock eventKey Text.minInt
      (Text.clampWord (now - window))).StaysReachable :=
    .attempt (c := .removeByScore eventKey Text.minInt (Text.clampWord (now - window)))
      ⟨by decide, Text.fitsWord_clampWord _⟩ clock fun _ => rfl
  refine hremove.bind fun _ => (hincr hn).bind fun count => ?_
  split
  · by_cases hleast : n = Text.minInt
    · rw [Text.negation?_eq_none_iff.2 hleast]
      exact .pure _
    · rw [Text.negation?_of_ne hleast]
      exact (hincr (Text.fitsWord_neg hn hleast)).bind fun _ => .pure _
  · refine .bind (.forM fun i => (hadd _).bind fun _ => .pure _) fun _ => ?_
    exact (hexpire eventKey).bind fun _ => (hexpire counterKey).bind fun _ => .pure _

/-! ### What the script does -/

/-- The script is aborted: it is to take the least word back, which has no negation. -/
def Aborts (clock : Nat) (eventKey counterKey : String) (limit n : Int) (ks : Keyspace) : Prop :=
  n = Text.minInt ∧ (∃ size, (ks.cardinality clock eventKey).1 = .ok size) ∧
    ∃ v, ks.reading clock counterKey = .ok v ∧ limit < v + n

/-- How the script ends and what it leaves, in unbounded arithmetic. -/
structure Effect (clock : Nat) (eventKey counterKey : String) (now window limit n : Int)
    (ks : Keyspace) (r : Except StoreError ScriptEnd × Keyspace) : Prop where
  /-- It admits, denies, fails as a script or on a value of another type, or is aborted. -/
  answers : r.1 = .ok (.replied (.int 0)) ∨ r.1 = .ok (.replied (.int 1)) ∨
    r.1 = .error Keyspace.overflow ∨ r.1 = .error (.wrongType eventKey) ∨
    r.1 = .error (.wrongType counterKey) ∨ r.1 = .ok .aborted
  /-- It is aborted in these circumstances and in no other ones. -/
  aborted_iff : r.1 = .ok .aborted ↔ Aborts clock eventKey counterKey limit n ks
  /-- Unless it admits or is aborted, the counter reads as before, then and ever after. -/
  keeps : r.1 ≠ .ok (.replied (.int 1)) → r.1 ≠ .ok .aborted →
    ∀ later, clock ≤ later → r.2.reading later counterKey = ks.reading later counterKey
  /-- If it is aborted, it leaves the sum that it did not take back. -/
  loses : r.1 = .ok .aborted →
    ∃ v, ks.reading clock counterKey = .ok v ∧ r.2.reading clock counterKey = .ok (v + n)
  /-- A denial found a sum beyond the limit. -/
  denies : r.1 = .ok (.replied (.int 0)) → ∃ v, ks.reading clock counterKey = .ok v ∧
    Text.fitsWord (v + n) = true ∧ limit < v + n
  /-- An admission found a sum within the limit, and both keys expire together. -/
  admits : r.1 = .ok (.replied (.int 1)) → ∃ v, ks.reading clock counterKey = .ok v ∧
    Text.fitsWord (v + n) = true ∧ v + n ≤ limit ∧
    r.2.get? counterKey = some ⟨.int (v + n), some (lapse clock window)⟩ ∧
    ∀ e, r.2.get? eventKey = some e → e.expiresAt = some (lapse clock window)
  /-- The script fails in its arithmetic only where the sum is no word. -/
  overflows : r.1 = .error Keyspace.overflow →
    ∃ v, ks.reading clock counterKey = .ok v ∧ Text.fitsWord (v + n) = false
  /-- Whatever it answers, the markers left are those after the end of the window, with those of an
  admission. -/
  markers : ∀ m score, Slot.score? (r.2.get? eventKey) m = some score ↔
    let fresh := r.1 = .ok (.replied (.int 1)) ∧ ∃ i, 1 ≤ i ∧ i ≤ n.toNat ∧ m = marker now i
    fresh ∧ score = now ∨
      ¬ fresh ∧ Slot.score? (Slot.live clock (ks.get? eventKey)) m = some score ∧
        max (now - window) Text.minInt < score
  /-- No other key changes. -/
  aside : ∀ key, key ≠ eventKey → key ≠ counterKey → r.2.get? key = ks.get? key
  /-- What is left is reachable. -/
  reachable : r.2.Reachable

/-! ### What each way of ending leaves -/

/-- What is left of the markers, in unbounded arithmetic. -/
theorem score?_recent {events : Slot} (hevents : events.Words) (clock : Nat) (eventKey : String)
    (now window : Int) (m : String) (score : Int) :
    Slot.score? (recent clock eventKey now window events) m = some score ↔
      Slot.score? (Slot.live clock events) m = some score ∧
        max (now - window) Text.minInt < score := by
  rw [recent, Slot.score?_removeByScore]
  refine and_congr_right fun hm => ?_
  have hlive := hevents.live clock
  obtain ⟨members, expiry, hset⟩ := Slot.set_of_score? hm
  rw [hset] at hm hlive
  have hscore := Text.fitsWord_iff.1 (hlive.score hm)
  unfold Text.clampWord
  omega

theorem isMarkers_recent {events : Slot} (h : (events.live clock).IsMarkers) (eventKey : String)
    (now window : Int) : (recent clock eventKey now window events).IsMarkers := by
  obtain ⟨removed, s', hremove, hs'⟩ := Slot.removeByScore_of_isMarkers h eventKey Text.minInt
    (Text.clampWord (now - window))
  rw [recent, hremove]
  exact hs'

theorem aborts_iff {ks : Keyspace} :
    Aborts clock eventKey counterKey limit n ks ↔
      n = Text.minInt ∧ (Slot.live clock (ks.get? eventKey)).IsMarkers ∧
        ∃ v expiry, Slot.counted clock (ks.get? counterKey) = ⟨.int v, expiry⟩ ∧
          limit < v + n := by
  unfold Aborts
  rw [Keyspace.cardinality_ok_iff, Keyspace.reading_eq]
  refine and_congr_right fun _ => and_congr_right fun _ => ⟨?_, ?_⟩
  · rintro ⟨v, hv, hbeyond⟩
    obtain ⟨expiry, hexpiry⟩ := Slot.exists_counted_of_reading hv
    exact ⟨v, expiry, hexpiry, hbeyond⟩
  · rintro ⟨v, expiry, hexpiry, hbeyond⟩
    exact ⟨v, Slot.reading_of_counted hexpiry counterKey, hbeyond⟩

namespace Course

variable {events counter : Slot} {r : Except StoreError ScriptEnd × Slot × Slot}

theorem answers (h : Course clock eventKey counterKey now window limit n events counter r) :
    r.1 = .ok (.replied (.int 0)) ∨ r.1 = .ok (.replied (.int 1)) ∨
      r.1 = .error Keyspace.overflow ∨ r.1 = .error (.wrongType eventKey) ∨
      r.1 = .error (.wrongType counterKey) ∨ r.1 = .ok .aborted := by
  cases h <;> simp

/-- An integer that replaces what is read is read itself. -/
theorem counted_of_found {v : Int} {expiry : Option Nat}
    (h : counter.counted clock = ⟨.int v, expiry⟩) (w : Int) :
    Slot.counted clock (some ⟨.int w, expiry⟩) = ⟨.int w, expiry⟩ := by
  rw [Slot.counted, Slot.live_of_counted h]
  rfl

/-- Unless it admits or is aborted, the script leaves a counter that is read as it was. -/
theorem counted_eq (h : Course clock eventKey counterKey now window limit n events counter r)
    (hrefused : r.1 ≠ .ok (.replied (.int 1))) (hended : r.1 ≠ .ok .aborted) :
    r.2.2.counted clock = counter.counted clock := by
  cases h with
  | strayEvents => rfl
  | strayCounter | overflows => exact Slot.counted_live clock counter
  | denies v expiry found => rw [counted_of_found found, found]
  | aborts => exact absurd rfl hended
  | admits => exact absurd rfl hrefused

/-- A script that is aborted was to take the least word back, and leaves the sum. -/
theorem found_of_aborted
    (h : Course clock eventKey counterKey now window limit n events counter r)
    (haborted : r.1 = .ok .aborted) :
    n = Text.minInt ∧ (events.live clock).IsMarkers ∧
      ∃ v expiry, counter.counted clock = ⟨.int v, expiry⟩ ∧ limit < v + n ∧
        r.2.2.counted clock = ⟨.int (v + n), expiry⟩ := by
  cases h with
  | strayEvents | strayCounter | overflows => exact nomatch haborted
  | denies | admits => simp at haborted
  | aborts v expiry markers found beyond least =>
      exact ⟨least, markers, v, expiry, found, beyond, counted_of_found found _⟩

/-- A script that is to take the least word back is aborted. -/
theorem aborted (h : Course clock eventKey counterKey now window limit n events counter r)
    (hv : counter.Words) (hlimit : Text.fitsWord limit = true) (least : n = Text.minInt)
    (markers : (events.live clock).IsMarkers) {v : Int} {expiry : Option Nat}
    (found : counter.counted clock = ⟨.int v, expiry⟩) (beyond : limit < v + n) :
    r.1 = .ok .aborted := by
  cases h with
  | strayEvents stray => exact absurd markers stray
  | strayCounter _ _ found' => exact absurd (found.symm.trans found') (by simp)
  | overflows v' _ found' sum =>
      -- the sum is above a word, and not above the counter
      obtain ⟨rfl, -⟩ := Entry.mk.inj (found.symm.trans found') |>.imp_left Value.int.inj
      have hlow := (Text.fitsWord_iff.1 hlimit).1
      have hhigh := (Text.fitsWord_iff.1 (hv.fits_of_counted found)).2
      rw [Bool.eq_false_iff, ne_eq, Text.fitsWord_iff] at sum
      unfold Text.minInt Text.maxInt at *
      omega
  | denies _ _ _ _ _ least' => exact absurd least least'
  | aborts => rfl
  | admits _ _ _ found' _ within =>
      obtain ⟨rfl, -⟩ := Entry.mk.inj (found.symm.trans found') |>.imp_left Value.int.inj
      omega

/-- Whatever the script answers, the markers left are those after the end of the window, with those
of an admission. -/
theorem score?_iff (h : Course clock eventKey counterKey now window limit n events counter r)
    (hevents : events.Words) (m : String) (score : Int) :
    Slot.score? r.2.1 m = some score ↔
      let fresh := r.1 = .ok (.replied (.int 1)) ∧ ∃ i, 1 ≤ i ∧ i ≤ n.toNat ∧ m = marker now i
      fresh ∧ score = now ∨
        ¬ fresh ∧ Slot.score? (Slot.live clock events) m = some score ∧
          max (now - window) Text.minInt < score := by
  have hrecent := score?_recent hevents clock eventKey now window m score
  cases h with
  | strayEvents | strayCounter | overflows | denies | aborts =>
      simpa using hrecent
  | admits v expiry markers =>
      have hlive : Slot.live clock (recent clock eventKey now window events) = recent .. :=
        Slot.live_removeByScore ..
      have hmarked := Slot.score?_marked (isMarkers_recent markers eventKey now window) hlive
        eventKey now n.toNat m score
      rw [Slot.score?_expire (Slot.live_marked hlive eventKey now n.toNat)]
      simpa only [true_and, hrecent] using hmarked

/-- A denial found a sum beyond the limit. -/
theorem found_of_denied (h : Course clock eventKey counterKey now window limit n events counter r)
    (hdenied : r.1 = .ok (.replied (.int 0))) :
    ∃ v expiry, counter.counted clock = ⟨.int v, expiry⟩ ∧ Text.fitsWord (v + n) = true ∧
      limit < v + n := by
  cases h with
  | strayEvents | strayCounter | overflows => exact nomatch hdenied
  | denies v expiry found sum beyond => exact ⟨v, expiry, found, sum, beyond⟩
  | aborts | admits => simp at hdenied

/-- An admission found a sum within the limit, and both slots expire together. -/
theorem found_of_admitted
    (h : Course clock eventKey counterKey now window limit n events counter r)
    (hadmitted : r.1 = .ok (.replied (.int 1))) :
    ∃ v expiry, counter.counted clock = ⟨.int v, expiry⟩ ∧ Text.fitsWord (v + n) = true ∧
      v + n ≤ limit ∧
      r.2.2 = some ⟨.int (v + n), some (Keyspace.expiryAfter clock (keyTtl window))⟩ ∧
      ∀ e, r.2.1 = some e → e.expiresAt = some (Keyspace.expiryAfter clock (keyTtl window)) := by
  cases h with
  | strayEvents | strayCounter | overflows => exact nomatch hadmitted
  | denies | aborts => simp at hadmitted
  | admits v expiry markers found sum within =>
      exact ⟨v, expiry, found, sum, within, rfl, fun e he => Slot.expiry_of_expire he⟩

/-- The script fails in its arithmetic only where the sum is no word. -/
theorem found_of_overflow
    (h : Course clock eventKey counterKey now window limit n events counter r)
    (hfailed : r.1 = .error Keyspace.overflow) :
    ∃ v expiry, counter.counted clock = ⟨.int v, expiry⟩ ∧ Text.fitsWord (v + n) = false := by
  cases h with
  | strayEvents | strayCounter | denies | aborts | admits => exact nomatch hfailed
  | overflows v expiry found sum => exact ⟨v, expiry, found, sum⟩

end Course

/-- **The script has this effect** on any two slots that hold words. -/
theorem effect_decide {ks : Keyspace} (h : ks.Reachable) (hne : eventKey ≠ counterKey)
    (hnow : Text.fitsWord now = true) (hwindow : Text.fitsWord window = true)
    (hlimit : Text.fitsWord limit = true) (hn : Text.fitsWord n = true) (clock : Nat) :
    Effect clock eventKey counterKey now window limit n ks
      ((decide clock eventKey counterKey now window limit n).runOn ks) := by
  have hreachable := staysReachable_decide hnow hn clock eventKey counterKey window limit ks h
  have hcourse := course_settle hn (h.words counterKey) clock eventKey counterKey now window limit
    (ks.get? eventKey)
  rw [runOn_decide hne] at hreachable ⊢
  generalize settle clock eventKey counterKey now window limit n (ks.get? eventKey)
    (ks.get? counterKey) = r at hcourse hreachable ⊢
  have hevents : ((ks.assign eventKey r.2.1).assign counterKey r.2.2).get? eventKey = r.2.1 := by
    rw [Keyspace.get?_assign_of_ne _ (Ne.symm hne), Keyspace.get?_assign_self]
  have hcounter : ((ks.assign eventKey r.2.1).assign counterKey r.2.2).get? counterKey = r.2.2 :=
    Keyspace.get?_assign_self _ _ _
  have hreading {v : Int} {expiry : Option Nat}
      (found : Slot.counted clock (ks.get? counterKey) = ⟨.int v, expiry⟩) :
      ks.reading clock counterKey = .ok v := by
    rw [Keyspace.reading_eq, Slot.reading_of_counted found]
  refine ⟨hcourse.answers, ⟨fun haborted => ?_, fun haborts => ?_⟩,
    fun hrefused hended later hlater => ?_, fun haborted => ?_, fun hdenied => ?_,
    fun hadmitted => ?_, fun hfailed => ?_, fun m score => ?_, fun key hkey hkey' => ?_, hreachable⟩
  · obtain ⟨least, markers, v, expiry, found, beyond, -⟩ := hcourse.found_of_aborted haborted
    exact aborts_iff.2 ⟨least, markers, v, expiry, found, beyond⟩
  · obtain ⟨least, markers, v, expiry, found, beyond⟩ := aborts_iff.1 haborts
    exact hcourse.aborted (h.words counterKey) hlimit least markers found beyond
  · rw [Keyspace.reading_eq, Keyspace.reading_eq, hcounter]
    exact Slot.reading_congr hlater (hcourse.counted_eq hrefused hended) counterKey
  · obtain ⟨-, -, v, expiry, found, -, hleft⟩ := hcourse.found_of_aborted haborted
    refine ⟨v, hreading found, ?_⟩
    rw [Keyspace.reading_eq, hcounter, Slot.reading_of_counted hleft]
  · obtain ⟨v, expiry, found, sum, beyond⟩ := hcourse.found_of_denied hdenied
    exact ⟨v, hreading found, sum, beyond⟩
  · obtain ⟨v, expiry, found, sum, within, hleft, hexpiry⟩ := hcourse.found_of_admitted hadmitted
    rw [hevents, hcounter, ← expiryAfter_keyTtl hwindow]
    exact ⟨v, hreading found, sum, within, hleft, hexpiry⟩
  · obtain ⟨v, expiry, found, sum⟩ := hcourse.found_of_overflow hfailed
    exact ⟨v, hreading found, sum⟩
  · rw [hevents]
    exact hcourse.score?_iff (h.words eventKey) m score
  · rw [Keyspace.get?_assign_of_ne _ hkey'.symm, Keyspace.get?_assign_of_ne _ hkey.symm]

end SlidingScript

namespace MemoryStore

open SlidingScript (script native keys counterKey Effect)

/-- **What an evaluation of the script on words does**, on any reachable keyspace, for any two keys
and any four words.  Its arithmetic is that of unbounded integers, clamped where it is, and unless
it admits, the counter reads as before; but for the one case in which the script is aborted. -/
theorem eval_effect {s : MemoryStore} (hscript : s.native? script.name = some native)
    (hfaults : s.faults = []) (h : s.keyspace.Reachable) {eventKey counterKey : String}
    (hne : eventKey ≠ counterKey) {now window limit n : Int} (hnow : Text.fitsWord now = true)
    (hwindow : Text.fitsWord window = true) (hlimit : Text.fitsWord limit = true)
    (hn : Text.fitsWord n = true) (clock : Nat) :
    ∃ ending ks, eval ⟨none, clock⟩ script [eventKey, counterKey]
        [.int now, .int window, .int limit, .int n] s = (ending, { s with keyspace := ks }) ∧
      Effect clock eventKey counterKey now window limit n s.keyspace (ending, ks) := by
  obtain ⟨scripts, ks, faults⟩ := s
  subst hfaults
  have heffect := SlidingScript.effect_decide h hne hnow hwindow hlimit hn clock
  have hrun := SlidingScript.runOn_native clock eventKey counterKey now window limit n ks
  rcases hdecide : (SlidingScript.decide clock eventKey counterKey now window limit n).runOn ks
    with ⟨ending, ks'⟩
  rw [hdecide] at hrun heffect
  refine ⟨ending, ks', ?_, heffect⟩
  simp only [eval, guarded, hscript, onKeyspace, hrun]

/-- A denial at the ends of the range: all is taken back. -/
theorem eval_effect_greatest : ∃ ending ks, eval ⟨none, maxWord⟩ script ["k", "c"]
        [.int Text.minInt, .int Text.maxInt, .int Text.minInt, .int (Text.minInt + 1)]
        (holding [] (KeyCommand.run 0 .empty (.incrBy "c" Text.maxInt)).2) =
      (ending, holding [] ks) ∧
    ending = .ok (.replied (.int 0)) ∧ ks.reading maxWord "c" = .ok Text.maxInt := by
  obtain ⟨ending, ks, heval, heffect⟩ := eval_effect
    (s := holding [] (KeyCommand.run 0 .empty (.incrBy "c" Text.maxInt)).2)
    (native?_holding ..) rfl (.run .empty 0 _ (show Text.fitsWord Text.maxInt = true by decide))
    (show "k" ≠ "c" by decide) (show Text.fitsWord Text.minInt = true by decide)
    (show Text.fitsWord Text.maxInt = true by decide)
    (show Text.fitsWord Text.minInt = true by decide)
    (show Text.fitsWord (Text.minInt + 1) = true by decide) maxWord
  have hending : ending = .ok (.replied (.int 0)) := by
    rw [← show _ = ending from congrArg Prod.fst heval]
    rfl
  refine ⟨ending, ks, heval, hending, ?_⟩
  rw [heffect.keeps (by simp [hending]) (by simp [hending]) maxWord (Nat.le_refl _)]
  decide +kernel

/-- Five events in use, and a call for the least word under the least limit: it is aborted, and the
counter has lost 2⁶³. -/
theorem eval_aborts :
    let first := eval ⟨none, 1000⟩ script (keys "k")
      [.int 1000, .int 1000, .int 5, .int 5] .initial
    let second := eval ⟨none, 1000⟩ script (keys "k")
      [.int 1000, .int 1000, .int Text.minInt, .int Text.minInt] first.2
    second.1 = .ok .aborted ∧
      first.2.keyspace.reading 1000 (counterKey "k") = .ok 5 ∧
      second.2.keyspace.reading 1000 (counterKey "k") = .ok (-9223372036854775803) :=
  ⟨by with_unfolding_all rfl, by decide +kernel, by decide +kernel⟩

end MemoryStore

end Turnstile
