/-
**Where the entries of a store come from.**

Limiter keys may overlap: the counter key of one may be another one, and then a call on the other
one finds there an integer where it expects markers.  So what the two slots of a key show is not the
whole story.  But every single entry was written by a decision about one limiter key, and nothing
changes in it afterwards but through decisions about this key.  It is a set or an integer that an
admission wrote, and then it expires when this admission lapses.  Or it is what is left after a
denial on a counter that did not exist: a zero that never expires.

Main definitions:

* `Entry.Booked` — an entry at a physical key comes from a decision about a limiter key;
* `Slot.Booked`, `Keyspace.Booked` — so does whatever a slot and a keyspace hold.

Main results:

* `SlidingScript.settle_cases`, `SlidingScript.settle_booked` — how the script ends, and that it
  keeps its two slots booked;
* `Keyspace.Booked.pay` — **a decision keeps a keyspace booked**: an admission renews what is booked
  to its key, and only a call for more than the limit leaves a zero;
* `Keyspace.Booked.shows_of_denied` — what a denial says about the key.
-/

import Turnstile.Proofs.Limiter.Visit

set_option relaxedAutoImplicit false
set_option autoImplicit false

namespace Turnstile

open SlidingScript (counterKey counterKey_injective)

/-- An entry at a physical key comes from a decision about a limiter key: it expires at one of the
`lapses` of this key, or it is the zero left in the counter of a key that `exceeds` its limit. -/
inductive Entry.Booked (lapses : String → Nat → Prop) (exceeds : String → Prop) (place : String) :
    Entry → Prop
  | markers (members : Table Int) (t : Nat) (lapse : lapses place t) :
      Booked lapses exceeds place ⟨.set members, some t⟩
  | counter (key : String) (used t : Nat) (place_eq : place = counterKey key)
      (lapse : lapses key t) : Booked lapses exceeds place ⟨.int used, some t⟩
  | zero (key : String) (place_eq : place = counterKey key) (asked : exceeds key) :
      Booked lapses exceeds place ⟨.int 0, none⟩

variable {lapses lapses' : String → Nat → Prop} {exceeds exceeds' : String → Prop}

/-- Lapses matter only for the limiter keys that an entry at this place may be booked to. -/
theorem Entry.Booked.mono {place : String} {e : Entry} (h : e.Booked lapses exceeds place)
    (hlapses : ∀ key t, place = key ∨ place = counterKey key → lapses key t → lapses' key t)
    (hover : ∀ key, exceeds key → exceeds' key) : e.Booked lapses' exceeds' place := by
  cases h with
  | markers members t lapse => exact .markers members t (hlapses place t (Or.inl rfl) lapse)
  | counter key used t place_eq lapse =>
      exact .counter key used t place_eq (hlapses key t (Or.inr place_eq) lapse)
  | zero key place_eq asked => exact .zero key place_eq (hover key asked)

/-- An integer that is booked is no negative one. -/
theorem Entry.Booked.nonneg {place : String} {v : Int} {expiry : Option Nat}
    (h : Entry.Booked lapses exceeds place ⟨.int v, expiry⟩) : 0 ≤ v := by
  cases h with
  | counter key used t place_eq lapse => exact Int.natCast_nonneg used
  | zero key place_eq asked => exact Int.le_refl 0

/-- An integer in the counter of a key is zero, or it expires when the key lapses. -/
theorem Entry.Booked.lapse_of_counter {key : String} {v : Int} {expiry : Option Nat}
    (h : Entry.Booked lapses exceeds (counterKey key) ⟨.int v, expiry⟩) :
    v = 0 ∨ ∃ t, expiry = some t ∧ lapses key t := by
  cases h with
  | counter key' used t place_eq lapse =>
      exact Or.inr ⟨t, rfl, counterKey_injective place_eq ▸ lapse⟩
  | zero => exact Or.inl rfl

/-! ### Slots -/

namespace Slot

/-- Whatever a slot holds is booked. -/
def Booked (lapses : String → Nat → Prop) (exceeds : String → Prop) (place : String) (s : Slot) :
    Prop :=
  ∀ e, s = some e → e.Booked lapses exceeds place

variable {place : String} {s : Slot}

theorem booked_none : Booked lapses exceeds place none := nofun

theorem booked_some {e : Entry} (h : e.Booked lapses exceeds place) :
    Booked lapses exceeds place (some e) := by
  intro e' he'
  exact Option.some.inj he' ▸ h

theorem Booked.live (h : Booked lapses exceeds place s) (now : Nat) :
    Booked lapses exceeds place (live now s) := fun e he => h e (eq_of_live_eq_some he).1

/-- To remove members takes away, but changes no expiry. -/
theorem Booked.removeByScore (h : Booked lapses exceeds place s) (now : Nat) (key : String)
    (low high : Int) : Booked lapses exceeds place (removeByScore now key low high s).2 := by
  have hlive := h.live now
  unfold Slot.removeByScore
  rcases hs : Slot.live now s with _ | ⟨v | members, expiry⟩
  · exact booked_none
  · rw [hs] at hlive
    exact hlive
  · rw [hs] at hlive
    cases hlive _ rfl with
    | markers _ t lapse =>
        by_cases hempty : (outside low high members).isEmpty
        · simp only [hempty, if_true]
          exact booked_none
        · simp only [hempty, Bool.false_eq_true, if_false]
          exact booked_some (.markers _ t lapse)

/-- A failed increment leaves what had not expired. -/
theorem incrBy_error {now : Nat} {key : String} {n : Int} {e : StoreError} {s' : Slot}
    (h : incrBy now key n s = (.error e, s')) : s' = Slot.live now s := by
  unfold incrBy at h
  rcases hs : Slot.live now s with _ | ⟨v | members, expiry⟩ <;> rw [hs] at h
  · simp at h
  · by_cases hfits : Text.fitsWord (v + n)
    · simp [hfits] at h
    · simp only [hfits, Bool.false_eq_true, if_false, Prod.mk.injEq] at h
      exact h.2.symm
  · simp only [Prod.mk.injEq] at h
    exact h.2.symm

/-- An increment that succeeds adds to a number that has not expired, or to nothing, and stays in
the range. -/
theorem Booked.incrBy_ok (hs : Booked lapses exceeds place s) {now : Nat} {key : String} {n : Nat}
    {count : Int} {s' : Slot} (hn : n ≤ 9223372036854775807)
    (h : incrBy now key n s = (.ok count, s')) :
    ∃ v expiry, count = v + n ∧ s' = some ⟨.int (v + n), expiry⟩ ∧ Slot.live now s' = s' ∧
      0 ≤ v ∧ v + n ≤ 9223372036854775807 ∧
      (v = 0 ∧ expiry = none ∨ Slot.live now s = some ⟨.int v, expiry⟩) := by
  unfold incrBy at h
  rcases hlive : Slot.live now s with _ | ⟨v | members, expiry⟩ <;> rw [hlive] at h
  · simp only [Prod.mk.injEq, Except.ok.injEq] at h
    obtain ⟨rfl, rfl⟩ := h
    exact ⟨0, none, by omega, by simp, rfl, Int.le_refl 0, by omega, Or.inl ⟨rfl, rfl⟩⟩
  · have hv : 0 ≤ v := (hs.live now _ hlive).nonneg
    have hexpired : (⟨.int (v + n), expiry⟩ : Entry).expired now = false :=
      (eq_of_live_eq_some hlive).2
    by_cases hfits : Text.fitsWord (v + n)
    · simp only [hfits, if_true, Prod.mk.injEq, Except.ok.injEq] at h
      obtain ⟨rfl, rfl⟩ := h
      refine ⟨v, expiry, rfl, rfl, ?_, hv, (Text.fitsWord_iff.1 hfits).2, Or.inr rfl⟩
      rw [live_some, hexpired]
      rfl
    · simp [hfits] at h
  · simp at h

/-- What has not expired is kept with the new expiry. -/
theorem expire_eq_of_live {now : Nat} {e : Entry} (h : live now s = some e) (ttl : Duration) :
    (expire now ttl s).2 = some { e with expiresAt := some (Keyspace.expiryAfter now ttl) } := by
  simp only [expire, h]

/-- Markers with a new expiry are booked to the key that lapses then. -/
theorem IsMarkers.booked_expire (h : IsMarkers s) (now : Nat) (ttl : Duration)
    (hlapse : lapses place (Keyspace.expiryAfter now ttl)) :
    Booked lapses exceeds place (Slot.expire now ttl s).2 := by
  have hlive := h.live now
  unfold Slot.expire
  rcases hs : Slot.live now s with _ | ⟨v | members, expiry⟩
  · exact booked_none
  · rw [hs] at hlive
    exact absurd hlive (not_isMarkers_int v expiry)
  · exact booked_some (.markers members _ hlapse)

end Slot

/-! ### Decisions -/

namespace SlidingScript

/-- What is left of the markers when those out of the window are removed. -/
def recent (clock : Nat) (key : String) (now window : Int) (events : Slot) : Slot :=
  (Slot.removeByScore clock key Text.minInt (Text.clampWord (now - window)) events).2

/-- How the script ends.  It fails, and leaves the counter alone or what had not expired of it.  Or
it finds `v` events in the counter, or no counter, and `n` more go beyond the limit, so the counter
is as it was, but zero where nothing was.  Or they do not, and what both slots hold expires when the
admission lapses. -/
inductive Settled (clock : Nat) (key : String) (now window limit : Int) (n : Nat)
    (events counter : Slot) : Except StoreError ScriptEnd × Slot × Slot → Prop
  | failed (e : StoreError) (left : Slot) (left_eq : left = counter ∨ left = counter.live clock) :
      Settled clock key now window limit n events counter
        (.error e, recent clock key now window events, left)
  | denied (v : Nat) (expiry : Option Nat)
      (markers : (recent clock key now window events).IsMarkers)
      (found : v = 0 ∧ expiry = none ∨ counter.live clock = some ⟨.int v, expiry⟩)
      (sum : v + n ≤ 9223372036854775807) (beyond : limit < v + n) :
      Settled clock key now window limit n events counter
        (.ok (.replied (.int 0)), recent clock key now window events, some ⟨.int v, expiry⟩)
  | admitted (v : Nat) (markers : (recent clock key now window events).IsMarkers)
      (within : v + n ≤ limit) :
      Settled clock key now window limit n events counter
        (.ok (.replied (.int 1)),
          (Slot.expire clock (keyTtl window)
            (marked clock key now n (recent clock key now window events))).2,
          some ⟨.int (v + n : Nat), some (Keyspace.expiryAfter clock (keyTtl window))⟩)

/-- **The script ends in one of these ways**, if its counter slot is booked. -/
theorem settle_cases {counter : Slot} {place : String}
    (hcounter : counter.Booked lapses exceeds place) (clock : Nat) (key counterKey : String)
    (now window limit : Int) {n : Nat}
    (hn : n ≤ 9223372036854775807) (events : Slot) :
    Settled clock key now window limit n events counter
      (settle clock key counterKey now window limit n events counter) := by
  have hkept : (Slot.removeByScore clock key Text.minInt (Text.clampWord (now - window)) events).2 =
      recent clock key now window events := rfl
  unfold settle
  rcases hremove : Slot.removeByScore clock key Text.minInt (Text.clampWord (now - window)) events
    with ⟨e | removed, events'⟩
  · obtain rfl : events' = recent clock key now window events := by rw [← hkept, hremove]
    exact .failed e counter (Or.inl rfl)
  have hmarkers : events'.IsMarkers := Slot.isMarkers_of_removeByScore_ok hremove
  obtain rfl : events' = recent clock key now window events := by rw [← hkept, hremove]
  rcases hadd : Slot.incrBy clock counterKey n counter with ⟨e | count, counter'⟩
  · exact .failed e counter' (Or.inr (Slot.incrBy_error hadd))
  obtain ⟨v, expiry, rfl, rfl, hlive, hv, hsum, hfound⟩ := hcounter.incrBy_ok hn hadd
  obtain ⟨v, rfl⟩ := Int.eq_ofNat_of_zero_le hv
  by_cases hlimit : limit < (v : Int) + n
  · simp only [hlimit, if_true, Text.negation?_natCast, Slot.incrBy_neg counterKey hv hsum hlive]
    refine .denied v expiry hmarkers ?_ (by omega) hlimit
    exact hfound.imp_left fun ⟨hzero, hnone⟩ => ⟨Int.ofNat_eq_zero.1 hzero, hnone⟩
  · simp only [hlimit, if_false, Slot.expire_eq_of_live hlive]
    exact .admitted v hmarkers (Int.not_lt.1 hlimit)

/-- **The script keeps its two slots booked.**  An admission writes both of them anew; whatever else
it answers, it changes no expiry, but leaves a zero where a call over the limit found nothing. -/
theorem settle_booked {key : String} {events counter : Slot}
    (hevents : events.Booked lapses exceeds key)
    (hcounter : counter.Booked lapses exceeds (counterKey key)) (clock : Nat)
    (now window limit : Int) {n : Nat} (hn : n ≤ 9223372036854775807)
    (hover : limit < n → exceeds key) :
    let r := settle clock key (counterKey key) now window limit n events counter
    (r.1 = .ok (.replied (.int 1)) ∧
        ∀ lapses' : String → Nat → Prop, lapses' key (Keyspace.expiryAfter clock (keyTtl window)) →
          r.2.1.Booked lapses' exceeds key ∧ r.2.2.Booked lapses' exceeds (counterKey key)) ∨
      r.1 ≠ .ok (.replied (.int 1)) ∧ r.2.1.Booked lapses exceeds key ∧
        r.2.2.Booked lapses exceeds (counterKey key) := by
  have hrecent := hevents.removeByScore clock key Text.minInt (Text.clampWord (now - window))
  have hcases := settle_cases hcounter clock key (counterKey key) now window limit hn events
  generalize settle clock key (counterKey key) now window limit n events counter = r at hcases ⊢
  cases hcases with
  | failed e left left_eq =>
      refine Or.inr ⟨nofun, hrecent, ?_⟩
      rcases left_eq with rfl | rfl
      · exact hcounter
      · exact hcounter.live clock
  | denied v expiry _ found _ beyond =>
      refine Or.inr ⟨by simp, hrecent, ?_⟩
      rcases found with ⟨rfl, rfl⟩ | found
      · exact Slot.booked_some (.zero key rfl (hover (by omega)))
      · exact found ▸ hcounter.live clock
  | admitted v markers _ =>
      refine Or.inl ⟨rfl, fun lapses' hnew => ⟨?_, Slot.booked_some (.counter key _ _ rfl hnew)⟩⟩
      exact (isMarkers_marked markers clock key now n).booked_expire clock _ hnew

/-- A call over the limit that finds nothing leaves a zero, which never expires. -/
theorem settle_none_of_lt {limit : Int} {n : Nat} (hn : n ≤ 9223372036854775807) (h : limit < n)
    (clock : Nat) (eventKey counterKey : String) (now window : Int) :
    settle clock eventKey counterKey now window limit n none none =
      (.ok (.replied (.int 0)), none, some ⟨.int 0, none⟩) := by
  have hback : Slot.incrBy clock counterKey (-(n : Int)) (some ⟨.int (0 + n), none⟩) =
      (.ok 0, some ⟨.int 0, none⟩) :=
    Slot.incrBy_neg counterKey (Int.le_refl 0) (by omega) rfl
  rw [Int.zero_add] at hback
  have hremove : Slot.removeByScore clock eventKey Text.minInt (Text.clampWord (now - window))
      none = (.ok 0, none) := rfl
  have hadd : Slot.incrBy clock counterKey n none = (.ok ↑n, some ⟨.int n, none⟩) := rfl
  simp only [settle, hremove, hadd, h, if_true, Text.negation?_natCast, hback]

end SlidingScript

/-- A decision answers that the events are admitted just if the script replies one. -/
theorem SlidingWindow.readReply_eq_true_iff {key : String} {answer : Except StoreError ScriptEnd} :
    readReply key (answer.map ScriptEnd.value) = .ok true ↔ answer = .ok (.replied (.int 1)) := by
  rcases answer with e | (_ | _ | _ | _) | _ <;> simp [readReply, Except.map, ScriptEnd.value]

namespace Keyspace

/-- Every entry of a keyspace is booked. -/
def Booked (lapses : String → Nat → Prop) (exceeds : String → Prop) (ks : Keyspace) : Prop :=
  ∀ place, Slot.Booked lapses exceeds place (ks.get? place)

variable {ks : Keyspace}

theorem booked_empty (lapses : String → Nat → Prop) (exceeds : String → Prop) :
    Booked lapses exceeds .empty := fun place => by
  rw [get?_empty]
  exact Slot.booked_none

theorem Booked.mono (h : Booked lapses exceeds ks)
    (hlapses : ∀ key t, lapses key t → lapses' key t) : Booked lapses' exceeds ks :=
  fun place e he => (h place e he).mono (fun key t _ => hlapses key t) fun _ hover => hover

/-- A keyspace is booked if the two slots of a limiter key are, and the others were; the lapses of
this key do not matter for the others. -/
theorem Booked.assign_assign (h : Booked lapses exceeds ks) {key : String} {events counter : Slot}
    (hlapses : ∀ j t, j ≠ key → lapses j t → lapses' j t)
    (hevents : events.Booked lapses' exceeds key)
    (hcounter : counter.Booked lapses' exceeds (counterKey key)) :
    Booked lapses' exceeds ((ks.assign key events).assign (counterKey key) counter) := by
  intro place
  by_cases hplace : counterKey key = place
  · subst hplace
    rwa [get?_assign_self]
  · rw [get?_assign_of_ne _ hplace]
    by_cases hkey : key = place
    · subst hkey
      rwa [get?_assign_self]
    · rw [get?_assign_of_ne _ hkey]
      refine fun e he => (h place e he).mono (fun j t hj => hlapses j t ?_) fun _ hover => hover
      rintro rfl
      exact hj.elim (fun heq => hkey heq.symm) fun heq => hplace heq.symm

/-- **A decision keeps a keyspace booked.**  An admission replaces the lapses of its key by its own
one; any other decision replaces none. -/
theorem Booked.pay (h : Booked lapses exceeds ks) {v : Visit}
    (hover : 1 ≤ v.window.millis → Account.word v.limit < Account.word v.n → exceeds v.key)
    (hsame : (v.pay ks).1 ≠ .ok true → ∀ key t, lapses key t → lapses' key t)
    (hothers : ∀ key t, key ≠ v.key → lapses key t → lapses' key t)
    (hnew : (v.pay ks).1 = .ok true → lapses' v.key (Account.lapseAfter v.call.now v.window)) :
    Booked lapses' exceeds (v.pay ks).2 := by
  cases hbar : v.bar? with
  | some e =>
      rw [Visit.pay_of_bar hbar] at hsame ⊢
      exact h.mono (hsame nofun)
  | none =>
      have hwindow := (Visit.bar?_eq_none_iff.1 hbar).1.2
      rw [Visit.pay_eq, Visit.onSlots, hbar] at hsame hnew ⊢
      simp only [ne_eq, SlidingWindow.readReply_eq_true_iff] at hsame hnew ⊢
      rcases SlidingScript.settle_booked (h v.key) (h (counterKey v.key)) v.call.now
        (Account.word v.clock) (Account.word v.window.clampedMillis) (Account.word v.limit)
        (Account.word_le v.n) fun hlt => hover hwindow (by omega) with
          ⟨hadmitted, hslots⟩ | ⟨hnot, hslots⟩
      · obtain ⟨hevents, hcounter⟩ := hslots lapses' (hnew hadmitted)
        exact h.assign_assign hothers hevents hcounter
      · exact (h.assign_assign (fun _ _ _ h => h) hslots.1 hslots.2).mono (hsame hnot)

/-- **After a denial the two slots show an account that leaves no room for the call**, has not
lapsed, and, if anything is in use, lapses when the key does. -/
theorem Booked.shows_of_denied (h : Booked lapses exceeds ks) {v : Visit}
    (hdenied : (v.pay ks).1 = .ok false) :
    ∃ a : Account, (v.pay ks).2.Shows v.key a ∧ a.asOf v.call.now = a ∧
      Account.word v.limit < a.used + Account.word v.n ∧
      a.used + Account.word v.n ≤ 9223372036854775807 ∧
      (a.used = 0 ∨ ∃ t, a.lapse = some t ∧ lapses v.key t) := by
  have hbar := Visit.bar?_of_pay_ok hdenied
  have hcases := SlidingScript.settle_cases (h (counterKey v.key)) v.call.now v.key
    (counterKey v.key) (Account.word v.clock) (Account.word v.window.clampedMillis)
    (Account.word v.limit) (Account.word_le v.n) (ks.get? v.key)
  rw [Visit.pay_eq, Visit.onSlots, hbar] at hdenied ⊢
  simp only at hdenied ⊢
  generalize SlidingScript.settle _ _ _ _ _ _ _ _ _ = r at hcases hdenied ⊢
  cases hcases with
  | failed e left _ => simp [SlidingWindow.readReply, Except.map] at hdenied
  | admitted used _ _ => simp [SlidingWindow.readReply, Except.map, ScriptEnd.value] at hdenied
  | denied used expiry markers found sum beyond =>
      refine ⟨⟨used, expiry⟩, ⟨?_, ?_⟩, ?_, Int.ofNat_lt.1 beyond, sum, ?_⟩
      · rw [get?_assign_of_ne _ (SlidingScript.counterKey_ne v.key), get?_assign_self]
        exact markers
      · rw [get?_assign_self]
        exact .held used expiry
      · rcases found with ⟨rfl, rfl⟩ | hlive
        · rfl
        · have hexpired := (Slot.eq_of_live_eq_some hlive).2
          cases expiry with
          | none => rfl
          | some t =>
              have hlt : ¬ t ≤ v.call.now := by simpa [Entry.expired] using hexpired
              simp only [Account.asOf, hlt, if_false]
      · rcases found with ⟨rfl, -⟩ | hlive
        · exact Or.inl rfl
        · have hentry := (h (counterKey v.key)).live v.call.now _ hlive
          exact hentry.lapse_of_counter.imp_left Int.ofNat_eq_zero.1

/-- A call over the limit that finds nothing is denied, and leaves a zero that never expires. -/
theorem pay_empty_of_lt {v : Visit} (hbar : v.bar? = none)
    (hover : Account.word v.limit < Account.word v.n) :
    (v.pay .empty).1 = .ok false ∧
      (v.pay .empty).2.get? (counterKey v.key) = some ⟨.int 0, none⟩ := by
  have hsettle := SlidingScript.settle_none_of_lt (Account.word_le v.n) (Int.ofNat_lt.2 hover)
    v.call.now v.key (counterKey v.key) (Account.word v.clock) (Account.word v.window.clampedMillis)
  simp only [Visit.pay_eq, Visit.onSlots, hbar, get?_empty, hsettle, get?_assign_self]
  exact ⟨rfl, trivial⟩

/-- A reset keeps a keyspace booked: it takes away. -/
theorem Booked.without (h : Booked lapses exceeds ks) (key : String) :
    Booked lapses exceeds (ks.without key) :=
  h.assign_assign (fun _ _ _ h => h) Slot.booked_none Slot.booked_none

end Keyspace

end Turnstile
