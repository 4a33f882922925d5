/-
**The counter of a key holds what was charged.**

A call charges its key what its caller is told: the events of a decision that admits, one event of a
wait that ends well, and for a request that the limiter admits its cost or, in wait mode, one event.
Denied, failed, retried and dropped calls charge nothing, and a request that fails open charges
nothing either.  Between any two moves the counter of a key holds exactly the sum of these charges
since the key was last reset or its counter expired.

An entry whose expiry has come stands until its key is next used.  A counter thus expires in a move
that finds it due: afterwards it is due no more, or it was charged anew.

Main definitions:

* `Keyspace.due`, `Keyspace.counter` — whether an entry is due, and what a counter reads;
* `Event.resets`, `Event.expires` — the events that start the sum anew;
* `Event.total` — the sum of the charges since the last of these.

Main results:

* `Traffic.shows_tally` — one move changes the counter as it changes the sum;
* `Traffic.counter_eq_total` — **the counter reads the sum of the charges**.
-/

import Turnstile.Proofs.Traffic.Run

set_option relaxedAutoImplicit false
set_option autoImplicit false

namespace Turnstile

/-! ### Counters -/

/-- An entry whose expiry has come stands in the slot. -/
def Slot.due (now : Nat) (s : Slot) : Bool := s.any fun e => e.expired now

namespace Keyspace

/-- The counter of a limiter key stands though its expiry has come. -/
def due (ks : Keyspace) (now : Nat) (key : String) : Bool :=
  Slot.due now (ks.get? (SlidingScript.counterKey key))

/-- What the counter of a limiter key reads; an absent counter reads zero. -/
def counter (ks : Keyspace) (now : Nat) (key : String) : Except StoreError Int :=
  (ks.int? now (SlidingScript.counterKey key)).1.map fun v => v.getD 0

end Keyspace

namespace Event

/-- What an event charges a key. -/
def chargeTo (key : String) (e : Event) : Nat := if e.key = key then e.charge else 0

/-- The key is reset in an event. -/
def resets (key : String) (e : Event) : Bool :=
  e.key = key && (e.told.map Notice.clears).getD false

/-- The counter of the key expires in an event. -/
def expires (key : String) (e : Event) : Bool :=
  e.before.due e.time key && (decide (0 < e.chargeTo key) || !e.after.due e.time key)

/-- A sum of charges after one more event. -/
def tally (key : String) (total : Nat) (e : Event) : Nat :=
  if e.resets key then 0
  else if e.expires key then e.chargeTo key
  else total + e.chargeTo key

/-- The sum of the charges of a key since its last reset or the last expiry of its counter. -/
def total (key : String) (es : List Event) : Nat := es.foldl (tally key) 0

variable {key : String} {e : Event}

/-- An event that charges the key nothing and leaves its counter as it was. -/
theorem tally_of_same (hcharge : e.chargeTo key = 0) (hresets : e.resets key = false)
    (hsame : e.after.get? (SlidingScript.counterKey key) =
      e.before.get? (SlidingScript.counterKey key)) (total : Nat) :
    e.tally key total = total := by
  have hexpires : e.expires key = false := by
    unfold expires Keyspace.due
    rw [hcharge, hsame]
    cases Slot.due e.time (e.before.get? (SlidingScript.counterKey key)) <;> rfl
  simp [tally, hresets, hexpires, hcharge]

/-- A charge is on top of what was left, as is no charge that leaves no due counter. -/
theorem tally_of_left (hresets : e.resets key = false)
    (hleft : 0 < e.chargeTo key ∨ e.after.due e.time key = false) (total : Nat) :
    e.tally key total = (if e.before.due e.time key then 0 else total) + e.chargeTo key := by
  have hexpires : e.expires key = e.before.due e.time key := by
    unfold expires
    rcases hleft with hpos | hdue
    · rw [decide_eq_true hpos, Bool.true_or, Bool.and_true]
    · rw [hdue, Bool.not_false, Bool.or_true, Bool.and_true]
  rw [tally, hresets, hexpires]
  cases e.before.due e.time key <;> simp

end Event

/-! ### Counters that show accounts -/

namespace Slot

variable {s : Slot} {a : Account} {now : Nat}

/-- Nothing is left of an account whose counter is due. -/
theorem Counts.used_asOf (h : s.Counts a) (now : Nat) :
    (a.asOf now).used = if s.due now then 0 else a.used := by
  cases h with
  | absent => rfl
  | held used lapse =>
      cases lapse with
      | none => rfl
      | some t =>
          by_cases ht : t ≤ now <;>
            simp [due, Entry.expired, Account.asOf, Account.fresh, ht]

/-- A counter that shows what is left of an account is not due. -/
theorem Counts.not_due (h : s.Counts (a.asOf now)) : s.due now = false := by
  generalize hb : a.asOf now = b at h
  cases h with
  | absent => rfl
  | held used lapse =>
      cases lapse with
      | none => rfl
      | some t =>
          have : now < t := Account.lt_lapse_asOf (a := a) (by rw [hb])
          simp [due, Entry.expired, this]

end Slot

/-- The counter of a key that shows an account reads what is in use, or nothing when it is due. -/
theorem Keyspace.Shows.counter_eq {ks : Keyspace} {key : String} {a : Account}
    (h : ks.Shows key a) (now : Nat) :
    ks.counter now key = .ok (if ks.due now key then 0 else (a.used : Int)) := by
  have hcounts := h.counter
  unfold Keyspace.counter Keyspace.due Keyspace.int?
  simp only [purge_eq, get?_assign_self]
  generalize ks.get? (SlidingScript.counterKey key) = s at hcounts ⊢
  cases hcounts with
  | absent => rfl
  | held used lapse =>
      rw [Slot.live_some]
      cases hexpired : (⟨.int used, lapse⟩ : Entry).expired now with
      | true => simp [Slot.due, hexpired, Except.map]
      | false => simp [Slot.due, hexpired, Except.map]

/-! ### Runs -/

namespace Traffic

variable {key : String}

/-- A bid for the key, together with its limit, stays in the signed 64-bit range. -/
def Fitting (key : String) (b : Bid) : Prop :=
  b.key = key → b.n + b.limit ≤ 9223372036854775807

/-- **One move changes the counter of a key as it changes the sum of its charges.** -/
theorem shows_tally {t : Traffic} {s : Setting} {m : Move} {a : Account}
    (hkey : m.key = key ∨ Apart key m.key) (hm : ∀ b ∈ m.bid?, Fitting key b)
    (hpaused : t.paused.Sound (Fitting key)) (hshows : t.keyspace.Shows key a) :
    ∃ a' : Account, (t.step s m).2.keyspace.Shows key a' ∧
      a'.used = (t.event s m).tally key a.used := by
  obtain ⟨a', hshows', hmoves⟩ := moves_step hkey hm hpaused hshows
  refine ⟨a', hshows', ?_⟩
  have hleft : (a.asOf (t.event s m).time).used =
      if (t.event s m).before.due (t.event s m).time key then 0 else a.used :=
    hshows.counter.used_asOf s.storeReading
  cases hmoves with
  | same charge clears slot =>
      have hresets : (t.event s m).resets key = false := by
        by_cases h : (t.event s m).key = key
        · rw [Event.resets, clears h, Bool.and_false]
        · simp [Event.resets, h]
      have hzero : (t.event s m).chargeTo key = 0 := by
        by_cases h : (t.event s m).key = key
        · rw [Event.chargeTo, if_pos h, charge h]
        · exact if_neg h
      exact (Event.tally_of_same hzero hresets slot _).symm
  | left hsame charge clears =>
      -- a counter that shows what was left is not due
      have hnotdue : (t.event s m).after.due (t.event s m).time key = false :=
        hshows'.counter.not_due
      rw [Event.tally_of_left (by rw [Event.resets, clears, Bool.and_false]) (Or.inr hnotdue),
        ← hleft, Event.chargeTo, if_pos hsame, charge]
      rfl
  | taken b hsame hbkey ok charge clears pos fit =>
      have hn : (t.event s m).chargeTo key = b.n := by rw [Event.chargeTo, if_pos hsame, charge]
      have hfits : b.n + b.limit ≤ 9223372036854775807 := ok hbkey
      rw [Event.tally_of_left (by rw [Event.resets, clears, Bool.and_false]) (Or.inl (hn ▸ pos)),
        ← hleft, hn, Account.word_of_le (by omega)]
  | cleared hsame reset charge clears =>
      have hresets : (t.event s m).resets key = true := by simp [Event.resets, hsame, clears]
      simp [Event.tally, hresets, Account.fresh]

theorem shows_total {t : Traffic} {xs : List (Setting × Move)} {a : Account}
    (hkeys : ∀ x ∈ xs, x.2.key = key ∨ Apart key x.2.key)
    (hbids : ∀ x ∈ xs, ∀ b ∈ x.2.bid?, Fitting key b) (hpaused : t.paused.Sound (Fitting key))
    (hshows : t.keyspace.Shows key a) :
    ∃ a' : Account, (t.after xs).keyspace.Shows key a' ∧
      a'.used = (t.events xs).foldl (Event.tally key) a.used := by
  induction xs generalizing t a with
  | nil => exact ⟨a, hshows, rfl⟩
  | cons x rest ih =>
      obtain ⟨s, m⟩ := x
      obtain ⟨hkey, hkeys⟩ := List.forall_mem_cons.1 hkeys
      obtain ⟨hm, hbids⟩ := List.forall_mem_cons.1 hbids
      obtain ⟨a', hshows', hused⟩ := shows_tally hkey hm hpaused hshows
      obtain ⟨a'', hshows'', hused'⟩ := ih hkeys hbids (sound_step hm hpaused s) hshows'
      refine ⟨a'', hshows'', ?_⟩
      rw [hused', hused]
      rfl

/-- **The counter of a key reads the sum of what was charged since its last reset or expiry**, after
any moves of any calls and at any time.  No key of a call is the counter key of this key or has this
key as its counter key. -/
theorem counter_eq_total {xs : List (Setting × Move)}
    (hkeys : ∀ x ∈ xs, x.2.key ≠ SlidingScript.counterKey key ∧
      key ≠ SlidingScript.counterKey x.2.key)
    (hbids : ∀ x ∈ xs, ∀ b ∈ x.2.bid?, b.key = key → b.n + b.limit ≤ 9223372036854775807)
    (now : Nat) :
    (start.after xs).keyspace.counter now key =
      .ok (if (start.after xs).keyspace.due now key then 0
        else (Event.total key (start.events xs) : Int)) := by
  have hapart : ∀ x ∈ xs, x.2.key = key ∨ Apart key x.2.key := by
    intro x hx
    by_cases hsame : x.2.key = key
    · exact Or.inl hsame
    · exact Or.inr ⟨Ne.symm hsame, (hkeys x hx).2, (hkeys x hx).1⟩
  obtain ⟨a, hshows, hused⟩ := shows_total hapart hbids (sound_start _) (Keyspace.shows_empty key)
  rw [hshows.counter_eq, hused]
  rfl

/-- Two events, one of a wait and two of a request are charged; a denied call, one that a fault
hits, a wait that is dropped at its pause and a request that fails open are not. -/
theorem counter_eq_total_five_events :
    let layer : Layer SlidingWindow :=
      ⟨.plain, fun _ => "a", 6, Duration.ofMillis 1000, 2, false, .zero, .single, .failOpen, 429,
        "", 500, "", Rejection.response, AdmissionError.response, false⟩
    (start.after
        [(World.start 0 0 [], .allowN .plain 0 "a" 2 3 (Duration.ofMillis 1000)),
          (World.start 0 100 [], .allowN .plain 0 "a" 2 3 (Duration.ofMillis 1000)),
          (World.start 0 200 [.script "gone"], .allowN .plain 0 "a" 1 3 (Duration.ofMillis 1000)),
          (World.start 0 300 [], .wait 0 .plain 0 "a" 3 (Duration.ofMillis 1000)),
          (World.start 0 400 [], .wait 1 .plain 0 "a" 3 (Duration.ofMillis 1000)),
          (World.start 0 500 [], .abandon ⟨"a", 1⟩),
          (World.start 0 600 [.script "gone"], .request 2 layer 0 ⟨none, []⟩),
          (World.start 0 700 [], .request 3 layer 0 ⟨none, []⟩)]).keyspace.counter 800 "a" =
      .ok 5 :=
  (counter_eq_total (by decide) (by decide) 800).trans (congrArg Except.ok (by decide +kernel))

end Traffic

end Turnstile
