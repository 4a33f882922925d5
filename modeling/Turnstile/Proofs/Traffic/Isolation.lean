/-
**Which keys of a store are isolated from each other.**

A limiter key occupies two physical keys, itself and its counter key.  The counter key of one may be
another limiter key.  Then the two share a physical key, one call finds there what the other one
left, and fails because it is of the wrong type.  Such sharing goes on along a chain: a key, its
counter key, the counter key of that, and so on.  Keys of one chain are kin.

Calls on keys that are not kin do not touch the slots of each other, so leaving out all calls on the
one changes nothing for the other.  Between kin there is no isolation at all: a call on every key of
the chain from one to the other, each of which fails just if the one before was admitted, ends
differently for the last key when the first call is left out.

Main definitions:

* `Kin` — one key comes from the other by taking counter keys;
* `Traffic.results` — what the calls on a key are told in a run;
* `Isolated` — leaving out the calls on one key changes no result of the other;
* `Alternates` — calls along a chain of keys, each of which decides what the next one finds.

Main results:

* `Traffic.results_filter` — **calls on keys that are not kin may be left out**, requests included;
* `Alternates.not_isolated` — calls along a chain betray whether the first one is made;
* `isolated_iff_not_kin` — **two keys are isolated exactly if they are not kin**.
-/

import Mathlib.Logic.Function.Iterate
import Turnstile.Proofs.Traffic.Run

set_option relaxedAutoImplicit false
set_option autoImplicit false

namespace Turnstile

open SlidingScript (counterKey counterKey_ne counterKey_injective length_counterKey)

/-! ### Kin -/

/-- One of the keys comes from the other one by taking counter keys. -/
def Kin (a b : String) : Prop := ∃ m, counterKey^[m] a = b ∨ counterKey^[m] b = a

theorem Kin.refl (a : String) : Kin a a := ⟨0, Or.inl rfl⟩

/-- A key is kin to whatever its counter key is kin to. -/
theorem kin_counterKey_iff {a key : String} : Kin a (counterKey key) ↔ Kin a key := by
  constructor
  · rintro ⟨m, h | h⟩
    · cases m with
      | zero => exact ⟨1, Or.inr h.symm⟩
      | succ m =>
          rw [Function.iterate_succ_apply'] at h
          exact ⟨m, Or.inl (counterKey_injective h)⟩
    · exact ⟨m + 1, Or.inr h⟩
  · rintro ⟨m, h | h⟩
    · exact ⟨m + 1, Or.inl (by rw [Function.iterate_succ_apply', h])⟩
    · cases m with
      | zero => exact ⟨1, Or.inl (congrArg counterKey h.symm)⟩
      | succ m => exact ⟨m, Or.inr h⟩

theorem length_iterate_counterKey (m : Nat) (key : String) :
    (counterKey^[m] key).length = key.length + 8 * m := by
  induction m with
  | zero => rfl
  | succ m ih =>
      rw [Function.iterate_succ_apply', length_counterKey, ih]
      omega

/-- The keys of a chain are different. -/
theorem iterate_counterKey_ne {m n : Nat} (h : m ≠ n) (key : String) :
    counterKey^[m] key ≠ counterKey^[n] key := by
  intro heq
  have hlength := congrArg String.length heq
  rw [length_iterate_counterKey, length_iterate_counterKey] at hlength
  omega

theorem counterKey_iterate (m : Nat) (key : String) :
    counterKey (counterKey^[m] key) = counterKey^[m + 1] key :=
  (Function.iterate_succ_apply' counterKey m key).symm

/-! ### Isolation -/

/-- What the calls on a key are told in a run, move by move. -/
def Traffic.results (key : String) (t : Traffic) (xs : List (Setting × Move)) :
    List (Option Notice) :=
  ((t.events xs).filter fun e => e.key = key).map Event.told

/-- Whether a move belongs to a call on the limiter itself, not to a request that a layer admits. -/
def Move.direct : Move → Bool
  | .request .. => false
  | _ => true

/-- In every run of calls on the limiter, those on `a` are told the same when all calls on `b` are
left out and each of the others is made in the same setting. -/
def Isolated (a b : String) : Prop :=
  ∀ xs : List (Setting × Move), (∀ x ∈ xs, x.2.direct = true) →
    Traffic.start.results a xs = Traffic.start.results a (xs.filter fun x => x.2.key ≠ b)

namespace Traffic

variable {t t' : Traffic} {s : Setting} {m : Move} {a : String}

theorem results_cons_of_eq (h : m.key = a) (rest : List (Setting × Move)) :
    t.results a ((s, m) :: rest) = (t.step s m).1.told :: (t.step s m).2.results a rest := by
  simp [results, events, event, h]

theorem results_cons_of_ne (h : m.key ≠ a) (rest : List (Setting × Move)) :
    t.results a ((s, m) :: rest) = (t.step s m).2.results a rest := by
  simp [results, events, event, h]

/-- Two states look the same from a key: the slots of its kin hold the same, and the same calls on
its kin are at pauses. -/
structure Alike (a : String) (t t' : Traffic) : Prop where
  slots : Keyspace.AgreeOn (Kin a) t.keyspace t'.keyspace
  paused : ∀ ticket, Kin a ticket.key → t.paused ticket = t'.paused ticket
  sound : t.paused.Sound fun _ => True
  sound' : t'.paused.Sound fun _ => True

theorem Alike.refl {t : Traffic} (h : t.paused.Sound fun _ => True) (a : String) : Alike a t t :=
  ⟨Keyspace.AgreeOn.refl _ _, fun _ _ => rfl, h, h⟩

theorem Alike.symm (h : Alike a t t') : Alike a t' t :=
  ⟨fun key hkey => (h.slots key hkey).symm, fun ticket hkey => (h.paused ticket hkey).symm,
    h.sound', h.sound⟩

/-- The work of a move is the same where the same call is at a pause. -/
theorem work_congr {paused paused' : Paused}
    (h : ∀ ticket, ticket.key = m.key → paused ticket = paused' ticket) :
    m.work paused = m.work paused' := by
  cases m with
  | resume ticket wake => simp only [Move.work, h ticket rfl]
  | abandon ticket => simp only [Move.work, h ticket rfl]
  | _ => rfl

/-- A move on a key that is not kin changes nothing that the key sees. -/
theorem Alike.step_left (h : Alike a t t') (hkin : ¬ Kin a m.key) (s : Setting) :
    Alike a (t.step s m).2 t' := by
  have heffect := Move.effect (m := m) (fun _ _ => trivial) h.sound s
  refine ⟨fun key hkey => ?_, fun ticket hticket => ?_,
    sound_step (fun _ _ => trivial) h.sound s, h.sound'⟩
  · rw [← h.slots key hkey]
    refine heffect.get?_of_ne t.keyspace ?_ ?_
    · rintro rfl
      exact hkin hkey
    · rintro rfl
      exact hkin (kin_counterKey_iff.1 hkey)
  · rw [← h.paused ticket hticket]
    cases hmoved : m.ticket? with
    | none => simp only [step, hmoved]
    | some moved =>
        simp only [step, hmoved]
        refine if_neg ?_
        rintro rfl
        exact hkin (ticket_key hmoved ▸ hticket)

/-- A move on a kin key comes to the same, and the states look the same afterwards. -/
theorem Alike.step_both (h : Alike a t t') (hkin : Kin a m.key) (s : Setting) :
    (t.step s m).1 = (t'.step s m).1 ∧ Alike a (t.step s m).2 (t'.step s m).2 := by
  have hwork : m.work t'.paused = m.work t.paused :=
    (work_congr fun ticket hticket => h.paused ticket (hticket ▸ hkin)).symm
  have heffect := Move.effect (m := m) (fun _ _ => trivial) h.sound s
  obtain ⟨hsame, hslots⟩ := heffect.agree h.slots hkin (kin_counterKey_iff.2 hkin)
  have hlanding : (t.step s m).1 = (t'.step s m).1 := by
    simp only [step, hwork]
    exact hsame
  refine ⟨hlanding, ?_, fun ticket hticket => ?_, sound_step (fun _ _ => trivial) h.sound s,
    sound_step (fun _ _ => trivial) h.sound' s⟩
  · simp only [step, hwork]
    exact hslots
  · rw [paused_step, paused_step, hlanding, h.paused ticket hticket]

/-- **Moves on keys that are not kin to a key may be left out** without any change of what the calls
on the key are told. -/
theorem results_filter (keep : Setting × Move → Bool) {xs : List (Setting × Move)}
    (hkeep : ∀ x ∈ xs, Kin a x.2.key → keep x = true) (h : Alike a t t') :
    t.results a xs = t'.results a (xs.filter keep) := by
  induction xs generalizing t t' with
  | nil => rfl
  | cons x rest ih =>
      obtain ⟨s, m⟩ := x
      obtain ⟨hx, hrest⟩ := List.forall_mem_cons.1 hkeep
      by_cases hkin : Kin a m.key
      · -- both runs make the move, in states that look alike from the key
        obtain ⟨hlanding, hnext⟩ := h.step_both hkin s
        rw [List.filter_cons_of_pos (hx hkin)]
        by_cases hkey : m.key = a
        · rw [results_cons_of_eq hkey, results_cons_of_eq hkey, hlanding, ih hrest hnext]
        · rw [results_cons_of_ne hkey, results_cons_of_ne hkey, ih hrest hnext]
      · -- the move is not one of the key, and the one or two states after it still look alike
        have hkey : m.key ≠ a := by
          rintro rfl
          exact hkin (Kin.refl _)
        have hleft := h.step_left hkin s
        rw [results_cons_of_ne hkey]
        by_cases hkept : keep (s, m) = true
        · rw [List.filter_cons_of_pos hkept, results_cons_of_ne hkey]
          exact ih hrest (hleft.symm.step_left hkin s).symm
        · rw [List.filter_cons_of_neg hkept]
          exact ih hrest hleft

end Traffic

/-! ### One call on two slots -/

/-- A set that stands when the clock of the store reads zero. -/
def Slot.StandingSet (s : Slot) : Prop := ∃ members t, s = some ⟨.set members, some t⟩ ∧ 0 < t

/-- An integer that stands when the clock of the store reads zero. -/
def Slot.StandingInt (s : Slot) : Prop := ∃ v t, s = some ⟨.int v, some t⟩ ∧ 0 < t

/-- A call for one event of a key in a millisecond, when all clocks read zero. -/
def Move.single (key : String) : Setting × Move :=
  (World.start 0 0 [], .allowN .plain 0 key 1 1 (Duration.ofMillis 1))

@[simp] theorem Move.key_single (key : String) : (single key).2.key = key := rfl

/-- The decision of such a call. -/
def Visit.single (key : String) : Visit :=
  .within (World.start 0 0 []) .system 0 key 1 1 (Duration.ofMillis 1)

namespace Visit

variable {key : String} {ks : Keyspace}

theorem bar?_single (key : String) : (single key).bar? = none := by
  have hwindow : 1 ≤ (Duration.ofMillis 1).millis := by decide
  exact bar?_eq_none_iff.2 ⟨⟨Nat.le_refl 1, hwindow⟩, rfl, rfl⟩

theorem onSlots_single (key : String) (events counter : Slot) :
    (single key).onSlots events counter =
      let r := SlidingScript.settle 0 key (counterKey key) (Account.word systemReading) 1 1 1 events
        counter
      (SlidingWindow.readReply key (r.1.map ScriptEnd.value), r.2) := by
  have hwindow : Account.word (Duration.ofMillis 1).clampedMillis = 1 := by decide
  have hone : Account.word 1 = 1 := by decide
  simp only [onSlots, bar?_single]
  simp only [single, within, hwindow, hone]
  rfl

/-- A call on a key of a chain leaves alone every key of it but this and the next. -/
theorem get?_single_of_ne {m l : Nat} (h : m ≠ l) (h' : m + 1 ≠ l) (root : String)
    (ks : Keyspace) :
    ((single (counterKey^[m] root)).pay ks).2.get? (counterKey^[l] root) =
      ks.get? (counterKey^[l] root) := by
  refine get?_pay_of_ne _ ks (iterate_counterKey_ne h root) ?_
  change counterKey (counterKey^[m] root) ≠ _
  rw [counterKey_iterate]
  exact iterate_counterKey_ne h' root

/-- On empty slots the event is admitted: then a set stands in the one, an integer in the other. -/
theorem single_free (hkey : ks.get? key = none) (hcounter : ks.get? (counterKey key) = none) :
    ((single key).pay ks).1 = .ok true ∧
      Slot.StandingSet (((single key).pay ks).2.get? key) ∧
      Slot.StandingInt (((single key).pay ks).2.get? (counterKey key)) := by
  have hexpiry : Keyspace.expiryAfter 0 (SlidingScript.keyTtl 1) = 2000 := by decide
  have hslots : ∃ members, (single key).onSlots none none =
      (.ok true, some ⟨.set members, some 2000⟩, some ⟨.int 1, some 2000⟩) := by
    refine ⟨Table.empty.set (SlidingScript.marker (Account.word systemReading : Nat) 1)
      (Account.word systemReading : Nat), ?_⟩
    simp [onSlots_single, SlidingScript.settle, Slot.removeByScore, Slot.incrBy, Slot.expire,
      SlidingScript.marked, Slot.addMember, Slot.live_some, Entry.expired, hexpiry]
    rfl
  obtain ⟨members, hslots⟩ := hslots
  have hpay : (single key).pay ks = (.ok true, (ks.assign key
      (some ⟨.set members, some 2000⟩)).assign (counterKey key) (some ⟨.int 1, some 2000⟩)) := by
    rw [pay_eq]
    change (((single key).onSlots (ks.get? key) (ks.get? (counterKey key))).1, _) = _
    rw [show (single key).key = key from rfl, hkey, hcounter, hslots]
  rw [hpay, Keyspace.get?_assign_of_ne _ (counterKey_ne key), Keyspace.get?_assign_self,
    Keyspace.get?_assign_self]
  exact ⟨rfl, ⟨members, 2000, rfl, by omega⟩, ⟨1, 2000, rfl, by omega⟩⟩

/-- A decision that leaves its two slots as they were leaves the entries as they were. -/
theorem pay_of_onSlots_eq {v : Visit} {answer : Except LimiterError Bool}
    (h : v.onSlots (ks.get? v.key) (ks.get? (counterKey v.key)) =
      (answer, ks.get? v.key, ks.get? (counterKey v.key))) : v.pay ks = (answer, ks) := by
  rw [pay_eq, h]
  simp only [Keyspace.assign_get?]

/-- Where a set stands in the counter slot the call fails. -/
theorem single_of_counter (hkey : ks.get? key = none)
    (hcounter : Slot.StandingSet (ks.get? (counterKey key))) :
    ∃ e, (single key).pay ks = (.error e, ks) := by
  obtain ⟨members, t, hset, ht⟩ := hcounter
  have hlive : ¬ t ≤ 0 := Nat.not_le.2 ht
  refine ⟨.ofStore .allowN key (.wrongType (counterKey key)), pay_of_onSlots_eq ?_⟩
  change (single key).onSlots (ks.get? key) (ks.get? (counterKey key)) =
    (_, ks.get? key, ks.get? (counterKey key))
  rw [hkey, hset]
  simp [onSlots_single, SlidingScript.settle, Slot.removeByScore, Slot.incrBy, Slot.live_some,
    Entry.expired, hlive, SlidingWindow.readReply, Except.map]

/-- Where an integer stands in the marker slot the call fails. -/
theorem single_of_events (hkey : Slot.StandingInt (ks.get? key)) :
    ∃ e, (single key).pay ks = (.error e, ks) := by
  obtain ⟨v, t, hint, ht⟩ := hkey
  have hlive : ¬ t ≤ 0 := Nat.not_le.2 ht
  refine ⟨.ofStore .allowN key (.wrongType key), pay_of_onSlots_eq ?_⟩
  change (single key).onSlots (ks.get? key) (ks.get? (counterKey key)) =
    (_, ks.get? key, ks.get? (counterKey key))
  rw [hint]
  simp [onSlots_single, SlidingScript.settle, Slot.removeByScore, Slot.live_some, Entry.expired,
    hlive, SlidingWindow.readReply, Except.map]

end Visit

/-! ### Calls along a chain -/

namespace Traffic

theorem step_single (t : Traffic) (key : String) :
    t.step (Move.single key).1 (Move.single key).2 =
      (⟨some (.decided 1 ((Visit.single key).pay t.keyspace).1), none⟩,
        ⟨((Visit.single key).pay t.keyspace).2, t.paused⟩) :=
  t.step_allowN (World.start 0 0 []) .plain 0 key 1 1 (Duration.ofMillis 1)

theorem results_single_self (t : Traffic) (key : String) (rest : List (Setting × Move)) :
    t.results key (Move.single key :: rest) =
      some (.decided 1 ((Visit.single key).pay t.keyspace).1) ::
        results key ⟨((Visit.single key).pay t.keyspace).2, t.paused⟩ rest := by
  have hresults := results_cons_of_eq (t := t) (s := (Move.single key).1) (Move.key_single key) rest
  rwa [step_single] at hresults

theorem results_single_of_ne (t : Traffic) {key a : String} (h : key ≠ a)
    (rest : List (Setting × Move)) :
    t.results a (Move.single key :: rest) =
      results a ⟨((Visit.single key).pay t.keyspace).2, t.paused⟩ rest := by
  have hkey : (Move.single key).2.key ≠ a := h
  have hresults := results_cons_of_ne (t := t) (s := (Move.single key).1) hkey rest
  rwa [step_single] at hresults

end Traffic

/-- The calls on the keys with the numbers `n`, …, `0`, in this order. -/
def Move.countdown (key : Nat → String) : Nat → List (Setting × Move)
  | 0 => [single (key 0)]
  | n + 1 => single (key (n + 1)) :: countdown key n

/-- Of the keys of a chain each one finds free slots just if the one before it, with the next higher
number, found them occupied.  A call on a key that finds free slots occupies those of the next key,
one that finds them occupied fails and leaves them. -/
structure Alternates (key : Nat → String) (free occupied : Nat → Keyspace → Prop) : Prop where
  ne : ∀ i, key (i + 1) ≠ key 0
  free_succ : ∀ i ks, free (i + 1) ks → occupied i ((Visit.single (key (i + 1))).pay ks).2
  occupied_succ : ∀ i ks, occupied (i + 1) ks → free i ((Visit.single (key (i + 1))).pay ks).2
  free_zero : ∀ ks, free 0 ks → ((Visit.single (key 0)).pay ks).1 = .ok true
  occupied_zero : ∀ ks, occupied 0 ks → ((Visit.single (key 0)).pay ks).1 ≠ .ok true

theorem Move.direct_countdown (key : Nat → String) (n : Nat) :
    ∀ x ∈ countdown key n, x.2.direct = true := by
  induction n with
  | zero =>
      intro x hx
      rw [List.mem_singleton.1 hx]
      rfl
  | succ n ih => exact List.forall_mem_cons.2 ⟨rfl, ih⟩

namespace Alternates

variable {key : Nat → String} {free occupied : Nat → Keyspace → Prop}

/-- The last call tells whether the first one found free slots. -/
theorem results_ne (h : Alternates key free occupied) {n : Nat} {t t' : Traffic}
    (hfree : free n t.keyspace) (hoccupied : occupied n t'.keyspace) :
    t.results (key 0) (Move.countdown key n) ≠ t'.results (key 0) (Move.countdown key n) := by
  induction n generalizing t t' with
  | zero =>
      intro heq
      rw [Move.countdown, Traffic.results_single_self, Traffic.results_single_self] at heq
      have hfirst := (List.cons.inj heq).1
      simp only [Option.some.injEq, Notice.decided.injEq, true_and] at hfirst
      exact h.occupied_zero _ hoccupied (hfirst ▸ h.free_zero _ hfree)
  | succ n ih =>
      -- the two runs change places: the next key is free just where this one was not
      rw [Move.countdown, Traffic.results_single_of_ne _ (h.ne n),
        Traffic.results_single_of_ne _ (h.ne n)]
      exact (ih (h.occupied_succ n _ hoccupied) (h.free_succ n _ hfree)).symm

theorem filter_countdown {b : String} {n : Nat} (h : ∀ i ≤ n, key i ≠ b) :
    (Move.countdown key n).filter (fun x => x.2.key ≠ b) = Move.countdown key n := by
  rw [List.filter_eq_self]
  induction n with
  | zero =>
      intro x hx
      rw [List.mem_singleton.1 hx]
      exact decide_eq_true (h 0 (Nat.le_refl 0))
  | succ n ih =>
      intro x hx
      rcases List.mem_cons.1 hx with rfl | hx
      · exact decide_eq_true (h (n + 1) (Nat.le_refl _))
      · exact ih (fun i hi => h i (Nat.le_succ_of_le hi)) x hx

/-- Calls along a chain betray to the last key whether the call on the first one is made. -/
theorem not_isolated (h : Alternates key free occupied) {n : Nat} (hn : free n .empty)
    (hsucc : free (n + 1) .empty) (hother : ∀ i ≤ n, key i ≠ key (n + 1)) :
    ¬ Isolated (key 0) (key (n + 1)) := by
  intro hisolated
  have heq := hisolated (Move.countdown key (n + 1)) (Move.direct_countdown key (n + 1))
  have hfilter : (Move.countdown key (n + 1)).filter (fun x => x.2.key ≠ key (n + 1)) =
      Move.countdown key n := by
    rw [Move.countdown, List.filter_cons_of_neg (by simp [Move.single, Move.key]),
      filter_countdown hother]
  rw [hfilter, Move.countdown, Traffic.results_single_of_ne _ (h.ne n)] at heq
  exact h.results_ne (t := Traffic.start) hn (h.free_succ n _ hsucc) heq.symm

end Alternates

/-! ### The two directions of a chain -/

/-- From a key down to the one that it comes from: a call leaves a set in the counter slot of the
next one. -/
theorem alternates_down (root : String) :
    Alternates (fun i => counterKey^[i] root)
      (fun i ks => ∀ l ≤ i + 1, ks.get? (counterKey^[l] root) = none)
      (fun i ks => (∀ l ≤ i, ks.get? (counterKey^[l] root) = none) ∧
        Slot.StandingSet (ks.get? (counterKey^[i + 1] root))) where
  ne i := iterate_counterKey_ne (by omega) root
  free_succ i ks hfree := by
    obtain ⟨-, hset, -⟩ := Visit.single_free (hfree (i + 1) (by omega))
      (by rw [counterKey_iterate]; exact hfree (i + 2) (by omega))
    refine ⟨fun l hl => ?_, hset⟩
    rw [Visit.get?_single_of_ne (by omega) (by omega)]
    exact hfree l (by omega)
  occupied_succ i ks hoccupied := by
    obtain ⟨e, hpay⟩ := Visit.single_of_counter (hoccupied.1 (i + 1) (Nat.le_refl _))
      (by rw [counterKey_iterate]; exact hoccupied.2)
    rw [hpay]
    exact hoccupied.1
  free_zero ks hfree := (Visit.single_free (hfree 0 (by omega)) (hfree 1 (by omega))).1
  occupied_zero ks hoccupied := by
    obtain ⟨e, hpay⟩ := Visit.single_of_counter (hoccupied.1 0 (Nat.le_refl 0)) hoccupied.2
    rw [hpay]
    simp

/-- From a key up to one that comes from it: a call leaves an integer in the marker slot of the next
one. -/
theorem alternates_up (root : String) (n : Nat) :
    Alternates (fun i => counterKey^[n + 1 - i] root)
      (fun i ks => i ≤ n + 1 ∧ ∀ l, n + 1 - i ≤ l → ks.get? (counterKey^[l] root) = none)
      (fun i ks => i ≤ n + 1 ∧ Slot.StandingInt (ks.get? (counterKey^[n + 1 - i] root)) ∧
        ∀ l, n + 1 - i < l → ks.get? (counterKey^[l] root) = none) where
  ne i := iterate_counterKey_ne (by omega) root
  free_succ i ks hfree := by
    obtain ⟨hi, hfree⟩ := hfree
    have hnext : n + 1 - (i + 1) + 1 = n + 1 - i := by omega
    obtain ⟨-, -, hint⟩ := Visit.single_free (hfree (n + 1 - (i + 1)) (Nat.le_refl _))
      (by rw [counterKey_iterate]; exact hfree _ (by omega))
    rw [counterKey_iterate, hnext] at hint
    refine ⟨by omega, hint, fun l hl => ?_⟩
    rw [Visit.get?_single_of_ne (by omega) (by omega)]
    exact hfree l (by omega)
  occupied_succ i ks hoccupied := by
    obtain ⟨hi, hint, hfree⟩ := hoccupied
    obtain ⟨e, hpay⟩ := Visit.single_of_events hint
    rw [hpay]
    exact ⟨by omega, fun l hl => hfree l (by omega)⟩
  free_zero ks hfree := by
    refine (Visit.single_free (hfree.2 _ (Nat.le_refl _)) ?_).1
    rw [counterKey_iterate]
    exact hfree.2 _ (by omega)
  occupied_zero ks hoccupied := by
    obtain ⟨e, hpay⟩ := Visit.single_of_events hoccupied.2.1
    rw [hpay]
    simp

/-- **Two keys are isolated exactly if they are not kin.** -/
theorem isolated_iff_not_kin (a b : String) : Isolated a b ↔ ¬ Kin a b := by
  constructor
  · rintro hisolated ⟨m, hkin⟩
    cases m with
    | zero =>
        -- a key is not isolated from itself: nothing is left of its results
        obtain rfl : a = b := by
          rcases hkin with h | h
          · exact h
          · exact h.symm
        have heq := hisolated [Move.single a] (Move.direct_countdown (fun _ => a) 0)
        have hfilter : [Move.single a].filter (fun x => x.2.key ≠ a) = [] := by
          simp [Move.single, Move.key]
        rw [hfilter, Traffic.results_single_self] at heq
        simp [Traffic.results, Traffic.events] at heq
    | succ n =>
        rcases hkin with rfl | rfl
        · exact (alternates_down a).not_isolated (n := n) (fun _ _ => Keyspace.get?_empty _)
            (fun _ _ => Keyspace.get?_empty _)
            (fun i hi => iterate_counterKey_ne (by omega) a) hisolated
        · refine (alternates_up b n).not_isolated (n := n)
            ⟨by omega, fun _ _ => Keyspace.get?_empty _⟩
            ⟨by omega, fun _ _ => Keyspace.get?_empty _⟩
            (fun i hi => iterate_counterKey_ne (by omega) b) ?_
          simpa using hisolated
  · intro hkin xs _
    refine Traffic.results_filter _ (fun x _ hx => ?_)
      (Traffic.Alike.refl (Traffic.sound_start _) a)
    simp only [ne_eq, decide_not, Bool.not_eq_eq_eq_not, Bool.not_true, decide_eq_false_iff_not]
    rintro rfl
    exact hkin hx

/-- A key and its counter key are different, but not isolated. -/
theorem not_isolated_counter : "x" ≠ "x:counter" ∧ ¬ Isolated "x" "x:counter" := by
  refine ⟨by decide, fun hisolated => ?_⟩
  have heq := congrArg (List.map fun told => (told.map Notice.charge).getD 0)
    (hisolated [Move.single "x:counter", Move.single "x"] (by decide))
  exact absurd heq (by decide +kernel)

end Turnstile
