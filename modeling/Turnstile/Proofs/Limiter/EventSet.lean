/-
**The markers of a key are its events in the window.**

An admission leaves a marker for each of its events, under a name made of its time and the number
of the event.  Admissions of one millisecond therefore share markers, the larger one has those of
the smaller one too.  Every decision takes the markers out that have left the window, and both slots
of a key expire together some time after the window of the last admission has passed.  So nothing
that is in the window is ever lost, and right after a call that did not fail nothing else is there:
the markers are exactly those of the admissions since the last reset that are in the window.

There are at most as many of them as the counter says, which counts every event and forgets none
before it expires.

Main definitions:

* `Admission` — an admission by its time and its events;
* `Question.visit?`, `Question.after`, `Question.exchanges` — the decision of a call, what a run
  leaves, and the run with its answers;
* `Question.admissions` — the admissions of a key in a run since its last reset;
* `Keyspace.Remembers` — what a store holds of the admissions of a key.

Main results:

* `Admission.sum_most_le` — admissions of one time count once, so they count at most as one by one;
* `Keyspace.Remembers.pay`, `Question.remembers_step` — what one call keeps;
* `Question.remembers_after` — what every run keeps;
* `Question.members_eq_admissions` — **the markers are the events in the window**.
-/

import Mathlib.Algebra.BigOperators.Ring.Finset
import Mathlib.Algebra.Order.BigOperators.Group.Finset
import Mathlib.Data.Finset.Sigma
import Mathlib.Order.Interval.Finset.Nat
import Turnstile.Proofs.Limiter.Ledger
import Turnstile.Proofs.Limiter.PostState
import Turnstile.Proofs.Traffic.Charges

set_option relaxedAutoImplicit false
set_option autoImplicit false

namespace Turnstile

open SlidingScript (counterKey marker marker_injective)

/-! ### Admissions -/

/-- An admission: its time, and the number of its events in the range of words. -/
structure Admission where
  time : Nat
  n : Nat
  deriving DecidableEq

namespace Admission

/-- The admissions in the window that ends at a time. -/
def recent (window : Duration) (now : Nat) (es : List Admission) : List Admission :=
  es.filter fun a => now < a.time + window.millis

/-- The distinct times of admissions. -/
def times (es : List Admission) : Finset Nat := (es.map time).toFinset

/-- The most events of one of the admissions at a time. -/
def most (t : Nat) : List Admission → Nat
  | [] => 0
  | a :: es => if a.time = t then max a.n (most t es) else most t es

/-- The events of admissions. -/
def total (es : List Admission) : Nat := (es.map n).sum

/-- A member with its score is a marker of one of the admissions. -/
def Marks (es : List Admission) (m : String) (score : Int) : Prop :=
  ∃ a ∈ es, ∃ i, 1 ≤ i ∧ i ≤ a.n ∧ m = marker a.time i ∧ score = a.time

variable {window : Duration} {now later t i : Nat} {es : List Admission} {a : Admission}

theorem mem_recent : a ∈ recent window now es ↔ a ∈ es ∧ now < a.time + window.millis := by
  simp [recent]

theorem mem_times : t ∈ times es ↔ ∃ a ∈ es, a.time = t := by
  simp [times]

/-- A number is at most the largest one of a time if one of its admissions has as many events. -/
theorem le_most_iff (hi : 1 ≤ i) : i ≤ most t es ↔ ∃ a ∈ es, a.time = t ∧ i ≤ a.n := by
  induction es with
  | nil => simp [most]; omega
  | cons a es ih =>
      rw [most]
      by_cases ht : a.time = t
      · simp [ht, ih]
      · simp [ht, ih]

/-- At a time without admissions there are no events. -/
theorem most_eq_zero (h : t ∉ times es) : most t es = 0 := by
  refine Nat.eq_zero_of_not_pos fun hpos => h ?_
  obtain ⟨a, ha, ht, -⟩ := (le_most_iff (Nat.le_refl 1)).1 hpos
  exact mem_times.2 ⟨a, ha, ht⟩

/-- **Admissions of one time count once**, so all of them count at most as one by one. -/
theorem sum_most_le (es : List Admission) : ∑ t ∈ times es, most t es ≤ total es := by
  induction es with
  | nil => simp [times, total]
  | cons a es ih =>
      have htimes : times (a :: es) = insert a.time (times es) := by
        simp [times]
      have hadd (t : Nat) : most t (a :: es) ≤ (if a.time = t then a.n else 0) + most t es := by
        rw [most]
        by_cases ht : a.time = t
        · simp only [ht, if_true]
          omega
        · simp [ht]
      calc ∑ t ∈ times (a :: es), most t (a :: es)
          ≤ ∑ t ∈ times (a :: es), ((if a.time = t then a.n else 0) + most t es) :=
            Finset.sum_le_sum fun t _ => hadd t
        _ = a.n + ∑ t ∈ times (a :: es), most t es := by
            rw [Finset.sum_add_distrib, Finset.sum_ite_eq, if_pos]
            rw [htimes]
            exact Finset.mem_insert_self _ _
        _ = a.n + ∑ t ∈ times es, most t es := by
            rw [htimes, Finset.sum_insert_of_eq_zero_if_notMem (f := fun t => most t es)
              fun h => most_eq_zero h]
        _ ≤ a.n + total es := Nat.add_le_add_left ih _
        _ = total (a :: es) := by simp [total]

theorem recent_append (window : Duration) (now : Nat) (es es' : List Admission) :
    recent window now (es ++ es') = recent window now es ++ recent window now es' :=
  List.filter_append ..

theorem total_append (es es' : List Admission) : total (es ++ es') = total es + total es' := by
  simp [total]

theorem marks_append {es' : List Admission} {m : String} {score : Int} :
    Marks (es ++ es') m score ↔ Marks es m score ∨ Marks es' m score := by
  simp only [Marks, List.mem_append, or_and_right, exists_or]

theorem marks_recent {m : String} {score : Int} :
    Marks (recent window now es) m score ↔
      Marks es m score ∧ (now : Int) < score + window.millis := by
  simp only [Marks, mem_recent]
  constructor
  · rintro ⟨a, ⟨ha, hin⟩, i, hone, hi, hm, rfl⟩
    exact ⟨⟨a, ha, i, hone, hi, hm, rfl⟩, by omega⟩
  · rintro ⟨⟨a, ha, i, hone, hi, hm, rfl⟩, hin⟩
    exact ⟨a, ⟨ha, by omega⟩, i, hone, hi, hm, rfl⟩

/-- A window that ends later has no more of the admissions. -/
theorem total_recent_le (h : now ≤ later) (es : List Admission) :
    total (recent window later es) ≤ total (recent window now es) := by
  induction es with
  | nil => exact Nat.le_refl _
  | cons a es ih =>
      have hfirst : total (recent window later [a]) ≤ total (recent window now [a]) := by
        by_cases hlater : later < a.time + window.millis
        · have hnow : now < a.time + window.millis := by omega
          simp [recent, hlater, hnow]
        · simp [recent, hlater, total]
      rw [← List.singleton_append, recent_append, recent_append, total_append, total_append]
      exact Nat.add_le_add hfirst ih

/-- Admissions that are all out of the window. -/
theorem recent_eq_nil (h : ∀ a ∈ es, a.time + window.millis ≤ now) : recent window now es = [] := by
  rw [recent, List.filter_eq_nil_iff]
  intro a ha
  have hout := h a ha
  simp only [decide_eq_true_eq]
  omega

/-- The markers of admissions. -/
def markers (es : List Admission) : Finset String :=
  ((times es).sigma fun t => Finset.Icc 1 (most t es)).image fun x => marker x.1 x.2

theorem mem_markers {m : String} : m ∈ markers es ↔ ∃ score, Marks es m score := by
  simp only [markers, Finset.mem_image, Finset.mem_sigma, Finset.mem_Icc, Sigma.exists]
  constructor
  · rintro ⟨t, i, ⟨-, hone, hi⟩, rfl⟩
    obtain ⟨a, ha, rfl, hle⟩ := (le_most_iff hone).1 hi
    exact ⟨a.time, a, ha, i, hone, hle, rfl, rfl⟩
  · rintro ⟨-, a, ha, i, hone, hi, rfl, -⟩
    exact ⟨a.time, i, ⟨mem_times.2 ⟨a, ha, rfl⟩, hone, (le_most_iff hone).2 ⟨a, ha, rfl, hi⟩⟩, rfl⟩

/-- There are as many markers as events, where admissions of one time count once. -/
theorem card_markers (es : List Admission) : (markers es).card = ∑ t ∈ times es, most t es := by
  rw [markers, Finset.card_image_of_injOn, Finset.card_sigma]
  · simp
  · rintro ⟨t, i⟩ - ⟨t', i'⟩ - h
    obtain ⟨rfl, rfl⟩ := marker_injective h
    rfl

end Admission

/-- The cardinality of a key is the number of the members that its slot has. -/
theorem Keyspace.cardinality_eq {ks : Keyspace} {key : String} {now : Nat} {members : Finset String}
    (hset : Slot.IsMarkers (ks.get? key))
    (h : ∀ m, m ∈ members ↔ ∃ score, Slot.score? (Slot.live now (ks.get? key)) m = some score) :
    (ks.cardinality now key).1 = .ok members.card := by
  have hlive := hset.live now
  unfold cardinality
  simp only [purge_eq, get?_assign_self]
  rcases hslot : Slot.live now (ks.get? key) with _ | ⟨v | table, expiry⟩
  · have hempty : members = ∅ := Finset.eq_empty_of_forall_notMem fun m hm => by
      obtain ⟨score, hscore⟩ := (h m).1 hm
      rw [hslot] at hscore
      exact nomatch hscore
    rw [hempty]
    rfl
  · rw [hslot] at hlive
    exact absurd hlive (Slot.not_isMarkers_int v expiry)
  · have hkeys : table.keys.toFinset = members := by
      ext m
      rw [List.mem_toFinset, Table.mem_keys_iff, h m, hslot]
      rfl
    rw [← hkeys, List.toFinset_card_of_nodup table.nodup_keys, ← Table.size_eq_length_keys]

/-! ### What a store remembers -/

/-- A store remembers the admissions of a key, as far as they are in the window: the counter covers
them, and the members with a time in the window are their markers. -/
structure Keyspace.Remembers (ks : Keyspace) (key : String) (window : Duration) (now : Nat)
    (es : List Admission) : Prop where
  past : ∀ a ∈ es, a.time ≤ now
  counted : ∃ a : Account, ks.Shows key a ∧ ∀ later, now ≤ later →
    Admission.total (Admission.recent window later es) ≤ (a.asOf later).used
  natural : ∀ later, now ≤ later → ∀ m score,
    Slot.score? (Slot.live later (ks.get? key)) m = some score → 0 ≤ score
  marked : ∀ later, now ≤ later → ∀ m (score : Int), later < score + window.millis →
    (Slot.score? (Slot.live later (ks.get? key)) m = some score ↔ Admission.Marks es m score)

/-- The scores that are out of the window of a decision on one clock. -/
theorem Visit.stale_iff {v : Visit} (hclock : v.clock = v.call.now)
    (htime : v.call.now < 4611686018427387904) (hwindow : v.window.millis < 4611686018427387904)
    {score : Int} :
    v.Stale score ↔ Text.minInt ≤ score ∧ score + v.window.millis ≤ v.call.now := by
  unfold Stale time Account.word Duration.clampedMillis maxWord
  omega

theorem Visit.time_eq {v : Visit} (hclock : v.clock = v.call.now)
    (htime : v.call.now < 4611686018427387904) : v.time = v.call.now := by
  unfold time Account.word
  omega

/-- Nothing is left at the two keys of a limiter key that was reset. -/
theorem Keyspace.get?_without (ks : Keyspace) (key : String) :
    (ks.without key).get? key = none ∧ (ks.without key).get? (counterKey key) = none := by
  constructor
  · rw [without, get?_assign_of_ne _ (SlidingScript.counterKey_ne key), get?_assign_self]
  · rw [without, get?_assign_self]

namespace Keyspace.Remembers

open Admission

variable {ks ks' : Keyspace} {key : String} {window : Duration} {now later : Nat}
  {es : List Admission}

/-- An empty store remembers that nothing was admitted. -/
theorem of_none (hevents : ks.get? key = none) (hcounter : ks.get? (counterKey key) = none)
    (window : Duration) (now : Nat) : ks.Remembers key window now [] := by
  refine ⟨nofun, ⟨.fresh, ⟨?_, ?_⟩, fun _ _ => Nat.zero_le _⟩, fun _ _ _ _ h => ?_,
    fun _ _ _ _ _ => ?_⟩
  · rw [hevents]
    exact trivial
  · rw [hcounter]
    exact .absent
  · rw [hevents] at h
    exact nomatch h
  · rw [hevents]
    exact ⟨nofun, fun ⟨_, ha, _⟩ => nomatch ha⟩

/-- What is remembered at a time is remembered later. -/
theorem mono (h : ks.Remembers key window now es) (hle : now ≤ later) :
    ks.Remembers key window later es := by
  obtain ⟨a, hshows, hcovers⟩ := h.counted
  exact ⟨fun a ha => Nat.le_trans (h.past a ha) hle,
    ⟨a, hshows, fun t ht => hcovers t (Nat.le_trans hle ht)⟩,
    fun t ht => h.natural t (Nat.le_trans hle ht), fun t ht => h.marked t (Nat.le_trans hle ht)⟩

/-- A store with the same two slots remembers the same. -/
theorem congr (h : ks.Remembers key window now es) (hevents : ks'.get? key = ks.get? key)
    (hcounter : ks'.get? (counterKey key) = ks.get? (counterKey key)) :
    ks'.Remembers key window now es := by
  obtain ⟨a, hshows, hcovers⟩ := h.counted
  exact ⟨h.past, ⟨a, hshows.congr hevents hcounter, hcovers⟩, hevents ▸ h.natural,
    hevents ▸ h.marked⟩

variable {v : Visit}

/-- **A decision that admits nothing** loses nothing that is in the window. -/
theorem pay_refused (h : ks.Remembers v.key v.window now es) (hnow : now ≤ v.call.now)
    (hclock : v.clock = v.call.now) (htime : v.call.now < 4611686018427387904)
    (hwindow : v.window.millis < 4611686018427387904) (hrefused : (v.pay ks).1 ≠ .ok true) :
    (v.pay ks).2.Remembers v.key v.window v.call.now es := by
  obtain ⟨a, hshows, hcovers⟩ := h.counted
  obtain ⟨hanswer, hshows'⟩ := hshows.pay
  obtain ⟨-, hloses⟩ := (v.leaves_pay ks).spares hrefused
  refine ⟨(h.mono hnow).past, ⟨_, hshows', fun t ht => ?_⟩, fun t ht m score hm => ?_,
    fun t ht m score hscore => ?_⟩
  · have hcover := hcovers t (Nat.le_trans hnow ht)
    rw [hanswer] at hrefused
    obtain ⟨-, ha⟩ | ⟨-, ha⟩ := Visit.onAccount_of_not_admitted hrefused
    · rw [ha]
      exact hcover
    · rw [ha, Account.asOf_asOf ht]
      exact hcover
  · rw [← Slot.live_live ht] at hm
    have hm := hloses.score?_of hm
    rw [Slot.live_live ht] at hm
    exact h.natural t (Nat.le_trans hnow ht) m score hm
  · have hfresh : ¬ v.Stale score := by
      rw [Visit.stale_iff hclock htime hwindow]
      omega
    rw [← Slot.live_live ht, hloses.score?_iff hfresh, Slot.live_live ht]
    exact h.marked t (Nat.le_trans hnow ht) m score hscore

/-- **A decision that admits** puts its events on top of what is in the window. -/
theorem pay_admitted (h : ks.Remembers v.key v.window now es) (hnow : now ≤ v.call.now)
    (hclock : v.clock = v.call.now) (htime : v.call.now < 4611686018427387904)
    (hwindow : v.window.millis < 4611686018427387904) (hadmitted : (v.pay ks).1 = .ok true) :
    (v.pay ks).2.Remembers v.key v.window v.call.now
      (es ++ [⟨v.call.now, Account.word v.n⟩]) := by
  obtain ⟨a, hshows, hcovers⟩ := h.counted
  obtain ⟨hanswer, hshows'⟩ := hshows.pay
  obtain ⟨used, members, -, -, -, hset, hmembers⟩ := (v.leaves_pay ks).admits hadmitted
  have hlapse : v.call.now + v.window.millis < Account.lapseAfter v.call.now v.window :=
    Account.lt_lapseAfter htime (by omega)
  have hpast : ∀ a ∈ es ++ [⟨v.call.now, Account.word v.n⟩], a.time ≤ v.call.now := by
    intro a ha
    obtain ha | ha := List.mem_append.1 ha
    · exact (h.mono hnow).past a ha
    · rw [List.mem_singleton.1 ha]
  have hevents (t : Nat) (m : String) : Slot.score? (Slot.live t ((v.pay ks).2.get? v.key)) m =
      if Account.lapseAfter v.call.now v.window ≤ t then none else members.get? m := by
    rw [hset, Slot.score?_live_set]
    simp [Entry.expired]
  refine ⟨hpast, ⟨_, hshows', fun t ht => ?_⟩, fun t ht m score hm => ?_,
    fun t ht m score hscore => ?_⟩
  · rw [hanswer] at hadmitted
    rw [(Visit.onAccount_of_admitted hadmitted).2, Account.asOf]
    simp only
    by_cases hlapsed : Account.lapseAfter v.call.now v.window ≤ t
    · -- by then every window has passed
      rw [recent_eq_nil fun a ha => ?_]
      · exact Nat.zero_le _
      · have := hpast a ha
        omega
    · rw [if_neg hlapsed, recent_append, total_append]
      have hold := hcovers v.call.now hnow
      have hless : total (recent v.window t es) ≤ total (recent v.window v.call.now es) :=
        total_recent_le ht es
      have hnew : total (recent v.window t [⟨v.call.now, Account.word v.n⟩]) ≤
          Account.word v.n := by
        by_cases hin : t < v.call.now + v.window.millis <;> simp [recent, total, hin]
      simp only
      omega
  · rw [hevents] at hm
    obtain ⟨-, rfl⟩ | ⟨-, hold, -⟩ := (hmembers m score).1 (Option.ite_none_left_eq_some.1 hm).2
    · exact Int.natCast_nonneg _
    · exact h.natural v.call.now hnow m score hold
  · rw [hevents, Option.ite_none_left_eq_some, hmembers m score, marks_append,
      h.marked v.call.now hnow m score (by omega)]
    have hnew : v.Marks m ∧ score = v.time ↔
        Marks [⟨v.call.now, Account.word v.n⟩] m score := by
      rw [Visit.Marks, Visit.time_eq hclock htime]
      simp [Marks, ← exists_and_right, and_assoc]
    have hfresh : ¬ v.Stale score := by
      rw [Visit.stale_iff hclock htime hwindow]
      omega
    rw [hnew]
    constructor
    · rintro ⟨-, hm | ⟨-, hm, -⟩⟩
      · exact Or.inr hm
      · exact Or.inl hm
    · intro hm
      have hnotlapsed : ¬ Account.lapseAfter v.call.now v.window ≤ t := by
        obtain ⟨a, ha, i, -, -, -, rfl⟩ := marks_append.2 hm
        have := hpast a ha
        omega
      refine ⟨hnotlapsed, ?_⟩
      obtain hm | hm := hm
      · by_cases hmarks : v.Marks m
        · -- an older marker of this name is one of the same time
          have hsame : score = v.time := by
            obtain ⟨a, -, i, -, -, hold, rfl⟩ := hm
            obtain ⟨j, -, -, hnow⟩ := hmarks
            rw [Visit.time_eq hclock htime] at hnow ⊢
            rw [(marker_injective (hold.symm.trans hnow)).1]
          exact Or.inl (hnew.1 ⟨hmarks, hsame⟩)
        · exact Or.inr ⟨hmarks, hm, hfresh⟩
      · exact Or.inl hm

end Keyspace.Remembers

/-! ### Runs and their admissions -/

namespace Question

/-- The decision of a call in its circumstances, if it asks for one. -/
def visit? (s : Setting) : Question → Option Visit
  | .allowN l ctx key n limit window => some (.within s l.clock ctx key n limit window)
  | .poll w => some (.within s w.limiter.clock w.ctx w.key 1 w.limit w.window)
  | .reset .. => none

/-- The entries after a run. -/
def after : Keyspace → List (Setting × Question) → Keyspace
  | ks, [] => ks
  | ks, (s, q) :: rest => after (q.step s ks).2 rest

/-- A run with its answers. -/
def exchanges : Keyspace → List (Setting × Question) → List Exchange
  | _, [] => []
  | ks, (s, q) :: rest => ((s, q), (q.step s ks).1) :: exchanges (q.step s ks).2 rest

/-- A call answers and does not fail. -/
def Reply.isOk : Reply → Bool
  | .decided (.ok _) => true
  | .cleared (.ok _) => true
  | _ => false

/-- The number of events that a call asks for. -/
def size : Question → Nat
  | .allowN _ _ _ n _ _ => n
  | .poll _ => 1
  | .reset .. => 0

/-- The admissions of a key since its last reset, after one more call. -/
def withExchange (key : String) (es : List Admission) (x : Exchange) : List Admission :=
  if x.1.2.key = key then
    match x.2 with
    | .decided (.ok true) => es ++ [⟨x.1.1.storeReading, Account.word x.1.2.size⟩]
    | .cleared (.ok _) => []
    | _ => es
  else es

/-- The admissions of a key since its last reset. -/
def admissions (key : String) (xs : List Exchange) : List Admission :=
  xs.foldl (withExchange key) []

/-- A call that asks for a decision answers as this does, and leaves what this does; only a poll in
a finished context can fail for another reason. -/
theorem step_of_visit {s : Setting} {q : Question} {v : Visit} (h : q.visit? s = some v)
    (ks : Keyspace) : ∃ answer, q.step s ks = (.decided answer, (v.pay ks).2) ∧
      ∀ admitted, answer = .ok admitted ↔ (v.pay ks).1 = .ok admitted := by
  cases q with
  | allowN l ctx key n limit window =>
      obtain rfl := Option.some.inj h
      exact ⟨_, step_allowN s l ctx key n limit window ks, fun _ => Iff.rfl⟩
  | poll w =>
      have hv : Visit.within s w.limiter.clock w.ctx w.key 1 w.limit w.window = v :=
        Option.some.inj h
      cases w.deals_poll s with
      | silent turn s' run ends =>
          -- the decision that the poll does not make would be barred too
          obtain ⟨cause, hstatus, rfl⟩ := ends
          cases hbar : v.bar? with
          | none =>
              have hlive : s.status w.ctx = none := by
                rw [← hv] at hbar
                exact (Visit.bar?_eq_none_iff.1 hbar).2.1
              exact absurd (hlive.symm.trans hstatus) (Option.some_ne_none cause).symm
          | some e =>
              rw [Visit.pay_of_bar hbar]
              refine ⟨.error (.context cause), ?_, fun _ => by simp⟩
              simp only [step, Act.on, act, Act.map_apply, run]
              rfl
      | asks v' f run ends =>
          obtain ⟨-, hv', hpolled⟩ := ends (v'.pay ks).1
          obtain rfl : v' = v := hv'.trans hv
          refine ⟨(v'.pay ks).1, ?_, fun _ => Iff.rfl⟩
          simp only [step, Act.on, act, Act.map_apply, run, hpolled.reading]
          rfl
  | reset l ctx key => exact absurd h.symm (Option.some_ne_none v)

/-- The circumstances of a decision tell its key, its time and its events. -/
theorem visit?_eq_some {s : Setting} {q : Question} {v : Visit} (h : q.visit? s = some v) :
    v.key = q.key ∧ v.call.now = s.storeReading ∧ v.n = q.size := by
  cases q with
  | allowN l ctx key n limit window =>
      obtain rfl := Option.some.inj h
      exact ⟨rfl, rfl, rfl⟩
  | poll w =>
      obtain rfl := Option.some.inj h
      exact ⟨rfl, rfl, rfl⟩
  | reset l ctx key => exact absurd h.symm (Option.some_ne_none v)

/-! ### What runs keep -/

section Runs

variable {ks : Keyspace} {key : String} {window : Duration} {now : Nat} {es : List Admission}
  {s : Setting} {q : Question} {xs : List (Setting × Question)}

/-- A call of another key admits nothing of this key. -/
theorem withExchange_of_ne (h : q.key ≠ key) (reply : Reply) :
    withExchange key es ((s, q), reply) = es :=
  if_neg h

/-- A call changes nothing at keys apart from its own. -/
theorem step_of_apart (h : Apart key q.key) (s : Setting) (ks : Keyspace) :
    (q.step s ks).2.get? key = ks.get? key ∧
      (q.step s ks).2.get? (counterKey key) = ks.get? (counterKey key) := by
  cases hvisit : q.visit? s with
  | some v =>
      obtain ⟨hkey, -, -⟩ := visit?_eq_some hvisit
      obtain ⟨answer, hstep, -⟩ := step_of_visit hvisit ks
      rw [← hkey] at h
      rw [hstep]
      exact ⟨v.get?_pay_of_ne ks h.1.symm h.2.1.symm,
        v.get?_pay_of_ne ks h.2.2 h.counterKey_ne.symm⟩
  | none =>
      cases q with
      | reset l ctx j =>
          rw [step_reset]
          cases SlidingWindow.resetBar? ⟨s.status ctx, s.storeReading⟩ j s.backend with
          | some e => exact ⟨rfl, rfl⟩
          | none =>
              exact ⟨ks.get?_assign_assign_of_ne h.1.symm h.2.1.symm none none,
                ks.get?_assign_assign_of_ne h.2.2 h.counterKey_ne.symm none none⟩
      | _ => exact nomatch hvisit

/-- **One call keeps what is remembered**, together with what it admits itself. -/
theorem remembers_step (h : ks.Remembers key window now es)
    (hkey : q.key = key ∨ Apart key q.key)
    (hvisit : ∀ v ∈ q.visit? s, v.key = key → v.clock = s.storeReading ∧ v.window = window)
    (hnow : now ≤ s.storeReading) (htime : s.storeReading < 4611686018427387904)
    (hwindow : window.millis < 4611686018427387904) :
    (q.step s ks).2.Remembers key window s.storeReading
      (withExchange key es ((s, q), (q.step s ks).1)) := by
  obtain rfl | hapart := hkey
  · cases hasked : q.visit? s with
    | some v =>
        obtain ⟨hkey, htime', hn⟩ := visit?_eq_some hasked
        obtain ⟨answer, hstep, hanswer⟩ := step_of_visit hasked ks
        obtain ⟨hclock, rfl⟩ := hvisit v hasked hkey
        rw [← htime'] at hnow htime hclock ⊢
        rw [hstep, withExchange, if_pos rfl]
        rw [← hkey] at h ⊢
        rcases answer with e | _ | _
        · exact h.pay_refused hnow hclock htime hwindow fun hok => nomatch (hanswer true).2 hok
        · exact h.pay_refused hnow hclock htime hwindow fun hok => nomatch (hanswer true).2 hok
        · simp only [← htime', ← hn]
          exact h.pay_admitted hnow hclock htime hwindow ((hanswer true).1 rfl)
    | none =>
        cases q with
        | reset l ctx key =>
            rw [step_reset, withExchange, if_pos rfl]
            cases SlidingWindow.resetBar? ⟨s.status ctx, s.storeReading⟩ key s.backend with
            | some e => exact h.mono hnow
            | none =>
                obtain ⟨hevents, hcounter⟩ := ks.get?_without key
                exact .of_none hevents hcounter window _
        | _ => exact nomatch hasked
  · obtain ⟨hevents, hcounter⟩ := step_of_apart hapart s ks
    rw [withExchange_of_ne hapart.1.symm]
    exact (h.mono hnow).congr hevents hcounter

/-- **Every run keeps what is remembered**, together with what it admits. -/
theorem remembers_after {later : Nat} (h : ks.Remembers key window now es)
    (hkeys : ∀ x ∈ xs, x.2.key = key ∨ Apart key x.2.key)
    (hvisits : ∀ x ∈ xs, ∀ v ∈ x.2.visit? x.1, v.key = key →
      v.clock = x.1.storeReading ∧ v.window = window)
    (hwindow : window.millis < 4611686018427387904) (hlater : later < 4611686018427387904)
    (hpast : now ≤ later) (hnow : ∀ x ∈ xs, now ≤ x.1.storeReading ∧ x.1.storeReading ≤ later)
    (hclock : xs.Pairwise fun x y => x.1.storeReading ≤ y.1.storeReading) :
    (after ks xs).Remembers key window later ((exchanges ks xs).foldl (withExchange key) es) := by
  induction xs generalizing ks now es with
  | nil => exact h.mono hpast
  | cons x rest ih =>
      obtain ⟨s, q⟩ := x
      obtain ⟨hkey, hkeys⟩ := List.forall_mem_cons.1 hkeys
      obtain ⟨hvisit, hvisits⟩ := List.forall_mem_cons.1 hvisits
      obtain ⟨⟨hle, hbound⟩, hnow⟩ := List.forall_mem_cons.1 hnow
      obtain ⟨hfirst, hclock⟩ := List.pairwise_cons.1 hclock
      have hstep := remembers_step h hkey hvisit hle (Nat.lt_of_le_of_lt hbound hlater) hwindow
      exact ih hstep hkeys hvisits hbound (fun x hx => ⟨hfirst x hx, (hnow x hx).2⟩) hclock

/-- After a call that did not fail no member of its key is out of the window. -/
theorem window_of_score? (hwindow : window.millis < 4611686018427387904)
    (htime : s.storeReading < 4611686018427387904)
    (hvisit : ∀ v ∈ q.visit? s, v.key = q.key → v.clock = s.storeReading ∧ v.window = window)
    (hok : (q.step s ks).1.isOk) {m : String} {score : Int} (hscore : 0 ≤ score)
    (hm : Slot.score? (Slot.live s.storeReading ((q.step s ks).2.get? q.key)) m = some score) :
    s.storeReading < score + window.millis := by
  cases hasked : q.visit? s with
  | some v =>
      obtain ⟨hkey, htime', -⟩ := visit?_eq_some hasked
      obtain ⟨answer, hstep, hanswer⟩ := step_of_visit hasked ks
      obtain ⟨hclock, rfl⟩ := hvisit v hasked hkey
      rw [← htime'] at htime hclock hm ⊢
      rw [hstep] at hok hm
      rw [← hkey] at hm
      cases answer with
      | error e => exact nomatch hok
      | ok admitted =>
          have hfresh := (v.leaves_pay ks).evicts admitted ((hanswer admitted).1 rfl) m score hm
          rw [Visit.stale_iff hclock htime hwindow] at hfresh
          unfold Text.minInt at hfresh
          omega
  | none =>
      cases q with
      | reset l ctx key =>
          rw [step_reset] at hok hm
          cases hbar : SlidingWindow.resetBar? ⟨s.status ctx, s.storeReading⟩ key s.backend with
          | some e =>
              rw [hbar] at hok
              exact nomatch hok
          | none =>
              rw [hbar] at hm
              have hnone := (ks.get?_without key).1
              simp only [Question.key, hnone] at hm
              exact nomatch hm
      | _ => exact nomatch hasked

end Runs

theorem exchanges_append (ks : Keyspace) (xs ys : List (Setting × Question)) :
    exchanges ks (xs ++ ys) = exchanges ks xs ++ exchanges (after ks xs) ys := by
  induction xs generalizing ks with
  | nil => rfl
  | cons x rest ih =>
      obtain ⟨s, q⟩ := x
      rw [List.cons_append, exchanges, exchanges, after, ih, List.cons_append]

/-- **The markers are the events in the window.**  A key is used by decisions, polls and resets with
one window, and by no other limiter key; its limiters and the store read one clock, which does not
go back.  Then after every call of the key that does not fail, be it admitted, denied or a reset,
the members of its marker slot are exactly the markers of the admissions since the last reset whose
time is in the window, with this time as their score.  Their number is the sum of the largest
admissions of each time, and at most what the counter reads. -/
theorem members_eq_admissions {key : String} (window : Duration) {xs : List (Setting × Question)}
    {s : Setting} {q : Question} (hkey : q.key = key)
    (hkeys : ∀ x ∈ xs, x.2.key = key ∨ Apart key x.2.key)
    (hvisits : ∀ x ∈ xs ++ [(s, q)], ∀ v ∈ x.2.visit? x.1, v.key = key →
      v.clock = x.1.storeReading ∧ v.window = window)
    (hwindow : window.millis < 4611686018427387904)
    (htime : ∀ x ∈ xs ++ [(s, q)], x.1.storeReading < 4611686018427387904)
    (hclock : (xs ++ [(s, q)]).Pairwise fun x y => x.1.storeReading ≤ y.1.storeReading)
    (hok : (q.step s (after .empty xs)).1.isOk) :
    let ks := (q.step s (after .empty xs)).2
    let es := Admission.recent window s.storeReading
      (admissions key (exchanges .empty (xs ++ [(s, q)])))
    (∀ m score, Slot.score? (Slot.live s.storeReading (ks.get? key)) m = some score ↔
        Admission.Marks es m score) ∧
      (ks.cardinality s.storeReading key).1 =
        .ok (∑ t ∈ Admission.times es, Admission.most t es) ∧
      ∃ count, ks.counter s.storeReading key = .ok count ∧
        (∑ t ∈ Admission.times es, Admission.most t es : Nat) ≤ count := by
  intro ks es
  subst hkey
  have hs : (s, q) ∈ xs ++ [(s, q)] := by simp
  have hxs {x : Setting × Question} (hx : x ∈ xs) : x ∈ xs ++ [(s, q)] :=
    List.mem_append_left _ hx
  obtain ⟨hclock, -, hlast⟩ := List.pairwise_append.1 hclock
  have hbefore : (after .empty xs).Remembers q.key window s.storeReading
      (admissions q.key (exchanges .empty xs)) :=
    remembers_after (.of_none (Keyspace.get?_empty _) (Keyspace.get?_empty _) window 0) hkeys
      (fun x hx => hvisits x (hxs hx)) hwindow (htime _ hs) (Nat.zero_le _)
      (fun x hx => ⟨Nat.zero_le _, hlast x hx (s, q) (by simp)⟩) hclock
  have hafter := remembers_step hbefore (Or.inl rfl) (hvisits _ hs) (Nat.le_refl _) (htime _ hs)
    hwindow
  have hadmitted : withExchange q.key (admissions q.key (exchanges .empty xs))
      ((s, q), (q.step s (after .empty xs)).1) =
        admissions q.key (exchanges .empty (xs ++ [(s, q)])) := by
    rw [exchanges_append, admissions, admissions, List.foldl_append]
    rfl
  rw [hadmitted] at hafter
  have hmembers (m : String) (score : Int) :
      Slot.score? (Slot.live s.storeReading (ks.get? q.key)) m = some score ↔
        Admission.Marks es m score := by
    rw [Admission.marks_recent]
    constructor
    · intro hm
      have hwithin := window_of_score? hwindow (htime _ hs) (hvisits _ hs) hok
        (hafter.natural _ (Nat.le_refl _) m score hm) hm
      exact ⟨(hafter.marked _ (Nat.le_refl _) m score hwithin).1 hm, hwithin⟩
    · rintro ⟨hmarks, hwithin⟩
      exact (hafter.marked _ (Nat.le_refl _) m score hwithin).2 hmarks
  obtain ⟨a, hshows, hcovers⟩ := hafter.counted
  refine ⟨hmembers, ?_, (a.asOf s.storeReading).used, ?_, ?_⟩
  · rw [Keyspace.cardinality_eq hshows.events fun m => ?_, Admission.card_markers es]
    rw [Admission.mem_markers]
    exact exists_congr fun score => (hmembers m score).symm
  · have hused := hshows.counter.used_asOf s.storeReading
    rw [hshows.counter_eq, hused, Keyspace.due]
    split <;> rfl
  · exact Int.ofNat_le.2 (Nat.le_trans (Admission.sum_most_le es) (hcovers _ (Nat.le_refl _)))

/-- Two and three events of one millisecond and one of a later time leave four markers; the counter
counts six events, so four more are denied. -/
theorem members_eq_admissions_shared_millisecond :
    let l : SlidingWindow := ⟨SlidingWindow.defaultPollInterval, .timer, .own, true⟩
    let window := Duration.ofMillis 1000
    let before := after .empty
      [(World.start 0 0 [], .allowN l 0 "a" 2 9 window),
        (World.start 0 0 [], .allowN l 0 "a" 3 9 window),
        (World.start 700 700 [], .poll ⟨l, 0, "a", 9, window, 0⟩)]
    (((allowN l 0 "a" 4 9 window).step (World.start 900 900 []) before).2.cardinality 900 "a").1 =
      .ok 4 :=
  (members_eq_admissions (Duration.ofMillis 1000) (s := World.start 900 900 [])
    (q := .allowN ⟨SlidingWindow.defaultPollInterval, .timer, .own, true⟩ 0 "a" 4 9
      (Duration.ofMillis 1000)) rfl (by decide) (by decide) (by decide) (by decide) (by decide)
    (by decide +kernel)).2.1.trans (congrArg Except.ok (by decide +kernel))

end Question

end Turnstile
