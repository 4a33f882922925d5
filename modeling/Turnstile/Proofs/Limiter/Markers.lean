/-
**The markers of a slot.**

An admission leaves a marker for each of its events: a member of a set whose name tells the time and
the number of the event, with the time as its score.  Every decision removes the members whose time
is out of the window, before it does anything else.  This module says which members a slot has after
each of these steps, and that no two events of different times or numbers have the same marker.

Main definitions:

* `Slot.score?` — the score of a member of a slot;
* `Slot.Loses` — one slot lost nothing of another but members with certain scores.

Main results:

* `SlidingScript.marker_injective` — a marker tells its time and its number;
* `Slot.Loses.score?_iff` — what is lost has one of the scores;
* `Slot.loses_removeByScore`, `Slot.score?_removeByScore` — what removing members by their scores
  loses, and what is left;
* `Slot.score?_marked` — the members of a slot after the markers of some events were added.
-/

import Mathlib.Data.List.Basic
import Turnstile.Proofs.Limiter.Settlement

set_option relaxedAutoImplicit false
set_option autoImplicit false

namespace Turnstile

open SlidingScript (marked marker)

/-! ### The names of markers -/

namespace SlidingScript

theorem toList_marker (t i : Nat) :
    (marker t i).toList = Nat.toDigits 10 t ++ ':' :: Nat.toDigits 10 i := by
  have hdigits (n : Nat) : (toString n).toList = Nat.toDigits 10 n := by
    rw [Nat.toString_eq_ofList_toDigits, String.toList_ofList]
  have hcolon : ":".toList = [':'] := rfl
  change (toString t ++ ":" ++ toString i).toList = _
  rw [String.toList_append, String.toList_append, hdigits, hdigits, hcolon, List.append_assoc,
    List.singleton_append]

/-- **A marker tells its time and its number**: neither of them has a colon among its digits. -/
theorem marker_injective {t t' i i' : Nat} (h : marker t i = marker t' i') : t = t' ∧ i = i' := by
  have hcolon (n : Nat) : ':' ∉ Nat.toDigits 10 n := fun hmem =>
    absurd (Nat.isDigit_of_mem_toDigits (by decide) (by decide) hmem) (by decide)
  have hread {n n' : Nat} (hdigits : Nat.toDigits 10 n = Nat.toDigits 10 n') : n = n' := by
    rw [← Nat.ofDigitChars_ten_toDigits (n := n), hdigits, Nat.ofDigitChars_ten_toDigits]
  have hlists := congrArg String.toList h
  rw [toList_marker, toList_marker, List.append_cons_inj_of_notMem (hcolon t) (hcolon i)] at hlists
  exact ⟨hread hlists.1, hread hlists.2.2⟩

end SlidingScript

/-! ### Members and their scores -/

namespace Slot

variable {now : Nat} {s : Slot} {m : String} {score low high : Int}

/-- The score of a member in a slot. -/
def score? (s : Slot) (m : String) : Option Int :=
  match s with
  | some ⟨.set members, _⟩ => members.get? m
  | _ => none

/-- A slot with a member is a set. -/
theorem set_of_score? (h : s.score? m = some score) :
    ∃ members expiry, s = some ⟨.set members, expiry⟩ := by
  rcases s with _ | ⟨v | members, expiry⟩
  · exact nomatch h
  · exact nomatch h
  · exact ⟨members, expiry, rfl⟩

/-- A slot holds what another one held, except members with certain scores that are gone; a set
without members is gone too. -/
inductive Loses (p : Int → Prop) : Slot → Slot → Prop
  | nothing (s : Slot) : Loses p s s
  | some (members kept : Table Int) (expiry : Option Nat)
      (same : ∀ m score, kept.get? m = some score → members.get? m = some score)
      (lost : ∀ m score, members.get? m = some score → kept.get? m = none → p score) :
      Loses p (some ⟨.set members, expiry⟩) (some ⟨.set kept, expiry⟩)
  | all (members : Table Int) (expiry : Option Nat)
      (lost : ∀ m score, members.get? m = some score → p score) :
      Loses p (some ⟨.set members, expiry⟩) none

/-- A set that has expired has no members. -/
theorem score?_live_set (later : Nat) (members : Table Int) (expiry : Option Nat) (m : String) :
    score? (live later (some ⟨.set members, expiry⟩)) m =
      if Entry.expired ⟨.int 0, expiry⟩ later then none else members.get? m := by
  rw [live_some]
  change score? (if Entry.expired ⟨.int 0, expiry⟩ later then none else _) m = _
  cases Entry.expired ⟨.int 0, expiry⟩ later with
  | false => rfl
  | true => rfl

namespace Loses

variable {p : Int → Prop} {before after : Slot}

/-- Nothing is won. -/
theorem score?_of (h : Loses p before after) {later : Nat}
    (hm : score? (live later after) m = .some score) :
    score? (live later before) m = .some score := by
  cases h with
  | nothing => exact hm
  | some members kept expiry same lost =>
      rw [score?_live_set] at hm ⊢
      cases hexpired : Entry.expired ⟨.int 0, expiry⟩ later with
      | true => simp [hexpired] at hm
      | false =>
          simp only [hexpired, Bool.false_eq_true, if_false] at hm ⊢
          exact same m score hm
  | all members expiry lost => exact nomatch hm

/-- What is lost has one of the scores. -/
theorem score?_iff (h : Loses p before after) (hscore : ¬ p score) (later : Nat) :
    score? (live later after) m = .some score ↔ score? (live later before) m = .some score := by
  refine ⟨h.score?_of, fun hm => ?_⟩
  cases h with
  | nothing => exact hm
  | some members kept expiry same lost =>
      rw [score?_live_set] at hm ⊢
      cases hexpired : Entry.expired ⟨.int 0, expiry⟩ later with
      | true => simp [hexpired] at hm
      | false =>
          simp only [hexpired, Bool.false_eq_true, if_false] at hm ⊢
          cases hleft : kept.get? m with
          | none => exact absurd (lost m score hm hleft) hscore
          | some score' => exact (same m score' hleft).symm.trans hm
  | all members expiry lost =>
      rw [score?_live_set] at hm
      cases hexpired : Entry.expired ⟨.int 0, expiry⟩ later with
      | true => simp [hexpired] at hm
      | false =>
          simp only [hexpired, Bool.false_eq_true, if_false] at hm
          exact absurd (lost m score hm) hscore

end Loses

/-- The members outside of a range are those whose scores are. -/
theorem get?_outside {members : Table Int} :
    (outside low high members).get? m = some score ↔
      members.get? m = some score ∧ ¬ (low ≤ score ∧ score ≤ high) := by
  rw [outside, Table.get?_filter, Option.filter_eq_some_iff]
  simp only [Bool.or_eq_true, decide_eq_true_eq]
  refine and_congr_right fun _ => ?_
  omega

/-- To remove members by their scores loses those, and nothing else of what had not expired. -/
theorem loses_removeByScore (now : Nat) (key : String) (low high : Int) (s : Slot) :
    Loses (fun score => low ≤ score ∧ score ≤ high) (live now s)
      (removeByScore now key low high s).2 := by
  unfold removeByScore
  rcases live now s with _ | ⟨v | members, expiry⟩
  · exact .nothing none
  · exact .nothing _
  have hlost (m : String) (score : Int) (hm : members.get? m = some score)
      (hgone : (outside low high members).get? m = none) : low ≤ score ∧ score ≤ high := by
    refine Classical.byContradiction fun hout => ?_
    rw [get?_outside.2 ⟨hm, hout⟩] at hgone
    exact nomatch hgone
  by_cases hempty : (outside low high members).isEmpty
  · simp only [hempty, if_true]
    exact .all members expiry fun m score hm => hlost m score hm (Table.isEmpty_iff.1 hempty m)
  · simp only [hempty, Bool.false_eq_true, if_false]
    exact .some members _ expiry (fun m score hm => (get?_outside.1 hm).1) hlost

/-- The members that are left after some were removed by their scores. -/
theorem score?_removeByScore (now : Nat) (key : String) (low high : Int) (s : Slot) :
    (removeByScore now key low high s).2.score? m = some score ↔
      (live now s).score? m = some score ∧ ¬ (low ≤ score ∧ score ≤ high) := by
  unfold removeByScore
  rcases live now s with _ | ⟨v | members, expiry⟩
  · simp [score?]
  · simp [score?]
  rw [score?, ← get?_outside]
  by_cases hempty : (outside low high members).isEmpty
  · simp [hempty, score?, Table.isEmpty_iff.1 hempty m]
  · simp [hempty, score?]

/-- What is left after members were removed had not expired. -/
theorem live_removeByScore (now : Nat) (key : String) (low high : Int) (s : Slot) :
    live now (removeByScore now key low high s).2 = (removeByScore now key low high s).2 := by
  have hlive := live_live (Nat.le_refl now) s
  unfold removeByScore
  rcases hs : live now s with _ | ⟨v | members, expiry⟩
  · rfl
  · rw [hs] at hlive
    exact hlive
  · have hexpired : (⟨.set (outside low high members), expiry⟩ : Entry).expired now = false :=
      (eq_of_live_eq_some hs).2
    by_cases hempty : (outside low high members).isEmpty
    · simp [hempty]
    · simp only [hempty, Bool.false_eq_true, if_false]
      exact live_of_not_expired hexpired

/-- A member that was added has its score, and the others have theirs. -/
theorem score?_addMember (h : s.IsMarkers) (hlive : live now s = s) (key : String) (score : Int)
    (member : String) :
    (addMember now key score member s).2.score? m =
      if member = m then some score else s.score? m := by
  unfold addMember
  rw [hlive]
  rcases s with _ | ⟨v | members, expiry⟩
  · simp [score?, Table.get?_set]
  · exact absurd h (not_isMarkers_int v expiry)
  · simp [score?, Table.get?_set]

/-- A slot to which a member was added has not expired. -/
theorem live_addMember (hlive : live now s = s) (key : String) (score : Int) (member : String) :
    live now (addMember now key score member s).2 = (addMember now key score member s).2 := by
  unfold addMember
  rw [hlive]
  rcases s with _ | ⟨v | members, expiry⟩
  · rfl
  · exact hlive
  · have hexpired : (⟨.set (members.set member score), expiry⟩ : Entry).expired now = false :=
      (eq_of_live_eq_some hlive).2
    exact live_of_not_expired hexpired

/-- A slot to which markers were added has not expired. -/
theorem live_marked (hlive : live now s = s) (key : String) (t : Int) (n : Nat) :
    live now (marked now key t n s) = marked now key t n s := by
  induction n with
  | zero => exact hlive
  | succ n ih => exact live_addMember ih key t (marker t (n + 1))

/-- **The members after markers were added** are these markers, at the time they bear, and what
other members there were. -/
theorem score?_marked (h : s.IsMarkers) (hlive : live now s = s) (key : String) (t : Int) (n : Nat)
    (m : String) (score : Int) :
    (marked now key t n s).score? m = some score ↔
      (∃ i, 1 ≤ i ∧ i ≤ n ∧ m = marker t i) ∧ score = t ∨
        (¬ ∃ i, 1 ≤ i ∧ i ≤ n ∧ m = marker t i) ∧ s.score? m = some score := by
  induction n with
  | zero =>
      have hnone : ¬ ∃ i, 1 ≤ i ∧ i ≤ 0 ∧ m = marker t i := by
        rintro ⟨i, h1, h0, -⟩
        omega
      simp only [marked, hnone, not_false_eq_true, false_and, true_and, false_or]
  | succ n ih =>
      have hstep : (∃ i, 1 ≤ i ∧ i ≤ n + 1 ∧ m = marker t i) ↔
          marker t (n + 1) = m ∨ ∃ i, 1 ≤ i ∧ i ≤ n ∧ m = marker t i := by
        constructor
        · rintro ⟨i, h1, hi, rfl⟩
          obtain rfl | hi := Nat.eq_or_lt_of_le hi
          · exact Or.inl rfl
          · exact Or.inr ⟨i, h1, by omega, rfl⟩
        · rintro (rfl | ⟨i, h1, hi, rfl⟩)
          · exact ⟨n + 1, by omega, Nat.le_refl _, rfl⟩
          · exact ⟨i, h1, by omega, rfl⟩
      rw [marked, score?_addMember (SlidingScript.isMarkers_marked h now key t n)
        (live_marked hlive key t n), hstep]
      by_cases hlast : marker t (n + 1) = m
      · simp [hlast, eq_comm]
      · simp [hlast, ih]

end Slot

end Turnstile
