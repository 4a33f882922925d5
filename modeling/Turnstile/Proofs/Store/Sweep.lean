/-
**An expired entry is never seen.**

A keyspace drops an entry whose expiry has come only when its key is next used.  The reference is a
keyspace that is never lazy: before every operation it removes all entries whose expiry has come by
then, and its operations know nothing of entries that are no more.  As long as the clock does not go
back, the two answer the same, whatever the operations are; an expiry that is set when it is already
due makes no difference either.  To read is therefore to change nothing: an operation that only
reads drops at most what nobody would have seen again.

A set that loses its last member is dropped at once, and nothing else empties a set.  So what a key
holds is never an empty set, and a key of a set exists exactly while it has members.

Main definitions:

* `KeyCommand.onHeld` — what a command does to what its key holds, if nothing there has expired;
* `Keyspace.sweep` — a keyspace without the entries whose expiry has come;
* `KeyCommand.runSwept`, `KeyCommand.sweptAnswers` — **the reference**, for one command and for a
  run of them;
* `KeyCommand.answers`, `KeyCommand.after` — a run on a keyspace that drops lazily;
* `Keyspace.Filled` — no key holds an empty set.

Main results:

* `KeyCommand.run_eq` — a command is its function on what is left in the slot of its key;
* `KeyCommand.run_swept` — one command answers like the reference, and what is left is the same;
* `KeyCommand.answers_eq_swept` — **runs answer like the reference, with and without the commands
  that only read, and leave no empty set**.
-/

import Mathlib.Control.Monad.Basic
import Turnstile.Proofs.Store.Slot
import Turnstile.Store.Keyspace

set_option relaxedAutoImplicit false
set_option autoImplicit false

namespace Turnstile

/-! ### Commands on what a key holds -/

namespace KeyCommand

/-- The key of a command, if it is about one. -/
def key? : KeyCommand → Option String
  | .now => none
  | .contains key | .int key | .incrBy key _ | .addMember key .. | .removeByScore key ..
  | .cardinality key | .expire key _ | .ttl key | .delete key => some key

/-- Whether a command only reads. -/
def reads : KeyCommand → Bool
  | .now | .contains _ | .int _ | .cardinality _ | .ttl _ => true
  | _ => false

/-- What a command does to what its key holds, if nothing there has expired. -/
def onHeld (time : Nat) : KeyCommand → Slot → Except StoreError Cell × Slot
  | .now, s => (.ok (.number time), s)
  | .contains _, s => (.ok (.truth s.isSome), s)
  | .int _, none => (.ok .absent, none)
  | .int _, some ⟨.int v, expiry⟩ => (.ok (.number v), some ⟨.int v, expiry⟩)
  | .int key, some ⟨.set members, expiry⟩ =>
      (.error (.wrongType key), some ⟨.set members, expiry⟩)
  | .incrBy _ by_, none => (.ok (.number by_), some ⟨.int by_, none⟩)
  | .incrBy _ by_, some ⟨.int v, expiry⟩ =>
      if Text.fitsWord (v + by_) then (.ok (.number (v + by_)), some ⟨.int (v + by_), expiry⟩)
      else (.error Keyspace.overflow, some ⟨.int v, expiry⟩)
  | .incrBy key _, some ⟨.set members, expiry⟩ =>
      (.error (.wrongType key), some ⟨.set members, expiry⟩)
  | .addMember _ score member, none =>
      (.ok (.truth true), some ⟨.set (Table.empty.set member score), none⟩)
  | .addMember _ score member, some ⟨.set members, expiry⟩ =>
      (.ok (.truth !members.contains member), some ⟨.set (members.set member score), expiry⟩)
  | .addMember key .., some ⟨.int v, expiry⟩ =>
      (.error (.wrongType key), some ⟨.int v, expiry⟩)
  | .removeByScore .., none => (.ok (.number 0), none)
  | .removeByScore _ low high, some ⟨.set members, expiry⟩ =>
      let kept := members.filter fun _ score => score < low || high < score
      (.ok (.number (members.size - kept.size : Nat)),
        if kept.isEmpty then none else some ⟨.set kept, expiry⟩)
  | .removeByScore key .., some ⟨.int v, expiry⟩ =>
      (.error (.wrongType key), some ⟨.int v, expiry⟩)
  | .cardinality _, none => (.ok (.number 0), none)
  | .cardinality _, some ⟨.set members, expiry⟩ =>
      (.ok (.number members.size), some ⟨.set members, expiry⟩)
  | .cardinality key, some ⟨.int v, expiry⟩ => (.error (.wrongType key), some ⟨.int v, expiry⟩)
  | .expire _ lifetime, s =>
      (.ok (.truth s.isSome),
        s.map fun e => { e with expiresAt := some (Keyspace.expiryAfter time lifetime) })
  | .ttl _, s =>
      (.ok (Cell.ofOption .span
        ((s.bind Entry.expiresAt).map fun t => Duration.ofMillis (t - time))), s)
  | .delete _, s => (.ok (.truth s.isSome), none)

/-- A command that only reads writes back what it finds. -/
theorem onHeld_of_reads {c : KeyCommand} (h : c.reads = true) (time : Nat) (s : Slot) :
    (c.onHeld time s).2 = s := by
  cases c with
  | incrBy | addMember | removeByScore | expire | delete => exact nomatch h
  | now | contains | ttl => rfl
  | int | cardinality => rcases s with _ | ⟨_ | _, _⟩ <;> rfl

end KeyCommand

namespace Keyspace

variable (ks : Keyspace) (now : Nat) (key : String)

theorem contains_eq : ks.contains now key =
    ks.onSlot key fun s => ((Slot.live now s).isSome, Slot.live now s) := by
  unfold contains onSlot
  simp only [purge_eq, get?_assign_self]

theorem ttl?_eq : ks.ttl? now key = ks.onSlot key fun s =>
    (((Slot.live now s).bind Entry.expiresAt).map fun t => Duration.ofMillis (t - now),
      Slot.live now s) := by
  unfold ttl? onSlot
  simp only [purge_eq, get?_assign_self]

end Keyspace

namespace KeyCommand

/-- **A command is its function on what is left in the slot of its key.** -/
theorem run_eq (c : KeyCommand) (time : Nat) (ks : Keyspace) :
    c.run time ks =
      match c.key? with
      | some key => ks.onSlot key fun s => c.onHeld time (Slot.live time s)
      | none => (.ok (.number time), ks) := by
  cases c with
  | now => rfl
  | contains key => simp only [run, key?, Keyspace.contains_eq]; rfl
  | int key =>
      simp only [run, key?, Keyspace.int?, Keyspace.purge_eq, Keyspace.get?_assign_self,
        Keyspace.onSlot]
      rcases Slot.live time (ks.get? key) with _ | ⟨v | members, expiry⟩ <;> rfl
  | incrBy key by_ =>
      simp only [run, key?, Keyspace.incrBy_eq, Keyspace.onSlot, Slot.incrBy]
      rcases Slot.live time (ks.get? key) with _ | ⟨v | members, expiry⟩
      · rfl
      · by_cases h : Text.fitsWord (v + by_) <;> simp [answering, onHeld, h, Except.map]
      · rfl
  | addMember key score member =>
      simp only [run, key?, Keyspace.addMember_eq, Keyspace.onSlot, Slot.addMember]
      rcases Slot.live time (ks.get? key) with _ | ⟨v | members, expiry⟩ <;> rfl
  | removeByScore key low high =>
      simp only [run, key?, Keyspace.removeByScore_eq, Keyspace.onSlot, Slot.removeByScore]
      rcases Slot.live time (ks.get? key) with _ | ⟨v | members, expiry⟩ <;> rfl
  | cardinality key =>
      simp only [run, key?, Keyspace.cardinality, Keyspace.purge_eq, Keyspace.get?_assign_self,
        Keyspace.onSlot]
      rcases Slot.live time (ks.get? key) with _ | ⟨v | members, expiry⟩ <;> rfl
  | expire key lifetime =>
      simp only [run, key?, Keyspace.expire_eq, Keyspace.onSlot, Slot.expire]
      cases Slot.live time (ks.get? key) <;> rfl
  | ttl key => simp only [run, key?, Keyspace.ttl?_eq]; rfl
  | delete key => simp only [run, key?, Keyspace.delete_eq]; rfl

end KeyCommand

/-! ### The reference -/

namespace Keyspace

/-- A keyspace without the entries whose expiry has come. -/
def sweep (ks : Keyspace) (now : Nat) : Keyspace :=
  ⟨ks.entries.filter fun _ e => !e.expired now⟩

theorem get?_sweep (ks : Keyspace) (now : Nat) (key : String) :
    (ks.sweep now).get? key = Slot.live now (ks.get? key) :=
  Table.get?_filter ks.entries _ key

/-- To sweep later is enough. -/
theorem sweep_sweep {now later : Nat} (h : now ≤ later) (ks : Keyspace) :
    (ks.sweep now).sweep later = ks.sweep later :=
  ext_slots fun key => by rw [get?_sweep, get?_sweep, get?_sweep, Slot.live_live h]

theorem sweep_assign (ks : Keyspace) (now : Nat) (key : String) (s : Slot) :
    (ks.assign key s).sweep now = (ks.sweep now).assign key (Slot.live now s) :=
  ext_slots fun j => by
    by_cases h : key = j <;> simp [get?_sweep, get?_assign, h]

/-- Keyspaces of which the same is left at a time have the same left from then on. -/
theorem sweep_congr {now later : Nat} (h : now ≤ later) {ks ks' : Keyspace}
    (hsame : ks.sweep now = ks'.sweep now) : ks.sweep later = ks'.sweep later := by
  rw [← sweep_sweep h ks, hsame, sweep_sweep h ks']

end Keyspace

namespace KeyCommand

/-- The reference: all entries whose expiry has come are removed, and the command acts on what its
key holds then. -/
def runSwept (time : Nat) (ks : Keyspace) (c : KeyCommand) : Except StoreError Cell × Keyspace :=
  match c.key? with
  | some key => (ks.sweep time).onSlot key (c.onHeld time)
  | none => (.ok (.number time), ks.sweep time)

/-- **One command answers like the reference, and what is left is the same.** -/
theorem run_swept (c : KeyCommand) {time : Nat} {ks ref : Keyspace}
    (h : ks.sweep time = ref.sweep time) :
    (c.run time ks).1 = (c.runSwept time ref).1 ∧
      (c.run time ks).2.sweep time = (c.runSwept time ref).2.sweep time := by
  rw [run_eq, runSwept, ← h]
  cases c.key? with
  | none => exact ⟨rfl, (Keyspace.sweep_sweep (Nat.le_refl time) ks).symm⟩
  | some key =>
      simp only [Keyspace.onSlot, Keyspace.get?_sweep, Keyspace.sweep_assign,
        Keyspace.sweep_sweep (Nat.le_refl time), and_self]

/-- A command that only reads leaves what is left of the keyspace. -/
theorem sweep_run_of_reads {c : KeyCommand} (h : c.reads = true) (time : Nat) (ks : Keyspace) :
    (c.run time ks).2.sweep time = ks.sweep time := by
  rw [run_eq]
  cases c.key? with
  | none => rfl
  | some key =>
      simp only [Keyspace.onSlot, onHeld_of_reads h, Keyspace.sweep_assign,
        Slot.live_live (Nat.le_refl time)]
      rw [← Keyspace.get?_sweep, Keyspace.assign_get?]

/-! ### Runs -/

/-- The answers of commands at their times. -/
def answers : Keyspace → List (Nat × KeyCommand) → List (Except StoreError Cell)
  | _, [] => []
  | ks, (time, c) :: rest => (c.run time ks).1 :: answers (c.run time ks).2 rest

/-- The keyspace after commands at their times. -/
def after : Keyspace → List (Nat × KeyCommand) → Keyspace
  | ks, [] => ks
  | ks, (time, c) :: rest => after (c.run time ks).2 rest

/-- The answers of the reference. -/
def sweptAnswers : Keyspace → List (Nat × KeyCommand) → List (Except StoreError Cell)
  | _, [] => []
  | ks, (time, c) :: rest => (c.runSwept time ks).1 :: sweptAnswers (c.runSwept time ks).2 rest

theorem length_answers (ks : Keyspace) (xs : List (Nat × KeyCommand)) :
    (answers ks xs).length = xs.length := by
  induction xs generalizing ks with
  | nil => rfl
  | cons x rest ih => exact congrArg Nat.succ (ih _)

theorem answers_append (ks : Keyspace) (xs ys : List (Nat × KeyCommand)) :
    answers ks (xs ++ ys) = answers ks xs ++ answers (after ks xs) ys := by
  induction xs generalizing ks with
  | nil => rfl
  | cons x rest ih => exact congrArg (_ :: ·) (ih _)

/-- From keyspaces of which the same is left, a run answers like the reference. -/
theorem answers_swept {now : Nat} {xs : List (Nat × KeyCommand)} {ks ref : Keyspace}
    (hclock : xs.Pairwise fun x y => x.1 ≤ y.1) (hnow : ∀ x ∈ xs, now ≤ x.1)
    (h : ks.sweep now = ref.sweep now) : answers ks xs = sweptAnswers ref xs := by
  induction xs generalizing now ks ref with
  | nil => rfl
  | cons x rest ih =>
      obtain ⟨time, c⟩ := x
      obtain ⟨hfirst, hclock⟩ := List.pairwise_cons.1 hclock
      obtain ⟨hanswer, hleft⟩ := c.run_swept
        (Keyspace.sweep_congr (hnow _ List.mem_cons_self) h)
      rw [answers, sweptAnswers, hanswer, ih hclock hfirst hleft]

/-- Runs from keyspaces of which the same is left answer the same. -/
theorem answers_congr {now : Nat} {xs : List (Nat × KeyCommand)} {ks ks' : Keyspace}
    (hclock : xs.Pairwise fun x y => x.1 ≤ y.1) (hnow : ∀ x ∈ xs, now ≤ x.1)
    (h : ks.sweep now = ks'.sweep now) : answers ks xs = answers ks' xs :=
  (answers_swept hclock hnow h).trans (answers_swept hclock hnow rfl).symm

/-- A command that only reads may be left out, or put in, without any change of another answer. -/
theorem answers_eraseIdx {c : KeyCommand} (hreads : c.reads = true) {time : Nat}
    {xs ys : List (Nat × KeyCommand)}
    (hclock : (xs ++ (time, c) :: ys).Pairwise fun x y => x.1 ≤ y.1) (ks : Keyspace) :
    (answers ks (xs ++ (time, c) :: ys)).eraseIdx xs.length = answers ks (xs ++ ys) := by
  obtain ⟨-, hrest, -⟩ := List.pairwise_append.1 hclock
  obtain ⟨hlater, hclock⟩ := List.pairwise_cons.1 hrest
  rw [answers_append, answers_append, List.eraseIdx_append_of_length_le
    (Nat.le_of_eq (length_answers ks xs)), length_answers, Nat.sub_self, answers,
    List.eraseIdx_zero, List.tail_cons]
  exact congrArg _ (answers_congr hclock hlater (sweep_run_of_reads hreads time _))

end KeyCommand

/-! ### No set is empty -/

namespace Table

variable {β : Type}

/-- A table has keys just if it is not empty. -/
theorem size_pos_iff {t : Table β} : 0 < t.size ↔ t.isEmpty = false := by
  rw [size, isEmpty, Std.ExtTreeMap.isEmpty_eq_size_beq_zero, beq_eq_false_iff_ne,
    Nat.pos_iff_ne_zero]

theorem isEmpty_set (t : Table β) (k : String) (v : β) : (t.set k v).isEmpty = false := by
  rw [Bool.eq_false_iff]
  intro h
  simpa using isEmpty_iff.1 h k

end Table

/-- A slot does not hold an empty set. -/
def Slot.Filled (s : Slot) : Prop :=
  ∀ members expiry, s = some ⟨.set members, expiry⟩ → members.isEmpty = false

namespace Slot

theorem filled_none : Filled none := fun _ _ h => nomatch h

theorem filled_int (v : Int) (expiry : Option Nat) : Filled (some ⟨.int v, expiry⟩) :=
  fun _ _ h => nomatch h

theorem filled_set {members : Table Int} (h : members.isEmpty = false) (expiry : Option Nat) :
    Filled (some ⟨.set members, expiry⟩) := by
  rintro _ _ ⟨rfl, rfl⟩
  exact h

theorem Filled.live {s : Slot} (h : s.Filled) (now : Nat) : (Slot.live now s).Filled :=
  fun members expiry hs => h members expiry (eq_of_live_eq_some hs).1

end Slot

namespace KeyCommand

/-- Commands leave no empty set. -/
theorem filled_onHeld (c : KeyCommand) (time : Nat) {s : Slot} (h : s.Filled) :
    (c.onHeld time s).2.Filled := by
  cases c with
  | now | contains | ttl => exact h
  | int | cardinality => rcases s with _ | ⟨_ | _, _⟩ <;> exact h
  | incrBy key by_ =>
      rcases s with _ | ⟨v | members, expiry⟩
      · exact Slot.filled_int by_ none
      · simp only [onHeld]
        split <;> exact Slot.filled_int _ expiry
      · exact h
  | addMember key score member =>
      rcases s with _ | ⟨v | members, expiry⟩
      · exact Slot.filled_set (Table.isEmpty_set ..) none
      · exact h
      · exact Slot.filled_set (Table.isEmpty_set ..) expiry
  | removeByScore key low high =>
      rcases s with _ | ⟨v | members, expiry⟩
      · exact h
      · exact h
      · simp only [onHeld]
        split
        · exact Slot.filled_none
        · exact Slot.filled_set (Bool.eq_false_iff.2 ‹_›) expiry
  | expire key lifetime =>
      rcases s with _ | ⟨v | members, expiry⟩
      · exact h
      · exact Slot.filled_int v _
      · exact Slot.filled_set (h members expiry rfl) _
  | delete key => exact Slot.filled_none

end KeyCommand

/-- No key holds an empty set. -/
def Keyspace.Filled (ks : Keyspace) : Prop := ∀ key, Slot.Filled (ks.get? key)

namespace KeyCommand

theorem filled_run (c : KeyCommand) (time : Nat) {ks : Keyspace} (h : ks.Filled) :
    (c.run time ks).2.Filled := by
  rw [run_eq]
  cases c.key? with
  | none => exact h
  | some key =>
      intro j
      simp only [Keyspace.onSlot, Keyspace.get?_assign]
      split
      · exact c.filled_onHeld time ((h key).live time)
      · exact h j

theorem filled_after {ks : Keyspace} (h : ks.Filled) (xs : List (Nat × KeyCommand)) :
    (after ks xs).Filled := by
  induction xs generalizing ks with
  | nil => exact h
  | cons x rest ih => exact ih (x.2.filled_run x.1 h)

end KeyCommand

/-- Where no set is empty, a key that does not hold an integer exists just while it has members. -/
theorem Keyspace.Filled.contains_iff {ks : Keyspace} (h : ks.Filled) {now : Nat} {key : String}
    {n : Nat} (hn : (ks.cardinality now key).1 = .ok n) :
    (ks.contains now key).1 = true ↔ 0 < n := by
  have hfilled := (h key).live now
  rw [contains_eq]
  simp only [cardinality, purge_eq, get?_assign_self] at hn
  change (Slot.live now (ks.get? key)).isSome = true ↔ 0 < n
  generalize Slot.live now (ks.get? key) = s at hn hfilled ⊢
  rcases s with _ | ⟨v | members, expiry⟩
  · obtain rfl := Except.ok.inj hn
    simp
  · exact nomatch hn
  · obtain rfl := Except.ok.inj hn
    simp [Table.size_pos_iff, hfilled members expiry rfl]

namespace KeyCommand

/-- **A run of commands answers like the reference that removes every entry whose expiry has come**,
as long as the clock does not go back.  A command that only reads may be left out, or put in,
without any change of another answer.  No key is left with an empty set, so a key of a set exists
exactly while it has members. -/
theorem answers_eq_swept {xs : List (Nat × KeyCommand)}
    (hclock : xs.Pairwise fun x y => x.1 ≤ y.1) :
    answers .empty xs = sweptAnswers .empty xs ∧
      (∀ before x later, xs = before ++ x :: later → x.2.reads = true →
        answers .empty (before ++ later) = (answers .empty xs).eraseIdx before.length) ∧
      ∀ key,
        (∀ members expiry, (after .empty xs).get? key = some ⟨.set members, expiry⟩ →
          0 < members.size) ∧
        ∀ now n, ((after .empty xs).cardinality now key).1 = .ok n →
          (((after .empty xs).contains now key).1 = true ↔ 0 < n) := by
  have hfilled : (after .empty xs).Filled := filled_after (fun key => by
    rw [Keyspace.get?_empty]
    exact Slot.filled_none) xs
  refine ⟨answers_swept hclock (fun _ _ => Nat.zero_le _) rfl, ?_, fun key => ⟨?_, ?_⟩⟩
  · rintro before ⟨time, c⟩ later rfl hreads
    exact (answers_eraseIdx hreads hclock .empty).symm
  · exact fun members expiry h => Table.size_pos_iff.2 (hfilled key members expiry h)
  · exact fun now n h => hfilled.contains_iff h

/-- Two members of a set, one of which is removed; then an expiry that is due at once, and a counter
in the place of the set.  What is read in between makes no difference. -/
theorem answers_eq_swept_due_at_once :
    answers .empty
        [(10, .addMember "k" 5 "a"), (20, .addMember "k" 9 "b"), (30, .removeByScore "k" 0 5),
          (30, .expire "k" .zero), (30, .incrBy "k" 2)] =
      [.ok (.truth true), .ok (.truth true), .ok (.number 1), .ok (.truth true),
        .ok (.number 2)] := by
  have hreads := (@answers_eq_swept [(10, .addMember "k" 5 "a"),
    (20, .addMember "k" 9 "b"), (30, .removeByScore "k" 0 5), (30, .expire "k" .zero),
    (30, .contains "k"), (30, .incrBy "k" 2)] (by decide)).2.1 [(10, .addMember "k" 5 "a"),
    (20, .addMember "k" 9 "b"), (30, .removeByScore "k" 0 5), (30, .expire "k" .zero)]
    (30, .contains "k") [(30, .incrBy "k" 2)] rfl rfl
  exact hreads.trans (by decide +kernel)

end KeyCommand

end Turnstile
