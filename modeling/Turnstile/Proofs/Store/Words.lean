/-
**A store holds machine words.**

The integers of a keyspace are signed 64-bit words: its values, the scores of its members, and the
operands of the commands on it.  Its operations compute with unbounded integers, though, and check
or clamp what they store.  This module proves that they check enough: whatever commands with words
as operands make of the empty keyspace, in any order and at any times, it holds words only.  A
script is a computation made of such commands, so what a script leaves is reachable too.

Main definitions:

* `KeyCommand.OnWords` — the integers among the arguments of a command are words;
* `Keyspace.Reachable` — commands on words lead from the empty keyspace to this one;
* `Entry.Words`, `Slot.Words` — what is held are words, and its expiry is a time;
* `KeyspaceM.StaysReachable` — a computation leads from reachable keyspaces to reachable ones.

Main results:

* `KeyCommand.words_onHeld` — one command keeps words;
* `Keyspace.Reachable.words` — **a reachable keyspace holds words only**;
* `KeyspaceM.StaysReachable.bind`, `KeyspaceM.StaysReachable.attempt` — computations are put
  together from commands.
-/

import Turnstile.Proofs.Store.Sweep

set_option relaxedAutoImplicit false
set_option autoImplicit false

namespace Turnstile

/-- A negation is a word. -/
theorem Text.fitsWord_neg {v : Int} (h : Text.fitsWord v = true) (hleast : v ≠ Text.minInt) :
    Text.fitsWord (-v) = true := by
  rw [Text.fitsWord_iff] at h ⊢
  unfold Text.minInt Text.maxInt at *
  omega

/-! ### Keyspaces that commands lead to -/

/-- The integers among the arguments of a command are words. -/
def KeyCommand.OnWords : KeyCommand → Prop
  | .incrBy _ by_ => Text.fitsWord by_ = true
  | .addMember _ score _ => Text.fitsWord score = true
  | .removeByScore _ low high => Text.fitsWord low = true ∧ Text.fitsWord high = true
  | _ => True

/-- Commands on words, each at any time, lead from the empty keyspace to this one. -/
inductive Keyspace.Reachable : Keyspace → Prop
  | empty : Reachable .empty
  | run {ks : Keyspace} (before : Reachable ks) (time : Nat) (c : KeyCommand) (words : c.OnWords) :
      Reachable (c.run time ks).2

/-! ### Entries that hold words -/

/-- The integer, or every score, is a word. -/
inductive Value.Words : Value → Prop
  | int (v : Int) (fits : Text.fitsWord v = true) : Words (.int v)
  | set (members : Table Int)
      (fits : ∀ m score, members.get? m = some score → Text.fitsWord score = true) :
      Words (.set members)

/-- The value of an entry are words, and its expiry is a time that a clock can show. -/
structure Entry.Words (e : Entry) : Prop where
  value : e.value.Words
  expiry : ∀ t, e.expiresAt = some t → t ≤ maxWord

namespace Slot

/-- Whatever a slot holds are words. -/
def Words (s : Slot) : Prop := ∀ e, s = some e → e.Words

variable {s : Slot} {expiry : Option Nat}

theorem words_none : Words none := nofun

theorem words_some {e : Entry} : Words (some e) ↔ e.Words :=
  ⟨fun h => h e rfl, fun h _ he => Option.some.inj he ▸ h⟩

theorem Words.live (h : s.Words) (now : Nat) : (Slot.live now s).Words :=
  fun e he => h e (eq_of_live_eq_some he).1

/-- An integer in a slot of words is one. -/
theorem Words.int {v : Int} (h : Words (some ⟨.int v, expiry⟩)) : Text.fitsWord v = true := by
  cases (words_some.1 h).value with
  | int _ fits => exact fits

/-- A score in a slot of words is one. -/
theorem Words.score {members : Table Int} (h : Words (some ⟨.set members, expiry⟩)) {m : String}
    {score : Int} (hm : members.get? m = some score) : Text.fitsWord score = true := by
  cases (words_some.1 h).value with
  | set _ fits => exact fits m score hm

/-- Another value with the same expiry. -/
theorem Words.replace {v w : Value} (h : Words (some ⟨v, expiry⟩)) (hw : w.Words) :
    Words (some ⟨w, expiry⟩) :=
  words_some.2 ⟨hw, (words_some.1 h).expiry⟩

theorem words_fresh {v : Value} (h : v.Words) : Words (some ⟨v, none⟩) := words_some.2 ⟨h, nofun⟩

end Slot

/-- A set of words with a word more. -/
theorem Value.Words.insert {members : Table Int}
    (h : ∀ m score, members.get? m = some score → Text.fitsWord score = true) {score : Int}
    (hscore : Text.fitsWord score = true) (member : String) :
    Value.Words (.set (members.set member score)) := by
  refine .set _ fun m score' hm => ?_
  rw [Table.get?_set] at hm
  split at hm
  · exact Option.some.inj hm ▸ hscore
  · exact h m score' hm

/-! ### Commands keep words -/

namespace KeyCommand

/-- **One command keeps words.** -/
theorem words_onHeld {c : KeyCommand} (hc : c.OnWords) (time : Nat) {s : Slot} (h : s.Words) :
    (c.onHeld time s).2.Words := by
  cases hreads : c.reads with
  | true =>
      rw [onHeld_of_reads hreads]
      exact h
  | false =>
      cases c with
      | now | contains | int | cardinality | ttl => simp [reads] at hreads
      | incrBy key by_ =>
          rcases s with _ | ⟨v | members, expiry⟩
          · exact Slot.words_fresh (.int by_ hc)
          · by_cases hfits : Text.fitsWord (v + by_)
            · simp only [onHeld, hfits, if_true]
              exact h.replace (.int _ hfits)
            · simp only [onHeld, hfits, Bool.false_eq_true, if_false]
              exact h
          · exact h
      | addMember key score member =>
          rcases s with _ | ⟨v | members, expiry⟩
          · refine Slot.words_fresh (.insert (fun m score hm => ?_) hc member)
            simp [Table.get?_empty] at hm
          · exact h
          · exact h.replace (.insert (fun _ _ => h.score) hc member)
      | removeByScore key low high =>
          rcases s with _ | ⟨v | members, expiry⟩
          · exact Slot.words_none
          · exact h
          · simp only [onHeld]
            split
            · exact Slot.words_none
            · refine h.replace (.set _ fun m score hm => ?_)
              rw [Table.get?_filter, Option.filter_eq_some_iff] at hm
              exact h.score hm.1
      | expire key lifetime =>
          cases s with
          | none => exact Slot.words_none
          | some e =>
              refine Slot.words_some.2 ⟨(Slot.words_some.1 h).value, fun t ht => ?_⟩
              cases ht
              exact Nat.min_le_right _ _
      | delete key => exact Slot.words_none

end KeyCommand

/-- **A reachable keyspace holds words only.** -/
theorem Keyspace.Reachable.words {ks : Keyspace} (h : ks.Reachable) (key : String) :
    Slot.Words (ks.get? key) := by
  induction h with
  | empty =>
      rw [Keyspace.get?_empty]
      exact Slot.words_none
  | @run ks _ time c words ih =>
      rw [KeyCommand.run_eq]
      cases hkey : c.key? with
      | none => exact ih
      | some place =>
          change Slot.Words ((ks.assign place _).get? key)
          rw [Keyspace.get?_assign]
          split
          · -- the slot of the command's own key
            rename_i hsame
            subst hsame
            exact KeyCommand.words_onHeld words time (ih.live time)
          · exact ih

/-! ### Computations made of commands -/

namespace KeyspaceM

variable {α β : Type}

/-- A computation leads from reachable keyspaces to reachable ones. -/
def StaysReachable (m : KeyspaceM α) : Prop :=
  ∀ ks : Keyspace, ks.Reachable → (m.runOn ks).2.Reachable

namespace StaysReachable

theorem pure (a : α) : StaysReachable (pure a : KeyspaceM α) := fun _ h => h

theorem bind {m : KeyspaceM α} {f : α → KeyspaceM β} (hm : m.StaysReachable)
    (hf : ∀ a, (f a).StaysReachable) : (m >>= f).StaysReachable := by
  intro ks h
  have hafter := hm ks h
  rw [runOn_bind]
  rcases hrun : m.runOn ks with ⟨_ | a, ks'⟩ <;> rw [hrun] at hafter
  · exact hafter
  · exact hf a ks' hafter

/-- An operation that leaves what a command on words leaves. -/
theorem attempt {f : Keyspace → Except StoreError α × Keyspace} {c : KeyCommand} (hc : c.OnWords)
    (time : Nat) (hsame : ∀ ks, (f ks).2 = (c.run time ks).2) :
    (KeyspaceM.attempt f).StaysReachable := by
  intro ks h
  rw [runOn_attempt, hsame]
  exact h.run time c hc

/-- An operation that cannot fail and leaves what a command on words leaves. -/
theorem always {f : Keyspace → α × Keyspace} {c : KeyCommand} (hc : c.OnWords) (time : Nat)
    (hsame : ∀ ks, (f ks).2 = (c.run time ks).2) : (KeyspaceM.always f).StaysReachable := by
  intro ks h
  rw [runOn_always, hsame]
  exact h.run time c hc

theorem forM {xs : List β} {f : β → KeyspaceM PUnit} (hf : ∀ x, (f x).StaysReachable) :
    (xs.forM f).StaysReachable := by
  induction xs with
  | nil => exact StaysReachable.pure PUnit.unit
  | cons x xs ih => exact bind (hf x) fun _ => ih

end StaysReachable

end KeyspaceM

end Turnstile
