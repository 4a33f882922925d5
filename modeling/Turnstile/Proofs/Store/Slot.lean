/-
**What an operation does to the slot of its key.**

A keyspace gives every key a slot: nothing, or an entry that may have expired without having been
dropped yet.  Every operation on a key reads the slot of this key, writes the slot of this key, and
does neither to any other one.  This module says so by giving each operation a function on slots,
and an equation that the operation is that function at its key.  What a computation on several keys
does is then worked out on their slots alone.

Main definitions:

* `Slot`, `Slot.live` — what a key holds, and what is left of it at a time;
* `Keyspace.assign`, `Keyspace.onSlot` — a keyspace with one slot replaced, and a function on slots
  as an operation on one key;
* `Slot.incrBy`, `Slot.addMember`, `Slot.removeByScore`, `Slot.expire` — the functions.

Main results:

* `Keyspace.get?_assign` — a replaced slot is read back, and the others are as they were;
* `Keyspace.incrBy_eq`, `Keyspace.addMember_eq`, `Keyspace.removeByScore_eq`, `Keyspace.expire_eq`,
  `Keyspace.delete_eq` — **every operation is a function on the slot of its key**;
* `KeyspaceM.runOn_bind` — computations are run one after the other.
-/

import Turnstile.Store.Keyspace

set_option relaxedAutoImplicit false
set_option autoImplicit false

namespace Turnstile

/-- What a key holds, whether its expiry has come or not. -/
abbrev Slot := Option Entry

namespace Slot

/-- What is left of a slot at a time: an entry whose expiry has come is gone. -/
def live (now : Nat) (s : Slot) : Slot := s.filter fun e => !e.expired now

@[simp] theorem live_none (now : Nat) : live now none = none := rfl

theorem live_some (now : Nat) (e : Entry) :
    live now (some e) = if e.expired now then none else some e := by
  cases h : e.expired now <;> simp [live, Option.filter, h]

/-- An entry that has not expired is left as it is. -/
theorem live_of_not_expired {now : Nat} {e : Entry} (h : e.expired now = false) :
    live now (some e) = some e := by
  rw [live_some, h]
  rfl

/-- What is left at a time and is still left later is what is left later. -/
theorem live_live {now later : Nat} (h : now ≤ later) (s : Slot) :
    live later (live now s) = live later s := by
  cases s with
  | none => rfl
  | some e =>
      rw [live_some]
      cases hnow : e.expired now with
      | false => simp
      | true =>
          have hlater : e.expired later = true := by
            obtain ⟨value, _ | t⟩ := e
            · exact nomatch hnow
            · simp only [Entry.expired, decide_eq_true_eq] at hnow ⊢
              exact Nat.le_trans hnow h
          simp [live_some, hlater]

/-- An entry that is left at a time is the one that the slot holds. -/
theorem eq_of_live_eq_some {now : Nat} {s : Slot} {e : Entry} (h : live now s = some e) :
    s = some e ∧ e.expired now = false := by
  cases s with
  | none => simp at h
  | some e' =>
      rw [live_some] at h
      cases he : e'.expired now with
      | true => simp [he] at h
      | false =>
          simp only [he, Bool.false_eq_true, if_false, Option.some.injEq] at h
          subst h
          exact ⟨rfl, he⟩

end Slot

namespace Keyspace

/-! ### Keyspaces as slots -/

variable {α : Type}

@[simp] theorem get?_empty (key : String) : empty.get? key = none := Table.get?_empty key

theorem get?_put (ks : Keyspace) (key j : String) (e : Entry) :
    (ks.put key e).get? j = if key = j then some e else ks.get? j :=
  Table.get?_set ks.entries key j e

theorem get?_drop (ks : Keyspace) (key j : String) :
    (ks.drop key).get? j = if key = j then none else ks.get? j :=
  Table.get?_erase ks.entries key j

/-- A keyspace is determined by its slots. -/
theorem ext_slots {ks ks' : Keyspace} (h : ∀ key, ks.get? key = ks'.get? key) : ks = ks' := by
  obtain ⟨t⟩ := ks
  obtain ⟨t'⟩ := ks'
  exact congrArg Keyspace.mk (Table.ext_get? h)

/-- A keyspace with the slot of a key replaced. -/
def assign (ks : Keyspace) (key : String) : Slot → Keyspace
  | some e => ks.put key e
  | none => ks.drop key

theorem put_eq (ks : Keyspace) (key : String) (e : Entry) :
    ks.put key e = ks.assign key (some e) := rfl

theorem drop_eq (ks : Keyspace) (key : String) : ks.drop key = ks.assign key none := rfl

theorem get?_assign (ks : Keyspace) (key j : String) (s : Slot) :
    (ks.assign key s).get? j = if key = j then s else ks.get? j := by
  cases s with
  | none => exact get?_drop ks key j
  | some e => exact get?_put ks key j e

@[simp] theorem get?_assign_self (ks : Keyspace) (key : String) (s : Slot) :
    (ks.assign key s).get? key = s := by
  simp [get?_assign]

theorem get?_assign_of_ne (ks : Keyspace) {key j : String} (h : key ≠ j) (s : Slot) :
    (ks.assign key s).get? j = ks.get? j := by
  simp [get?_assign, h]

/-- To give a key the slot that it has changes nothing. -/
theorem assign_get? (ks : Keyspace) (key : String) : ks.assign key (ks.get? key) = ks :=
  ext_slots fun j => by
    by_cases h : key = j
    · subst h
      simp
    · exact get?_assign_of_ne ks h _

/-- Of two slots given to one key the later one stays. -/
@[simp] theorem assign_assign (ks : Keyspace) (key : String) (s s' : Slot) :
    (ks.assign key s).assign key s' = ks.assign key s' :=
  ext_slots fun j => by
    by_cases h : key = j <;> simp [get?_assign, h]

/-- The slots of two keys are replaced in any order. -/
theorem assign_comm (ks : Keyspace) {key j : String} (h : key ≠ j) (s s' : Slot) :
    (ks.assign key s).assign j s' = (ks.assign j s').assign key s :=
  ext_slots fun i => by
    by_cases hk : key = i
    · subst hk
      simp [get?_assign, Ne.symm h]
    · simp [get?_assign, hk]

/-- To purge a key is to leave in its slot what is left of it. -/
theorem purge_eq (ks : Keyspace) (now : Nat) (key : String) :
    ks.purge now key = ks.assign key (Slot.live now (ks.get? key)) := by
  have hself := ks.assign_get? key
  unfold purge
  cases h : ks.get? key with
  | none =>
      rw [h] at hself
      exact hself.symm
  | some e =>
      rw [h] at hself
      rw [Slot.live_some]
      cases he : e.expired now with
      | true => simp [he, drop_eq]
      | false => simp [he, hself]

/-- A function on slots as an operation on one key. -/
def onSlot (ks : Keyspace) (key : String) (f : Slot → α × Slot) : α × Keyspace :=
  ((f (ks.get? key)).1, ks.assign key (f (ks.get? key)).2)

end Keyspace

/-! ### The operations -/

namespace Slot

/-- Adds to an integer. -/
def incrBy (now : Nat) (key : String) (by_ : Int) (s : Slot) : Except StoreError Int × Slot :=
  match live now s with
  | none => (.ok by_, some ⟨.int by_, none⟩)
  | some ⟨.int v, expiry⟩ =>
      if Text.fitsWord (v + by_) then (.ok (v + by_), some ⟨.int (v + by_), expiry⟩)
      else (.error Keyspace.overflow, some ⟨.int v, expiry⟩)
  | some ⟨.set members, expiry⟩ => (.error (.wrongType key), some ⟨.set members, expiry⟩)

/-- Gives a score to a member of a set. -/
def addMember (now : Nat) (key : String) (score : Int) (member : String) (s : Slot) :
    Except StoreError Bool × Slot :=
  match live now s with
  | none => (.ok true, some ⟨.set (Table.empty.set member score), none⟩)
  | some ⟨.set members, expiry⟩ =>
      (.ok (!members.contains member), some ⟨.set (members.set member score), expiry⟩)
  | some ⟨.int v, expiry⟩ => (.error (.wrongType key), some ⟨.int v, expiry⟩)

/-- The members with scores outside of a range. -/
def outside (low high : Int) (members : Table Int) : Table Int :=
  members.filter fun _ score => score < low || high < score

/-- Removes the members with scores in a range. -/
def removeByScore (now : Nat) (key : String) (low high : Int) (s : Slot) :
    Except StoreError Nat × Slot :=
  match live now s with
  | none => (.ok 0, none)
  | some ⟨.set members, expiry⟩ =>
      let kept := outside low high members
      (.ok (members.size - kept.size), if kept.isEmpty then none else some ⟨.set kept, expiry⟩)
  | some ⟨.int v, expiry⟩ => (.error (.wrongType key), some ⟨.int v, expiry⟩)

/-- Sets the expiry of an entry. -/
def expire (now : Nat) (ttl : Duration) (s : Slot) : Bool × Slot :=
  match live now s with
  | some e => (true, some { e with expiresAt := some (Keyspace.expiryAfter now ttl) })
  | none => (false, none)

end Slot

namespace Keyspace

theorem incrBy_eq (ks : Keyspace) (now : Nat) (key : String) (by_ : Int) :
    ks.incrBy now key by_ = ks.onSlot key (Slot.incrBy now key by_) := by
  unfold incrBy onSlot Slot.incrBy
  simp only [purge_eq, get?_assign_self]
  rcases Slot.live now (ks.get? key) with _ | ⟨v | members, expiry⟩
  · simp [put_eq]
  · by_cases h : Text.fitsWord (v + by_) <;> simp [h, put_eq]
  · rfl

theorem addMember_eq (ks : Keyspace) (now : Nat) (key : String) (score : Int) (member : String) :
    ks.addMember now key score member = ks.onSlot key (Slot.addMember now key score member) := by
  unfold addMember onSlot Slot.addMember
  simp only [purge_eq, get?_assign_self]
  rcases Slot.live now (ks.get? key) with _ | ⟨v | members, expiry⟩
  · simp [put_eq]
  · rfl
  · simp [put_eq]

theorem removeByScore_eq (ks : Keyspace) (now : Nat) (key : String) (low high : Int) :
    ks.removeByScore now key low high = ks.onSlot key (Slot.removeByScore now key low high) := by
  unfold removeByScore onSlot Slot.removeByScore
  simp only [purge_eq, get?_assign_self]
  rcases Slot.live now (ks.get? key) with _ | ⟨v | members, expiry⟩
  · rfl
  · rfl
  · simp only [Slot.outside, put_eq, drop_eq, assign_assign]
    by_cases h : (members.filter fun _ score => score < low || high < score).isEmpty <;> simp [h]

theorem expire_eq (ks : Keyspace) (now : Nat) (key : String) (ttl : Duration) :
    ks.expire now key ttl = ks.onSlot key (Slot.expire now ttl) := by
  unfold expire onSlot Slot.expire
  simp only [purge_eq, get?_assign_self]
  cases Slot.live now (ks.get? key) with
  | none => rfl
  | some e => simp [put_eq]

theorem delete_eq (ks : Keyspace) (now : Nat) (key : String) :
    ks.delete now key = ((Slot.live now (ks.get? key)).isSome, ks.assign key none) := by
  unfold delete
  simp only [purge_eq, get?_assign_self, drop_eq, assign_assign]

end Keyspace

/-! ### Computations -/

namespace KeyspaceM

variable {α β : Type}

@[simp] theorem runOn_attempt (f : Keyspace → Except StoreError α × Keyspace) (ks : Keyspace) :
    (attempt f).runOn ks = f ks := rfl

@[simp] theorem runOn_always (f : Keyspace → α × Keyspace) (ks : Keyspace) :
    (always f).runOn ks = (.ok (f ks).1, (f ks).2) := rfl

@[simp] theorem runOn_pure (a : α) (ks : Keyspace) :
    (pure a : KeyspaceM α).runOn ks = (.ok a, ks) := rfl

/-- The second computation runs on what the first one leaves; a failure is the end. -/
theorem runOn_bind (m : KeyspaceM α) (f : α → KeyspaceM β) (ks : Keyspace) :
    (m >>= f).runOn ks =
      match m.runOn ks with
      | (.ok a, ks) => (f a).runOn ks
      | (.error e, ks) => (.error e, ks) := by
  change (ExceptT.bindCont f (m.runOn ks).1) (m.runOn ks).2 = _
  rcases m.runOn ks with ⟨_ | _, _⟩ <;> rfl

end KeyspaceM

end Turnstile
