/-
**Finite tables.**

A table gives values to finitely many keys.  It is a search tree over the keys, seen only through
what it holds, so two tables that give the same values to the same keys are equal.

Main definitions:

* `Table` — the type;
* `Table.get?`, `Table.set`, `Table.erase`, `Table.filter`, `Table.size` — the operations;
* `Table.pairs`, `Table.keys` — what a table holds, in the order of the keys.

Main results:

* `Table.ext_get?` — a table is determined by its values;
* `Table.get?_set`, `Table.get?_erase`, `Table.get?_filter` — one equation per operation through
  the view `get?`;
* `Table.size_set`, `Table.size_eq_length_keys`, `Table.nodup_keys` — the size is the number of
  keys.
-/

import Std.Data.ExtTreeMap

set_option relaxedAutoImplicit false
set_option autoImplicit false

namespace Turnstile

/-- Values for finitely many keys. -/
structure Table (β : Type) where
  tree : Std.ExtTreeMap String β

namespace Table

variable {β : Type}

/-! ### Operations -/

/-- The table without keys. -/
def empty : Table β := ⟨∅⟩

instance : Inhabited (Table β) := ⟨empty⟩

/-- The value of a key. -/
def get? (t : Table β) (k : String) : Option β := t.tree[k]?

/-- Whether a key has a value. -/
def contains (t : Table β) (k : String) : Bool := t.tree.contains k

/-- Gives a value to a key. -/
def set (t : Table β) (k : String) (v : β) : Table β := ⟨t.tree.insert k v⟩

/-- Keeps the pairs that satisfy a test. -/
def filter (p : String → β → Bool) (t : Table β) : Table β := ⟨t.tree.filter p⟩

/-- Takes the value of a key away. -/
def erase (t : Table β) (k : String) : Table β := ⟨t.tree.erase k⟩

/-- The number of keys. -/
def size (t : Table β) : Nat := t.tree.size

/-- Whether no key has a value. -/
def isEmpty (t : Table β) : Bool := t.tree.isEmpty

/-- The keys with their values, in the order of the keys. -/
def pairs (t : Table β) : List (String × β) := t.tree.toList

/-- The keys in their order. -/
def keys (t : Table β) : List String := t.tree.keys

/-! ### The values of a table -/

/-- A table is determined by its values. -/
theorem ext_get? {s t : Table β} (h : ∀ k, s.get? k = t.get? k) : s = t := by
  obtain ⟨s⟩ := s
  obtain ⟨t⟩ := t
  exact congrArg Table.mk (Std.ExtTreeMap.ext_getElem? h)

@[simp] theorem get?_empty (k : String) : (empty : Table β).get? k = none := by
  simp [empty, get?]

theorem get?_set (t : Table β) (k j : String) (v : β) :
    (t.set k v).get? j = if k = j then some v else t.get? j := by
  simp [set, get?, Std.ExtTreeMap.getElem?_insert]

@[simp] theorem get?_set_self (t : Table β) (k : String) (v : β) : (t.set k v).get? k = some v := by
  simp [get?_set]

theorem get?_filter (t : Table β) (p : String → β → Bool) (k : String) :
    (t.filter p).get? k = (t.get? k).filter (p k) :=
  Std.ExtTreeMap.getElem?_filter'

theorem get?_erase (t : Table β) (k j : String) :
    (t.erase k).get? j = if k = j then none else t.get? j := by
  simp [erase, get?, Std.ExtTreeMap.getElem?_erase]

/-- Keys are set in any order. -/
theorem set_comm (t : Table β) {k j : String} (h : k ≠ j) (v w : β) :
    (t.set k v).set j w = (t.set j w).set k v :=
  ext_get? fun i => by
    by_cases hk : k = i <;> by_cases hj : j = i <;> simp_all [get?_set]

/-! ### The keys of a table -/

theorem mem_keys_iff {t : Table β} {k : String} : k ∈ t.keys ↔ ∃ v, t.get? k = some v := by
  rw [keys, Std.ExtTreeMap.mem_keys, Std.ExtTreeMap.mem_iff_isSome_getElem?, Option.isSome_iff_exists]
  rfl

theorem nodup_keys (t : Table β) : t.keys.Nodup := Std.ExtTreeMap.nodup_keys

theorem size_eq_length_keys (t : Table β) : t.size = t.keys.length :=
  Std.ExtTreeMap.length_keys.symm

theorem size_set (t : Table β) (k : String) (v : β) :
    (t.set k v).size = if t.contains k then t.size else t.size + 1 :=
  Std.ExtTreeMap.size_insert

theorem isEmpty_iff {t : Table β} : t.isEmpty ↔ ∀ k, t.get? k = none := by
  constructor
  · intro h k
    have h : t.tree = ∅ := Std.ExtTreeMap.isEmpty_iff.1 h
    simp [get?, h]
  · intro h
    have : t = empty := ext_get? fun k => by simp [h k]
    simp [this, empty, isEmpty]

end Table

end Turnstile
