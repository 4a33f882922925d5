/-
**Values by label values.**

A series finds a value by the digest of its label values.  As long as the digests tell the label
values apart that come in, it is a plain table: to change the value of one combination of label
values changes nothing else, and every combination that came in has exactly one value.  Such a table
is what a collection lists, in another order.

Main definitions:

* `Series.combinations` — the combinations of label values that have a value;
* `Series.at?` — the value that is listed for a combination;
* `Series.Holds` — a series with exactly the given combinations, each once and under its digest.

Main results:

* `Series.at?_update` — what a change does to the values;
* `Series.Holds.update` — what it does to the combinations;
* `Exposition.mem_listed` — **what is listed of a family**.
-/

import Mathlib.Data.List.Nodup
import Turnstile.Metrics.Exposition

set_option relaxedAutoImplicit false
set_option autoImplicit false

namespace Turnstile

namespace Series

variable {β : Type} {s : Series β} {labels labels' : List String} {tuples : List (List String)}

/-- The combinations of label values that have a value, in the order in which they came in. -/
def combinations (s : Series β) : List (List String) := s.map fun e => e.2.labels

theorem combinations_cons (e : UInt64 × Labelled β) (s : Series β) :
    combinations (e :: s) = e.2.labels :: s.combinations := rfl

/-- The value that is listed for a combination of label values. -/
def at? (s : Series β) (labels : List String) : Option β :=
  (s.find? fun e => e.2.labels = labels).map fun e => e.2.value

@[simp] theorem at?_nil (labels : List String) : at? ([] : Series β) labels = none := rfl

theorem at?_cons (e : UInt64 × Labelled β) (s : Series β) (labels : List String) :
    at? (e :: s) labels = if e.2.labels = labels then some e.2.value else s.at? labels := by
  by_cases h : e.2.labels = labels
  · simp [at?, h]
  · simp [at?, h]

theorem mem_of_at? {v : β} (h : s.at? labels = some v) : ∃ e ∈ s, e.2 = ⟨labels, v⟩ := by
  obtain ⟨e, he, rfl⟩ := Option.map_eq_some_iff.1 h
  obtain rfl : e.2.labels = labels := by simpa using List.find?_some he
  exact ⟨e, List.mem_of_find?_eq_some he, rfl⟩

/-- Where no combination has two values, each is the one that is listed. -/
theorem at?_of_mem (hnodup : s.combinations.Nodup) {e : UInt64 × Labelled β} (h : e ∈ s) :
    s.at? e.2.labels = some e.2.value := by
  induction s with
  | nil => exact nomatch h
  | cons head rest ih =>
      rw [combinations_cons, List.nodup_cons] at hnodup
      rw [at?_cons]
      obtain rfl | hrest := List.mem_cons.1 h
      · rw [if_pos rfl]
      · have hne : head.2.labels ≠ e.2.labels := fun heq =>
          hnodup.1 (List.mem_map.2 ⟨e, hrest, heq.symm⟩)
        rw [if_neg hne]
        exact ih hnodup.2 hrest

/-! ### One change -/

theorem change_cons (d : UInt64) (labels : List String) (zero : β) (f : β → β)
    (e : UInt64 × Labelled β) (s : Series β) :
    change d labels zero f (e :: s) =
      if e.1 = d then (e.1, ⟨e.2.labels, f e.2.value⟩) :: s
      else e :: change d labels zero f s := rfl

/-- Where a digest is that of one combination only, to change its value changes that of this
combination. -/
theorem at?_change {d : UInt64} (h : ∀ e ∈ s, e.1 = d ↔ e.2.labels = labels) (zero : β) (f : β → β)
    (labels' : List String) :
    at? (change d labels zero f s) labels' =
      if labels' = labels then some (f ((s.at? labels).getD zero)) else s.at? labels' := by
  induction s with
  | nil =>
      rw [change, at?_cons, at?_nil, at?_nil]
      by_cases hsame : labels' = labels
      · rw [if_pos hsame.symm, if_pos hsame, Option.getD_none]
      · rw [if_neg (Ne.symm hsame), if_neg hsame]
  | cons e rest ih =>
      have hhead := h e (List.mem_cons_self ..)
      rw [change_cons, at?_cons, at?_cons]
      by_cases hd : e.1 = d
      · have hlabels := hhead.1 hd
        rw [if_pos hd, at?_cons, if_pos hlabels, Option.getD_some]
        by_cases hsame : labels' = labels
        · rw [if_pos (hlabels.trans hsame.symm), if_pos hsame]
        · have hother : e.2.labels ≠ labels' := fun heq => hsame (heq.symm.trans hlabels)
          rw [if_neg hother, if_neg hsame, if_neg hother]
      · have hlabels : e.2.labels ≠ labels := fun heq => hd (hhead.2 heq)
        rw [if_neg hd, at?_cons, if_neg hlabels, ih fun e' he' => h e' (List.mem_cons_of_mem e he')]
        by_cases hsame : labels' = labels
        · rw [if_pos hsame, if_neg fun heq => hlabels (heq.trans hsame), if_pos hsame]
        · rw [if_neg hsame, if_neg hsame]

theorem combinations_change {d : UInt64} (h : ∀ e ∈ s, e.1 = d ↔ e.2.labels = labels) (zero : β)
    (f : β → β) :
    combinations (change d labels zero f s) =
      if labels ∈ s.combinations then s.combinations else s.combinations ++ [labels] := by
  induction s with
  | nil => rfl
  | cons e rest ih =>
      have hhead := h e (List.mem_cons_self ..)
      rw [change_cons]
      by_cases hd : e.1 = d
      · have hmem : labels ∈ combinations (e :: rest) :=
          hhead.1 hd ▸ List.mem_cons_self ..
        rw [if_pos hd, if_pos hmem, combinations_cons, combinations_cons]
      · have hlabels : labels ≠ e.2.labels := fun heq => hd (hhead.2 heq.symm)
        have hrest := ih fun e' he' => h e' (List.mem_cons_of_mem e he')
        rw [if_neg hd, combinations_cons, combinations_cons, hrest]
        by_cases hmem : labels ∈ combinations rest
        · rw [if_pos hmem, if_pos (List.mem_cons_of_mem _ hmem)]
        · have hnot : labels ∉ e.2.labels :: combinations rest := fun hin =>
            (List.mem_cons.1 hin).elim hlabels hmem
          rw [if_neg hmem, if_neg hnot, List.cons_append]

theorem keyed_change (hs : ∀ e ∈ s, e.1 = digest e.2.labels) (zero : β) (f : β → β)
    {e : UInt64 × Labelled β} (he : e ∈ change (digest labels) labels zero f s) :
    e.1 = digest e.2.labels := by
  induction s with
  | nil =>
      obtain rfl := List.mem_singleton.1 he
      rfl
  | cons head rest ih =>
      rw [change_cons] at he
      have hhead := hs head (List.mem_cons_self ..)
      have hrest : ∀ e ∈ rest, e.1 = digest e.2.labels := fun e he =>
        hs e (List.mem_cons_of_mem head he)
      split at he
      · obtain rfl | he := List.mem_cons.1 he
        · exact hhead
        · exact hrest e he
      · obtain rfl | he := List.mem_cons.1 he
        · exact hhead
        · exact ih hrest he

/-! ### Series without collisions -/

/-- A series has a value for exactly the given combinations of label values, one for each, and
under its digest. -/
structure Holds (s : Series β) (tuples : List (List String)) : Prop where
  keyed : ∀ e ∈ s, e.1 = digest e.2.labels
  nodup : s.combinations.Nodup
  mem_iff : ∀ {labels : List String}, labels ∈ s.combinations ↔ labels ∈ tuples

namespace Holds

theorem empty : Holds ([] : Series β) [] := ⟨nofun, List.nodup_nil, Iff.rfl⟩

/-- The digest of a combination that collides with none of a series is its own one only. -/
theorem digest_iff (h : s.Holds tuples)
    (hapart : ∀ t ∈ tuples, digest t = digest labels → t = labels) {e : UInt64 × Labelled β}
    (he : e ∈ s) : e.1 = digest labels ↔ e.2.labels = labels := by
  rw [h.keyed e he]
  have hmem : e.2.labels ∈ tuples := h.mem_iff.1 (List.mem_map_of_mem he)
  exact ⟨hapart _ hmem, congrArg digest⟩

/-- A change adds its combination, unless it is there. -/
theorem update (h : s.Holds tuples)
    (hapart : ∀ t ∈ tuples, digest t = digest labels → t = labels) (zero : β) (f : β → β) :
    (s.update labels zero f).Holds (tuples ++ [labels]) := by
  have hcombinations : (s.update labels zero f).combinations = _ :=
    combinations_change (fun _ he => h.digest_iff hapart he) zero f
  refine ⟨fun e he => keyed_change h.keyed zero f he, ?_, fun {labels'} => ?_⟩
  · rw [hcombinations]
    split
    · exact h.nodup
    · rename_i hnew
      exact List.nodup_append.2 ⟨h.nodup, by simp, fun a ha b hb heq =>
        hnew (List.mem_singleton.1 hb ▸ heq ▸ ha)⟩
  · rw [hcombinations, List.mem_append, List.mem_singleton, ← h.mem_iff]
    split
    · rename_i hold
      exact ⟨Or.inl, fun hin => hin.elim id fun heq => heq ▸ hold⟩
    · rw [List.mem_append, List.mem_singleton]

/-- **What a change does to the values**: it changes that of its combination. -/
theorem at?_update (h : s.Holds tuples)
    (hapart : ∀ t ∈ tuples, digest t = digest labels → t = labels) (zero : β) (f : β → β)
    (labels' : List String) :
    (s.update labels zero f).at? labels' =
      if labels' = labels then some (f ((s.at? labels).getD zero)) else s.at? labels' :=
  at?_change (fun _ he => h.digest_iff hapart he) zero f labels'

end Holds

end Series

/-! ### What is listed -/

namespace Exposition

variable {β : Type} {s : Series β} {tuples : List (List String)}

theorem mem_sorted {v : Labelled β} : v ∈ s.sorted ↔ ∃ e ∈ s, e.2 = v := by
  rw [Series.sorted, (List.mergeSort_perm _ _).mem_iff, List.mem_map]

/-- Label values by their names tell which they are. -/
theorem zip_inj {names labels labels' : List String} (h : labels.length = names.length)
    (h' : labels'.length = names.length) (heq : names.zip labels = names.zip labels') :
    labels = labels' := by
  rw [← List.map_snd_zip (Nat.le_of_eq h), heq, List.map_snd_zip (Nat.le_of_eq h')]

/-- **What is listed of a family**: each combination with its value. -/
theorem mem_listed (h : s.Holds tuples) (d : Descriptor) (reading : β → Reading)
    (hlength : ∀ t ∈ tuples, t.length = d.labels.length) {labels : List String}
    (hlabels : labels.length = d.labels.length) {r : Reading} :
    (d.labels.zip labels, r) ∈ (listed d reading s).metrics ↔
      ∃ v, s.at? labels = some v ∧ r = reading v := by
  have hentry {e : UInt64 × Labelled β} (he : e ∈ s) : e.2.labels.length = d.labels.length :=
    hlength _ (h.mem_iff.1 (List.mem_map_of_mem he))
  rw [listed, List.mem_map]
  constructor
  · rintro ⟨v, hv, heq⟩
    obtain ⟨e, he, rfl⟩ := mem_sorted.1 hv
    rw [Prod.mk.injEq] at heq
    rw [← zip_inj (hentry he) hlabels heq.1]
    exact ⟨e.2.value, Series.at?_of_mem h.nodup he, heq.2.symm⟩
  · rintro ⟨v, hv, rfl⟩
    obtain ⟨e, he, heq⟩ := Series.mem_of_at? hv
    exact ⟨⟨labels, v⟩, mem_sorted.2 ⟨e, he, heq⟩, rfl⟩

/-- Every combination is listed once. -/
theorem nodup_listed (h : s.Holds tuples) (d : Descriptor) (reading : β → Reading)
    (hlength : ∀ t ∈ tuples, t.length = d.labels.length) :
    ((listed d reading s).metrics.map Prod.fst).Nodup := by
  have hrows : (listed d reading s).metrics.map Prod.fst =
      (s.sorted.map Labelled.labels).map d.labels.zip := by
    rw [listed, List.map_map, List.map_map]
    rfl
  have hsorted : (s.sorted.map Labelled.labels).Perm s.combinations := by
    have hperm := (List.mergeSort_perm (s.map Prod.snd)
      fun a b => !(decide (b.labels < a.labels))).map Labelled.labels
    rwa [List.map_map] at hperm
  have hwide {labels : List String} (hin : labels ∈ s.sorted.map Labelled.labels) :
      labels.length = d.labels.length :=
    hlength _ (h.mem_iff.1 (hsorted.mem_iff.1 hin))
  rw [hrows]
  exact List.Nodup.map_on (fun _ ha _ hb => zip_inj (hwide ha) (hwide hb))
    (hsorted.nodup_iff.2 h.nodup)

end Exposition

end Turnstile
