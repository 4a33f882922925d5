/-
**What the history of a context says.**

Why a context is finished follows from its history alone.  Its path leads from the context over the
one that it was made from, and so on, to the root.  A context is cancelled exactly if a context on
its path or a clone of one was cancelled, and its deadline is the smallest one introduced on its
path.  So a deadline is never later than that of an ancestor, ancestors and siblings do not notice a
cancellation, and a finished context stays finished.

Main definitions:

* `Lineage.OnPath`, `Lineage.Clones`, `Lineage.Ancestor`, `Lineage.Sibling` — how contexts are related;
* `Lineage.WasCancelled`, `Lineage.deadlines` — what the history says of a context;
* `Earliest` — the least of some instants, none if there are none.

Main results:

* `Lineage.clones_iff`, `Lineage.exists_onPath_iff` — clones and paths in the registry;
* `Lineage.isCancelled_iff`, `Lineage.earliest_deadline?` — cancellations and deadlines;
* `Lineage.err?_iff_history` — **why a context is finished is what its history says**.
-/

import Mathlib.Logic.Relation
import Mathlib.Order.Bounds.Basic
import Turnstile.Proofs.Context.Lineage

set_option relaxedAutoImplicit false
set_option autoImplicit false

namespace Turnstile

namespace Lineage

/-! ### What the history says -/

/-- A context was made from another one. -/
def MadeFrom (f : Lineage) (h i : Nat) : Prop :=
  ∃ m, f.members[h]? = some m ∧ m.origin.source? = some i

/-- A context is on the path from another one to the root. -/
def OnPath (f : Lineage) (h g : Nat) : Prop := Relation.ReflTransGen f.MadeFrom h g

/-- A context was cloned from another one. -/
def ClonedFrom (f : Lineage) (h i : Nat) : Prop :=
  ∃ m, f.members[h]? = some m ∧ m.origin = .same i

/-- One of two contexts was cloned from the other, or from a clone of it, or both so from one. -/
def Clones (f : Lineage) (g h : Nat) : Prop := Relation.EqvGen f.ClonedFrom g h

/-- A context was made as a child of another one. -/
def ChildOf (f : Lineage) (h i : Nat) : Prop :=
  ∃ m introduced, f.members[h]? = some m ∧ m.origin = .under i introduced

/-- A context is an ancestor of another one, or a clone of one. -/
def Ancestor (f : Lineage) (a h : Nat) : Prop :=
  ∃ k p b, f.OnPath h k ∧ f.ChildOf k p ∧ f.OnPath p b ∧ f.Clones b a

/-- Two contexts are children of one context, clones aside, and not clones of each other. -/
def Sibling (f : Lineage) (g h : Nat) : Prop :=
  ¬ f.Clones g h ∧ ∃ g' p h' q, f.Clones g g' ∧ f.ChildOf g' p ∧ f.Clones h h' ∧ f.ChildOf h' q ∧
    f.Clones p q

/-- The context, one that it descends from, or a clone of one of these was cancelled. -/
def WasCancelled (f : Lineage) (h : Nat) : Prop :=
  ∃ g k, f.OnPath h g ∧ f.Clones g k ∧ k ∈ f.cancelled

/-- The deadlines that were introduced on the path of a context. -/
def deadlines (f : Lineage) (h : Nat) : Set Nat :=
  {t | ∃ g m, f.OnPath h g ∧ f.members[g]? = some m ∧ m.origin.introduced? = some t}

variable {f : Lineage} {g h i : Nat} {m : Member}

/-! ### The registry in terms of the history -/

/-- The place of a context in the registry. -/
def id? (f : Lineage) (h : Nat) : Option ContextId := f.members[h]?.map Member.id

theorem id?_eq_some {id : ContextId} :
    f.id? h = some id ↔ ∃ m, f.members[h]? = some m ∧ m.id = id :=
  Option.map_eq_some_iff

theorem id?_eq (hm : f.members[h]? = some m) : f.id? h = some m.id := by
  rw [id?, hm]
  rfl

/-- A clone has the place of its original. -/
theorem Sound.id?_clonedFrom (hs : f.Sound) (hc : f.ClonedFrom h i) : f.id? h = f.id? i := by
  obtain ⟨m, hm, horigin⟩ := hc
  have hplaced := hs.placed h m hm
  rw [horigin] at hplaced
  cases hplaced with
  | same lt source id_eq => rw [id?_eq hm, id?_eq source, id_eq]

theorem Sound.id?_clones (hs : f.Sound) (hc : f.Clones g h) : f.id? g = f.id? h := by
  induction hc with
  | rel g h hc => exact hs.id?_clonedFrom hc
  | refl g => rfl
  | symm g h _ ih => exact ih.symm
  | trans g h k _ _ ih ih' => exact ih.trans ih'

/-- A child comes after its parent. -/
theorem Sound.childOf (hs : f.Sound) (hm : f.members[h]? = some m) (hc : f.ChildOf h i) :
    ∃ p, f.members[i]? = some p ∧ p.id < m.id ∧
      ∃ c, f.contexts.get? m.id = some c ∧ c.parent = some p.id := by
  obtain ⟨m', introduced, hm', horigin⟩ := hc
  obtain rfl : m' = m := Option.some.inj (hm'.symm.trans hm)
  have hplaced := hs.placed h m' hm
  rw [horigin] at hplaced
  cases hplaced with
  | under lt source id_lt node => exact ⟨_, source, id_lt, _, node, rfl⟩

/-- Every context is a clone of one that is none itself. -/
theorem Sound.exists_original (hs : f.Sound) (hm : f.members[h]? = some m) :
    ∃ g m', f.members[g]? = some m' ∧ (∀ i, m'.origin ≠ .same i) ∧ f.Clones h g := by
  induction h using Nat.strongRecOn generalizing m with
  | ind h ih =>
      by_cases hclone : ∃ i, m.origin = .same i
      · obtain ⟨i, horigin⟩ := hclone
        have hplaced := hs.placed h m hm
        rw [horigin] at hplaced
        cases hplaced with
        | same lt source id_eq =>
            obtain ⟨g, m', hm', hor, hclones⟩ := ih i lt source
            exact ⟨g, m', hm', hor, .trans _ _ _ (.rel _ _ ⟨m, hm, horigin⟩) hclones⟩
      · exact ⟨h, m, hm, fun i horigin => hclone ⟨i, horigin⟩, .refl h⟩

/-- **Clones are the contexts that have the same place.** -/
theorem clones_iff (hs : f.Sound) {m' : Member} (hm : f.members[g]? = some m)
    (hm' : f.members[h]? = some m') : f.Clones g h ↔ m.id = m'.id := by
  constructor
  · intro hc
    have hid := hs.id?_clones hc
    rw [id?_eq hm, id?_eq hm'] at hid
    exact Option.some.inj hid
  · intro hid
    obtain ⟨g', n, hn, hor, hg⟩ := hs.exists_original hm
    obtain ⟨h', n', hn', hor', hh⟩ := hs.exists_original hm'
    have hsame : n.id = n'.id := by
      have h₁ := hs.id?_clones hg
      have h₂ := hs.id?_clones hh
      rw [id?_eq hm, id?_eq hn, Option.some.injEq] at h₁
      rw [id?_eq hm', id?_eq hn', Option.some.injEq] at h₂
      rw [← h₁, ← h₂, hid]
    obtain rfl := hs.original g' h' n n' hn hn' hor hor' hsame
    exact .trans _ _ _ hg (.symm _ _ hh)

/-- What a context was made from is in hand, and the context descends from it. -/
theorem Sound.madeFrom (hs : f.Sound) (hm : f.members[h]? = some m) (hfrom : f.MadeFrom h i) :
    ∃ m', f.members[i]? = some m' ∧
      ∀ j, f.contexts.descends j m'.id = true → f.contexts.descends j m.id = true := by
  obtain ⟨n, hn, hsource⟩ := hfrom
  obtain rfl : n = m := Option.some.inj (hn.symm.trans hm)
  have hplaced := hs.placed h n hm
  cases horigin : n.origin with
  | root => simp [horigin, Origin.source?] at hsource
  | same i' =>
      obtain rfl : i' = i := by simpa [horigin, Origin.source?] using hsource
      rw [horigin] at hplaced
      cases hplaced with
      | @same _ m' lt source id_eq => exact ⟨m', source, fun j hj => id_eq ▸ hj⟩
  | under i' introduced =>
      obtain rfl : i' = i := by simpa [horigin, Origin.source?] using hsource
      rw [horigin] at hplaced
      cases hplaced with
      | @under _ m' c _ lt source id_lt node =>
          exact ⟨m', source, fun j hj =>
            Contexts.descends_iff.2 (Or.inr ⟨_, m'.id, node, rfl, id_lt, hj⟩)⟩

/-- **A context descends from those on its path**, and from clones of these, which have the same
places. -/
theorem exists_onPath_iff (hs : f.Sound) (hm : f.members[h]? = some m) (j : ContextId) :
    f.contexts.descends j m.id = true ↔ ∃ g, f.OnPath h g ∧ f.id? g = some j := by
  constructor
  · induction h using Nat.strongRecOn generalizing m with
    | ind h ih =>
        intro hdescends
        obtain heq | ⟨c, p, hnode, hparent, -, hp⟩ := Contexts.descends_iff.1 hdescends
        · exact ⟨h, .refl, heq ▸ id?_eq hm⟩
        have hplaced := hs.placed h m hm
        cases horigin : m.origin with
        | root =>
            rw [horigin] at hplaced
            cases hplaced with
            | root node =>
                rw [← Option.some.inj (node.symm.trans hnode)] at hparent
                exact nomatch hparent
        | same i =>
            rw [horigin] at hplaced
            cases hplaced with
            | same lt source id_eq =>
                obtain ⟨g, hpath, hg⟩ := ih i lt source (id_eq ▸ hdescends)
                exact ⟨g, .head ⟨m, hm, by rw [horigin]; rfl⟩ hpath, hg⟩
        | under i introduced =>
            rw [horigin] at hplaced
            cases hplaced with
            | under lt source id_lt node =>
                rw [← Option.some.inj (node.symm.trans hnode), Option.some.injEq] at hparent
                obtain ⟨g, hpath, hg⟩ := ih i lt source (hparent ▸ hp)
                exact ⟨g, .head ⟨m, hm, by rw [horigin]; rfl⟩ hpath, hg⟩
  · rintro ⟨g, hpath, hg⟩
    induction hpath using Relation.ReflTransGen.head_induction_on generalizing m with
    | refl =>
        rw [id?_eq hm, Option.some.injEq] at hg
        exact Contexts.descends_iff.2 (Or.inl hg)
    | head hfrom _ ih =>
        obtain ⟨m', hm', hdescends⟩ := hs.madeFrom hm hfrom
        exact hdescends j (ih hm')

/-- What is on the path of a context is in hand. -/
theorem Sound.exists_id? (hs : f.Sound) (hm : f.members[h]? = some m) (hpath : f.OnPath h g) :
    ∃ id, f.id? g = some id := by
  induction hpath using Relation.ReflTransGen.head_induction_on generalizing m with
  | refl => exact ⟨m.id, id?_eq hm⟩
  | head hfrom _ ih =>
      obtain ⟨m', hm', -⟩ := hs.madeFrom hm hfrom
      exact ih hm'

/-- **Cancelled are the contexts that were cancelled**, with their clones and all below them. -/
theorem isCancelled_iff (hs : f.Sound) (hm : f.members[h]? = some m) :
    f.contexts.isCancelled m.id = true ↔ f.WasCancelled h := by
  rw [hs.cancelled m.id (hs.registered h m hm)]
  constructor
  · rintro ⟨k, hk, n, hn, hdescends⟩
    obtain ⟨g, hpath, hg⟩ := (exists_onPath_iff hs hm n.id).1 hdescends
    obtain ⟨m', hm', hid⟩ := id?_eq_some.1 hg
    exact ⟨g, k, hpath, (clones_iff hs hm' hn).2 hid, hk⟩
  · rintro ⟨g, k, hpath, hclones, hk⟩
    obtain ⟨n, hn⟩ : ∃ n, f.members[k]? = some n :=
      ⟨_, List.getElem?_eq_getElem (hs.known k hk)⟩
    refine ⟨k, hk, n, hn, (exists_onPath_iff hs hm n.id).2 ⟨g, hpath, ?_⟩⟩
    rw [hs.id?_clones hclones, id?_eq hn]

/-- The least of some instants, none if there are none. -/
inductive Earliest : Option Nat → Set Nat → Prop
  | none {S : Set Nat} (empty : S = ∅) : Earliest none S
  | some {t : Nat} {S : Set Nat} (least : IsLeast S t) : Earliest (some t) S

theorem Earliest.eq_some_iff {existing : Option Nat} {S : Set Nat} (he : Earliest existing S)
    (t : Nat) : existing = .some t ↔ IsLeast S t := by
  cases he with
  | none empty => simp [empty, IsLeast]
  | some least =>
      constructor
      · rintro ⟨⟩
        exact least
      · intro ht
        rw [least.unique ht]

/-- A deadline that is introduced counts if it is earlier. -/
theorem Earliest.tightened {existing : Option Nat} {S : Set Nat} (he : Earliest existing S)
    (introduced : Option Nat) :
    Earliest (Contexts.tightened existing introduced) ({t | introduced = .some t} ∪ S) := by
  cases introduced with
  | none => simpa [Contexts.tightened] using he
  | some t =>
      have hone : {u | Option.some t = .some u} = ({t} : Set Nat) := by
        ext u
        simp [eq_comm]
      rw [hone]
      cases he with
      | none empty =>
          subst empty
          exact .some (by simp [Contexts.earlier])
      | @some e _ least =>
          refine .some ?_
          have hmin : Contexts.earlier (.some e) t = min t e := by
            simp only [Contexts.earlier]
            split
            · rename_i hle
              exact (Nat.min_eq_right hle).symm
            · rename_i hnot
              exact (Nat.min_eq_left (Nat.le_of_not_le hnot)).symm
          rw [hmin]
          exact isLeast_singleton.union least

/-- The deadlines on the path of a context are its own one and those on the path of what it was made
from. -/
theorem deadlines_eq (hm : f.members[h]? = some m) :
    f.deadlines h =
      {t | m.origin.introduced? = some t} ∪
        {t | ∃ i, m.origin.source? = some i ∧ t ∈ f.deadlines i} := by
  ext t
  constructor
  · rintro ⟨g, n, hpath, hn, ht⟩
    obtain rfl | ⟨i, ⟨m', hm', hsource⟩, hpath⟩ := Relation.ReflTransGen.cases_head hpath
    · obtain rfl : n = m := Option.some.inj (hn.symm.trans hm)
      exact Or.inl ht
    · obtain rfl : m' = m := Option.some.inj (hm'.symm.trans hm)
      exact Or.inr ⟨i, hsource, g, n, hpath, hn, ht⟩
  · rintro (ht | ⟨i, hsource, g, n, hpath, hn, ht⟩)
    · exact ⟨h, m, .refl, hm, ht⟩
    · exact ⟨g, n, .head ⟨m, hm, hsource⟩ hpath, hn, ht⟩

/-- **The deadline of a context is the least one that was introduced on its path.** -/
theorem earliest_deadline? (hs : f.Sound) (hm : f.members[h]? = some m) :
    Earliest (f.contexts.deadline? m.id) (f.deadlines h) := by
  induction h using Nat.strongRecOn generalizing m with
  | ind h ih =>
      have hplaced := hs.placed h m hm
      rw [deadlines_eq hm]
      cases horigin : m.origin with
      | root =>
          rw [horigin] at hplaced
          cases hplaced with
          | root node =>
              rw [Contexts.deadline?, node]
              exact .none (by simp [Origin.introduced?, Origin.source?])
      | same i =>
          rw [horigin] at hplaced
          cases hplaced with
          | same lt source id_eq =>
              rw [id_eq]
              simpa [Origin.introduced?, Origin.source?] using ih i lt source
      | under i introduced =>
          rw [horigin] at hplaced
          cases hplaced with
          | @under _ m' c _ lt source id_lt node =>
              have hparent := (ih i lt source).tightened introduced
              rw [Contexts.deadline?, node]
              simpa [Origin.introduced?, Origin.source?] using hparent

/-! ### Why a context is finished -/

theorem err?_eq (hm : f.members[h]? = some m) : f.err? h = f.contexts.err? m.id f.now := by
  rw [err?, hm]
  rfl

theorem deadline?_eq (hm : f.members[h]? = some m) :
    f.deadline? h = f.contexts.deadline? m.id := by
  rw [deadline?, hm]
  rfl

theorem deadline?_eq_some_iff (hs : f.Sound) (hm : f.members[h]? = some m) (t : Nat) :
    f.deadline? h = some t ↔ IsLeast (f.deadlines h) t := by
  rw [deadline?_eq hm]
  exact (earliest_deadline? hs hm).eq_some_iff t

theorem err?_eq_cancelled_iff (hs : f.Sound) (hm : f.members[h]? = some m) :
    f.err? h = some .cancelled ↔ f.WasCancelled h := by
  rw [err?_eq hm, ← isCancelled_iff hs hm, Contexts.err?]
  cases f.contexts.isCancelled m.id with
  | true => simp
  | false =>
      cases f.contexts.deadline? m.id with
      | none => simp
      | some t => by_cases ht : t ≤ f.now <;> simp [ht]

theorem err?_eq_deadlineExceeded_iff (hs : f.Sound) (hm : f.members[h]? = some m) :
    f.err? h = some .deadlineExceeded ↔
      ¬ f.WasCancelled h ∧ ∃ t, IsLeast (f.deadlines h) t ∧ t ≤ f.now := by
  simp only [← deadline?_eq_some_iff hs hm, deadline?_eq hm, ← isCancelled_iff hs hm]
  rw [err?_eq hm, Contexts.err?]
  cases f.contexts.isCancelled m.id with
  | true => simp
  | false =>
      cases f.contexts.deadline? m.id with
      | none => simp
      | some t => by_cases ht : t ≤ f.now <;> simp [ht]

theorem err?_eq_none_iff (hs : f.Sound) (hm : f.members[h]? = some m) :
    f.err? h = none ↔ ¬ f.WasCancelled h ∧ ∀ t, IsLeast (f.deadlines h) t → f.now < t := by
  simp only [← deadline?_eq_some_iff hs hm, deadline?_eq hm, ← isCancelled_iff hs hm]
  rw [err?_eq hm, Contexts.err?]
  cases f.contexts.isCancelled m.id with
  | true => simp
  | false =>
      cases f.contexts.deadline? m.id with
      | none => simp
      | some t =>
          by_cases ht : t ≤ f.now
          · simp [ht]
          · simp [ht, Nat.lt_of_not_le ht]

/-- No deadline is later than that of a context on the path. -/
theorem deadline?_le (hs : f.Sound) (hm : f.members[h]? = some m) (hpath : f.OnPath h g) {t : Nat}
    (ht : f.deadline? g = some t) : ∃ t' ≤ t, f.deadline? h = some t' := by
  obtain ⟨id, hid⟩ := hs.exists_id? hm hpath
  obtain ⟨m', hm', -⟩ := id?_eq_some.1 hid
  obtain ⟨⟨k, n, hrest, hn, hintroduced⟩, -⟩ := (deadline?_eq_some_iff hs hm' t).1 ht
  have hmem : t ∈ f.deadlines h := ⟨k, n, hpath.trans hrest, hn, hintroduced⟩
  rw [deadline?_eq hm]
  have hearliest := earliest_deadline? hs hm
  cases hdeadline : f.contexts.deadline? m.id with
  | none =>
      rw [hdeadline] at hearliest
      cases hearliest with
      | none empty =>
          rw [empty] at hmem
          exact absurd hmem (Set.notMem_empty t)
  | some t' =>
      rw [hdeadline] at hearliest
      cases hearliest with
      | some least => exact ⟨t', least.2 hmem, rfl⟩

/-- A cancellation does not reach what does not descend from the cancelled context. -/
theorem err?_cancel {n : Member} (hm : f.members[h]? = some m) (hn : f.members[g]? = some n)
    (haside : ¬ f.contexts.descends m.id n.id = true) : (f.step (.cancel h)).err? g = f.err? g := by
  have hsame : (f.contexts.cancel m.id).get? n.id = f.contexts.get? n.id := by
    rw [Contexts.get?_cancel]
    cases f.contexts.get? n.id with
    | none => rfl
    | some c => simp [haside]
  simp only [step, about, hm, err?, hn, Option.bind_some, Contexts.err?, Contexts.isCancelled,
    Contexts.deadline?, hsame]
  rfl

/-- Ancestors do not descend from a context, -/
theorem Ancestor.aside (hs : f.Sound) (hm : f.members[h]? = some m) (ha : f.Ancestor g h) :
    ∃ n, f.members[g]? = some n ∧ ¬ f.contexts.descends m.id n.id = true := by
  obtain ⟨k, p, b, hk, hchild, hb, hclones⟩ := ha
  obtain ⟨idk, hidk⟩ := hs.exists_id? hm hk
  obtain ⟨mk, hmk, rfl⟩ := id?_eq_some.1 hidk
  obtain ⟨mp, hmp, hlt, -⟩ := hs.childOf hmk hchild
  obtain ⟨idb, hidb⟩ := hs.exists_id? hmp hb
  obtain ⟨n, hn, hid⟩ := id?_eq_some.1 ((hs.id?_clones hclones).symm.trans hidb)
  have hbelow : mk.id ≤ m.id :=
    Contexts.le_of_descends ((exists_onPath_iff hs hm mk.id).2 ⟨k, hk, hidk⟩)
  have habove : n.id ≤ mp.id :=
    Contexts.le_of_descends ((exists_onPath_iff hs hmp n.id).2 ⟨b, hb, hid ▸ hidb⟩)
  refine ⟨n, hn, fun hdescends => ?_⟩
  exact Nat.lt_irrefl n.id <|
    calc n.id ≤ mp.id := habove
      _ < mk.id := hlt
      _ ≤ m.id := hbelow
      _ ≤ n.id := Contexts.le_of_descends hdescends

/-- and neither do siblings. -/
theorem Sibling.aside (hs : f.Sound) (hm : f.members[h]? = some m) (hsib : f.Sibling g h) :
    ∃ n, f.members[g]? = some n ∧ ¬ f.contexts.descends m.id n.id = true := by
  obtain ⟨hnot, g', p, h', q, hg, hchild, hh, hchild', hclones⟩ := hsib
  obtain ⟨n', -, hn', -⟩ := id hchild
  obtain ⟨m', -, hm', -⟩ := id hchild'
  obtain ⟨n, hn, hidn⟩ := id?_eq_some.1 ((hs.id?_clones hg).trans (id?_eq hn'))
  obtain ⟨mp, hmp, -, c, hnode, hparent⟩ := hs.childOf hn' hchild
  obtain ⟨mq, hmq, hlt, -⟩ := hs.childOf hm' hchild'
  have hpq : mp.id = mq.id := (clones_iff hs hmp hmq).1 hclones
  have hidm : m.id = m'.id := (clones_iff hs hm hm').1 hh
  refine ⟨n, hn, fun hdescends => ?_⟩
  obtain heq | ⟨c', p', hnode', hparent', -, hp⟩ := Contexts.descends_iff.1 hdescends
  · exact hnot ((clones_iff hs hn hm).2 heq)
  · rw [hidn, hnode, Option.some.injEq] at hnode'
    rw [← hnode', hparent, Option.some.injEq] at hparent'
    exact Nat.lt_irrefl m.id <|
      calc m.id ≤ p' := Contexts.le_of_descends hp
        _ = mq.id := hparent'.symm.trans hpq
        _ < m'.id := hlt
        _ = m.id := hidm.symm

/-- To wait does not make a finished context live again. -/
theorem err?_mono {cs : Contexts} {id : ContextId} {now later : Nat} (hle : now ≤ later)
    (h : cs.err? id now ≠ none) : cs.err? id later ≠ none := by
  unfold Contexts.err? at h ⊢
  cases hcancelled : cs.isCancelled id with
  | true => simp
  | false =>
      cases hdeadline : cs.deadline? id with
      | none => simp [hcancelled, hdeadline] at h
      | some t =>
          have ht : t ≤ now := by
            by_contra hnot
            simp [hcancelled, hdeadline, hnot] at h
          simp [Nat.le_trans ht hle]

end Lineage

end Turnstile
