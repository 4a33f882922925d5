/-
**Lineages of contexts.**

Contexts are made one from another in any order: bare ones, ones around an outside token, clones,
children, children with a timeout or a deadline.  In between contexts are cancelled and time passes.
A clone shares the token of its original, and so does another context around the same outside token,
which is a clone of the first one here.

A lineage keeps beside the registry what every context was made from and which ones were cancelled.
This module says how the registry goes with that history, one context at a time, and that every
deed keeps it so.

Main definitions:

* `Deed`, `Lineage` — what happens among contexts, and contexts with their history;
* `Lineage.Becomes` — what a deed can do;
* `Lineage.Sound` — how the registry goes with the history.

Main results:

* `Contexts.descends_add`, `Contexts.descends_cancel` — descent is settled once and for all;
* `Lineage.sound_becomes`, `Lineage.sound_run` — **what every deed keeps, and every run**;
* `Lineage.extends_run` — a run takes nothing back.
-/

import Turnstile.Proofs.World.Meanwhile

set_option relaxedAutoImplicit false
set_option autoImplicit false

namespace Turnstile

/-! ### Contexts with their history -/

/-- What a context was made from, and for a child the deadline that was introduced with it. -/
inductive Origin
  | root
  | same (source : Nat)
  | under (source : Nat) (introduced : Option Nat)
  deriving DecidableEq

/-- The context that another one was made from. -/
def Origin.source? : Origin → Option Nat
  | .root => none
  | .same i => some i
  | .under i _ => some i

/-- The deadline that was introduced with a context. -/
def Origin.introduced? : Origin → Option Nat
  | .under _ introduced => introduced
  | _ => none

/-- A context in hand: its place in the registry, and what it was made from. -/
structure Member where
  id : ContextId
  origin : Origin
  deriving DecidableEq

/-- Contexts with their history: those in hand in the order in which they were made, those that were
cancelled, and the time. -/
structure Lineage where
  contexts : Contexts
  members : List Member
  cancelled : List Nat
  now : Nat

/-- What happens among contexts. -/
inductive Deed
  | background
  /-- A context around a token that no other one has. -/
  | fromToken
  | clone (i : Nat)
  | child (i : Nat)
  | withTimeout (i : Nat) (d : Duration)
  | withDeadline (i : Nat) (t : Nat)
  | cancel (i : Nat)
  | pass (ns : Nat)

namespace Lineage

/-- One bare context. -/
def initial : Lineage := ⟨.initial, [⟨0, .root⟩], [], 0⟩

/-- A context is made with the registry, and taken in hand. -/
def take (f : Lineage) (made : ContextId × Contexts) (origin : Origin) : Lineage :=
  { f with contexts := made.2, members := f.members ++ [⟨made.1, origin⟩] }

/-- A deed about a context; if this is not in hand nothing happens. -/
def about (f : Lineage) (i : Nat) (deed : Member → Lineage) : Lineage :=
  match f.members[i]? with
  | some m => deed m
  | none => f

/-- One deed. -/
def step (f : Lineage) : Deed → Lineage
  | .background | .fromToken => f.take f.contexts.background .root
  | .clone i => f.about i fun m => f.take (m.id, f.contexts) (.same i)
  | .child i => f.about i fun m => f.take (f.contexts.child m.id) (.under i none)
  | .withTimeout i d => f.about i fun m =>
      f.take (f.contexts.withTimeout m.id f.now d) (.under i (Instant.after? f.now d))
  | .withDeadline i t => f.about i fun m =>
      f.take (f.contexts.withDeadline m.id t) (.under i (some t))
  | .cancel i => f.about i fun m =>
      { f with contexts := f.contexts.cancel m.id, cancelled := i :: f.cancelled }
  | .pass ns => { f with now := f.now + ns }

/-- One deed after the other. -/
def run (f : Lineage) (deeds : List Deed) : Lineage := deeds.foldl step f

/-- Why a context is finished now, if it is. -/
def err? (f : Lineage) (h : Nat) : Option ContextError :=
  f.members[h]?.bind fun m => f.contexts.err? m.id f.now

/-- The deadline of a context. -/
def deadline? (f : Lineage) (h : Nat) : Option Nat :=
  f.members[h]?.bind fun m => f.contexts.deadline? m.id

end Lineage

/-! ### Descent in the registry -/

namespace Contexts

variable {cs cs' : Contexts} {i j k : ContextId}

theorem descends_iff :
    cs.descends i j = true ↔ j = i ∨
      ∃ c p, cs.get? j = some c ∧ c.parent = some p ∧ p < j ∧ cs.descends i p = true := by
  rw [descends]
  cases hnode : cs.get? j with
  | none => simp
  | some c =>
      cases hparent : c.parent with
      | none => simp [hparent]
      | some p => by_cases hlt : p < j <;> simp [hparent, hlt]

/-- What descends from a context comes after it. -/
theorem le_of_descends (h : cs.descends i j = true) : i ≤ j := by
  induction j using Nat.strongRecOn with
  | ind j ih =>
      obtain rfl | ⟨c, p, -, -, hlt, hp⟩ := descends_iff.1 h
      · exact Nat.le_refl j
      · exact Nat.le_trans (ih p hlt hp) (Nat.le_of_lt hlt)

/-- Descent is a matter of parents alone. -/
theorem descends_congr
    (h : ∀ k ≤ j, (cs.get? k).bind Context.parent = (cs'.get? k).bind Context.parent) :
    cs.descends i j = cs'.descends i j := by
  induction j using Nat.strongRecOn with
  | ind j ih =>
      rw [descends, descends, h j (Nat.le_refl j)]
      cases (cs'.get? j).bind Context.parent with
      | none => rfl
      | some p =>
          by_cases hlt : p < j
          · simp only [hlt, dif_pos]
            rw [ih p hlt fun k hk => h k (Nat.le_trans hk (Nat.le_of_lt hlt))]
          · simp only [hlt, dif_neg, not_false_eq_true]

theorem get?_add_of_lt (c : Context) (h : j < cs.nodes.size) : (cs.add c).2.get? j = cs.get? j := by
  simp [add, get?, Array.getElem?_push, Nat.ne_of_lt h]

theorem get?_add_self (cs : Contexts) (c : Context) :
    (cs.add c).2.get? cs.nodes.size = some c := by
  simp [add, get?]

theorem exists_get? (h : j < cs.nodes.size) : ∃ c, cs.get? j = some c :=
  ⟨cs.nodes[j], Array.getElem?_eq_getElem h⟩

/-- A new context changes nothing in the descent of others, -/
theorem descends_add (c : Context) (h : j < cs.nodes.size) :
    (cs.add c).2.descends i j = cs.descends i j :=
  descends_congr fun k hk => by rw [get?_add_of_lt c (Nat.lt_of_le_of_lt hk h)]

/-- and neither does a cancellation. -/
theorem descends_cancel (cs : Contexts) (i j k : ContextId) :
    (cs.cancel k).descends i j = cs.descends i j :=
  descends_congr fun l _ => by
    rw [get?_cancel]
    cases cs.get? l with
    | none => rfl
    | some c => by_cases h : cs.descends k l = true <;> simp [h]

/-- A new context descends from what its parent descends from. -/
theorem descends_add_self {parent : ContextId} (c : Context) (hc : c.parent = some parent)
    (hparent : parent < cs.nodes.size) (hi : i < cs.nodes.size) :
    (cs.add c).2.descends i cs.nodes.size = cs.descends i parent := by
  rw [descends, get?_add_self, Option.bind_some, hc, Bool.eq_iff_iff]
  simp [hparent, Nat.ne_of_gt hi, descends_add c hparent]

theorem isCancelled_add_of_lt (c : Context) (h : j < cs.nodes.size) :
    (cs.add c).2.isCancelled j = cs.isCancelled j := by
  rw [isCancelled, isCancelled, get?_add_of_lt c h]

theorem isCancelled_add_self (cs : Contexts) (c : Context) :
    (cs.add c).2.isCancelled cs.nodes.size = c.cancelled := by
  rw [isCancelled, get?_add_self]

/-- Contexts in the course of time keep their parents and their deadlines. -/
theorem Evolves.node (h : cs.Evolves cs') {parent deadline : Option Nat} {c : Bool}
    (hnode : cs.get? j = some ⟨parent, c, deadline⟩) :
    ∃ c', cs'.get? j = some ⟨parent, c', deadline⟩ := by
  obtain ⟨⟨parent', c', deadline'⟩, hnode', hparent, hdeadline, -⟩ := h.get? hnode
  obtain rfl : parent' = parent := hparent
  obtain rfl : deadline' = deadline := hdeadline
  exact ⟨c', hnode'⟩

/-- The deadline of a child for which a deadline is introduced, or none. -/
def tightened (existing : Option Nat) : Option Nat → Option Nat
  | some t => some (earlier existing t)
  | none => existing

/-- A child of a context, with a deadline that is introduced for it, or none. -/
def offspring (cs : Contexts) (i : ContextId) (introduced : Option Nat) : Context :=
  ⟨some i, cs.isCancelled i, tightened (cs.deadline? i) introduced⟩

theorem child_eq (cs : Contexts) (i : ContextId) : cs.child i = cs.add (cs.offspring i none) := rfl

theorem withDeadline_eq (cs : Contexts) (i : ContextId) (t : Nat) :
    cs.withDeadline i t = cs.add (cs.offspring i (some t)) := rfl

theorem withTimeout_eq (cs : Contexts) (i : ContextId) (now : Nat) (d : Duration) :
    cs.withTimeout i now d = cs.add (cs.offspring i (Instant.after? now d)) := by
  unfold withTimeout
  cases Instant.after? now d with
  | none => exact cs.child_eq i
  | some t => exact cs.withDeadline_eq i t

end Contexts

namespace Lineage

variable {f f' : Lineage} {g h i : Nat} {m : Member}

/-! ### What a deed does -/

/-- What a deed can do to a lineage. -/
inductive Becomes (f : Lineage) : Lineage → Prop
  | same : Becomes f f
  | root : Becomes f (f.take (f.contexts.add ⟨none, false, none⟩) .root)
  | clone {i : Nat} {m : Member} (source : f.members[i]? = some m) :
      Becomes f (f.take (m.id, f.contexts) (.same i))
  | child {i : Nat} {m : Member} (source : f.members[i]? = some m) (introduced : Option Nat) :
      Becomes f (f.take (f.contexts.add (f.contexts.offspring m.id introduced))
        (.under i introduced))
  | cancel {i : Nat} {m : Member} (source : f.members[i]? = some m) :
      Becomes f { f with contexts := f.contexts.cancel m.id, cancelled := i :: f.cancelled }
  | pass (ns : Nat) : Becomes f { f with now := f.now + ns }

theorem becomes_about {deed : Member → Lineage}
    (h : ∀ m, f.members[i]? = some m → f.Becomes (deed m)) : f.Becomes (f.about i deed) := by
  unfold about
  cases hm : f.members[i]? with
  | none => exact .same
  | some m => exact h m hm

theorem becomes_step (f : Lineage) (deed : Deed) : f.Becomes (f.step deed) := by
  cases deed with
  | background => exact .root
  | fromToken => exact .root
  | clone i => exact becomes_about fun m hm => .clone hm
  | child i => exact becomes_about fun m hm => .child hm none
  | withTimeout i d =>
      refine becomes_about fun m hm => ?_
      rw [Contexts.withTimeout_eq]
      exact .child hm _
  | withDeadline i t => exact becomes_about fun m hm => .child hm (some t)
  | cancel i => exact becomes_about fun m hm => .cancel hm
  | pass ns => exact .pass ns

/-- One lineage comes from another: more contexts, more time, and nothing taken back. -/
structure Extends (f f' : Lineage) : Prop where
  members : ∀ (h : Nat) (m : Member), f.members[h]? = some m → f'.members[h]? = some m
  contexts : f.contexts.Evolves f'.contexts
  now : f.now ≤ f'.now

theorem getElem?_take {made : ContextId × Contexts} {origin : Origin}
    (hm : (f.take made origin).members[h]? = some m) :
    f.members[h]? = some m ∨ h = f.members.length ∧ m = ⟨made.1, origin⟩ := by
  change (f.members ++ [⟨made.1, origin⟩])[h]? = some m at hm
  rw [List.getElem?_append] at hm
  split at hm
  · exact Or.inl hm
  · rename_i hlt
    rw [List.getElem?_singleton] at hm
    split at hm
    · exact Or.inr ⟨by omega, (Option.some.inj hm).symm⟩
    · exact nomatch hm

theorem extends_take {made : ContextId × Contexts} (origin : Origin)
    (h : f.contexts.Evolves made.2) : f.Extends (f.take made origin) :=
  ⟨fun _ _ hm => (List.getElem?_append_left (List.getElem?_eq_some_iff.1 hm).1).trans hm, h,
    Nat.le_refl _⟩

theorem Becomes.extends (h : f.Becomes f') : f.Extends f' := by
  cases h with
  | same => exact ⟨fun _ _ hm => hm, .refl, Nat.le_refl _⟩
  | root => exact extends_take _ (.add _ .refl)
  | clone source => exact extends_take _ .refl
  | child source introduced => exact extends_take _ (.add _ .refl)
  | cancel source => exact ⟨fun _ _ hm => hm, .cancel _ .refl, Nat.le_refl _⟩
  | pass ns => exact ⟨fun _ _ hm => hm, .refl, Nat.le_add_right ..⟩

/-! ### How the registry goes with the history -/

/-- Where a context is in the registry, by what it was made from. -/
inductive Placed (f : Lineage) (h : Nat) (id : ContextId) : Origin → Prop
  | root {c : Bool} (node : f.contexts.get? id = some ⟨none, c, none⟩) : Placed f h id .root
  | same {i : Nat} {m : Member} (lt : i < h) (source : f.members[i]? = some m)
      (id_eq : id = m.id) : Placed f h id (.same i)
  | under {i : Nat} {m : Member} {c : Bool} {introduced : Option Nat} (lt : i < h)
      (source : f.members[i]? = some m) (id_lt : m.id < id)
      (node : f.contexts.get? id =
        some ⟨some m.id, c, Contexts.tightened (f.contexts.deadline? m.id) introduced⟩) :
      Placed f h id (.under i introduced)

/-- The registry goes with the history: every context is where its origin puts it, two of them are
one in the registry only if one of them is a clone, and cancelled are those that descend from a
context that was cancelled. -/
structure Sound (f : Lineage) : Prop where
  registered : ∀ (h : Nat) (m : Member), f.members[h]? = some m → m.id < f.contexts.nodes.size
  placed : ∀ (h : Nat) (m : Member), f.members[h]? = some m → f.Placed h m.id m.origin
  original : ∀ (g h : Nat) (m m' : Member), f.members[g]? = some m → f.members[h]? = some m' →
    (∀ i, m.origin ≠ .same i) → (∀ i, m'.origin ≠ .same i) → m.id = m'.id → g = h
  known : ∀ g ∈ f.cancelled, g < f.members.length
  cancelled : ∀ j < f.contexts.nodes.size, f.contexts.isCancelled j = true ↔
    ∃ g ∈ f.cancelled, ∃ m, f.members[g]? = some m ∧ f.contexts.descends m.id j = true

theorem Placed.extends {id : ContextId} {origin : Origin} (hs : f.Sound) (hf : f.Extends f')
    (hp : f.Placed h id origin) : f'.Placed h id origin := by
  cases hp with
  | root node =>
      obtain ⟨c', hnode⟩ := hf.contexts.node node
      exact .root hnode
  | same lt source id_eq => exact .same lt (hf.members _ _ source) id_eq
  | under lt source id_lt node =>
      obtain ⟨c', hnode⟩ := hf.contexts.node node
      rw [← hf.contexts.deadline?_eq (hs.registered _ _ source)] at hnode
      exact .under lt (hf.members _ _ source) id_lt hnode

theorem sound_initial : initial.Sound := by
  have hone (h : Nat) (m : Member) (hm : initial.members[h]? = some m) : h = 0 ∧ m = ⟨0, .root⟩ := by
    cases h with
    | zero => exact ⟨rfl, (Option.some.inj hm).symm⟩
    | succ h => exact nomatch hm
  refine ⟨fun h m hm => ?_, fun h m hm => ?_, fun g h m m' hm hm' _ _ _ => ?_, nofun, fun j hj => ?_⟩
  · obtain ⟨-, rfl⟩ := hone h m hm
    exact Nat.zero_lt_one
  · obtain ⟨-, rfl⟩ := hone h m hm
    exact .root rfl
  · exact (hone g m hm).1.trans (hone h m' hm').1.symm
  · obtain rfl : j = 0 := Nat.lt_one_iff.1 hj
    constructor
    · exact nofun
    · exact nofun

/-- To take a context in hand leaves the members that were cancelled as they were. -/
theorem exists_cancelled_take (hs : f.Sound) {made : ContextId × Contexts} {origin : Origin}
    {P : Member → Prop} :
    (∃ g ∈ f.cancelled, ∃ m, (f.take made origin).members[g]? = some m ∧ P m) ↔
      ∃ g ∈ f.cancelled, ∃ m, f.members[g]? = some m ∧ P m := by
  constructor
  · rintro ⟨g, hg, m, hm, hP⟩
    obtain hm | ⟨rfl, -⟩ := getElem?_take hm
    · exact ⟨g, hg, m, hm, hP⟩
    · exact absurd (hs.known _ hg) (Nat.lt_irrefl _)
  · rintro ⟨g, hg, m, hm, hP⟩
    exact ⟨g, hg, m, (List.getElem?_append_left (hs.known g hg)).trans hm, hP⟩

/-- A context that is made from the registry goes with its history. -/
theorem Sound.add (hs : f.Sound) {c : Context} {origin : Origin}
    (hplaced : (f.take (f.contexts.add c) origin).Placed f.members.length f.contexts.nodes.size
      origin)
    (hcancelled : c.cancelled = true ↔ ∃ g ∈ f.cancelled, ∃ m, f.members[g]? = some m ∧
      (f.contexts.add c).2.descends m.id f.contexts.nodes.size = true) :
    (f.take (f.contexts.add c) origin).Sound := by
  have hsize : (f.take (f.contexts.add c) origin).contexts.nodes.size = f.contexts.nodes.size + 1 :=
    Array.size_push ..
  refine ⟨fun h m hm => ?_, fun h m hm => ?_, fun g h m m' hm hm' hor hor' hid => ?_,
    fun g hg => ?_, fun j hj => ?_⟩
  · rw [hsize]
    obtain hm | ⟨-, rfl⟩ := getElem?_take hm
    · exact Nat.lt_succ_of_lt (hs.registered h m hm)
    · exact Nat.lt_succ_self _
  · obtain hm | ⟨rfl, rfl⟩ := getElem?_take hm
    · exact (hs.placed h m hm).extends hs (extends_take _ (.add _ .refl))
    · exact hplaced
  · obtain hm | ⟨rfl, rfl⟩ := getElem?_take hm
    · obtain hm' | ⟨rfl, rfl⟩ := getElem?_take hm'
      · exact hs.original g h m m' hm hm' hor hor' hid
      · exact absurd hid (Nat.ne_of_lt (hs.registered g m hm))
    · obtain hm' | ⟨rfl, rfl⟩ := getElem?_take hm'
      · exact absurd hid (Nat.ne_of_gt (hs.registered h m' hm'))
      · rfl
  · exact Nat.lt_of_lt_of_le (hs.known g hg) (by simp [take])
  · refine Iff.trans ?_ (exists_cancelled_take hs).symm
    obtain hj | rfl := Nat.lt_succ_iff_lt_or_eq.1 (hsize ▸ hj)
    · simp only [take, Contexts.isCancelled_add_of_lt c hj, Contexts.descends_add c hj]
      exact hs.cancelled j hj
    · simp only [take, Contexts.isCancelled_add_self]
      exact hcancelled

/-- A bare context goes with the history, -/
theorem Sound.root (hs : f.Sound) :
    (f.take (f.contexts.add ⟨none, false, none⟩) .root).Sound := by
  refine hs.add (.root (Contexts.get?_add_self ..)) ⟨nofun, ?_⟩
  rintro ⟨g, -, m, hm, hdescends⟩
  obtain heq | ⟨c, p, hnode, hparent, -⟩ := Contexts.descends_iff.1 hdescends
  · exact absurd heq (Nat.ne_of_gt (hs.registered g m hm))
  · rw [Contexts.get?_add_self, Option.some.injEq] at hnode
    rw [← hnode] at hparent
    exact nomatch hparent

/-- so does a clone, -/
theorem Sound.clone (hs : f.Sound) (source : f.members[i]? = some m) :
    (f.take (m.id, f.contexts) (.same i)).Sound := by
  have hf : f.Extends (f.take (m.id, f.contexts) (.same i)) := extends_take _ .refl
  refine ⟨fun h m' hm => ?_, fun h m' hm => ?_, fun g h m' m'' hm hm' hor hor' hid => ?_,
    fun g hg => ?_, fun j hj => ?_⟩
  · obtain hm | ⟨-, rfl⟩ := getElem?_take hm
    · exact hs.registered h m' hm
    · exact hs.registered i m source
  · obtain hm | ⟨rfl, rfl⟩ := getElem?_take hm
    · exact (hs.placed h m' hm).extends hs hf
    · exact .same (List.getElem?_eq_some_iff.1 source).1 (hf.members i m source) rfl
  · obtain hm | ⟨-, rfl⟩ := getElem?_take hm
    · obtain hm' | ⟨-, rfl⟩ := getElem?_take hm'
      · exact hs.original g h m' m'' hm hm' hor hor' hid
      · exact absurd rfl (hor' i)
    · exact absurd rfl (hor i)
  · exact Nat.lt_of_lt_of_le (hs.known g hg) (by simp [take])
  · exact (hs.cancelled j hj).trans (exists_cancelled_take hs).symm

/-- and a child. -/
theorem Sound.child (hs : f.Sound) (source : f.members[i]? = some m) (introduced : Option Nat) :
    (f.take (f.contexts.add (f.contexts.offspring m.id introduced)) (.under i introduced)).Sound := by
  have hm := hs.registered i m source
  have hf : f.Extends (f.take (f.contexts.add (f.contexts.offspring m.id introduced))
    (.under i introduced)) := extends_take _ (.add _ .refl)
  refine hs.add ?_ ?_
  · refine .under (c := f.contexts.isCancelled m.id) (List.getElem?_eq_some_iff.1 source).1
      (hf.members i m source) hm ?_
    rw [hf.contexts.deadline?_eq hm]
    exact Contexts.get?_add_self ..
  · -- the child descends from a member exactly if its parent does
    have hself (g : Nat) (m' : Member) (hm' : f.members[g]? = some m') :=
      Contexts.descends_add_self (f.contexts.offspring m.id introduced) rfl hm
        (hs.registered g m' hm')
    refine (hs.cancelled m.id hm).trans ⟨?_, ?_⟩
    · rintro ⟨g, hg, m', hm', h⟩
      exact ⟨g, hg, m', hm', (hself g m' hm').trans h⟩
    · rintro ⟨g, hg, m', hm', h⟩
      exact ⟨g, hg, m', hm', (hself g m' hm').symm.trans h⟩

/-- A cancellation reaches what descends from the cancelled context. -/
theorem Sound.cancel (hs : f.Sound) (source : f.members[i]? = some m) :
    Sound { f with contexts := f.contexts.cancel m.id, cancelled := i :: f.cancelled } := by
  have hsize : (f.contexts.cancel m.id).nodes.size = f.contexts.nodes.size := by
    simp [Contexts.cancel]
  refine ⟨fun h m' hm => hsize ▸ hs.registered h m' hm, fun h m' hm => ?_, hs.original,
    fun g hg => ?_, fun j hj => ?_⟩
  · exact (hs.placed h m' hm).extends hs ⟨fun _ _ hm => hm, .cancel _ .refl, Nat.le_refl _⟩
  · obtain rfl | hg := List.mem_cons.1 hg
    · exact (List.getElem?_eq_some_iff.1 source).1
    · exact hs.known g hg
  · replace hj : j < f.contexts.nodes.size := hsize ▸ hj
    obtain ⟨c, hc⟩ := Contexts.exists_get? hj
    refine (Contexts.isCancelled_cancel ..).trans ?_
    simp only [hs.cancelled j hj, hc, Option.isSome_some, true_and, Contexts.descends_cancel,
      List.mem_cons, or_and_right, exists_or, exists_eq_left, source, Option.some.injEq,
      exists_eq_left']
    exact or_comm

/-- **What every deed keeps.** -/
theorem sound_becomes (hs : f.Sound) (hf : f.Becomes f') : f'.Sound := by
  cases hf with
  | same => exact hs
  | root => exact hs.root
  | clone source => exact hs.clone source
  | child source introduced => exact hs.child source introduced
  | cancel source => exact hs.cancel source
  | pass ns => exact ⟨hs.registered, fun h m hm => (hs.placed h m hm).extends hs
      ⟨fun _ _ hm => hm, .refl, Nat.le_add_right ..⟩, hs.original, hs.known, hs.cancelled⟩

/-- What one deed keeps, every run keeps. -/
theorem keeps_run {P : Lineage → Prop} (hstep : ∀ {f f'}, P f → f.Becomes f' → P f')
    (hf : P f) (deeds : List Deed) : P (f.run deeds) := by
  induction deeds generalizing f with
  | nil => exact hf
  | cons deed deeds ih => exact ih (hstep hf (f.becomes_step deed))

/-- **What every run keeps.** -/
theorem sound_run (deeds : List Deed) : (initial.run deeds).Sound :=
  keeps_run (fun hs hf => sound_becomes hs hf) sound_initial deeds

/-- A run takes nothing back. -/
theorem extends_run (f : Lineage) (deeds : List Deed) : f.Extends (f.run deeds) :=
  keeps_run (P := f.Extends) (fun hf hbecomes => by
    have hstep := hbecomes.extends
    exact ⟨fun h m hm => hstep.members h m (hf.members h m hm), hf.contexts.trans hstep.contexts,
      Nat.le_trans hf.now hstep.now⟩) ⟨fun _ _ hm => hm, .refl, Nat.le_refl _⟩ deeds

end Lineage

end Turnstile
