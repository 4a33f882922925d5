/-
**The number of limiters alive.**

Whoever holds a limiter of some kind keeps it counted, and every limiter that begins or ends reports
the new number of its kind.  The numbers are kept beside the holders, not read off them.  They agree
all the same, in every run through copies of the handle: whatever begins and ends in whatever order,
limiters that cannot be built included, the number of a kind is that of its holders alive, and the
last pattern reported tells this one.  In particular a number is never zero when a limiter ends, so the
stop at zero is never what keeps it right.

Main definitions:

* `MeterBench.alive` — how many holders of a kind are alive;
* `MeterBench.after`, `MeterBench.told` — where steps lead, and what they report;
* `lastActive?` — the last number reported for a kind;
* `MeterStep.Handled` — what is done through copies of the handle;
* `MeterStep.keeps` — who holds a share of the meter after a step;
* `MeterBench.Exact` — the numbers kept and reported are those of the holders alive.

Main results:

* `MeterBench.Exact.adjust` — a number changes with its holders;
* `MeterBench.turn_cases` — what a step can do;
* `MeterBench.Exact.turn`, `MeterBench.Exact.perform` — **the numbers stay exact in every step**;
* `MeterBench.active_exact` — **the numbers are exact in every run**.
-/

import Turnstile.Metrics.Bench
import Turnstile.Proofs.Metrics.Counts

set_option relaxedAutoImplicit false
set_option autoImplicit false

namespace Turnstile

/-! ### Counting by kind -/

namespace ActiveCounts

theorem count_cons (k : String) (n : Nat) (c : ActiveCounts) (kind : String) :
    count ((k, n) :: c) kind = if kind = k then n else c.count kind := by
  rw [count, List.lookup_cons]
  by_cases h : kind = k
  · rw [if_pos h, beq_iff_eq.2 h, Option.getD_some]
  · rw [if_neg h, beq_eq_false_iff_ne.2 h, count]

/-- To change the number of a kind changes no other. -/
theorem count_update (kind : String) (f : Nat → Nat) (c : ActiveCounts) (kind' : String) :
    count (update kind f c) kind' = if kind' = kind then f (c.count kind) else c.count kind' := by
  induction c with
  | nil => exact count_cons kind (f 0) [] kind'
  | cons e rest ih =>
      obtain ⟨k, n⟩ := e
      rw [update, count_cons, count_cons]
      by_cases hk : k = kind
      · subst hk
        rw [if_pos rfl, if_pos rfl, count_cons]
        by_cases h : kind' = k
        · rw [if_pos h, if_pos h]
        · rw [if_neg h, if_neg h, if_neg h]
      · rw [if_neg hk, if_neg (Ne.symm hk), count_cons, ih]
        by_cases h : kind' = k
        · rw [if_pos h, if_neg fun heq => hk (h.symm.trans heq), if_pos h]
        · rw [if_neg h, if_neg h]

end ActiveCounts

/-- A hook takes in observations one after the other. -/
theorem Hook.observeAll_append (h : Hook) (os os' : List Observation) :
    (h.observeAll (os ++ os')).1 = ((h.observeAll os).1.observeAll os').1 := by
  induction os generalizing h with
  | nil => rfl
  | cons o os ih => exact ih (h.observe o).1

/-- The last number reported for a kind. -/
def lastActive? (kind : String) (os : List Observation) : Option Quantity :=
  (os.filterMap (Observation.number? kind)).getLast?

theorem lastActive?_append (kind : String) (os : List Observation) (o : Observation) :
    lastActive? kind (os ++ [o]) = (o.number? kind).or (lastActive? kind os) := by
  rw [lastActive?, List.filterMap_append, List.getLast?_append, lastActive?]
  cases h : o.number? kind <;> simp [h]

/-- What is done through copies of the handle: no number is reported past the meter, and what a hook
keeps stays. -/
def MeterStep.Handled : MeterStep → Prop
  | .observe (.active ..) => False
  | .clear => False
  | _ => True

instance : DecidablePred MeterStep.Handled
  | .observe (.active ..) | .clear => .isFalse id
  | .observe (.request ..) | .observe (.latency ..) | .observe (.waiting ..) => .isTrue trivial
  | .share | .start _ | .build .. | .drop _ | .query _ | .queryActive _ | .events
  | .registerAgain | .gather => .isTrue trivial

theorem MeterStep.Handled.ne_clear {s : MeterStep} (h : s.Handled) : s ≠ .clear := by
  rintro rfl
  exact h

/-- Who holds a share of the meter after a step, by number: who begins has the next number, and one
that was dropped is gone. -/
def MeterStep.keeps (holders : Array (Option Holder)) : MeterStep → Array (Option Holder)
  | .share => holders.push (some .handle)
  | .start kind => holders.push (some (.guard kind))
  | .build pollInterval sleeper =>
      match SlidingWindow.make pollInterval sleeper with
      | .ok l => holders.push (some (.limiter l))
      | .error _ => holders
  | .drop i => holders.setIfInBounds i none
  | _ => holders

namespace MeterBench

variable {b b' : MeterBench} {os : List Observation} {s : MeterStep}

/-- How many holders of a kind are alive. -/
def alive (b : MeterBench) (kind : String) : Nat :=
  b.holders.countP fun h => h.bind Holder.kind? = some kind

/-- The bench to which steps lead. -/
def after (b : MeterBench) (steps : List MeterStep) : MeterBench :=
  steps.foldl (fun b s => (b.perform s).2.2) b

/-- What steps report. -/
def told (b : MeterBench) : List MeterStep → List Observation
  | [] => []
  | s :: rest => (b.turn s).1 ++ told (b.perform s).2.2 rest

/-- The numbers kept are those of the holders alive, and the last ones reported tell these; a kind
that was never reported has no holder alive. -/
structure Exact (b : MeterBench) (os : List Observation) : Prop where
  kept : ∀ kind, ActiveCounts.count b.meter.active kind = b.alive kind
  reported : ∀ kind, (∃ q, lastActive? kind os = some q ∧ q.Tells (b.alive kind)) ∨
    lastActive? kind os = none ∧ b.alive kind = 0

theorem Exact.ofHook (h : Hook) : (ofHook h).Exact [] :=
  ⟨fun _ => rfl, fun _ => Or.inr ⟨rfl, rfl⟩⟩

/-- Where no number changes and none is reported, they stay exact. -/
theorem Exact.same (h : b.Exact os) (hactive : b'.meter.active = b.meter.active)
    (halive : ∀ kind, b'.alive kind = b.alive kind) : b'.Exact os := by
  constructor
  · intro kind
    rw [hactive, halive, h.kept]
  · intro kind
    rw [halive]
    exact h.reported kind

/-- What is no number of limiters may be reported as well. -/
theorem Exact.measured {o : Observation} (h : b.Exact os) (ho : ∀ kind, o.number? kind = none) :
    b.Exact (os ++ [o]) := by
  refine ⟨h.kept, fun kind => ?_⟩
  rw [lastActive?_append, ho, Option.none_or]
  exact h.reported kind

/-- **A number changes with its holders**, and is reported.  What is not counted changes nothing. -/
theorem Exact.adjust (h : b.Exact os) (kind? : Option String) (f : Nat → Nat)
    (hactive : b'.meter.active =
      kind?.elim b.meter.active fun kind => (b.meter.adjust kind f).2.active)
    (halive : ∀ kind, b'.alive kind =
      if kind? = some kind then f (b.alive kind) else b.alive kind) :
    b'.Exact (os ++ kind?.elim [] fun kind => [(b.meter.adjust kind f).1]) := by
  cases kind? with
  | none =>
      rw [Option.elim_none, List.append_nil]
      exact h.same hactive fun kind => (halive kind).trans (if_neg nofun)
  | some kind =>
      rw [Option.elim_some] at hactive ⊢
      have hkept (kind' : String) : ActiveCounts.count b'.meter.active kind' = b'.alive kind' := by
        rw [hactive, Meter.adjust, ActiveCounts.count_update, halive, h.kept, h.kept]
        by_cases hkind : kind' = kind
        · rw [if_pos hkind, if_pos (congrArg some hkind.symm), hkind]
        · rw [if_neg hkind, if_neg fun heq => hkind (Option.some.inj heq).symm]
      have hnumber (kind' : String) : (b.meter.adjust kind f).1.number? kind' =
          if kind = kind' then some (.ofNat (b'.alive kind)) else none := by
        rw [← hkept, hactive]
        rfl
      refine ⟨hkept, fun kind' => ?_⟩
      rw [lastActive?_append, hnumber]
      by_cases hkind : kind = kind'
      · subst hkind
        rw [if_pos rfl, Option.some_or]
        exact Or.inl ⟨_, rfl, Quantity.tells_ofNat _⟩
      · rw [if_neg hkind, Option.none_or, halive, if_neg fun heq => hkind (Option.some.inj heq)]
        exact h.reported kind'

/-! ### Holders come and go -/

theorem alive_of_push {holder : Holder} (h : b'.holders = b.holders.push (some holder))
    (kind : String) :
    b'.alive kind = if holder.kind? = some kind then b.alive kind + 1 else b.alive kind := by
  rw [alive, h, Array.countP_push, alive]
  by_cases hkind : holder.kind? = some kind <;> simp [hkind]

theorem alive_of_drop {i : Nat} {holder : Holder} (hheld : b.holders[i]? = some (some holder))
    (h : b'.holders = b.holders.setIfInBounds i none) (kind : String) :
    b'.alive kind = if holder.kind? = some kind then b.alive kind - 1 else b.alive kind := by
  obtain ⟨hi, hholder⟩ := Array.getElem?_eq_some_iff.1 hheld
  rw [alive, h, Array.setIfInBounds, dif_pos hi, Array.countP_set hi, hholder, alive]
  by_cases hkind : holder.kind? = some kind <;> simp [hkind]

/-- A holder that can end has been counted. -/
theorem alive_pos {i : Nat} {holder : Holder} {kind : String}
    (hheld : b.holders[i]? = some (some holder)) (hkind : holder.kind? = some kind) :
    0 < b.alive kind :=
  Array.countP_pos_iff.2 ⟨some holder, Array.mem_of_getElem? hheld, by simp [hkind]⟩

/-- A holder that begins reports the new number of its kind. -/
theorem begin_told (b : MeterBench) (holder : Holder) :
    (b.begin holder).1 = holder.kind?.elim [] fun kind => [(b.meter.started kind).1] := by
  unfold MeterBench.begin
  cases holder.kind? <;> rfl

/-- A holder that ends reports the new number of its kind. -/
theorem finish_told {i : Nat} {holder : Holder} (hheld : b.holders[i]? = some (some holder)) :
    (b.finish i).1 = holder.kind?.elim [] fun kind => [(b.meter.ended kind).1] := by
  simp only [MeterBench.finish, hheld, Option.join_some]
  cases holder.kind? <;> rfl

theorem finish_of_gone {i : Nat} (hgone : b.holders[i]?.join = none) : b.finish i = ([], b) := by
  rw [finish, hgone]

theorem begin_holders (b : MeterBench) (holder : Holder) :
    (b.begin holder).2.holders = b.holders.push (some holder) := by
  unfold MeterBench.begin
  cases holder.kind? <;> rfl

/-- To drop a holder that is gone changes nothing. -/
theorem finish_holders (b : MeterBench) (i : Nat) :
    (b.finish i).2.holders = b.holders.setIfInBounds i none := by
  unfold MeterBench.finish
  split
  · next hgone =>
      rw [Array.setIfInBounds]
      split
      · next hi =>
          have hnone : b.holders[i] = none := by
            rwa [Array.getElem?_eq_getElem hi, Option.join_some] at hgone
          rw [← hnone, Array.set_getElem_self]
      · rfl
  · next holder _ => cases holder.kind? <;> rfl

theorem Exact.begin (h : b.Exact os) (holder : Holder) :
    (b.begin holder).2.Exact (os ++ (b.begin holder).1) := by
  rw [begin_told]
  refine h.adjust holder.kind? (· + 1) ?_ (alive_of_push (b.begin_holders holder))
  unfold MeterBench.begin
  cases holder.kind? <;> rfl

theorem Exact.finish (h : b.Exact os) (i : Nat) :
    (b.finish i).2.Exact (os ++ (b.finish i).1) := by
  cases hheld : b.holders[i]?.join with
  | none =>
      rw [finish_of_gone hheld, List.append_nil]
      exact h
  | some holder =>
      have hsome : b.holders[i]? = some (some holder) := Option.join_eq_some_iff.1 hheld
      rw [finish_told hsome]
      -- both sides stop at zero alike; that they never have to is `alive_pos`
      refine h.adjust holder.kind? (· - 1) ?_ (alive_of_drop hsome (b.finish_holders i))
      simp only [MeterBench.finish, hheld]
      cases holder.kind? <;> rfl

/-! ### Every step -/

/-- **What a step can do**: a holder begins, a holder ends, a measurement is handed on, or nothing
is reported and no holder comes or goes. -/
theorem turn_cases (b : MeterBench) (s : MeterStep) :
    (∃ holder, b.turn s = b.begin holder) ∨ (∃ i, b.turn s = b.finish i) ∨
    (∃ o, s = .observe o ∧ b.turn s = ([o], b)) ∨
    ((b.turn s).1 = [] ∧ (b.turn s).2.holders = b.holders ∧
      (b.turn s).2.meter.active = b.meter.active ∧
      (s ≠ .clear → (b.turn s).2.meter.hook = b.meter.hook)) := by
  cases s with
  | observe o => exact .inr (.inr (.inl ⟨o, rfl, rfl⟩))
  | share => exact .inl ⟨.handle, rfl⟩
  | start kind => exact .inl ⟨.guard kind, rfl⟩
  | build pollInterval sleeper =>
      rw [MeterBench.turn]
      split
      · next l hl => exact .inl ⟨.limiter l, rfl⟩
      · exact .inr (.inr (.inr ⟨rfl, rfl, rfl, fun _ => rfl⟩))
  | drop i => exact .inr (.inl ⟨i, rfl⟩)
  | clear =>
      rw [MeterBench.turn]
      split
      · exact .inr (.inr (.inr ⟨rfl, rfl, rfl, fun hclear => absurd rfl hclear⟩))
      · exact .inr (.inr (.inr ⟨rfl, rfl, rfl, fun _ => rfl⟩))
  | query | queryActive | events | registerAgain | gather =>
      exact .inr (.inr (.inr ⟨rfl, rfl, rfl, fun _ => rfl⟩))

theorem turn_holders (b : MeterBench) (s : MeterStep) :
    (b.turn s).2.holders = s.keeps b.holders := by
  cases s with
  | share => exact b.begin_holders .handle
  | start kind => exact b.begin_holders (.guard kind)
  | build pollInterval sleeper =>
      simp only [MeterBench.turn, MeterStep.keeps]
      cases SlidingWindow.make pollInterval sleeper with
      | ok l => exact b.begin_holders (.limiter l)
      | error e => rfl
  | drop i => exact b.finish_holders i
  | clear =>
      rw [MeterBench.turn]
      split <;> rfl
  | observe | query | queryActive | events | registerAgain | gather => rfl

/-- Who is on the bench began in one of the steps, and was not dropped. -/
theorem holders_after (b : MeterBench) (steps : List MeterStep) :
    (b.after steps).holders = steps.foldl MeterStep.keeps b.holders := by
  induction steps generalizing b with
  | nil => rfl
  | cons s rest ih =>
      rw [List.foldl_cons, ← b.turn_holders s]
      exact ih (b.perform s).2.2

/-- No step reports twice. -/
theorem length_turn_le (b : MeterBench) (s : MeterStep) : (b.turn s).1.length ≤ 1 := by
  obtain ⟨holder, hs⟩ | ⟨i, hs⟩ | ⟨o, -, hs⟩ | ⟨htold, -⟩ := b.turn_cases s
  · rw [hs, begin_told]
    cases holder.kind? <;> simp
  · rw [hs]
    cases hheld : b.holders[i]?.join with
    | none => simp [finish_of_gone hheld]
    | some holder =>
        rw [finish_told (Option.join_eq_some_iff.1 hheld)]
        cases holder.kind? <;> simp
  · simp [hs]
  · simp [htold]

/-- A step that clears nothing leaves the hook to what it is told. -/
theorem turn_hook (b : MeterBench) (hs : s ≠ .clear) :
    (b.turn s).2.meter.hook = b.meter.hook := by
  obtain ⟨holder, hturn⟩ | ⟨i, hturn⟩ | ⟨o, -, hturn⟩ | ⟨-, -, -, hhook⟩ := b.turn_cases s
  · rw [hturn, MeterBench.begin]
    cases holder.kind? <;> rfl
  · rw [hturn, MeterBench.finish]
    split
    · rfl
    · next holder _ => cases holder.kind? <;> rfl
  · rw [hturn]
  · exact hhook hs

/-- **The numbers stay exact in every turn.** -/
theorem Exact.turn (h : b.Exact os) (hs : s.Handled) : (b.turn s).2.Exact (os ++ (b.turn s).1) := by
  obtain ⟨holder, hturn⟩ | ⟨i, hturn⟩ | ⟨o, rfl, hturn⟩ | ⟨htold, hholders, hactive, -⟩ :=
    b.turn_cases s
  · exact hturn ▸ h.begin holder
  · exact hturn ▸ h.finish i
  · cases o with
    | request | latency | waiting => exact h.measured fun _ => rfl
    | active => exact hs.elim
  · rw [htold, List.append_nil]
    exact h.same hactive fun kind => by rw [alive, hholders, alive]

/-- **The numbers stay exact in every step.** -/
theorem Exact.perform (h : b.Exact os) (hs : s.Handled) :
    (b.perform s).2.2.Exact (os ++ (b.turn s).1) := (h.turn hs).same rfl fun _ => rfl

theorem Exact.after {steps : List MeterStep} (h : b.Exact os) (hsteps : ∀ s ∈ steps, s.Handled) :
    (b.after steps).Exact (os ++ b.told steps) := by
  induction steps generalizing b os with
  | nil =>
      rw [told, List.append_nil]
      exact h
  | cons s rest ih =>
      have hone := h.perform (hsteps s (List.mem_cons_self ..))
      rw [told, ← List.append_assoc]
      exact ih hone fun s' hs' => hsteps s' (List.mem_cons_of_mem s hs')

/-! ### What the hook is told -/

/-- The hook is told what the steps report, and nothing else. -/
theorem hook_after (b : MeterBench) {steps : List MeterStep} (hsteps : ∀ s ∈ steps, s.Handled) :
    (b.after steps).meter.hook = (b.meter.hook.observeAll (b.told steps)).1 := by
  induction steps generalizing b with
  | nil => rfl
  | cons s rest ih =>
      have hone : (b.perform s).2.2.meter.hook = (b.meter.hook.observeAll (b.turn s).1).1 := by
        rw [← b.turn_hook (hsteps s (List.mem_cons_self ..)).ne_clear]
        rfl
      rw [told, Hook.observeAll_append, ← hone]
      exact ih (b.perform s).2.2 fun s' hs' => hsteps s' (List.mem_cons_of_mem s hs')

/-- **The numbers are exact in every run.**  After any steps through copies of a handle, whatever
the hook: the holders are those that began in a step and were not dropped, and the hook was told what
the steps reported; the number of every kind is that of its holders alive, and the last one reported
tells it.  The next step reports at most once.  A limiter that cannot be built reports nothing and
changes nothing, a copy of the handle that is dropped reports nothing, and so does a holder that was
dropped before.  When a counted holder is dropped, its number is not zero, and what is reported tells
the one less that remain. -/
theorem active_exact (h : Hook) (steps : List MeterStep) (hsteps : ∀ s ∈ steps, s.Handled) :
    let b := (ofHook h).after steps
    let os := (ofHook h).told steps
    b.holders = steps.foldl MeterStep.keeps #[] ∧ b.meter.hook = (h.observeAll os).1 ∧
    b.Exact os ∧ (∀ s, (b.turn s).1.length ≤ 1) ∧
    (∀ pollInterval sleeper e, SlidingWindow.make pollInterval sleeper = .error e →
      b.perform (.build pollInterval sleeper) = (.refused e, [], b)) ∧
    (∀ i, b.holders[i]?.join = none ∨ b.holders[i]? = some (some .handle) →
      (b.turn (.drop i)).1 = []) ∧
    ∀ i holder kind, b.holders[i]? = some (some holder) → holder.kind? = some kind →
      0 < ActiveCounts.count b.meter.active kind ∧
      ∃ q, (b.turn (.drop i)).1 = [.active kind q] ∧ q.Tells (b.alive kind - 1) := by
  intro b os
  have hexact : b.Exact os := (Exact.ofHook h).after hsteps
  refine ⟨holders_after _ steps, hook_after _ hsteps, hexact, b.length_turn_le,
    fun pollInterval sleeper e he => ?_, fun i hi => ?_, fun i holder kind hheld hkind => ?_⟩
  · simp only [perform, MeterBench.turn, answer, he]
    rfl
  · obtain hgone | hheld := hi
    · rw [MeterBench.turn, finish_of_gone hgone]
    · rw [MeterBench.turn, finish_told hheld]
      rfl
  · have hpos := alive_pos hheld hkind
    rw [MeterBench.turn, finish_told hheld, hkind, Option.elim_some, hexact.kept]
    refine ⟨hpos, .ofNat (b.alive kind - 1), ?_, Quantity.tells_ofNat _⟩
    rw [Meter.ended, Meter.adjust, ActiveCounts.count_update, if_pos rfl, hexact.kept]

/-- Guards and limiters that come and go through copies of the handle; one cannot be built. -/
def comings : List MeterStep :=
  [.start "worker", .share, .build (.ofMillis 100) .timer, .start "worker", .build .zero .timer,
    .drop 0, .drop 1, .drop 0]

theorem active_exact_comings :
    (∀ s ∈ comings, s.Handled) ∧
    ∃ q, lastActive? "worker" ((ofHook .log).told comings) = some q ∧ q.number? = some 1 := by
  have hsteps : ∀ s ∈ comings, s.Handled := by decide
  obtain ⟨-, -, hexact, -⟩ := active_exact .log comings hsteps
  have halive : ((ofHook .log).after comings).alive "worker" = 1 := by decide +kernel
  obtain ⟨q, hlast, htells⟩ | ⟨-, hnone⟩ := hexact.reported "worker"
  · rw [halive] at htells
    exact ⟨hsteps, q, hlast, by simpa using htells.exactly (by decide)⟩
  · exact absurd (halive.symm.trans hnone) (by decide)

end MeterBench

end Turnstile
