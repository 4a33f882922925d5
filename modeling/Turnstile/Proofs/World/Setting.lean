/-
**What a stretch of work asks of the store.**

A world consists of the entries of its store and of everything else, its setting: the contexts, the
clocks, the faults that wait, what was reported.  Much of the work of a call leaves the store alone;
it does the same in a setting whatever the entries are.  The other work makes one decision on the
store, and the answer of this decides all the rest.  That there is at most one decision in a
stretch, and that nothing but its answer matters afterwards, is what makes runs of many calls
tractable: a run is a sequence of decisions, each in a setting of its own.

Main definitions:

* `Setting`, `World.over` — a world without the entries of its store, and with them;
* `Act.Silent` — work that does the same around any entries;
* `Act.Deals` — work that makes at most one decision.

Main results:

* `Act.Silent.bind`, `Act.Deals.bind`, `Act.Deals.of_silent` — how they are put together;
* `Act.Silent.of_aloof` — not to look at the store is to leave it alone.
-/

import Turnstile.Proofs.Limiter.Visit
import Turnstile.Proofs.World.Aloof

set_option relaxedAutoImplicit false
set_option autoImplicit false

namespace Turnstile

variable {α β : Type}

/-- A world without the entries of its store; of the store there are only the faults that wait. -/
abbrev Setting := World (List StoreError)

/-- The world of a setting around the entries of a store. -/
def World.over (s : Setting) (ks : Keyspace) : World MemoryStore :=
  { s with backend := MemoryStore.holding s.backend ks }

namespace Act

/-- Work in a setting on the entries of a store: its result, and the entries after it. -/
def on (act : Act MemoryStore α) (s : Setting) (ks : Keyspace) : α × Keyspace :=
  let (a, w) := act (s.over ks)
  (a, w.backend.keyspace)

/-- A call of the store in a setting. -/
theorem callStore_over (ctx : ContextId) (f : Call → MemoryStore → α × MemoryStore) (s : Setting)
    (ks : Keyspace) :
    callStore ctx f (s.over ks) =
      let r := f ⟨s.status ctx, s.storeReading⟩ (MemoryStore.holding s.backend ks)
      (r.1, { s.over ks with backend := r.2 }) := rfl

/-! ### Work that leaves the store alone -/

/-- Work on a store that is the same work around any entries. -/
def Silent (g : Act MemoryStore α) (g' : Act (List StoreError) α) : Prop :=
  ∀ (s : Setting) (ks : Keyspace), g (s.over ks) = ((g' s).1, (g' s).2.over ks)

namespace Silent

theorem pure (a : α) : Silent (Pure.pure a) (Pure.pure a) := fun _ _ => rfl

theorem bind {g : Act MemoryStore α} {g' : Act (List StoreError) α} {k : α → Act MemoryStore β}
    {k' : α → Act (List StoreError) β} (h : Silent g g') (hk : ∀ a, Silent (k a) (k' a)) :
    Silent (g >>= k) (g' >>= k') := by
  intro s ks
  rw [bind_apply, h s ks]
  exact hk _ _ ks

/-- Work that does not look at the store leaves it alone. -/
theorem of_aloof {g : Act MemoryStore α} {g' : Act (List StoreError) α} (h : Aloof g' g) :
    Silent g g' := by
  intro s ks
  have hsame : g (s.over ks) = _ := h.same s (MemoryStore.holding s.backend ks)
  rw [hsame, World.over, h.keeps]
  rfl

theorem status (ctx : ContextId) : Silent (Act.status ctx) (Act.status ctx) :=
  of_aloof (.status ctx)

theorem log (e : LogEvent) : Silent (Act.log e) (Act.log e) := of_aloof (.log e)

theorem observe (measured : Bool) (o : Observation) :
    Silent (Act.observe measured o) (Act.observe measured o) := of_aloof (.observe measured o)

theorem newContext (make : Contexts → ContextId × Contexts) :
    Silent (Act.newContext make) (Act.newContext make) := of_aloof (.newContext make)

theorem sleep (ctx : ContextId) (sleeper : Sleeper) (d : Duration) :
    Silent (Act.sleep ctx sleeper d) (Act.sleep ctx sleeper d) := of_aloof (.sleep ctx sleeper d)

end Silent

/-- A sleep begins while its context is not finished. -/
theorem sleep_of_status {σ : Type} {w : World σ} {ctx : ContextId} (h : w.status ctx = none)
    (sleeper : Sleeper) (d : Duration) : ∃ on w', Act.sleep ctx sleeper d w = (.ok on, w') := by
  have hstatus : Act.status ctx w = (none, w) := by rw [Act.status, h]
  unfold Act.sleep
  rw [bind_apply, hstatus]
  exact ⟨_, _, rfl⟩

/-! ### Work that makes at most one decision -/

/-- Work in a setting that leaves the store alone and ends in `idle`, or makes one decision there
and, whatever is answered, ends as `asked` says; both speak of the result and the setting after. -/
inductive Deals (act : Act MemoryStore α) (s : Setting) (idle : α → Setting → Prop)
    (asked : Visit → Except LimiterError Bool → α → Setting → Prop) : Prop
  | silent (a : α) (s' : Setting) (run : ∀ ks, act (s.over ks) = (a, s'.over ks))
      (ends : idle a s')
  | asks (v : Visit) (f : Except LimiterError Bool → α × Setting)
      (run : ∀ ks, act (s.over ks) = ((f (v.pay ks).1).1, (f (v.pay ks).1).2.over (v.pay ks).2))
      (ends : ∀ answer, asked v answer (f answer).1 (f answer).2)

variable {act : Act MemoryStore α} {s : Setting} {idle : α → Setting → Prop}
  {asked : Visit → Except LimiterError Bool → α → Setting → Prop}

theorem Silent.deals {g : Act MemoryStore α} {g' : Act (List StoreError) α} (h : Silent g g')
    (hends : idle (g' s).1 (g' s).2) : Deals g s idle asked :=
  .silent _ _ (h s) hends

namespace Deals

/-- Work before that leaves the store alone. -/
theorem of_silent {g : Act MemoryStore β} {g' : Act (List StoreError) β} {k : β → Act MemoryStore α}
    (hg : Silent g g') (h : Deals (k (g' s).1) (g' s).2 idle asked) :
    Deals (g >>= k) s idle asked := by
  have hrun (ks : Keyspace) : (g >>= k) (s.over ks) = k (g' s).1 ((g' s).2.over ks) := by
    rw [bind_apply, hg s ks]
  cases h with
  | silent a s' run ends => exact .silent a s' (fun ks => (hrun ks).trans (run ks)) ends
  | asks v f run ends => exact .asks v f (fun ks => (hrun ks).trans (run ks)) ends

/-- Work afterwards that leaves the store alone. -/
theorem bind {k : α → Act MemoryStore β} {k' : α → Act (List StoreError) β}
    {idle' : β → Setting → Prop} {asked' : Visit → Except LimiterError Bool → β → Setting → Prop}
    (h : Deals act s idle asked) (hk : ∀ a, Silent (k a) (k' a))
    (hidle : ∀ a s', idle a s' → idle' (k' a s').1 (k' a s').2)
    (hasked : ∀ v answer a s', asked v answer a s' → asked' v answer (k' a s').1 (k' a s').2) :
    Deals (act >>= k) s idle' asked' := by
  cases h with
  | silent a s' run ends =>
      refine .silent (k' a s').1 (k' a s').2 (fun ks => ?_) (hidle a s' ends)
      rw [bind_apply, run]
      exact hk a s' ks
  | asks v f run ends =>
      refine .asks v (fun answer => k' (f answer).1 (f answer).2) (fun ks => ?_)
        fun answer => hasked v answer _ _ (ends answer)
      rw [bind_apply, run]
      exact hk _ _ _

/-- The result of the work and the entries after it. -/
theorem on_cases (h : Deals act s idle asked) :
    (∃ a s', (∀ ks, act.on s ks = (a, ks)) ∧ idle a s') ∨
      ∃ (v : Visit) (f : Except LimiterError Bool → α × Setting),
        (∀ ks, act.on s ks = ((f (v.pay ks).1).1, (v.pay ks).2)) ∧
        ∀ answer, asked v answer (f answer).1 (f answer).2 := by
  cases h with
  | silent a s' run ends => exact Or.inl ⟨a, s', fun ks => by rw [on, run]; rfl, ends⟩
  | asks v f run ends => exact Or.inr ⟨v, f, fun ks => by rw [on, run]; rfl, ends⟩

/-- An end that says less. -/
theorem mono {idle' : α → Setting → Prop}
    {asked' : Visit → Except LimiterError Bool → α → Setting → Prop}
    (h : Deals act s idle asked) (hidle : ∀ a s', idle a s' → idle' a s')
    (hasked : ∀ v answer a s', asked v answer a s' → asked' v answer a s') :
    Deals act s idle' asked' := by
  cases h with
  | silent a s' run ends => exact .silent a s' run (hidle a s' ends)
  | asks v f run ends => exact .asks v f run fun answer => hasked v answer _ _ (ends answer)

end Deals

end Act

end Turnstile
