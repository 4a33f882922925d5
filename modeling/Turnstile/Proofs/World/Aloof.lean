/-
**Work that does not look at the store.**

Most of what a call does has nothing to do with the store: it reads the status of a context, reports,
jitters a delay, falls asleep.  Such work is written once for all stores.  It leaves the store that
it finds, and around any other store it does the same.  Both are said here together, since whatever
is to be said of such work later follows from them: that it leaves the entries of a store alone, that
it makes no call, that notes beside the store stay as they are.

Main definitions:

* `World.around` — a world around another store;
* `Act.Aloof` — work on one store and on another that looks at neither.

Main results:

* `Act.Aloof.bind`, `Act.Aloof.ite` — how it is put together;
* `Act.Aloof.sleep` — **to sleep is not to look at the store**.
-/

import Turnstile.World

set_option relaxedAutoImplicit false
set_option autoImplicit false

namespace Turnstile

variable {σ τ α β : Type}

/-- A world around another store. -/
def World.around {τ : Type} (w : World τ) (store : σ) : World σ := { w with backend := store }

namespace Act

theorem bind_apply {σ : Type} (m : Act σ α) (k : α → Act σ β) (w : World σ) :
    (m >>= k) w = k (m w).1 (m w).2 := rfl

theorem map_apply {σ : Type} (f : α → β) (m : Act σ α) (w : World σ) :
    (f <$> m) w = (f (m w).1, (m w).2) := rfl

/-- Work that leaves the store as it is, and the same work around any other store. -/
structure Aloof (g : Act σ α) (g' : Act τ α) : Prop where
  keeps : ∀ w, (g w).2.backend = w.backend
  same : ∀ (w : World σ) (t : τ), g' (w.around t) = ((g w).1, (g w).2.around t)

namespace Aloof

theorem pure (a : α) : Aloof (Pure.pure a : Act σ α) (Pure.pure a : Act τ α) :=
  ⟨fun _ => rfl, fun _ _ => rfl⟩

theorem bind {g : Act σ α} {g' : Act τ α} {k : α → Act σ β} {k' : α → Act τ β} (h : Aloof g g')
    (hk : ∀ a, Aloof (k a) (k' a)) : Aloof (g >>= k) (g' >>= k') := by
  refine ⟨fun w => ?_, fun w t => ?_⟩
  · rw [bind_apply, (hk _).keeps, h.keeps]
  · rw [bind_apply, h.same]
    exact (hk _).same _ t

theorem ite {c : Prop} [Decidable c] {g k : Act σ α} {g' k' : Act τ α} (hg : Aloof g g')
    (hk : Aloof k k') : Aloof (if c then g else k) (if c then g' else k') := by
  split
  · exact hg
  · exact hk

theorem status (ctx : ContextId) : Aloof (Act.status ctx : Act σ _) (Act.status ctx : Act τ _) :=
  ⟨fun _ => rfl, fun _ _ => rfl⟩

theorem log (e : LogEvent) : Aloof (Act.log e : Act σ _) (Act.log e : Act τ _) :=
  ⟨fun _ => rfl, fun _ _ => rfl⟩

theorem observe (measured : Bool) (o : Observation) :
    Aloof (Act.observe measured o : Act σ _) (Act.observe measured o : Act τ _) := by
  cases measured with
  | true => exact ⟨fun _ => rfl, fun _ _ => rfl⟩
  | false => exact ⟨fun _ => rfl, fun _ _ => rfl⟩

theorem newContext (make : Contexts → ContextId × Contexts) :
    Aloof (Act.newContext make : Act σ _) (Act.newContext make : Act τ _) :=
  ⟨fun _ => rfl, fun _ _ => rfl⟩

theorem jittered (j : Jitter) (d : Duration) :
    Aloof (Act.jittered j d : Act σ _) (Act.jittered j d : Act τ _) :=
  ⟨fun _ => rfl, fun _ _ => rfl⟩

theorem pace (d : Duration) : Aloof (Act.pace d : Act σ _) (Act.pace d : Act τ _) := by
  refine ⟨fun w => ?_, fun w t => ?_⟩
  all_goals
    unfold Act.pace
    cases h : w.pacer.cancelAt with
    | none => simp [World.around, h]
    | some turn =>
        by_cases hturn : w.pacer.requested + 1 = turn.1 <;> simp [World.around, h, hturn]

theorem beginSleep (ctx : Option ContextId) (sleeper : Sleeper) (d : Duration) :
    Aloof (Act.beginSleep ctx sleeper d : Act σ _) (Act.beginSleep ctx sleeper d : Act τ _) := by
  cases sleeper with
  | timer => exact ⟨fun _ => rfl, fun _ _ => rfl⟩
  | instant => exact ⟨fun _ => rfl, fun _ _ => rfl⟩
  | tracking journal => exact ⟨fun _ => rfl, fun _ _ => rfl⟩
  | ticking => exact (pace d).bind fun _ => ⟨fun _ => rfl, fun _ _ => rfl⟩
  | manual =>
      refine (pace d).bind fun _ => ⟨fun w => ?_, fun w t => ?_⟩
      · cases (ctx.bind w.status).isSome <;> rfl
      · have hstatus : ctx.bind (w.around t).status = ctx.bind w.status := rfl
        cases h : (ctx.bind w.status).isSome <;> simp [hstatus, h] <;> rfl

/-- **To sleep is not to look at the store.** -/
theorem sleep (ctx : ContextId) (sleeper : Sleeper) (d : Duration) :
    Aloof (Act.sleep ctx sleeper d : Act σ _) (Act.sleep ctx sleeper d : Act τ _) := by
  refine (status ctx).bind fun finished => ?_
  cases finished with
  | some cause => exact pure _
  | none => exact (beginSleep (some ctx) sleeper d).bind fun pause => pure _

end Aloof

end Act

end Turnstile
