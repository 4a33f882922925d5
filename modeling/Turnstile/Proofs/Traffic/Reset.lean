/-
**What a reset restores.**

A reset that succeeds empties the two slots of its key, whatever they held: markers, a counter,
values of the wrong type, entries that have expired without having been dropped.  The calls on the
key see these two slots and nothing else of the store.  So every later run of them goes as it goes
on an empty store, in the same settings and with the same calls at pauses.  A reset that fails is
one that was barred, by its context or by a fault, and has not come as far as the entries.

Main definitions:

* `Traffic.SameAt` — two states hold the same at a key and have the same calls on it at pauses.

Main results:

* `Traffic.step_reset` — what a reset comes to, barred or not;
* `Traffic.SameAt.results_eq` — **two states that are the same at a key give its calls the same
  results**;
* `Traffic.reset_restores` — **a reset restores its key**, from any state.
-/

import Turnstile.Proofs.Traffic.Isolation

set_option relaxedAutoImplicit false
set_option autoImplicit false

namespace Turnstile

open SlidingScript (counterKey counterKey_ne)

/-! ### What is emptied -/

namespace Keyspace

theorem get?_without_ite (ks : Keyspace) (key j : String) :
    (ks.without key).get? j =
      if j = key ∨ j = counterKey key then none else ks.get? j := by
  unfold without
  rw [get?_assign, get?_assign]
  by_cases hcounter : counterKey key = j
  · simp [hcounter]
  · by_cases hkey : key = j
    · simp [hkey]
    · simp [hcounter, hkey, Ne.symm hcounter, Ne.symm hkey]

/-- What is gone is gone. -/
theorem without_without (ks : Keyspace) (key : String) :
    (ks.without key).without key = ks.without key :=
  ext_slots fun j => by
    rw [get?_without_ite, get?_without_ite]
    split <;> rfl

end Keyspace

namespace Traffic

/-! ### One reset -/

/-- A reset that is barred answers why; any other one empties the two slots of its key. -/
theorem step_reset (t : Traffic) (s : Setting) (l : SlidingWindow) (ctx : ContextId)
    (key : String) :
    t.step s (.reset l ctx key) =
      match SlidingWindow.resetBar? ⟨s.status ctx, s.storeReading⟩ key s.backend with
      | some e => (⟨some (.cleared (.error e)), none⟩, t)
      | none => (⟨some (.cleared (.ok ())), none⟩, ⟨t.keyspace.without key, t.paused⟩) := by
  obtain ⟨s', hrun⟩ := l.reset_over ctx key s t.keyspace
  simp only [step, Act.on, Move.work, Act.bind_apply, hrun]
  cases SlidingWindow.resetBar? ⟨s.status ctx, s.storeReading⟩ key s.backend <;> rfl

/-- What the entries are after a reset depends on nothing but whether it is barred. -/
theorem keyspace_step_reset (t : Traffic) (s : Setting) (l : SlidingWindow) (ctx : ContextId)
    (key : String) :
    (t.step s (.reset l ctx key)).2.keyspace = t.keyspace ∨
      (t.step s (.reset l ctx key)).2.keyspace = t.keyspace.without key := by
  rw [step_reset]
  split
  · exact Or.inl rfl
  · exact Or.inr rfl

theorem resetBar?_eq_none_iff {call : Call} {key : String} {faults : List StoreError} :
    SlidingWindow.resetBar? call key faults = none ↔ call.status = none ∧ faults = [] := by
  unfold SlidingWindow.resetBar?
  cases call.status <;> cases faults <;> simp

/-! ### Runs of calls on one key -/

/-- Two states are the same at a key: its two slots hold the same, and the same calls on it are at
pauses. -/
structure SameAt (key : String) (t t' : Traffic) : Prop where
  slots : Keyspace.AgreeOn (fun j => j = key ∨ j = counterKey key) t.keyspace t'.keyspace
  paused : ∀ ticket, ticket.key = key → t.paused ticket = t'.paused ticket
  sound : t.paused.Sound fun _ => True
  sound' : t'.paused.Sound fun _ => True

namespace SameAt

variable {key : String} {t t' : Traffic} {m : Move}

/-- A move on the key comes to the same, and the states are the same at the key afterwards. -/
theorem step (h : SameAt key t t') (hm : m.key = key) (s : Setting) :
    (t.step s m).1 = (t'.step s m).1 ∧ SameAt key (t.step s m).2 (t'.step s m).2 := by
  have hwork : m.work t'.paused = m.work t.paused :=
    (work_congr fun ticket hticket => h.paused ticket (hticket.trans hm)).symm
  have heffect := Move.effect (m := m) (fun _ _ => trivial) h.sound s
  obtain ⟨hlanding, hslots⟩ := heffect.agree h.slots (Or.inl hm) (Or.inr (congrArg counterKey hm))
  have hsame : (t.step s m).1 = (t'.step s m).1 := by
    simp only [Traffic.step, hwork]
    exact hlanding
  refine ⟨hsame, ?_, fun ticket hticket => ?_, sound_step (fun _ _ => trivial) h.sound s,
    sound_step (fun _ _ => trivial) h.sound' s⟩
  · simp only [Traffic.step, hwork]
    exact hslots
  · rw [paused_step, paused_step, hsame, h.paused ticket hticket]

/-- **Two states that are the same at a key give every run of calls on it the same results.** -/
theorem results_eq (h : SameAt key t t') {xs : List (Setting × Move)}
    (hxs : ∀ x ∈ xs, x.2.key = key) : t.results key xs = t'.results key xs := by
  induction xs generalizing t t' with
  | nil => rfl
  | cons x rest ih =>
      obtain ⟨s, m⟩ := x
      obtain ⟨hm, hrest⟩ := List.forall_mem_cons.1 hxs
      obtain ⟨hlanding, hnext⟩ := h.step hm s
      rw [results_cons_of_eq hm, results_cons_of_eq hm, hlanding, ih hnext hrest]

end SameAt

/-- After a reset a key is as on an empty store. -/
theorem sameAt_without {t : Traffic} (hpaused : t.paused.Sound fun _ => True) (key : String) :
    SameAt key ⟨t.keyspace.without key, t.paused⟩ ⟨.empty, t.paused⟩ := by
  refine ⟨fun j hj => ?_, fun _ _ => rfl, hpaused, hpaused⟩
  rw [Keyspace.get?_without_ite, if_pos hj, Keyspace.get?_empty]

/-- **A reset restores its key**, whatever the store holds.  It succeeds just if its context is not
finished and no fault waits.  Then both physical keys are absent and every other one is as it was,
every later run of calls on the key has the results that it has on an empty store, and another reset
changes no entry.  If it fails, all entries are as they were. -/
theorem reset_restores {t : Traffic} (hpaused : t.paused.Sound fun _ => True) (s : Setting)
    (l : SlidingWindow) (ctx : ContextId) (key : String) :
    let r := t.step s (.reset l ctx key)
    (r.1.told = some (.cleared (.ok ())) ∧ s.status ctx = none ∧ s.backend = [] ∧
        (r.2.keyspace.get? key = none ∧ r.2.keyspace.get? (counterKey key) = none ∧
          ∀ j, j ≠ key → j ≠ counterKey key → r.2.keyspace.get? j = t.keyspace.get? j) ∧
        (∀ xs, (∀ x ∈ xs, x.2.key = key) →
          r.2.results key xs = results key ⟨.empty, t.paused⟩ xs) ∧
        ∀ s' l' ctx', (r.2.step s' (.reset l' ctx' key)).2.keyspace = r.2.keyspace) ∨
      ∃ e, r.1.told = some (.cleared (.error e)) ∧ (s.status ctx ≠ none ∨ s.backend ≠ []) ∧
        r.2.keyspace = t.keyspace := by
  intro r
  have hr : r = t.step s (.reset l ctx key) := rfl
  rw [step_reset] at hr
  cases hbar : SlidingWindow.resetBar? ⟨s.status ctx, s.storeReading⟩ key s.backend with
  | some e =>
      rw [hbar] at hr
      refine Or.inr ⟨e, by rw [hr], ?_, by rw [hr]⟩
      by_contra hnone
      simp only [ne_eq, not_or, not_not] at hnone
      rw [resetBar?_eq_none_iff.2 hnone] at hbar
      exact nomatch hbar
  | none =>
      rw [hbar] at hr
      obtain ⟨hstatus, hfaults⟩ := resetBar?_eq_none_iff.1 hbar
      refine Or.inl ⟨by rw [hr], hstatus, hfaults, ⟨?_, ?_, fun j hkey hcounter => ?_⟩,
        fun xs hxs => ?_, fun s' l' ctx' => ?_⟩
      · rw [hr, Keyspace.get?_without_ite, if_pos (Or.inl rfl)]
      · rw [hr, Keyspace.get?_without_ite, if_pos (Or.inr rfl)]
      · rw [hr, Keyspace.get?_without_ite, if_neg (by simp [hkey, hcounter])]
      · rw [hr]
        exact (sameAt_without hpaused key).results_eq hxs
      · rw [hr]
        rcases keyspace_step_reset ⟨t.keyspace.without key, t.paused⟩ s' l' ctx' key with h | h
        · exact h
        · exact h.trans (t.keyspace.without_without key)

/-- An integer stands where the markers belong, and a set where the counter belongs: a call fails.
After a reset one event of a limit of one is admitted, and the next one is denied. -/
theorem reset_restores_wrong_types :
    let t : Traffic := ⟨(Keyspace.empty.put "k" ⟨.int 7, none⟩).put "k:counter"
      ⟨.set (Table.empty.set "m" 5), some 9⟩, fun _ => none⟩
    let s : Setting := World.start 0 0 []
    let call : Setting × Move := (s, .allowN .plain 0 "k" 1 1 (Duration.ofMillis 1000))
    let results := (t.step s (.reset .plain 0 "k")).2.results "k" [call, call]
    (t.results "k" [call]).map (fun told => told.map Notice.charge) = [some 0] ∧
      results.map (fun told => told.map Notice.charge) = [some 1, some 0] := by
  intro t s call results
  refine ⟨by decide +kernel, ?_⟩
  rcases reset_restores (t := t) (fun _ _ h => nomatch h) s .plain 0 "k" with
    ⟨-, -, -, -, hresults, -⟩ | ⟨e, -, hbar, -⟩
  · have hfresh : results = _ := hresults [call, call] (by simp [call, Move.key])
    rw [hfresh]
    decide +kernel
  · exact absurd hbar (by decide)

end Traffic

end Turnstile
