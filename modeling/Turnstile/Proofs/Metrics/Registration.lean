/-
**What a failed registration leaves behind.**

The four families are registered one after the other, and the first one that is refused ends the
attempt.  The families before it have been taken in by then, and nobody takes them out again.  So a
failed attempt leaves the registry as it was only if the first family of all was refused; any other
failure leaves the counter of decisions in it, and then every later attempt is refused for this
counter, also after what was in the way has been removed.

The registry is one of another library.  All that is used of it is that it takes in a family whole,
or not at all, and that it refuses what it holds.

Main definitions:

* `Registrar.Lawful` — what a registry is known for.

Main results:

* `Registrar.Lawful.registerAll_cases` — what registering families leaves, and how it ends;
* `Exposition.install_leaves` — **what an attempt leaves, and when this is nothing**;
* `Exposition.failed_install_leaves_family` — **a failed attempt can leave a family behind**.
-/

import Turnstile.Metrics.Exposition

set_option relaxedAutoImplicit false
set_option autoImplicit false

namespace Turnstile

namespace Registrar

variable {ρ ε κ : Type} [Registrar ρ ε] {contents : ρ → List κ} {collector : Descriptor → κ}

/-- A registry holds collectors, in no certain order.  To take in a family adds its collector and
nothing else, and a family whose collector is held is refused. -/
structure Lawful (contents : ρ → List κ) (collector : Descriptor → κ) : Prop where
  adds : ∀ {d : Descriptor} {r r' : ρ}, register d r = .ok r' →
    (contents r').Perm (collector d :: contents r)
  refuses : ∀ {d : Descriptor} {r : ρ}, collector d ∈ contents r → ∃ e, register d r = .error e

/-- Families are taken in up to the first that is refused, and what was taken in stays. -/
theorem Lawful.registerAll_cases (h : Lawful contents collector) (ds : List Descriptor) (r : ρ) :
    ∃ taken rest, ds = taken ++ rest ∧
      (contents (registerAll ds r).2).Perm (taken.map collector ++ contents r) ∧
      ((rest = [] ∧ (registerAll ds r).1 = .ok ()) ∨
        ∃ d more e, rest = d :: more ∧ register d (registerAll ds r).2 = .error e ∧
          (registerAll ds r).1 = .error e) := by
  induction ds generalizing r with
  | nil => exact ⟨[], [], rfl, .refl _, Or.inl ⟨rfl, rfl⟩⟩
  | cons d ds ih =>
      rw [registerAll]
      cases hregister : register d r with
      | error e =>
          exact ⟨[], d :: ds, rfl, .refl _, Or.inr ⟨d, ds, e, rfl, hregister, rfl⟩⟩
      | ok r' =>
          obtain ⟨taken, rest, hsplit, hcontents, hend⟩ := ih r'
          refine ⟨d :: taken, rest, by rw [hsplit, List.cons_append], ?_, hend⟩
          have hone : (taken.map collector ++ contents r').Perm
              (taken.map collector ++ collector d :: contents r) :=
            (h.adds hregister).append_left _
          exact hcontents.trans (hone.trans List.perm_middle)

/-- The registry of this library is such a registry. -/
theorem lawful_registry : Lawful Registry.families id := by
  constructor
  · intro d r r' h
    change Registry.register d r = .ok r' at h
    unfold Registry.register at h
    split at h
    · exact nomatch h
    · obtain rfl := Except.ok.inj h
      exact List.perm_append_comm
  · intro d r h
    have htaken : (r.families.any fun f => f.name == d.name) = true :=
      List.any_eq_true.2 ⟨d, h, beq_self_eq_true _⟩
    exact ⟨.duplicate, if_pos htaken⟩

end Registrar

namespace Exposition

variable {ρ ε κ : Type} [Registrar ρ ε] {contents : ρ → List κ} {collector : Descriptor → κ}

/-- An attempt is refused with what the first refused family was refused with. -/
theorem install_fst (r : ρ) :
    (install r).1 = (registerAll families r).1.map fun _ => empty := by
  unfold install
  obtain ⟨result, r'⟩ := registerAll families r
  cases result <;> rfl

theorem install_snd (r : ρ) : (install r).2 = (registerAll families r).2 := by
  unfold install
  obtain ⟨result, r'⟩ := registerAll families r
  cases result <;> rfl

/-- Where the counter of decisions is refused, the attempt ends at once. -/
theorem install_of_error {r : ρ} {e : ε} (h : Registrar.register requestsFamily r = .error e) :
    install r = (.error e, r) := by
  rw [install, families, registerAll, h]

/-- Where the counter of decisions is taken in, it stays, however the attempt ends. -/
theorem install_of_ok (h : Registrar.Lawful contents collector) {r r₁ : ρ}
    (hr : Registrar.register requestsFamily r = .ok r₁) :
    ∃ taken : List Descriptor, (contents (install r).2).Perm
      (collector requestsFamily :: (taken.map collector ++ contents r)) := by
  obtain ⟨taken, -, -, hcontents, -⟩ :=
    h.registerAll_cases [latencyFamily, waitingFamily, activeFamily] r₁
  have hrest : (install r).2 = (registerAll [latencyFamily, waitingFamily, activeFamily] r₁).2 := by
    rw [install_snd, families, registerAll, hr]
  refine ⟨taken, hrest ▸ hcontents.trans ?_⟩
  exact ((h.adds hr).append_left _).trans List.perm_middle

/-- **What an attempt leaves.**  With any registry that takes in a family whole or not at all and
refuses what it holds, whatever it holds before: an attempt that succeeds adds the collectors of the
four families.  An attempt that fails was refused a family, and leaves the collectors of those
before it in the registry; so it leaves what there was exactly if the first family, the counter of
decisions, was refused.  Otherwise this counter is left behind, and as long as it is there every
later attempt fails. -/
theorem install_leaves (h : Registrar.Lawful contents collector) (r : ρ) :
    (∀ x, (install r).1 = .ok x →
      (contents (install r).2).Perm (families.map collector ++ contents r)) ∧
    ∀ e, (install r).1 = .error e →
      (∃ taken d rest, families = taken ++ d :: rest ∧
        Registrar.register d (install r).2 = .error e ∧
        (contents (install r).2).Perm (taken.map collector ++ contents r)) ∧
      ((contents (install r).2).Perm (contents r) ↔
        Registrar.register requestsFamily r = .error e) ∧
      (¬ (contents (install r).2).Perm (contents r) →
        collector requestsFamily ∈ contents (install r).2 ∧
        ∀ r' : ρ, collector requestsFamily ∈ contents r' → ∃ e', (install r').1 = .error e') := by
  obtain ⟨taken, rest, hsplit, hcontents, hend⟩ := h.registerAll_cases families r
  rw [← install_snd] at hcontents hend
  refine ⟨fun x hx => ?_, fun e he => ?_⟩
  · obtain ⟨rfl, -⟩ | ⟨d, more, e, -, -, hfailed⟩ := hend
    · rw [List.append_nil] at hsplit
      rwa [hsplit]
    · rw [install_fst, hfailed] at hx
      exact nomatch hx
  · have hfirst : (∃ r₁, Registrar.register requestsFamily r = .ok r₁) ∨
        Registrar.register requestsFamily r = .error e := by
      cases hr : Registrar.register requestsFamily r with
      | ok r₁ => exact Or.inl ⟨r₁, rfl⟩
      | error e' =>
          rw [install_of_error hr] at he
          exact Or.inr (congrArg _ (Except.error.inj he))
    refine ⟨?_, ?_, fun hchanged => ?_⟩
    · obtain ⟨-, hok⟩ | ⟨d, more, e', rfl, hrefused, hfailed⟩ := hend
      · rw [install_fst, hok] at he
        exact nomatch he
      · rw [install_fst, hfailed] at he
        obtain rfl := Except.error.inj he
        exact ⟨taken, d, more, hsplit, hrefused, hcontents⟩
    · obtain ⟨r₁, hr⟩ | hr := hfirst
      · obtain ⟨taken', hleft⟩ := install_of_ok h hr
        have hmore : (contents r).length < (contents (install r).2).length := by
          rw [hleft.length_eq, List.length_cons, List.length_append]
          omega
        exact ⟨fun hsame => absurd hsame.length_eq (Nat.ne_of_gt hmore),
          fun herror => nomatch hr.symm.trans herror⟩
      · rw [install_of_error hr]
        exact ⟨fun _ => hr, fun _ => .refl _⟩
    · obtain ⟨r₁, hr⟩ | hr := hfirst
      · obtain ⟨taken', hleft⟩ := install_of_ok h hr
        refine ⟨hleft.mem_iff.2 (List.mem_cons_self ..), fun r' hr' => ?_⟩
        obtain ⟨e', he'⟩ := h.refuses hr'
        exact ⟨e', by rw [install_of_error he']⟩
      · rw [install_of_error hr] at hchanged
        exact absurd (.refl _) hchanged

/-- A registry in which another collector has the name of the histogram. -/
def latencyTaken : Registry := ⟨[⟨latencyFamily.name, "Something else", []⟩]⟩

/-- The histogram is refused, and the counter of decisions is left behind for good. -/
theorem install_leaves_counter :
    (install latencyTaken).1 = .error .duplicate ∧
      ¬ (install latencyTaken).2.families.Perm latencyTaken.families ∧
      requestsFamily ∈ (install latencyTaken).2.families ∧
      ∀ r' : Registry, requestsFamily ∈ r'.families → ∃ e, (install r').1 = .error e := by
  have hfailed : (install latencyTaken).1 = .error .duplicate := rfl
  obtain ⟨-, hleft⟩ := install_leaves Registrar.lawful_registry latencyTaken
  obtain ⟨-, hsame, hlater⟩ := hleft .duplicate hfailed
  have hchanged : ¬ (install latencyTaken).2.families.Perm latencyTaken.families :=
    fun h => nomatch hsame.1 h
  exact ⟨hfailed, hchanged, hlater hchanged⟩

/-- **A failed attempt can leave a family behind.** -/
theorem failed_install_leaves_family :
    ¬ ∀ (r r' : Registry) (e : RegistryError), install r = (.error e, r') →
      r'.families.Perm r.families := by
  intro hclaim
  have hfailed : install latencyTaken =
      (.error .duplicate, ⟨latencyTaken.families ++ [requestsFamily]⟩) := rfl
  exact absurd (hclaim _ _ _ hfailed).length_eq (by decide)

end Exposition

end Turnstile
