/-
**What the check of a layer ensures.**

A retry policy is the one of a single attempt, or it comes from a builder that checks it.  A layer
comes from calls on a draft, which set what they set without any check, and from the check at the
end.  So whatever the calls were, and in whatever order, the layer asks for an event at least, in a
window of a millisecond at least, and makes at least one attempt.

Main definitions:

* `RetryPolicy.Made`, `Layer.Built` — the policies and layers that can come about.

Main results:

* `RetryPolicy.Made.pos` — a policy makes an attempt;
* `Layer.Built.pos`, `Layer.Built.attempts_pos` — **what the check of a layer ensures**.
-/

import Turnstile.Admission.Layer

set_option relaxedAutoImplicit false
set_option autoImplicit false

namespace Turnstile

variable {ℓ : Type}

/-- What succeeds in two parts succeeds in each of them. -/
theorem ok_of_bind {ε α β : Type} {x : Except ε α} {f : α → Except ε β} {b : β}
    (h : x >>= f = .ok b) : ∃ a, x = .ok a ∧ f a = .ok b := by
  cases x with
  | error e => exact nomatch h
  | ok a => exact ⟨a, rfl, h⟩

namespace RetryPolicy

/-- A policy that can come about: the one of a single attempt, or one that a builder has checked. -/
def Made (p : RetryPolicy) : Prop := p = .single ∨ ∃ b : Builder, b.build = .ok p

/-- A policy makes an attempt. -/
theorem Made.pos {p : RetryPolicy} (h : p.Made) : 1 ≤ p.maxAttempts := by
  rcases h with rfl | ⟨b, hb⟩
  · exact Nat.le_refl 1
  · unfold Builder.build at hb
    split at hb
    · exact nomatch hb
    · split at hb
      · obtain rfl := Except.ok.inj hb
        exact Nat.one_le_iff_ne_zero.2 ‹_›
      · exact nomatch hb

end RetryPolicy

namespace Layer

namespace Draft

variable {d : Draft ℓ}

/-- The complete retry policy of a draft, if it has one, can come about. -/
def PolicyMade (d : Draft ℓ) : Prop := ∀ p, d.retryPolicy = some p → p.Made

theorem policyMade_initial : (initial : Draft ℓ).PolicyMade := fun _ h => nomatch h

/-- A call sets the retry policy, or leaves it alone. -/
theorem PolicyMade.apply (h : d.PolicyMade) {c : Change ℓ}
    (hc : ∀ p, c = .retryPolicy p → p.Made) : (d.apply c).PolicyMade := by
  cases c with
  | retryPolicy p =>
      intro p' hp'
      obtain rfl := Option.some.inj hp'
      exact hc p rfl
  | _ => exact h

theorem PolicyMade.foldl (h : d.PolicyMade) {changes : List (Change ℓ)}
    (hchanges : ∀ p, .retryPolicy p ∈ changes → p.Made) :
    (changes.foldl Draft.apply d).PolicyMade :=
  List.foldlRecOn changes Draft.apply h fun _ h _ hmem => h.apply fun p hp => hchanges p (hp ▸ hmem)

theorem checkRetry_made (h : d.PolicyMade) {p : RetryPolicy} (hp : d.checkRetry = .ok p) :
    p.Made := by
  unfold checkRetry at hp
  split at hp
  · obtain rfl := Except.ok.inj hp
    exact h _ ‹_›
  · exact Or.inr ⟨_, hp⟩
  · exact Or.inl (Except.ok.inj hp).symm

/-- What a draft that passes the check has of its layer. -/
theorem of_build_ok {l : Layer ℓ} (h : d.build = .ok l) :
    (l.limit ≠ 0 ∧ l.window.millis ≠ 0 ∧ l.cost ≠ 0) ∧ d.checkRetry = .ok l.retry := by
  unfold build at h
  split at h
  · exact nomatch h
  split at h
  · exact nomatch h
  split at h
  · exact nomatch h
  split at h
  · exact nomatch h
  obtain ⟨waitTimeout, -, h⟩ := ok_of_bind h
  obtain ⟨rejectedStatus, -, h⟩ := ok_of_bind h
  obtain ⟨errorStatus, -, h⟩ := ok_of_bind h
  obtain ⟨retry, hretry, h⟩ := ok_of_bind h
  obtain rfl := Except.ok.inj h
  exact ⟨⟨‹_›, ‹_›, ‹_›⟩, hretry⟩

end Draft

/-- A layer that can come about: by calls on a draft that passes the check. -/
def Built (l : Layer ℓ) : Prop :=
  ∃ changes : List (Change ℓ), (∀ p, .retryPolicy p ∈ changes → p.Made) ∧
    (changes.foldl Draft.apply .initial).build = .ok l

namespace Built

variable {l : Layer ℓ}

/-- A layer asks for an event at least under a limit of one at least, in a window of a millisecond
at least. -/
theorem pos (h : l.Built) : 1 ≤ l.limit ∧ 1 ≤ l.window.millis ∧ 1 ≤ l.cost := by
  obtain ⟨changes, -, hbuild⟩ := h
  obtain ⟨⟨hlimit, hwindow, hcost⟩, -⟩ := Draft.of_build_ok hbuild
  exact ⟨Nat.one_le_iff_ne_zero.2 hlimit, Nat.one_le_iff_ne_zero.2 hwindow,
    Nat.one_le_iff_ne_zero.2 hcost⟩

/-- A layer makes an attempt. -/
theorem attempts_pos (h : l.Built) : 1 ≤ l.retry.maxAttempts := by
  obtain ⟨changes, hmade, hbuild⟩ := h
  exact (Draft.checkRetry_made (Draft.policyMade_initial.foldl hmade)
    (Draft.of_build_ok hbuild).2).pos

end Built

end Layer

end Turnstile
