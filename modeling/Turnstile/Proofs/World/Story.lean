/-
**The stretches of a task among others.**

A task runs in stretches, and between two of them lies a pause in which others work and time
passes.  So what happens to it is given by the worlds that it meets: one in which it begins, and
after every pause another one.  Of these it is only assumed that the others do what they may during
a pause, and that no pause is left without going on after it.

A task that sleeps at its pauses and is left to itself meets such worlds: time passes until its
sleep is over.

Main definitions:

* `Tasks.story` — the stretches of a task, each in a world that it meets;
* `Tasks.Attended` — others do what they may, and the task goes on after every pause;
* `Tasks.meets` — the worlds that a task meets while nobody else does anything.

Main results:

* `Tasks.story_of_le` — what has ended stays ended;
* `Tasks.attended_meets` — **a task that sleeps and is left to itself is attended to**.
-/

import Turnstile.Proofs.World.Meanwhile

set_option relaxedAutoImplicit false
set_option autoImplicit false

namespace Turnstile

namespace Tasks

variable {σ ι κ α : Type} {t : Tasks σ ι κ α} {i : ι} {meet : Nat → World σ}

/-- The stretches of a task: how each ends, and in which world.  The first one begins in the world
that the task meets first; any other begins in the next world it meets, if its pause is over
there. -/
def story (t : Tasks σ ι κ α) (i : ι) (meet : Nat → World σ) : Nat → Turn κ α × World σ
  | 0 => t.start i (meet 0)
  | n + 1 =>
      match t.story i meet n with
      | (.pause on rest, w) =>
          match (meet (n + 1)).wake? on with
          | some wake => t.resume rest wake ((meet (n + 1)).afterPause on wake)
          | none => (.pause on rest, w)
      | ended => ended

/-- A task is attended to: between the worlds that it meets others do only what they may during a
pause, and no pause is left without going on after it. -/
structure Attended (t : Tasks σ ι κ α) (i : ι) (meet : Nat → World σ) : Prop where
  meanwhile : ∀ {n on rest w}, t.story i meet n = (.pause on rest, w) →
    w.Meanwhile on (meet (n + 1))
  wakes : ∀ {n on rest w}, t.story i meet n = (.pause on rest, w) →
    ∃ wake, (meet (n + 1)).wake? on = some wake

/-- What has ended stays ended. -/
theorem story_of_le {m n : Nat} (hle : m ≤ n) {answer : α} {w : World σ}
    (h : t.story i meet m = (.done answer, w)) : t.story i meet n = (.done answer, w) := by
  induction hle with
  | refl => exact h
  | step _ ih => simp only [story, ih]

/-- A task goes on after a sleep. -/
theorem story_succ {n now : Nat} {ctx : ContextId} {d : Duration} {rest : κ} {w : World σ}
    {wake : Wake} (h : t.story i meet n = (.pause (.asleep ctx now d) rest, w))
    (hwake : (meet (n + 1)).wake? (.asleep ctx now d) = some wake) :
    t.story i meet (n + 1) = t.resume rest wake (meet (n + 1)) := by
  simp only [story, h, hwake, World.afterPause_asleep]

/-! ### A task that is left to itself -/

/-- The worlds that a task meets while nobody else does anything, each with how the stretch ends
there: time passes until its pause is over. -/
def lone (t : Tasks σ ι κ α) (i : ι) (w : World σ) : Nat → World σ × Turn κ α × World σ
  | 0 => (w, t.start i w)
  | n + 1 =>
      match t.lone i w n with
      | (_, .pause on rest, u) =>
          (u.passed on,
            match (u.passed on).wake? on with
            | some wake => t.resume rest wake ((u.passed on).afterPause on wake)
            | none => (.pause on rest, u))
      | ended => ended

/-- The worlds that a task meets while nobody else does anything. -/
def meets (t : Tasks σ ι κ α) (i : ι) (w : World σ) (n : Nat) : World σ := (t.lone i w n).1

theorem story_meets (t : Tasks σ ι κ α) (i : ι) (w : World σ) (n : Nat) :
    t.story i (t.meets i w) n = (t.lone i w n).2 := by
  induction n with
  | zero => rfl
  | succ n ih =>
      rw [story, ih, meets, lone]
      cases hlone : t.lone i w n with
      | mk v r =>
          obtain ⟨turn, u⟩ := r
          cases turn with
          | done answer => rfl
          | pause on rest => rfl

/-- After a pause a task that is left to itself meets the world in which this is over. -/
theorem meets_succ {w u : World σ} {n : Nat} {on : Pause} {rest : κ}
    (h : t.story i (t.meets i w) n = (.pause on rest, u)) :
    t.meets i w (n + 1) = u.passed on := by
  rw [story_meets] at h
  have hlone : t.lone i w n = ((t.lone i w n).1, .pause on rest, u) := Prod.ext rfl h
  rw [meets, lone, hlone]

/-- **A task that sleeps and is left to itself is attended to.** -/
theorem attended_meets {w : World σ} (hasleep : ∀ {n on rest u},
      t.story i (t.meets i w) n = (.pause on rest, u) → ∃ ctx now d, on = .asleep ctx now d) :
    t.Attended i (t.meets i w) := by
  constructor
  · intro n on rest u hpaused
    rw [meets_succ hpaused]
    exact World.meanwhile_passed u on
  · intro n on rest u hpaused
    obtain ⟨ctx, now, d, rfl⟩ := hasleep hpaused
    rw [meets_succ hpaused]
    exact u.wake?_passed ctx now d

end Tasks

end Turnstile
