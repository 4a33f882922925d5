/-
**Running tasks in virtual time.**

Several jobs run side by side.  Each begins at its own instant and may be given up at another one.
A job that can go on does so before time passes; when none can, time moves to the next instant at
which one can, up to a limit.  A job that goes on keeps running until it stands still.

Main definitions:

* `Tasks` — how a kind of task begins, goes on and is given up;
* `Job` — a task with its instants and how far it is;
* `Job.stretch?` — the next stretch of a job, if it can go on now;
* `Stretch.perform` — what a stretch does;
* `Job.next?` — the next instant at which it can;
* `Schedule.next?` — what happens next;
* `Schedule.run` — runs jobs until all have ended or the limit is reached.
-/

import Turnstile.World

set_option relaxedAutoImplicit false
set_option autoImplicit false

namespace Turnstile

variable {σ ι κ α : Type}

/-- How a kind of task begins with an `ι`, goes on from a `κ` after a pause, and is given up at
one. -/
structure Tasks (σ ι κ α : Type) where
  start : ι → Act σ (Turn κ α)
  resume : κ → Wake → Act σ (Turn κ α)
  abandon : κ → Act σ Unit

/-- How far a job is. -/
inductive Phase (ι κ α : Type)
  | pending (task : ι)
  | paused (on : Pause) (rest : κ)
  | ended (at_ : Nat) (answer : α)
  | abandoned (at_ : Nat)

/-- A stretch of a job: its beginning, what follows a pause that something ended, or what is left to
do when it is given up. -/
inductive Stretch (ι κ : Type)
  | first (task : ι)
  | further (on : Pause) (wake : Wake) (rest : κ)
  | last (rest : κ)

/-- A job: the instant at which it begins, the one at which it is given up if it has not ended,
and how far it is. -/
structure Job (ι κ α : Type) where
  startAt : Nat
  abandonAt : Option Nat
  phase : Phase ι κ α

namespace Job

/-- Whether nothing more happens to a job. -/
def isOver (j : Job ι κ α) : Bool :=
  match j.phase with
  | .ended .. | .abandoned _ => true
  | _ => false

/-- The next stretch of a job, if it can go on now. -/
def stretch? (w : World σ) (j : Job ι κ α) : Option (Stretch ι κ) :=
  match j.phase with
  | .pending task => if j.startAt ≤ w.now then some (.first task) else none
  | .paused on rest =>
      match w.wake? on with
      | some wake => some (.further on wake rest)
      | none =>
          match j.abandonAt with
          | some a => if a ≤ w.now then some (.last rest) else none
          | none => none
  | _ => none

/-- The next instant at which a job can go on, if time alone lets it. -/
def next? (w : World σ) (j : Job ι κ α) : Option Nat :=
  match j.phase with
  | .pending _ => some j.startAt
  | .paused on _ => World.sooner (w.due on) j.abandonAt
  | _ => none

end Job

/-- The phase after a stretch of work that left the world at an instant. -/
def Phase.land (now : Nat) : Turn κ α → Phase ι κ α
  | .done answer => .ended now answer
  | .pause on rest => .paused on rest

/-- Does a stretch: the phase of its job afterwards. -/
def Stretch.perform (t : Tasks σ ι κ α) : Stretch ι κ → Act σ (Phase ι κ α)
  | .first task => fun w =>
      let (turn, w) := t.start task w
      (.land w.now turn, w)
  | .further on wake rest => fun w =>
      let (turn, w) := t.resume rest wake (w.afterPause on wake)
      (.land w.now turn, w)
  | .last rest => fun w =>
      let (_, w) := t.abandon rest w
      (.abandoned w.now, w)

/-- Gives a job up, if it has not ended. -/
def Job.giveUp (t : Tasks σ ι κ α) (j : Job ι κ α) : Act σ (Job ι κ α) := fun w =>
  match j.phase with
  | .paused _ rest =>
      let (phase, w) := (Stretch.last rest : Stretch ι κ).perform t w
      ({ j with phase }, w)
  | .pending _ => ({ j with phase := .abandoned w.now }, w)
  | _ => (j, w)

/-- Jobs side by side, and the place of the one that went on last. -/
structure Schedule (ι κ α : Type) where
  jobs : List (Job ι κ α)
  current : Nat

namespace Schedule

/-- The first job that can go on now, with its place, which are counted from `i` on. -/
def pick? (w : World σ) : Nat → List (Job ι κ α) → Option (Nat × Stretch ι κ)
  | _, [] => none
  | i, j :: rest =>
      match j.stretch? w with
      | some s => some (i, s)
      | none => pick? w (i + 1) rest

/-- The job that went on last if it can go on now, else the first one that can. -/
def select? (w : World σ) (s : Schedule ι κ α) : Option (Nat × Stretch ι κ) :=
  match s.jobs[s.current]?.bind (Job.stretch? w) with
  | some stretch => some (s.current, stretch)
  | none => pick? w 0 s.jobs

/-- The next instant at which any job can go on. -/
def nextInstant? (w : World σ) (s : Schedule ι κ α) : Option Nat :=
  s.jobs.foldl (fun t j => World.sooner t (j.next? w)) none

/-- Moves time on to an instant. -/
def passTo (next : Nat) (w : World σ) : World σ := { w with now := max w.now next }

/-- What happens next, if anything does before the limit: a stretch of a job, or time moves on. -/
def next? (t : Tasks σ ι κ α) (limit : Nat) (s : Schedule ι κ α) (w : World σ) :
    Option (Schedule ι κ α × World σ) :=
  match s.select? w with
  | some (i, stretch) =>
      let (phase, w) := stretch.perform t w
      some (⟨s.jobs.modify i fun j => { j with phase }, i⟩, w)
  | none =>
      match s.nextInstant? w with
      | some next => if next ≤ limit then some (s, passTo next w) else none
      | none => none

/-- Lets things happen, at most `n` of them. -/
def proceed (t : Tasks σ ι κ α) (limit : Nat) :
    Nat → Schedule ι κ α → World σ → Schedule ι κ α × World σ
  | 0, s, w => (s, w)
  | n + 1, s, w =>
      match s.next? t limit w with
      | some (s, w) => proceed t limit n s w
      | none => (s, w)

/-- Gives all jobs up that have not ended. -/
def giveUpAll (t : Tasks σ ι κ α) : List (Job ι κ α) → Act σ (List (Job ι κ α))
  | [] => fun w => ([], w)
  | j :: rest => fun w =>
      let (j, w) := j.giveUp t w
      let (rest, w) := giveUpAll t rest w
      (j :: rest, w)

/-- The most that happens in one run. -/
def most : Nat := 100000000

/-- Runs jobs until all have ended or the limit is reached, where those left are given up; the
answer says which. -/
def run (t : Tasks σ ι κ α) (limit : Nat) (jobs : List (Job ι κ α)) :
    Act σ (Bool × List (Job ι κ α)) := fun w =>
  let (s, w) := proceed t limit most ⟨jobs, 0⟩ w
  if s.jobs.all Job.isOver then ((true, s.jobs), w)
  else
    let (jobs, w) := giveUpAll t s.jobs (passTo limit w)
    ((false, jobs), w)

end Schedule

end Turnstile
