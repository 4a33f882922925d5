/-
**Request contexts.**

A context is finished once it is cancelled or its deadline has come.  Contexts form trees: a child
is cancelled together with its parent, and its deadline is never later than its parent's.  The
registry keeps one node per context in order of creation, so a parent always comes before its
children.

Main definitions:

* `Contexts` — the registry of all contexts of a run;
* `Contexts.background`, `Contexts.child`, `Contexts.withDeadline`, `Contexts.withTimeout` — the
  ways to make a context;
* `Contexts.cancel` — cancels a context and all its descendants;
* `Contexts.err?` — why a context is finished at an instant, if it is;
* `Contexts.deadline?`, `Contexts.remaining?` — its deadline and the time left.
-/

import Turnstile.Duration
import Turnstile.Error

set_option relaxedAutoImplicit false
set_option autoImplicit false

namespace Turnstile

/-- The place of a context in the registry. -/
abbrev ContextId := Nat

/-- One context: where it comes from, whether it is cancelled, and its deadline. -/
structure Context where
  parent : Option ContextId
  cancelled : Bool
  deadline : Option Nat
  deriving DecidableEq

/-- All contexts of a run, in order of creation. -/
structure Contexts where
  nodes : Array Context
  deriving DecidableEq

namespace Contexts

/-- The registry with one background context. -/
def initial : Contexts := ⟨#[⟨none, false, none⟩]⟩

/-- The context with a given place. -/
def get? (cs : Contexts) (i : ContextId) : Option Context := cs.nodes[i]?

/-- Registers one more context. -/
def add (cs : Contexts) (c : Context) : ContextId × Contexts :=
  (cs.nodes.size, ⟨cs.nodes.push c⟩)

/-- A context that is never cancelled by another one and has no deadline. -/
def background (cs : Contexts) : ContextId × Contexts := cs.add ⟨none, false, none⟩

/-- Whether a context is cancelled. -/
def isCancelled (cs : Contexts) (i : ContextId) : Bool :=
  match cs.get? i with
  | some c => c.cancelled
  | none => false

/-- The deadline of a context. -/
def deadline? (cs : Contexts) (i : ContextId) : Option Nat :=
  (cs.get? i).bind Context.deadline

/-- A child: cancelled with its parent, with the parent's deadline. -/
def child (cs : Contexts) (i : ContextId) : ContextId × Contexts :=
  cs.add ⟨some i, cs.isCancelled i, cs.deadline? i⟩

/-- The earlier of a deadline, if there is one, and an instant. -/
def earlier (existing : Option Nat) (t : Nat) : Nat :=
  match existing with
  | some e => if e ≤ t then e else t
  | none => t

/-- A child with the earlier of `t` and the parent's deadline. -/
def withDeadline (cs : Contexts) (i : ContextId) (t : Nat) : ContextId × Contexts :=
  cs.add ⟨some i, cs.isCancelled i, some (earlier (cs.deadline? i) t)⟩

/-- A child whose deadline is `d` from now, or the parent's if that is earlier.  A deadline too
far away to be named is none. -/
def withTimeout (cs : Contexts) (i : ContextId) (now : Nat) (d : Duration) :
    ContextId × Contexts :=
  match Instant.after? now d with
  | some t => cs.withDeadline i t
  | none => cs.child i

/-- Whether the context `j` is `i` or descends from it. -/
def descends (cs : Contexts) (i j : ContextId) : Bool :=
  j == i ||
    match (cs.get? j).bind Context.parent with
    | some p => if _h : p < j then cs.descends i p else false
    | none => false
termination_by j

/-- Cancels a context and all its descendants. -/
def cancel (cs : Contexts) (i : ContextId) : Contexts :=
  ⟨cs.nodes.mapIdx fun j c => if cs.descends i j then { c with cancelled := true } else c⟩

/-- Why a context is finished at an instant; a cancellation comes before a deadline. -/
def err? (cs : Contexts) (i : ContextId) (now : Nat) : Option ContextError :=
  if cs.isCancelled i then some .cancelled
  else match cs.deadline? i with
    | some t => if t ≤ now then some .deadlineExceeded else none
    | none => none

/-- The time left before the deadline of a context, if it has one. -/
def remaining? (cs : Contexts) (i : ContextId) (now : Nat) : Option Duration :=
  (cs.deadline? i).map fun t => Instant.since t now

end Contexts

end Turnstile
