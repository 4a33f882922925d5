/-
**The store in memory.**

Scripts are computations on the keyspace, registered by name.  One ends with a reply or with an
error, or it is aborted by an operation on integers that has no result; what it did before stays.  A
call first looks at its context, then at the queue of injected faults, and only then touches the
keyspace; a fault is used up by the call that it hits.

A store may be under observation.  Then every call that reaches it is noted down, and a reply may be
laid ready: the next script call answers it at once, without a look at its circumstances or at the
entries.

Main definitions:

* `ScriptEnd` — a reply, or an abort;
* `Native` — a script as a computation;
* `MemoryStore` — the store;
* `MemoryStore.perform` — runs a computation on the keyspace as one call;
* `MemoryStore.eval`, `MemoryStore.delete` — the two calls, which make it a `Backend`;
* `StoreCall` — a call as it is noted down;
* `TappedStore` — a store in memory with notes and replies;
* `TappedStore.eval`, `TappedStore.delete` — its two calls, which make it a `Backend`.
-/

import Turnstile.Store.Backend
import Turnstile.Store.Keyspace
import Turnstile.Text.Descriptive

set_option relaxedAutoImplicit false
set_option autoImplicit false

namespace Turnstile

/-- How a script ends that does not fail: it replies, or it is aborted where it stands. -/
inductive ScriptEnd
  | replied (v : ScriptValue)
  | aborted

/-- The reply of a script to a limiter.  An aborted script replies nothing; the one script that
limiters run is not aborted by the arguments that a limiter passes to it. -/
def ScriptEnd.value : ScriptEnd → ScriptValue
  | .replied v => v
  | .aborted => .nil

/-- A script as a computation, given the time, the keys and the arguments. -/
abbrev Native := Nat → List String → List ScriptArg → KeyspaceM ScriptEnd

/-- A store in memory: its scripts by name, its entries and the faults still to come. -/
structure MemoryStore where
  scripts : List (String × Native)
  keyspace : Keyspace
  faults : List StoreError

namespace MemoryStore

/-- A store with some scripts and nothing in it. -/
def ofScripts (scripts : List (String × Native)) : MemoryStore := ⟨scripts, .empty, []⟩

/-- The script registered under a name. -/
def native? (s : MemoryStore) (name : String) : Option Native := s.scripts.lookup name

/-- Makes a later call fail. -/
def failNext (s : MemoryStore) (fault : StoreError) : MemoryStore :=
  { s with faults := s.faults ++ [fault] }

/-- Guards a call: it fails if its context is finished or a fault is waiting. -/
def guarded {α : Type} (call : Call) (act : MemoryStore → Except StoreError α × MemoryStore)
    (s : MemoryStore) : Except StoreError α × MemoryStore :=
  match call.status with
  | some cause => (.error (.context cause), s)
  | none =>
      match s.faults with
      | fault :: rest => (.error fault, { s with faults := rest })
      | [] => act s

/-- Runs a computation on the keyspace. -/
def onKeyspace {α : Type} (m : KeyspaceM α) (s : MemoryStore) :
    Except StoreError α × MemoryStore :=
  let (answer, keyspace) := m.runOn s.keyspace
  (answer, { s with keyspace })

/-- Runs a computation on the keyspace as one call. -/
def perform {α : Type} (call : Call) (m : KeyspaceM α) (s : MemoryStore) :
    Except StoreError α × MemoryStore :=
  guarded call (onKeyspace m) s

/-- Runs a registered script as one call. -/
def eval (call : Call) (script : Script) (keys : List String) (args : List ScriptArg)
    (s : MemoryStore) : Except StoreError ScriptEnd × MemoryStore :=
  guarded call (fun s =>
    match s.native? script.name with
    | some native => onKeyspace (native call.now keys args) s
    | none => (.error (.unknownScript script.name), s)) s

/-- Deletes every key of a list. -/
def deleteAll (now : Nat) (keys : List String) (ks : Keyspace) : Keyspace :=
  keys.foldl (fun ks key => (ks.delete now key).2) ks

/-- Deletes keys as one call. -/
def delete (call : Call) (keys : List String) (s : MemoryStore) :
    Except StoreError Unit × MemoryStore :=
  guarded call (fun s => (.ok (), { s with keyspace := deleteAll call.now keys s.keyspace })) s

instance : Backend MemoryStore where
  eval := fun call script keys args s =>
    let (answer, s) := eval call script keys args s
    (answer.map ScriptEnd.value, s)
  delete := delete

/-- The descriptive text of a store whose clock is described by `clock`. -/
def describe (s : MemoryStore) (clock : String) : String :=
  Text.record "MemoryStore"
    [("scripts", Text.listed (s.scripts.map fun (name, _) => Quoted.quote name)),
      ("clock", clock)]

end MemoryStore

/-! ### A store under observation -/

/-- A call as it is noted down. -/
inductive StoreCall
  | eval (script : String) (keys : List String) (args : List ScriptArg)
  | delete (keys : List String)
  deriving DecidableEq

/-- A store in memory, the replies laid ready, and the calls that reached it, latest first. -/
structure TappedStore where
  memory : MemoryStore
  replies : List ScriptValue
  calls : List StoreCall

namespace TappedStore

/-- A store with no replies and no calls so far. -/
def ofMemory (memory : MemoryStore) : TappedStore := ⟨memory, [], []⟩

/-- Lays a reply ready. -/
def replyNext (s : TappedStore) (reply : ScriptValue) : TappedStore :=
  { s with replies := s.replies ++ [reply] }

/-- Makes a later call fail. -/
def failNext (s : TappedStore) (fault : StoreError) : TappedStore :=
  { s with memory := s.memory.failNext fault }

/-- Works on the store in memory without a note. -/
def within {α : Type} (act : MemoryStore → α × MemoryStore) (s : TappedStore) :
    α × TappedStore :=
  let (answer, memory) := act s.memory
  (answer, { s with memory })

/-- Runs a script, or answers the next reply laid ready. -/
def eval (call : Call) (script : Script) (keys : List String) (args : List ScriptArg)
    (s : TappedStore) : Except StoreError ScriptEnd × TappedStore :=
  let s := { s with calls := StoreCall.eval script.name keys args :: s.calls }
  match s.replies with
  | reply :: rest => (.ok (.replied reply), { s with replies := rest })
  | [] => within (MemoryStore.eval call script keys args) s

/-- Deletes keys. -/
def delete (call : Call) (keys : List String) (s : TappedStore) :
    Except StoreError Unit × TappedStore :=
  within (MemoryStore.delete call keys) { s with calls := .delete keys :: s.calls }

instance : Backend TappedStore where
  eval := fun call script keys args s =>
    let (answer, s) := eval call script keys args s
    (answer.map ScriptEnd.value, s)
  delete := delete

end TappedStore

end Turnstile
