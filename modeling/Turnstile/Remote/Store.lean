/-
**The client of a remote store.**

All calls on a remote store share one connection.  A call first obtains it from a slot: the cached
one, or a new one, during whose opening the slot is held and other calls wait.  Then it sends its
command.  If the connection breaks, the call empties the slot before it fails, so that the next call
opens a new connection.  Until the slot is obtained and while a command is under way a call can be
abandoned because its context is finished.

A script is prepared under its name when it is first run; later calls under that name run what was
prepared.

Main definitions:

* `RemoteStore` — the slot and the prepared scripts;
* `RemoteRequest` — what a call wants;
* `RemotePhase`, `RemoteEvent` — how far a call is, and what happens to it;
* `RemoteStore.step?` — what an event does to a call and to what all calls share.
-/

import Turnstile.Log
import Turnstile.Remote.Reply
import Turnstile.Store.Backend

set_option relaxedAutoImplicit false
set_option autoImplicit false

namespace Turnstile

/-- A connection, told from the others by its number. -/
abbrev ConnectionId := Nat

/-- What all calls on a remote store share. -/
structure RemoteStore where
  /-- The connection in the slot. -/
  cached : Option ConnectionId
  /-- Whether a call holds the slot while it opens a connection. -/
  held : Bool
  /-- The connections opened so far. -/
  opened : Nat
  /-- The prepared sources by name. -/
  prepared : List (String × String)
  deriving DecidableEq

/-- What a call on a remote store wants. -/
inductive RemoteRequest
  | eval (script : Script) (keys : List String) (args : List ScriptArg)
  | delete (keys : List String)
  deriving DecidableEq

/-- How far a call is. -/
inductive RemotePhase
  /-- It waits for the slot. -/
  | arriving
  /-- It holds the slot and opens a connection. -/
  | connecting
  /-- It has sent its command; a script call has its prepared source. -/
  | commanding (connection : ConnectionId) (source : String)
  /-- Its connection broke, and it waits for the slot in order to empty it. -/
  | discarding (failure : StoreError)
  | finished (result : Except StoreError ScriptValue)

/-- What happens to a call. -/
inductive RemoteEvent
  /-- It is its turn. -/
  | turn
  /-- Its connection is open. -/
  | connected
  /-- Its connection could not be opened. -/
  | refused (e : RemoteError)
  /-- Its command is answered. -/
  | replied (r : Reply)
  /-- Its command failed. -/
  | failed (e : RemoteError)
  /-- Its context is finished. -/
  | abandoned (cause : ContextError)

namespace RemoteRequest

/-- The phase in which a call begins: deleting nothing needs no connection. -/
def start : RemoteRequest → RemotePhase
  | .delete [] => .finished (.ok .nil)
  | _ => .arriving

/-- What the reply to a command means: a deletion wants a number. -/
def read (r : Reply) : RemoteRequest → Except RemoteError ScriptValue
  | .eval .. => .ok r.scriptValue
  | .delete _ => r.integer.map fun _ => .nil

/-- What is logged about a failed command. -/
def failureEvents : RemoteRequest → List LogEvent
  | .eval script _ _ => [.scriptFailed script.name]
  | .delete _ => []

end RemoteRequest

namespace RemoteStore

/-- A store without a connection. -/
def initial : RemoteStore := ⟨none, false, 0, []⟩

/-- Whether a connection is in the slot or being opened. -/
def isConnected (s : RemoteStore) : Bool := s.held || s.cached.isSome

/-- The source that runs for a script: the first one prepared under its name. -/
def prepare (s : RemoteStore) (script : Script) : String × RemoteStore :=
  match s.prepared.lookup script.name with
  | some source => (source, s)
  | none => (script.source, { s with prepared := s.prepared ++ [(script.name, script.source)] })

/-- A call that has obtained a connection sends its command. -/
def send (s : RemoteStore) (request : RemoteRequest) (connection : ConnectionId) :
    RemoteStore × RemotePhase :=
  match request with
  | .eval script _ _ =>
      let (source, s) := s.prepare script
      (s, .commanding connection source)
  | .delete _ => (s, .commanding connection "")

/-- What follows a failed command: a broken connection is to be discarded. -/
def fail (request : RemoteRequest) (e : RemoteError) : RemotePhase × List LogEvent :=
  if e.isBroken then (.discarding e.storeError, request.failureEvents ++ [.discarding])
  else (.finished (.error e.storeError), request.failureEvents)

/-- What an event does to a call: the shared state, the phase of the call and what is logged
afterwards; none if the event cannot happen to the call now. -/
def step? (s : RemoteStore) (request : RemoteRequest) :
    RemotePhase → RemoteEvent → Option (RemoteStore × RemotePhase × List LogEvent)
  | .arriving, .turn =>
      if s.held then none
      else match s.cached with
        | some connection =>
            let (s, phase) := s.send request connection
            some (s, phase, [])
        | none => some ({ s with held := true }, .connecting, [.opening])
  | .connecting, .connected =>
      let connection := s.opened
      let s := { s with held := false, cached := some connection, opened := s.opened + 1 }
      let (s, phase) := s.send request connection
      some (s, phase, [])
  | .connecting, .refused e =>
      some ({ s with held := false }, .finished (.error e.storeError), [.connectionFailed])
  | .commanding .., .replied r =>
      match request.read r with
      | .ok v => some (s, .finished (.ok v), [])
      | .error e =>
          let (phase, events) := fail request e
          some (s, phase, events)
  | .commanding .., .failed e =>
      let (phase, events) := fail request e
      some (s, phase, events)
  | .discarding failure, .turn =>
      if s.held then none else some ({ s with cached := none }, .finished (.error failure), [])
  | .arriving, .abandoned cause | .commanding .., .abandoned cause =>
      some (s, .finished (.error (.context cause)), [])
  | .connecting, .abandoned cause =>
      some ({ s with held := false }, .finished (.error (.context cause)), [])
  | _, _ => none

/-- The descriptive text of a store at an endpoint described by `server`. -/
def describe (s : RemoteStore) (server : String) : String :=
  Text.record "RedisStore" [("server", server), ("connected", Text.truth s.isConnected)]

end RemoteStore

end Turnstile
