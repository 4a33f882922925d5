/-
**Sessions with a remote store.**

One call after the other is made on a remote store whose server follows a script, by hand or through
a limiter.  Every step tells what the server received and what was logged.

Main definitions:

* `RemoteRig` — a remote store with its server, a `Backend`;
* `RemoteRig.settle` — carries a call through all its phases;
* `RemoteStep`, `RemoteAnswer` — what is done and what comes of it;
* `RemoteSession.run` — steps one after the other.
-/

import Turnstile.Limiter.SlidingWindow
import Turnstile.Remote.Server
import Turnstile.Remote.Store

set_option relaxedAutoImplicit false
set_option autoImplicit false

namespace Turnstile

/-- A remote store with its server, the login, and what the client logged. -/
structure RemoteRig where
  store : RemoteStore
  server : Server
  user : Option String
  password : Option String
  log : Array LogEvent

namespace RemoteRig

/-- What comes of a connect as an event of its call. -/
def connectEvent : Exchange → RemoteEvent
  | .answered _ => .connected
  | .failed e => .refused e
  | .silent => .abandoned .deadlineExceeded

/-- What comes of a command as an event of its call. -/
def commandEvent : Exchange → RemoteEvent
  | .answered r => .replied r
  | .failed e => .failed e
  | .silent => .abandoned .deadlineExceeded

/-- The next event of a call that runs alone: a finished context comes before anything that it
races. -/
def nextEvent (call : Call) (request : RemoteRequest) (phase : RemotePhase) (r : RemoteRig) :
    RemoteEvent × RemoteRig :=
  match phase, call.status with
  | .arriving, some cause | .commanding .., some cause => (.abandoned cause, r)
  | .connecting, _ =>
      let (answer, server) := r.server.connect r.user r.password
      (connectEvent answer, { r with server })
  | .commanding _ source, none =>
      let (answer, server) := match request with
        | .eval _ keys args => r.server.invoke source keys args
        | .delete keys => r.server.delete keys
      (commandEvent answer, { r with server })
  | _, _ => (.turn, r)

/-- Carries a call through its phases; `fuel` bounds their number. -/
def settle (call : Call) (request : RemoteRequest) :
    Nat → RemotePhase → RemoteRig → Except StoreError ScriptValue × RemoteRig
  | _, .finished result, r => (result, r)
  | 0, _, r => (.error (.other ""), r)
  | fuel + 1, phase, r =>
      let (event, r) := nextEvent call request phase r
      match r.store.step? request phase event with
      | some (store, phase, events) =>
          settle call request fuel phase { r with store, log := r.log ++ events.toArray }
      | none => (.error (.other ""), r)

/-- The number of phases of a call. -/
def phases : Nat := 5

/-- Makes a call. -/
def perform (call : Call) (request : RemoteRequest) (r : RemoteRig) :
    Except StoreError ScriptValue × RemoteRig :=
  settle call request phases request.start r

instance : Backend RemoteRig where
  eval := fun call script keys args => perform call (.eval script keys args)
  delete := fun call keys r =>
    let (result, r) := perform call (.delete keys) r
    (result.map fun _ => (), r)

end RemoteRig

/-! ### Steps -/

/-- What a step does. -/
inductive RemoteAction
  | eval (script : Script) (keys : List String) (args : List ScriptArg)
  | delete (keys : List String)
  | allowN (key : String) (n limit : Nat) (window : Duration)
  | reset (key : String)
  | connected

/-- The context of a step. -/
inductive RemoteContext
  | live
  | cancelled
  | expired
  /-- It has a deadline that only a silent server lets come. -/
  | short
  deriving DecidableEq

/-- A step. -/
structure RemoteStep where
  action : RemoteAction
  context : RemoteContext

/-- What comes of a step. -/
inductive RemoteAnswer
  | reply (r : Except StoreError ScriptValue)
  | deleted (r : Except StoreError Unit)
  | decision (r : Except LimiterError Bool)
  | resetDone (r : Except LimiterError Unit)
  | connected (b : Bool)

/-- What comes of a step, what the server received and what was logged. -/
structure RemoteOutline where
  answer : RemoteAnswer
  received : Array (List String)
  log : Array LogEvent

namespace RemoteSession

/-- The limiter of a session; nothing is measured. -/
def limiter : SlidingWindow := ⟨SlidingWindow.defaultPollInterval, .timer, .own, false⟩

/-- The context that a step runs in. -/
def context : RemoteContext → Act RemoteRig ContextId
  | .live => return 0
  | .cancelled => do
      let ctx ← Act.newContext Contexts.background
      Act.cancel ctx
      return ctx
  | .expired => Act.newContext fun cs => cs.withDeadline 0 0
  | .short => Act.newContext fun cs => cs.withDeadline 0 (Instant.ofMillis 150)

/-- Carries out an action. -/
def perform (ctx : ContextId) : RemoteAction → Act RemoteRig RemoteAnswer
  | .eval script keys args =>
      .reply <$> Act.callStore ctx fun call => Backend.eval call script keys args
  | .delete keys => .deleted <$> Act.callStore ctx fun call => Backend.delete call keys
  | .allowN key n limit window => .decision <$> limiter.allowN ctx key n limit window
  | .reset key => .resetDone <$> limiter.reset ctx key
  | .connected => fun w => (.connected w.backend.store.isConnected, w)

/-- The events among reports. -/
def events (reports : Array Report) : Array LogEvent :=
  reports.filterMap fun r => match r with
    | .logged e => some e
    | .observed _ => none

/-- Takes away what the server received and what was logged, first by the client and then by the
limiter. -/
def takeNotes (answer : RemoteAnswer) : Act RemoteRig RemoteOutline := fun w =>
  let r := w.backend
  (⟨answer, r.server.received, r.log ++ events w.reports⟩,
    { w with
      reports := #[]
      backend := { r with server := { r.server with received := #[] }, log := #[] } })

/-- Runs one step. -/
def runStep (s : RemoteStep) : Act RemoteRig RemoteOutline := do
  let ctx ← context s.context
  takeNotes (← perform ctx s.action)

/-- A world around a server at a location's login, whose clocks have a reading. -/
def start (clock : Nat) (server : Server) (login : Option String × Option String) :
    World RemoteRig :=
  World.start clock clock ⟨.initial, server, login.1, login.2, #[]⟩

/-- Runs steps one after the other. -/
def run (w : World RemoteRig) (steps : List RemoteStep) : List RemoteOutline :=
  (steps.mapM runStep w).1

end RemoteSession

end Turnstile
