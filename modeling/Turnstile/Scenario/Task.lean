/-
**Carrying out actions.**

An action is a task: it begins with a stretch of work and goes on after every pause.  After each
stretch the meter takes in what was reported.

Main definitions:

* `Running` — an action at a pause;
* `Running.begin` — the first stretch of an action;
* `Running.resume`, `Running.abandon` — what follows a pause;
* `Running.tasks` — the three together.
-/

import Turnstile.Scenario.Layers
import Turnstile.Schedule

set_option relaxedAutoImplicit false
set_option autoImplicit false

namespace Turnstile

/-! ### Contexts and clocks -/

namespace Act

/-- The context that a scenario knows under a number. -/
def contextNumbered (number : Nat) : Act Rig ContextId :=
  onRig fun r => (r.contexts[number]?.getD 0, r)

/-- A new context, and the number under which the scenario knows it. -/
def addContext (make : Contexts → ContextId × Contexts) : Act Rig Answer := do
  let id ← newContext make
  onRig fun r => (.context r.contexts.size, { r with contexts := r.contexts.push id })

/-- The virtual instant. -/
def now {σ : Type} : Act σ Nat := fun w => (w.now, w)

/-- What there is to know about a context. -/
def contextState (ctx : ContextId) : Act Rig Answer := fun w =>
  (.contextState (w.status ctx) (w.contexts.remaining? ctx w.now)
    ((w.contexts.deadline? ctx).map fun t => Instant.since t 0), w)

/-- Changes some of the clocks of a scenario; the answer tells both. -/
def changeClocks (which : WhichClock) (f : Nat → Nat) : Act Rig Answer := fun w =>
  let w := match which with
    | .limiter => { w with limiterClock := f w.limiterClock }
    | .store => { w with storeClock := f w.storeClock }
    | .both => { w with limiterClock := f w.limiterClock, storeClock := f w.storeClock }
  (.clocks w.limiterClock w.storeClock, w)

end Act

/-! ### Actions that never pause -/

namespace Act

/-- Looks at a key, which drops its entry if that has expired. -/
def inspect (key : String) : Act Rig Answer := fun w =>
  let time := w.storeReading
  let (present, store) := w.backend.store.within fun m =>
    let (present, keyspace) := m.keyspace.contains time key
    (present, { m with keyspace })
  let ks := store.memory.keyspace
  let int := match (ks.int? time key).1 with
    | .ok v => v
    | .error _ => none
  let members := match (ks.cardinality time key).1 with
    | .ok n => n
    | .error _ => 0
  let ttl := (ks.ttl? time key).1
  let answer := match w.storeSource with
    | .own => Answer.inspected int present members ttl
    | .system => .inspectedBriefly int present ttl.isSome
  (answer, { w with backend := { w.backend with store } })

/-- Runs commands on the keyspace as one store call, on behalf of no context. -/
def runCommands (cs : List KeyCommand) : Act Rig Answer := fun w =>
  let call : Call := ⟨none, w.storeReading⟩
  let (rows, backend) := Rig.onStore
    (TappedStore.within (MemoryStore.perform call (KeyCommand.rows call.now cs))) w.backend
  (.rows rows, { w with backend })

/-- Does something with the limiter, if there is one. -/
def withLimiter (act : SlidingWindow → Act Rig Answer) : Act Rig Answer := do
  match ← onRig fun r => (r.limiter, r) with
  | some l => act l.limiter
  | none => return .missing "limiter"

/-- The mark of a decision. -/
def mark : Except LimiterError Bool → Char
  | .ok true => 'Y'
  | .ok false => 'n'
  | .error _ => 'E'

/-- Asks for the same decision several times. -/
def allowMany (l : SlidingWindow) (ctx : ContextId) (key : String) (n limit : Nat)
    (window : Duration) : Nat → Act Rig (List Char)
  | 0 => return []
  | times + 1 => do
      let first ← l.allowN ctx key n limit window
      let rest ← allowMany l ctx key n limit window times
      return mark first :: rest

/-- Replaces the limiter. -/
def newLimiter (pollInterval : Duration) (sleeper : Sleeper) : Act Rig Answer := do
  match SlidingWindow.make pollInterval sleeper with
  | .error e => return .refused e
  | .ok l =>
      installLimiter l
      return .limiterBuilt pollInterval

/-- The descriptive text of a clock with a reading of its own, or of the system's. -/
def clockText (reading : Nat) : ClockSource → String
  | .own => Text.record "ManualClock" [("now", toString reading)]
  | .system => "SystemClock"

/-- The descriptive texts of limiter and store; the store is shown with the clock of its own,
whichever it reads. -/
def describe (l : SlidingWindow) : Act Rig Answer := fun w =>
  let r := w.backend
  let hook := if l.measured then r.meter.hook else .discard
  let written := (w.journals[0]?.getD #[]).toList
  (.descriptions (l.describe (clockText w.limiterClock l.clock) hook.describe written)
    (r.store.memory.describe (clockText w.storeClock .own)), w)

/-- What a memory hook tells about a key. -/
def keyMetrics (key : String) (r : Rig) : Answer × Rig :=
  let l := r.observations
  let (admitted, denied) := l.requests key
  (.keyMetrics admitted denied (l.latencyOperations key) (l.waitingSizes key), r)

/-- The observations of a memory hook, which then forgets them. -/
def takeEvents (r : Rig) : Answer × Rig :=
  (.events r.observations.events r.observations.evicted, r.clearObservations)

/-- The families of a hook for collection. -/
def gather (r : Rig) : Answer × Rig :=
  match r.meter.hook with
  | .exposition x => (.families x.collect, r)
  | _ => (.families [], r)

end Act

/-! ### Actions that pause -/

/-- A retry of an operation whose outcomes are laid ready. -/
structure RetryRun where
  policy : RetryPolicy
  ctx : ContextId
  outcomes : Array Outcome
  number : Nat

namespace RetryRun

/-- The outcome of an attempt; the last one repeats. -/
def outcome (r : RetryRun) (attempt : Nat) : Outcome :=
  match r.outcomes[attempt - 1]? with
  | some o => o
  | none => (r.outcomes.back?).getD ⟨.ok "null", 0⟩

/-- The operation: it notes the attempt and takes its time. -/
def steps (r : RetryRun) : Steps Rig (Except LimiterError String) String where
  call := fun attempt => do
    Act.onRig fun rig =>
      ((), { rig with attempts := rig.attempts.modify r.number (·.push attempt) })
    let o := r.outcome attempt
    if o.takesMs = 0 then return .done o.result
    else
      let now ← Act.now
      return .pause ⟨none, some (now + Instant.ofMillis o.takesMs), none⟩ o.result
  resume := fun result _ => return .done result
  abandon := fun _ => return ()

/-- The answer of a retry: its result, its attempts, and its sleeps if they were tracked. -/
def answer (r : RetryRun) (result : Except LimiterError String) : Act Rig Answer := do
  let attempts ← Act.onRig fun rig => ((rig.attempts[r.number]?.getD #[]).toList, rig)
  match r.policy.sleeper.journal? with
  | some journal => return .retried result attempts (some (← Act.journal journal))
  | none => return .retried result attempts none

end RetryRun

/-- An action at a pause. -/
inductive Running
  /-- Ends with an answer, or with the end of its context. -/
  | pausing (answer : Answer)
  /-- Ends with the time. -/
  | elapsing
  | waiting (l : LiveLimiter) (w : Wait)
  | retrying (r : RetryRun) (run : Retrying (Except LimiterError String))
  | requesting (layer : Layer RigLimiter) (r : Request) (a : Admitting Wait)

namespace Running

/-- The answer of a wait. -/
def answerWait (result : Except LimiterError Unit) : Act Rig Answer := fun w =>
  (.waited result w.pacer.requested w.pacer.last, w)

/-- What follows a stretch of a wait; one that has ended gives its limiter back. -/
def followWait (l : LiveLimiter) :
    Turn Wait (Except LimiterError Unit) → Act Rig (Turn Running Answer)
  | .done result => do
      let answer ← answerWait result
      Act.giveBack (some l)
      return .done answer
  | .pause on w => return .pause on (.waiting l w)

/-- What follows a stretch of a retry. -/
def followRetry (r : RetryRun) :
    Turn (Retrying (Except LimiterError String)) (Except LimiterError String) →
      Act Rig (Turn Running Answer)
  | .done result => return .done (← r.answer result)
  | .pause on run => return .pause on (.retrying r run)

/-- The sleeps of a layer's retries since the last request, if they are tracked. -/
def layerSleeps : Act Rig (Option (List Duration)) := do
  match ← Act.onRig fun r => (r.layerJournal, r) with
  | some journal =>
      let sleeps ← Act.journal journal
      Act.clearJournal journal
      return some sleeps
  | none => return none

/-- The answer to a request: that of the layer, or that of the service behind it. -/
def answerRequest (r : Request) (verdict : Verdict) : Act Rig Answer := do
  if let .forward := verdict then
    Act.onRig fun rig => ((), { rig with innerCalls := rig.innerCalls + 1 })
  let calls ← Act.onRig fun rig => (rig.innerCalls, rig)
  let sleeps ← layerSleeps
  match verdict, r.innerFailure with
  | .answer response, _ => return .response response calls sleeps
  | .forward, some text => return .innerFailed text calls sleeps
  | .forward, none =>
      return .response ⟨r.innerStatus, [], "inner " ++ toString calls⟩ calls sleeps

/-- What follows a stretch of a request; one that has ended gives the limiter of its layer back. -/
def followRequest (layer : Layer RigLimiter) (r : Request) :
    Turn (Admitting Wait) Verdict → Act Rig (Turn Running Answer)
  | .done verdict => do
      let answer ← answerRequest r verdict
      Act.giveBack layer.limiter.live?
      return .done answer
  | .pause on a => return .pause on (.requesting layer r a)

/-- Begins a wait; the sleeps are counted from here on. -/
def beginWait (l : LiveLimiter) (ctx : ContextId) (key : String) (limit : Nat)
    (window : Duration) (cancelAfterSleeps : Option Nat) : Act Rig (Turn Running Answer) := do
  Act.borrow (some l)
  let cancelAt := cancelAfterSleeps.map fun n => (n, ctx)
  fun w => ((), { w with pacer := ⟨0, none, cancelAt⟩ })
  followWait l (← Wait.start l.limiter ctx key limit window)

/-- Begins a retry. -/
def beginRetry (ctx : ContextId) (plan : PolicyPlan) (outcomes : List Outcome) :
    Act Rig (Turn Running Answer) := do
  match plan.policy (← Act.newJournal) with
  | .error e => return .done (LayerFault.ofPolicy e).answer
  | .ok policy =>
      let number ← Act.onRig fun r =>
        (r.attempts.size, { r with attempts := r.attempts.push #[] })
      let run : RetryRun := ⟨policy, ctx, outcomes.toArray, number⟩
      followRetry run (← policy.start ctx run.steps)

/-- Begins a request. -/
def beginRequest (ctx : ContextId) (r : Request) : Act Rig (Turn Running Answer) := do
  match ← Act.onRig fun rig => (rig.layer, rig) with
  | none => return .done (.missing "layer")
  | some layer =>
      Act.borrow layer.limiter.live?
      let parent ← if r.bringsContext then pure ctx else Act.newContext Contexts.background
      followRequest layer r (← layer.start parent r.caller)

/-- Begins a future that races a context. -/
def beginRun (ctx : ContextId) (payload : String) (takesMs : Option Nat) :
    Act Rig (Turn Running Answer) := do
  match ← Act.status ctx with
  | some cause => return .done (.contextEnded cause)
  | none =>
      let now ← Act.now
      let timer := takesMs.map fun ms => now + Instant.ofMillis ms
      return .pause ⟨some ctx, timer, none⟩ (.pausing (.payload payload))

/-- Begins a sleep that races a context. -/
def beginSleep (ctx : ContextId) (duration : Duration) (choice : SleeperChoice) :
    Act Rig (Turn Running Answer) := do
  match ← Act.sleep ctx (choice.sleeper 0) duration with
  | .error cause => return .done (.contextEnded cause)
  | .ok on => return .pause on (.pausing .done)

/-- The first stretch of an action. -/
def start (ctx : ContextId) : Action → Act Rig (Turn Running Answer)
  | .childContext => .done <$> Act.addContext fun cs => cs.child ctx
  | .timeoutContext timeout => do
      let now ← Act.now
      .done <$> Act.addContext fun cs => cs.withTimeout ctx now timeout
  | .deadlineContext atMs =>
      .done <$> Act.addContext fun cs => cs.withDeadline ctx (Instant.ofMillis atMs)
  | .freshContext => .done <$> Act.addContext Contexts.background
  | .cancel => do
      Act.cancel ctx
      return .done .done
  | .contextState => .done <$> Act.contextState ctx
  | .contextSleep duration choice => beginSleep ctx duration choice
  | .contextRun payload takesMs => beginRun ctx payload takesMs
  | .contextDone => return .pause ⟨some ctx, none, none⟩ (.pausing .done)
  | .tracked clear => do
      let delays ← Act.journal 0
      if clear then Act.clearJournal 0
      return .done (.tracked delays)
  | .elapse ms => do
      let now ← Act.now
      return .pause ⟨none, some (now + Instant.ofMillis ms), none⟩ .elapsing
  | .advanceClock which d => .done <$> Act.changeClocks which fun reading => clockAfter reading d
  | .setClock which ms => .done <$> Act.changeClocks which fun _ => ms
  | .readClocks => .done <$> Act.changeClocks .both id
  | .failNext e => do
      Act.onRig fun r => ((), { r with store := r.store.failNext e })
      return .done .done
  | .replyNext v => do
      Act.onRig fun r => ((), { r with store := r.store.replyNext v })
      return .done .done
  | .eval script keys args => do
      let reply ← Act.callStore ctx fun call => Rig.eval call script keys args
      return .done (.reply reply)
  | .delete keys => do
      let result ← Act.callStore ctx fun call => Backend.delete call keys
      return .done (.deleted result)
  | .inspect key => .done <$> Act.inspect key
  | .commands cs => .done <$> Act.runCommands cs
  | .allowN key n limit window =>
      .done <$> Act.withLimiter fun l => .decision <$> l.allowN ctx key n limit window
  | .reset key => .done <$> Act.withLimiter fun l => .resetDone <$> l.reset ctx key
  | .allowMany key n limit window times =>
      .done <$> Act.withLimiter fun l => do
        return .marks (String.ofList (← Act.allowMany l ctx key n limit window times))
  | .allowEach key sizes limit window =>
      .done <$> Act.withLimiter fun l =>
        .decisions <$> sizes.mapM fun n => l.allowN ctx key n limit window
  | .wait key limit window cancelAfterSleeps => do
      match ← Act.onRig fun r => (r.limiter, r) with
      | some l => beginWait l ctx key limit window cancelAfterSleeps
      | none => return .done (.missing "limiter")
  | .newLimiter pollInterval sleeper => .done <$> Act.newLimiter pollInterval sleeper
  | .dropLimiter => do
      Act.dropLimiter
      return .done .done
  | .describe => .done <$> Act.withLimiter Act.describe
  | .retry plan outcomes => beginRetry ctx plan outcomes
  | .keyMetrics key => .done <$> Act.onRig (Act.keyMetrics key)
  | .activeLimiters => .done <$> Act.onRig fun r =>
      (.activeLimiters (r.observations.activeLimiters? slidingWindowKind), r)
  | .takeEvents => .done <$> Act.onRig Act.takeEvents
  | .gather => .done <$> Act.onRig Act.gather
  | .newLayer limiter calls describe => .done <$> Act.buildLayer limiter calls describe
  | .layerOfSettings json describe => .done <$> Act.buildLayerOfSettings json describe
  | .outcomes list => do
      Act.onRig fun r => ((), { r with outcomes := r.outcomes ++ list })
      return .done .done
  | .request r => beginRequest ctx r

/-- What follows a pause. -/
def next : Running → Wake → Act Rig (Turn Running Answer)
  | .pausing _, .context cause => return .done (.contextEnded cause)
  | .pausing answer, .timer => return .done answer
  | .elapsing, _ => do return .done (.now ((← Act.now) / 1000000))
  | .waiting l w, wake => do followWait l (← w.resume wake)
  | .retrying r run, wake => do followRetry r (← r.policy.resume r.ctx r.steps run wake)
  | .requesting layer r a, wake => do followRequest layer r (← layer.resume a wake)

/-- What is left to do when an action is given up at a pause. -/
def leave : Running → Act Rig Unit
  | .waiting l w => do
      w.abandon
      Act.giveBack (some l)
  | .retrying r run => RetryPolicy.abandon r.steps run
  | .requesting layer _ a => do
      layer.abandon a
      Act.giveBack layer.limiter.live?
  | _ => return ()

/-- A stretch of work after which the meter takes in what was reported. -/
def drained {α : Type} (act : Act Rig α) : Act Rig α := fun w =>
  let (answer, w) := act w
  (answer, Rig.drain w)

/-- Actions as tasks. -/
def tasks : Tasks Rig Piece Running Answer where
  start := fun piece => drained do start (← Act.contextNumbered piece.ctx) piece.action
  resume := fun r wake => drained (r.next wake)
  abandon := fun r => drained r.leave

end Running

end Turnstile
