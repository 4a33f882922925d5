/-
**Calls that share a connection.**

Any number of calls share one remote store, and what happens to them happens in any order: a call
begins, obtains the connection in the slot or holds the slot while it opens one, has its command
answered, fails, or is abandoned.  The slot never holds a connection again that a command has found
broken.  The reason is that a call empties the slot before it tells that its connection broke, and
that only new connections are put into the slot.  Nothing but such a call takes a connection out of
the slot, and where no connection comes about the slot is left free, for the next call to try again.

A call that empties the slot may find another connection there than its own.  This one is then given
up as well, which does no harm.

Main definitions:

* `RemoteTraffic`, `RemoteMove` — calls side by side on one store, and what happens among them;
* `RemoteTraffic.move?`, `RemoteTraffic.after?` — one move, and one after the other;
* `RemoteTraffic.Lost` — a connection that a call has reported as broken;
* `RemoteStore.Passes` — what an event can do to a call and to the slot.

Main results:

* `RemoteStore.passes_of_step?` — an event does nothing else;
* `RemoteTraffic.sound_move`, `RemoteTraffic.sound_after` — what every move keeps, and every run;
* `RemoteTraffic.lost_for_good` — **a broken connection is never handed out again**, no connection
  that fails to open blocks the slot, and no other failure empties it.
-/

import Turnstile.Remote.Store

set_option relaxedAutoImplicit false
set_option autoImplicit false

namespace Turnstile

/-! ### Calls side by side -/

/-- The connection on which a command is under way. -/
def RemotePhase.connection? : RemotePhase → Option ConnectionId
  | .commanding connection _ => some connection
  | _ => none

/-- A call among others: what it wants, how far it is, and the connection on which it has sent its
command, if it has. -/
structure RemoteCall where
  request : RemoteRequest
  phase : RemotePhase
  sentOn : Option ConnectionId

/-- The call in its next phase. -/
def RemoteCall.enter (call : RemoteCall) (phase : RemotePhase) : RemoteCall :=
  { call with phase, sentOn := phase.connection?.or call.sentOn }

/-- Calls that share a store, in the order in which they began. -/
structure RemoteTraffic where
  store : RemoteStore
  calls : List RemoteCall

/-- What happens among calls: another one begins, or something happens to one of them. -/
inductive RemoteMove
  | begin (request : RemoteRequest)
  | happens (i : Nat) (event : RemoteEvent)

namespace RemoteTraffic

/-- A store without a connection and without calls. -/
def initial : RemoteTraffic := ⟨.initial, []⟩

/-- One move, if it can happen now. -/
def move? (s : RemoteTraffic) : RemoteMove → Option RemoteTraffic
  | .begin request => some { s with calls := s.calls ++ [⟨request, request.start, none⟩] }
  | .happens i event => do
      let call ← s.calls[i]?
      let (store, phase, _) ← s.store.step? call.request call.phase event
      return ⟨store, s.calls.set i (call.enter phase)⟩

/-- One move after the other. -/
def after? (s : RemoteTraffic) (moves : List RemoteMove) : Option RemoteTraffic :=
  moves.foldlM move? s

/-- How far a call is. -/
def phase? (s : RemoteTraffic) (i : Nat) : Option RemotePhase := s.calls[i]?.map RemoteCall.phase

/-- The connection on which a call has sent its command. -/
def sentOn? (s : RemoteTraffic) (i : Nat) : Option ConnectionId :=
  s.calls[i]?.bind RemoteCall.sentOn

/-- A connection is lost once a call that sent its command on it has returned that it broke. -/
def Lost (s : RemoteTraffic) (c : ConnectionId) : Prop :=
  ∃ i text, s.sentOn? i = some c ∧ s.phase? i = some (.finished (.error (.connection text)))

end RemoteTraffic

/-! ### What an event can do -/

namespace RemoteStore

/-- Two stores have the same slot, whatever scripts they have prepared. -/
structure SameSlot (s s' : RemoteStore) : Prop where
  cached : s'.cached = s.cached
  held : s'.held = s.held
  opened : s'.opened = s.opened

/-- What an event can do to a call, and to the slot. -/
inductive Passes (s : RemoteStore) : RemotePhase → RemoteEvent → RemoteStore → RemotePhase → Prop
  /-- The call takes the connection in the slot. -/
  | reuses {s' : RemoteStore} {c : ConnectionId} {source : String} (free : s.held = false)
      (cached : s.cached = some c) (slot : s.SameSlot s') :
      Passes s .arriving .turn s' (.commanding c source)
  /-- The call holds the slot in order to open a connection. -/
  | holds (free : s.held = false) (empty : s.cached = none) :
      Passes s .arriving .turn { s with held := true } .connecting
  /-- The call puts a new connection into the slot. -/
  | connects {s' : RemoteStore} {source : String}
      (slot : SameSlot
        { s with held := false, cached := some s.opened, opened := s.opened + 1 } s') :
      Passes s .connecting .connected s' (.commanding s.opened source)
  /-- No connection comes about. -/
  | misses {event : RemoteEvent} {e : StoreError}
      (why : (∃ e, event = .refused e) ∨ ∃ cause, event = .abandoned cause) :
      Passes s .connecting event { s with held := false } (.finished (.error e))
  /-- The call gives up before it has a connection. -/
  | leaves (cause : ContextError) :
      Passes s .arriving (.abandoned cause) s (.finished (.error (.context cause)))
  /-- The call ends with a reply, or with a failure that is none of the connection. -/
  | ends {c : ConnectionId} {source : String} {event : RemoteEvent}
      {result : Except StoreError ScriptValue}
      (whole : ∀ text, result ≠ .error (.connection text)) :
      Passes s (.commanding c source) event s (.finished result)
  /-- The connection broke. -/
  | breaks {c : ConnectionId} {source : String} {event : RemoteEvent} (text : String) :
      Passes s (.commanding c source) event s (.discarding (.connection text))
  /-- The call empties the slot. -/
  | empties {failure : StoreError} (free : s.held = false) :
      Passes s (.discarding failure) .turn { s with cached := none } (.finished (.error failure))

variable {s s' : RemoteStore} {request : RemoteRequest} {phase phase' : RemotePhase}
  {event : RemoteEvent} {events : List LogEvent}

/-- To send a command leaves the slot alone. -/
theorem send_eq (s : RemoteStore) (request : RemoteRequest) (c : ConnectionId) :
    ∃ s' source, s.send request c = (s', .commanding c source) ∧ s.SameSlot s' := by
  cases request with
  | delete keys => exact ⟨s, "", rfl, rfl, rfl, rfl⟩
  | eval script keys args =>
      refine ⟨(s.prepare script).2, (s.prepare script).1, rfl, ?_⟩
      unfold prepare
      cases s.prepared.lookup script.name with
      | some source => exact ⟨rfl, rfl, rfl⟩
      | none => exact ⟨rfl, rfl, rfl⟩

/-- A failed command is one of the connection exactly if this is to be discarded. -/
theorem passes_fail (s : RemoteStore) (request : RemoteRequest) (c : ConnectionId)
    (source : String) (event : RemoteEvent) (e : RemoteError) :
    s.Passes (.commanding c source) event s (fail request e).1 := by
  unfold fail
  cases hbroken : e.isBroken with
  | true =>
      obtain ⟨text, htext⟩ := RemoteError.isBroken_iff.1 hbroken
      rw [if_pos rfl, htext]
      exact .breaks text
  | false =>
      refine .ends fun text htext => ?_
      have hsource : e.storeError = .connection text := Except.error.inj htext
      rw [RemoteError.isBroken_iff.2 ⟨text, hsource⟩] at hbroken
      exact Bool.noConfusion hbroken

/-- **An event does nothing else.** -/
theorem passes_of_step? (h : s.step? request phase event = some (s', phase', events)) :
    s.Passes phase event s' phase' := by
  have hcontext (cause : ContextError) (text : String) :
      (.error (.context cause) : Except StoreError ScriptValue) ≠ .error (.connection text) := nofun
  cases phase with
  | arriving =>
      cases event with
      | turn =>
          simp only [step?] at h
          split at h
          · exact nomatch h
          have hfree : s.held = false := Bool.eq_false_iff.2 ‹_›
          cases hcached : s.cached with
          | none =>
              simp only [hcached, Option.some.injEq, Prod.mk.injEq] at h
              obtain ⟨rfl, rfl, -⟩ := h
              exact hcached ▸ .holds hfree hcached
          | some c =>
              obtain ⟨s₁, source, hsend, hslot⟩ := s.send_eq request c
              simp only [hcached, hsend, Option.some.injEq, Prod.mk.injEq] at h
              obtain ⟨rfl, rfl, -⟩ := h
              exact .reuses hfree hcached hslot
      | abandoned cause =>
          obtain ⟨rfl, rfl, -⟩ := by simpa [step?] using h
          exact .leaves cause
      | _ => exact nomatch h
  | connecting =>
      cases event with
      | connected =>
          obtain ⟨s₁, source, hsend, hslot⟩ := send_eq
            { s with held := false, cached := some s.opened, opened := s.opened + 1 }
            request s.opened
          simp only [step?, hsend, Option.some.injEq, Prod.mk.injEq] at h
          obtain ⟨rfl, rfl, -⟩ := h
          exact .connects hslot
      | refused e =>
          obtain ⟨rfl, rfl, -⟩ := by simpa [step?] using h
          exact .misses (Or.inl ⟨e, rfl⟩)
      | abandoned cause =>
          obtain ⟨rfl, rfl, -⟩ := by simpa [step?] using h
          exact .misses (Or.inr ⟨cause, rfl⟩)
      | _ => exact nomatch h
  | commanding c source =>
      cases event with
      | replied r =>
          simp only [step?] at h
          cases hread : request.read r with
          | ok v =>
              simp only [hread, Option.some.injEq, Prod.mk.injEq] at h
              obtain ⟨rfl, rfl, -⟩ := h
              exact .ends nofun
          | error e =>
              simp only [hread, Option.some.injEq, Prod.mk.injEq] at h
              obtain ⟨rfl, rfl, -⟩ := h
              exact s.passes_fail request c source _ e
      | failed e =>
          simp only [step?, Option.some.injEq, Prod.mk.injEq] at h
          obtain ⟨rfl, rfl, -⟩ := h
          exact s.passes_fail request c source _ e
      | abandoned cause =>
          obtain ⟨rfl, rfl, -⟩ := by simpa [step?] using h
          exact .ends (hcontext cause)
      | _ => exact nomatch h
  | discarding failure =>
      cases event with
      | turn =>
          simp only [step?] at h
          split at h
          · exact nomatch h
          have hfree : s.held = false := Bool.eq_false_iff.2 ‹_›
          simp only [Option.some.injEq, Prod.mk.injEq] at h
          obtain ⟨rfl, rfl, -⟩ := h
          exact .empties hfree
      | _ => exact nomatch h
  | finished result =>
      cases event <;> exact nomatch h

/-- What has ended stays as it is. -/
theorem not_passes_finished {result : Except StoreError ScriptValue} :
    ¬ s.Passes (.finished result) event s' phase' := nofun

/-- While the slot is held it is empty, and a connection in it has a number that was given. -/
structure Tidy (s : RemoteStore) : Prop where
  empty : s.held = true → s.cached = none
  numbered : ∀ c, s.cached = some c → c < s.opened

namespace Passes

/-- What an event does leaves the slot tidy. -/
theorem tidy (h : s.Passes phase event s' phase') (hs : s.Tidy) : s'.Tidy := by
  cases h with
  | reuses free cached slot =>
      refine ⟨fun hheld => ?_, fun c hc => ?_⟩
      · simp [slot.held, free] at hheld
      · rw [slot.opened]
        exact hs.numbered c (slot.cached ▸ hc)
  | holds free empty => exact ⟨fun _ => empty, hs.numbered⟩
  | connects slot =>
      refine ⟨fun hheld => ?_, fun c hc => ?_⟩
      · simp [slot.held] at hheld
      · rw [slot.cached, Option.some.injEq] at hc
        rw [slot.opened, ← hc]
        exact Nat.lt_succ_self _
  | misses why => exact ⟨nofun, hs.numbered⟩
  | leaves cause => exact hs
  | ends whole => exact hs
  | breaks text => exact hs
  | empties free => exact ⟨fun _ => rfl, nofun⟩

/-- A call that holds the slot found it free. -/
theorem free (h : s.Passes phase event s' .connecting) : s.held = false := by
  cases h with
  | holds free empty => exact free

/-- A call takes the connection in the slot, or a new one, and only if it has none. -/
theorem taken (h : s.Passes phase event s' phase') {c : ConnectionId}
    (hc : phase'.connection? = some c) :
    (phase = .arriving ∧ s.cached = some c) ∨ (phase = .connecting ∧ c = s.opened) := by
  cases h with
  | reuses free cached slot => exact Or.inl ⟨rfl, cached.trans hc⟩
  | connects slot => exact Or.inr ⟨rfl, (Option.some.inj hc).symm⟩
  | _ => exact nomatch hc

/-- The connection in the slot stays, goes, or gives way to a new one. -/
theorem slot (h : s.Passes phase event s' phase') :
    s.opened ≤ s'.opened ∧
      (s'.cached = s.cached ∨ s'.cached = none ∨ s'.cached = some s.opened) := by
  cases h with
  | reuses free cached slot => exact ⟨Nat.le_of_eq slot.opened.symm, Or.inl slot.cached⟩
  | holds free empty => exact ⟨Nat.le_refl _, Or.inl rfl⟩
  | connects slot => exact ⟨slot.opened ▸ Nat.le_succ _, Or.inr (Or.inr slot.cached)⟩
  | misses why => exact ⟨Nat.le_refl _, Or.inl rfl⟩
  | leaves cause => exact ⟨Nat.le_refl _, Or.inl rfl⟩
  | ends whole => exact ⟨Nat.le_refl _, Or.inl rfl⟩
  | breaks text => exact ⟨Nat.le_refl _, Or.inl rfl⟩
  | empties free => exact ⟨Nat.le_refl _, Or.inr (Or.inl rfl)⟩

/-- Only the call that holds the slot frees it. -/
theorem held (h : s.Passes phase event s' phase') (hphase : phase ≠ .connecting)
    (hheld : s.held = true) : s'.held = true := by
  cases h with
  | reuses free cached slot => exact slot.held.trans hheld
  | holds free empty => rfl
  | connects slot => exact absurd rfl hphase
  | misses why => exact absurd rfl hphase
  | leaves cause => exact hheld
  | ends whole => exact hheld
  | breaks text => exact hheld
  | empties free => exact hheld

/-- A connection leaves the slot only through a call that discards it. -/
theorem discarding (h : s.Passes phase event s' phase') {c : ConnectionId}
    (hcached : s.cached = some c) (hgone : s'.cached ≠ some c)
    (hempty : s.held = true → s.cached = none) (hheld : phase = .connecting → s.held = true) :
    ∃ failure, phase = .discarding failure ∧ phase' = .finished (.error failure) := by
  cases h with
  | reuses free cached slot => exact absurd (slot.cached.trans hcached) hgone
  | holds free empty => exact absurd hcached hgone
  | connects slot => simp [hempty (hheld rfl)] at hcached
  | misses why => exact absurd hcached hgone
  | leaves cause => exact absurd hcached hgone
  | ends whole => exact absurd hcached hgone
  | breaks text => exact absurd hcached hgone
  | @empties failure free => exact ⟨failure, rfl, rfl⟩

end Passes

end RemoteStore

/-! ### What holds of calls on a store -/

/-- A call begins by waiting for the slot, unless it has nothing to do. -/
theorem RemoteRequest.start_cases (request : RemoteRequest) :
    request.start = .arriving ∨ request.start = .finished (.ok .nil) := by
  cases request with
  | eval script keys args => exact Or.inl rfl
  | delete keys =>
      cases keys with
      | nil => exact Or.inr rfl
      | cons key rest => exact Or.inl rfl

theorem RemoteRequest.start_ne_connecting (request : RemoteRequest) :
    request.start ≠ .connecting := by
  obtain h | h := request.start_cases
  · simp [h]
  · simp [h]

/-- How far a call can be: before it has a connection it has sent nothing, it discards only because
its connection broke, and a connection that it has reported as broken is not in the slot. -/
structure RemoteCall.Stands (store : RemoteStore) (call : RemoteCall) : Prop where
  opened : ∀ c, call.sentOn = some c → c < store.opened
  arriving : call.phase = .arriving → call.sentOn = none
  connecting : call.phase = .connecting → call.sentOn = none ∧ store.held = true
  commanding : ∀ c source, call.phase = .commanding c source → call.sentOn = some c
  discarding : ∀ failure, call.phase = .discarding failure →
    (∃ text, failure = .connection text) ∧ ∃ c, call.sentOn = some c
  gone : ∀ c text, call.sentOn = some c → call.phase = .finished (.error (.connection text)) →
    store.cached ≠ some c

namespace RemoteCall.Stands

variable {s s' : RemoteStore} {call : RemoteCall} {event : RemoteEvent} {phase : RemotePhase}

/-- A call that begins has sent nothing. -/
theorem begin (s : RemoteStore) (request : RemoteRequest) :
    RemoteCall.Stands s ⟨request, request.start, none⟩ := by
  obtain h | h := request.start_cases
  · constructor <;> simp [h]
  · constructor <;> simp [h]

/-- What another call does leaves a call where it is. -/
theorem aside (h : call.Stands s) {phase phase' : RemotePhase}
    (hpasses : s.Passes phase event s' phase')
    (hheld : call.phase = .connecting → phase ≠ .connecting) : call.Stands s' := by
  obtain ⟨hopened, hslot⟩ := hpasses.slot
  refine ⟨fun c hc => Nat.lt_of_lt_of_le (h.opened c hc) hopened, h.arriving, fun hphase => ?_,
    h.commanding, h.discarding, fun c text hc hphase => ?_⟩
  · exact ⟨(h.connecting hphase).1, hpasses.held (hheld hphase) (h.connecting hphase).2⟩
  · obtain hsame | hnone | hnew := hslot
    · rw [hsame]
      exact h.gone c text hc hphase
    · simp [hnone]
    · have hlt := h.opened c hc
      rw [hnew]
      intro heq
      rw [Option.some.inj heq] at hlt
      exact Nat.lt_irrefl _ hlt

/-- What an event does to a call leaves it where a call can be. -/
theorem enter (h : call.Stands s) (hcached : ∀ c, s.cached = some c → c < s.opened)
    (hpasses : s.Passes call.phase event s' phase) : (call.enter phase).Stands s' := by
  generalize hfrom : call.phase = from_ at hpasses
  cases hpasses with
  | reuses free cached slot =>
      have hlt := hcached _ cached
      constructor <;> simp_all [RemoteCall.enter, RemotePhase.connection?, slot.opened]
  | holds free empty =>
      have hnone := h.arriving hfrom
      constructor <;> simp_all [RemoteCall.enter, RemotePhase.connection?]
  | connects slot =>
      constructor <;> simp_all [RemoteCall.enter, RemotePhase.connection?, slot.opened]
  | misses why =>
      have hnone := (h.connecting hfrom).1
      constructor <;> simp_all [RemoteCall.enter, RemotePhase.connection?]
  | leaves cause =>
      have hnone := h.arriving hfrom
      constructor <;> simp_all [RemoteCall.enter, RemotePhase.connection?]
  | @ends c source event result whole =>
      have hc := h.commanding _ _ hfrom
      have hlt := h.opened c hc
      constructor <;> simp_all [RemoteCall.enter, RemotePhase.connection?]
  | @breaks c source event text =>
      have hc := h.commanding _ _ hfrom
      have hlt := h.opened c hc
      constructor <;> simp_all [RemoteCall.enter, RemotePhase.connection?]
  | empties free =>
      have hopened := h.opened
      constructor <;> simp_all [RemoteCall.enter, RemotePhase.connection?]

end RemoteCall.Stands

namespace RemoteTraffic

variable {s v : RemoteTraffic} {i j : Nat} {event : RemoteEvent}

/-- A call that begins is the last one. -/
theorem move?_begin (s : RemoteTraffic) (request : RemoteRequest) :
    s.move? (.begin request) =
      some { s with calls := s.calls ++ [⟨request, request.start, none⟩] } := rfl

/-- Something happens to a call exactly if it can happen to it and to the store. -/
theorem move?_happens :
    s.move? (.happens i event) = some v ↔
      ∃ call store phase events, s.calls[i]? = some call ∧
        s.store.step? call.request call.phase event = some (store, phase, events) ∧
        v = ⟨store, s.calls.set i (call.enter phase)⟩ := by
  simp only [move?, Option.bind_eq_bind, Option.bind_eq_some_iff, Option.pure_def,
    Option.some.injEq, Prod.exists, eq_comm (a := v)]
  constructor
  · rintro ⟨call, hcall, store, phase, events, hstep, rfl⟩
    exact ⟨call, store, phase, events, hcall, hstep, rfl⟩
  · rintro ⟨call, store, phase, events, hcall, hstep, rfl⟩
    exact ⟨call, hcall, store, phase, events, hstep, rfl⟩

@[simp] theorem after?_nil (s : RemoteTraffic) : s.after? [] = some s := rfl

@[simp] theorem after?_cons (s : RemoteTraffic) (move : RemoteMove) (moves : List RemoteMove) :
    s.after? (move :: moves) = (s.move? move).bind fun v => v.after? moves := rfl

/-- What one move keeps, every run keeps. -/
theorem keeps_after? {P : RemoteTraffic → Prop}
    (hstep : ∀ {s v move}, P s → s.move? move = some v → P v) {moves : List RemoteMove}
    (hs : P s) (h : s.after? moves = some v) : P v := by
  induction moves generalizing s with
  | nil => exact Option.some.inj h ▸ hs
  | cons move moves ih =>
      rw [after?_cons, Option.bind_eq_some_iff] at h
      obtain ⟨u, hmove, hrest⟩ := h
      exact ih (hstep hs hmove) hrest

/-- What holds of calls on one store: the slot is tidy, no two calls hold it at once, and every call
is where a call can be. -/
structure Sound (s : RemoteTraffic) : Prop where
  tidy : s.store.Tidy
  alone : ∀ i j, s.phase? i = some .connecting → s.phase? j = some .connecting → i = j
  stands : ∀ (i : Nat) (call : RemoteCall), s.calls[i]? = some call → call.Stands s.store

theorem sound_initial : initial.Sound :=
  ⟨⟨nofun, nofun⟩, nofun, nofun⟩

/-- Of the calls after a move, one is the call that moved, and the others are as they were. -/
theorem getElem?_happens {call : RemoteCall} (hcall : s.calls[i]? = some call)
    (phase : RemotePhase) (j : Nat) :
    (s.calls.set i (call.enter phase))[j]? =
      if i = j then some (call.enter phase) else s.calls[j]? := by
  have hi : i < s.calls.length := (List.getElem?_eq_some_iff.1 hcall).1
  simp [List.getElem?_set, hi]

theorem phase?_happens {call : RemoteCall} (hcall : s.calls[i]? = some call)
    (store : RemoteStore) (phase : RemotePhase) (j : Nat) :
    phase? ⟨store, s.calls.set i (call.enter phase)⟩ j =
      if i = j then some phase else s.phase? j := by
  rw [phase?, getElem?_happens hcall]
  split
  · rfl
  · rfl

theorem phase?_eq_some {phase : RemotePhase} :
    s.phase? i = some phase ↔ ∃ call, s.calls[i]? = some call ∧ call.phase = phase :=
  Option.map_eq_some_iff

/-- Of the calls after another one began, one is the new one, and the others are as they were. -/
theorem getElem?_begin {call call' : RemoteCall} (h : (s.calls ++ [call])[j]? = some call') :
    call' = call ∨ s.calls[j]? = some call' := by
  rw [List.getElem?_append] at h
  split at h
  · exact Or.inr h
  · exact Or.inl (List.mem_singleton.1 (List.mem_of_getElem? h))

/-- The call that opens a connection has the slot for itself. -/
theorem Sound.held (hs : s.Sound) (h : s.phase? i = some .connecting) : s.store.held = true := by
  obtain ⟨call, hcall, hphase⟩ := phase?_eq_some.1 h
  exact ((hs.stands i call hcall).connecting hphase).2

/-- **What every move keeps.** -/
theorem sound_move {move : RemoteMove} (hs : s.Sound) (h : s.move? move = some v) : v.Sound := by
  cases move with
  | begin request =>
      rw [move?_begin, Option.some.injEq] at h
      subst h
      refine ⟨hs.tidy, fun j k hj hk => ?_, fun j call hcall => ?_⟩
      · have hold (j : Nat) (hj : phase? ⟨s.store, s.calls ++ [⟨request, request.start, none⟩]⟩ j =
            some .connecting) : s.phase? j = some .connecting := by
          obtain ⟨call, hcall, hphase⟩ := phase?_eq_some.1 hj
          obtain rfl | hcall := getElem?_begin hcall
          · exact absurd hphase request.start_ne_connecting
          · exact phase?_eq_some.2 ⟨call, hcall, hphase⟩
        exact hs.alone j k (hold j hj) (hold k hk)
      · obtain rfl | hcall := getElem?_begin hcall
        · exact .begin s.store request
        · exact hs.stands j call hcall
  | happens i event =>
      obtain ⟨call, store, phase, events, hcall, hstep, rfl⟩ := move?_happens.1 h
      have hpasses := RemoteStore.passes_of_step? hstep
      refine ⟨hpasses.tidy hs.tidy, fun j k hj hk => ?_, fun j call' hcall' => ?_⟩
      · -- a call that has just taken hold of the slot found it free
        have hfree (hphase : phase = .connecting) {l : Nat} :
            s.phase? l ≠ some .connecting := by
          intro hl
          subst hphase
          exact absurd (hs.held hl) (by simp [hpasses.free])
        rw [phase?_happens hcall] at hj hk
        split at hj <;> split at hk
        · exact ‹i = j›.symm.trans ‹i = k›
        · exact absurd hk (hfree (Option.some.inj hj))
        · exact absurd hj (hfree (Option.some.inj hk))
        · exact hs.alone j k hj hk
      · rw [getElem?_happens hcall] at hcall'
        split at hcall'
        · rw [← Option.some.inj hcall']
          exact (hs.stands i call hcall).enter hs.tidy.numbered hpasses
        · refine (hs.stands j call' hcall').aside hpasses fun hphase' hphase => ?_
          exact absurd (hs.alone i j (phase?_eq_some.2 ⟨call, hcall, hphase⟩)
            (phase?_eq_some.2 ⟨call', hcall', hphase'⟩)) ‹¬i = j›

/-- **What every run keeps.** -/
theorem sound_after {moves : List RemoteMove} (hs : s.Sound) (h : s.after? moves = some v) :
    v.Sound :=
  keeps_after? (fun hs hmove => sound_move hs hmove) hs h

/-! ### What becomes of calls and connections -/

theorem sentOn?_happens {call : RemoteCall} (hcall : s.calls[i]? = some call)
    (store : RemoteStore) (phase : RemotePhase) (j : Nat) :
    sentOn? ⟨store, s.calls.set i (call.enter phase)⟩ j =
      if i = j then phase.connection?.or call.sentOn else s.sentOn? j := by
  rw [sentOn?, getElem?_happens hcall]
  split
  · rfl
  · rfl

theorem sentOn?_begin (s : RemoteTraffic) (request : RemoteRequest) (j : Nat) :
    sentOn? ⟨s.store, s.calls ++ [⟨request, request.start, none⟩]⟩ j = s.sentOn? j := by
  unfold sentOn?
  rw [List.getElem?_append]
  split
  · rfl
  · rename_i h
    rw [List.getElem?_eq_none (Nat.le_of_not_lt h)]
    cases hlast : [(⟨request, request.start, none⟩ : RemoteCall)][j - s.calls.length]? with
    | none => rfl
    | some call => rw [List.mem_singleton.1 (List.mem_of_getElem? hlast)]; rfl

/-- A call that has ended stays as it ended. -/
theorem finished_move {move : RemoteMove} {result : Except StoreError ScriptValue}
    (h : s.phase? j = some (.finished result)) (hmove : s.move? move = some v) :
    v.phase? j = some (.finished result) := by
  obtain ⟨call, hcall, hphase⟩ := phase?_eq_some.1 h
  cases move with
  | begin request =>
      rw [move?_begin, Option.some.injEq] at hmove
      subst hmove
      refine phase?_eq_some.2 ⟨call, ?_, hphase⟩
      exact (List.getElem?_append_left (List.getElem?_eq_some_iff.1 hcall).1).trans hcall
  | happens i event =>
      obtain ⟨call', store, phase, events, hcall', hstep, rfl⟩ := move?_happens.1 hmove
      rw [phase?_happens hcall', if_neg, h]
      rintro rfl
      obtain rfl : call = call' := Option.some.inj (hcall.symm.trans hcall')
      have hpasses := RemoteStore.passes_of_step? hstep
      rw [hphase] at hpasses
      exact RemoteStore.not_passes_finished hpasses

/-- The connection on which a call has sent its command is the one it keeps. -/
theorem sentOn?_move {move : RemoteMove} {c : ConnectionId} (hs : s.Sound)
    (h : s.sentOn? j = some c) (hmove : s.move? move = some v) : v.sentOn? j = some c := by
  cases move with
  | begin request =>
      rw [move?_begin, Option.some.injEq] at hmove
      subst hmove
      exact (s.sentOn?_begin request j).trans h
  | happens i event =>
      obtain ⟨call, store, phase, events, hcall, hstep, rfl⟩ := move?_happens.1 hmove
      have hpasses := RemoteStore.passes_of_step? hstep
      have hstands := hs.stands i call hcall
      rw [sentOn?_happens hcall]
      split
      · subst j
        have hsent : call.sentOn = some c := by simpa [sentOn?, hcall] using h
        cases hnew : phase.connection? with
        | none => exact hsent
        | some d =>
            obtain ⟨hphase, -⟩ | ⟨hphase, -⟩ := hpasses.taken hnew
            · simp [hstands.arriving hphase] at hsent
            · simp [(hstands.connecting hphase).1] at hsent
      · exact h

/-- A lost connection stays lost. -/
theorem lost_move {move : RemoteMove} {c : ConnectionId} (hs : s.Sound) (h : s.Lost c)
    (hmove : s.move? move = some v) : v.Lost c := by
  obtain ⟨i, text, hsent, hphase⟩ := h
  exact ⟨i, text, sentOn?_move hs hsent hmove, finished_move hphase hmove⟩

/-- A lost connection is none that was never opened, and it is not in the slot. -/
theorem Lost.gone {c : ConnectionId} (hs : s.Sound) (h : s.Lost c) :
    c < s.store.opened ∧ s.store.cached ≠ some c := by
  obtain ⟨i, text, hsent, hphase⟩ := h
  obtain ⟨call, hcall, hphase⟩ := phase?_eq_some.1 hphase
  have hsent : call.sentOn = some c := by simpa [sentOn?, hcall] using hsent
  have hstands := hs.stands i call hcall
  exact ⟨hstands.opened c hsent, hstands.gone c text hsent hphase⟩

/-- No move hands a lost connection out. -/
theorem spared_move {move : RemoteMove} {c : ConnectionId} (hs : s.Sound) (hlost : s.Lost c)
    (h : s.sentOn? j ≠ some c) (hmove : s.move? move = some v) : v.sentOn? j ≠ some c := by
  cases move with
  | begin request =>
      rw [move?_begin, Option.some.injEq] at hmove
      subst hmove
      rwa [sentOn?_begin]
  | happens i event =>
      obtain ⟨call, store, phase, events, hcall, hstep, rfl⟩ := move?_happens.1 hmove
      have hpasses := RemoteStore.passes_of_step? hstep
      obtain ⟨hopened, hcached⟩ := hlost.gone hs
      rw [sentOn?_happens hcall]
      split
      · subst j
        have hsent : call.sentOn ≠ some c := by simpa [sentOn?, hcall] using h
        cases hnew : phase.connection? with
        | none => exact hsent
        | some d =>
            rintro ⟨⟩
            obtain ⟨-, hsome⟩ | ⟨-, rfl⟩ := hpasses.taken hnew
            · exact hcached hsome
            · exact Nat.lt_irrefl _ hopened
      · exact h

/-- No run hands a lost connection out. -/
theorem spared_after {moves : List RemoteMove} {c : ConnectionId} (hs : s.Sound) (hlost : s.Lost c)
    (h : s.sentOn? j ≠ some c) (hmoves : s.after? moves = some v) : v.sentOn? j ≠ some c := by
  have hkeeps : v.Sound ∧ v.Lost c ∧ v.sentOn? j ≠ some c :=
    keeps_after? (P := fun u => u.Sound ∧ u.Lost c ∧ u.sentOn? j ≠ some c)
      (fun ⟨hs, hlost, h⟩ hmove =>
        ⟨sound_move hs hmove, lost_move hs hlost hmove, spared_move hs hlost h hmove⟩)
      ⟨hs, hlost, h⟩ hmoves
  exact hkeeps.2.2

/-- Where no connection comes about, the call fails and the slot is free again. -/
theorem missed (h : s.phase? i = some .connecting)
    (why : (∃ e, event = .refused e) ∨ ∃ cause, event = .abandoned cause) :
    ∃ v e, s.move? (.happens i event) = some v ∧ v.store = { s.store with held := false } ∧
      v.phase? i = some (.finished (.error e)) := by
  obtain ⟨call, hcall, hphase⟩ := phase?_eq_some.1 h
  have hmoved (e : StoreError) (events : List LogEvent)
      (hstep : s.store.step? call.request .connecting event =
        some ({ s.store with held := false }, .finished (.error e), events)) :
      ∃ v e, s.move? (.happens i event) = some v ∧ v.store = { s.store with held := false } ∧
        v.phase? i = some (.finished (.error e)) :=
    ⟨_, e, move?_happens.2 ⟨call, _, _, _, hcall, hphase ▸ hstep, rfl⟩, rfl,
      by rw [phase?_happens hcall, if_pos rfl]⟩
  obtain ⟨e, rfl⟩ | ⟨cause, rfl⟩ := why
  · exact hmoved _ _ rfl
  · exact hmoved _ _ rfl

/-- A call that finds the slot free and empty can open a new connection for everyone. -/
theorem reopens (hfree : s.store.held = false) (hempty : s.store.cached = none)
    (h : s.phase? j = some .arriving) :
    ∃ v, s.after? [.happens j .turn, .happens j .connected] = some v ∧
      v.sentOn? j = some s.store.opened ∧ v.store.cached = some s.store.opened := by
  obtain ⟨call, hcall, hphase⟩ := phase?_eq_some.1 h
  have hturn : s.move? (.happens j .turn) =
      some ⟨{ s.store with held := true }, s.calls.set j (call.enter .connecting)⟩ :=
    move?_happens.2 ⟨call, _, _, [.opening], hcall,
      by simp [hphase, RemoteStore.step?, hfree, hempty], rfl⟩
  obtain ⟨store, source, hsend, hslot⟩ := RemoteStore.send_eq
    { s.store with held := false, cached := some s.store.opened, opened := s.store.opened + 1 }
    call.request s.store.opened
  have hcall' : (s.calls.set j (call.enter .connecting))[j]? = some (call.enter .connecting) := by
    rw [getElem?_happens hcall, if_pos rfl]
  have hconnected : move? ⟨{ s.store with held := true }, s.calls.set j (call.enter .connecting)⟩
      (.happens j .connected) = some ⟨store, (s.calls.set j (call.enter .connecting)).set j
        ((call.enter .connecting).enter (.commanding s.store.opened source))⟩ :=
    move?_happens.2 ⟨_, store, _, [], hcall',
      by simp [RemoteCall.enter, RemoteStore.step?, hsend], rfl⟩
  refine ⟨_, by rw [after?_cons, hturn, Option.bind_some, after?_cons, hconnected]; rfl, ?_,
    hslot.cached⟩
  rw [sentOn?_happens (s := ⟨s.store, s.calls.set j (call.enter .connecting)⟩) hcall', if_pos rfl]
  rfl

/-- A command that is answered, fails or is abandoned leaves the slot alone. -/
theorem commanded {c : ConnectionId} {source : String}
    (h : s.phase? i = some (.commanding c source)) (hmove : s.move? (.happens i event) = some v) :
    v.store = s.store := by
  obtain ⟨call, store, phase, events, hcall, hstep, rfl⟩ := move?_happens.1 hmove
  obtain ⟨call', hcall', hphase⟩ := phase?_eq_some.1 h
  obtain rfl : call' = call := Option.some.inj (hcall'.symm.trans hcall)
  have hpasses := RemoteStore.passes_of_step? hstep
  rw [hphase] at hpasses
  cases hpasses with
  | ends whole => rfl
  | breaks text => rfl

/-- A call that takes a connection out of the slot leaves none there, and returns that its own one
broke. -/
theorem emptied {c : ConnectionId} (hs : s.Sound) (hcached : s.store.cached = some c)
    (hmove : s.move? (.happens i event) = some v) (hgone : v.store.cached ≠ some c) :
    v.store.cached = none ∧ ∃ d text,
      (s.sentOn? i = some d ∧ s.phase? i = some (.discarding (.connection text))) ∧
        v.sentOn? i = some d ∧ v.phase? i = some (.finished (.error (.connection text))) := by
  obtain ⟨call, store, phase, events, hcall, hstep, rfl⟩ := move?_happens.1 hmove
  have hpasses := RemoteStore.passes_of_step? hstep
  have hstands := hs.stands i call hcall
  obtain ⟨failure, hphase, rfl⟩ := hpasses.discarding hcached hgone
    hs.tidy.empty fun hphase => (hstands.connecting hphase).2
  obtain ⟨⟨text, rfl⟩, d, hd⟩ := hstands.discarding failure hphase
  rw [hphase] at hpasses
  refine ⟨?_, d, text, ⟨?_, phase?_eq_some.2 ⟨call, hcall, hphase⟩⟩, ?_, ?_⟩
  · cases hpasses with
    | empties free => rfl
  · rw [sentOn?, hcall]
    exact hd
  · rw [sentOn?_happens hcall, if_pos rfl]
    exact hd
  · rw [phase?_happens hcall, if_pos rfl]

/-- **A broken connection is never handed out again.**  Of any calls on one store, in any order of
what happens to them: once a call has returned that the connection broke on which it sent its
command, no call that has no connection yet obtains this one.  Where no connection comes about the
slot is left free and empty, and any call that waits can open a new connection.  What happens to a
command under way leaves the slot alone, and a call that ever takes a connection out of the slot has
sent a command itself and returns, for good, that its connection broke. -/
theorem lost_for_good {moves : List RemoteMove} (h : initial.after? moves = some s) :
    (∀ c, s.Lost c → ∀ (more : List RemoteMove) (v : RemoteTraffic) (i : Nat),
      s.after? more = some v → s.sentOn? i = none → v.sentOn? i ≠ some c) ∧
    (∀ (i : Nat) (event : RemoteEvent), s.phase? i = some .connecting →
      ((∃ e, event = .refused e) ∨ ∃ cause, event = .abandoned cause) →
      ∃ v e, s.move? (.happens i event) = some v ∧ v.phase? i = some (.finished (.error e)) ∧
        v.store.cached = none ∧ v.store.held = false ∧
        ∀ j, v.phase? j = some .arriving →
          ∃ u, v.after? [.happens j .turn, .happens j .connected] = some u ∧
            u.sentOn? j = some v.store.opened ∧ u.store.cached = some v.store.opened) ∧
    (∀ (i : Nat) (event : RemoteEvent) (v : RemoteTraffic), s.move? (.happens i event) = some v →
      (∀ c source, s.phase? i = some (.commanding c source) → v.store = s.store) ∧
      (∀ c, s.store.cached = some c → v.store.cached ≠ some c →
        ∃ d text, v.sentOn? i = some d ∧ ∀ (more : List RemoteMove) (u : RemoteTraffic),
          v.after? more = some u → u.phase? i = some (.finished (.error (.connection text))))) := by
  have hs := sound_after sound_initial h
  refine ⟨fun c hlost more v i hmore hnone => ?_, fun i event hphase why => ?_,
    fun i event v hmove => ⟨fun c source hphase => commanded hphase hmove, fun c hcached hgone => ?_⟩⟩
  · have hnot : s.sentOn? i ≠ some c := by simp [hnone]
    exact spared_after hs hlost hnot hmore
  · obtain ⟨v, e, hmove, hstore, hend⟩ := missed hphase why
    have hempty : v.store.cached = none := by
      rw [hstore]
      exact hs.tidy.empty (hs.held hphase)
    have hfree : v.store.held = false := by rw [hstore]
    exact ⟨v, e, hmove, hend, hempty, hfree, fun j hj => reopens hfree hempty hj⟩
  · obtain ⟨-, d, text, -, hsent, hphase⟩ := emptied hs hcached hmove hgone
    exact ⟨d, text, hsent, fun more u hmore =>
      keeps_after? (fun h hmove => finished_move h hmove) hphase hmore⟩

/-- Two calls share connection 0, one reports that it broke, and the next call opens connection 1. -/
theorem lost_for_good_two_calls :
    ∃ s v : RemoteTraffic,
      initial.after? [.begin (.delete ["k"]), .begin (.delete ["k"]), .happens 0 .turn,
        .happens 0 .connected, .happens 1 .turn, .happens 0 (.failed (.broken "reset")),
        .happens 0 .turn] = some s ∧
      s.Lost 0 ∧ s.sentOn? 1 = some 0 ∧
      s.after? [.begin (.delete ["k"]), .happens 2 .turn, .happens 2 .connected] = some v ∧
      v.sentOn? 2 = some 1 ∧ v.sentOn? 2 ≠ some 0 := by
  have hrun : initial.after? [.begin (.delete ["k"]), .begin (.delete ["k"]), .happens 0 .turn,
      .happens 0 .connected, .happens 1 .turn, .happens 0 (.failed (.broken "reset")),
      .happens 0 .turn] =
    some ⟨⟨none, false, 1, []⟩, [⟨.delete ["k"], .finished (.error (.connection "reset")), some 0⟩,
      ⟨.delete ["k"], .commanding 0 "", some 0⟩]⟩ := rfl
  have hlost : Lost ⟨⟨none, false, 1, []⟩,
      [⟨.delete ["k"], .finished (.error (.connection "reset")), some 0⟩,
        ⟨.delete ["k"], .commanding 0 "", some 0⟩]⟩ 0 := ⟨0, "reset", rfl, rfl⟩
  refine ⟨_, ⟨⟨some 1, false, 2, []⟩,
      [⟨.delete ["k"], .finished (.error (.connection "reset")), some 0⟩,
        ⟨.delete ["k"], .commanding 0 "", some 0⟩,
        ⟨.delete ["k"], .commanding 1 "", some 1⟩]⟩,
    hrun, hlost, rfl, rfl, rfl, ?_⟩
  exact (lost_for_good hrun).1 0 hlost [.begin (.delete ["k"]), .happens 2 .turn,
    .happens 2 .connected] _ 2 rfl rfl

end RemoteTraffic

end Turnstile
