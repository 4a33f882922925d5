/-
**Which source a call runs.**

A remote store prepares a script under its name when a call first runs it, and a later call under
that name runs what was prepared.  So the store behaves like one that prepares every script afresh
as long as the name of a script determines its source; and a call under a name that another script
has taken before runs the source of the other one.

The store that prepares afresh is the same one with everything prepared forgotten after each move.
Its run is told exactly by the run with the cache: the slot and the phases are the same, and every
call under way has its own source.  In the run with the cache a call under way has the source of the
first script that was sent under its name.  The two agree on a call exactly if these sources do.

Main definitions:

* `Script.firstSource?` — the source of the first script of a name;
* `RemoteTraffic.sent` — the scripts that a run sends, in their order;
* `RemoteTraffic.afterAfresh?` — a run in which every script is prepared afresh;
* `RemoteTraffic.afresh` — calls with their own sources, and nothing prepared;
* `RemoteTraffic.Remembers` — what is prepared, and what calls run, are the first sources.

Main results:

* `RemoteTraffic.afterAfresh?_eq` — the run that prepares afresh, told by the run with the cache;
* `RemoteTraffic.remembers_after` — what every run keeps;
* `RemoteTraffic.afresh_iff_sources` — **the two runs agree at every moment exactly if no two
  scripts with one name and different sources are sent**;
* `RemoteTraffic.runs_other_source` — **a call can run a source that is not its own**.
-/

import Turnstile.Proofs.Remote.Connections

set_option relaxedAutoImplicit false
set_option autoImplicit false

namespace Turnstile

/-! ### The first source of a name -/

namespace Script

/-- The source of the first script of a name. -/
def firstSource? (scripts : List Script) (name : String) : Option String :=
  (scripts.find? fun t => t.name = name).map Script.source

theorem firstSource?_append (scripts more : List Script) (name : String) :
    firstSource? (scripts ++ more) name =
      (firstSource? scripts name).or (firstSource? more name) := by
  rw [firstSource?, List.find?_append]
  cases h : scripts.find? fun t => t.name = name with
  | none => simp [firstSource?, h]
  | some t => simp [firstSource?, h]

/-- A first source stays the first one whatever follows. -/
theorem firstSource?_mono {scripts more : List Script} {name source : String}
    (hmore : scripts <+: more) (h : firstSource? scripts name = some source) :
    firstSource? more name = some source := by
  obtain ⟨rest, rfl⟩ := hmore
  rw [firstSource?_append, h, Option.some_or]

theorem exists_of_firstSource? {scripts : List Script} {name source : String}
    (h : firstSource? scripts name = some source) :
    ∃ t ∈ scripts, t.name = name ∧ t.source = source := by
  obtain ⟨t, ht, hsource⟩ := Option.map_eq_some_iff.1 h
  exact ⟨t, List.mem_of_find?_eq_some ht, by simpa using List.find?_some ht, hsource⟩

theorem exists_firstSource?_of_mem {scripts : List Script} {t : Script} (h : t ∈ scripts) :
    ∃ source, firstSource? scripts t.name = some source := by
  have hsome : (scripts.find? fun u => u.name = t.name).isSome :=
    List.find?_isSome.2 ⟨t, h, by simp⟩
  obtain ⟨u, hu⟩ := Option.isSome_iff_exists.1 hsome
  exact ⟨u.source, by rw [firstSource?, hu, Option.map_some]⟩

end Script

/-! ### Preparing a script -/

namespace RemoteRequest

/-- The script that a call runs, if it runs one. -/
def script? : RemoteRequest → Option Script
  | .eval script _ _ => some script
  | .delete _ => none

/-- The source that a call runs if it prepares its script itself; a deletion runs none. -/
def ownSource : RemoteRequest → String
  | .eval script _ _ => script.source
  | .delete _ => ""

/-- The source that a call runs if scripts were prepared before it: the first one of its name. -/
def sourceAmong (scripts : List Script) : RemoteRequest → String
  | .eval script _ _ => (Script.firstSource? scripts script.name).getD script.source
  | .delete _ => ""

theorem ownSource_of_script? {request : RemoteRequest} {script : Script}
    (h : request.script? = some script) : request.ownSource = script.source := by
  cases request with
  | eval _ keys args =>
      obtain rfl := Option.some.inj h
      rfl
  | delete keys => exact nomatch h

theorem sourceAmong_of_script? {request : RemoteRequest} {script : Script} {scripts : List Script}
    {source : String} (h : request.script? = some script)
    (hfirst : Script.firstSource? scripts script.name = some source) :
    request.sourceAmong scripts = source := by
  cases request with
  | eval _ keys args =>
      obtain rfl := Option.some.inj h
      rw [sourceAmong, hfirst, Option.getD_some]
  | delete keys => exact nomatch h

end RemoteRequest

namespace RemoteStore

variable {s s' : RemoteStore} {request : RemoteRequest} {phase phase' : RemotePhase}
  {event : RemoteEvent} {events : List LogEvent} {c : ConnectionId}

/-- To prepare a script gives the source prepared under its name, or its own. -/
theorem prepare_fst (s : RemoteStore) (script : Script) :
    (s.prepare script).1 = (s.prepared.lookup script.name).getD script.source := by
  unfold prepare
  cases s.prepared.lookup script.name <;> rfl

/-- After a script was prepared there is a source under its name, and the others are as before. -/
theorem lookup_prepare (s : RemoteStore) (script : Script) (name : String) :
    (s.prepare script).2.prepared.lookup name =
      (s.prepared.lookup name).or (Script.firstSource? [script] name) := by
  unfold prepare
  cases h : s.prepared.lookup script.name with
  | some source =>
      by_cases hname : script.name = name
      · rw [← hname, h, Option.some_or]
      · simp [Script.firstSource?, hname]
  | none =>
      rw [List.lookup_append]
      by_cases hname : script.name = name
      · simp [Script.firstSource?, hname]
      · simp [Script.firstSource?, hname, List.lookup_cons, beq_eq_false_iff_ne.2 (Ne.symm hname)]

/-- An event leaves what is prepared alone, unless the call sends its command. -/
theorem sends_of_step? (h : s.step? request phase event = some (s', phase', events)) :
    (phase'.connection? = none ∧ s'.prepared = s.prepared) ∨
      ∃ (c : ConnectionId) (s₀ : RemoteStore),
        s₀.prepared = s.prepared ∧ s₀.send request c = (s', phase') := by
  cases passes_of_step? h with
  | @reuses s' c source free cached slot =>
      simp only [step?, free, cached, Bool.false_eq_true, if_false, Option.some.injEq,
        Prod.mk.injEq] at h
      exact Or.inr ⟨c, s, rfl, Prod.ext h.1 h.2.1⟩
  | connects slot =>
      simp only [step?, Option.some.injEq, Prod.mk.injEq] at h
      exact Or.inr ⟨s.opened,
        { s with held := false, cached := some s.opened, opened := s.opened + 1 }, rfl,
        Prod.ext h.1 h.2.1⟩
  | _ => exact Or.inl ⟨rfl, rfl⟩

/-- The source with which a call sends its command. -/
def sourceFor (s : RemoteStore) : RemoteRequest → String
  | .eval script _ _ => (s.prepare script).1
  | .delete _ => ""

theorem send_snd (s : RemoteStore) (request : RemoteRequest) (c : ConnectionId) :
    (s.send request c).2 = .commanding c (s.sourceFor request) := by
  cases request <;> rfl

/-- To send a command prepares the script of the call. -/
theorem lookup_send (s : RemoteStore) (request : RemoteRequest) (c : ConnectionId)
    (name : String) :
    (s.send request c).1.prepared.lookup name =
      (s.prepared.lookup name).or (Script.firstSource? request.script?.toList name) := by
  cases request with
  | eval script keys args => exact s.lookup_prepare script name
  | delete keys => exact (Option.or_none).symm

end RemoteStore

/-! ### What a run sends -/

namespace RemoteTraffic

variable {s v : RemoteTraffic} {i : Nat} {move : RemoteMove} {moves part : List RemoteMove}

/-- The script that a call has just sent, after a move of it: a command is under way only from the
move that sent it to the next one. -/
def launched? (v : RemoteTraffic) : RemoteMove → Option Script
  | .begin _ => none
  | .happens i _ => do
      let call ← v.calls[i]?
      if call.phase.connection?.isSome then call.request.script? else none

/-- The scripts that a run sends, in their order. -/
def sent (s : RemoteTraffic) : List RemoteMove → List Script
  | [] => []
  | move :: moves =>
      match s.move? move with
      | some v => (v.launched? move).toList ++ v.sent moves
      | none => []

theorem sent_cons (h : s.move? move = some v) (moves : List RemoteMove) :
    s.sent (move :: moves) = (v.launched? move).toList ++ v.sent moves := by
  rw [sent, h]

/-- What a part of a run sends is the beginning of what the run sends. -/
theorem sent_mono (h : part <+: moves) : s.sent part <+: s.sent moves := by
  induction part generalizing s moves with
  | nil => exact List.nil_prefix
  | cons move part ih =>
      obtain ⟨rest, rfl⟩ := h
      rw [List.cons_append]
      cases hmove : s.move? move with
      | none => simp [sent, hmove]
      | some v =>
          rw [sent_cons hmove, sent_cons hmove]
          exact (List.prefix_append_right_inj _).2 (ih (List.prefix_append part rest))

/-- A script is sent at the moment at which its call begins to command. -/
theorem exists_of_mem_sent {script : Script} (h : script ∈ s.sent moves) :
    ∃ part v call, part <+: moves ∧ s.after? part = some v ∧ call ∈ v.calls ∧
      call.request.script? = some script ∧ call.phase.connection?.isSome := by
  induction moves generalizing s with
  | nil => exact nomatch h
  | cons move moves ih =>
      cases hmove : s.move? move with
      | none => simp [sent, hmove] at h
      | some v =>
          rw [sent_cons hmove, List.mem_append, Option.mem_toList] at h
          obtain hnow | hlater := h
          · cases move with
            | begin request => exact nomatch hnow
            | happens i event =>
                simp only [launched?, Option.bind_eq_bind, Option.bind_eq_some_iff,
                  Option.ite_none_right_eq_some] at hnow
                obtain ⟨call, hcall, hsome, hscript⟩ := hnow
                exact ⟨[.happens i event], v, call, List.prefix_append _ moves, by simp [hmove],
                  List.mem_of_getElem? hcall, hscript, hsome⟩
          · obtain ⟨part, u, call, hpart, hafter, hrest⟩ := ih hlater
            exact ⟨move :: part, u, call, List.prefix_cons_inj move |>.2 hpart,
              by rw [after?_cons, hmove, Option.bind_some, hafter], hrest⟩

end RemoteTraffic

/-! ### What is remembered -/

/-- A call under way runs the first source of its script's name, and its script was sent. -/
structure RemoteCall.Runs (scripts : List Script) (call : RemoteCall) : Prop where
  source : ∀ c source, call.phase = .commanding c source →
    source = call.request.sourceAmong scripts
  among : call.phase.connection?.isSome → ∀ script, call.request.script? = some script →
    script ∈ scripts

namespace RemoteCall.Runs

variable {call : RemoteCall} {scripts more : List Script}

/-- A call that has not sent its command runs nothing yet. -/
theorem of_connection? (h : call.phase.connection? = none) : call.Runs scripts :=
  ⟨fun c source hphase => by simp [hphase, RemotePhase.connection?] at h,
    fun hsome => by simp [h] at hsome⟩

/-- What is sent later changes nothing for a call under way. -/
theorem mono (h : call.Runs scripts) (hmore : scripts <+: more) : call.Runs more := by
  refine ⟨fun c source hphase => ?_, fun hsome script hscript =>
    hmore.subset (h.among hsome script hscript)⟩
  have hsource := h.source c source hphase
  cases hscript : call.request.script? with
  | some script =>
      have hmem := h.among (by simp [hphase, RemotePhase.connection?]) script hscript
      obtain ⟨first, hfirst⟩ := Script.exists_firstSource?_of_mem hmem
      rw [hsource, RemoteRequest.sourceAmong_of_script? hscript hfirst,
        RemoteRequest.sourceAmong_of_script? hscript (Script.firstSource?_mono hmore hfirst)]
  | none =>
      cases hrequest : call.request with
      | eval script keys args => simp [hrequest, RemoteRequest.script?] at hscript
      | delete keys => rw [hsource, hrequest]; rfl

end RemoteCall.Runs

namespace RemoteTraffic

variable {s v : RemoteTraffic} {i : Nat} {move : RemoteMove} {moves part : List RemoteMove}
  {scripts : List Script}

/-- What is prepared are the first sources of the scripts sent, and so is what calls run. -/
structure Remembers (s : RemoteTraffic) (scripts : List Script) : Prop where
  prepared : ∀ name, s.store.prepared.lookup name = Script.firstSource? scripts name
  runs : ∀ call ∈ s.calls, call.Runs scripts

theorem remembers_initial : initial.Remembers [] := ⟨fun _ => rfl, nofun⟩

/-- What is prepared is prepared for the calls to come. -/
theorem Remembers.sourceFor (h : s.Remembers scripts) {store : RemoteStore}
    (hstore : store.prepared = s.store.prepared) (request : RemoteRequest) :
    store.sourceFor request = request.sourceAmong (scripts ++ request.script?.toList) := by
  cases request with
  | delete keys => rfl
  | eval script keys args =>
      have hlast : Script.firstSource? [script] script.name = some script.source := by
        simp [Script.firstSource?]
      rw [RemoteStore.sourceFor, RemoteStore.prepare_fst, hstore, h.prepared,
        RemoteRequest.sourceAmong, RemoteRequest.script?, Option.toList_some,
        Script.firstSource?_append, hlast]
      cases Script.firstSource? scripts script.name <;> rfl

theorem launched?_happens {call : RemoteCall} (hcall : s.calls[i]? = some call)
    (store : RemoteStore) (phase : RemotePhase) (event : RemoteEvent) :
    launched? ⟨store, s.calls.set i (call.enter phase)⟩ (.happens i event) =
      if phase.connection?.isSome then call.request.script? else none := by
  rw [launched?, getElem?_happens hcall, if_pos rfl]
  rfl

/-- What one move keeps: the scripts sent grow by the one that it sends. -/
theorem remembers_move (h : s.Remembers scripts) (hmove : s.move? move = some v) :
    v.Remembers (scripts ++ (v.launched? move).toList) := by
  cases move with
  | begin request =>
      rw [move?_begin, Option.some.injEq] at hmove
      subst hmove
      rw [launched?, Option.toList_none, List.append_nil]
      refine ⟨h.prepared, fun call hcall => ?_⟩
      rw [List.mem_append, List.mem_singleton] at hcall
      obtain hcall | rfl := hcall
      · exact h.runs call hcall
      · refine .of_connection? ?_
        obtain hstart | hstart := request.start_cases
        · rw [hstart]; rfl
        · rw [hstart]; rfl
  | happens i event =>
      obtain ⟨call, store, phase, events, hcall, hstep, rfl⟩ := move?_happens.1 hmove
      rw [launched?_happens hcall]
      have hothers (more : List Script) (hmoved : (call.enter phase).Runs (scripts ++ more)) :
          ∀ call' ∈ s.calls.set i (call.enter phase), call'.Runs (scripts ++ more) := by
        intro call' hcall'
        obtain hcall' | rfl := List.mem_or_eq_of_mem_set hcall'
        · exact (h.runs call' hcall').mono (List.prefix_append scripts more)
        · exact hmoved
      obtain ⟨hnone, hprepared⟩ | ⟨c, s₀, hprepared, hsend⟩ := RemoteStore.sends_of_step? hstep
      · refine ⟨fun name => ?_, hothers _ (.of_connection? hnone)⟩
        simp [hnone, hprepared, h.prepared]
      · have hphase : phase = .commanding c (s₀.sourceFor call.request) := by
          rw [← s₀.send_snd call.request c, hsend]
        have hsome : phase.connection?.isSome := by rw [hphase]; rfl
        rw [if_pos hsome]
        refine ⟨fun name => ?_,
          hothers _ ⟨fun c' source hphase' => ?_, fun _ script hscript => ?_⟩⟩
        · have hlookup := s₀.lookup_send call.request c name
          rwa [hsend, hprepared, h.prepared, ← Script.firstSource?_append] at hlookup
        · have hsource : s₀.sourceFor call.request = source := by
            rw [RemoteCall.enter, hphase, RemotePhase.commanding.injEq] at hphase'
            exact hphase'.2
          rw [← hsource, h.sourceFor hprepared]
          rfl
        · rw [RemoteCall.enter] at hscript
          simp [hscript]

/-- **What every run keeps**: what is prepared, and what calls run, are the first sources of the
scripts sent. -/
theorem remembers_after (h : s.Remembers scripts) (hrun : s.after? moves = some v) :
    v.Remembers (scripts ++ s.sent moves) := by
  induction moves generalizing s scripts with
  | nil =>
      obtain rfl := Option.some.inj hrun
      simpa [sent] using h
  | cons move moves ih =>
      rw [after?_cons, Option.bind_eq_some_iff] at hrun
      obtain ⟨u, hmove, hrest⟩ := hrun
      rw [sent_cons hmove, ← List.append_assoc]
      exact ih (remembers_move h hmove) hrest

end RemoteTraffic

/-! ### Preparing every script afresh -/

/-- The phase with another source under way. -/
def RemotePhase.withSource (source : String) : RemotePhase → RemotePhase
  | .commanding c _ => .commanding c source
  | phase => phase

theorem RemotePhase.withSource_eq_self {phase : RemotePhase} (h : phase.connection? = none)
    (source : String) : phase.withSource source = phase := by
  cases phase with
  | commanding c _ => exact nomatch h
  | _ => rfl

theorem RemotePhase.connection?_withSource (source : String) (phase : RemotePhase) :
    (phase.withSource source).connection? = phase.connection? := by
  cases phase <;> rfl

/-- The call with its own source under way. -/
def RemoteCall.afresh (call : RemoteCall) : RemoteCall :=
  { call with phase := call.phase.withSource call.request.ownSource }

theorem RemoteCall.enter_afresh (call : RemoteCall) (phase : RemotePhase) :
    call.afresh.enter (phase.withSource call.request.ownSource) = (call.enter phase).afresh := by
  rw [RemoteCall.enter, RemotePhase.connection?_withSource]
  rfl

/-- A call has its own source under way, or none, exactly if it is the same afresh. -/
theorem RemoteCall.afresh_eq_self_iff {call : RemoteCall} :
    call.afresh = call ↔
      ∀ c source, call.phase = .commanding c source → source = call.request.ownSource := by
  obtain ⟨request, phase, sentOn⟩ := call
  cases phase with
  | commanding c source =>
      simp [afresh, RemotePhase.withSource, eq_comm]
  | _ => exact ⟨nofun, fun _ => rfl⟩

/-- A call under way has its own source exactly if this is the first one of its script's name. -/
theorem RemoteCall.Runs.afresh_iff {call : RemoteCall} {scripts : List Script}
    (h : call.Runs scripts) :
    call.afresh = call ↔ call.phase.connection?.isSome → ∀ script,
      call.request.script? = some script →
        Script.firstSource? scripts script.name = some script.source := by
  rw [RemoteCall.afresh_eq_self_iff]
  constructor
  · intro hown hsome script hscript
    obtain ⟨first, hfirst⟩ := Script.exists_firstSource?_of_mem (h.among hsome script hscript)
    cases hphase : call.phase with
    | commanding c source =>
        have hsource := h.source c source hphase
        rw [RemoteRequest.sourceAmong_of_script? hscript hfirst] at hsource
        rw [hfirst, ← hsource, hown c source hphase,
          RemoteRequest.ownSource_of_script? hscript]
    | _ => simp [hphase, RemotePhase.connection?] at hsome
  · intro hfirst c source hphase
    rw [h.source c source hphase]
    cases hscript : call.request.script? with
    | some script =>
        rw [RemoteRequest.ownSource_of_script? hscript]
        exact RemoteRequest.sourceAmong_of_script? hscript
          (hfirst (by rw [hphase]; rfl) script hscript)
    | none =>
        cases hrequest : call.request with
        | eval script keys args => simp [hrequest, RemoteRequest.script?] at hscript
        | delete keys => rfl

namespace RemoteStore

/-- The store with nothing prepared. -/
def unprepared (s : RemoteStore) : RemoteStore := { s with prepared := [] }

variable {c : ConnectionId}

/-- To send a command changes nothing but what is prepared. -/
theorem unprepared_send (s : RemoteStore) (request : RemoteRequest) (c : ConnectionId) :
    (s.send request c).1.unprepared = s.unprepared := by
  cases request with
  | delete keys => rfl
  | eval script keys args =>
      change (s.prepare script).2.unprepared = s.unprepared
      unfold prepare
      cases s.prepared.lookup script.name <;> rfl

/-- With nothing prepared a call sends its own source. -/
theorem send_unprepared (s : RemoteStore) (request : RemoteRequest) (c : ConnectionId) :
    ((s.unprepared.send request c).1.unprepared, (s.unprepared.send request c).2) =
      ((s.send request c).1.unprepared, (s.send request c).2.withSource request.ownSource) := by
  rw [unprepared_send, unprepared_send]
  cases request <;> rfl

theorem connection?_fail (request : RemoteRequest) (e : RemoteError) :
    (fail request e).1.connection? = none := by
  unfold fail
  cases e.isBroken <;> rfl

/-- What an event does with nothing prepared is what it does with the cache, up to what is prepared
and to the source under way. -/
theorem step?_unprepared (s : RemoteStore) (request : RemoteRequest) (phase : RemotePhase)
    (event : RemoteEvent) :
    (s.unprepared.step? request (phase.withSource request.ownSource) event).map
        (fun r => (r.1.unprepared, r.2)) =
      (s.step? request phase event).map
        fun r => (r.1.unprepared, r.2.1.withSource request.ownSource, r.2.2) := by
  have hfail (e : RemoteError) :
      (fail request e).1.withSource request.ownSource = (fail request e).1 :=
    RemotePhase.withSource_eq_self (connection?_fail request e) _
  obtain ⟨cached, held, opened, prepared⟩ := s
  cases phase with
  | arriving =>
      cases event with
      | turn =>
          cases held with
          | true => rfl
          | false =>
              cases cached with
              | none => rfl
              | some c =>
                  exact congrArg (fun r => some (r.1, r.2, []))
                    (send_unprepared ⟨some c, false, opened, prepared⟩ request c)
      | _ => rfl
  | connecting =>
      cases event with
      | connected =>
          exact congrArg (fun r => some (r.1, r.2, []))
            (send_unprepared ⟨some opened, false, opened + 1, prepared⟩ request opened)
      | _ => rfl
  | commanding c source =>
      cases event with
      | replied r =>
          simp only [step?, RemotePhase.withSource]
          cases request.read r with
          | ok v => rfl
          | error e => exact congrArg some (Prod.ext rfl (Prod.ext (hfail e).symm rfl))
      | failed e => exact congrArg some (Prod.ext rfl (Prod.ext (hfail e).symm rfl))
      | _ => rfl
  | discarding failure =>
      cases event with
      | turn => cases held <;> rfl
      | _ => rfl
  | finished result => cases event <;> rfl

end RemoteStore

namespace RemoteTraffic

variable {s v : RemoteTraffic} {i : Nat} {move : RemoteMove} {moves part : List RemoteMove}
  {scripts : List Script}

/-- The calls with nothing prepared. -/
def unprepared (s : RemoteTraffic) : RemoteTraffic := { s with store := s.store.unprepared }

/-- The calls with their own sources under way, and nothing prepared. -/
def afresh (s : RemoteTraffic) : RemoteTraffic :=
  ⟨s.store.unprepared, s.calls.map RemoteCall.afresh⟩

/-- One move of a store that prepares every script afresh. -/
def moveAfresh? (s : RemoteTraffic) (move : RemoteMove) : Option RemoteTraffic :=
  (s.move? move).map unprepared

/-- One move after the other of a store that prepares every script afresh. -/
def afterAfresh? (s : RemoteTraffic) (moves : List RemoteMove) : Option RemoteTraffic :=
  moves.foldlM moveAfresh? s

/-- What happens to a call that is there. -/
theorem move?_of_getElem? {call : RemoteCall} (h : s.calls[i]? = some call) (event : RemoteEvent) :
    s.move? (.happens i event) = (s.store.step? call.request call.phase event).map
      fun r => ⟨r.1, s.calls.set i (call.enter r.2.1)⟩ := by
  rw [move?, h]
  cases hstep : s.store.step? call.request call.phase event <;> simp [hstep]

/-- A move of the store that prepares afresh is told by one of the store with the cache. -/
theorem moveAfresh?_afresh (s : RemoteTraffic) (move : RemoteMove) :
    s.afresh.moveAfresh? move = (s.move? move).map afresh := by
  cases move with
  | begin request =>
      have hstart : RemoteCall.afresh ⟨request, request.start, none⟩ =
          ⟨request, request.start, none⟩ := by
        refine RemoteCall.afresh_eq_self_iff.2 fun c source hphase => ?_
        obtain h | h := request.start_cases <;> exact nomatch h.symm.trans hphase
      rw [moveAfresh?, move?_begin, move?_begin, Option.map_some, Option.map_some, afresh, afresh,
        List.map_append, List.map_singleton, hstart]
      rfl
  | happens i event =>
      have hcalls : s.afresh.calls[i]? = s.calls[i]?.map RemoteCall.afresh := List.getElem?_map ..
      cases hcall : s.calls[i]? with
      | none => simp [moveAfresh?, move?, hcalls, hcall]
      | some call =>
          rw [hcall, Option.map_some] at hcalls
          have hset (phase : RemotePhase) :
              s.afresh.calls.set i (call.afresh.enter (phase.withSource call.request.ownSource)) =
                (s.calls.set i (call.enter phase)).map RemoteCall.afresh := by
            rw [List.map_set, RemoteCall.enter_afresh]
            rfl
          calc (s.afresh.move? (.happens i event)).map unprepared
              = ((s.store.unprepared.step? call.request
                    (call.phase.withSource call.request.ownSource) event).map
                  fun r => (r.1.unprepared, r.2)).map
                  fun r => ⟨r.1, s.afresh.calls.set i (call.afresh.enter r.2.1)⟩ := by
                rw [move?_of_getElem? hcalls, Option.map_map, Option.map_map]
                rfl
            _ = (s.store.step? call.request call.phase event).map fun r =>
                  ⟨r.1.unprepared, (s.calls.set i (call.enter r.2.1)).map RemoteCall.afresh⟩ := by
                rw [RemoteStore.step?_unprepared, Option.map_map]
                exact congrArg (Option.map · _) (funext fun r => by simp [hset])
            _ = (s.move? (.happens i event)).map afresh := by
                rw [move?_of_getElem? hcall, Option.map_map]
                rfl

theorem afterAfresh?_cons (s : RemoteTraffic) (move : RemoteMove) (moves : List RemoteMove) :
    s.afterAfresh? (move :: moves) = (s.moveAfresh? move).bind fun v => v.afterAfresh? moves := rfl

/-- **The run that prepares every script afresh, told by the run with the cache.** -/
theorem afterAfresh?_eq (s : RemoteTraffic) (moves : List RemoteMove) :
    s.afresh.afterAfresh? moves = (s.after? moves).map afresh := by
  induction moves generalizing s with
  | nil => rfl
  | cons move moves ih =>
      rw [afterAfresh?_cons, after?_cons, moveAfresh?_afresh]
      cases s.move? move with
      | none => rfl
      | some v => exact ih v

/-- **Prepared scripts are transparent exactly for names that determine sources.**  Of any calls on
one store, in any order of what happens to them: at every moment the calls are as far, with the same
results and the same sources under way, as on a store that prepares every script afresh, exactly if
no two scripts are sent that have one name and different sources.  In every run a call under way
runs the source of the first script that was sent under the name of its own. -/
theorem afresh_iff_sources (moves : List RemoteMove) :
    ((∀ part, part <+: moves →
        (initial.after? part).map calls = (initial.afterAfresh? part).map calls) ↔
      ∀ a ∈ initial.sent moves, ∀ b ∈ initial.sent moves,
        a.name = b.name → a.source = b.source) ∧
    ∀ s call script c source, initial.after? moves = some s → call ∈ s.calls →
      call.request.script? = some script → call.phase = .commanding c source →
      Script.firstSource? (initial.sent moves) script.name = some source := by
  have hremembers (part : List RemoteMove) (v : RemoteTraffic)
      (h : initial.after? part = some v) : v.Remembers (initial.sent part) := by
    simpa using remembers_after remembers_initial h
  have hafresh (part : List RemoteMove) :
      initial.afterAfresh? part = (initial.after? part).map afresh := afterAfresh?_eq initial part
  refine ⟨⟨fun hsame => ?_, fun hnames part hpart => ?_⟩,
    fun s call script c source hrun hcall hscript hphase => ?_⟩
  · -- each script was sent by a call that ran its own source, so this is the first of its name
    have hfirst (t : Script) (ht : t ∈ initial.sent moves) :
        Script.firstSource? (initial.sent moves) t.name = some t.source := by
      obtain ⟨part, v, call, hpart, hrun, hcall, hscript, hsome⟩ := exists_of_mem_sent ht
      have hcalls := hsame part hpart
      rw [hafresh, hrun, Option.map_some, Option.map_some, Option.map_some,
        Option.some.injEq] at hcalls
      have hself : call.afresh = call :=
        List.map_inj_left.1 (hcalls.symm.trans (List.map_id v.calls).symm) call hcall
      exact Script.firstSource?_mono (sent_mono hpart)
        ((((hremembers part v hrun).runs call hcall).afresh_iff).1 hself hsome t hscript)
    intro a ha b hb hname
    exact Option.some.inj (by rw [← hfirst a ha, ← hfirst b hb, hname])
  · rw [hafresh]
    cases hrun : initial.after? part with
    | none => rfl
    | some v =>
        have hv := hremembers part v hrun
        rw [Option.map_some, Option.map_some, Option.map_some, Option.some.injEq]
        refine (List.map_id v.calls).symm.trans (List.map_inj_left.2 fun call hcall => Eq.symm ?_)
        refine ((hv.runs call hcall).afresh_iff).2 fun hsome script hscript => ?_
        have hmem := (hv.runs call hcall).among hsome script hscript
        obtain ⟨source, hsource⟩ := Script.exists_firstSource?_of_mem hmem
        obtain ⟨t, ht, hname, rfl⟩ := Script.exists_of_firstSource? hsource
        have hsent := (sent_mono (s := initial) hpart).subset
        rw [hsource, hnames t (hsent ht) script (hsent hmem) hname]
  · have hruns := (hremembers moves s hrun).runs call hcall
    have hmem := hruns.among (by rw [hphase]; rfl) script hscript
    obtain ⟨first, hfirst⟩ := Script.exists_firstSource?_of_mem hmem
    rw [hfirst, hruns.source c source hphase,
      RemoteRequest.sourceAmong_of_script? hscript hfirst]

/-- Two scripts of one name are run, one after the other. -/
def oneNameTwice : List RemoteMove :=
  [.begin (.eval ⟨"s", "return 1"⟩ ["k"] []), .happens 0 .turn, .happens 0 .connected,
    .happens 0 (.replied (.int 1)), .begin (.eval ⟨"s", "return 2"⟩ ["k"] []), .happens 1 .turn]

/-- **A call can run a source that is not its own.** -/
theorem runs_other_source :
    ¬ ∀ (moves : List RemoteMove) (s : RemoteTraffic) (call : RemoteCall) (script : Script)
        (c : ConnectionId) (source : String), initial.after? moves = some s → call ∈ s.calls →
      call.request.script? = some script → call.phase = .commanding c source →
      source = script.source := by
  intro hclaim
  have hrun : initial.after? oneNameTwice = some ⟨⟨some 0, false, 1, [("s", "return 1")]⟩,
      [⟨.eval ⟨"s", "return 1"⟩ ["k"] [], .finished (.ok (.int 1)), some 0⟩,
        ⟨.eval ⟨"s", "return 2"⟩ ["k"] [], .commanding 0 "return 1", some 0⟩]⟩ := rfl
  have hsource := hclaim _ _ _ _ _ _ hrun
    (List.mem_cons_of_mem _ (List.mem_singleton_self _)) rfl rfl
  exact absurd hsource (by decide)

end RemoteTraffic

end Turnstile
