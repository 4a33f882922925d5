/-
**What a failure takes out of the slot.**

A call whose connection broke empties the slot.  Between the failure and its report other calls can
have emptied the slot already and opened a new connection, and it is this one that goes then.  So a
connection can leave the slot although no command on it ever failed: two calls share a connection
that breaks, the first one reports it, a third call opens a new connection, and the second one
reports the old failure.

This is the only way.  The slot holds the newest connection of all, and what goes is either the
connection that broke for the call that reports it, or a newer one.  The two are told apart by
whether a connection was opened while the call still held its own.

Main definitions:

* `RemoteTraffic.Broke` — a command on a connection has failed because the connection broke;
* `RemoteTraffic.Holds` — a call that has not ended holds a connection;
* `RemoteTraffic.Undisturbed` — no connection is opened while a call holds one.

Main results:

* `RemoteTraffic.discards_own_iff` — **a call discards its own connection exactly if no other was
  opened in the meantime**;
* `RemoteTraffic.unbroken_discarded` — **a connection can be discarded that never broke**.
-/

import Turnstile.Proofs.Remote.Connections

set_option relaxedAutoImplicit false
set_option autoImplicit false

namespace Turnstile

/-! ### The newest connection -/

namespace RemoteStore

/-- The slot holds no connection but the newest one. -/
def Newest (s : RemoteStore) : Prop := ∀ c, s.cached = some c → c + 1 = s.opened

variable {s s' : RemoteStore} {request : RemoteRequest} {phase phase' : RemotePhase}
  {event : RemoteEvent} {events : List LogEvent}

namespace Passes

/-- An event leaves no connection in the slot but the newest one. -/
theorem newest (h : s.Passes phase event s' phase') (hs : s.Newest) : s'.Newest := by
  intro c hc
  cases h with
  | reuses free cached slot =>
      rw [slot.opened]
      exact hs c (slot.cached ▸ hc)
  | connects slot =>
      rw [slot.cached, Option.some.injEq] at hc
      rw [slot.opened, ← hc]
  | empties free => exact nomatch hc
  | _ => exact hs c hc

/-- Where no connection is opened, none is new. -/
theorem opened_eq (h : s.Passes phase event s' phase') (hevent : event ≠ .connected) :
    s'.opened = s.opened := by
  cases h with
  | reuses free cached slot => exact slot.opened
  | connects slot => exact absurd rfl hevent
  | _ => rfl

/-- A call that sends its command has taken the newest connection. -/
theorem takes_newest (h : s.Passes phase event s' phase') (hs : s.Newest) {c : ConnectionId}
    (hc : phase'.connection? = some c) : c + 1 = s'.opened := by
  cases h with
  | reuses free cached slot =>
      rw [slot.opened]
      exact hs c (cached.trans hc)
  | connects slot =>
      rw [slot.opened, ← Option.some.inj hc]
  | _ => exact nomatch hc

end Passes

/-- An open connection is a new one. -/
theorem opened_of_connected
    (h : s.step? request phase .connected = some (s', phase', events)) :
    s'.opened = s.opened + 1 := by
  cases phase with
  | connecting =>
      cases passes_of_step? h with
      | connects slot => exact slot.opened
      | misses why =>
          obtain ⟨e, he⟩ | ⟨cause, hcause⟩ := why
          · exact nomatch he
          · exact nomatch hcause
  | _ => exact nomatch h

end RemoteStore

/-! ### Calls that hold a connection -/

namespace RemoteTraffic

variable {s v : RemoteTraffic} {i j : Nat} {event : RemoteEvent} {move : RemoteMove}
  {moves : List RemoteMove} {c d : ConnectionId}

/-- A command on a connection has failed because the connection broke. -/
def Broke (s : RemoteTraffic) (c : ConnectionId) : Prop :=
  ∃ i text, s.sentOn? i = some c ∧
    (s.phase? i = some (.discarding (.connection text)) ∨
      s.phase? i = some (.finished (.error (.connection text))))

/-- A call that has not ended holds the connection on which it has sent its command. -/
def Holds (s : RemoteTraffic) (i : Nat) (c : ConnectionId) : Prop :=
  s.sentOn? i = some c ∧ ∀ result, s.phase? i ≠ some (.finished result)

/-- In a run no connection is opened while a call holds one. -/
def Undisturbed (i : Nat) (s : RemoteTraffic) : List RemoteMove → Prop
  | [] => True
  | move :: moves =>
      (∀ k c, move = .happens k .connected → ¬ s.Holds i c) ∧
        ∀ v, s.move? move = some v → Undisturbed i v moves

/-- No move puts a connection into the slot but the newest one. -/
theorem newest_move (hs : s.store.Newest) (h : s.move? move = some v) : v.store.Newest := by
  cases move with
  | begin request =>
      rw [move?_begin, Option.some.injEq] at h
      exact h ▸ hs
  | happens i event =>
      obtain ⟨call, store, phase, events, hcall, hstep, rfl⟩ := move?_happens.1 h
      exact (RemoteStore.passes_of_step? hstep).newest hs

theorem newest_initial : initial.store.Newest := fun _ hc => nomatch hc

/-- In every run the slot holds no connection but the newest one. -/
theorem newest_after (h : initial.after? moves = some s) : s.store.Newest :=
  keeps_after? (P := fun u => u.store.Newest) (fun hs hmove => newest_move hs hmove)
    newest_initial h

/-- Connections are opened one after the other, and only by opening one. -/
theorem opened_move (h : s.move? move = some v) :
    s.store.opened ≤ v.store.opened ∧
      ((∀ k, move ≠ .happens k .connected) → v.store.opened = s.store.opened) := by
  cases move with
  | begin request =>
      rw [move?_begin, Option.some.injEq] at h
      subst h
      exact ⟨Nat.le_refl _, fun _ => rfl⟩
  | happens k event =>
      obtain ⟨call, store, phase, events, hcall, hstep, rfl⟩ := move?_happens.1 h
      have hpasses := RemoteStore.passes_of_step? hstep
      refine ⟨hpasses.slot.1, fun hquiet => hpasses.opened_eq ?_⟩
      rintro rfl
      exact hquiet k rfl

/-- A call holds a connection because it held it before, or because it has just taken the newest
one. -/
theorem holds_move (hs : s.store.Newest) (h : s.move? move = some v) (hc : v.Holds i c) :
    s.Holds i c ∨ c + 1 = v.store.opened := by
  obtain ⟨hsent, hlive⟩ := hc
  have hlive' : ∀ result, s.phase? i ≠ some (.finished result) :=
    fun result hend => hlive result (finished_move hend h)
  cases move with
  | begin request =>
      rw [move?_begin, Option.some.injEq] at h
      subst h
      rw [sentOn?_begin] at hsent
      exact Or.inl ⟨hsent, hlive'⟩
  | happens k event =>
      obtain ⟨call, store, phase, events, hcall, hstep, rfl⟩ := move?_happens.1 h
      rw [sentOn?_happens hcall] at hsent
      split at hsent
      · subst k
        cases hnew : phase.connection? with
        | some d =>
            have hnewest := (RemoteStore.passes_of_step? hstep).takes_newest hs hnew
            rw [hnew, Option.some_or, Option.some.injEq] at hsent
            exact Or.inr (hsent ▸ hnewest)
        | none =>
            rw [hnew, Option.none_or] at hsent
            refine Or.inl ⟨?_, hlive'⟩
            rw [sentOn?, hcall]
            exact hsent
      · exact Or.inl ⟨hsent, hlive'⟩

/-- A call that is not disturbed holds the newest connection. -/
theorem newest_of_undisturbed (hs : s.store.Newest)
    (hown : ∀ c, s.Holds i c → c + 1 = s.store.opened) (h : s.after? moves = some v)
    (hquiet : Undisturbed i s moves) (hc : v.Holds i c) : c + 1 = v.store.opened := by
  induction moves generalizing s with
  | nil =>
      obtain rfl := Option.some.inj h
      exact hown c hc
  | cons move moves ih =>
      rw [after?_cons, Option.bind_eq_some_iff] at h
      obtain ⟨u, hmove, hrest⟩ := h
      refine ih (newest_move hs hmove) (fun d hd => ?_) hrest (hquiet.2 u hmove)
      obtain hd | hd := holds_move hs hmove hd
      · rw [(opened_move hmove).2 fun k hk => hquiet.1 k d hk hd]
        exact hown d hd
      · exact hd

/-- A command was sent on no connection but one that was opened. -/
theorem lt_opened (hs : s.Sound) (h : s.sentOn? i = some c) : c < s.store.opened := by
  obtain ⟨call, hcall, hsent⟩ := Option.bind_eq_some_iff.1 h
  exact (hs.stands i call hcall).opened c hsent

/-- A call that is disturbed holds a connection that is not the newest one. -/
theorem older_of_disturbed (hs : s.Sound) (h : s.after? moves = some v)
    (hdisturbed : ¬ Undisturbed i s moves) :
    ∃ c, v.sentOn? i = some c ∧ c + 1 < v.store.opened := by
  induction moves generalizing s with
  | nil => exact absurd trivial hdisturbed
  | cons move moves ih =>
      rw [after?_cons, Option.bind_eq_some_iff] at h
      obtain ⟨u, hmove, hrest⟩ := h
      have hu := sound_move hs hmove
      by_cases hnow : ∀ k c, move = .happens k .connected → ¬ s.Holds i c
      · refine ih hu hrest fun hquiet => hdisturbed ⟨hnow, fun u' hmove' => ?_⟩
        obtain rfl : u = u' := Option.some.inj (hmove.symm.trans hmove')
        exact hquiet
      · simp only [Classical.not_forall, Classical.not_not] at hnow
        obtain ⟨k, c, rfl, hsent, -⟩ := hnow
        have hnew : u.store.opened = s.store.opened + 1 := by
          obtain ⟨call, store, phase, events, hcall, hstep, rfl⟩ := move?_happens.1 hmove
          exact RemoteStore.opened_of_connected hstep
        have hlt : c + 1 < u.store.opened := hnew ▸ Nat.succ_lt_succ (lt_opened hs hsent)
        have hkeeps : v.Sound ∧ v.sentOn? i = some c ∧ c + 1 < v.store.opened :=
          keeps_after? (P := fun u => u.Sound ∧ u.sentOn? i = some c ∧ c + 1 < u.store.opened)
            (fun ⟨hs, hsent, hlt⟩ hmove => ⟨sound_move hs hmove, sentOn?_move hs hsent hmove,
              Nat.lt_of_lt_of_le hlt (opened_move hmove).1⟩)
            ⟨hu, sentOn?_move hs hsent hmove, hlt⟩ hrest
        exact ⟨c, hkeeps.2⟩

/-! ### What is taken out of the slot -/

/-- **A call discards its own connection exactly if no other was opened in the meantime.**  Of any
calls on one store, in any order of what happens to them: whenever a connection leaves the slot, the
slot is left empty by a call that sent a command on a connection and reports that this one broke.
The connection that leaves is this one or was opened after it, and it is this one exactly if no
connection was opened while the call held its own; then a command on the connection that leaves has
failed because it broke. -/
theorem discards_own_iff (h : initial.after? moves = some s) (hcached : s.store.cached = some c)
    (hmove : s.move? (.happens i event) = some v) (hgone : v.store.cached ≠ some c) :
    v.store.cached = none ∧
      (∃ d text, s.sentOn? i = some d ∧ s.phase? i = some (.discarding (.connection text)) ∧
        d ≤ c ∧ (d = c ↔ Undisturbed i initial moves)) ∧
      (Undisturbed i initial moves → s.Broke c) := by
  have hs := sound_after sound_initial h
  have hnewest := newest_after h c hcached
  obtain ⟨hempty, d, text, ⟨hsent, hphase⟩, -⟩ := emptied hs hcached hmove hgone
  have hle : d ≤ c := Nat.le_of_lt_succ (Nat.lt_of_lt_of_eq (lt_opened hs hsent) hnewest.symm)
  have hown : d = c ↔ Undisturbed i initial moves := by
    constructor
    · rintro rfl
      refine Classical.byContradiction fun hdisturbed => ?_
      obtain ⟨d', hsent', hlt⟩ := older_of_disturbed sound_initial h hdisturbed
      obtain rfl : d = d' := Option.some.inj (hsent.symm.trans hsent')
      exact Nat.ne_of_lt hlt hnewest
    · intro hquiet
      have hholds : s.Holds i d := ⟨hsent, fun result hend => by simp [hphase] at hend⟩
      have hd := newest_of_undisturbed newest_initial (fun _ hc => nomatch hc.1) h hquiet hholds
      exact Nat.succ.inj (hd.trans hnewest.symm)
  refine ⟨hempty, ⟨d, text, hsent, hphase, hle, hown⟩, fun hquiet => ?_⟩
  exact ⟨i, text, hown.2 hquiet ▸ hsent, Or.inl hphase⟩

/-- Two calls share connection 0, the first one reports that it broke, a third one opens connection
1, and the second one is about to report what it met on connection 0. -/
def staleReport : List RemoteMove :=
  [.begin (.delete ["k"]), .begin (.delete ["k"]), .happens 0 .turn, .happens 0 .connected,
    .happens 1 .turn, .happens 0 (.failed (.broken "reset")),
    .happens 1 (.failed (.broken "reset")), .happens 0 .turn, .begin (.delete ["k"]),
    .happens 2 .turn, .happens 2 .connected]

/-- A call alone on the store discards the connection that broke for it. -/
theorem discards_own_iff_alone :
    ∃ s v : RemoteTraffic,
      initial.after? [.begin (.delete ["k"]), .happens 0 .turn, .happens 0 .connected,
        .happens 0 (.failed (.broken "reset"))] = some s ∧
      s.store.cached = some 0 ∧ s.move? (.happens 0 .turn) = some v ∧ v.store.cached ≠ some 0 ∧
      v.store.cached = none ∧ s.Broke 0 := by
  have hrun : initial.after? [.begin (.delete ["k"]), .happens 0 .turn, .happens 0 .connected,
      .happens 0 (.failed (.broken "reset"))] = some ⟨⟨some 0, false, 1, []⟩,
        [⟨.delete ["k"], .discarding (.connection "reset"), some 0⟩]⟩ := rfl
  have hquiet : Undisturbed 0 initial [.begin (.delete ["k"]), .happens 0 .turn,
      .happens 0 .connected, .happens 0 (.failed (.broken "reset"))] := by
    refine ⟨nofun, ?_⟩
    rintro _ ⟨⟩
    refine ⟨nofun, ?_⟩
    rintro _ ⟨⟩
    -- when the connection is opened the call holds none
    refine ⟨fun _ _ _ hholds => (nomatch hholds.1), ?_⟩
    rintro _ ⟨⟩
    exact ⟨nofun, fun _ _ => trivial⟩
  have hturn : move? ⟨⟨some 0, false, 1, []⟩,
      [⟨.delete ["k"], .discarding (.connection "reset"), some 0⟩]⟩ (.happens 0 .turn) =
    some ⟨⟨none, false, 1, []⟩,
      [⟨.delete ["k"], .finished (.error (.connection "reset")), some 0⟩]⟩ := rfl
  obtain ⟨hempty, -, hbroke⟩ := discards_own_iff (c := 0) hrun rfl hturn nofun
  exact ⟨_, _, hrun, rfl, hturn, nofun, hempty, hbroke hquiet⟩

/-- **A connection can be discarded that never broke.** -/
theorem unbroken_discarded :
    ¬ ∀ (moves : List RemoteMove) (s v : RemoteTraffic) (i : Nat) (event : RemoteEvent)
        (c : ConnectionId), initial.after? moves = some s → s.store.cached = some c →
      s.move? (.happens i event) = some v → v.store.cached ≠ some c → s.Broke c := by
  intro hclaim
  have hrun : initial.after? staleReport = some ⟨⟨some 1, false, 2, []⟩,
      [⟨.delete ["k"], .finished (.error (.connection "reset")), some 0⟩,
        ⟨.delete ["k"], .discarding (.connection "reset"), some 0⟩,
        ⟨.delete ["k"], .commanding 1 "", some 1⟩]⟩ := rfl
  obtain ⟨j, text, hsent, hphase⟩ := hclaim _ _ _ 1 .turn 1 hrun rfl rfl nofun
  -- of the three calls only the last one has sent on connection 1, and its command is under way
  match j with
  | 0 => exact nomatch hsent
  | 1 => exact nomatch hsent
  | 2 =>
      obtain h | h := hphase
      · exact nomatch h
      · exact nomatch h
  | _ + 3 => exact nomatch hsent

end RemoteTraffic

end Turnstile
