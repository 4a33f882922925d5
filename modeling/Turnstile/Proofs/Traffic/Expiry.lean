/-
**Which entries of a store expire.**

An idle key should leave nothing behind: whatever was stored for it carries an expiry, which is set
when a call is admitted.  In every state that runs of any calls on any keys come to, every entry
carries the expiry of the last admission of the key that it is booked to, with one exception.  A
call for more than its limit adds to the counter and takes back what it added.  Where there was no
counter before, a zero is left, and as nothing was admitted nothing sets its expiry.

Main definitions:

* `Event.lastCharge?` — the last event of a key that charges it;
* `Event.Lapses`, `Bid.Over` — when this lapses, and which keys ask over their limits.

Main results:

* `Traffic.booked_step`, `Traffic.booked_after` — **runs keep the entries booked**;
* `Traffic.expires_unless_over` — **every entry expires but the zeros of calls over their limits**,
  and these calls do leave them.
-/

import Turnstile.Proofs.Limiter.Booking
import Turnstile.Proofs.Traffic.Run

set_option relaxedAutoImplicit false
set_option autoImplicit false

namespace Turnstile

open SlidingScript (counterKey)

/-! ### The last charge of a key -/

namespace Event

/-- The last event of a key that charges it. -/
def lastCharge? (key : String) (es : List Event) : Option Event :=
  (es.filter fun e => e.key = key ∧ 0 < e.charge).getLast?

variable {key : String} {es : List Event} {e : Event}

theorem lastCharge?_append (hkey : e.key = key) (hpos : 0 < e.charge) (es : List Event) :
    lastCharge? key (es ++ [e]) = some e := by
  simp [lastCharge?, List.filter_append, hkey, hpos]

theorem lastCharge?_append_of_not (h : e.key = key → e.charge = 0) (es : List Event) :
    lastCharge? key (es ++ [e]) = lastCharge? key es := by
  have hno : ¬ (e.key = key ∧ 0 < e.charge) := fun ⟨hkey, hpos⟩ => by
    rw [h hkey] at hpos
    exact Nat.lt_irrefl 0 hpos
  simp [lastCharge?, List.filter_append, hno]

theorem mem_of_lastCharge? (h : lastCharge? key es = some e) :
    e ∈ es ∧ e.key = key ∧ 0 < e.charge := by
  have hmem := List.mem_filter.1 (List.mem_of_getLast? h)
  simpa using hmem

/-- The last charge of a key lapses at a time, if it was made for an allowed bid. -/
def Lapses (allowed : Bid → Prop) (es : List Event) (key : String) (t : Nat) : Prop :=
  ∃ e, lastCharge? key es = some e ∧
    ∃ b, allowed b ∧ b.key = key ∧ t = Account.lapseAfter e.time b.window

end Event

/-- An allowed bid for a key asks for more than its limit, in a window of a millisecond at least. -/
def Bid.Over (allowed : Bid → Prop) (key : String) : Prop :=
  ∃ b, allowed b ∧ b.key = key ∧ 1 ≤ b.window.millis ∧ Account.word b.limit < Account.word b.n

/-! ### Runs -/

namespace Traffic

variable {allowed : Bid → Prop}

/-- **One move keeps the entries booked.** -/
theorem booked_step {t : Traffic} {s : Setting} {m : Move} {es : List Event}
    (hm : ∀ b ∈ m.bid?, allowed b) (hpaused : t.paused.Sound allowed)
    (h : t.keyspace.Booked (Event.Lapses allowed es) (Bid.Over allowed)) :
    (t.step s m).2.keyspace.Booked (Event.Lapses allowed (es ++ [t.event s m]))
      (Bid.Over allowed) := by
  have hidle (hzero : (t.event s m).charge = 0) (key : String) (lapse : Nat)
      (hlapse : Event.Lapses allowed es key lapse) :
      Event.Lapses allowed (es ++ [t.event s m]) key lapse := by
    obtain ⟨e, he, hb⟩ := hlapse
    exact ⟨e, (Event.lastCharge?_append_of_not (fun _ => hzero) es).trans he, hb⟩
  cases Move.effect hm hpaused s with
  | silent e run charge _ _ =>
      have hafter : (t.step s m).2.keyspace = t.keyspace := congrArg Prod.snd (run t.keyspace)
      have hcharge := congrArg (fun r => r.1.charge) (run t.keyspace)
      exact hafter ▸ h.mono (hidle (hcharge.trans charge))
  | clears e _ run charge _ _ =>
      have hafter : (t.step s m).2.keyspace = t.keyspace.without m.key :=
        congrArg Prod.snd (run t.keyspace)
      have hcharge := congrArg (fun r => r.1.charge) (run t.keyspace)
      exact hafter ▸ (h.without m.key).mono (hidle (hcharge.trans charge))
  | asks b v f hb ok made run ends =>
      have hafter : (t.step s m).2.keyspace = (v.pay t.keyspace).2 :=
        congrArg Prod.snd (run t.keyspace)
      have hcharge : (t.event s m).charge = (f (v.pay t.keyspace).1).charge :=
        congrArg (fun r => r.1.charge) (run t.keyspace)
      have hkey : v.key = m.key := made.key.trans hb
      rw [hafter]
      refine h.pay (fun hwindow hover => ?_) (fun hnot => ?_) (fun key lapse hne hlapse => ?_)
        fun hadmitted => ?_
      · exact ⟨b, ok, made.key.symm, made.window ▸ hwindow, made.limit ▸ made.n ▸ hover⟩
      · exact hidle (hcharge.trans ((ends _).other fun h => hnot (Option.some.inj h)))
      · -- a charge of this key is none of another one
        obtain ⟨e, he, hb⟩ := hlapse
        have hother : (t.event s m).key ≠ key := fun heq => hne (heq.symm.trans hkey.symm)
        exact ⟨e, (Event.lastCharge?_append_of_not (absurd · hother) es).trans he, hb⟩
      · have hpos : 0 < (t.event s m).charge := by
          rw [hcharge, (ends _).admitted (congrArg some hadmitted), ← made.n]
          exact (Visit.bar?_eq_none_iff.1 (Visit.bar?_of_pay_ok hadmitted)).1.1
        exact ⟨t.event s m, Event.lastCharge?_append hkey.symm hpos es, b, ok, made.key.symm, by
          rw [made.time, made.window]
          rfl⟩

/-- **A run keeps the entries booked.** -/
theorem booked_after {t : Traffic} {xs : List (Setting × Move)} {es : List Event}
    (hbids : ∀ x ∈ xs, ∀ b ∈ x.2.bid?, allowed b) (hpaused : t.paused.Sound allowed)
    (h : t.keyspace.Booked (Event.Lapses allowed es) (Bid.Over allowed)) :
    (t.after xs).keyspace.Booked (Event.Lapses allowed (es ++ t.events xs)) (Bid.Over allowed) := by
  induction xs generalizing t es with
  | nil => simpa [events, after] using h
  | cons x rest ih =>
      obtain ⟨s, m⟩ := x
      obtain ⟨hm, hbids⟩ := List.forall_mem_cons.1 hbids
      have hafter := ih hbids (sound_step hm hpaused s) (booked_step hm hpaused h (s := s))
      simpa [events, after] using hafter

/-- The call for a bid with which a run may begin. -/
def opening (b : Bid) : Setting × Move :=
  (World.start 0 0 [], .allowN .plain 0 b.key b.n b.limit b.window)

/-- A run that begins with a call for more than its limit begins with a denial, and leaves a zero
that never expires. -/
theorem opening_denied {b : Bid} (hwindow : 1 ≤ b.window.millis)
    (hover : Account.word b.limit < Account.word b.n) :
    (start.step (opening b).1 (opening b).2).1.told = some (.decided b.n (.ok false)) ∧
      (start.after [opening b]).keyspace.get? (counterKey b.key) = some ⟨.int 0, none⟩ := by
  have hn : 1 ≤ b.n := by
    unfold Account.word at hover
    omega
  have hbar : (Visit.within (World.start 0 0 []) .system 0 b.key b.n b.limit b.window).bar? =
      none := Visit.bar?_eq_none_iff.2 ⟨⟨hn, hwindow⟩, rfl, rfl⟩
  obtain ⟨hdenied, hzero⟩ := Keyspace.pay_empty_of_lt hbar hover
  have hstep := step_allowN start (World.start 0 0 []) .plain 0 b.key b.n b.limit b.window
  constructor
  · exact (congrArg (fun r => r.1.told) hstep).trans
      (congrArg (fun answer => some (Notice.decided b.n answer)) hdenied)
  · exact (congrArg (fun r => r.2.keyspace.get? (counterKey b.key)) hstep).trans hzero

/-- **Every entry expires, but the zeros of calls over their limits.**  Whatever allowed calls are
made on whatever keys, an entry that never expires is a zero under the counter key of a key that a
call may ask for more than its limit.  So all entries of all runs expire exactly if no call may ask
for more than its limit. -/
theorem expires_unless_over (allowed : Bid → Prop) :
    (∀ xs : List (Setting × Move), (∀ x ∈ xs, ∀ b ∈ x.2.bid?, allowed b) →
      ∀ place e, (start.after xs).keyspace.get? place = some e → e.expiresAt.isSome ∨
        e.value = .int 0 ∧ ∃ b, allowed b ∧ place = counterKey b.key ∧ 1 ≤ b.window.millis ∧
          Account.word b.limit < Account.word b.n) ∧
    ((∀ xs : List (Setting × Move), (∀ x ∈ xs, ∀ b ∈ x.2.bid?, allowed b) →
        ∀ place e, (start.after xs).keyspace.get? place = some e → e.expiresAt.isSome) ↔
      ∀ b, allowed b → 1 ≤ b.window.millis → Account.word b.n ≤ Account.word b.limit) := by
  have hbooked (xs : List (Setting × Move)) (hbids : ∀ x ∈ xs, ∀ b ∈ x.2.bid?, allowed b)
      (place : String) (e : Entry) (he : (start.after xs).keyspace.get? place = some e) :
      e.expiresAt.isSome ∨ e.value = .int 0 ∧ ∃ b, allowed b ∧ place = counterKey b.key ∧
        1 ≤ b.window.millis ∧ Account.word b.limit < Account.word b.n := by
    cases booked_after hbids (sound_start _) (Keyspace.booked_empty (Event.Lapses allowed []) _)
      place e he with
    | markers => exact Or.inl rfl
    | counter => exact Or.inl rfl
    | zero key hplace asked =>
        obtain ⟨b, hb, rfl, hover⟩ := asked
        exact Or.inr ⟨rfl, b, hb, hplace, hover⟩
  refine ⟨hbooked, fun hexpires b hb hwindow => ?_, fun hfit xs hbids place e he => ?_⟩
  · refine Nat.le_of_not_lt fun hover => ?_
    have hnone := hexpires [opening b] (by simpa [opening, Move.bid?] using hb) _ _
      (opening_denied hwindow hover).2
    exact absurd hnone (by decide)
  · rcases hbooked xs hbids place e he with hsome | ⟨-, b, hb, -, hwindow, hover⟩
    · exact hsome
    · exact absurd hover (Nat.not_lt.2 (hfit b hb hwindow))

/-- A call for two events of a key under a limit of one is denied, and for ever after the counter of
the key is there. -/
theorem contains_after_denial :
    let b : Bid := ⟨"k", 2, 1, Duration.ofMillis 1000⟩
    (start.step (opening b).1 (opening b).2).1.told = some (.decided 2 (.ok false)) ∧
      ∀ now, ((start.after [opening b]).keyspace.contains now "k:counter").1 = true := by
  intro b
  obtain ⟨htold, hzero⟩ := opening_denied (show 1 ≤ b.window.millis by decide) (by decide)
  have hplace : counterKey b.key = "k:counter" := by decide
  rw [hplace] at hzero
  refine ⟨htold, fun now => ?_⟩
  simp only [Keyspace.contains, Keyspace.purge_eq, Keyspace.get?_assign_self, hzero]
  rfl

end Traffic

end Turnstile
