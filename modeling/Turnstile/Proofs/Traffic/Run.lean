/-
**Runs of many calls on one store.**

Many callers share a store.  A run is a sequence of moves: a call that never pauses, the beginning
of one that may, what follows a pause, or the end of a call that is dropped at a pause.  Moves of
different calls come in any order, and each is made in the setting that it meets, so contexts,
clocks, faults and sleepers are whatever they are at that point.  Only the entries of the store and
the calls at pauses are kept from move to move.

A move makes at most one decision, pursues the bid of its call and charges its key what the decision
admits; or it is a reset that empties the slots of its key; or it leaves the store alone.

Main definitions:

* `Ticket`, `Task` — a call that may pause, by name and by what is left of it;
* `Move`, `Move.work` — a move and its work on the store;
* `Notice`, `Notice.charge` — what a caller is told at the end, and what is charged by it;
* `Traffic`, `Traffic.step`, `Traffic.events`, `Traffic.after` — runs;
* `Move.Effect` — what a move does;
* `Account.Moves` — what it does to the account that the slots of a key show.

Main results:

* `Move.effect` — **a move decides once about its bid, empties the slots of its key, or leaves the
  store alone**;
* `Traffic.sound_step` — the calls at pauses go on pursuing the bids they began with;
* `Traffic.moves_step` — a move moves the account of a key.
-/

import Turnstile.Proofs.Admission.Stretch

set_option relaxedAutoImplicit false
set_option autoImplicit false

namespace Turnstile

/-! ### Calls and what they tell -/

/-- The name of a call that may pause: its limiter key and a number. -/
structure Ticket where
  key : String
  number : Nat
  deriving DecidableEq

/-- What is left of a call at a pause. -/
inductive Task
  | waiting (w : Wait)
  | requesting (l : Layer SlidingWindow) (a : Admitting Wait)

/-- What a caller is told at the end of a call: the answer to a call for a decision about `n`
events, to a wait, to a reset, or the answer of the limiter and the verdict on a request. -/
inductive Notice
  | decided (n : Nat) (answer : Except LimiterError Bool)
  | waited (answer : Except LimiterError Unit)
  | judged (l : Layer SlidingWindow) (answer : Except LimiterError Bool) (verdict : Verdict)
  | cleared (answer : Except LimiterError Unit)

namespace Notice

/-- What an answer charges its key: the events of an admitted call for a decision, one event of a
wait, and of an admitted request its cost in reject mode and one event in wait mode. -/
def charge : Notice → Nat
  | .decided n (.ok true) => n
  | .waited (.ok _) => 1
  | .judged l (.ok true) _ => if l.waitMode then 1 else l.cost
  | _ => 0

/-- Whether an answer says that its key was reset. -/
def clears : Notice → Bool
  | .cleared (.ok _) => true
  | _ => false

end Notice

/-- What a move comes to: what the caller is told, or what is left at a pause. -/
structure Landing where
  told : Option Notice
  left : Option Task

namespace Landing

/-- Nothing is told and nothing is left. -/
def empty : Landing := ⟨none, none⟩

/-- What a stretch of a call comes to. -/
def ofTurn : Turn Task Notice → Landing
  | .done notice => ⟨some notice, none⟩
  | .pause _ task => ⟨none, some task⟩

/-- What a move charges its key. -/
def charge (e : Landing) : Nat := (e.told.map Notice.charge).getD 0

/-- Whether a move says that its key was reset. -/
def clears (e : Landing) : Bool := (e.told.map Notice.clears).getD false

end Landing

variable {σ : Type}

/-- A stretch of asking the limiter, with what is told about it: the verdict is concluded from the
answer as in `Layer.follow`. -/
def Layer.tell (l : Layer SlidingWindow) (key : String) :
    Turn (Admitting Wait) (Except LimiterError Bool) → Act σ (Turn Task Notice)
  | .done answer => return .done (.judged l answer (← l.conclude key answer))
  | .pause on rest => return .pause on (.requesting l rest)

/-- What is told about an answer: this, and the verdict of the layer on it. -/
theorem Layer.told_tell_done (l : Layer SlidingWindow) (key : String)
    (result : Except LimiterError Bool) (w : World σ) :
    (Landing.ofTurn (l.tell key (.done result) w).1).told =
      some (.judged l result (l.verdict key result)) := by
  simp only [tell, Act.bind_apply, conclude_verdict]
  rfl

namespace Task

/-- A stretch of a wait, with what is told about it. -/
def ofWait (turn : Turn Wait (Except LimiterError Unit)) : Turn Task Notice :=
  turn.map .waiting .waited

/-- Goes on after a pause. -/
def resume : Task → Wake → Act MemoryStore (Turn Task Notice)
  | .waiting w, wake => return ofWait (← w.resume wake)
  | .requesting l a, wake => do l.tell a.key (← l.askOn a wake)

/-- Gives a call up. -/
def abandon : Task → Act MemoryStore Unit
  | .waiting w => w.abandon
  | .requesting l a => l.abandon a

end Task

/-! ### Moves -/

/-- One move: a whole call for a decision, a whole reset, the first stretch of a wait or of a
request that get a number, what follows a pause, or the end of a call that is dropped. -/
inductive Move
  | allowN (l : SlidingWindow) (ctx : ContextId) (key : String) (n limit : Nat) (window : Duration)
  | reset (l : SlidingWindow) (ctx : ContextId) (key : String)
  | wait (number : Nat) (l : SlidingWindow) (ctx : ContextId) (key : String) (limit : Nat)
      (window : Duration)
  | request (number : Nat) (l : Layer SlidingWindow) (parent : ContextId) (caller : Caller)
  | resume (ticket : Ticket) (wake : Wake)
  | abandon (ticket : Ticket)

/-- The calls at pauses, by name. -/
abbrev Paused := Ticket → Option Task

/-- The calls at pauses after a move of one of them. -/
def Paused.set (paused : Paused) (ticket : Ticket) (task : Option Task) : Paused := fun t =>
  if t = ticket then task else paused t

namespace Move

/-- The name of the call that moves, if it may pause. -/
def ticket? : Move → Option Ticket
  | .allowN .. | .reset .. => none
  | .wait number _ _ key .. => some ⟨key, number⟩
  | .request number l _ caller => some ⟨l.key caller, number⟩
  | .resume ticket _ | .abandon ticket => some ticket

/-- The limiter key of the call that moves. -/
def key : Move → String
  | .allowN _ _ key .. | .reset _ _ key | .wait _ _ _ key .. => key
  | .request _ l _ caller => l.key caller
  | .resume ticket _ | .abandon ticket => ticket.key

/-- Whether a move is a reset. -/
def resets : Move → Bool
  | .reset .. => true
  | _ => false

/-- What the call asks for that begins with a move. -/
def bid? : Move → Option Bid
  | .allowN _ _ key n limit window => some ⟨key, n, limit, window⟩
  | .wait _ _ _ key limit window => some ⟨key, 1, limit, window⟩
  | .request _ l _ caller => some (l.bid (l.key caller))
  | _ => none

/-- The work of a move. -/
def work (paused : Paused) : Move → Act MemoryStore Landing
  | .allowN l ctx key n limit window =>
      return ⟨some (.decided n (← l.allowN ctx key n limit window)), none⟩
  | .reset l ctx key => return ⟨some (.cleared (← l.reset ctx key)), none⟩
  | .wait _ l ctx key limit window =>
      return .ofTurn (Task.ofWait (← Wait.start l ctx key limit window))
  | .request _ l parent caller => do
      let turn ← l.ask parent (l.key caller)
      return .ofTurn (← l.tell (l.key caller) turn)
  | .resume ticket wake =>
      match paused ticket with
      | some task => return .ofTurn (← task.resume wake)
      | none => return .empty
  | .abandon ticket =>
      match paused ticket with
      | some task => do
          task.abandon
          return .empty
      | none => return .empty

end Move

/-! ### Runs -/

/-- What is kept from move to move: the entries of the store, and the calls at pauses. -/
structure Traffic where
  keyspace : Keyspace
  paused : Paused

/-- A move of a run: the time of the store, its limiter key, what the caller was told, and the
entries before and after. -/
structure Event where
  time : Nat
  key : String
  told : Option Notice
  before : Keyspace
  after : Keyspace

/-- What is charged by an event. -/
def Event.charge (e : Event) : Nat := (e.told.map Notice.charge).getD 0

namespace Traffic

/-- Nothing is stored, and no call has begun. -/
def start : Traffic := ⟨.empty, fun _ => none⟩

/-- A move in a setting: what it comes to, and what is kept. -/
def step (t : Traffic) (s : Setting) (m : Move) : Landing × Traffic :=
  let (landing, keyspace) := (m.work t.paused).on s t.keyspace
  (landing, ⟨keyspace,
    match m.ticket? with
    | some ticket => t.paused.set ticket landing.left
    | none => t.paused⟩)

/-- What is kept after a run. -/
def after : Traffic → List (Setting × Move) → Traffic
  | t, [] => t
  | t, (s, m) :: rest => (t.step s m).2.after rest

/-- The event of a move in a setting. -/
def event (t : Traffic) (s : Setting) (m : Move) : Event :=
  ⟨s.storeReading, m.key, (t.step s m).1.told, t.keyspace, (t.step s m).2.keyspace⟩

/-- The events of a run. -/
def events : Traffic → List (Setting × Move) → List Event
  | _, [] => []
  | t, (s, m) :: rest => t.event s m :: (t.step s m).2.events rest

/-- The task at a pause under a name after a move. -/
theorem paused_step (t : Traffic) (s : Setting) (m : Move) (ticket : Ticket) :
    (t.step s m).2.paused ticket =
      if m.ticket? = some ticket then (t.step s m).1.left else t.paused ticket := by
  cases h : m.ticket? with
  | none => simp [step, h]
  | some moved =>
      simp only [step, h, Paused.set, Option.some.injEq]
      by_cases hmoved : ticket = moved
      · simp [hmoved]
      · rw [if_neg hmoved, if_neg fun he => hmoved he.symm]

theorem after_append (t : Traffic) (xs ys : List (Setting × Move)) :
    t.after (xs ++ ys) = (t.after xs).after ys := by
  induction xs generalizing t with
  | nil => rfl
  | cons x xs ih => exact ih (t.step x.1 x.2).2

end Traffic

/-! ### What a move comes to -/

/-- What is left of a call pursues a bid. -/
def Task.Pursues (b : Bid) : Task → Prop
  | .waiting w => w.bid = b
  | .requesting l a => l.Asking b a

/-- A move whose decision about a bid, if it makes one, is answered by `answer`: an admission
charges the events of the bid, nothing else charges anything, and what is left pursues the bid. -/
structure Landing.Fits (b : Bid) (answer : Option (Except LimiterError Bool)) (e : Landing) :
    Prop where
  admitted : answer = some (.ok true) → e.charge = b.n
  other : answer ≠ some (.ok true) → e.charge = 0
  clears : e.clears = false
  left : ∀ task, e.left = some task → task.Pursues b

theorem Landing.fits_decided (key : String) (n limit : Nat) (window : Duration)
    (answer : Except LimiterError Bool) :
    Landing.Fits ⟨key, n, limit, window⟩ (some answer) ⟨some (.decided n answer), none⟩ := by
  rcases answer with e | _ | _ <;> constructor <;>
    simp [Landing.charge, Landing.clears, Notice.charge, Notice.clears]

/-- What a wait tells fits its bid for one event. -/
theorem Landing.fits_ofWait {b : Bid} {answer : Option (Except LimiterError Bool)}
    {turn : Turn Wait (Except LimiterError Unit)} (hn : b.n = 1)
    (h : turn.Tells (granted fun _ => true) (fun w => w.bid = b) answer) :
    (Landing.ofTurn (Task.ofWait turn)).Fits b answer := by
  cases turn with
  | done result =>
      cases result with
      | ok _ =>
          have hadmitted : answer = some (.ok true) := h.1 rfl
          exact ⟨fun _ => hn.symm, fun hnot => absurd hadmitted hnot, rfl, by
            simp [ofTurn, Task.ofWait, Turn.map]⟩
      | error e =>
          have hnot : answer ≠ some (.ok true) := by simpa [Turn.Tells, granted] using h
          exact ⟨fun ha => absurd ha hnot, fun _ => rfl, rfl, by
            simp [ofTurn, Task.ofWait, Turn.map]⟩
  | pause on rest =>
      refine ⟨fun ha => absurd ha h.1, fun _ => rfl, rfl, ?_⟩
      rintro task ⟨rfl⟩
      exact h.2

/-- What a request tells fits the bid of its layer. -/
theorem Landing.fits_tell {l : Layer SlidingWindow} {key : String}
    {answer : Option (Except LimiterError Bool)}
    {turn : Turn (Admitting Wait) (Except LimiterError Bool)} {b : Bid} (hb : l.bid key = b)
    (h : turn.Tells (granted id) (l.Asking b) answer) (s : Setting) :
    (Landing.ofTurn (l.tell key turn s).1).Fits b answer := by
  cases turn with
  | done result =>
      have htold : (Landing.ofTurn (l.tell key (.done result) s).1).told =
          some (.judged l result (l.verdict key result)) := l.told_tell_done key result s
      have hleft : (Landing.ofTurn (l.tell key (.done result) s).1).left = none := rfl
      have hcost : (if l.waitMode then 1 else l.cost) = b.n := congrArg Bid.n hb
      refine ⟨fun hadmitted => ?_, fun hnot => ?_, ?_, by simp [hleft]⟩
      · obtain rfl : result = .ok true := by
          rcases result with e | _ | _
          · simpa [granted] using h.2 hadmitted
          · simpa [granted] using h.2 hadmitted
          · rfl
        rw [Landing.charge, htold]
        exact hcost
      · have hno : result ≠ .ok true := by
          rintro rfl
          exact hnot (h.1 rfl)
        rw [Landing.charge, htold]
        rcases result with e | _ | _
        · rfl
        · rfl
        · exact absurd rfl hno
      · rw [Landing.clears, htold]
        rfl
  | pause on rest =>
      refine ⟨fun ha => absurd ha h.1, fun _ => rfl, rfl, ?_⟩
      rintro task ⟨rfl⟩
      exact h.2

/-- What a move does in a setting.  It leaves the store alone and charges nothing; or it decides
once about a bid for its key; or, if it is a reset, it empties the slots of its key.  What it leaves
at a pause pursues a bid for its key. -/
inductive Move.Effect (allowed : Bid → Prop) (resets : Prop) (key : String)
    (work : Act MemoryStore Landing) (s : Setting) : Prop
  | silent (e : Landing) (run : ∀ ks, work.on s ks = (e, ks)) (charge : e.charge = 0)
      (clears : e.clears = false)
      (left : ∀ task, e.left = some task → ∃ b, b.key = key ∧ allowed b ∧ task.Pursues b)
  | asks (b : Bid) (v : Visit) (f : Except LimiterError Bool → Landing) (key_eq : b.key = key)
      (ok : allowed b) (made : b.Made s.storeReading v)
      (run : ∀ ks, work.on s ks = (f (v.pay ks).1, (v.pay ks).2))
      (ends : ∀ answer, (f answer).Fits b (some answer))
  | clears (e : Landing) (reset : resets) (run : ∀ ks, work.on s ks = (e, ks.without key))
      (charge : e.charge = 0) (clears : e.clears = true) (left : e.left = none)

theorem Task.abandon_over (task : Task) (s : Setting) (ks : Keyspace) :
    ∃ s' : Setting, task.abandon (s.over ks) = ((), s'.over ks) := by
  cases task with
  | waiting w => exact ⟨_, Act.Silent.observe w.limiter.measured (.waiting w.key .zero) s ks⟩
  | requesting l a => exact l.abandon_over a s ks

/-- The calls at pauses pursue bids for their keys. -/
def Paused.Sound (allowed : Bid → Prop) (paused : Paused) : Prop :=
  ∀ ticket task, paused ticket = some task →
    ∃ b, b.key = ticket.key ∧ allowed b ∧ task.Pursues b

namespace Move

variable {allowed : Bid → Prop} {resets : Prop} {s : Setting} {key : String}

theorem silent_tell (l : Layer SlidingWindow) (key : String)
    (turn : Turn (Admitting Wait) (Except LimiterError Bool)) :
    Act.Silent (l.tell key turn) (l.tell key turn) := by
  cases turn with
  | done result => exact (Act.Silent.of_aloof (l.aloof_conclude key result)).bind fun _ => Act.Silent.pure _
  | pause on rest => exact Act.Silent.pure _

/-- Work that makes at most one decision and comes to what fits a bid has an effect. -/
theorem effect_of_deals {b : Bid} {work : Act MemoryStore Landing}
    (h : Act.Deals work s (fun e _ => e.Fits b none)
      fun v answer e _ => b.Made s.storeReading v ∧ e.Fits b (some answer))
    (hkey : b.key = key) (hb : allowed b) : Effect allowed resets key work s := by
  rcases h.on_cases with ⟨e, -, hrun, hends⟩ | ⟨v, f, hrun, hends⟩
  · exact .silent e hrun (hends.other (by simp)) hends.clears
      fun task htask => ⟨b, hkey, hb, hends.left task htask⟩
  · exact .asks b v (fun answer => (f answer).1) hkey hb (hends (.ok true)).1 hrun
      fun answer => (hends answer).2

/-- Work that pursues a bid has an effect for its key. -/
theorem effect_of_pursues {b : Bid} {κ α : Type} {admits : α → Bool} {P : κ → Prop}
    {act : Act MemoryStore (Turn κ α)} {k : Turn κ α → Act MemoryStore Landing}
    {k' : Turn κ α → Act (List StoreError) Landing} (h : Act.Pursues b admits P act)
    (hk : ∀ turn, Act.Silent (k turn) (k' turn))
    (hfits : ∀ answer turn s, turn.Tells admits P answer → (k' turn s).1.Fits b answer)
    (hkey : b.key = key) (hb : allowed b) (s : Setting) : Effect allowed resets key (act >>= k) s :=
  effect_of_deals ((h s).bind hk (fun turn s' hturn => hfits none turn s' hturn)
    fun _ answer turn s' hturn => ⟨hturn.1, hfits (some answer) turn s' hturn.2⟩) hkey hb

/-- Work that leaves the store alone and comes to nothing has an effect for every key. -/
theorem effect_of_empty {work : Act MemoryStore Landing}
    (h : ∀ ks, ∃ s' : Setting, work (s.over ks) = (.empty, s'.over ks)) :
    Effect allowed resets key work s := by
  refine .silent .empty (fun ks => ?_) rfl rfl (by simp [Landing.empty])
  obtain ⟨s', hrun⟩ := h ks
  rw [Act.on, hrun]
  rfl

/-- The first stretch of a wait, or what follows a pause of one. -/
theorem effect_wait {b : Bid} {act : Act MemoryStore (Turn Wait (Except LimiterError Unit))}
    (h : Act.Pursues b (granted fun _ => true) (fun w => w.bid = b) act) (hn : b.n = 1)
    (hkey : b.key = key) (hb : allowed b) (s : Setting) :
    Effect allowed resets key (act >>= fun turn => pure (.ofTurn (Task.ofWait turn))) s :=
  effect_of_pursues h (fun _ => Act.Silent.pure _)
    (fun _ _ _ hturn => Landing.fits_ofWait hn hturn) hkey hb s

/-- The first stretch of a request, or what follows a pause of one. -/
theorem effect_request {l : Layer SlidingWindow} {j : String}
    {act : Act MemoryStore (Turn (Admitting Wait) (Except LimiterError Bool))}
    (h : Act.Pursues (l.bid j) (granted id) (l.Asking (l.bid j)) act) (hkey : j = key)
    (hb : allowed (l.bid j)) (s : Setting) :
    Effect allowed resets key
      (act >>= fun turn => l.tell j turn >>= fun turn => pure (.ofTurn turn)) s := by
  have htell (turn : Turn (Admitting Wait) (Except LimiterError Bool)) :
      Act.Silent (l.tell j turn >>= fun turn => pure (Landing.ofTurn turn))
        (l.tell j turn >>= fun turn => pure (Landing.ofTurn turn)) :=
    (silent_tell l j turn).bind fun _ => Act.Silent.pure _
  exact effect_of_pursues h htell (fun _ _ s hturn => Landing.fits_tell rfl hturn s) hkey hb s

/-- A reset empties the slots of its key, or is barred. -/
theorem effect_reset (l : SlidingWindow) (ctx : ContextId) (key : String) (paused : Paused)
    (s : Setting) : Effect allowed True key ((reset l ctx key).work paused) s := by
  cases hbar : SlidingWindow.resetBar? ⟨s.status ctx, s.storeReading⟩ key s.backend with
  | some e =>
      refine .silent ⟨some (.cleared (.error e)), none⟩ (fun ks => ?_) rfl rfl (by simp)
      obtain ⟨s', hrun⟩ := l.reset_over ctx key s ks
      rw [hbar] at hrun
      simp only [Act.on, work, Act.bind_apply, hrun]
      rfl
  | none =>
      refine .clears ⟨some (.cleared (.ok ())), none⟩ trivial (fun ks => ?_) rfl rfl rfl
      obtain ⟨s', hrun⟩ := l.reset_over ctx key s ks
      rw [hbar] at hrun
      simp only [Act.on, work, Act.bind_apply, hrun]
      rfl

/-- **A move decides once about a bid for its key, empties the slots of its key, or leaves the store
alone**; what it leaves at a pause pursues such a bid. -/
theorem effect {m : Move} {paused : Paused} (hm : ∀ b ∈ m.bid?, allowed b)
    (hpaused : paused.Sound allowed) (s : Setting) :
    Effect allowed (m.resets = true) m.key (m.work paused) s := by
  cases m with
  | allowN l ctx key n limit window =>
      refine effect_of_deals (b := ⟨key, n, limit, window⟩)
        ((l.deals_allowN ctx key n limit window s).bind (fun _ => Act.Silent.pure _)
          (fun _ _ h => h.elim) ?_) rfl (hm _ rfl)
      rintro v answer result s' ⟨rfl, rfl, -⟩
      exact ⟨Visit.made_within s _ _ _ _ _ _, Landing.fits_decided key n limit window result⟩
  | reset l ctx key =>
      have hresets : ((reset l ctx key).resets = true) = True := eq_self true
      rw [hresets]
      exact effect_reset l ctx key paused s
  | wait number l ctx key limit window =>
      exact effect_wait (Wait.pursues_start l ctx key limit window) rfl rfl (hm _ rfl) s
  | request number l parent caller =>
      exact effect_request (l.pursues_ask parent (l.key caller)) rfl (hm _ rfl) s
  | resume ticket wake =>
      cases htask : paused ticket with
      | none =>
          simp only [work, htask]
          exact effect_of_empty fun ks => ⟨s, rfl⟩
      | some task =>
          -- what follows a pause goes on pursuing the bid of what was left there
          obtain ⟨b, hkey, hb, hpursues⟩ := hpaused ticket task htask
          simp only [work, htask]
          cases task with
          | waiting w =>
              subst hpursues
              exact effect_wait (w.pursues_resume wake) rfl hkey hb s
          | requesting l a =>
              obtain rfl := hpursues.bid_eq
              exact effect_request (l.pursues_askOn hpursues wake) hkey hb s
  | abandon ticket =>
      cases htask : paused ticket with
      | none =>
          simp only [work, htask]
          exact effect_of_empty fun ks => ⟨s, rfl⟩
      | some task =>
          simp only [work, htask]
          refine effect_of_empty fun ks => ?_
          obtain ⟨s', hrun⟩ := task.abandon_over s ks
          exact ⟨s', by rw [Act.bind_apply, hrun]; rfl⟩

end Move

/-! ### What runs keep -/

variable {allowed : Bid → Prop}

/-- A move leaves alone every slot but the two of its key. -/
theorem Move.Effect.get?_of_ne {resets : Prop} {key : String} {work : Act MemoryStore Landing}
    {s : Setting} (h : Move.Effect allowed resets key work s) (ks : Keyspace) {j : String}
    (hkey : key ≠ j) (hcounter : SlidingScript.counterKey key ≠ j) :
    (work.on s ks).2.get? j = ks.get? j := by
  cases h with
  | silent e run _ _ _ => rw [run]
  | asks b v f hb _ made run _ =>
      have hv : v.key = key := made.key.trans hb
      rw [run]
      exact v.get?_pay_of_ne ks (hv ▸ hkey) (hv ▸ hcounter)
  | clears e _ run _ _ _ =>
      rw [run]
      exact ks.get?_assign_assign_of_ne hkey hcounter none none

/-- On keyspaces that agree at the two keys of a move, it comes to the same, and the keyspaces agree
afterwards. -/
theorem Move.Effect.agree {resets : Prop} {key : String} {work : Act MemoryStore Landing}
    {s : Setting} (h : Move.Effect allowed resets key work s) {p : String → Prop}
    {ks ks' : Keyspace} (hagree : Keyspace.AgreeOn p ks ks') (hkey : p key)
    (hcounter : p (SlidingScript.counterKey key)) :
    (work.on s ks).1 = (work.on s ks').1 ∧
      Keyspace.AgreeOn p (work.on s ks).2 (work.on s ks').2 := by
  cases h with
  | silent e run _ _ _ =>
      rw [run, run]
      exact ⟨rfl, hagree⟩
  | asks b v f hb _ made run _ =>
      have hv : v.key = key := made.key.trans hb
      obtain ⟨hanswer, hafter⟩ := v.pay_agree hagree (hv ▸ hkey) (hv ▸ hcounter)
      rw [run, run, hanswer]
      exact ⟨rfl, hafter⟩
  | clears e _ run _ _ _ =>
      rw [run, run]
      exact ⟨rfl, (hagree.assign _ _).assign _ _⟩

/-- What a move leaves at a pause pursues an allowed bid for its key. -/
theorem Move.Effect.left_pursues {resets : Prop} {key : String} {work : Act MemoryStore Landing}
    {s : Setting} (h : Move.Effect allowed resets key work s) (ks : Keyspace) {task : Task}
    (htask : (work.on s ks).1.left = some task) :
    ∃ b, b.key = key ∧ allowed b ∧ task.Pursues b := by
  cases h with
  | silent e run _ _ left =>
      rw [run] at htask
      exact left task htask
  | asks b v f hkey hb _ run ends =>
      rw [run] at htask
      exact ⟨b, hkey, hb, (ends _).left task htask⟩
  | clears e _ run _ _ left =>
      rw [run, left] at htask
      exact nomatch htask

namespace Traffic

variable {t : Traffic}

theorem sound_start (allowed : Bid → Prop) : start.paused.Sound allowed := fun _ _ h => nomatch h

theorem ticket_key {m : Move} {ticket : Ticket} (h : m.ticket? = some ticket) :
    ticket.key = m.key := by
  cases m <;> simp only [Move.ticket?, Option.some.injEq, reduceCtorEq] at h <;> subst h <;> rfl

/-- **The calls at pauses go on pursuing the bids that they began with.** -/
theorem sound_step {m : Move} (hm : ∀ b ∈ m.bid?, allowed b)
    (hpaused : t.paused.Sound allowed) (s : Setting) : (t.step s m).2.paused.Sound allowed := by
  intro ticket task htask
  rw [paused_step] at htask
  by_cases hmoved : m.ticket? = some ticket
  · rw [if_pos hmoved] at htask
    rw [ticket_key hmoved]
    exact (Move.effect hm hpaused s).left_pursues t.keyspace htask
  · rw [if_neg hmoved] at htask
    exact hpaused ticket task htask

/-- A call for a decision is told what is decided, and leaves what the decision does. -/
theorem step_allowN (t : Traffic) (s : Setting) (l : SlidingWindow) (ctx : ContextId)
    (key : String) (n limit : Nat) (window : Duration) :
    t.step s (.allowN l ctx key n limit window) =
      let r := (Visit.within s l.clock ctx key n limit window).pay t.keyspace
      (⟨some (.decided n r.1), none⟩, ⟨r.2, t.paused⟩) :=
  congrArg (fun r : Except LimiterError Bool × Keyspace =>
    ((⟨some (.decided n r.1), none⟩ : Landing), (⟨r.2, t.paused⟩ : Traffic)))
    (l.on_allowN ctx key n limit window s t.keyspace)

/-- A move of a key apart does nothing to the two slots of a key. -/
theorem get?_step_of_apart {m : Move} {key : String} (hm : ∀ b ∈ m.bid?, allowed b)
    (hpaused : t.paused.Sound allowed) (s : Setting) (h : Apart key m.key) :
    (t.step s m).2.keyspace.get? key = t.keyspace.get? key ∧
      (t.step s m).2.keyspace.get? (SlidingScript.counterKey key) =
        t.keyspace.get? (SlidingScript.counterKey key) := by
  have heffect := Move.effect hm hpaused s
  exact ⟨heffect.get?_of_ne t.keyspace h.1.symm h.2.1.symm,
    heffect.get?_of_ne t.keyspace h.2.2 h.counterKey_ne.symm⟩

end Traffic

/-! ### What a move does to an account -/

/-- What an event does to the account that the slots of a key show: nothing, or it leaves what has
not lapsed, or it takes what an allowed bid asks for, or it is a reset. -/
inductive Account.Moves (allowed : Bid → Prop) (resets : Prop) (key : String) (e : Event)
    (a : Account) : Account → Prop
  | same (charge : e.key = key → e.charge = 0)
      (clears : e.key = key → (e.told.map Notice.clears).getD false = false)
      (slot : e.after.get? (SlidingScript.counterKey key) =
        e.before.get? (SlidingScript.counterKey key)) : Moves allowed resets key e a a
  | left (key_eq : e.key = key) (charge : e.charge = 0)
      (clears : (e.told.map Notice.clears).getD false = false) :
      Moves allowed resets key e a (a.asOf e.time)
  | taken (b : Bid) (key_eq : e.key = key) (bid_key : b.key = key) (ok : allowed b)
      (charge : e.charge = b.n) (clears : (e.told.map Notice.clears).getD false = false)
      (pos : 0 < b.n) (fit : (a.asOf e.time).used + word b.n ≤ word b.limit) :
      Moves allowed resets key e a
        ⟨(a.asOf e.time).used + word b.n, some (lapseAfter e.time b.window)⟩
  | cleared (key_eq : e.key = key) (reset : resets) (charge : e.charge = 0)
      (clears : (e.told.map Notice.clears).getD false = true) :
      Moves allowed resets key e a .fresh

namespace Traffic

/-- A move that decides about an allowed bid for the key takes it, or leaves the account or what is
left of it. -/
theorem moves_of_asks {t : Traffic} {s : Setting} {m : Move} {a : Account} {resets : Prop} {b : Bid}
    {v : Visit} {f : Except LimiterError Bool → Landing} (hkey : b.key = m.key) (ok : allowed b)
    (made : b.Made s.storeReading v)
    (run : (m.work t.paused).on s t.keyspace = (f (v.pay t.keyspace).1, (v.pay t.keyspace).2))
    (ends : ∀ answer, (f answer).Fits b (some answer)) (hshows : t.keyspace.Shows m.key a) :
    ∃ a', (t.step s m).2.keyspace.Shows m.key a' ∧
      a.Moves allowed resets m.key (t.event s m) a' := by
  have hcharge : (t.event s m).charge = (f (v.pay t.keyspace).1).charge :=
    congrArg (fun r => r.1.charge) run
  have hclears : ((t.event s m).told.map Notice.clears).getD false = false :=
    (congrArg (fun r => r.1.clears) run).trans (ends _).clears
  have hafter : (t.step s m).2.keyspace = (v.pay t.keyspace).2 := congrArg Prod.snd run
  rw [← made.key.trans hkey] at hshows ⊢
  obtain ⟨hanswer, hshows'⟩ := hshows.pay
  refine ⟨(v.onAccount a).2, hafter ▸ hshows', ?_⟩
  have hsame : (t.event s m).key = v.key := (made.key.trans hkey).symm
  by_cases hadmitted : (v.pay t.keyspace).1 = .ok true
  · obtain ⟨hfit, haccount⟩ := Visit.onAccount_of_admitted (hanswer ▸ hadmitted)
    have hpos := Visit.pos_of_admitted (hanswer ▸ hadmitted)
    rw [made.time, made.n, made.limit] at hfit
    rw [haccount, made.time, made.n, made.window]
    exact .taken b hsame made.key.symm ok
      (hcharge.trans ((ends _).admitted (congrArg some hadmitted))) hclears (made.n ▸ hpos) hfit
  · have hzero : (t.event s m).charge = 0 :=
      hcharge.trans ((ends _).other fun h => hadmitted (Option.some.inj h))
    rcases Visit.onAccount_of_not_admitted (hanswer ▸ hadmitted) with ⟨hbar, ha⟩ | ⟨-, ha⟩
    · -- a barred decision writes nothing
      obtain ⟨e, he⟩ := Option.isSome_iff_exists.1 hbar
      have hnothing : (t.event s m).after = t.keyspace :=
        hafter.trans (congrArg Prod.snd (Visit.pay_of_bar he t.keyspace))
      rw [ha]
      refine .same (fun _ => hzero) (fun _ => hclears) ?_
      rw [hnothing]
      rfl
    · rw [ha, made.time]
      exact .left hsame hzero hclears

/-- **A move moves the account of a key**, if it is for this key or for a key apart. -/
theorem moves_step {t : Traffic} {s : Setting} {m : Move} {key : String} {a : Account}
    (hkey : m.key = key ∨ Apart key m.key) (hm : ∀ b ∈ m.bid?, allowed b)
    (hpaused : t.paused.Sound allowed) (hshows : t.keyspace.Shows key a) :
    ∃ a', (t.step s m).2.keyspace.Shows key a' ∧
      a.Moves allowed (m.resets = true) key (t.event s m) a' := by
  rcases hkey with rfl | hapart
  · cases Move.effect hm hpaused s with
    | silent e run charge clears _ =>
        have hafter : (t.step s m).2.keyspace = t.keyspace := congrArg Prod.snd (run t.keyspace)
        have hcharge := congrArg (fun r => r.1.charge) (run t.keyspace)
        have hclears := congrArg (fun r => r.1.clears) (run t.keyspace)
        refine ⟨a, hafter.symm ▸ hshows,
          .same (fun _ => hcharge.trans charge) (fun _ => hclears.trans clears) ?_⟩
        exact congrArg (fun ks => ks.get? (SlidingScript.counterKey m.key)) hafter
    | clears e reset run charge clears _ =>
        have hafter : (t.step s m).2.keyspace = t.keyspace.without m.key :=
          congrArg Prod.snd (run t.keyspace)
        have hcharge := congrArg (fun r => r.1.charge) (run t.keyspace)
        have hclears := congrArg (fun r => r.1.clears) (run t.keyspace)
        exact ⟨.fresh, hafter.symm ▸ t.keyspace.shows_without m.key,
          .cleared rfl reset (hcharge.trans charge) (hclears.trans clears)⟩
    | asks b v f hb ok made run ends => exact moves_of_asks hb ok made (run t.keyspace) ends hshows
  · obtain ⟨hevents, hcounter⟩ := get?_step_of_apart hm hpaused s hapart
    have hother : (t.event s m).key ≠ key := hapart.1.symm
    exact ⟨a, hshows.congr hevents hcounter,
      .same (fun h => absurd h hother) (fun h => absurd h hother) hcounter⟩

end Traffic

end Turnstile
