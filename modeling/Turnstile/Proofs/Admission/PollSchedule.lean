/-
**When a wait polls.**

A wait whose sleeper lets virtual time pass polls at once, and again after each poll interval, as
long as its polls are denied and its context is live.  A sleep is over at the next multiple of the
interval, or at the deadline of the context if this is no later: where both come together the
context is asked first, and there is no poll.  So whatever the store answers, and whatever others do
in between, the polls are at the multiples of the interval before the deadline, and the wait ends
with the first poll that is not denied, or else at the deadline itself.

Timers fire on whole milliseconds.  The start of the wait, its interval and its deadline are taken
to lie on them, as all instants of a run do whose delays are whole milliseconds.

Main definitions:

* `Wait.decision`, `Wait.afterPoll` — what the limiter decides in a poll, and how the wait goes on;
* `Wait.story` — the stretches of a wait, each in a world that it meets;
* `Wait.Attended` — others do what they may, the wait goes on after every pause, and its context is
  not cancelled;
* `Wait.Polls`, `Wait.Due` — in which stretches a wait polls, and in which it should;
* `Wait.Makes`, `Wait.TimesOut` — what happens in a stretch with a poll, and in one without;
* `Wait.meets` — the worlds that a wait meets while nobody else does anything.

Main results:

* `Wait.poll_live`, `Wait.poll_finished` — a poll is one decision, or none;
* `Wait.Makes.stands_next`, `Wait.stands` — after denied polls a wait polls again, or times out;
* `Wait.polls_iff_due` — **a wait polls just when a poll is due**;
* `Wait.attended_meets` — a wait that is left to itself is attended to;
* `Wait.polls_on_schedule` — **when a wait polls, and when and how it ends**.
-/

import Mathlib.Algebra.Order.Floor.Div
import Turnstile.Proofs.Admission.Deadline

set_option relaxedAutoImplicit false
set_option autoImplicit false

namespace Turnstile

variable {σ : Type} {ctx : ContextId}

namespace Wait

variable {c : Wait} {meet : Nat → World σ} {v : World σ}

/-! ### One poll -/

/-- How a wait goes on after a poll at an instant: it sleeps if the event was denied, and ends
otherwise. -/
def afterPoll (c : Wait) (now : Nat) :
    Except LimiterError Bool → Turn Wait (Except LimiterError Unit)
  | .ok true => .done (.ok ())
  | .ok false => .pause (.asleep c.ctx now c.limiter.pollInterval) c
  | .error e => .done (.error e)

/-- Only a denial is followed by a sleep. -/
theorem afterPoll_of_ne (c : Wait) (now : Nat) {answer : Except LimiterError Bool}
    (h : answer ≠ .ok false) : c.afterPoll now answer = .done (answer.map fun _ => ()) := by
  rcases answer with e | _ | _
  · rfl
  · exact absurd rfl h
  · rfl

/-- The end of a wait changes nothing but the reports. -/
theorem finish_world (c : Wait) (result : Except LimiterError Unit) (v : World σ) :
    ∃ v', World.SameButReports v v' ∧ c.finish result v = (.done result, v') := by
  refine ⟨(c.finish result v).2, ?_, Prod.ext (c.finish_answer result v) rfl⟩
  have hobserved := (World.SameButReports.observe v c.limiter.measured (.waiting c.key .zero)).trans
    (World.SameButReports.observe _ c.limiter.measured (.latency c.key Operation.wait.label .zero))
  cases result with
  | ok _ => exact hobserved
  | error e => exact hobserved.trans (World.SameButReports.log _ (.waitEnded c.key c.cycles e))

/-- What follows the decision of a poll changes nothing but the reports. -/
theorem follow_world (htimer : c.limiter.sleeper = .timer) (answer : Except LimiterError Bool)
    (hlive : v.status c.ctx = none) :
    ∃ v', World.SameButReports v v' ∧ c.follow answer v = (c.afterPoll v.now answer, v') := by
  rcases answer with e | _ | _
  · exact c.finish_world (.error e) v
  · refine ⟨_, World.SameButReports.log v (.awaitingCapacity c.key c.cycles), ?_⟩
    have hlive' : (Act.log (.awaitingCapacity c.key c.cycles) v).2.status c.ctx = none := hlive
    simp only [follow, Act.bind_apply, htimer, Act.sleep_timer hlive']
    rfl
  · exact c.finish_world (.ok ()) v

section Decisions

variable [Backend σ]

/-- What the limiter decides in a poll of a wait, and the store after it. -/
def decision (c : Wait) (v : World σ) : Except LimiterError Bool × σ :=
  SlidingWindow.decide (v.limiterReading c.limiter.clock) ⟨v.status c.ctx, v.storeReading⟩ c.key 1
    c.limit c.window v.backend

/-- While its context is live a poll is one decision, -/
theorem poll_live (htimer : c.limiter.sleeper = .timer) (hlive : v.status c.ctx = none) :
    ∃ v', World.SameButReports { v with backend := (c.decision v).2 } v' ∧
      c.poll v = ({ c with cycles := c.cycles + 1 }.afterPoll v.now (c.decision v).1, v') := by
  obtain ⟨reports, hobserved⟩ := World.SameButReports.observe v c.limiter.measured
    (.waiting c.key (.ofNat (c.cycles + 1)))
  obtain ⟨u, ⟨reports', rfl⟩, hdecided⟩ := c.limiter.allowN_world c.ctx c.key 1 c.limit c.window
    { v with reports }
  obtain ⟨v', ⟨reports'', rfl⟩, hfollow⟩ :=
    follow_world (c := { c with cycles := c.cycles + 1 })
      (v := { v with backend := (c.decision v).2, reports := reports' }) htimer (c.decision v).1
      hlive
  have hread : Act.status c.ctx v = (none, v) := by rw [Act.status, hlive]
  refine ⟨_, ⟨reports'', rfl⟩, ?_⟩
  rw [poll, Act.bind_apply, hread]
  simp only [Act.bind_apply, hobserved, hdecided]
  exact hfollow

/-- and otherwise it is none. -/
theorem poll_finished {cause : ContextError} (h : v.status c.ctx = some cause) :
    ∃ v', World.SameButReports v v' ∧ c.poll v = (.done (.error (.context cause)), v') := by
  have hread : Act.status c.ctx v = (some cause, v) := by rw [Act.status, h]
  rw [poll, Act.bind_apply, hread]
  exact c.finish_world _ v

/-! ### The stretches of a wait -/

/-- The stretches of a wait: how each ends, and in which world.  The first one begins in the world
that the wait meets first; any other begins in the next world it meets, if its pause is over
there. -/
def story (c : Wait) (meet : Nat → World σ) : Nat → Turn Wait (Except LimiterError Unit) × World σ
  | 0 => Wait.start c.limiter c.ctx c.key c.limit c.window (meet 0)
  | n + 1 =>
      match c.story meet n with
      | (.pause on rest, w) =>
          match (meet (n + 1)).wake? on with
          | some wake => rest.resume wake ((meet (n + 1)).afterPause on wake)
          | none => (.pause on rest, w)
      | ended => ended

/-- A wait is attended to: between the worlds that it meets others do only what they may during a
pause, no pause is left without going on after it, and the context is not cancelled. -/
structure Attended (c : Wait) (meet : Nat → World σ) : Prop where
  meanwhile : ∀ {n on rest w}, c.story meet n = (.pause on rest, w) → w.Meanwhile on (meet (n + 1))
  wakes : ∀ {n on rest w}, c.story meet n = (.pause on rest, w) →
    ∃ wake, (meet (n + 1)).wake? on = some wake
  begins : (meet 0).contexts.isCancelled c.ctx = false
  uncancelled : ∀ {n on rest w}, c.story meet n = (.pause on rest, w) →
    (meet (n + 1)).contexts.isCancelled c.ctx = false

/-- A wait polls in a stretch: all stretches before have paused, and its context is live. -/
def Polls (c : Wait) (meet : Nat → World σ) (n : Nat) : Prop :=
  (∀ m < n, ∃ on rest w, c.story meet m = (.pause on rest, w)) ∧ (meet n).status c.ctx = none

/-- What the limiter answers to the poll of a stretch. -/
def answer (c : Wait) (meet : Nat → World σ) (n : Nat) : Except LimiterError Bool :=
  (c.decision (meet n)).1

/-- What has ended stays ended. -/
theorem story_of_le {m n : Nat} (hle : m ≤ n) {result : Except LimiterError Unit} {w : World σ}
    (h : c.story meet m = (.done result, w)) : c.story meet n = (.done result, w) := by
  induction hle with
  | refl => exact h
  | step _ ih => simp only [story, ih]

/-- A wait goes on after a sleep. -/
theorem story_succ {n now : Nat} {d : Duration} {rest : Wait} {w : World σ} {wake : Wake}
    (h : c.story meet n = (.pause (.asleep ctx now d) rest, w))
    (hwake : (meet (n + 1)).wake? (.asleep ctx now d) = some wake) :
    c.story meet (n + 1) = rest.resume wake (meet (n + 1)) := by
  simp only [story, h, hwake, World.afterPause_asleep]

/-! ### Where a wait stands -/

/-- A wait in virtual time whose start, interval and deadline, if it has one, are whole
milliseconds. -/
structure Regular (c : Wait) (w : World σ) (deadline : Option Nat) : Prop where
  timer : c.limiter.sleeper = .timer
  pos : 0 < c.limiter.pollInterval.nanos
  interval : 1000000 ∣ c.limiter.pollInterval.nanos
  start : 1000000 ∣ w.now
  registered : c.ctx < w.contexts.nodes.size
  deadline?_eq : w.contexts.deadline? c.ctx = deadline.map (w.now + ·)
  whole : ∀ d ∈ deadline, 1000000 ∣ d

/-- A poll is due in a stretch: its multiple of the interval comes before the deadline, and all
polls before were denied. -/
structure Due (c : Wait) (meet : Nat → World σ) (deadline : Option Nat) (n : Nat) : Prop where
  early : ∀ d ∈ deadline, n * c.limiter.pollInterval.nanos < d
  denied : ∀ m < n, c.answer meet m = .ok false

/-- A wait makes a poll in a stretch: at the multiple of its interval, while its context is live, by
one decision, and it ends or sleeps as this is answered. -/
structure Makes (c : Wait) (meet : Nat → World σ) (n : Nat) : Prop where
  now : (meet n).now = (meet 0).now + n * c.limiter.pollInterval.nanos
  live : (meet n).status c.ctx = none
  evolves : (meet 0).contexts.Evolves (meet n).contexts
  once : ∃ w, World.SameButReports { meet n with backend := (c.decision (meet n)).2 } w ∧
    c.story meet n = ({ c with cycles := n + 1 }.afterPoll (meet n).now (c.answer meet n), w)

/-- A wait times out in a stretch, a span after its start: without a poll, and for good. -/
structure TimesOut (c : Wait) (meet : Nat → World σ) (n d : Nat) : Prop where
  now : (meet n).now = (meet 0).now + d
  finished : (meet n).status c.ctx = some .deadlineExceeded
  ended : ∃ w, World.SameButReports (meet n) w ∧
    ∀ m ≥ n, c.story meet m = (.done (.error (.context .deadlineExceeded)), w)

/-- Where a wait stands whose polls were denied so far: the deadline is ahead and it polls, or it
has come. -/
def Stands (c : Wait) (meet : Nat → World σ) (deadline : Option Nat) (n : Nat) : Prop :=
  ((∀ d ∈ deadline, n * c.limiter.pollInterval.nanos < d) ∧ c.Makes meet n) ∨
    ∃ d ∈ deadline, d ≤ n * c.limiter.pollInterval.nanos ∧ c.TimesOut meet n d

variable {deadline : Option Nat} {n : Nat}

/-- A wait whose deadline is over ends there. -/
theorem TimesOut.of_story {d : Nat} (hnow : (meet n).now = (meet 0).now + d)
    (hfinished : (meet n).status c.ctx = some .deadlineExceeded)
    (h : ∃ w, World.SameButReports (meet n) w ∧
      c.story meet n = (.done (.error (.context .deadlineExceeded)), w)) :
    c.TimesOut meet n d := by
  obtain ⟨w, hsame, hstory⟩ := h
  exact ⟨hnow, hfinished, w, hsame, fun m hm => story_of_le hm hstory⟩

/-- The start of a wait: it polls, unless the deadline is over. -/
theorem stands_start (hregular : c.Regular (meet 0) deadline) (hattended : c.Attended meet) :
    c.Stands meet deadline 0 := by
  have hstart : c.story meet 0 = { c with cycles := 0 }.poll (meet 0) := rfl
  rcases Contexts.err?_of_uncancelled hattended.begins (meet 0).now with
    ⟨hlive, hahead⟩ | ⟨hover, t, ht, hle⟩
  · obtain ⟨w, hsame, hpoll⟩ := poll_live (c := { c with cycles := 0 }) hregular.timer hlive
    refine Or.inl ⟨fun d hd => ?_, by omega, hlive, .refl, w, hsame, hstart.trans hpoll⟩
    have hbefore := hahead ((meet 0).now + d) (by rw [hregular.deadline?_eq, hd]; rfl)
    omega
  · rw [hregular.deadline?_eq] at ht
    obtain ⟨d, hd, rfl⟩ := Option.map_eq_some_iff.1 ht
    obtain ⟨w, hsame, hpoll⟩ := poll_finished (c := { c with cycles := 0 }) hover
    exact Or.inr ⟨d, hd, by omega, .of_story (by omega) hover ⟨w, hsame, hstart.trans hpoll⟩⟩

/-- **After a poll that is denied** the next one follows, unless the deadline comes before it or
with it. -/
theorem Makes.stands_next (hregular : c.Regular (meet 0) deadline) (hattended : c.Attended meet)
    (h : c.Makes meet n) (hdenied : c.answer meet n = .ok false) :
    c.Stands meet deadline (n + 1) := by
  obtain ⟨hnow, hlive, hevolves, w, ⟨reports, rfl⟩, hstory⟩ := h
  have hpaused : c.story meet n = (.pause (.asleep c.ctx (meet n).now c.limiter.pollInterval)
      { c with cycles := n + 1 },
        { meet n with backend := (c.decision (meet n)).2, reports := reports }) := by
    rw [hstory, hdenied]
    rfl
  have hmeanwhile := hattended.meanwhile hpaused
  have hnext : (meet n).now + c.limiter.pollInterval.nanos =
      (meet 0).now + (n + 1) * c.limiter.pollInterval.nanos := by
    rw [hnow, Nat.succ_mul, Nat.add_assoc]
  have hwhole : 1000000 ∣ (meet n).now + c.limiter.pollInterval.nanos :=
    hnext ▸ Nat.dvd_add hregular.start (hregular.interval.mul_left (n + 1))
  have hwhole' : ∀ t ∈ deadline.map ((meet 0).now + ·), 1000000 ∣ t := fun t ht => by
    obtain ⟨d, hd, rfl⟩ := Option.map_eq_some_iff.1 ht
    exact Nat.dvd_add hregular.start (hregular.whole d hd)
  have hdeadline : (meet n).contexts.deadline? c.ctx = deadline.map ((meet 0).now + ·) :=
    (hevolves.deadline?_eq hregular.registered).trans hregular.deadline?_eq
  obtain ⟨wake, hwake⟩ := hattended.wakes hpaused
  have hgoes := story_succ hpaused hwake
  rcases hmeanwhile.ends_asleep hwake rfl hlive (hattended.uncancelled hpaused)
    (hevolves.registered hregular.registered) hdeadline hwhole hwhole' with
    ⟨rfl, hlive', hthen, hahead⟩ | ⟨rfl, hover, hthen, hle⟩
  · obtain ⟨w', hsame, hpoll⟩ := poll_live (c := { c with cycles := n + 1 }) hregular.timer hlive'
    refine Or.inl ⟨fun d hd => ?_, hthen.trans hnext, hlive',
      hevolves.trans hmeanwhile.evolves, w', hsame, hgoes.trans hpoll⟩
    have hbefore := hahead _ (Option.mem_map_of_mem _ hd)
    omega
  · obtain ⟨d, hd, hat⟩ := Option.map_eq_some_iff.1 hthen
    obtain ⟨w', hsame, hended⟩ := finish_world { c with cycles := n + 1 }
      (.error (.context .deadlineExceeded)) (meet (n + 1))
    exact Or.inr ⟨d, hd, by omega, .of_story hat.symm hover ⟨w', hsame, hgoes.trans hended⟩⟩

/-- **A wait whose polls were denied so far** polls again, or times out. -/
theorem stands (hregular : c.Regular (meet 0) deadline) (hattended : c.Attended meet)
    (hbefore : ∀ m < n, (∀ d ∈ deadline, m * c.limiter.pollInterval.nanos < d) ∧
      c.answer meet m = .ok false) : c.Stands meet deadline n := by
  induction n with
  | zero => exact stands_start hregular hattended
  | succ n ih =>
      obtain ⟨hearly, hdenied⟩ := hbefore n (Nat.lt_succ_self n)
      rcases ih fun m hm => hbefore m (Nat.lt_succ_of_lt hm) with ⟨-, hmakes⟩ | ⟨d, hd, hle, -⟩
      · exact hmakes.stands_next hregular hattended hdenied
      · exact absurd (hearly d hd) (Nat.not_lt_of_le hle)

/-! ### The polls of a wait -/

theorem Due.of_le {m : Nat} (h : c.Due meet deadline n) (hle : m ≤ n) : c.Due meet deadline m where
  early := fun d hd => Nat.lt_of_le_of_lt (Nat.mul_le_mul_right _ hle) (h.early d hd)
  denied := fun k hk => h.denied k (Nat.lt_of_lt_of_le hk hle)

/-- **A poll that is due is made.** -/
theorem Due.makes (hregular : c.Regular (meet 0) deadline) (hattended : c.Attended meet)
    (h : c.Due meet deadline n) : c.Makes meet n := by
  rcases stands hregular hattended fun m hm => ⟨(h.of_le (Nat.le_of_lt hm)).early, h.denied m hm⟩
    with ⟨-, hmakes⟩ | ⟨d, hd, hle, -⟩
  · exact hmakes
  · exact absurd (h.early d hd) (Nat.not_lt_of_le hle)

/-- A stretch that pauses was a poll that is denied. -/
theorem Stands.due_of_pause {on : Pause} {rest : Wait} {w : World σ}
    (h : c.Stands meet deadline n) (hpaused : c.story meet n = (.pause on rest, w)) :
    (∀ d ∈ deadline, n * c.limiter.pollInterval.nanos < d) ∧ c.answer meet n = .ok false := by
  rcases h with ⟨hearly, hmakes⟩ | ⟨d, -, -, htimes⟩
  · refine ⟨hearly, by_contra fun hfinal => ?_⟩
    obtain ⟨w', -, hstory⟩ := hmakes.once
    rw [hpaused, afterPoll_of_ne _ _ hfinal] at hstory
    exact nomatch congrArg Prod.fst hstory
  · obtain ⟨w', -, hended⟩ := htimes.ended
    exact nomatch congrArg Prod.fst (hpaused.symm.trans (hended n (Nat.le_refl n)))

/-- **A wait polls just when a poll is due.** -/
theorem polls_iff_due (hregular : c.Regular (meet 0) deadline) (hattended : c.Attended meet)
    (n : Nat) : c.Polls meet n ↔ c.Due meet deadline n := by
  constructor
  · rintro ⟨hpaused, hlive⟩
    have hbefore (m : Nat) (hm : m < n) : (∀ d ∈ deadline,
        m * c.limiter.pollInterval.nanos < d) ∧ c.answer meet m = .ok false := by
      induction m using Nat.strongRecOn with
      | ind m ih =>
          obtain ⟨on, rest, w, hstory⟩ := hpaused m hm
          exact (stands hregular hattended fun k hk => ih k hk (Nat.lt_trans hk hm)).due_of_pause
            hstory
    rcases stands hregular hattended hbefore with ⟨hearly, -⟩ | ⟨d, -, -, htimes⟩
    · exact ⟨hearly, fun m hm => (hbefore m hm).2⟩
    · exact nomatch hlive.symm.trans htimes.finished
  · intro hdue
    refine ⟨fun m hm => ?_, (hdue.makes hregular hattended).live⟩
    obtain ⟨w, -, hstory⟩ := ((hdue.of_le (Nat.le_of_lt hm)).makes hregular hattended).once
    rw [hdue.denied m hm] at hstory
    exact ⟨_, _, _, hstory⟩

/-- A poll that is not denied is the last stretch. -/
theorem Makes.ends (h : c.Makes meet n) (hfinal : c.answer meet n ≠ .ok false) :
    ∃ w, World.SameButReports { meet n with backend := (c.decision (meet n)).2 } w ∧
      ∀ m ≥ n, c.story meet m = (.done ((c.answer meet n).map fun _ => ()), w) := by
  obtain ⟨w, hsame, hstory⟩ := h.once
  rw [afterPoll_of_ne _ _ hfinal] at hstory
  exact ⟨w, hsame, fun m hm => story_of_le hm hstory⟩

/-- A poll is due as long as its multiple of the interval comes before the deadline, if those made
before are denied. -/
theorem due_of_denied (hregular : c.Regular (meet 0) deadline) (hattended : c.Attended meet)
    (hearly : ∀ d ∈ deadline, n * c.limiter.pollInterval.nanos < d)
    (hdenied : ∀ m < n, c.Polls meet m → c.answer meet m = .ok false) :
    c.Due meet deadline n := by
  refine ⟨hearly, fun m hm => ?_⟩
  induction m using Nat.strongRecOn with
  | ind m ih =>
      have hdue : c.Due meet deadline m :=
        ⟨fun d hd => Nat.lt_of_le_of_lt (Nat.mul_le_mul_right _ (Nat.le_of_lt hm)) (hearly d hd),
          fun k hk => ih k hk (Nat.lt_trans hk hm)⟩
      exact hdenied m hm ((polls_iff_due hregular hattended m).2 hdue)

/-! ### How a wait ends -/

/-- As many multiples of a number come before another one as their quotient, rounded up, says. -/
theorem lt_ceilDiv_iff {a b k : Nat} (hb : 0 < b) : k < a ⌈/⌉ b ↔ k * b < a := by
  rw [← not_le, ceilDiv_le_iff_le_mul hb, not_le, Nat.mul_comm]

theorem ceilDiv_mul_lt {a b : Nat} (hb : 0 < b) : a ⌈/⌉ b * b < a + b := by
  cases hquotient : a ⌈/⌉ b with
  | zero => omega
  | succ k =>
      have hbefore : k * b < a := (lt_ceilDiv_iff hb).1 (by omega)
      rw [Nat.succ_mul]
      omega

/-- **A wait whose polls are all denied times out**, after as many polls as intervals begin before
the deadline. -/
theorem timesOut_of_denied (hregular : c.Regular (meet 0) deadline) (hattended : c.Attended meet)
    (hdenied : ∀ n, c.Polls meet n → c.answer meet n = .ok false) {d : Nat} (hd : d ∈ deadline) :
    (∀ n, c.Polls meet n ↔ n < d ⌈/⌉ c.limiter.pollInterval.nanos) ∧
      c.TimesOut meet (d ⌈/⌉ c.limiter.pollInterval.nanos) d := by
  have honly {d' : Nat} (hd' : d' ∈ deadline) : d' = d := Option.some.inj (hd'.symm.trans hd)
  have hcount (n : Nat) : c.Polls meet n ↔ n < d ⌈/⌉ c.limiter.pollInterval.nanos := by
    rw [polls_iff_due hregular hattended, lt_ceilDiv_iff hregular.pos]
    refine ⟨fun hdue => hdue.early d hd, fun hearly => ?_⟩
    exact due_of_denied hregular hattended (fun d' hd' => honly hd' ▸ hearly)
      fun m _ => hdenied m
  refine ⟨hcount, ?_⟩
  have hbefore (m : Nat) (hm : m < d ⌈/⌉ c.limiter.pollInterval.nanos) :
      (∀ d ∈ deadline, m * c.limiter.pollInterval.nanos < d) ∧ c.answer meet m = .ok false :=
    ⟨((polls_iff_due hregular hattended m).1 ((hcount m).2 hm)).early, hdenied m ((hcount m).2 hm)⟩
  rcases stands hregular hattended hbefore with ⟨hearly, -⟩ | ⟨d', hd', -, htimes⟩
  · exact absurd ((lt_ceilDiv_iff hregular.pos).2 (hearly d hd)) (Nat.lt_irrefl _)
  · exact honly hd' ▸ htimes

/-- **A wait whose polls are denied before an instant and admitted from it on** ends at the first
multiple of its interval from there on, with the admission, or else at the deadline. -/
theorem ends_of_admitting (hregular : c.Regular (meet 0) deadline) (hattended : c.Attended meet)
    {τ : Nat} (hanswers : ∀ n, c.Polls meet n →
      c.answer meet n = .ok (decide ((meet 0).now + τ ≤ (meet n).now))) :
    let first := τ ⌈/⌉ c.limiter.pollInterval.nanos * c.limiter.pollInterval.nanos
    ((∀ d ∈ deadline, first < d) →
      ∃ w, w.now = (meet 0).now + first ∧ w.now < (meet 0).now + τ + c.limiter.pollInterval.nanos ∧
        ∀ n ≥ τ ⌈/⌉ c.limiter.pollInterval.nanos, c.story meet n = (.done (.ok ()), w)) ∧
    ∀ d ∈ deadline, d ≤ first → c.TimesOut meet (d ⌈/⌉ c.limiter.pollInterval.nanos) d := by
  intro first
  have hanswer (n : Nat) (hpolls : c.Polls meet n) :
      c.answer meet n = .ok (decide (τ ≤ n * c.limiter.pollInterval.nanos)) := by
    have hnow := (((polls_iff_due hregular hattended n).1 hpolls).makes hregular hattended).now
    rw [hanswers n hpolls, hnow]
    exact congrArg Except.ok (decide_eq_decide.2 (Nat.add_le_add_iff_left))
  have hdenied (n : Nat) (hn : n < τ ⌈/⌉ c.limiter.pollInterval.nanos) (hpolls : c.Polls meet n) :
      c.answer meet n = .ok false := by
    rw [hanswer n hpolls, decide_eq_false (Nat.not_le_of_lt ((lt_ceilDiv_iff hregular.pos).1 hn))]
  refine ⟨fun hearly => ?_, fun d hd hle => ?_⟩
  · have hdue : c.Due meet deadline (τ ⌈/⌉ c.limiter.pollInterval.nanos) :=
      due_of_denied hregular hattended hearly hdenied
    have hmakes := hdue.makes hregular hattended
    have hreached : τ ≤ first := by
      have hnot := mt (lt_ceilDiv_iff hregular.pos).2 (Nat.lt_irrefl
        (τ ⌈/⌉ c.limiter.pollInterval.nanos))
      exact Nat.le_of_not_lt hnot
    have hadmitted : c.answer meet (τ ⌈/⌉ c.limiter.pollInterval.nanos) = .ok true := by
      rw [hanswer _ ((polls_iff_due hregular hattended _).2 hdue), decide_eq_true hreached]
    obtain ⟨w, hsame, hended⟩ := hmakes.ends (by simp [hadmitted])
    rw [hadmitted] at hended
    have hthen : w.now = (meet 0).now + first := hsame.now.trans hmakes.now
    refine ⟨w, hthen, ?_, hended⟩
    rw [hthen, Nat.add_assoc]
    exact Nat.add_lt_add_left (ceilDiv_mul_lt hregular.pos) _
  · refine (timesOut_of_denied hregular hattended (fun n hpolls => hdenied n ?_ hpolls) hd).2
    have hearly := ((polls_iff_due hregular hattended n).1 hpolls).early d hd
    exact Nat.lt_of_mul_lt_mul_right (Nat.lt_of_lt_of_le hearly hle)

/-! ### A wait that is left to itself -/

/-- The worlds that a wait meets while nobody else does anything, each with how the stretch ends
there: time passes until its pause is over. -/
def lone (c : Wait) (w : World σ) : Nat → World σ × Turn Wait (Except LimiterError Unit) × World σ
  | 0 => (w, Wait.start c.limiter c.ctx c.key c.limit c.window w)
  | n + 1 =>
      match c.lone w n with
      | (_, .pause on rest, u) =>
          (u.passed on,
            match (u.passed on).wake? on with
            | some wake => rest.resume wake ((u.passed on).afterPause on wake)
            | none => (.pause on rest, u))
      | ended => ended

/-- The worlds that a wait meets while nobody else does anything. -/
def meets (c : Wait) (w : World σ) (n : Nat) : World σ := (c.lone w n).1

theorem story_meets (c : Wait) (w : World σ) (n : Nat) :
    c.story (c.meets w) n = (c.lone w n).2 := by
  induction n with
  | zero => rfl
  | succ n ih =>
      rw [story, ih, meets, lone]
      cases hlone : c.lone w n with
      | mk v r =>
          obtain ⟨turn, u⟩ := r
          cases turn with
          | done result => rfl
          | pause on rest => rfl

/-- After a sleep the wait goes on where time has passed. -/
theorem lone_succ {w u v : World σ} {n now : Nat} {d : Duration} {rest : Wait}
    (h : c.lone w n = (v, .pause (.asleep ctx now d) rest, u)) :
    ∃ wake, (u.passed (.asleep ctx now d)).wake? (.asleep ctx now d) = some wake ∧
      c.lone w (n + 1) = (u.passed (.asleep ctx now d), rest.resume wake
        (u.passed (.asleep ctx now d))) := by
  obtain ⟨wake, hwake⟩ := u.wake?_passed ctx now d
  exact ⟨wake, hwake, by simp only [lone, h, hwake, World.afterPause_asleep]⟩

/-- A wait that is left to itself sleeps on behalf of its context, which stays as it is. -/
theorem lone_asleep (htimer : c.limiter.sleeper = .timer) (w : World σ) (n : Nat) :
    (c.lone w n).1.contexts = w.contexts ∧ (c.lone w n).2.2.contexts = w.contexts ∧
      ∀ on rest, (c.lone w n).2.1 = .pause on rest →
        ∃ now, on = .asleep c.ctx now c.limiter.pollInterval ∧ rest.Of c.limiter c.ctx := by
  have htells {act : Act σ (Turn Wait (Except LimiterError Unit))} {v : World σ}
      (h : act.Timely c.ctx (Asleep c.limiter c.ctx v.now) v) (on : Pause) (rest : Wait)
      (hpaused : (act v).1 = .pause on rest) :
      ∃ now, on = .asleep c.ctx now c.limiter.pollInterval ∧ rest.Of c.limiter c.ctx := by
    have hturn := h.turn
    rw [hpaused] at hturn
    exact ⟨v.now, hturn.2⟩
  induction n with
  | zero =>
      have hstart := timely_start htimer c.ctx c.key c.limit c.window w
      have hasleep := htells hstart
      exact ⟨rfl, hstart.contexts, hasleep⟩
  | succ n ih =>
      cases hlone : c.lone w n with
      | mk v r =>
          obtain ⟨turn, u⟩ := r
          rw [hlone] at ih
          obtain ⟨hmet, hleft, hasleep⟩ := ih
          cases turn with
          | done result =>
              rw [lone, hlone]
              exact ⟨hmet, hleft, hasleep⟩
          | pause on rest =>
              obtain ⟨now, rfl, hof⟩ := hasleep on rest rfl
              obtain ⟨wake, hwake, hnext⟩ := lone_succ hlone
              have hresume := timely_resume hof htimer hwake
              have hpassed := (u.contexts_passed (.asleep c.ctx now c.limiter.pollInterval)).trans
                hleft
              rw [hnext]
              exact ⟨hpassed, hresume.contexts.trans hpassed, htells hresume⟩

/-- **A wait that is left to itself is attended to**, if its context is not cancelled. -/
theorem attended_meets (htimer : c.limiter.sleeper = .timer) {w : World σ}
    (huncancelled : w.contexts.isCancelled c.ctx = false) : c.Attended (c.meets w) := by
  have hpause {n : Nat} {on : Pause} {rest : Wait} {u : World σ}
      (h : c.story (c.meets w) n = (.pause on rest, u)) :
      c.meets w (n + 1) = u.passed on ∧ ∃ wake, (u.passed on).wake? on = some wake := by
    rw [story_meets] at h
    have hlone : c.lone w n = ((c.lone w n).1, .pause on rest, u) := Prod.ext rfl h
    obtain ⟨now, rfl, -⟩ := (lone_asleep htimer w n).2.2 on rest (congrArg Prod.fst h)
    obtain ⟨wake, hwake, hnext⟩ := lone_succ hlone
    exact ⟨congrArg Prod.fst hnext, wake, hwake⟩
  refine ⟨fun h => ?_, fun h => ?_, huncancelled, fun {n} _ _ _ _ => ?_⟩
  · rw [(hpause h).1]
    exact World.meanwhile_passed ..
  · rw [(hpause h).1]
    exact (hpause h).2
  · rw [meets, (lone_asleep htimer w (n + 1)).1]
    exact huncancelled

/-! ### When a wait polls -/

/-- **When a wait polls, and when and how it ends.**  It polls at every multiple of its interval
that comes before its deadline, as long as its polls are denied: each poll is one decision, and if
it is not denied the wait ends at that instant as it was answered.  If all are denied there are as
many polls as intervals begin before the deadline, and the wait times out at the deadline.  So if
polls are denied before an instant and admitted from it on, the wait is admitted within an interval
from there, or else times out at the deadline. -/
theorem polls_on_schedule (hregular : c.Regular (meet 0) deadline) (hattended : c.Attended meet) :
    let start := (meet 0).now
    let interval := c.limiter.pollInterval.nanos
    (∀ n, c.Polls meet n ↔
      (∀ d ∈ deadline, n * interval < d) ∧ ∀ m < n, c.answer meet m = .ok false) ∧
    (∀ n, c.Polls meet n → c.Makes meet n ∧
      (c.answer meet n ≠ .ok false → ∃ w, w.now = start + n * interval ∧
        ∀ m ≥ n, c.story meet m = (.done ((c.answer meet n).map fun _ => ()), w))) ∧
    (∀ d ∈ deadline, (∀ n, c.Polls meet n → c.answer meet n = .ok false) →
      (∀ n, c.Polls meet n ↔ n < d ⌈/⌉ interval) ∧ c.TimesOut meet (d ⌈/⌉ interval) d) ∧
    ∀ τ, (∀ n, c.Polls meet n →
        c.answer meet n = .ok (decide (start + τ ≤ (meet n).now))) →
      ((∀ d ∈ deadline, τ ⌈/⌉ interval * interval < d) → ∃ w, w.now < start + τ + interval ∧
        ∀ n ≥ τ ⌈/⌉ interval, c.story meet n = (.done (.ok ()), w)) ∧
      ∀ d ∈ deadline, d ≤ τ ⌈/⌉ interval * interval → c.TimesOut meet (d ⌈/⌉ interval) d := by
  intro start interval
  refine ⟨fun n => ?_, fun n hpolls => ?_, fun d hd hdenied => ?_, fun τ hanswers => ?_⟩
  · rw [polls_iff_due hregular hattended]
    exact ⟨fun hdue => ⟨hdue.early, hdue.denied⟩, fun h => ⟨h.1, h.2⟩⟩
  · have hmakes := ((polls_iff_due hregular hattended n).1 hpolls).makes hregular hattended
    refine ⟨hmakes, fun hfinal => ?_⟩
    obtain ⟨w, hsame, hended⟩ := hmakes.ends hfinal
    exact ⟨w, hsame.now.trans hmakes.now, hended⟩
  · exact timesOut_of_denied hregular hattended hdenied hd
  · obtain ⟨hadmitted, htimes⟩ := ends_of_admitting hregular hattended hanswers
    refine ⟨fun hearly => ?_, htimes⟩
    obtain ⟨w, -, hwithin, hended⟩ := hadmitted hearly
    exact ⟨w, hwithin, hended⟩

end Decisions

/-- A wait for a key without any quota, with a poll every 100 milliseconds. -/
def hopeless : Wait :=
  ⟨⟨Duration.ofMillis 100, .timer, .own, false⟩, 1, "k", 0, Duration.ofMillis 1000, 0⟩

/-- Its start, with a deadline in 150 milliseconds. -/
def hopelessStart : World MemoryStore :=
  { World.start 0 0 MemoryStore.initial with
    contexts := (Contexts.initial.withDeadline 0 (Instant.ofMillis 150)).2 }

/-- Left to itself it polls twice, and times out at its deadline. -/
theorem polls_on_schedule_hopeless :
    (∀ n, hopeless.Polls (hopeless.meets hopelessStart) n ↔ n < 2) ∧
      hopeless.TimesOut (hopeless.meets hopelessStart) 2 (Instant.ofMillis 150) := by
  have hattended : hopeless.Attended (hopeless.meets hopelessStart) :=
    attended_meets rfl (by decide +kernel)
  have hregular : hopeless.Regular (hopeless.meets hopelessStart 0)
      (some (Instant.ofMillis 150)) := by
    refine ⟨rfl, by decide +kernel, by decide +kernel, ⟨0, rfl⟩, by decide +kernel,
      by decide +kernel, ?_⟩
    rintro d hd
    obtain rfl := Option.some.inj hd
    decide
  obtain ⟨hpolls, -, hdenied, -⟩ := polls_on_schedule hregular hattended
  have hinterval : hopeless.limiter.pollInterval.nanos = 100000000 := by decide +kernel
  have htwo : Instant.ofMillis 150 ⌈/⌉ hopeless.limiter.pollInterval.nanos = 2 := by
    rw [hinterval, Nat.ceilDiv_eq_add_pred_div]
    decide
  rw [← htwo]
  refine hdenied _ rfl fun n hn => ?_
  -- no poll but the first two comes before the deadline
  have hearly := ((hpolls n).1 hn).1 _ rfl
  rw [hinterval, Instant.ofMillis] at hearly
  obtain rfl | rfl : n = 0 ∨ n = 1 := by omega
  · decide +kernel
  · decide +kernel

end Wait

end Turnstile
