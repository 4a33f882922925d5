/-
**The attempts of a run.**

A run under a policy calls its operation with the attempt numbers from one on.  To see these calls
one lets the operation note each of them beside the store, with the instant and the answer.  Then in
virtual time, with operations that take no time, without jitter and whatever the answers are, all is
said by the notes: every attempt but the last was answered with an error that another attempt may
mend, the sleep after it was over before the deadline, and the next attempt was made at its end.

A run ends in one of three ways.  The last answer is final, or it is that of the last attempt
allowed; then it is the result.  Or else the context is finished by the end of the sleep that
follows; then this is the result, at the deadline, or at once if this was over when the sleep began,
and there is no further attempt.  Where the sleep ends with the deadline the context is asked first.

Timers fire on whole milliseconds.  The start, the delays and the deadline are taken to lie on them.

Main definitions:

* `Attempt`, `AttemptedStore`, `Steps.noting` — an operation that notes its calls beside the store;
* `RetryPolicy.tasks` — a run as a task;
* `RetryPolicy.begins` — when an attempt is made, counted from zero;
* `RetryPolicy.Regular`, `Unhurried`, `RetryPolicy.Attended` — what is taken for granted of the
  policy, the operation and the others;
* `RetryPolicy.Makes` — a stretch with an attempt;
* `RetryPolicy.Ends` — how a run ends after an attempt, and when.

Main results:

* `RetryPolicy.settle_of_ending`, `RetryPolicy.settle_of_live`, `RetryPolicy.settle_of_finished` —
  what a policy makes of an answer;
* `RetryPolicy.Makes.over_or_makes` — **an attempt is the last one, or the next one follows**;
* `RetryPolicy.attended_meets` — a run that is left to itself is attended to;
* `RetryPolicy.run_attempts` — **the attempts of a run, and when and how it ends**.
-/

import Mathlib.Algebra.BigOperators.Group.Finset.Basic
import Turnstile.Proofs.Retry.Delays
import Turnstile.Proofs.Scenario.Prompt
import Turnstile.Proofs.World.Story

set_option relaxedAutoImplicit false
set_option autoImplicit false

namespace Turnstile

variable {σ α κ : Type} {ctx : ContextId}

/-! ### Noted attempts -/

/-- A call of an operation as it is noted: the number of the attempt, the instant and the answer. -/
structure Attempt (α : Type) where
  number : Nat
  now : Nat
  answer : Except LimiterError α

/-- A store with the attempts noted beside it. -/
structure AttemptedStore (σ α : Type) where
  store : σ
  attempts : List (Attempt α)

/-- An operation that answers at once, and notes its calls beside the store. -/
def Steps.noting (call : Nat → Act σ (Except LimiterError α)) :
    Steps (AttemptedStore σ α) Empty α where
  call := fun number w =>
    let (answer, v) := call number (w.around w.backend.store)
    (.done answer, v.around ⟨v.backend, w.backend.attempts ++ [⟨number, w.now, answer⟩]⟩)
  resume := fun rest => nomatch rest
  abandon := fun rest => nomatch rest

/-- An operation that answers at once. -/
def Steps.atOnce (call : Nat → Act σ (Except LimiterError α)) : Steps σ Empty α where
  call := fun number => return .done (← call number)
  resume := fun rest => nomatch rest
  abandon := fun rest => nomatch rest

/-- A world without the notes. -/
def World.bare (w : World (AttemptedStore σ α)) : World σ := w.around w.backend.store

theorem World.afterPause_bare (w : World (AttemptedStore σ α)) (on : Pause) (wake : Wake) :
    w.bare.afterPause on wake = (w.afterPause on wake).bare := by
  unfold afterPause
  cases wake with
  | context cause => rfl
  | timer => cases on.moves <;> rfl

/-- An operation that takes no time and does not cancel a context. -/
structure Unhurried (ctx : ContextId) (call : Nat → Act σ (Except LimiterError α)) : Prop where
  prompt : ∀ number, (call number).Prompt
  uncancelled : ∀ number w, w.contexts.isCancelled ctx = false →
    (call number w).2.contexts.isCancelled ctx = false

namespace RetryPolicy

variable {p : RetryPolicy}

/-! ### What a policy makes of an answer -/

/-- The end of a run with an error changes nothing but the reports. -/
theorem giveUp_world (p : RetryPolicy) (number : Nat) (e : LimiterError) (w : World σ) :
    ∃ v, World.SameButReports w v ∧
      (p.giveUp number e : Act σ (Turn (Retrying κ) (Except _ α))) w = (.done (.error e), v) := by
  unfold giveUp
  split
  · exact ⟨_, World.SameButReports.log w (.retriesExhausted number e), rfl⟩
  · exact ⟨w, ⟨w.reports, rfl⟩, rfl⟩

/-- An answer that is final, or that of the last attempt allowed, is the result. -/
theorem settle_of_ending (ctx : ContextId) {answer : Except LimiterError α} {number : Nat}
    (h : (∀ e, answer = .error e → e.isRetryable = false) ∨ p.maxAttempts ≤ number)
    (w : World σ) :
    ∃ v, World.SameButReports w v ∧
      (p.settle ctx number answer : Act σ (Turn (Retrying κ) _)) w = (.done answer, v) := by
  cases answer with
  | ok a => exact ⟨w, ⟨w.reports, rfl⟩, rfl⟩
  | error e =>
      cases hretry : e.isRetryable with
      | false =>
          refine ⟨w, ⟨w.reports, rfl⟩, ?_⟩
          simp only [settle, hretry, Bool.not_false, if_true]
          rfl
      | true =>
          have hlast : p.maxAttempts ≤ number := by
            rcases h with hfinal | hlast
            · exact absurd (hfinal e rfl) (by simp [hretry])
            · exact hlast
          obtain ⟨v, hsame, hgiven⟩ := p.giveUp_world (κ := κ) (α := α) number e w
          refine ⟨v, hsame, ?_⟩
          simp only [settle, hretry, Bool.not_true, Bool.false_eq_true, if_false, if_pos hlast]
          exact hgiven

variable {e : LimiterError} {number : Nat} {w : World σ}

/-- Any other answer is followed by a sleep, without jitter for the delay of the attempt. -/
theorem settle_of_retryable (hjitter : p.jitter = .none) (hretry : e.isRetryable = true)
    (hmore : number < p.maxAttempts) :
    (p.settle ctx number (.error e) : Act σ (Turn (Retrying κ) (Except _ α))) w =
      (Act.sleep ctx p.sleeper (p.backoff.delay number) >>= fun slept => pure (resting number slept))
        (Act.log (.retrying number (p.backoff.delay number) e) w).2 := by
  simp only [settle, hretry, Bool.not_true, Bool.false_eq_true, if_false, Nat.not_le.2 hmore,
    backOff, hjitter]
  rfl

/-- While the context is live the sleep begins, -/
theorem settle_of_live (hjitter : p.jitter = .none) (htimer : p.sleeper = .timer)
    (hretry : e.isRetryable = true) (hmore : number < p.maxAttempts)
    (hlive : w.status ctx = none) :
    ∃ v, World.SameButReports w v ∧
      (p.settle ctx number (.error e) : Act σ (Turn (Retrying κ) (Except _ α))) w =
        (.pause (.asleep ctx w.now (p.backoff.delay number)) (.backingOff number), v) := by
  have hlive' : (Act.log (.retrying number (p.backoff.delay number) e) w).2.status ctx = none :=
    hlive
  refine ⟨_, World.SameButReports.log w (.retrying number (p.backoff.delay number) e), ?_⟩
  rw [settle_of_retryable hjitter hretry hmore, Act.bind_apply, htimer, Act.sleep_timer hlive']
  rfl

/-- and otherwise the run ends. -/
theorem settle_of_finished (hjitter : p.jitter = .none) (hretry : e.isRetryable = true)
    (hmore : number < p.maxAttempts) {cause : ContextError} (hover : w.status ctx = some cause) :
    ∃ v, World.SameButReports w v ∧
      (p.settle ctx number (.error e) : Act σ (Turn (Retrying κ) (Except _ α))) w =
        (.done (.error (.context cause)), v) := by
  have hread : Act.status ctx (Act.log (.retrying number (p.backoff.delay number) e) w).2 =
      (some cause, (Act.log (.retrying number (p.backoff.delay number) e) w).2) := by
    have hover' : (Act.log (.retrying number (p.backoff.delay number) e) w).2.status ctx =
        some cause := hover
    rw [Act.status, hover']
  refine ⟨_, World.SameButReports.log w (.retrying number (p.backoff.delay number) e), ?_⟩
  rw [settle_of_retryable hjitter hretry hmore, Act.bind_apply, Act.sleep, Act.bind_apply, hread]
  rfl

/-! ### The stretches of a run -/

/-- A run under a policy as a task. -/
def tasks (p : RetryPolicy) (ctx : ContextId) (op : Steps σ κ α) :
    Tasks σ Unit (Retrying κ) (Except LimiterError α) where
  start := fun _ => p.start ctx op
  resume := p.resume ctx op
  abandon := RetryPolicy.abandon op

/-- A run and what it answers do not depend on the notes: neither does an attempt, -/
theorem attempt_bare (p : RetryPolicy) (ctx : ContextId)
    (call : Nat → Act σ (Except LimiterError α)) (number : Nat) (w : World (AttemptedStore σ α)) :
    p.attempt ctx (.atOnce call) number w.bare =
      ((p.attempt ctx (.noting call) number w).1, (p.attempt ctx (.noting call) number w).2.bare) := by
  let answer := (call number w.bare).1
  let after := (call number w.bare).2
  let v : World (AttemptedStore σ α) :=
    after.around ⟨after.backend, w.backend.attempts ++ [⟨number, w.now, answer⟩]⟩
  have hsettle := p.aloof_settle (σ := AttemptedStore σ α) (τ := σ) (κ := Empty) ctx number answer
  have hsame : p.settle ctx number answer after =
      ((p.settle ctx number answer v).1, (p.settle ctx number answer v).2.around after.backend) :=
    hsettle.same v after.backend
  have hstore : (p.settle ctx number answer v).2.backend.store = after.backend :=
    congrArg AttemptedStore.store (hsettle.keeps v)
  change p.settle ctx number answer after =
    ((p.settle ctx number answer v).1, (p.settle ctx number answer v).2.bare)
  rw [hsame, World.bare, hstore]

/-- nor a stretch. -/
theorem story_bare (p : RetryPolicy) (ctx : ContextId)
    (call : Nat → Act σ (Except LimiterError α)) (meet : Nat → World (AttemptedStore σ α))
    (n : Nat) :
    (p.tasks ctx (.atOnce call)).story () (fun n => (meet n).bare) n =
      (((p.tasks ctx (.noting call)).story () meet n).1,
        ((p.tasks ctx (.noting call)).story () meet n).2.bare) := by
  induction n with
  | zero => exact p.attempt_bare ctx call 1 (meet 0)
  | succ n ih =>
      cases hstory : (p.tasks ctx (.noting call)).story () meet n with
      | mk turn w =>
          rw [hstory] at ih
          cases turn with
          | done result => simp only [Tasks.story, ih, hstory]
          | pause on rest =>
              have hwakes : (meet (n + 1)).bare.wake? on = (meet (n + 1)).wake? on := rfl
              cases hwake : (meet (n + 1)).wake? on with
              | none => simp only [Tasks.story, ih, hstory, hwakes, hwake]
              | some wake =>
                  simp only [Tasks.story, ih, hstory, hwakes, hwake, World.afterPause_bare]
                  cases rest with
                  | calling number rest => cases rest
                  | backingOff number =>
                      cases wake with
                      | timer => exact p.attempt_bare ctx call (number + 1) _
                      | context cause => rfl

/-- When an attempt is made in a run that begins at an instant; the first one is counted as zero. -/
def begins (p : RetryPolicy) (start n : Nat) : Nat :=
  start + ∑ i ∈ Finset.range n, (p.backoff.delay (i + 1)).nanos

/-- Between two attempts lies the delay. -/
theorem begins_succ (p : RetryPolicy) (start n : Nat) :
    p.begins start (n + 1) = p.begins start n + (p.backoff.delay (n + 1)).nanos := by
  rw [begins, begins, Finset.sum_range_succ, Nat.add_assoc]

/-- A policy in virtual time without jitter, whose delays are whole milliseconds, for a run whose
start and deadline, if it has one, are whole milliseconds too. -/
structure Regular (p : RetryPolicy) (ctx : ContextId) (w : World σ) (deadline : Option Nat) :
    Prop where
  pos : 1 ≤ p.maxAttempts
  jitter : p.jitter = .none
  timer : p.sleeper = .timer
  delays : ∀ n, 1000000 ∣ (p.backoff.delay n).nanos
  start : 1000000 ∣ w.now
  registered : ctx < w.contexts.nodes.size
  deadline?_eq : w.contexts.deadline? ctx = deadline
  whole : ∀ t ∈ deadline, 1000000 ∣ t

/-- All attempts are made on whole milliseconds. -/
theorem Regular.dvd_begins {deadline : Option Nat} (h : p.Regular ctx w deadline) (n : Nat) :
    1000000 ∣ p.begins w.now n := by
  induction n with
  | zero => exact h.start
  | succ n ih =>
      rw [begins_succ]
      exact Nat.dvd_add ih (h.delays (n + 1))

variable {call : Nat → Act σ (Except LimiterError α)} {meet : Nat → World (AttemptedStore σ α)}

/-- A run is attended to: others do what they may and leave the notes alone, the run goes on after
every pause, and its context is not cancelled. -/
structure Attended (p : RetryPolicy) (ctx : ContextId) (call : Nat → Act σ (Except LimiterError α))
    (meet : Nat → World (AttemptedStore σ α)) : Prop
    extends (p.tasks ctx (.noting call)).Attended () meet where
  blank : (meet 0).backend.attempts = []
  notes : ∀ {n on rest w}, (p.tasks ctx (.noting call)).story () meet n = (.pause on rest, w) →
    (meet (n + 1)).backend.attempts = w.backend.attempts
  begins : (meet 0).contexts.isCancelled ctx = false
  uncancelled : ∀ {n on rest w},
    (p.tasks ctx (.noting call)).story () meet n = (.pause on rest, w) →
    (meet (n + 1)).contexts.isCancelled ctx = false

/-- What the operation answers in a stretch with an attempt. -/
def answer (call : Nat → Act σ (Except LimiterError α)) (meet : Nat → World (AttemptedStore σ α))
    (n : Nat) : Except LimiterError α :=
  (call (n + 1) (meet n).bare).1

/-- The first attempts of a run: numbered from one on without gaps, each after the delay of the one
before, with the answers in the worlds that the run meets. -/
def attempts (p : RetryPolicy) (call : Nat → Act σ (Except LimiterError α))
    (meet : Nat → World (AttemptedStore σ α)) (n : Nat) : List (Attempt α) :=
  (List.range n).map fun i => ⟨i + 1, p.begins (meet 0).now i, answer call meet i⟩

theorem attempts_succ (p : RetryPolicy) (call : Nat → Act σ (Except LimiterError α))
    (meet : Nat → World (AttemptedStore σ α)) (n : Nat) :
    p.attempts call meet (n + 1) =
      p.attempts call meet n ++ [⟨n + 1, p.begins (meet 0).now n, answer call meet n⟩] := by
  rw [attempts, attempts, List.range_succ, List.map_append]
  rfl

/-- A run makes an attempt in a stretch, counted from zero like the attempts: at its instant, as
one call that is noted, and it goes on as the policy makes of the answer. -/
structure Makes (p : RetryPolicy) (ctx : ContextId) (call : Nat → Act σ (Except LimiterError α))
    (meet : Nat → World (AttemptedStore σ α)) (n : Nat) : Prop where
  now : (meet n).now = p.begins (meet 0).now n
  evolves : (meet 0).contexts.Evolves (meet n).contexts
  once : ∃ v, v.now = (meet n).now ∧ (meet n).contexts.Evolves v.contexts ∧
    v.contexts.isCancelled ctx = false ∧ v.backend.attempts = p.attempts call meet (n + 1) ∧
    (p.tasks ctx (.noting call)).story () meet n =
      p.settle ctx (n + 1) (answer call meet n) v

/-- An attempt is one call that is noted, and what the policy makes of the answer. -/
theorem attempt_noting (hcall : Unhurried ctx call) (number : Nat)
    {w : World (AttemptedStore σ α)} (huncancelled : w.contexts.isCancelled ctx = false) :
    let answer := (call number w.bare).1
    ∃ v, v.now = w.now ∧ w.contexts.Evolves v.contexts ∧ v.contexts.isCancelled ctx = false ∧
      v.backend.attempts = w.backend.attempts ++ [⟨number, w.now, answer⟩] ∧
      p.attempt ctx (.noting call) number w = p.settle ctx number answer v := by
  intro answer
  let v := (call number w.bare).2
  have hprompt := hcall.prompt number w.bare
  have hstays := hcall.uncancelled number w.bare huncancelled
  exact ⟨v.around ⟨v.backend, w.backend.attempts ++ [⟨number, w.now, answer⟩]⟩, hprompt.1,
    hprompt.2, hstays, rfl, rfl⟩

/-- A stretch that begins with an attempt makes it, if the attempts before are noted. -/
theorem Makes.of_attempt (hcall : Unhurried ctx call) {n : Nat}
    (huncancelled : (meet n).contexts.isCancelled ctx = false)
    (hnow : (meet n).now = p.begins (meet 0).now n)
    (hevolves : (meet 0).contexts.Evolves (meet n).contexts)
    (hnotes : (meet n).backend.attempts = p.attempts call meet n)
    (hstory : (p.tasks ctx (.noting call)).story () meet n =
      p.attempt ctx (.noting call) (n + 1) (meet n)) : p.Makes ctx call meet n := by
  obtain ⟨v, hv, hev, hlive, hnoted, hattempt⟩ :=
    attempt_noting (p := p) hcall (n + 1) huncancelled
  refine ⟨hnow, hevolves, v, hv, hev, hlive, ?_, hstory.trans hattempt⟩
  rw [hnoted, hnotes, attempts_succ, hnow]
  rfl

/-- Every run makes a first attempt. -/
theorem makes_first (hcall : Unhurried ctx call) (hattended : p.Attended ctx call meet) :
    p.Makes ctx call meet 0 := by
  refine .of_attempt hcall hattended.begins rfl .refl ?_ rfl
  rw [hattended.blank]
  rfl

/-! ### From one attempt to the next -/

variable {deadline : Option Nat} {n : Nat}

/-- How a run ends after an attempt, counted from zero, that was answered so: with what result, and
when. -/
inductive Ends (p : RetryPolicy) (deadline : Option Nat) (start n : Nat)
    (answer : Except LimiterError α) : Except LimiterError α → Nat → Prop
  /-- The answer is a success, or an error that another attempt cannot mend. -/
  | final (h : ∀ e, answer = .error e → e.isRetryable = false) :
      Ends p deadline start n answer answer (p.begins start n)
  /-- It was the last attempt allowed. -/
  | exhausted (h : n + 1 = p.maxAttempts) :
      Ends p deadline start n answer answer (p.begins start n)
  /-- The context is finished when the sleep begins, before its end, or with it. -/
  | timedOut {t : Nat} {e : LimiterError} (ht : t ∈ deadline) (failed : answer = .error e)
      (retryable : e.isRetryable = true) (more : n + 1 < p.maxAttempts)
      (late : t ≤ p.begins start (n + 1)) :
      Ends p deadline start n answer (.error (.context .deadlineExceeded))
        (max t (p.begins start n))

/-- The next attempt is due: the answer allows it, and the sleep is over before the deadline. -/
structure GoesOn (p : RetryPolicy) (deadline : Option Nat) (start n : Nat)
    (answer : Except LimiterError α) : Prop where
  retryable : ∃ e, answer = .error e ∧ e.isRetryable = true
  more : n + 1 < p.maxAttempts
  early : ∀ t ∈ deadline, p.begins start (n + 1) < t

/-- A run is over after an attempt: with a result, for good, and without a further attempt. -/
def Over (p : RetryPolicy) (ctx : ContextId) (call : Nat → Act σ (Except LimiterError α))
    (meet : Nat → World (AttemptedStore σ α)) (n : Nat) (result : Except LimiterError α)
    (now : Nat) : Prop :=
  ∃ w, w.now = now ∧ w.backend.attempts = p.attempts call meet (n + 1) ∧
    ∀ m > n, (p.tasks ctx (.noting call)).story () meet m = (.done result, w)

/-- An attempt whose answer ends the run. -/
theorem Makes.over_of_ending (h : p.Makes ctx call meet n)
    (hends : (∀ e, answer call meet n = .error e → e.isRetryable = false) ∨
      p.maxAttempts ≤ n + 1) :
    p.Over ctx call meet n (answer call meet n) (p.begins (meet 0).now n) := by
  obtain ⟨v, hnow, -, -, hnoted, hstory⟩ := h.once
  obtain ⟨u, hsame, hsettle⟩ := settle_of_ending (κ := Empty) ctx hends v
  refine ⟨u, hsame.now.trans (hnow.trans h.now), ?_, fun m hm => ?_⟩
  · rw [hsame.backend]
    exact hnoted
  · exact Tasks.story_of_le (Nat.le_of_lt hm) (hstory.trans hsettle)

/-- An attempt that another one may follow: the sleep after it is over before the deadline, and
then the next attempt is made, or the run times out. -/
theorem Makes.sleeps (hregular : p.Regular ctx (meet 0) deadline) (hcall : Unhurried ctx call)
    (hattended : p.Attended ctx call meet) (h : p.Makes ctx call meet n) {e : LimiterError}
    (hanswer : answer call meet n = .error e) (hretry : e.isRetryable = true)
    (hmore : n + 1 < p.maxAttempts) :
    ((∀ t ∈ deadline, p.begins (meet 0).now (n + 1) < t) ∧ p.Makes ctx call meet (n + 1)) ∨
      ∃ t ∈ deadline, t ≤ p.begins (meet 0).now (n + 1) ∧
        p.Over ctx call meet n (.error (.context .deadlineExceeded))
          (max t (p.begins (meet 0).now n)) := by
  obtain ⟨v, hnow, hevolves, huncancelled, hnoted, hstory⟩ := h.once
  have hstart : v.now = p.begins (meet 0).now n := hnow.trans h.now
  have hnext : v.now + (p.backoff.delay (n + 1)).nanos = p.begins (meet 0).now (n + 1) := by
    rw [hstart, begins_succ]
  have hfrom : (meet 0).contexts.Evolves v.contexts := h.evolves.trans hevolves
  have hdeadline : v.contexts.deadline? ctx = deadline :=
    (hfrom.deadline?_eq hregular.registered).trans hregular.deadline?_eq
  rw [hanswer] at hstory
  rcases Contexts.err?_of_uncancelled huncancelled v.now with ⟨hlive, -⟩ | ⟨hover, t, ht, hle⟩
  · obtain ⟨u, ⟨reports, rfl⟩, hsettle⟩ :=
      settle_of_live (κ := Empty) (α := α) hregular.jitter hregular.timer hretry hmore hlive
    have hpaused := hstory.trans hsettle
    have hmeanwhile := hattended.meanwhile hpaused
    obtain ⟨wake, hwake⟩ := hattended.wakes hpaused
    have hgoes := Tasks.story_succ hpaused hwake
    have hwhole : 1000000 ∣ v.now + (p.backoff.delay (n + 1)).nanos :=
      hnext ▸ hregular.dvd_begins (n + 1)
    rcases hmeanwhile.ends_asleep hwake rfl hlive (hattended.uncancelled hpaused)
      (hfrom.registered hregular.registered) hdeadline hwhole hregular.whole with
      ⟨rfl, -, hthen, hahead⟩ | ⟨rfl, -, hthen, hle⟩
    · -- the timer was first, and the next attempt begins
      left
      refine ⟨fun t ht => hnext ▸ hahead t ht, ?_⟩
      exact .of_attempt hcall (hattended.uncancelled hpaused) (hthen.trans hnext)
        (hfrom.trans hmeanwhile.evolves) ((hattended.notes hpaused).trans hnoted) hgoes
    · -- the deadline was first, and the next stretch is the last one
      right
      have hahead : v.now < (meet (n + 1)).now :=
        Contexts.lt_of_live hlive (hdeadline.trans hthen)
      refine ⟨_, hthen, hnext ▸ hle, meet (n + 1), ?_, (hattended.notes hpaused).trans hnoted, ?_⟩
      · omega
      · exact fun m hm => Tasks.story_of_le hm hgoes
  · -- the context is finished when the sleep would begin
    right
    obtain ⟨u, hsame, hsettle⟩ :=
      settle_of_finished (κ := Empty) (α := α) hregular.jitter hretry hmore hover
    refine ⟨t, hdeadline.symm.trans ht, by omega, u, ?_, ?_, fun m hm => ?_⟩
    · rw [hsame.now]
      omega
    · rw [hsame.backend]
      exact hnoted
    · exact Tasks.story_of_le (Nat.le_of_lt hm) (hstory.trans hsettle)

/-- **An attempt is the last one, or the next one follows.** -/
theorem Makes.over_or_makes (hregular : p.Regular ctx (meet 0) deadline)
    (hcall : Unhurried ctx call) (hattended : p.Attended ctx call meet)
    (h : p.Makes ctx call meet n) (hn : n < p.maxAttempts) :
    (∃ result now, p.Ends deadline (meet 0).now n (answer call meet n) result now ∧
        p.Over ctx call meet n result now) ∨
      p.GoesOn deadline (meet 0).now n (answer call meet n) ∧ p.Makes ctx call meet (n + 1) := by
  by_cases hfinal : ∀ e, answer call meet n = .error e → e.isRetryable = false
  · exact Or.inl ⟨_, _, .final hfinal, h.over_of_ending (Or.inl hfinal)⟩
  · by_cases hlast : p.maxAttempts ≤ n + 1
    · exact Or.inl ⟨_, _, .exhausted (Nat.le_antisymm hn hlast), h.over_of_ending (Or.inr hlast)⟩
    · have hmore : n + 1 < p.maxAttempts := Nat.lt_of_not_le hlast
      obtain ⟨e, hanswer, hretry⟩ : ∃ e, answer call meet n = .error e ∧ e.isRetryable = true := by
        simpa using hfinal
      rcases h.sleeps hregular hcall hattended hanswer hretry hmore with
        ⟨hearly, hmakes⟩ | ⟨t, ht, hle, hover⟩
      · exact Or.inr ⟨⟨⟨e, hanswer, hretry⟩, hmore, hearly⟩, hmakes⟩
      · exact Or.inl ⟨_, _, .timedOut ht hanswer hretry hmore hle, hover⟩

/-- A run that makes an attempt has a last one: there are only so many. -/
theorem Makes.exists_last (hregular : p.Regular ctx (meet 0) deadline)
    (hcall : Unhurried ctx call) (hattended : p.Attended ctx call meet)
    (h : p.Makes ctx call meet n) (hn : n < p.maxAttempts) :
    ∃ m, n ≤ m ∧ m < p.maxAttempts ∧
      (∀ i, n ≤ i → i < m → p.GoesOn deadline (meet 0).now i (answer call meet i)) ∧
      ∃ result now, p.Ends deadline (meet 0).now m (answer call meet m) result now ∧
        p.Over ctx call meet m result now := by
  induction hleft : p.maxAttempts - n generalizing n with
  | zero => omega
  | succ left ih =>
      rcases h.over_or_makes hregular hcall hattended hn with hover | ⟨hgoes, hnext⟩
      · refine ⟨n, Nat.le_refl n, hn, fun i hni hin => ?_, hover⟩
        exact absurd hin (Nat.not_lt.2 hni)
      · obtain ⟨m, hnm, hm, hbefore, hover⟩ := ih hnext hgoes.more (by omega)
        refine ⟨m, Nat.le_of_succ_le hnm, hm, fun i hni him => ?_, hover⟩
        rcases Nat.eq_or_lt_of_le hni with rfl | hlt
        · exact hgoes
        · exact hbefore i hlt him

/-! ### A run that is left to itself -/

/-- A stretch of a run: its context is not cancelled then, and where it pauses it sleeps between
two attempts. -/
def Slept (ctx : ContextId) :
    Turn (Retrying Empty) (Except LimiterError α) × World (AttemptedStore σ α) → Prop
  | (.done _, w) => w.contexts.isCancelled ctx = false
  | (.pause on rest, w) => w.contexts.isCancelled ctx = false ∧
      ∃ now d number, on = .asleep ctx now d ∧ rest = .backingOff number

theorem slept_settle (hjitter : p.jitter = .none) (htimer : p.sleeper = .timer) (number : Nat)
    (answer : Except LimiterError α) {w : World (AttemptedStore σ α)}
    (huncancelled : w.contexts.isCancelled ctx = false) :
    Slept ctx (p.settle ctx number answer w) := by
  by_cases hends : (∀ e, answer = .error e → e.isRetryable = false) ∨ p.maxAttempts ≤ number
  · obtain ⟨v, ⟨reports, rfl⟩, hsettle⟩ := settle_of_ending (κ := Empty) ctx hends w
    rw [hsettle]
    exact huncancelled
  · obtain ⟨hretries, hmore⟩ := not_or.1 hends
    obtain ⟨e, rfl, hretry⟩ : ∃ e, answer = .error e ∧ e.isRetryable = true := by
      simpa using hretries
    cases hstatus : w.status ctx with
    | none =>
        obtain ⟨v, ⟨reports, rfl⟩, hsettle⟩ := settle_of_live (κ := Empty) (α := α) hjitter htimer
          hretry (Nat.lt_of_not_le hmore) hstatus
        rw [hsettle]
        exact ⟨huncancelled, _, _, _, rfl, rfl⟩
    | some cause =>
        obtain ⟨v, ⟨reports, rfl⟩, hsettle⟩ := settle_of_finished (κ := Empty) (α := α) hjitter
          hretry (Nat.lt_of_not_le hmore) hstatus
        rw [hsettle]
        exact huncancelled

theorem slept_attempt (hjitter : p.jitter = .none) (htimer : p.sleeper = .timer)
    (hcall : Unhurried ctx call) (number : Nat) {w : World (AttemptedStore σ α)}
    (huncancelled : w.contexts.isCancelled ctx = false) :
    Slept ctx (p.attempt ctx (.noting call) number w) := by
  obtain ⟨v, -, -, hstays, -, hattempt⟩ := attempt_noting (p := p) hcall number huncancelled
  rw [hattempt]
  exact slept_settle hjitter htimer number _ hstays

theorem slept_lone (hjitter : p.jitter = .none) (htimer : p.sleeper = .timer)
    (hcall : Unhurried ctx call) {w : World (AttemptedStore σ α)}
    (huncancelled : w.contexts.isCancelled ctx = false) (n : Nat) :
    Slept ctx ((p.tasks ctx (.noting call)).story () ((p.tasks ctx (.noting call)).meets () w) n) := by
  induction n with
  | zero => exact slept_attempt hjitter htimer hcall 1 huncancelled
  | succ n ih =>
      cases hstory : (p.tasks ctx (.noting call)).story ()
          ((p.tasks ctx (.noting call)).meets () w) n with
      | mk turn u =>
          rw [hstory] at ih
          cases turn with
          | done result =>
              rw [Tasks.story_of_le (Nat.le_succ n) hstory]
              exact ih
          | pause on rest =>
              obtain ⟨hstill, now, d, number, rfl, rfl⟩ := ih
              obtain ⟨wake, hwake⟩ := u.wake?_passed ctx now d
              rw [Tasks.story_succ hstory (by rw [Tasks.meets_succ hstory]; exact hwake),
                Tasks.meets_succ hstory]
              have hpassed : (u.passed (.asleep ctx now d)).contexts.isCancelled ctx = false := by
                rw [World.contexts_passed]
                exact hstill
              cases wake with
              | timer => exact slept_attempt hjitter htimer hcall (number + 1) hpassed
              | context cause => exact hpassed

/-- **A run that is left to itself is attended to**, if its context is not cancelled and nothing is
noted yet. -/
theorem attended_meets (hjitter : p.jitter = .none) (htimer : p.sleeper = .timer)
    (hcall : Unhurried ctx call) {w : World (AttemptedStore σ α)}
    (hblank : w.backend.attempts = []) (huncancelled : w.contexts.isCancelled ctx = false) :
    p.Attended ctx call ((p.tasks ctx (.noting call)).meets () w) := by
  have hslept {n : Nat} {on : Pause} {rest : Retrying Empty} {u : World (AttemptedStore σ α)}
      (h : (p.tasks ctx (.noting call)).story ()
        ((p.tasks ctx (.noting call)).meets () w) n = (.pause on rest, u)) :
      Slept ctx (.pause on rest, u) := by
    rw [← h]
    exact slept_lone hjitter htimer hcall huncancelled n
  have hasleep : (p.tasks ctx (.noting call)).Attended ()
      ((p.tasks ctx (.noting call)).meets () w) := by
    refine Tasks.attended_meets fun h => ?_
    obtain ⟨-, now, d, -, hon, -⟩ := hslept h
    exact ⟨ctx, now, d, hon⟩
  refine ⟨hasleep, hblank, fun h => ?_, huncancelled, fun h => ?_⟩
  · rw [Tasks.meets_succ h]
    exact congrArg AttemptedStore.attempts (World.backend_passed ..)
  · rw [Tasks.meets_succ h, World.contexts_passed]
    exact (hslept h).1

/-! ### The attempts of a run -/

/-- **The attempts of a run, and when and how it ends.**  There is a last attempt, and no more than
the policy allows.  Every one before is answered with an error that another attempt may mend, and the
delay after it is over before the deadline.  The last answer is final, or there is no attempt left,
and the run ends with it at once; or else the deadline comes by the end of the delay, and the run
ends at the deadline, or at once if this is over.  The attempts are numbered from one on without
gaps, and the delay lies between each and the next. -/
theorem run_attempts (hregular : p.Regular ctx (meet 0) deadline) (hcall : Unhurried ctx call)
    (hattended : p.Attended ctx call meet) :
    ∃ n < p.maxAttempts,
      (∀ i < n, (∃ e, answer call meet i = .error e ∧ e.isRetryable = true) ∧
        ∀ t ∈ deadline, p.begins (meet 0).now (i + 1) < t) ∧
      ∃ result now, p.Ends deadline (meet 0).now n (answer call meet n) result now ∧
        ∃ w, w.now = now ∧
          w.backend.attempts = (List.range (n + 1)).map (fun i =>
            ⟨i + 1, p.begins (meet 0).now i, answer call meet i⟩) ∧
          ∀ m > n, (p.tasks ctx (.noting call)).story () meet m = (.done result, w) ∧
            (p.tasks ctx (.atOnce call)).story () (fun k => (meet k).bare) m =
              (.done result, w.bare) := by
  obtain ⟨n, -, hn, hbefore, result, now, hends, w, hnow, hnoted, hended⟩ :=
    (makes_first hcall hattended).exists_last hregular hcall hattended hregular.pos
  refine ⟨n, hn, fun i hi => ?_, result, now, hends, w, hnow, hnoted, fun m hm => ?_⟩
  · have hgoes := hbefore i (Nat.zero_le i) hi
    exact ⟨hgoes.retryable, hgoes.early⟩
  · refine ⟨hended m hm, ?_⟩
    rw [story_bare, hended m hm]

/-- Three attempts, a tenth of a second apart and then two tenths. -/
def patient : RetryPolicy :=
  ⟨3, .exponential (Duration.ofMillis 100) none, .none, .timer⟩

/-- An operation that cannot reach its store. -/
def unreachable (_ : Nat) : Act Unit (Except LimiterError Unit) :=
  return .error (.store .allowN "k" (.connection "refused"))

/-- The start of its run, with a deadline after a quarter of a second. -/
def patientStart : World (AttemptedStore Unit Unit) :=
  { World.start 0 0 ⟨(), []⟩ with
    contexts := (Contexts.initial.withDeadline 0 (Instant.ofMillis 250)).2 }

/-- Left to itself the run makes two attempts, and ends at the deadline during the second sleep. -/
theorem run_attempts_cut_short :
    ∃ w, w.now = Instant.ofMillis 250 ∧
      w.backend.attempts =
        [⟨1, 0, .error (.store .allowN "k" (.connection "refused"))⟩,
          ⟨2, Instant.ofMillis 100, .error (.store .allowN "k" (.connection "refused"))⟩] ∧
      ∀ m > 1, (patient.tasks 1 (.noting unreachable)).story ()
        ((patient.tasks 1 (.noting unreachable)).meets () patientStart) m =
          (.done (.error (.context .deadlineExceeded)), w) := by
  have hcall : Unhurried 1 unreachable := ⟨fun _ => .pure _, fun _ _ h => h⟩
  have hattended : patient.Attended 1 unreachable
      ((patient.tasks 1 (.noting unreachable)).meets () patientStart) :=
    attended_meets rfl rfl hcall rfl (by decide)
  have hdelays : ∀ n, 1000000 ∣ (patient.backoff.delay n).nanos :=
    Backoff.dvd_nanos_delay (fun k => Dvd.dvd.mul_right ⟨100, rfl⟩ (2 ^ k)) ⟨86400000, rfl⟩
  have hregular : patient.Regular 1 patientStart (some (Instant.ofMillis 250)) := by
    refine ⟨by decide, rfl, rfl, hdelays, ⟨0, rfl⟩, by decide, by decide, ?_⟩
    rintro t ht
    obtain rfl := Option.some.inj ht
    exact ⟨250, rfl⟩
  obtain ⟨n, hn, hbefore, result, now, hends, w, hnow, hnoted, hended⟩ :=
    run_attempts hregular hcall hattended
  have hfirst : patient.begins 0 1 = Instant.ofMillis 100 := by decide +kernel
  have hsecond : patient.begins 0 2 = Instant.ofMillis 300 := by decide +kernel
  have hthree : patient.maxAttempts = 3 := rfl
  cases hends with
  | final hfinal => exact absurd (hfinal _ rfl) (by decide)
  | exhausted hlast =>
      -- the second sleep is not over before the deadline
      have hsleep : patient.begins 0 2 < Instant.ofMillis 250 := (hbefore 1 (by omega)).2 _ rfl
      rw [hsecond] at hsleep
      exact absurd hsleep (by decide)
  | timedOut ht failed retryable more late =>
      obtain rfl := Option.some.inj ht
      have hone : n = 1 := by
        rcases Nat.eq_zero_or_pos n with rfl | hpos
        · -- the first sleep is
          have hover : Instant.ofMillis 250 ≤ patient.begins 0 1 := late
          rw [hfirst] at hover
          exact absurd hover (by decide)
        · omega
      subst hone
      refine ⟨w, ?_, ?_, fun m hm => (hended m hm).1⟩
      · rw [hnow]
        change max _ (patient.begins 0 1) = _
        rw [hfirst]
        decide
      · rw [hnoted, ← hfirst]
        rfl

end RetryPolicy

end Turnstile
