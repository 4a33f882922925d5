/-
**A wait is bounded.**

A layer in wait mode makes one context for a request, whose deadline is the timeout of the layer
after the start, or that of the request if this is earlier.  Every poll and every attempt is on
behalf of this context, and so is every sleep between them.  So the request is decided by the
deadline, however long the polls and the sleeps of the policy are, whatever the store answers and
whatever others do in between; a request that is cancelled is decided at once, and none goes on to
the service once the deadline has come.

That a request is decided at all is a matter of progress.  Each sleep is later than the one before
or belongs to a later stage of the run, there are only so many stages, and time is limited: by the
deadline, or by the horizon beyond which there are no instants.

Of the others it is only assumed that they do what may happen during a pause, which
`Running.meanwhile_proceed` shows for whatever goes on in a scenario.

Main definitions:

* `Layer.story` — the stretches of a request, each in a world that it meets;
* `Layer.Attended` — others do what they may, and the request goes on after every pause;
* `Layer.Lived` — the worlds from the start of a request to its decision;
* `Layer.OnTime` — where a request stands after so many stretches.

Main results:

* `Contexts.hangs_withTimeout` — the context of a wait and its deadline;
* `Layer.onTime_story` — **every stretch of a request is on time**;
* `Layer.decided_by_bound` — **a wait is decided by its bound**, by the cancellation of the request,
  and admitted only before.
-/

import Mathlib.Data.Nat.Find
import Turnstile.Proofs.Admission.Pauses

set_option relaxedAutoImplicit false
set_option autoImplicit false

namespace Turnstile

/-! ### The context of a wait -/

namespace Contexts

theorem earlier_eq_or (existing : Option Nat) (t : Nat) :
    existing = some (earlier existing t) ∨ earlier existing t = t := by
  cases existing with
  | none => exact Or.inr rfl
  | some e =>
      by_cases h : e ≤ t
      · exact Or.inl (by simp [earlier, h])
      · exact Or.inr (by simp [earlier, h])

/-- The earlier of whole milliseconds is a whole millisecond. -/
theorem dvd_earlier {existing : Option Nat} {t : Nat} (hexisting : ∀ e ∈ existing, 1000000 ∣ e)
    (ht : 1000000 ∣ t) : 1000000 ∣ earlier existing t := by
  rcases earlier_eq_or existing t with h | h
  · exact hexisting _ h
  · exact h.symm ▸ ht

/-- **The context of a wait** hangs under that of its request.  It has the earlier of the two
deadlines, unless this is beyond the horizon. -/
theorem hangs_withTimeout {cs : Contexts} {parent : ContextId} (h : parent < cs.nodes.size)
    (now : Nat) (d : Duration) :
    ∃ deadline, (cs.withTimeout parent now d).2.Hangs (cs.withTimeout parent now d).1 parent
        deadline ∧
      (deadline = some (earlier (cs.deadline? parent) (now + d.nanos)) ∨
        Instant.horizon ≤ earlier (cs.deadline? parent) (now + d.nanos)) := by
  unfold withTimeout Instant.after?
  by_cases hnamed : now + d.nanos < Instant.horizon
  · rw [if_pos hnamed]
    exact ⟨_, hangs_add h _, Or.inl rfl⟩
  · rw [if_neg hnamed]
    refine ⟨cs.deadline? parent, hangs_add h _, ?_⟩
    rcases earlier_eq_or (cs.deadline? parent) (now + d.nanos) with hparent | hlate
    · exact Or.inl hparent
    · rw [hlate]
      exact Or.inr (Nat.le_of_not_lt hnamed)

end Contexts

variable {σ : Type} {l : Layer SlidingWindow} {ctx parent : ContextId} {caller : Caller}
  {meet : Nat → World σ}

namespace Layer

/-! ### The stretches of a request -/

/-- The context that a layer makes for a wait, and the contexts with it. -/
def waiting (l : Layer SlidingWindow) (parent : ContextId) (w : World σ) : ContextId × Contexts :=
  w.contexts.withTimeout parent w.now l.waitTimeout

section Story

variable [Backend σ]

/-- The stretches of a request: how each ends, and in which world.  The first one begins in the
world that the request meets first; any other begins in the next world it meets, if its pause is
over there. -/
def story (l : Layer SlidingWindow) (parent : ContextId) (caller : Caller)
    (meet : Nat → World σ) : Nat → Turn (Admitting Wait) Verdict × World σ
  | 0 => l.start parent caller (meet 0)
  | n + 1 =>
      match l.story parent caller meet n with
      | (.pause on rest, w) =>
          match (meet (n + 1)).wake? on with
          | some wake => l.resume rest wake ((meet (n + 1)).afterPause on wake)
          | none => (.pause on rest, w)
      | ended => ended

/-- A request is attended to: between the worlds that it meets others do only what they may during
a pause, no pause is left without going on after it, and every instant can be named. -/
structure Attended (l : Layer SlidingWindow) (parent : ContextId) (caller : Caller)
    (meet : Nat → World σ) : Prop where
  meanwhile : ∀ {n on rest w}, l.story parent caller meet n = (.pause on rest, w) →
    w.Meanwhile on (meet (n + 1))
  wakes : ∀ {n on rest w}, l.story parent caller meet n = (.pause on rest, w) →
    ∃ wake, (meet (n + 1)).wake? on = some wake
  named : ∀ n, (meet n).now < Instant.horizon

/-- The worlds from the start of a request to its decision: the one that it meets first, and those
during its pauses. -/
inductive Lived (l : Layer SlidingWindow) (parent : ContextId) (caller : Caller)
    (meet : Nat → World σ) : World σ → Prop
  | start : Lived l parent caller meet (meet 0)
  | pause {n : Nat} {on : Pause} {rest : Admitting Wait} {w v : World σ}
      (paused : l.story parent caller meet n = (.pause on rest, w)) (before : w.Meanwhile on v)
      (after : v.Meanwhile on (meet (n + 1))) : Lived l parent caller meet v

/-- What is decided stays decided. -/
theorem story_of_le {m n : Nat} (hle : m ≤ n) {verdict : Verdict} {w : World σ}
    (h : l.story parent caller meet m = (.done verdict, w)) :
    l.story parent caller meet n = (.done verdict, w) := by
  induction hle with
  | refl => exact h
  | step _ ih => simp only [story, ih]

/-- A request goes on after a pause. -/
theorem story_succ {n : Nat} {on : Pause} {rest : Admitting Wait} {w : World σ} {wake : Wake}
    (h : l.story parent caller meet n = (.pause on rest, w))
    (hwake : (meet (n + 1)).wake? on = some wake) :
    l.story parent caller meet (n + 1) =
      l.resume rest wake ((meet (n + 1)).afterPause on wake) := by
  simp only [story, h, hwake]

end Story

/-! ### Being on time -/

/-- How a request stands after `n` stretches, at an instant at which its context is finished or
not: if it is decided it is not admitted on behalf of a finished context, and if it pauses its
context is live and the run has got at least so far. -/
inductive Stands (l : Layer SlidingWindow) (ctx : ContextId) (n : Nat)
    (finished : Option ContextError) (now : Nat) : Turn (Admitting Wait) Verdict → Prop
  | decided {verdict : Verdict} (told : verdict = .forward → finished = none) :
      Stands l ctx n finished now (.done verdict)
  | asleep {key : String} {on : Pause} {run : Retrying Wait} (live : finished = none)
      (along : run.Along l.retry ctx l.limiter.pollInterval (·.Of l.limiter ctx) n now on) :
      Stands l ctx n finished now (.pause on (.awaiting key ctx run))

/-- A request that began at an instant is on time after `n` stretches, the last of which began in
the world `v` and has ended in `r`: the stretch took no time, the context of the wait hangs under
that of the request, and the request was not kept beyond the deadline. -/
structure OnTime (l : Layer SlidingWindow) (ctx parent : ContextId) (deadline : Option Nat)
    (start n : Nat) (v : World σ) (r : Turn (Admitting Wait) Verdict × World σ) : Prop where
  now : r.2.now = v.now
  contexts : r.2.contexts = v.contexts
  hangs : v.contexts.Hangs ctx parent deadline
  now_le : ∀ t, deadline = some t → v.now ≤ max start (Instant.tick t)
  named : v.now < Instant.horizon
  stands : l.Stands ctx n (v.status ctx) v.now r.1

/-- On behalf of a finished context a stretch is the last. -/
theorem OnTime.decided {deadline : Option Nat} {start n : Nat} {v : World σ}
    {r : Turn (Admitting Wait) Verdict × World σ}
    (h : l.OnTime ctx parent deadline start n v r) (hfinished : v.status ctx ≠ none) :
    ∃ verdict, r = (.done verdict, r.2) := by
  obtain ⟨turn, w⟩ := r
  cases h.stands with
  | decided _ => exact ⟨_, rfl⟩
  | asleep live => exact absurd live hfinished

/-- A request that is on time was not kept beyond its bound, if this is a whole millisecond. -/
theorem OnTime.now_le_bound {deadline : Option Nat} {start n bound : Nat} {v : World σ}
    {r : Turn (Admitting Wait) Verdict × World σ}
    (h : l.OnTime ctx parent deadline start n v r) (hwhole : Instant.tick bound = bound)
    (hbound : deadline = some bound ∨ Instant.horizon ≤ bound) : r.2.now ≤ max start bound := by
  rw [h.now]
  rcases hbound with hbound | hbound
  · exact hwhole ▸ h.now_le bound hbound
  · exact Nat.le_trans (Nat.le_of_lt h.named) (Nat.le_trans hbound (Nat.le_max_right ..))

/-- A request that goes on to the service does so before its bound. -/
theorem OnTime.lt_bound {deadline : Option Nat} {start n bound : Nat} {v w : World σ}
    (h : l.OnTime ctx parent deadline start n v (.done .forward, w))
    (hbound : deadline = some bound ∨ Instant.horizon ≤ bound) : w.now < bound := by
  have hnow : w.now = v.now := h.now
  rw [hnow]
  rcases hbound with hbound | hbound
  · -- the context of the wait is live then
    cases h.stands with
    | decided told => exact Contexts.lt_of_live (told rfl) (h.hangs.deadline?_eq.trans hbound)
  · exact Nat.lt_of_lt_of_le h.named hbound

/-- A request that is on time and not decided has not gone through more stretches than there are
stages and instants. -/
theorem OnTime.lt_of_pause {deadline : Option Nat} {start n : Nat} {v w : World σ} {on : Pause}
    {rest : Admitting Wait} (h : l.OnTime ctx parent deadline start n v (.pause on rest, w)) :
    n < 2 * max 1 l.retry.maxAttempts + Instant.horizon := by
  cases h.stands with
  | asleep _ along =>
      have hfar := along.far_le
      have hnamed := h.named
      omega

/-! ### One stretch -/

/-- A stretch of a wait in which it is concluded what becomes of the request. -/
def concluding (l : Layer SlidingWindow) (key : String) (ctx : ContextId)
    (act : Act σ (Turn (Retrying Wait) (Except LimiterError Unit))) :
    Act σ (Turn (Admitting Wait) Verdict) := do
  let turn ← act
  l.follow key (turn.map (.awaiting key ctx) (·.map fun _ => true))

theorem keepsTime_follow (l : Layer SlidingWindow) (key : String)
    (turn : Turn (Admitting Wait) (Except LimiterError Bool)) :
    Act.KeepsTime (l.follow key turn : Act σ _) := by
  cases turn with
  | pause on rest => exact .pure _
  | done answer =>
      refine .bind ((Act.KeepsTime.observe _ _).bind fun _ => ?_) fun _ => .pure _
      cases l.verdictEvent? key answer with
      | none => exact .pure _
      | some e => exact (Act.KeepsTime.log e).bind fun _ => .pure _

/-- No request goes on because its context is finished. -/
theorem verdict_context (l : Layer SlidingWindow) (key : String) (cause : ContextError) :
    l.verdict key (.error (.context cause)) ≠ .forward := by
  simp [verdict, failsOpen, LimiterError.isBackend]

/-- How a request stands after a stretch of its run. -/
theorem stands_follow {turn : Turn (Retrying Wait) (Except LimiterError Unit)}
    {finished : Option ContextError} {n now : Nat} (key : String) (w : World σ)
    (h : turn.Timely finished
      (Retrying.Along l.retry ctx l.limiter.pollInterval (·.Of l.limiter ctx) n now)) :
    l.Stands ctx n finished now
      (l.follow key (turn.map (.awaiting key ctx) (·.map fun _ => true)) w).1 := by
  cases turn with
  | pause on run =>
      exact .asleep h.1 h.2
  | done answer =>
      have hverdict : (l.follow key (.done (answer.map fun _ => true)) w).1 =
          (.done (l.verdict key (answer.map fun _ => true)) : Turn (Admitting Wait) Verdict) := by
        rw [← l.conclude_verdict key (answer.map fun _ => true) w]
        rfl
      have hmap : (Turn.done answer : Turn (Retrying Wait) (Except LimiterError Unit)).map
          (.awaiting key ctx) (·.map fun _ => true) =
            (.done (answer.map fun _ => true) : Turn (Admitting Wait) _) := rfl
      rw [hmap, hverdict]
      refine .decided fun hforward => ?_
      cases hfinished : finished with
      | none => rfl
      | some cause =>
          rw [h cause hfinished] at hforward
          exact absurd hforward (l.verdict_context key cause)

theorem onTime_concluding {act : Act σ (Turn (Retrying Wait) (Except LimiterError Unit))}
    {v : World σ} {deadline : Option Nat} {start n : Nat} (key : String)
    (hact : act.Timely ctx
      (Retrying.Along l.retry ctx l.limiter.pollInterval (·.Of l.limiter ctx) n v.now) v)
    (hangs : v.contexts.Hangs ctx parent deadline)
    (hnow : ∀ t, deadline = some t → v.now ≤ max start (Instant.tick t))
    (hnamed : v.now < Instant.horizon) :
    l.OnTime ctx parent deadline start n v (l.concluding key ctx act v) := by
  have hkeeps := l.keepsTime_follow key
    ((act v).1.map (.awaiting key ctx) (·.map fun _ => true)) (act v).2
  exact ⟨hkeeps.1.trans hact.now, hkeeps.2.trans hact.contexts, hangs, hnow, hnamed,
    stands_follow key _ hact.turn⟩

variable [Backend σ]

/-- A wait as an operation to be retried sleeps for the poll interval, again and again. -/
theorem timely_waitSteps (hlimiter : l.limiter.sleeper = .timer) (key : String)
    (ctx : ContextId) :
    (l.waitSteps key ctx : Steps σ Wait Unit).Timely ctx l.limiter.pollInterval
      (·.Of l.limiter ctx) where
  call := fun _ w => (Act.KeepsTime.log _).timely_bind
    (Wait.timely_start hlimiter ctx key l.limit l.window (Act.log _ w).2)
  resume := fun hrest hwake => Wait.timely_resume hrest hlimiter hwake

/-- **The first stretch of a request is on time.** -/
theorem onTime_start (hmode : l.waitMode = true) (hlimiter : l.limiter.sleeper = .timer)
    (hretry : l.retry.sleeper = .timer) (caller : Caller) {w : World σ} {deadline : Option Nat}
    (hangs : (l.waiting parent w).2.Hangs (l.waiting parent w).1 parent deadline)
    (hnamed : w.now < Instant.horizon) :
    l.OnTime (l.waiting parent w).1 parent deadline w.now 0
      { w with contexts := (l.waiting parent w).2 } (l.start parent caller w) := by
  have hstart : l.start parent caller w = l.concluding (l.key caller) (l.waiting parent w).1
      (l.retry.start (l.waiting parent w).1 (l.waitSteps (l.key caller) (l.waiting parent w).1))
      { w with contexts := (l.waiting parent w).2 } := by
    unfold start ask
    rw [hmode]
    rfl
  rw [hstart]
  exact onTime_concluding (l.key caller)
    (RetryPolicy.timely_start hretry (timely_waitSteps hlimiter _ _) _) hangs
    (fun t _ => Nat.le_max_left ..) hnamed

/-- **A stretch after a pause is on time** if the one before was. -/
theorem onTime_resume (hlimiter : l.limiter.sleeper = .timer) (hretry : l.retry.sleeper = .timer)
    (hpoll : 0 < l.limiter.pollInterval.nanos) {deadline : Option Nat} {start n : Nat}
    {u v w : World σ} {on : Pause} {rest : Admitting Wait}
    (h : l.OnTime ctx parent deadline start n u (.pause on rest, w)) (hmeanwhile : w.Meanwhile on v)
    (hnamed : v.now < Instant.horizon) {wake : Wake} (hwake : v.wake? on = some wake) :
    l.OnTime ctx parent deadline start (n + 1) v (l.resume rest wake (v.afterPause on wake)) := by
  obtain ⟨hnow, hcontexts, hangs, hle, -, hstands⟩ := h
  simp only at hnow hcontexts
  rw [← hcontexts] at hangs
  cases hstands with
  | @asleep key _ run _ along =>
      obtain ⟨delay, rfl⟩ := along.exists_asleep
      have hafter : v.afterPause (.asleep ctx u.now delay) wake = v := by cases wake <;> rfl
      have hresume : l.resume (.awaiting key ctx run) wake v = l.concluding key ctx
          (l.retry.resume ctx (l.waitSteps key ctx) run wake) v := rfl
      rw [hafter, hresume]
      have hnext := RetryPolicy.timely_resume hretry (timely_waitSteps hlimiter key ctx) hpoll along
        hwake
      refine onTime_concluding key hnext (hangs.evolves hmeanwhile.evolves) (fun t ht => ?_) hnamed
      -- no pause lasts beyond the deadline
      subst ht
      have hpause := hmeanwhile.now_le rfl hangs
      have hbefore := hle t rfl
      omega

/-! ### The whole of a request -/

section Request

variable {deadline : Option Nat} (hmode : l.waitMode = true)
  (hlimiter : l.limiter.sleeper = .timer) (hretry : l.retry.sleeper = .timer)
  (hpoll : 0 < l.limiter.pollInterval.nanos) (hattended : l.Attended parent caller meet)
  (hangs : (l.waiting parent (meet 0)).2.Hangs (l.waiting parent (meet 0)).1 parent deadline)

include hmode hlimiter hretry hpoll hattended hangs

/-- **Every stretch of a request is on time.** -/
theorem onTime_story (n : Nat) :
    ∃ v, l.OnTime (l.waiting parent (meet 0)).1 parent deadline (meet 0).now n v
      (l.story parent caller meet n) := by
  induction n with
  | zero => exact ⟨_, onTime_start hmode hlimiter hretry caller hangs (hattended.named 0)⟩
  | succ n ih =>
      obtain ⟨v, hv⟩ := ih
      cases hstory : l.story parent caller meet n with
      | mk turn w =>
          rw [hstory] at hv
          cases turn with
          | done verdict =>
              -- nothing happens any more
              obtain ⟨hnow, hcontexts, hangs', hle, hnamed, hstands⟩ := hv
              refine ⟨v, ?_⟩
              rw [story_of_le (Nat.le_succ n) hstory]
              refine ⟨hnow, hcontexts, hangs', hle, hnamed, ?_⟩
              cases hstands with
              | decided told => exact .decided told
          | pause on rest =>
              obtain ⟨wake, hwake⟩ := hattended.wakes hstory
              refine ⟨meet (n + 1), ?_⟩
              rw [story_succ hstory hwake]
              exact onTime_resume hlimiter hretry hpoll hv (hattended.meanwhile hstory)
                (hattended.named (n + 1)) hwake

/-- **A request that is cancelled is decided at once.** -/
theorem decided_of_cancelled {v : World σ} (hlived : l.Lived parent caller meet v)
    (hcancelled : v.contexts.isCancelled parent = true) :
    ∃ n verdict w, l.story parent caller meet n = (.done verdict, w) ∧ w.now = v.now := by
  cases hlived with
  | start =>
      have hontime := onTime_start hmode hlimiter hretry caller hangs (hattended.named 0)
      have hparent := (Contexts.evolves_withTimeout (meet 0).contexts parent (meet 0).now
        l.waitTimeout).cancelled hcancelled
      obtain ⟨verdict, hdone⟩ := hontime.decided (hangs.err?_ne_none hparent _)
      exact ⟨0, verdict, _, hdone, hontime.now⟩
  | @pause n on rest w _ paused before after =>
      obtain ⟨u, hu⟩ := onTime_story hmode hlimiter hretry hpoll hattended hangs n
      rw [paused] at hu
      obtain ⟨wake, hwake⟩ := hattended.wakes paused
      have hnext := onTime_resume hlimiter hretry hpoll hu (hattended.meanwhile paused)
        (hattended.named (n + 1)) hwake
      have hcontext : on.context = some (l.waiting parent (meet 0)).1 := by
        cases hu.stands with
        | asleep _ along =>
            obtain ⟨delay, rfl⟩ := along.exists_asleep
            rfl
      have hangs' := hu.hangs
      rw [← hu.contexts] at hangs'
      have hfinished := (hangs'.evolves before.evolves).err?_ne_none hcancelled v.now
      obtain ⟨hsame, hstill⟩ := after.now_eq hcontext hfinished
      obtain ⟨verdict, hdone⟩ := hnext.decided hstill
      exact ⟨n + 1, verdict, _, (story_succ paused hwake).trans hdone, hnext.now.trans hsame⟩

end Request

/-- **A request is decided**: there are only so many stages, and time is limited. -/
theorem exists_last {deadline : Option Nat} {start : Nat}
    (hontime : ∀ n, ∃ v, l.OnTime ctx parent deadline start n v (l.story parent caller meet n)) :
    ∃ last verdict w,
      (∀ n < last, ∃ on rest w, l.story parent caller meet n = (.pause on rest, w)) ∧
      ∀ n ≥ last, l.story parent caller meet n = (.done verdict, w) := by
  classical
  have hdecided : ∃ n verdict w, l.story parent caller meet n = (.done verdict, w) := by
    refine ⟨2 * max 1 l.retry.maxAttempts + Instant.horizon, ?_⟩
    obtain ⟨v, hv⟩ := hontime (2 * max 1 l.retry.maxAttempts + Instant.horizon)
    cases hstory : l.story parent caller meet
        (2 * max 1 l.retry.maxAttempts + Instant.horizon) with
    | mk turn w =>
        cases turn with
        | done verdict => exact ⟨verdict, w, rfl⟩
        | pause on rest =>
            rw [hstory] at hv
            exact absurd hv.lt_of_pause (Nat.lt_irrefl _)
  obtain ⟨verdict, w, hlast⟩ := Nat.find_spec hdecided
  refine ⟨Nat.find hdecided, verdict, w, fun n hn => ?_, fun n hn => story_of_le hn hlast⟩
  cases hstory : l.story parent caller meet n with
  | mk turn w =>
      cases turn with
      | done verdict => exact absurd ⟨verdict, w, hstory⟩ (Nat.find_min hdecided hn)
      | pause on rest => exact ⟨on, rest, w, rfl⟩

/-- **A wait is bounded.**  A request to a layer in wait mode is decided.  It is decided by the
timeout of the layer after its start, or by the deadline of its context if this is earlier, or at
its start if that is over already; by the cancellation of its context if this is cancelled before;
and if it goes on to the service then before this bound.  The bound is one for all attempts.  A poll
interval of zero, which would take up no time, is refused when a limiter is built. -/
theorem decided_by_bound (hmode : l.waitMode = true) (hlimiter : l.limiter.sleeper = .timer)
    (hretry : l.retry.sleeper = .timer) (hpoll : l.limiter.pollInterval.isZero = false)
    (caller : Caller) (hparent : parent < (meet 0).contexts.nodes.size)
    (hstart : 1000000 ∣ (meet 0).now) (htimeout : 1000000 ∣ l.waitTimeout.nanos)
    (hdeadline : ∀ t, (meet 0).contexts.deadline? parent = some t → 1000000 ∣ t)
    (hattended : l.Attended parent caller meet) :
    let bound := Contexts.earlier ((meet 0).contexts.deadline? parent)
      ((meet 0).now + l.waitTimeout.nanos)
    ∃ last verdict w,
      (∀ n < last, ∃ on rest w, l.story parent caller meet n = (.pause on rest, w)) ∧
      (∀ n ≥ last, l.story parent caller meet n = (.done verdict, w)) ∧
      w.now ≤ max (meet 0).now bound ∧
      (verdict = .forward → w.now < bound) ∧
      ∀ v, l.Lived parent caller meet v → v.contexts.isCancelled parent = true →
        w.now ≤ v.now := by
  intro bound
  have hpoll' : 0 < l.limiter.pollInterval.nanos := by
    simpa [Duration.isZero, Nat.pos_iff_ne_zero] using hpoll
  have hwhole : Instant.tick bound = bound :=
    Instant.tick_of_dvd (Contexts.dvd_earlier hdeadline (Nat.dvd_add hstart htimeout))
  obtain ⟨deadline, hangs, hbound⟩ :=
    Contexts.hangs_withTimeout hparent (meet 0).now l.waitTimeout
  have hontime := onTime_story hmode hlimiter hretry hpoll' hattended hangs
  obtain ⟨last, verdict, w, hpauses, hdone⟩ := exists_last hontime
  obtain ⟨v, hv⟩ := hontime last
  rw [hdone last (Nat.le_refl _)] at hv
  refine ⟨last, verdict, w, hpauses, hdone, hv.now_le_bound hwhole hbound, ?_, ?_⟩
  · rintro rfl
    exact hv.lt_bound hbound
  · intro v' hlived hcancelled
    obtain ⟨n, verdict', w', hstory, hsame⟩ :=
      decided_of_cancelled hmode hlimiter hretry hpoll' hattended hangs hlived hcancelled
    -- there is one decision only
    have hlater := story_of_le (Nat.le_max_left n last) hstory
    rw [hdone _ (Nat.le_max_right n last)] at hlater
    obtain ⟨-, rfl⟩ := Prod.mk.inj hlater
    exact Nat.le_of_eq hsame

/-- A layer that waits for 150 milliseconds at most, and retries every five seconds. -/
def retryingSlowly : Layer SlidingWindow :=
  ⟨.plain, Caller.addressKey, 5, Duration.ofMillis 1000, 1, true, Duration.ofMillis 150,
    ⟨3, .constant (Duration.ofMillis 5000), .none, .timer⟩, .failOpen, 429, "rate limit exceeded",
    500, "internal server error", Rejection.response, AdmissionError.response, false⟩

/-- A world whose store cannot be reached once, and whose context `1` has a deadline in 100
milliseconds. -/
def unreachableOnce : World MemoryStore :=
  { World.start 0 0 (MemoryStore.initial.failNext (.connection "refused")) with
    contexts := (Contexts.initial.withDeadline 0 (Instant.ofMillis 100)).2 }

/-- The retry is never made: the deadline of the request comes before it, and before the timeout of
the layer. -/
theorem decided_by_bound_backing_off :
    let meet (n : Nat) : World MemoryStore :=
      if n = 0 then unreachableOnce
      else Schedule.passTo (Instant.ofMillis 100)
        (retryingSlowly.start 1 ⟨none, []⟩ unreachableOnce).2
    retryingSlowly.Attended 1 ⟨none, []⟩ meet ∧
      ∃ verdict w, retryingSlowly.story 1 ⟨none, []⟩ meet 1 = (.done verdict, w) ∧
        w.now ≤ Instant.ofMillis 100 := by
  intro meet
  let on : Pause := .asleep 2 0 (Duration.ofMillis 5000)
  have hfirst : retryingSlowly.story 1 ⟨none, []⟩ meet 0 =
      (.pause on (.awaiting "unknown" 2 (.backingOff 1)),
        (retryingSlowly.start 1 ⟨none, []⟩ unreachableOnce).2) := by
    have hzero : retryingSlowly.story 1 ⟨none, []⟩ meet 0 =
        retryingSlowly.start 1 ⟨none, []⟩ unreachableOnce := rfl
    have hturn : (retryingSlowly.start 1 ⟨none, []⟩ unreachableOnce).1 =
        .pause on (.awaiting "unknown" 2 (.backingOff 1)) := rfl
    rw [hzero]
    exact Prod.ext hturn rfl
  have hwaits : (retryingSlowly.start 1 ⟨none, []⟩ unreachableOnce).2.wake?
      (.asleep 2 0 (Duration.ofMillis 5000)) = none := by decide +kernel
  have hdue : (retryingSlowly.start 1 ⟨none, []⟩ unreachableOnce).2.due
      (.asleep 2 0 (Duration.ofMillis 5000)) = some (Instant.ofMillis 100) := by decide +kernel
  have hwake : (meet 1).wake? on = some (.context .deadlineExceeded) := by
    have hpassed : (Schedule.passTo (Instant.ofMillis 100)
        (retryingSlowly.start 1 ⟨none, []⟩ unreachableOnce).2).wake?
          (.asleep 2 0 (Duration.ofMillis 5000)) = some (.context .deadlineExceeded) := by
      decide +kernel
    exact hpassed
  have hsecond : ∃ verdict w, retryingSlowly.story 1 ⟨none, []⟩ meet 1 = (.done verdict, w) := by
    rw [story_succ hfirst hwake]
    exact ⟨_, _, rfl⟩
  -- there is one pause only
  have honce {n : Nat} {on' : Pause} {rest : Admitting Wait} {w : World MemoryStore}
      (h : retryingSlowly.story 1 ⟨none, []⟩ meet n = (.pause on' rest, w)) : n = 0 := by
    obtain ⟨verdict, w', hdone⟩ := hsecond
    by_contra hn
    rw [story_of_le (Nat.one_le_iff_ne_zero.2 hn) hdone] at h
    exact nomatch h
  have hattended : retryingSlowly.Attended 1 ⟨none, []⟩ meet := by
    refine ⟨fun {n on' rest w} h => ?_, fun {n on' rest w} h => ?_, fun n => ?_⟩
    · obtain rfl := honce h
      rw [hfirst] at h
      obtain ⟨hturn, rfl⟩ := Prod.mk.inj h
      obtain ⟨rfl, -⟩ := Turn.pause.inj hturn
      refine .pass (Instant.ofMillis 100) .refl hwaits fun t ht => ?_
      exact Nat.le_of_eq (Option.some.inj (hdue.symm.trans ht))
    · obtain rfl := honce h
      rw [hfirst] at h
      obtain ⟨hturn, -⟩ := Prod.mk.inj h
      obtain ⟨rfl, -⟩ := Turn.pause.inj hturn
      exact ⟨_, hwake⟩
    · by_cases hn : n = 0
      · simp only [meet, hn, if_true]
        decide
      · simp only [meet, hn, if_false]
        decide +kernel
  have hdeadline : (meet 0).contexts.deadline? 1 = some (Instant.ofMillis 100) := rfl
  have hwhole (t : Nat) (ht : (meet 0).contexts.deadline? 1 = some t) : 1000000 ∣ t :=
    Option.some.inj (hdeadline.symm.trans ht) ▸ (by decide)
  obtain ⟨last, verdict, w, hpauses, hdone, hle, -⟩ := decided_by_bound rfl rfl rfl rfl ⟨none, []⟩
    (by decide) ⟨0, rfl⟩ (by decide) hwhole hattended
  have hlast : last ≤ 1 := by
    by_contra hlate
    obtain ⟨on', rest, w', hpause⟩ := hpauses 1 (Nat.lt_of_not_le hlate)
    exact absurd (honce hpause) Nat.one_ne_zero
  have hbound : max unreachableOnce.now (Contexts.earlier (unreachableOnce.contexts.deadline? 1)
      (unreachableOnce.now + retryingSlowly.waitTimeout.nanos)) = Instant.ofMillis 100 := by
    decide +kernel
  exact ⟨hattended, verdict, w, hdone 1 hlast, Nat.le_trans hle (Nat.le_of_eq hbound)⟩

end Layer

end Turnstile
