/-
**What happens while a call sleeps.**

Between two stretches of a call others may do as they like: they call the store, report, move the
clocks, make contexts and cancel them.  What they cannot do is take time, make a cancelled context
live again, or change where a context comes from and when it ends.  Time passes only while the pause
of the call is not over, and not beyond the instant at which it is due.  So a call that sleeps on
behalf of a context with a deadline goes on by the deadline, whatever others do, and at once if the
context is cancelled.

This is all that is assumed about the others.  It is what a schedule does: whenever a job at a pause
is not the one that goes on, whatever else the schedule does happens in this sense.

Main definitions:

* `Contexts.Evolves` — contexts are added and cancelled, and nothing else happens to them;
* `Contexts.Hangs` — a context that comes from another one and is cancelled with it;
* `World.Meanwhile` — what may happen during a pause;
* `World.passed` — the world once a pause is over while nothing else happens;
* `Pause.asleep` — the pause of a sleep in virtual time.

Main results:

* `Contexts.Hangs.evolves` — a context goes on hanging under another one;
* `World.Meanwhile.now_le_timer`, `World.Meanwhile.now_le_deadline`, `World.Meanwhile.now_eq` — **a
  pause ends by its timer and by the deadline of its context, and at once if this is finished**;
* `World.Meanwhile.ends_asleep` — **a sleep ends when its delay is over, or at the deadline**;
* `World.wake?_asleep`, `World.wake?_passed` — what ends a sleep, and that time does;
* `Schedule.meanwhile_next?`, `Schedule.meanwhile_proceed` — **a schedule does nothing else during
  the pause of a job**.
-/

import Turnstile.Schedule

set_option relaxedAutoImplicit false
set_option autoImplicit false

namespace Turnstile

/-! ### Contexts in the course of time -/

namespace Contexts

/-- One registry comes from another: contexts were added and cancelled, and nothing else. -/
inductive Evolves (cs : Contexts) : Contexts → Prop
  | refl : Evolves cs cs
  | add {cs' : Contexts} (c : Context) (h : Evolves cs cs') : Evolves cs (cs'.add c).2
  | cancel {cs' : Contexts} (i : ContextId) (h : Evolves cs cs') : Evolves cs (cs'.cancel i)

theorem Evolves.trans {cs cs' cs'' : Contexts} (h : Evolves cs cs') (h' : Evolves cs' cs'') :
    Evolves cs cs'' := by
  induction h' with
  | refl => exact h
  | add c _ ih => exact ih.add c
  | cancel i _ ih => exact ih.cancel i

variable {cs cs' : Contexts} {i j ctx parent : ContextId} {deadline : Option Nat}

theorem get?_add {c d : Context} (h : cs.get? i = some c) : (cs.add d).2.get? i = some c := by
  have hlt : i < cs.nodes.size := (Array.getElem?_eq_some_iff.1 h).1
  rw [← h]
  simp [add, get?, Array.getElem?_push, Nat.ne_of_lt hlt]

theorem get?_cancel (cs : Contexts) (i j : ContextId) :
    (cs.cancel i).get? j = (cs.get? j).map fun c =>
      if cs.descends i j then { c with cancelled := true } else c := by
  simp [cancel, get?, Array.getElem?_mapIdx]

/-- To evolve keeps a context in its place, with its deadline, and cancelled if it was. -/
theorem Evolves.get? (h : cs.Evolves cs') {c : Context} (hc : cs.get? i = some c) :
    ∃ c', cs'.get? i = some c' ∧ c'.parent = c.parent ∧ c'.deadline = c.deadline ∧
      (c.cancelled = true → c'.cancelled = true) := by
  induction h with
  | refl => exact ⟨c, hc, rfl, rfl, id⟩
  | add d _ ih =>
      obtain ⟨c', hc', hparent, hdeadline, hcancelled⟩ := ih
      exact ⟨c', get?_add hc', hparent, hdeadline, hcancelled⟩
  | @cancel cs' j _ ih =>
      obtain ⟨c', hc', hparent, hdeadline, hcancelled⟩ := ih
      refine ⟨if cs'.descends j i then { c' with cancelled := true } else c', ?_, ?_⟩
      · rw [get?_cancel, hc']
        rfl
      · split
        · exact ⟨hparent, hdeadline, fun _ => rfl⟩
        · exact ⟨hparent, hdeadline, hcancelled⟩

/-- What is registered stays so, -/
theorem Evolves.registered (h : cs.Evolves cs') (hi : i < cs.nodes.size) :
    i < cs'.nodes.size := by
  obtain ⟨c', hc', -⟩ := h.get? (Array.getElem?_eq_getElem hi)
  exact (Array.getElem?_eq_some_iff.1 hc').1

/-- and keeps its deadline, if it has one. -/
theorem Evolves.deadline?_eq (h : cs.Evolves cs') (hi : i < cs.nodes.size) :
    cs'.deadline? i = cs.deadline? i := by
  have hc : cs.get? i = some cs.nodes[i] := Array.getElem?_eq_getElem hi
  obtain ⟨c', hc', -, hdeadline, -⟩ := h.get? hc
  rw [deadline?, deadline?, hc, hc']
  exact hdeadline

/-- What is cancelled stays cancelled, -/
theorem Evolves.cancelled (h : cs.Evolves cs') (hcancelled : cs.isCancelled i = true) :
    cs'.isCancelled i = true := by
  cases hc : cs.get? i with
  | none => simp [isCancelled, hc] at hcancelled
  | some c =>
      obtain ⟨c', hc', -, -, hstays⟩ := h.get? hc
      rw [isCancelled, hc] at hcancelled
      rw [isCancelled, hc']
      exact hstays hcancelled

/-- and what is finished stays finished. -/
theorem Evolves.err?_ne_none (h : cs.Evolves cs') {now : Nat} (hfinished : cs.err? i now ≠ none) :
    cs'.err? i now ≠ none := by
  cases hc : cs.get? i with
  | none => simp [err?, isCancelled, deadline?, hc] at hfinished
  | some c =>
      obtain ⟨c', hc', -, hdeadline, hcancelled⟩ := h.get? hc
      simp only [err?, isCancelled, deadline?, hc, hc', Option.bind_some, hdeadline] at hfinished ⊢
      cases hsame : c'.cancelled with
      | true => simp
      | false =>
          have hnot : c.cancelled = false := by
            cases hwas : c.cancelled with
            | false => rfl
            | true => exact absurd (hcancelled hwas) (by simp [hsame])
          simpa [hnot] using hfinished

/-- The deadline of a live context lies ahead. -/
theorem lt_of_live {cs : Contexts} {i : ContextId} {now t : Nat} (hlive : cs.err? i now = none)
    (hdeadline : cs.deadline? i = some t) : now < t := by
  rw [err?, hdeadline] at hlive
  refine Nat.lt_of_not_le fun hlate => ?_
  cases hcancelled : cs.isCancelled i <;> simp [hcancelled, hlate] at hlive

/-- A context that is not cancelled is live before its deadline, and finished from then on. -/
theorem err?_of_uncancelled {cs : Contexts} (h : cs.isCancelled ctx = false) (now : Nat) :
    (cs.err? ctx now = none ∧ ∀ t, cs.deadline? ctx = some t → now < t) ∨
      (cs.err? ctx now = some .deadlineExceeded ∧ ∃ t, cs.deadline? ctx = some t ∧ t ≤ now) := by
  unfold err?
  rw [h]
  cases cs.deadline? ctx with
  | none => exact Or.inl ⟨rfl, fun _ ht => nomatch ht⟩
  | some t =>
      by_cases hover : t ≤ now
      · exact Or.inr ⟨by simp [hover], t, rfl, hover⟩
      · refine Or.inl ⟨by simp [hover], fun t' ht => ?_⟩
        exact Option.some.inj ht ▸ Nat.lt_of_not_le hover

theorem evolves_withTimeout (cs : Contexts) (i : ContextId) (now : Nat) (d : Duration) :
    cs.Evolves (cs.withTimeout i now d).2 := by
  unfold withTimeout
  split <;> exact .add _ .refl

/-- A context hangs under another one: it comes from this, it has a deadline of its own, and it is
cancelled if this is. -/
structure Hangs (cs : Contexts) (ctx parent : ContextId) (deadline : Option Nat) : Prop where
  lt : parent < ctx
  node : ∃ cancelled, cs.get? ctx = some ⟨some parent, cancelled, deadline⟩
  cancelled : cs.isCancelled parent = true → cs.isCancelled ctx = true

/-- A context that is made from a registered one hangs under it. -/
theorem hangs_add (h : parent < cs.nodes.size) (deadline : Option Nat) :
    (cs.add ⟨some parent, cs.isCancelled parent, deadline⟩).2.Hangs
      (cs.add ⟨some parent, cs.isCancelled parent, deadline⟩).1 parent deadline := by
  have hnode : (cs.add ⟨some parent, cs.isCancelled parent, deadline⟩).2.get? cs.nodes.size =
      some ⟨some parent, cs.isCancelled parent, deadline⟩ := by
    simp [add, get?]
  have hparent : (cs.add ⟨some parent, cs.isCancelled parent, deadline⟩).2.get? parent =
      cs.get? parent := by
    simp [add, get?, Array.getElem?_push, Nat.ne_of_lt h]
  refine ⟨h, ⟨_, hnode⟩, fun hcancelled => ?_⟩
  rw [isCancelled, hparent] at hcancelled
  change isCancelled _ cs.nodes.size = true
  rw [isCancelled, hnode]
  exact hcancelled

theorem descends_of_parent {cancelled : Bool}
    (hnode : cs.get? ctx = some ⟨some parent, cancelled, deadline⟩) (hlt : parent < ctx)
    (h : cs.descends i parent = true) : cs.descends i ctx = true := by
  rw [descends, hnode]
  simp [hlt, h]

theorem isCancelled_cancel (cs : Contexts) (i j : ContextId) :
    (cs.cancel i).isCancelled j = true ↔
      cs.isCancelled j = true ∨ (cs.get? j).isSome ∧ cs.descends i j = true := by
  unfold isCancelled
  rw [get?_cancel]
  cases cs.get? j with
  | none => simp
  | some c => by_cases h : cs.descends i j = true <;> simp [h]

/-- **A context goes on hanging under another one**, whatever contexts are added and cancelled. -/
theorem Hangs.evolves (h : cs.Hangs ctx parent deadline) (he : cs.Evolves cs') :
    cs'.Hangs ctx parent deadline := by
  induction he with
  | refl => exact h
  | @add cs' d _ ih =>
      obtain ⟨hlt, ⟨cancelled, hnode⟩, hcancelled⟩ := ih
      have hsize : ctx < cs'.nodes.size := (Array.getElem?_eq_some_iff.1 hnode).1
      have hparent : (cs'.add d).2.get? parent = cs'.get? parent := by
        simp [add, get?, Array.getElem?_push, Nat.ne_of_lt (Nat.lt_trans hlt hsize)]
      refine ⟨hlt, ⟨cancelled, get?_add hnode⟩, fun hc => ?_⟩
      rw [isCancelled, hparent] at hc
      have hctx := hcancelled hc
      rw [isCancelled, hnode] at hctx
      rw [isCancelled, get?_add hnode]
      exact hctx
  | @cancel cs' j _ ih =>
      obtain ⟨hlt, ⟨cancelled, hnode⟩, hcancelled⟩ := ih
      refine ⟨hlt, ?_, fun hc => ?_⟩
      · rw [get?_cancel, hnode]
        by_cases hdescends : cs'.descends j ctx = true
        · exact ⟨true, by simp [hdescends]⟩
        · exact ⟨cancelled, by simp [hdescends]⟩
      · -- what is cancelled with the parent is cancelled with all that descends from it
        rw [isCancelled_cancel] at hc ⊢
        rcases hc with hc | ⟨-, hc⟩
        · exact Or.inl (hcancelled hc)
        · exact Or.inr ⟨by rw [hnode]; rfl, descends_of_parent hnode hlt hc⟩

theorem Hangs.registered (h : cs.Hangs ctx parent deadline) : ctx < cs.nodes.size := by
  obtain ⟨cancelled, hnode⟩ := h.node
  exact (Array.getElem?_eq_some_iff.1 hnode).1

theorem Hangs.deadline?_eq (h : cs.Hangs ctx parent deadline) : cs.deadline? ctx = deadline := by
  obtain ⟨cancelled, hnode⟩ := h.node
  rw [deadline?, hnode]
  rfl

/-- A context that hangs under a cancelled one is finished. -/
theorem Hangs.err?_ne_none (h : cs.Hangs ctx parent deadline)
    (hcancelled : cs.isCancelled parent = true) (now : Nat) : cs.err? ctx now ≠ none := by
  simp [err?, h.cancelled hcancelled]

end Contexts

/-! ### Sleeping -/

/-- The pause of a sleep in virtual time that begins at an instant, on behalf of a context. -/
def Pause.asleep (ctx : ContextId) (now : Nat) (d : Duration) : Pause :=
  ⟨some ctx, some (Instant.tick (now + d.nanos)), none⟩

variable {σ : Type}

/-- The end of a sleep changes nothing. -/
theorem World.afterPause_asleep (w : World σ) (ctx : ContextId) (now : Nat) (d : Duration)
    (wake : Wake) : w.afterPause (.asleep ctx now d) wake = w := by
  cases wake <;> rfl

/-- What ends a sleep: a finished context, or else the timer once it is time. -/
theorem World.wake?_asleep {w : World σ} {ctx : ContextId} {now : Nat} {d : Duration} {wake : Wake}
    (h : w.wake? (.asleep ctx now d) = some wake) :
    (∃ cause, w.status ctx = some cause ∧ wake = .context cause) ∨
      w.status ctx = none ∧ wake = .timer ∧ now + d.nanos ≤ w.now := by
  simp only [wake?, Pause.asleep, Option.bind_some] at h
  cases hstatus : w.status ctx with
  | some cause =>
      rw [hstatus] at h
      exact Or.inl ⟨cause, rfl, (Option.some.inj h).symm⟩
  | none =>
      rw [hstatus] at h
      simp only at h
      split at h
      · rename_i htime
        exact Or.inr ⟨rfl, (Option.some.inj h).symm, Nat.le_trans (Instant.le_tick _) htime⟩
      · exact nomatch h

/-! ### What happens during a pause -/

namespace World

/-- The sooner of two instants is no later than either. -/
theorem sooner_le {a b : Option Nat} {t : Nat} (h : a = some t ∨ b = some t) :
    ∃ t', sooner a b = some t' ∧ t' ≤ t := by
  rcases h with rfl | rfl
  · cases b with
    | none => exact ⟨t, rfl, Nat.le_refl t⟩
    | some u => exact ⟨min t u, rfl, Nat.min_le_left ..⟩
  · cases a with
    | none => exact ⟨t, rfl, Nat.le_refl t⟩
    | some u => exact ⟨min u t, rfl, Nat.min_le_right ..⟩

/-- What may happen during a pause: nothing; others work, which takes no time and only adds and
cancels contexts; or time passes, while the pause is not over and at most until it is due. -/
inductive Meanwhile (p : Pause) (w : World σ) : World σ → Prop
  | refl : Meanwhile p w w
  | work {v : World σ} (v' : World σ) (h : Meanwhile p w v) (now_eq : v'.now = v.now)
      (evolves : v.contexts.Evolves v'.contexts) : Meanwhile p w v'
  | pass {v : World σ} (next : Nat) (h : Meanwhile p w v) (waits : v.wake? p = none)
      (due : ∀ t, v.due p = some t → next ≤ t) : Meanwhile p w (Schedule.passTo next v)

namespace Meanwhile

variable {p : Pause} {w v : World σ} {ctx parent : ContextId}

theorem trans {u : World σ} (h : Meanwhile p w v) (h' : Meanwhile p v u) : Meanwhile p w u := by
  induction h' with
  | refl => exact h
  | work v' _ hnow hevolves ih => exact ih.work v' hnow hevolves
  | pass next _ hwaits hdue ih => exact ih.pass next hwaits hdue

theorem evolves (h : Meanwhile p w v) : w.contexts.Evolves v.contexts := by
  induction h with
  | refl => exact .refl
  | work v' _ _ hevolves ih => exact ih.trans hevolves
  | pass next _ _ _ ih => exact ih

/-- No pause lasts beyond an instant by which it is due all the while. -/
theorem now_le_due (h : Meanwhile p w v) {t : Nat}
    (hdue : ∀ u : World σ, w.contexts.Evolves u.contexts → ∃ t', u.due p = some t' ∧ t' ≤ t) :
    v.now ≤ max w.now t := by
  induction h with
  | refl => exact Nat.le_max_left ..
  | work v' _ hnow _ ih => exact hnow ▸ ih
  | @pass v next h _ hnext ih =>
      obtain ⟨t', ht', hle⟩ := hdue v h.evolves
      have hbound : next ≤ t := Nat.le_trans (hnext t' ht') hle
      exact Nat.max_le.2 ⟨ih, Nat.le_trans hbound (Nat.le_max_right ..)⟩

/-- No pause lasts beyond its timer. -/
theorem now_le_timer (h : Meanwhile p w v) {t : Nat} (htimer : p.timer = some t) :
    v.now ≤ max w.now (Instant.tick t) :=
  h.now_le_due fun _ _ => sooner_le (Or.inr (congrArg (Option.map Instant.tick) htimer))

/-- **No pause lasts beyond the deadline of its context.** -/
theorem now_le_deadline (h : Meanwhile p w v) (hctx : p.context = some ctx)
    (hregistered : ctx < w.contexts.nodes.size) {deadline : Nat}
    (hdeadline : w.contexts.deadline? ctx = some deadline) :
    v.now ≤ max w.now (Instant.tick deadline) := by
  refine h.now_le_due fun u hu => sooner_le (Or.inl ?_)
  rw [hctx, Option.bind_some, hu.deadline?_eq hregistered, hdeadline]
  rfl

/-- A pause on behalf of a context that hangs under another one ends by the deadline. -/
theorem now_le (h : Meanwhile p w v) (hctx : p.context = some ctx) {deadline : Nat}
    (hangs : w.contexts.Hangs ctx parent (some deadline)) :
    v.now ≤ max w.now (Instant.tick deadline) :=
  h.now_le_deadline hctx hangs.registered hangs.deadline?_eq

/-- **Once its context is finished a pause lasts no longer.** -/
theorem now_eq (h : Meanwhile p w v) (hctx : p.context = some ctx)
    (hfinished : w.status ctx ≠ none) : v.now = w.now ∧ v.status ctx ≠ none := by
  induction h with
  | refl => exact ⟨rfl, hfinished⟩
  | work v' _ hnow hevolves ih =>
      obtain ⟨hsame, hstill⟩ := ih
      refine ⟨hnow.trans hsame, ?_⟩
      rw [status, hnow]
      exact hevolves.err?_ne_none hstill
  | @pass v next h hwaits _ ih =>
      -- a finished context ends the pause
      obtain ⟨cause, hcause⟩ := Option.ne_none_iff_exists'.1 ih.2
      rw [wake?, hctx, Option.bind_some, hcause] at hwaits
      exact nomatch hwaits

/-- **A sleep ends when its delay is over, or at the deadline of its context** if this is no later
and the context is not cancelled. -/
theorem ends_asleep {now : Nat} {d : Duration} {deadline : Option Nat} {wake : Wake}
    (h : w.Meanwhile (.asleep ctx now d) v) (hwake : v.wake? (.asleep ctx now d) = some wake)
    (hnow : w.now = now) (hlive : w.status ctx = none)
    (huncancelled : v.contexts.isCancelled ctx = false) (hctx : ctx < w.contexts.nodes.size)
    (hdeadline : w.contexts.deadline? ctx = deadline) (hwhole : 1000000 ∣ now + d.nanos)
    (hwhole' : ∀ t ∈ deadline, 1000000 ∣ t) :
    (wake = .timer ∧ v.status ctx = none ∧ v.now = now + d.nanos ∧
        ∀ t ∈ deadline, now + d.nanos < t) ∨
      (wake = .context .deadlineExceeded ∧ v.status ctx = some .deadlineExceeded ∧
        v.now ∈ deadline ∧ v.now ≤ now + d.nanos) := by
  subst hnow
  have hkept : v.contexts.deadline? ctx = deadline :=
    (h.evolves.deadline?_eq hctx).trans hdeadline
  have htimer : v.now ≤ w.now + d.nanos := by
    have hle := h.now_le_timer rfl
    rw [Instant.tick_of_dvd hwhole, Instant.tick_of_dvd hwhole] at hle
    omega
  rcases wake?_asleep hwake with ⟨cause, hcause, rfl⟩ | ⟨hnone, rfl, htime⟩
  · right
    rcases Contexts.err?_of_uncancelled huncancelled v.now with ⟨hnone, -⟩ | ⟨herr, t, ht, hover⟩
    · exact nomatch hnone.symm.trans hcause
    · obtain rfl : .deadlineExceeded = cause := Option.some.inj (herr.symm.trans hcause)
      obtain rfl := hkept.symm.trans ht
      have hahead : w.now < t := Contexts.lt_of_live hlive hdeadline
      have hle := h.now_le_deadline rfl hctx hdeadline
      rw [Instant.tick_of_dvd (hwhole' t rfl)] at hle
      have hthen : v.now = t := by omega
      exact ⟨rfl, hcause, hthen.symm ▸ rfl, htimer⟩
  · left
    have hthen : v.now = w.now + d.nanos := by omega
    exact ⟨rfl, hnone, hthen, fun t ht => hthen ▸ Contexts.lt_of_live hnone (hkept.trans ht)⟩

end Meanwhile

/-- The world once a pause is over while nobody does anything: time passes until it is due. -/
def passed (w : World σ) (p : Pause) : World σ :=
  match w.wake? p, w.due p with
  | none, some t => Schedule.passTo t w
  | _, _ => w

/-- Nothing else happens there, -/
theorem meanwhile_passed (w : World σ) (p : Pause) : w.Meanwhile p (w.passed p) := by
  unfold passed
  split
  · rename_i t hwaits hdue
    exact .pass t .refl hwaits fun t' ht => Nat.le_of_eq (Option.some.inj (hdue.symm.trans ht))
  · exact .refl

theorem contexts_passed (w : World σ) (p : Pause) : (w.passed p).contexts = w.contexts := by
  unfold passed
  split <;> rfl

theorem backend_passed (w : World σ) (p : Pause) : (w.passed p).backend = w.backend := by
  unfold passed
  split <;> rfl

/-- and a sleep is over. -/
theorem wake?_passed (w : World σ) (ctx : ContextId) (now : Nat) (d : Duration) :
    ∃ wake, (w.passed (.asleep ctx now d)).wake? (.asleep ctx now d) = some wake := by
  cases hwake : w.wake? (.asleep ctx now d) with
  | some wake => exact ⟨wake, by rw [passed, hwake]; exact hwake⟩
  | none =>
      obtain ⟨t, hdue, -⟩ : ∃ t, w.due (.asleep ctx now d) = some t ∧ t ≤ _ :=
        sooner_le (Or.inr rfl)
      rw [passed, hwake, hdue]
      have hpassed : t ≤ (Schedule.passTo t w).now := Nat.le_max_right ..
      cases hstatus : (Schedule.passTo t w).status ctx with
      | some cause =>
          exact ⟨.context cause, by simp only [wake?, Pause.asleep, Option.bind_some, hstatus]⟩
      | none =>
          -- the deadline of a live context is not what the sleep was due by
          have htimer : Instant.tick (now + d.nanos) ≤ (Schedule.passTo t w).now := by
            have hlate := Instant.le_tick (Instant.tick (now + d.nanos))
            cases hdeadline : w.contexts.deadline? ctx with
            | none =>
                simp only [due, Pause.asleep, Option.bind_some, hdeadline, Option.map_none,
                  Option.map_some, sooner, Option.some.injEq] at hdue
                omega
            | some e =>
                have hahead : (Schedule.passTo t w).now < e :=
                  Contexts.lt_of_live hstatus hdeadline
                have hround := Instant.le_tick e
                simp only [due, Pause.asleep, Option.bind_some, hdeadline, Option.map_some, sooner,
                  Option.some.injEq] at hdue
                omega
          exact ⟨.timer, by
            simp only [wake?, Pause.asleep, Option.bind_some, hstatus, if_pos htimer]⟩

end World

/-! ### Schedules -/

namespace Schedule

variable {ι κ α : Type} {w w' : World σ} {s s' : Schedule ι κ α} {j : Job ι κ α} {i : Nat}

/-- The next instant of a schedule is no later than that of any of its jobs. -/
theorem nextInstant?_le {jobs : List (Job ι κ α)} (hj : j ∈ jobs) {t : Nat}
    (ht : j.next? w = some t) (start : Option Nat) :
    ∃ t', jobs.foldl (fun t j => World.sooner t (j.next? w)) start = some t' ∧ t' ≤ t := by
  -- an instant that is found early on can only be replaced by a sooner one
  have hkeeps (rest : List (Job ι κ α)) (found : Option Nat) (u : Nat)
      (hu : ∃ t', found = some t' ∧ t' ≤ u) :
      ∃ t', rest.foldl (fun t j => World.sooner t (j.next? w)) found = some t' ∧ t' ≤ u := by
    induction rest generalizing found with
    | nil => exact hu
    | cons k rest ih =>
        obtain ⟨t', rfl, hle⟩ := hu
        obtain ⟨t'', hsooner, hle'⟩ :
            ∃ t'', World.sooner (some t') (k.next? w) = some t'' ∧ t'' ≤ t' :=
          World.sooner_le (Or.inl rfl)
        exact ih _ ⟨t'', hsooner, Nat.le_trans hle' hle⟩
  induction jobs generalizing start with
  | nil => exact nomatch hj
  | cons k rest ih =>
      rcases List.mem_cons.1 hj with rfl | hj
      · exact hkeeps rest _ t (World.sooner_le (Or.inr ht))
      · exact ih hj _

theorem pick?_eq_none {jobs : List (Job ι κ α)} {n : Nat} (h : pick? w n jobs = none)
    (hj : j ∈ jobs) : j.stretch? w = none := by
  induction jobs generalizing n with
  | nil => exact nomatch hj
  | cons k rest ih =>
      rw [pick?] at h
      cases hk : k.stretch? w with
      | some stretch =>
          rw [hk] at h
          exact nomatch h
      | none =>
          rw [hk] at h
          rcases List.mem_cons.1 hj with rfl | hj
          · exact hk
          · exact ih h hj

theorem select?_eq_none (h : s.select? w = none) (hj : j ∈ s.jobs) : j.stretch? w = none := by
  rw [select?] at h
  split at h
  · exact nomatch h
  · exact pick?_eq_none h hj

/-- What happens next in a schedule whose tasks take no time with their work, and only add and
cancel contexts: the job at a pause goes on, or something that may happen during the pause. -/
theorem meanwhile_next? {t : Tasks σ ι κ α} (htasks : ∀ (stretch : Stretch ι κ) (w : World σ),
      (stretch.perform t w).2.now = w.now ∧
        w.contexts.Evolves (stretch.perform t w).2.contexts)
    {limit : Nat} (hnext : s.next? t limit w = some (s', w')) (hj : s.jobs[i]? = some j)
    {on : Pause} {rest : κ} (hpaused : j.phase = .paused on rest) :
    (∃ stretch, s.select? w = some (i, stretch)) ∨ s'.jobs[i]? = some j ∧ w.Meanwhile on w' := by
  unfold next? at hnext
  cases hselect : s.select? w with
  | some picked =>
      obtain ⟨k, stretch⟩ := picked
      by_cases hsame : k = i
      · exact Or.inl ⟨stretch, by rw [hsame]⟩
      · rw [hselect] at hnext
        obtain ⟨rfl, rfl⟩ := Prod.mk.inj (Option.some.inj hnext)
        refine Or.inr ⟨?_, .work _ .refl (htasks stretch w).1 (htasks stretch w).2⟩
        simp [hsame, hj]
  | none =>
      rw [hselect] at hnext
      simp only at hnext
      have hmem : j ∈ s.jobs := List.mem_of_getElem? hj
      -- nothing can go on, the job neither
      have hwaits : w.wake? on = none := by
        have hstretch := select?_eq_none hselect hmem
        cases hwake : w.wake? on with
        | none => rfl
        | some wake => simp [Job.stretch?, hpaused, hwake] at hstretch
      cases hinstant : s.nextInstant? w with
      | none =>
          rw [hinstant] at hnext
          exact nomatch hnext
      | some next =>
          rw [hinstant] at hnext
          simp only at hnext
          split at hnext
          · obtain ⟨rfl, rfl⟩ := Prod.mk.inj (Option.some.inj hnext)
            refine Or.inr ⟨hj, .pass next .refl hwaits fun t ht => ?_⟩
            obtain ⟨t', hnext', hle⟩ :
                ∃ t', World.sooner (w.due on) j.abandonAt = some t' ∧ t' ≤ t :=
              World.sooner_le (Or.inl ht)
            have hjob : j.next? w = some t' := by rw [Job.next?, hpaused, ← hnext']
            obtain ⟨t'', hfound, hle'⟩ := nextInstant?_le hmem hjob none
            obtain rfl : next = t'' := Option.some.inj (hinstant.symm.trans hfound)
            exact Nat.le_trans hle' hle
          · exact nomatch hnext

/-- **A schedule does nothing else during the pause of a job.**  Until the job goes on, and also if
it does not, only such things happen as may happen during the pause. -/
theorem meanwhile_proceed {t : Tasks σ ι κ α} (htasks : ∀ (stretch : Stretch ι κ) (w : World σ),
      (stretch.perform t w).2.now = w.now ∧
        w.contexts.Evolves (stretch.perform t w).2.contexts)
    (limit n : Nat) (hj : s.jobs[i]? = some j) {on : Pause} {rest : κ}
    (hpaused : j.phase = .paused on rest) :
    (∃ m < n, ∃ s' v stretch, proceed t limit m s w = (s', v) ∧ w.Meanwhile on v ∧
        s'.select? v = some (i, stretch)) ∨
      (proceed t limit n s w).1.jobs[i]? = some j ∧
        w.Meanwhile on (proceed t limit n s w).2 := by
  induction n generalizing s w with
  | zero => exact Or.inr ⟨hj, .refl⟩
  | succ n ih =>
      cases hnext : s.next? t limit w with
      | none =>
          rw [proceed, hnext]
          exact Or.inr ⟨hj, .refl⟩
      | some after =>
          obtain ⟨s', w'⟩ := after
          rcases meanwhile_next? htasks hnext hj hpaused with ⟨stretch, hgoes⟩ | ⟨hj', hmeanwhile⟩
          · exact Or.inl ⟨0, Nat.succ_pos n, s, w, stretch, rfl, .refl, hgoes⟩
          · simp only [proceed, hnext]
            rcases ih hj' with ⟨m, hm, s'', v, stretch, hrun, hlater, hgoes⟩ | ⟨hstill, hlater⟩
            · refine Or.inl ⟨m + 1, Nat.succ_lt_succ hm, s'', v, stretch, ?_,
                hmeanwhile.trans hlater, hgoes⟩
              rw [proceed, hnext]
              exact hrun
            · exact Or.inr ⟨hstill, hmeanwhile.trans hlater⟩

end Schedule

end Turnstile
