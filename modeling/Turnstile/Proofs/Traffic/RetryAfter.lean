/-
**When a rejected request is admitted again.**

A layer in reject mode tells a rejected caller after how many seconds to try again: the window in
whole seconds, rounded up.  What is in use of the key lapses later than that, though.  The entries
of a key live one second longer than the window, counted from the last admission.  So as long as
nobody else touches the quota of the key, the same request is rejected again until the entries
lapse and is admitted from then on; and this time is at most one second later than the one that the
caller was told, counted from the last admission.

Main definitions:

* `Act.Decides` — a stretch of asking in reject mode makes one decision and answers it.

Main results:

* `Traffic.step_request`, `Traffic.judged_cases` — what a layer in reject mode answers is one
  decision of the store;
* `Rejection.lapseAfter_le` — the quota of a key lapses one second at most after what callers are
  told;
* `Traffic.readmitted_from_lapse` — **a rejected request is admitted from one time on**, and
  rejected before.
-/

import Turnstile.Proofs.Admission.Attempt
import Turnstile.Proofs.Traffic.Expiry
import Turnstile.Proofs.Traffic.Quota

set_option relaxedAutoImplicit false
set_option autoImplicit false

namespace Turnstile

/-! ### Stretches that decide -/

/-- A stretch of asking in a setting makes one decision.  It ends with an answer just if the
decision gives it, and leaves the entries that the decision leaves. -/
structure Act.Decides (v : Visit) (s : Setting) (ks : Keyspace)
    (act : Act MemoryStore (Turn (Admitting Wait) (Except LimiterError Bool))) : Prop where
  answer : ∀ a, (act (s.over ks)).1 = .done (.ok a) ↔ (v.pay ks).1 = .ok a
  entries : (act (s.over ks)).2.backend.keyspace = (v.pay ks).2

namespace Layer

variable {l : Layer SlidingWindow}

/-- The decision of a layer in reject mode on behalf of a context. -/
def visit (l : Layer SlidingWindow) (s : Setting) (key : String) (ctx : ContextId) : Visit :=
  .within s l.limiter.clock ctx key l.cost l.limit l.window

theorem decision_over (l : Layer SlidingWindow) (key : String) (ctx : ContextId) (s : Setting)
    (ks : Keyspace) :
    l.decision key ctx (s.over ks) =
      (((l.visit s key ctx).pay ks).1,
        .holding (l.visit s key ctx).faultsAfter ((l.visit s key ctx).pay ks).2) :=
  Visit.decide_eq_pay (l.visit s key ctx) ks

/-- What the policy makes of a decision ends with its answer, on the entries that it left. -/
theorem decides_of_settle {act : Act MemoryStore (Turn (Admitting Wait) (Except LimiterError Bool))}
    {s : Setting} {ks : Keyspace} {v : Visit} {key : String} {ctx : ContextId} {n : Nat}
    {w : World MemoryStore} (hrun : act (s.over ks) = deciding key ctx
      (l.retry.settle ctx n (v.pay ks).1 w)) (hentries : w.backend.keyspace = (v.pay ks).2) :
    act.Decides v s ks := by
  constructor
  · intro a
    rw [hrun, deciding_eq_done_iff]
    exact l.retry.settle_eq_ok_iff ctx n w
  · rw [hrun, ← hentries]
    exact congrArg MemoryStore.keyspace (l.retry.keepsStore_settle ctx n (v.pay ks).1 w)

theorem ask_decides (h : l.waitMode = false) (s : Setting) (ks : Keyspace) (parent : ContextId)
    (key : String) : (l.ask parent key).Decides (l.visit s key parent) s ks := by
  obtain ⟨w, hsame, hask⟩ := ask_reject h parent key (s.over ks)
  rw [decision_over] at hsame hask
  exact decides_of_settle hask (by rw [hsame.backend]; rfl)

theorem askOn_decides (s : Setting) (ks : Keyspace) (key : String) (ctx : ContextId) (n : Nat) :
    (l.askOn (.deciding key ctx (.backingOff n)) .timer).Decides (l.visit s key ctx) s ks := by
  obtain ⟨w, hsame, hask⟩ := l.askOn_backingOff key ctx n (s.over ks)
  rw [decision_over] at hsame hask
  exact decides_of_settle hask (by rw [hsame.backend]; rfl)

end Layer

/-! ### What is told about a decision -/

namespace Layer

variable {σ : Type} {l : Layer SlidingWindow} {key : String}

theorem keepsStore_tell (l : Layer SlidingWindow) (key : String)
    (turn : Turn (Admitting Wait) (Except LimiterError Bool)) :
    Act.KeepsStore (l.tell key turn : Act σ _) := by
  cases turn with
  | done result => exact (l.keepsStore_conclude key result).bind fun _ => .pure _
  | pause on rest => exact .pure _

/-- An answer is told just if it is the answer of this layer, with its verdict. -/
theorem told_tell_iff {turn : Turn (Admitting Wait) (Except LimiterError Bool)} {w : World σ}
    {l' : Layer SlidingWindow} {result : Except LimiterError Bool} {verdict : Verdict} :
    (Landing.ofTurn (l.tell key turn w).1).told = some (.judged l' result verdict) ↔
      turn = .done result ∧ l = l' ∧ l.verdict key result = verdict := by
  cases turn with
  | done answer =>
      simp only [told_tell_done, Option.some.injEq, Notice.judged.injEq, Turn.done.injEq]
      constructor
      · rintro ⟨hl, rfl, hverdict⟩
        exact ⟨rfl, hl, hverdict⟩
      · rintro ⟨rfl, hl, hverdict⟩
        exact ⟨hl, rfl, hverdict⟩
  | pause on rest => exact iff_of_false (fun h => nomatch h) fun h => nomatch h.1

/-- What is told about a stretch that decides, and what it leaves. -/
theorem told_of_decides {v : Visit} {s : Setting} {ks : Keyspace}
    {act : Act MemoryStore (Turn (Admitting Wait) (Except LimiterError Bool))}
    (h : act.Decides v s ks) (l : Layer SlidingWindow) (key : String) :
    let work : Act MemoryStore Landing :=
      act >>= fun turn => l.tell key turn >>= fun turn => pure (.ofTurn turn)
    (∀ l' a verdict, (work.on s ks).1.told = some (.judged l' (.ok a) verdict) ↔
      (v.pay ks).1 = .ok a ∧ l = l' ∧ l.verdict key (.ok a) = verdict) ∧
      (work.on s ks).2 = (v.pay ks).2 := by
  refine ⟨fun l' a verdict => ?_, ?_⟩
  · rw [← h.answer]
    exact told_tell_iff
  · rw [← h.entries]
    exact congrArg MemoryStore.keyspace (l.keepsStore_tell key _ _)

end Layer

/-! ### Rejections in a run -/

namespace Traffic

variable {t : Traffic} {s : Setting} {l : Layer SlidingWindow}

/-- The first stretch of a request in reject mode answers what its decision gives. -/
theorem step_request (h : l.waitMode = false) (t : Traffic) (s : Setting) (number : Nat)
    (parent : ContextId) (caller : Caller) {admitted : Bool}
    (hpay : ((l.visit s (l.key caller) parent).pay t.keyspace).1 = .ok admitted) :
    (t.step s (.request number l parent caller)).1.told =
      some (.judged l (.ok admitted) (l.verdict (l.key caller) (.ok admitted))) :=
  ((Layer.told_of_decides (Layer.ask_decides h s t.keyspace parent (l.key caller)) l
    (l.key caller)).1 l admitted _).2 ⟨hpay, rfl, rfl⟩

/-- **What a layer in reject mode answers was one decision of the store**, whether it was made in
the first stretch of the request or after a pause. -/
theorem judged_cases (h : l.waitMode = false) (hpaused : t.paused.Sound fun _ => True) {m : Move}
    {admitted : Bool} {verdict : Verdict}
    (htold : (t.step s m).1.told = some (.judged l (.ok admitted) verdict)) :
    ∃ ctx, ((l.visit s m.key ctx).pay t.keyspace).1 = .ok admitted ∧
      (t.step s m).2.keyspace = ((l.visit s m.key ctx).pay t.keyspace).2 := by
  -- a wait tells no verdict, and neither does a pause
  have hwait (act : Act MemoryStore (Turn Wait (Except LimiterError Unit))) :
      (((act >>= fun turn => pure (.ofTurn (Task.ofWait turn))).on s t.keyspace).1 :
        Landing).told ≠ some (.judged l (.ok admitted) verdict) := by
    change (Landing.ofTurn (Task.ofWait (act (s.over t.keyspace)).1)).told ≠ _
    cases (act (s.over t.keyspace)).1 <;> simp [Landing.ofTurn, Task.ofWait, Turn.map]
  cases m with
  | allowN l' ctx key n limit window => cases htold
  | reset l' ctx key => cases htold
  | wait number l' ctx key limit window => exact absurd htold (hwait _)
  | request number l' parent caller =>
      obtain rfl : l' = l := (Layer.told_tell_iff.1 htold).2.1
      obtain ⟨hjudged, hentries⟩ := Layer.told_of_decides
        (Layer.ask_decides h s t.keyspace parent (l'.key caller)) l' (l'.key caller)
      exact ⟨parent, ((hjudged l' admitted verdict).1 htold).1, hentries⟩
  | resume ticket wake =>
      cases htask : t.paused ticket with
      | none =>
          simp only [step, Move.work, htask] at htold
          cases htold
      | some task =>
          obtain ⟨b, hkey, -, hpursues⟩ := hpaused ticket task htask
          have hwork : (Move.resume ticket wake).work t.paused =
              task.resume wake >>= fun turn => pure (.ofTurn turn) := by
            simp only [Move.work, htask]
          simp only [step, hwork] at htold ⊢
          cases task with
          | waiting w => exact absurd htold (hwait (w.resume wake))
          | requesting l' a =>
              have hasking : l'.Asking b a := hpursues
              obtain ⟨hdone, rfl, -⟩ := Layer.told_tell_iff.1 htold
              cases a with
              | awaiting key ctx run => exact absurd hasking.1 (by simp [h])
              | deciding key ctx run =>
                  have hsame : key = ticket.key :=
                    (congrArg Bid.key hasking.bid_eq).trans hkey
                  subst hsame
                  cases run with
                  | calling n rest => exact rest.elim
                  | backingOff n =>
                      cases wake with
                      | context cause => cases hdone
                      | timer =>
                          obtain ⟨hjudged, hentries⟩ := Layer.told_of_decides
                            (Layer.askOn_decides s t.keyspace ticket.key ctx n) l' ticket.key
                          exact ⟨ctx, ((hjudged l' admitted verdict).1 htold).1, hentries⟩
  | abandon ticket =>
      cases htask : t.paused ticket <;> simp only [step, Move.work, htask] at htold <;>
        cases htold

end Traffic

/-! ### When the quota lapses -/

/-- The entries of a key live for what a rejected caller is told, and at most one second more. -/
theorem Rejection.lapseAfter_le (r : Rejection) (now : Nat) :
    Account.lapseAfter now r.window ≤ now + 1000 * (r.retryAfter + 1) := by
  have hword : Account.word r.window.clampedMillis ≤ r.window.millis :=
    Nat.le_trans (Nat.min_le_left ..) (Nat.min_le_left ..)
  have hceil : (Account.word r.window.clampedMillis + 999) / 1000 ≤ r.retryAfter := by
    have hmost := Account.word_le r.window.clampedMillis
    unfold Rejection.retryAfter Duration.subsecNanos Duration.secs maxWord
    unfold Duration.millis at hword
    split <;> omega
  calc Account.lapseAfter now r.window
      ≤ now + (SlidingScript.keyTtl (Account.word r.window.clampedMillis)).clampedMillis :=
        Nat.min_le_left ..
    _ = now + ((Account.word r.window.clampedMillis + 999) / 1000 * 1000 + 1000) := by
        rw [Account.clampedMillis_keyTtl (Account.word_le _)]
    _ ≤ now + 1000 * (r.retryAfter + 1) := by
        rw [Nat.mul_add, Nat.mul_comm _ 1000]
        exact Nat.add_le_add_left (Nat.add_le_add_right (Nat.mul_le_mul_left 1000 hceil) _) _

/-- An account with no room for `n` events has room for them from the time on that it lapses, if
their number is within the limit at all. -/
theorem Account.verdict_asOf {a : Account} {lapse n limit : Nat} (hlapse : a.lapse = some lapse)
    (hn : n ≤ limit) (hfull : word limit < a.used + word n)
    (hsum : a.used + word n ≤ 9223372036854775807) (now : Nat) :
    verdict (a.asOf now).used n limit = .ok (decide (lapse ≤ now)) := by
  have hword : word n ≤ word limit := by
    unfold word
    omega
  have hmost := word_le n
  unfold asOf verdict
  rw [hlapse]
  by_cases h : lapse ≤ now
  · simp only [h, if_true, fresh, Nat.zero_add, Nat.not_lt.2 hmost, hword, if_false, decide_true]
  · simp only [h, if_false, Nat.not_lt.2 hsum, Nat.not_le.2 hfull, decide_false]

/-- A decision of a layer on an account with no room for it admits from the time on that the account
lapses, and denies before. -/
theorem Layer.pay_of_full {l : Layer SlidingWindow} {s : Setting} {key : String} {ctx : ContextId}
    {ks : Keyspace} {a : Account} {lapse : Nat} (hbar : (l.visit s key ctx).bar? = none)
    (hcost : l.cost ≤ l.limit) (hshows : ks.Shows key a) (hlapse : a.lapse = some lapse)
    (hfull : Account.word l.limit < a.used + Account.word l.cost)
    (hsum : a.used + Account.word l.cost ≤ 9223372036854775807) :
    ((l.visit s key ctx).pay ks).1 = .ok (decide (lapse ≤ s.storeReading)) := by
  rw [Keyspace.Shows.pay_eq_verdict (v := l.visit s key ctx) hshows hbar]
  change (Account.verdict (a.asOf s.storeReading).used l.cost l.limit).mapError _ = _
  rw [Account.verdict_asOf hlapse hcost hfull hsum]
  rfl

namespace Traffic

variable {t : Traffic} {key : String}

/-- Moves of keys apart leave the account of a key. -/
theorem shows_after_apart {ys : List (Setting × Move)} {a : Account}
    (hapart : ∀ y ∈ ys, Apart key y.2.key) (hpaused : t.paused.Sound fun _ => True)
    (h : t.keyspace.Shows key a) : (t.after ys).keyspace.Shows key a := by
  induction ys generalizing t with
  | nil => exact h
  | cons y rest ih =>
      obtain ⟨s, m⟩ := y
      obtain ⟨hm, hapart⟩ := List.forall_mem_cons.1 hapart
      obtain ⟨hevents, hcounter⟩ := get?_step_of_apart (fun _ _ => trivial) hpaused s hm
      exact ih hapart (sound_step (fun _ _ => trivial) hpaused s) (h.congr hevents hcounter)

/-- The calls at pauses of a run. -/
theorem sound_after {allowed : Bid → Prop} {xs : List (Setting × Move)}
    (hbids : ∀ x ∈ xs, ∀ b ∈ x.2.bid?, allowed b) (hpaused : t.paused.Sound allowed) :
    (t.after xs).paused.Sound allowed := by
  induction xs generalizing t with
  | nil => exact hpaused
  | cons x rest ih =>
      obtain ⟨hm, hbids⟩ := List.forall_mem_cons.1 hbids
      exact ih hbids (sound_step hm hpaused x.1)

/-- The events of a run happen at the times of its moves. -/
theorem time_of_mem_events {xs : List (Setting × Move)} {e : Event} (h : e ∈ t.events xs) :
    ∃ x ∈ xs, e.time = x.1.storeReading := by
  induction xs generalizing t with
  | nil => exact nomatch h
  | cons x rest ih =>
      rcases List.mem_cons.1 h with rfl | h
      · exact ⟨x, List.mem_cons_self, rfl⟩
      · obtain ⟨x', hx', htime⟩ := ih h
        exact ⟨x', List.mem_cons_of_mem _ hx', htime⟩

/-- **A rejected request is admitted from one time on, and rejected before.**  While no other call
touches the key, this time is when the last admission of the key lapses, for the window of a call
that was made on it.  Where all of them used the window of the layer, that is at most one second
later than what the caller is told, counted from the last admission. -/
theorem readmitted_from_lapse {l : Layer SlidingWindow} {xs : List (Setting × Move)} {s : Setting}
    {m : Move} {verdict : Verdict} (hmode : l.waitMode = false) (hcost : l.cost ≤ l.limit)
    (hkey : m.key = key) (hclock : ∀ x ∈ xs, x.1.storeReading ≤ s.storeReading)
    (hrejected : ((start.after xs).step s m).1.told = some (.judged l (.ok false) verdict)) :
    ∃ (last : Event) (lapse : Nat), Event.lastCharge? key (start.events xs) = some last ∧
      last.time ≤ s.storeReading ∧ s.storeReading < lapse ∧
      (∃ x ∈ xs, ∃ b ∈ x.2.bid?, b.key = key ∧ lapse = Account.lapseAfter last.time b.window) ∧
      ((∀ x ∈ xs, ∀ b ∈ x.2.bid?, b.key = key → b.window = l.window) →
        lapse ≤ last.time + 1000 * ((l.rejection key).retryAfter + 1)) ∧
      ∀ (ys : List (Setting × Move)) (s' : Setting) (number : Nat) (parent : ContextId)
        (caller : Caller), (∀ y ∈ ys, Apart key y.2.key) → l.key caller = key →
        s'.status parent = none → s'.backend = [] →
        ((((start.after xs).step s m).2.after ys).step s'
            (.request number l parent caller)).1.told =
          some (if lapse ≤ s'.storeReading then .judged l (.ok true) .forward
            else .judged l (.ok false) (.answer (l.onRejected (l.rejection key)))) := by
  subst hkey
  have hsound : (start.after xs).paused.Sound fun _ => True :=
    sound_after (fun _ _ _ _ => trivial) (sound_start _)
  obtain ⟨ctx, hdenied, hafter⟩ := judged_cases hmode hsound hrejected
  -- what the denial found in use was booked by the last admission
  let made (b : Bid) : Prop := ∃ x ∈ xs, b ∈ x.2.bid?
  have hbooked : (start.after xs).keyspace.Booked (Event.Lapses made (start.events xs))
      (Bid.Over made) :=
    booked_after (fun x hx b hb => ⟨x, hx, hb⟩) (sound_start _)
      (Keyspace.booked_empty (Event.Lapses made []) _)
  obtain ⟨a, hshows, hasOf, hfull, hsum, hlapse⟩ := hbooked.shows_of_denied hdenied
  have hword : Account.word l.cost ≤ Account.word l.limit := by
    unfold Account.word
    omega
  obtain ⟨lapse, hlapse, last, hlast, b, ⟨x, hx, hb⟩, hbkey, heq⟩ :=
    hlapse.resolve_left fun hzero => by
      rw [hzero, Nat.zero_add] at hfull
      exact absurd hword (Nat.not_le.2 hfull)
  obtain ⟨x', hx', htime⟩ := time_of_mem_events (Event.mem_of_lastCharge? hlast).1
  have hlt : s.storeReading < lapse := Account.lt_lapse_asOf (hasOf.symm ▸ hlapse)
  refine ⟨last, lapse, hlast, htime ▸ hclock x' hx', hlt, ⟨x, hx, b, hb, hbkey, heq⟩,
    fun hwindow => ?_, ?_⟩
  · rw [heq, hwindow x hx b hb hbkey]
    exact (l.rejection m.key).lapseAfter_le last.time
  · intro ys s' number parent caller hapart hcaller hlive hfaults
    have hshows' := shows_after_apart hapart
      (sound_step (fun _ _ => trivial) hsound s) (hafter.symm ▸ hshows)
    have hbar : (l.visit s' m.key parent).bar? = none :=
      Visit.bar?_eq_none_iff.2 ⟨(Visit.bar?_eq_none_iff.1 (Visit.bar?_of_pay_ok hdenied)).1,
        hlive, hfaults⟩
    have hanswer : ((l.visit s' (l.key caller) parent).pay
        (((start.after xs).step s m).2.after ys).keyspace).1 =
          .ok (decide (lapse ≤ s'.storeReading)) :=
      hcaller ▸ Layer.pay_of_full hbar hcost hshows' hlapse hfull hsum
    rw [step_request hmode _ s' number parent caller hanswer, hcaller]
    by_cases h : lapse ≤ s'.storeReading
    · simp only [h, decide_true, if_true]
      rfl
    · simp only [h, decide_false, if_false]
      rfl

/-- A layer in reject mode that admits one request a second. -/
def oneASecond : Layer SlidingWindow :=
  ⟨⟨SlidingWindow.defaultPollInterval, .timer, .own, true⟩, fun _ => "k", 1, Duration.ofMillis 1000,
    1, false, .zero, .single, .failClosed, 429, "", 500, "", Rejection.response,
    AdmissionError.response, false⟩

/-- One request is admitted and another one is rejected at the same time.  Two seconds later, one
second after what the caller was told, a third one is admitted; a call on another key does not
matter. -/
theorem readmitted_from_lapse_two_seconds :
    let t := start.after [(World.start 1000 1000 [], .request 0 oneASecond 0 ⟨none, []⟩)]
    let t' := (t.step (World.start 1000 1000 []) (.request 1 oneASecond 0 ⟨none, []⟩)).2.after
      [(World.start 2500 2500 [], .allowN .plain 0 "j" 1 1 (Duration.ofMillis 1000))]
    (t'.step (World.start 3000 3000 []) (.request 2 oneASecond 0 ⟨none, []⟩)).1.told =
      some (.judged oneASecond (.ok true) .forward) := by
  have hkey : (Move.request 1 oneASecond 0 ⟨none, []⟩).key = "k" := rfl
  have hrejected : ((start.after [(World.start 1000 1000 [],
      .request 0 oneASecond 0 ⟨none, []⟩)]).step (World.start 1000 1000 [])
      (.request 1 oneASecond 0 ⟨none, []⟩)).1.told =
        some (.judged oneASecond (.ok false) (oneASecond.verdict "k" (.ok false))) :=
    step_request rfl _ _ _ _ _ (by decide +kernel)
  obtain ⟨last, lapse, hlast, -, -, -, hbound, hagain⟩ :=
    readmitted_from_lapse rfl (by decide) hkey (by decide) hrejected
  have htime : (Event.lastCharge? "k" (start.events
      [(World.start 1000 1000 [], .request 0 oneASecond 0 ⟨none, []⟩)])).map Event.time =
        some 1000 := by decide +kernel
  rw [hlast, Option.map_some, Option.some.injEq] at htime
  have hretry : (oneASecond.rejection "k").retryAfter = 1 := by decide
  have hlapse : lapse ≤ World.storeReading (World.start 3000 3000 [] : Setting) := by
    have h := hbound (by simp [Move.bid?, Layer.bid, oneASecond])
    rwa [htime, hretry] at h
  have htold := hagain
    [(World.start 2500 2500 [], .allowN .plain 0 "j" 1 1 (Duration.ofMillis 1000))]
    (World.start 3000 3000 []) 2 0 ⟨none, []⟩ (by decide) rfl (by decide) rfl
  rwa [if_pos hlapse] at htold

/-- A request that is rejected at the time of the last admission is told to come back in one second,
and then it is rejected again. -/
theorem rejected_after_retryAfter :
    let t := start.after [(World.start 1000 1000 [], .request 0 oneASecond 0 ⟨none, []⟩)]
    let r := t.step (World.start 1000 1000 []) (.request 1 oneASecond 0 ⟨none, []⟩)
    let rejection := oneASecond.rejection "k"
    let rejected := some (Notice.judged oneASecond (.ok false) (.answer rejection.response))
    let later := 1000 + 1000 * rejection.retryAfter
    r.1.told = rejected ∧ rejection.retryAfter = 1 ∧
      (r.2.step (World.start later later []) (.request 2 oneASecond 0 ⟨none, []⟩)).1.told =
        rejected :=
  ⟨step_request rfl _ _ _ _ _ (by decide +kernel), by decide,
    step_request rfl _ _ _ _ _ (by decide +kernel)⟩

end Traffic

end Turnstile
