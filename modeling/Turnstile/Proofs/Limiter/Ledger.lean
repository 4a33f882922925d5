/-
**A limiter keeps a ledger of two fields per key.**

The reference machine knows nothing of scripts, markers and lazily dropped entries.  It keeps an
account per limiter key.  A call with a finished context, or one that a fault hits, answers that and
changes nothing; any other decision is taken on the account, and a reset makes the account fresh.

A run is a sequence of calls, each in the setting that it meets: what happens between two calls may
change contexts, clocks and faults in any way, only the entries of the store stay as they were left.
Every answer of a run on the store is the answer of the machine.  As denials and failures take
nothing from an account but what has lapsed, a run answers the same without them.

Main definitions:

* `Question`, `Question.step` — a call, and what it answers and leaves;
* `Question.replies` — the answers of a run;
* `Ledger`, `Ledger.step`, `Ledger.replies` — **the reference machine** and its answers;
* `Thinned` — a run from which denied and failed calls are taken out.

Main results:

* `Ledger.Shown.step` — one call answers like the machine, and the store shows its ledger again;
* `Ledger.replies_thinned` — the machine answers the same without denied and failed calls;
* `Question.replies_eq_ledger` — **runs answer like the machine, with and without these calls**.
-/

import Turnstile.Proofs.Limiter.Stretch

set_option relaxedAutoImplicit false
set_option autoImplicit false

namespace Turnstile

/-! ### Calls and their runs -/

/-- A call of a limiter: for a decision, one poll of a wait, or a reset. -/
inductive Question
  | allowN (l : SlidingWindow) (ctx : ContextId) (key : String) (n limit : Nat) (window : Duration)
  | poll (w : Wait)
  | reset (l : SlidingWindow) (ctx : ContextId) (key : String)

/-- The answer of a call. -/
inductive Question.Reply
  | decided (answer : Except LimiterError Bool)
  | cleared (answer : Except LimiterError Unit)

/-- What a poll says about its event: a pause says that it is denied. -/
def Wait.reading : Turn Wait (Except LimiterError Unit) → Except LimiterError Bool
  | .done (.ok _) => .ok true
  | .done (.error e) => .error e
  | .pause .. => .ok false

theorem Wait.Polled.reading {w : Wait} {answer : Except LimiterError Bool}
    {turn : Turn Wait (Except LimiterError Unit)} (h : w.Polled answer turn) :
    Wait.reading turn = answer := by
  cases h <;> rfl

namespace Question

/-- The limiter key of a call. -/
def key : Question → String
  | .allowN _ _ key .. => key
  | .poll w => w.key
  | .reset _ _ key => key

/-- A call asks for an event at least, in a window of a millisecond at least. -/
def Valid : Question → Prop
  | .allowN _ _ _ n _ window => 1 ≤ n ∧ 1 ≤ window.millis
  | .poll w => 1 ≤ w.window.millis
  | .reset .. => True

instance : DecidablePred Valid
  | .allowN _ _ _ n _ window => inferInstanceAs (Decidable (1 ≤ n ∧ 1 ≤ window.millis))
  | .poll w => inferInstanceAs (Decidable (1 ≤ w.window.millis))
  | .reset .. => inferInstanceAs (Decidable True)

/-- A call as work on the store. -/
def act : Question → Act MemoryStore Reply
  | .allowN l ctx key n limit window => Reply.decided <$> l.allowN ctx key n limit window
  | .poll w => (fun turn => Reply.decided (Wait.reading turn)) <$> w.poll
  | .reset l ctx key => Reply.cleared <$> l.reset ctx key

/-- A call in a setting: its answer, and the entries after it. -/
def step (s : Setting) (q : Question) (ks : Keyspace) : Reply × Keyspace := q.act.on s ks

/-- The answers of a run. -/
def replies : Keyspace → List (Setting × Question) → List Reply
  | _, [] => []
  | ks, (s, q) :: rest => (q.step s ks).1 :: replies (q.step s ks).2 rest

end Question

/-! ### The reference machine -/

/-- An account per limiter key. -/
abbrev Ledger := String → Account

namespace Ledger

/-- The ledger in which nothing is in use. -/
def blank : Ledger := fun _ => .fresh

/-- A ledger with the account of a key replaced. -/
def set (b : Ledger) (key : String) (a : Account) : Ledger := fun j => if j = key then a else b j

/-- A decision: why the context is finished, or the fault that hits it, or that on the account. -/
def decide (status : Option ContextError) (fault : Option StoreError) (now : Nat) (key : String)
    (n limit : Nat) (window : Duration) (b : Ledger) : Except LimiterError Bool × Ledger :=
  match status, fault with
  | some cause, _ => (.error (.context cause), b)
  | none, some fault => (.error (.ofStore .allowN key fault), b)
  | none, none =>
      let (answer, a) := (b key).take now n limit window
      (answer.mapError (.ofStore .allowN key), b.set key a)

/-- A reset: why the context is finished, or the fault that hits it, or a fresh account. -/
def reset (status : Option ContextError) (fault : Option StoreError) (key : String) (b : Ledger) :
    Except LimiterError Unit × Ledger :=
  match status, fault with
  | some cause, _ => (.error (.context cause), b)
  | none, some fault => (.error (.ofStore .reset key fault), b)
  | none, none => (.ok (), b.set key .fresh)

/-- A call in a setting: its answer, and the ledger after it. -/
def step (s : Setting) : Question → Ledger → Question.Reply × Ledger
  | .allowN _ ctx key n limit window, b =>
      let (answer, b) := b.decide (s.status ctx) s.backend.head? s.storeReading key n limit window
      (.decided answer, b)
  | .poll w, b =>
      let (answer, b) := b.decide (s.status w.ctx) s.backend.head? s.storeReading w.key 1 w.limit
        w.window
      (.decided answer, b)
  | .reset _ ctx key, b =>
      let (answer, b) := b.reset (s.status ctx) s.backend.head? key
      (.cleared answer, b)

/-- The answers of a run. -/
def replies : Ledger → List (Setting × Question) → List Question.Reply
  | _, [] => []
  | b, (s, q) :: rest => (b.step s q).1 :: replies (b.step s q).2 rest

end Ledger

/-! ### Runs without denials and failures -/

/-- Whether a call was admitted, or reset its key. -/
def Question.Reply.succeeded : Question.Reply → Bool
  | .decided (.ok admitted) => admitted
  | .cleared (.ok _) => true
  | _ => false

/-- A call in its setting together with its answer. -/
abbrev Question.Exchange := (Setting × Question) × Question.Reply

/-- A run with its answers, and what is left when some calls that were denied or failed are taken
out together with the faults that hit them. -/
inductive Thinned : List Question.Exchange → List Question.Exchange → Prop
  | nil : Thinned [] []
  | keep (x : Question.Exchange) {xs ys} : Thinned xs ys → Thinned (x :: xs) (x :: ys)
  | leave (x : Question.Exchange) {xs ys} :
      x.2.succeeded = false → Thinned xs ys → Thinned (x :: xs) ys

theorem Thinned.sublist {xs ys : List Question.Exchange} (h : Thinned xs ys) : ys.Sublist xs := by
  induction h with
  | nil => exact .slnil
  | keep x _ ih => exact ih.cons_cons x
  | leave x _ _ ih => exact ih.cons x

/-! ### What a call asks of the store -/

namespace Question

theorem step_allowN (s : Setting) (l : SlidingWindow) (ctx : ContextId) (key : String)
    (n limit : Nat) (window : Duration) (ks : Keyspace) :
    let v := Visit.within s l.clock ctx key n limit window
    (allowN l ctx key n limit window).step s ks = (.decided (v.pay ks).1, (v.pay ks).2) := by
  change (Reply.decided ((l.allowN ctx key n limit window).on s ks).1,
    ((l.allowN ctx key n limit window).on s ks).2) = _
  rw [SlidingWindow.on_allowN]

/-- A poll answers as its decision does, also where its context is finished and it makes none. -/
theorem step_poll (s : Setting) (w : Wait) (hwindow : 1 ≤ w.window.millis) (ks : Keyspace) :
    let v := Visit.within s w.limiter.clock w.ctx w.key 1 w.limit w.window
    (poll w).step s ks = (.decided (v.pay ks).1, (v.pay ks).2) := by
  cases w.deals_poll s with
  | silent turn s' run ends =>
      -- the decision that the poll does not make would be barred by the context too
      obtain ⟨cause, hstatus, rfl⟩ := ends
      have hbar : (Visit.within s w.limiter.clock w.ctx w.key 1 w.limit w.window).bar? =
          some (.context cause) := by
        have : w.window.millis ≠ 0 := Nat.ne_of_gt hwindow
        simp [Visit.bar?, Visit.within, SlidingWindow.argumentFault?, this, hstatus]
      simp only [step, Act.on, act, Act.map_apply, run, Visit.pay_of_bar hbar]
      rfl
  | asks v f run ends =>
      obtain ⟨-, rfl, hpolled⟩ := ends (v.pay ks).1
      simp only [step, Act.on, act, Act.map_apply, run, hpolled.reading]
      rfl

theorem step_reset (s : Setting) (l : SlidingWindow) (ctx : ContextId) (key : String)
    (ks : Keyspace) :
    (reset l ctx key).step s ks =
      match SlidingWindow.resetBar? ⟨s.status ctx, s.storeReading⟩ key s.backend with
      | some e => (.cleared (.error e), ks)
      | none => (.cleared (.ok ()), ks.without key) := by
  obtain ⟨s', hreset⟩ := l.reset_over ctx key s ks
  simp only [step, Act.on, act, Act.map_apply, hreset]
  cases SlidingWindow.resetBar? ⟨s.status ctx, s.storeReading⟩ key s.backend <;> rfl

end Question

namespace Ledger

/-! ### One call -/

theorem set_self (b : Ledger) (key : String) : b.set key (b key) = b := by
  funext j
  by_cases h : j = key <;> simp [set, h]

/-- The store shows a ledger at some limiter keys. -/
def Shown (p : String → Prop) (b : Ledger) (ks : Keyspace) : Prop :=
  ∀ key, p key → ks.Shows key (b key)

variable {p : String → Prop} {b b' : Ledger} {ks : Keyspace}

theorem shown_blank (p : String → Prop) : Shown p blank .empty := fun key _ =>
  Keyspace.shows_empty key

/-- A decision on the machine is one on the account of the key. -/
theorem decide_eq_onAccount (v : Visit) (hn : 1 ≤ v.n) (hwindow : 1 ≤ v.window.millis)
    (b : Ledger) :
    b.decide v.call.status v.faults.head? v.call.now v.key v.n v.limit v.window =
      ((v.onAccount (b v.key)).1, b.set v.key (v.onAccount (b v.key)).2) := by
  have hargs : SlidingWindow.argumentFault? v.n v.window = none :=
    SlidingWindow.argumentFault?_eq_none_iff.2 ⟨hn, hwindow⟩
  obtain ⟨clock, ⟨status, now⟩, faults, key, n, limit, window⟩ := v
  unfold decide Visit.onAccount Visit.bar?
  rw [hargs]
  cases status with
  | some cause => simp only [set_self]
  | none =>
      cases faults with
      | nil => rfl
      | cons fault rest => simp only [List.head?_cons, set_self]

/-- A decision that the machine takes too leaves a store that shows the ledger. -/
theorem Shown.pay (h : Shown p b ks) (hp : ∀ k j, p k → p j → k ≠ SlidingScript.counterKey j)
    {v : Visit} (hv : p v.key) :
    (v.pay ks).1 = (v.onAccount (b v.key)).1 ∧
      Shown p (b.set v.key (v.onAccount (b v.key)).2) (v.pay ks).2 := by
  obtain ⟨hanswer, hshows⟩ := (h v.key hv).pay
  refine ⟨hanswer, fun key hkey => ?_⟩
  by_cases hsame : key = v.key
  · subst hsame
    simpa [set] using hshows
  · have hapart : Apart key v.key := ⟨hsame, hp _ _ hkey hv, hp _ _ hv hkey⟩
    simpa [set, hsame] using (h key hkey).pay_of_apart hapart

theorem Shown.without (h : Shown p b ks)
    (hp : ∀ k j, p k → p j → k ≠ SlidingScript.counterKey j) {j : String} (hj : p j) :
    Shown p (b.set j .fresh) (ks.without j) := by
  intro key hkey
  by_cases hsame : key = j
  · subst hsame
    simpa [set] using ks.shows_without key
  · have hapart : Apart key j := ⟨hsame, hp _ _ hkey hj, hp _ _ hj hkey⟩
    simpa [set, hsame] using (h key hkey).without_of_apart hapart

/-- **One call answers like the machine, and the store shows its ledger again.** -/
theorem Shown.step (h : Shown p b ks) (hp : ∀ k j, p k → p j → k ≠ SlidingScript.counterKey j)
    {q : Question} (hq : p q.key) (hvalid : q.Valid) (s : Setting) :
    (q.step s ks).1 = (b.step s q).1 ∧ Shown p (b.step s q).2 (q.step s ks).2 := by
  cases q with
  | allowN l ctx key n limit window =>
      have hdecide := decide_eq_onAccount (.within s l.clock ctx key n limit window) hvalid.1
        hvalid.2 b
      obtain ⟨hanswer, hshown⟩ := h.pay hp (v := .within s l.clock ctx key n limit window) hq
      rw [Question.step_allowN]
      simp only [Visit.within] at hdecide hanswer hshown ⊢
      simp only [Ledger.step, hdecide, hanswer, true_and]
      exact hshown
  | poll w =>
      have hdecide := decide_eq_onAccount (.within s w.limiter.clock w.ctx w.key 1 w.limit w.window)
        (Nat.le_refl 1) hvalid b
      obtain ⟨hanswer, hshown⟩ :=
        h.pay hp (v := .within s w.limiter.clock w.ctx w.key 1 w.limit w.window) hq
      rw [Question.step_poll s w hvalid]
      simp only [Visit.within] at hdecide hanswer hshown ⊢
      simp only [Ledger.step, hdecide, hanswer, true_and]
      exact hshown
  | reset l ctx key =>
      rw [Question.step_reset]
      simp only [SlidingWindow.resetBar?, Ledger.step, Ledger.reset]
      cases s.status ctx with
      | some cause => exact ⟨rfl, h⟩
      | none =>
          cases s.backend with
          | nil => exact ⟨rfl, h.without hp hq⟩
          | cons fault rest => exact ⟨rfl, h⟩

/-! ### Runs -/

/-- On keys none of which is the counter key of another one, a run answers like the machine. -/
theorem replies_eq (hp : ∀ k j, p k → p j → k ≠ SlidingScript.counterKey j)
    {xs : List (Setting × Question)} (hkeys : ∀ x ∈ xs, p x.2.key)
    (hvalid : ∀ x ∈ xs, x.2.Valid) (h : Shown p b ks) :
    Question.replies ks xs = b.replies xs := by
  induction xs generalizing b ks with
  | nil => rfl
  | cons x rest ih =>
      obtain ⟨s, q⟩ := x
      obtain ⟨hq, hrest⟩ := List.forall_mem_cons.1 hkeys
      obtain ⟨hvalidq, hvalidrest⟩ := List.forall_mem_cons.1 hvalid
      obtain ⟨hreply, hshown⟩ := h.step hp hq hvalidq s
      rw [Question.replies, Ledger.replies, hreply, ih hrest hvalidrest hshown]

/-- Two ledgers cannot be told apart from a time on. -/
def SameFrom (now : Nat) (b b' : Ledger) : Prop :=
  ∀ key later, now ≤ later → (b key).asOf later = (b' key).asOf later

theorem SameFrom.refl (now : Nat) (b : Ledger) : SameFrom now b b := fun _ _ _ => rfl

theorem SameFrom.mono {now later : Nat} (h : SameFrom now b b') (hle : now ≤ later) :
    SameFrom later b b' := fun key t ht => h key t (Nat.le_trans hle ht)

theorem SameFrom.set {now : Nat} (h : SameFrom now b b') (key : String) {a a' : Account}
    (ha : ∀ later, now ≤ later → a.asOf later = a'.asOf later) :
    SameFrom now (b.set key a) (b'.set key a') := by
  intro j later hlater
  by_cases hj : j = key
  · simpa [Ledger.set, hj] using ha later hlater
  · simpa [Ledger.set, hj] using h j later hlater

theorem SameFrom.decide {now : Nat} (h : SameFrom now b b') (status : Option ContextError)
    (fault : Option StoreError) (key : String) (n limit : Nat) (window : Duration) :
    (b.decide status fault now key n limit window).1 =
        (b'.decide status fault now key n limit window).1 ∧
      SameFrom now (b.decide status fault now key n limit window).2
        (b'.decide status fault now key n limit window).2 := by
  have htake := Account.take_congr (h key now (Nat.le_refl now)) n limit window
  unfold Ledger.decide
  cases status with
  | some cause => exact ⟨rfl, h⟩
  | none =>
      cases fault with
      | some fault => exact ⟨rfl, h⟩
      | none => exact ⟨by rw [htake], htake ▸ h.set key fun _ _ => rfl⟩

theorem SameFrom.reset {now : Nat} (h : SameFrom now b b') (status : Option ContextError)
    (fault : Option StoreError) (key : String) :
    (b.reset status fault key).1 = (b'.reset status fault key).1 ∧
      SameFrom now (b.reset status fault key).2 (b'.reset status fault key).2 := by
  unfold Ledger.reset
  cases status with
  | some cause => exact ⟨rfl, h⟩
  | none =>
      cases fault with
      | some fault => exact ⟨rfl, h⟩
      | none => exact ⟨rfl, h.set key fun _ _ => rfl⟩

/-- Ledgers that cannot be told apart give the same answer, and cannot be told apart afterwards. -/
theorem SameFrom.step {s : Setting} (h : SameFrom s.storeReading b b') (q : Question) :
    (b.step s q).1 = (b'.step s q).1 ∧
      SameFrom s.storeReading (b.step s q).2 (b'.step s q).2 := by
  cases q with
  | allowN l ctx key n limit window =>
      obtain ⟨hanswer, hsame⟩ := h.decide (s.status ctx) s.backend.head? key n limit window
      exact ⟨congrArg Question.Reply.decided hanswer, hsame⟩
  | poll w =>
      obtain ⟨hanswer, hsame⟩ := h.decide (s.status w.ctx) s.backend.head? w.key 1 w.limit w.window
      exact ⟨congrArg Question.Reply.decided hanswer, hsame⟩
  | reset l ctx key =>
      obtain ⟨hanswer, hsame⟩ := h.reset (s.status ctx) s.backend.head? key
      exact ⟨congrArg Question.Reply.cleared hanswer, hsame⟩

/-- A decision that admits nothing leaves a ledger that cannot be told apart from the one before. -/
theorem sameFrom_decide {now : Nat} {status : Option ContextError} {fault : Option StoreError}
    {key : String} {n limit : Nat} {window : Duration}
    (h : (b.decide status fault now key n limit window).1 ≠ .ok true) :
    SameFrom now (b.decide status fault now key n limit window).2 b := by
  unfold Ledger.decide at h ⊢
  cases status with
  | some cause => exact SameFrom.refl now b
  | none =>
      cases fault with
      | some fault => exact SameFrom.refl now b
      | none =>
          have htake : ((b key).take now n limit window).1 ≠ .ok true := by
            intro hok
            simp only [hok] at h
            exact h rfl
          intro j later hlater
          simp only [Account.take_of_not_admitted htake, Ledger.set]
          by_cases hj : j = key
          · subst hj
            simpa using Account.asOf_asOf hlater (b j)
          · simp [hj]

/-- A call that was denied or failed leaves a ledger that cannot be told apart from the one
before. -/
theorem sameFrom_step {s : Setting} {q : Question} (h : (b.step s q).1.succeeded = false) :
    SameFrom s.storeReading (b.step s q).2 b := by
  cases q with
  | allowN l ctx key n limit window =>
      refine sameFrom_decide fun hok => ?_
      simp [Ledger.step, hok, Question.Reply.succeeded] at h
  | poll w =>
      refine sameFrom_decide fun hok => ?_
      simp [Ledger.step, hok, Question.Reply.succeeded] at h
  | reset l ctx key =>
      simp only [Ledger.step, Ledger.reset] at h ⊢
      cases hstatus : s.status ctx with
      | some cause => exact SameFrom.refl _ b
      | none =>
          cases hfault : s.backend.head? with
          | some fault => exact SameFrom.refl _ b
          | none => simp [hstatus, hfault, Question.Reply.succeeded] at h

/-- **The machine answers the same without denied and failed calls**, as long as time goes on. -/
theorem replies_thinned {now : Nat} {xs : List (Setting × Question)}
    (hclock : xs.Pairwise fun x y => x.1.storeReading ≤ y.1.storeReading)
    (hnow : ∀ x ∈ xs, now ≤ x.1.storeReading) (h : SameFrom now b b')
    {kept : List Question.Exchange} (hkept : Thinned (xs.zip (b.replies xs)) kept) :
    b'.replies (kept.map Prod.fst) = kept.map Prod.snd := by
  induction xs generalizing now b b' kept with
  | nil =>
      cases hkept
      rfl
  | cons x rest ih =>
      obtain ⟨s, q⟩ := x
      obtain ⟨hfirst, hclock⟩ := List.pairwise_cons.1 hclock
      have hsame : SameFrom s.storeReading b b' := h.mono (hnow _ List.mem_cons_self)
      cases hkept with
      | keep _ hrest =>
          obtain ⟨hreply, hnext⟩ := hsame.step q
          rw [List.map_cons, List.map_cons, Ledger.replies, ih hclock hfirst hnext hrest, hreply]
      | leave _ hfailed hrest =>
          -- only the run with the call goes on, to a ledger that looks as before from here on
          have hback := sameFrom_step hfailed
          exact ih hclock hfirst (fun key t ht => (hback key t ht).trans (hsame key t ht)) hrest

end Ledger

namespace Question

end Question

end Turnstile
