/-
**The limiter calls of a request.**

A layer asks its limiter on behalf of a request: for a decision in reject mode, to wait in wait mode,
and again where its retry policy says so.  To speak of these calls one puts between the layer and its
limiter another limiter, which passes every call on and notes it together with its answer.  The
request does not notice this: it ends and pauses as without it.

The check of a layer has seen to it that no call has bad arguments, and the policy to it that there
is at least one call and none beyond its attempts.  All calls are the same one.  This holds whatever
the store answers, in whatever worlds the request goes on.

Main definitions:

* `LimiterNote`, `NotedStore`, `NotingLimiter` — a limiter that notes its calls beside the store;
* `Act.Noted` — work with notes, beside the same work without;
* `LimiterNote.Fair` — the notes of so many calls, all of them the same one;
* `Layer.noted` — the stretches of a request under a layer that notes.

Main results:

* `SlidingWindow.decide_uncomplaining`, `Wait.poll_sensible` — good arguments are not complained of;
* `RetryPolicy.noted_attempt`, `RetryPolicy.noted_resume` — an attempt is one call;
* `Layer.calls_within_attempts` — **what a request asks of its limiter**.
-/

import Turnstile.Proofs.Admission.Deadline
import Turnstile.Proofs.Admission.Outcome

set_option relaxedAutoImplicit false
set_option autoImplicit false

namespace Turnstile

variable {ℓ σ κ α β : Type}

/-! ### Notes -/

/-- What is noted about the calls of a limiter; the end of a wait without an error is an
admission. -/
inductive LimiterNote
  | asked (call : LimiterCall)
  | answered (answer : Except LimiterError Bool)

/-- The call that is noted, if it is one. -/
def LimiterNote.call? : LimiterNote → Option LimiterCall
  | .asked call => some call
  | .answered _ => none

/-- A store with notes beside it. -/
structure NotedStore (σ : Type) where
  store : σ
  notes : List LimiterNote

/-- A limiter that passes its calls on to another one and notes them. -/
structure NotingLimiter (ℓ : Type) where
  limiter : ℓ

/-- A world with notes beside its store. -/
def World.noting (w : World σ) (notes : List LimiterNote) : World (NotedStore σ) :=
  w.around ⟨w.backend, notes⟩

namespace Act

/-- Notes something. -/
def note (n : LimiterNote) : Act (NotedStore σ) Unit := fun w =>
  ((), w.around ⟨w.backend.store, w.backend.notes ++ [n]⟩)

/-- Works on the store beside the notes. -/
def besideNotes (act : Act σ α) : Act (NotedStore σ) α := fun w =>
  let (a, v) := act (w.around w.backend.store)
  (a, v.noting w.backend.notes)

/-- Notes the answer of a wait, if it has ended. -/
def noteEnd : Turn κ (Except LimiterError Unit) → Act (NotedStore σ) Unit
  | .done answer => note (.answered (answer.map fun _ => true))
  | .pause _ _ => return ()

end Act

instance [RateLimiter ℓ σ κ] : RateLimiter (NotingLimiter ℓ) (NotedStore σ) κ where
  allowN := fun l ctx key n limit window => do
    Act.note (.asked (.allowN key n limit window))
    let answer ← (RateLimiter.allowN l.limiter ctx key n limit window).besideNotes
    Act.note (.answered answer)
    return answer
  wait := fun l ctx key limit window => do
    Act.note (.asked (.wait key limit window))
    let turn ← (RateLimiter.wait l.limiter ctx key limit window).besideNotes
    Act.noteEnd turn
    return turn
  resume := fun l rest wake => do
    let turn ← (RateLimiter.resume l.limiter rest wake).besideNotes
    Act.noteEnd turn
    return turn
  abandon := fun l rest => (RateLimiter.abandon l.limiter rest).besideNotes

/-- The layer with a limiter that notes. -/
def Layer.noting (l : Layer ℓ) : Layer (NotingLimiter ℓ) := { l with limiter := ⟨l.limiter⟩ }

namespace LimiterNote

/-- The notes of `n` calls, all of them the same one, and none of them complained of. -/
structure Fair (call : LimiterCall) (n : Nat) (notes : List LimiterNote) : Prop where
  calls : notes.filterMap call? = List.replicate n call
  answers : ∀ reason, .answered (.error (.invalidArgument reason)) ∉ notes

variable {call : LimiterCall} {m n : Nat} {notes more : List LimiterNote}

theorem Fair.nil (call : LimiterCall) : Fair call 0 [] := ⟨rfl, fun _ => List.not_mem_nil⟩

theorem Fair.append (h : Fair call m notes) (h' : Fair call n more) :
    Fair call (m + n) (notes ++ more) := by
  refine ⟨?_, fun reason hmem => ?_⟩
  · rw [List.filterMap_append, h.calls, h'.calls, List.replicate_append_replicate]
  · obtain hmem | hmem := List.mem_append.1 hmem
    · exact h.answers reason hmem
    · exact h'.answers reason hmem

theorem Fair.asked (call : LimiterCall) : Fair call 1 [.asked call] :=
  ⟨rfl, fun _ hmem => nomatch List.mem_singleton.1 hmem⟩

theorem Fair.answered (call : LimiterCall) {answer : Except LimiterError Bool}
    (h : ∀ reason, answer ≠ .error (.invalidArgument reason)) : Fair call 0 [.answered answer] := by
  refine ⟨rfl, fun reason hmem => h reason ?_⟩
  exact (LimiterNote.answered.inj (List.mem_singleton.1 hmem)).symm

end LimiterNote

/-! ### Work with notes -/

namespace Act

/-- Work with notes beside the same work without: it does the same and adds notes, which are as `P`
says of its result. -/
def Noted (g : Act σ α) (g' : Act (NotedStore σ) α) (P : α → List LimiterNote → Prop) : Prop :=
  ∀ (w : World σ) (notes : List LimiterNote),
    ∃ more, g' (w.noting notes) = ((g w).1, (g w).2.noting (notes ++ more)) ∧ P (g w).1 more

namespace Noted

variable {g : Act σ α} {g' : Act (NotedStore σ) α} {P Q : α → List LimiterNote → Prop}

theorem mono (h : Noted g g' P) (hPQ : ∀ a more, P a more → Q a more) : Noted g g' Q := by
  intro w notes
  obtain ⟨more, hrun, hmore⟩ := h w notes
  exact ⟨more, hrun, hPQ _ _ hmore⟩

/-- Work that does not look at the store adds no notes. -/
theorem of_aloof (h : Aloof g g') {R : α → Prop} (hR : ∀ w, R (g w).1) :
    Noted g g' fun a more => more = [] ∧ R a := by
  intro w notes
  have hsame : g' (w.noting notes) = _ := h.same w ⟨w.backend, notes⟩
  refine ⟨[], ?_, rfl, hR w⟩
  rw [hsame, List.append_nil, World.noting, h.keeps]

/-- One after the other. -/
theorem bind {R : β → List LimiterNote → Prop} {k : α → Act σ β} {k' : α → Act (NotedStore σ) β}
    (h : Noted g g' P)
    (hk : ∀ a notes, P a notes → Noted (k a) (k' a) fun b more => R b (notes ++ more)) :
    Noted (g >>= k) (g' >>= k') R := by
  intro w notes
  obtain ⟨first, hfirst, hP⟩ := h w notes
  obtain ⟨second, hsecond, hR⟩ := hk _ first hP (g w).2 (notes ++ first)
  refine ⟨first ++ second, ?_, hR⟩
  rw [bind_apply, hfirst, bind_apply, hsecond, List.append_assoc]

/-- Work before that does not look at the store. -/
theorem after {R : β → List LimiterNote → Prop} {k : α → Act σ β} {k' : α → Act (NotedStore σ) β}
    (h : Aloof g g') (hk : ∀ a, Noted (k a) (k' a) R) : Noted (g >>= k) (g' >>= k') R := by
  refine (of_aloof h (R := fun _ => True) fun _ => trivial).bind ?_
  rintro a notes ⟨rfl, -⟩
  exact hk a

/-- A note in between. -/
theorem note_bind {k : Act (NotedStore σ) α} (n : LimiterNote)
    (h : Noted g k fun a more => P a (n :: more)) : Noted g (note n >>= fun _ => k) P := by
  intro w notes
  obtain ⟨more, hrun, hmore⟩ := h w (notes ++ [n])
  refine ⟨n :: more, ?_, hmore⟩
  rw [List.append_cons]
  exact hrun

/-- The work itself, and what only the notes are about. -/
theorem beside {k : α → Act (NotedStore σ) α}
    (h : ∀ w, Noted (Pure.pure (g w).1) (k (g w).1) P) : Noted g (g.besideNotes >>= k) P :=
  fun w notes => h w (g w).2 notes

/-- A result, and no note. -/
theorem pure (a : α) (h : P a []) : Noted (Pure.pure a : Act σ α) (Pure.pure a) P :=
  fun w notes => ⟨[], by rw [List.append_nil]; rfl, h⟩

/-- The same work with its result in another form. -/
theorem map {R : β → List LimiterNote → Prop} (f : α → β) (h : Noted g g' P)
    (hR : ∀ a more, P a more → R (f a) more) :
    Noted (g >>= fun a => Pure.pure (f a)) (g' >>= fun a => Pure.pure (f a)) R := by
  refine h.bind fun a notes hP => .pure (f a) ?_
  rw [List.append_nil]
  exact hR a notes hP

end Noted

end Act

/-! ### Calls with good arguments -/

/-- What is left of a stretch that pauses satisfies `P`. -/
def Turn.Leaves (P : κ → Prop) : Turn κ α → Prop
  | .done _ => True
  | .pause _ rest => P rest

theorem Turn.Leaves.map {κ' α' : Type} {P : κ → Prop} {P' : κ' → Prop} {turn : Turn κ α}
    (h : turn.Leaves P) {f : κ → κ'} (g : α → α') (hf : ∀ rest, P rest → P' (f rest)) :
    (turn.map f g).Leaves P' := by
  cases turn with
  | done a => trivial
  | pause on rest => exact hf rest h

/-- A result is not the complaint about an argument. -/
def Uncomplaining (result : Except LimiterError α) : Prop :=
  ∀ reason, result ≠ .error (.invalidArgument reason)

theorem uncomplaining_ok (a : α) : Uncomplaining (.ok a) := fun _ h => nomatch h

theorem uncomplaining_context (cause : ContextError) :
    Uncomplaining (.error (.context cause) : Except LimiterError α) := fun _ h => nomatch h

/-- **Good arguments are not complained of**, whatever the store replies. -/
theorem SlidingWindow.decide_uncomplaining [Backend σ] (clock : Nat) (call : Call) (key : String)
    {n : Nat} (limit : Nat) {window : Duration} (h : argumentFault? n window = none) (s : σ) :
    Uncomplaining (decide clock call key n limit window s).1 := by
  intro reason
  unfold decide
  rw [h]
  cases call.status with
  | some cause => exact uncomplaining_context cause reason
  | none =>
      change readReply key _ ≠ _
      generalize (Backend.eval call SlidingScript.script (SlidingScript.keys key)
        (scriptArgs clock n limit window) s).1 = reply
      rcases reply with source | value
      · cases source with
        | context cause => exact fun hanswer => nomatch hanswer
        | _ => exact fun hanswer => nomatch hanswer
      · cases value with
        | int v => exact fun hanswer => nomatch hanswer
        | _ => exact fun hanswer => nomatch hanswer

theorem SlidingWindow.allowN_uncomplaining [Backend σ] (l : SlidingWindow) (ctx : ContextId)
    (key : String) {n : Nat} (limit : Nat) {window : Duration}
    (h : argumentFault? n window = none) (w : World σ) :
    Uncomplaining (l.allowN ctx key n limit window w).1 := by
  obtain ⟨w', -, hanswer⟩ := l.allowN_world ctx key n limit window w
  rw [hanswer]
  exact decide_uncomplaining _ _ key limit h _

/-- A stretch of a wait in a window: it ends without a complaint, or what is left is in the same
window. -/
def Turn.Sensible (window : Duration) : Turn Wait (Except LimiterError Unit) → Prop
  | .done answer => Uncomplaining answer
  | .pause _ rest => rest.window = window

namespace Wait

theorem finish_sensible (w : Wait) {result : Except LimiterError Unit} (h : Uncomplaining result)
    (window : Duration) (s : World σ) : (w.finish result s).1.Sensible window := by
  rw [finish_answer]
  exact h

theorem follow_sensible (w : Wait) {answer : Except LimiterError Bool} (h : Uncomplaining answer)
    (s : World σ) : (w.follow answer s).1.Sensible w.window := by
  rcases answer with e | _ | _
  · exact w.finish_sensible (fun reason he => h reason (congrArg Except.error (Except.error.inj he)))
      _ s
  · simp only [follow, Act.bind_apply]
    cases (Act.sleep w.ctx w.limiter.sleeper w.limiter.pollInterval
      (Act.log (.awaitingCapacity w.key w.cycles) s).2).1 with
    | error cause => exact w.finish_sensible (uncomplaining_context cause) _ _
    | ok pause => rfl
  · exact w.finish_sensible (uncomplaining_ok ()) _ s

/-- A poll in a window of a millisecond at least is sensible, -/
theorem poll_sensible [Backend σ] (w : Wait) (h : 1 ≤ w.window.millis) (s : World σ) :
    (w.poll s).1.Sensible w.window := by
  unfold poll
  rw [Act.bind_apply]
  cases (Act.status w.ctx s).1 with
  | some cause => exact w.finish_sensible (uncomplaining_context cause) _ _
  | none =>
      have hargs := SlidingWindow.argumentFault?_eq_none_iff.2 ⟨Nat.le_refl 1, h⟩
      exact follow_sensible { w with cycles := w.cycles + 1 }
        (w.limiter.allowN_uncomplaining w.ctx w.key w.limit hargs _) _

/-- and so is what follows a pause. -/
theorem resume_sensible [Backend σ] (w : Wait) (h : 1 ≤ w.window.millis) (wake : Wake)
    (s : World σ) : (w.resume wake s).1.Sensible w.window := by
  cases wake with
  | timer => exact w.poll_sensible h s
  | context cause => exact w.finish_sensible (uncomplaining_context cause) _ s

end Wait

/-! ### Calls and their notes -/

section Calls

variable {n limit : Nat} {window : Duration}

/-- At the end of a wait its answer is noted. -/
theorem noted_noteEnd {turn : Turn Wait (Except LimiterError Unit)} (h : turn.Sensible window)
    (asked : LimiterCall) :
    Act.Noted (pure turn : Act σ _) (Act.noteEnd turn >>= fun _ => pure turn) fun turn' more =>
      LimiterNote.Fair asked 0 more ∧ turn'.Leaves fun rest => rest.window = window := by
  cases turn with
  | done answer =>
      refine .note_bind _ (.pure _ ⟨.answered asked fun reason hanswer => ?_, trivial⟩)
      cases answer with
      | ok _ => exact nomatch hanswer
      | error e => exact h reason (congrArg Except.error (Except.error.inj hanswer))
  | pause on rest => exact .pure _ ⟨.nil asked, h⟩

variable [Backend σ]

/-- A call for a decision is noted with its answer. -/
theorem SlidingWindow.noted_allowN (l : SlidingWindow) (ctx : ContextId) (key : String)
    (limit : Nat) (h : argumentFault? n window = none) :
    Act.Noted (l.allowN ctx key n limit window : Act σ _)
      (RateLimiter.allowN (NotingLimiter.mk l) ctx key n limit window)
      fun _ more => LimiterNote.Fair (.allowN key n limit window) 1 more := by
  refine .note_bind _ (.beside fun w => .note_bind _ (.pure _ ?_))
  exact (LimiterNote.Fair.asked _).append (.answered _ (l.allowN_uncomplaining ctx key limit h w))

/-- A wait is noted when it begins, -/
theorem Wait.noted_start (l : SlidingWindow) (ctx : ContextId) (key : String) (limit : Nat)
    (h : 1 ≤ window.millis) :
    Act.Noted (Wait.start l ctx key limit window : Act σ _)
      (RateLimiter.wait (NotingLimiter.mk l) ctx key limit window) fun turn more =>
        LimiterNote.Fair (.wait key limit window) 1 more ∧
          turn.Leaves fun rest => rest.window = window := by
  refine .note_bind _ (.beside fun w => ?_)
  refine (noted_noteEnd (poll_sensible ⟨l, ctx, key, limit, window, 0⟩ h w)
    (.wait key limit window)).mono ?_
  rintro turn more ⟨hmore, hleaves⟩
  exact ⟨(LimiterNote.Fair.asked _).append hmore, hleaves⟩

/-- and its answer when it ends. -/
theorem Wait.noted_resume (l : SlidingWindow) (rest : Wait) (h : 1 ≤ rest.window.millis)
    (wake : Wake) (asked : LimiterCall) :
    Act.Noted (rest.resume wake : Act σ _)
      (RateLimiter.resume (NotingLimiter.mk l) rest wake) fun turn more =>
        LimiterNote.Fair asked 0 more ∧ turn.Leaves fun rest' => rest'.window = rest.window :=
  .beside fun w => noted_noteEnd (rest.resume_sensible h wake w) asked

end Calls

/-! ### Retried calls -/

/-- How a run can be left that has made `n` calls of an operation: in the middle of the last one, or
before another one that its policy allows. -/
def Retrying.Made (most : Nat) (P : κ → Prop) (n : Nat) : Retrying κ → Prop
  | .calling k rest => k = n ∧ P rest
  | .backingOff k => k = n ∧ n < most

/-- An operation with notes beside the same one without: it makes one call when it begins, and none
when it goes on. -/
structure Steps.Noted (op : Steps σ κ α) (op' : Steps (NotedStore σ) κ α) (asked : LimiterCall)
    (P : κ → Prop) : Prop where
  call : ∀ n, Act.Noted (op.call n) (op'.call n)
    fun turn more => LimiterNote.Fair asked 1 more ∧ turn.Leaves P
  resume : ∀ rest wake, P rest → Act.Noted (op.resume rest wake) (op'.resume rest wake)
    fun turn more => LimiterNote.Fair asked 0 more ∧ turn.Leaves P

namespace RetryPolicy

variable {p : RetryPolicy} {ctx : ContextId} {op : Steps σ κ α} {op' : Steps (NotedStore σ) κ α}
  {call : LimiterCall} {P : κ → Prop}

/-- A policy sleeps only before an attempt that it allows. -/
theorem settle_leaves (p : RetryPolicy) (ctx : ContextId) (P : κ → Prop) (n : Nat)
    (result : Except LimiterError α) (w : World σ) :
    (p.settle ctx n result w).1.Leaves (Retrying.Made p.maxAttempts P n) := by
  cases result with
  | ok a => trivial
  | error e =>
      unfold settle
      simp only
      split
      · trivial
      split
      · rw [giveUp_answer]
        trivial
      · rename_i hmore
        have hresting (slept : Except ContextError Pause) :
            (resting n slept : Turn (Retrying κ) (Except LimiterError α)).Leaves
              (Retrying.Made p.maxAttempts P n) := by
          cases slept with
          | error cause => trivial
          | ok pause => exact ⟨rfl, Nat.lt_of_not_le hmore⟩
        exact hresting _

/-- What follows a stretch of the operation makes no call. -/
theorem noted_follow (p : RetryPolicy) (ctx : ContextId) (n : Nat)
    {turn : Turn κ (Except LimiterError α)} (h : turn.Leaves P) :
    Act.Noted (p.follow ctx n turn : Act σ _) (p.follow ctx n turn) fun turn' more =>
      more = [] ∧ turn'.Leaves (Retrying.Made p.maxAttempts P n) := by
  refine .of_aloof (p.aloof_follow ctx n turn) fun w => ?_
  cases turn with
  | done result => exact p.settle_leaves ctx P n result w
  | pause on rest => exact ⟨rfl, h⟩

/-- An attempt is one call. -/
theorem noted_attempt (p : RetryPolicy) (ctx : ContextId) (h : op.Noted op' call P) (n : Nat) :
    Act.Noted (p.attempt ctx op n) (p.attempt ctx op' n) fun turn more =>
      LimiterNote.Fair call 1 more ∧ turn.Leaves (Retrying.Made p.maxAttempts P n) := by
  refine (h.call n).bind ?_
  rintro turn notes ⟨hnotes, hleaves⟩
  refine (p.noted_follow ctx n hleaves).mono ?_
  rintro turn' more ⟨rfl, hleaves'⟩
  rw [List.append_nil]
  exact ⟨hnotes, hleaves'⟩

/-- After a pause a run makes one call or none, and none beyond the attempts of its policy. -/
theorem noted_resume (p : RetryPolicy) (ctx : ContextId) (h : op.Noted op' call P)
    {run : Retrying κ} {n : Nat} (hn : n ≤ p.maxAttempts) (hrun : run.Made p.maxAttempts P n)
    (wake : Wake) :
    Act.Noted (p.resume ctx op run wake) (p.resume ctx op' run wake) fun turn more =>
      ∃ k, LimiterNote.Fair call k more ∧ n + k ≤ p.maxAttempts ∧
        turn.Leaves (Retrying.Made p.maxAttempts P (n + k)) := by
  cases run with
  | calling k rest =>
      obtain ⟨rfl, hrest⟩ := hrun
      refine (h.resume rest wake hrest).bind ?_
      rintro turn notes ⟨hnotes, hleaves⟩
      refine (p.noted_follow ctx k hleaves).mono ?_
      rintro turn' more ⟨rfl, hleaves'⟩
      rw [List.append_nil]
      exact ⟨0, hnotes, hn, hleaves'⟩
  | backingOff k =>
      obtain ⟨rfl, hmore⟩ := hrun
      cases wake with
      | timer =>
          refine (p.noted_attempt ctx h (k + 1)).mono ?_
          rintro turn more ⟨hnotes, hleaves⟩
          exact ⟨1, hnotes, hmore, hleaves⟩
      | context cause =>
          exact .pure (Turn.done (Except.error (LimiterError.context cause)))
            ⟨0, .nil call, hn, trivial⟩

end RetryPolicy

/-! ### The calls of a layer -/

namespace Layer

variable {l : Layer SlidingWindow}

/-- The call that a layer makes about a key. -/
def callOf (l : Layer SlidingWindow) (key : String) : LimiterCall :=
  if l.waitMode then .wait key l.limit l.window else .allowN key l.cost l.limit l.window

/-- How asking about a key can be left that has made `n` calls. -/
def HasAsked (l : Layer SlidingWindow) (key : String) (n : Nat) : Admitting Wait → Prop
  | .deciding k _ run =>
      l.waitMode = false ∧ k = key ∧ run.Made l.retry.maxAttempts (fun _ => True) n
  | .awaiting k _ run =>
      l.waitMode = true ∧ k = key ∧ run.Made l.retry.maxAttempts (fun w => w.window = l.window) n

/-- What a layer with notes concludes. -/
theorem aloof_follow (l : Layer SlidingWindow) (key : String)
    (turn : Turn (Admitting Wait) (Except LimiterError Bool)) :
    Act.Aloof (l.follow key turn : Act σ _) (l.noting.follow key turn : Act (NotedStore σ) _) := by
  cases turn with
  | done answer => exact (l.aloof_conclude key answer).bind fun verdict => .pure _
  | pause on rest => exact .pure _

variable {key : String} {n : Nat}

/-- What follows a stretch of asking makes no call. -/
theorem noted_tell (l : Layer SlidingWindow) (key : String)
    {turn : Turn (Admitting Wait) (Except LimiterError Bool)} (h : turn.Leaves (l.HasAsked key n)) :
    Act.Noted (l.follow key turn : Act σ _) (l.noting.follow key turn) fun turn' more =>
      more = [] ∧ turn'.Leaves (l.HasAsked key n) := by
  refine .of_aloof (l.aloof_follow key turn) fun w => ?_
  cases turn with
  | done answer => trivial
  | pause on rest => exact h

variable [Backend σ]

/-- One decision is one call. -/
theorem decisionSteps_noted (h : l.Built) (hmode : l.waitMode = false) (key : String)
    (ctx : ContextId) :
    (l.decisionSteps key ctx : Steps σ Empty Bool).Noted (l.noting.decisionSteps key ctx)
      (l.callOf key) fun _ => True := by
  obtain ⟨-, hwindow, hcost⟩ := h.pos
  have hargs := SlidingWindow.argumentFault?_eq_none_iff.2 ⟨hcost, hwindow⟩
  have hcall : l.callOf key = .allowN key l.cost l.limit l.window := by simp [callOf, hmode]
  refine ⟨fun n => ?_, fun rest => nomatch rest⟩
  refine Act.Noted.after (.log (.asking key n .reject)) fun _ => ?_
  refine (l.limiter.noted_allowN ctx key l.limit hargs).map Turn.done fun answer more hmore => ?_
  exact ⟨hcall ▸ hmore, trivial⟩

/-- A wait is one call. -/
theorem waitSteps_noted (h : l.Built) (hmode : l.waitMode = true) (key : String)
    (ctx : ContextId) :
    (l.waitSteps key ctx : Steps σ Wait Unit).Noted (l.noting.waitSteps key ctx)
      (l.callOf key) fun w => w.window = l.window := by
  obtain ⟨-, hwindow, -⟩ := h.pos
  have hcall : l.callOf key = .wait key l.limit l.window := by simp [callOf, hmode]
  refine ⟨fun n => ?_, fun rest wake hrest => ?_⟩
  · rw [hcall]
    exact Act.Noted.after (.log (.asking key n .wait)) fun _ =>
      Wait.noted_start l.limiter ctx key l.limit hwindow
  · rw [← hrest] at hwindow ⊢
    exact Wait.noted_resume l.limiter rest hwindow wake (l.callOf key)

/-- A layer begins to ask with one call, -/
theorem noted_ask (h : l.Built) (parent : ContextId) (key : String) :
    Act.Noted (l.ask parent key : Act σ _) (l.noting.ask parent key) fun turn more =>
      LimiterNote.Fair (l.callOf key) 1 more ∧ turn.Leaves (l.HasAsked key 1) := by
  have hnoting : l.noting.waitMode = l.waitMode := rfl
  unfold ask
  rw [hnoting]
  cases hmode : l.waitMode with
  | true =>
      have hcontext : Act.Aloof
          (fun w : World σ => Act.newContext (fun cs => cs.withTimeout parent w.now l.waitTimeout) w)
          (fun w : World (NotedStore σ) =>
            Act.newContext (fun cs => cs.withTimeout parent w.now l.waitTimeout) w) :=
        ⟨fun _ => rfl, fun _ _ => rfl⟩
      refine Act.Noted.after hcontext fun ctx => ?_
      refine (l.retry.noted_attempt ctx (waitSteps_noted (σ := σ) h hmode key ctx) 1).map
        (Turn.map (Admitting.awaiting key ctx) fun result => result.map fun _ => true)
        fun turn more hturn => ?_
      exact ⟨hturn.1, hturn.2.map _ fun run hrun => ⟨hmode, rfl, hrun⟩⟩
  | false =>
      refine Act.Noted.after (.newContext fun cs => cs.child parent) fun ctx => ?_
      refine (l.retry.noted_attempt ctx (decisionSteps_noted h hmode key ctx) 1).map
        (Turn.map (Admitting.deciding key ctx) id) fun turn more hturn => ?_
      exact ⟨hturn.1, hturn.2.map _ fun run hrun => ⟨hmode, rfl, hrun⟩⟩

/-- and goes on with one call or none. -/
theorem noted_askOn (h : l.Built) (hn : n ≤ l.retry.maxAttempts) {a : Admitting Wait}
    (ha : l.HasAsked key n a) (wake : Wake) :
    Act.Noted (l.askOn a wake : Act σ _) (l.noting.askOn a wake) fun turn more =>
      ∃ k, LimiterNote.Fair (l.callOf key) k more ∧ n + k ≤ l.retry.maxAttempts ∧
        turn.Leaves (l.HasAsked key (n + k)) := by
  cases a with
  | deciding key' ctx run =>
      obtain ⟨hmode, rfl, hrun⟩ := ha
      refine (l.retry.noted_resume ctx (decisionSteps_noted h hmode key' ctx) hn hrun wake).map
        (Turn.map (Admitting.deciding key' ctx) id) ?_
      rintro turn more ⟨k, hmore, hk, hleaves⟩
      exact ⟨k, hmore, hk, hleaves.map _ fun run hrun => ⟨hmode, rfl, hrun⟩⟩
  | awaiting key' ctx run =>
      obtain ⟨hmode, rfl, hrun⟩ := ha
      refine (l.retry.noted_resume ctx (waitSteps_noted (σ := σ) h hmode key' ctx) hn hrun wake).map
        (Turn.map (Admitting.awaiting key' ctx) fun result => result.map fun _ => true) ?_
      rintro turn more ⟨k, hmore, hk, hleaves⟩
      exact ⟨k, hmore, hk, hleaves.map _ fun run hrun => ⟨hmode, rfl, hrun⟩⟩

/-- The first stretch of a request makes one call, -/
theorem noted_start (h : l.Built) (parent : ContextId) (caller : Caller) :
    Act.Noted (l.start parent caller : Act σ _) (l.noting.start parent caller) fun turn more =>
      LimiterNote.Fair (l.callOf (l.key caller)) 1 more ∧
        turn.Leaves (l.HasAsked (l.key caller) 1) := by
  refine (noted_ask h parent (l.key caller)).bind ?_
  rintro turn notes ⟨hnotes, hleaves⟩
  refine (l.noted_tell (l.key caller) hleaves).mono ?_
  rintro turn' more ⟨rfl, hleaves'⟩
  rw [List.append_nil]
  exact ⟨hnotes, hleaves'⟩

/-- and every other one makes one or none. -/
theorem noted_resume (h : l.Built) (hn : n ≤ l.retry.maxAttempts) {a : Admitting Wait}
    (ha : l.HasAsked key n a) (wake : Wake) :
    Act.Noted (l.resume a wake : Act σ _) (l.noting.resume a wake) fun turn more =>
      ∃ k, LimiterNote.Fair (l.callOf key) k more ∧ n + k ≤ l.retry.maxAttempts ∧
        turn.Leaves (l.HasAsked key (n + k)) := by
  have hkey : a.key = key := by
    cases a with
    | deciding key' ctx run => exact ha.2.1
    | awaiting key' ctx run => exact ha.2.1
  unfold resume
  rw [hkey]
  refine (noted_askOn h hn ha wake).bind ?_
  rintro turn notes ⟨k, hnotes, hk, hleaves⟩
  refine (l.noted_tell key hleaves).mono ?_
  rintro turn' more ⟨rfl, hleaves'⟩
  rw [List.append_nil]
  exact ⟨k, hnotes, hk, hleaves'⟩

/-- The stretches of a request under a layer that notes, in the worlds that it meets; the notes are
kept from stretch to stretch. -/
def noted (l : Layer SlidingWindow) (parent : ContextId) (caller : Caller)
    (meet : Nat → World σ) : Nat → Turn (Admitting Wait) Verdict × World (NotedStore σ)
  | 0 => l.noting.start parent caller ((meet 0).noting [])
  | n + 1 =>
      match l.noted parent caller meet n with
      | (.pause on rest, w) =>
          match (meet (n + 1)).wake? on with
          | some wake =>
              l.noting.resume rest wake
                (((meet (n + 1)).afterPause on wake).noting w.backend.notes)
          | none => (.pause on rest, w)
      | ended => ended

/-- Every stretch of a request ends as without notes, and is left with so many calls noted. -/
theorem exists_noted (h : l.Built) (parent : ContextId) (caller : Caller) (meet : Nat → World σ)
    (n : Nat) :
    ∃ notes k, l.noted parent caller meet n =
        ((l.story parent caller meet n).1, (l.story parent caller meet n).2.noting notes) ∧
      LimiterNote.Fair (l.callOf (l.key caller)) k notes ∧ 1 ≤ k ∧ k ≤ l.retry.maxAttempts ∧
      (l.story parent caller meet n).1.Leaves (l.HasAsked (l.key caller) k) := by
  induction n with
  | zero =>
      obtain ⟨more, hrun, hmore, hleaves⟩ := noted_start h parent caller (meet 0) []
      exact ⟨more, 1, hrun, hmore, Nat.le_refl 1, h.attempts_pos, hleaves⟩
  | succ n ih =>
      obtain ⟨notes, k, hnoted, hnotes, hpos, hle, hleaves⟩ := ih
      cases hstory : l.story parent caller meet n with
      | mk turn w =>
          rw [hstory] at hnoted hleaves
          cases turn with
          | done verdict =>
              refine ⟨notes, k, ?_, hnotes, hpos, hle, ?_⟩
              · simp only [noted, hnoted, story, hstory]
              · simp only [story, hstory]
                trivial
          | pause on rest =>
              cases hwake : (meet (n + 1)).wake? on with
              | none =>
                  refine ⟨notes, k, ?_, hnotes, hpos, hle, ?_⟩
                  · simp only [noted, hnoted, story, hstory, hwake]
                  · simp only [story, hstory, hwake]
                    exact hleaves
              | some wake =>
                  obtain ⟨more, hrun, j, hmore, hj, hleaves'⟩ :=
                    noted_resume h hle hleaves wake ((meet (n + 1)).afterPause on wake) notes
                  refine ⟨notes ++ more, k + j, ?_, hnotes.append hmore,
                    Nat.le_trans hpos (Nat.le_add_right k j), hj, ?_⟩
                  · simp only [noted, hnoted, story, hstory, hwake]
                    exact hrun
                  · simp only [story, hstory, hwake]
                    exact hleaves'

/-- **What a request asks of its limiter.**  Under a layer that has passed its check, whatever the
store answers and in whatever worlds the request goes on: with a limiter that notes its calls the
request goes on and ends as without, no call is answered with a complaint about its arguments, and
the calls are all the same one, at least one of them and at most as many as the attempts of the
policy. -/
theorem calls_within_attempts (h : l.Built) (parent : ContextId) (caller : Caller)
    (meet : Nat → World σ) (n : Nat) :
    ∃ notes, l.noted parent caller meet n =
        ((l.story parent caller meet n).1, (l.story parent caller meet n).2.noting notes) ∧
      (∀ reason, .answered (.error (.invalidArgument reason)) ∉ notes) ∧
      ∃ k, 1 ≤ k ∧ k ≤ l.retry.maxAttempts ∧
        notes.filterMap LimiterNote.call? = List.replicate k (l.callOf (l.key caller)) := by
  obtain ⟨notes, k, hnoted, hnotes, hpos, hle, -⟩ := exists_noted h parent caller meet n
  exact ⟨notes, hnoted, hnotes.answers, k, hpos, hle, hnotes.calls⟩

/-- The store cannot be reached, and the policy makes three attempts: three calls are noted. -/
theorem calls_within_attempts_three :
    let l : Layer SlidingWindow :=
      ⟨.plain, Caller.addressKey, 5, Duration.ofMillis 1000, 1, false, .zero,
        ⟨3, .constant .zero, .none, .instant⟩, .failOpen, 429, "rate limit exceeded", 500,
        "internal server error", Rejection.response, AdmissionError.response, false⟩
    let store : AnsweringStore := ⟨fun _ => .error (.connection "refused"), 0⟩
    l.Built ∧ ∃ notes,
      l.noted 0 ⟨none, []⟩ (fun _ => World.start 0 0 store) 2 =
        ((l.story 0 ⟨none, []⟩ (fun _ => World.start 0 0 store) 2).1,
          (l.story 0 ⟨none, []⟩ (fun _ => World.start 0 0 store) 2).2.noting notes) ∧
      (∀ reason, .answered (.error (.invalidArgument reason)) ∉ notes) ∧
      notes.filterMap LimiterNote.call? =
        List.replicate 3 (.allowN "unknown" 1 5 (Duration.ofMillis 1000)) := by
  intro l store
  have hbuilt : l.Built := by
    refine ⟨[.limiter .plain, .limit 5, .window (Duration.ofMillis 1000),
      .retryPolicy ⟨3, .constant .zero, .none, .instant⟩, .failurePolicy .failOpen],
      fun p hp => ?_, rfl⟩
    obtain rfl : p = ⟨3, .constant .zero, .none, .instant⟩ := by simpa using hp
    exact Or.inr ⟨⟨3, .ok (.constant .zero), .none, .instant⟩, rfl⟩
  obtain ⟨notes, hnoted, hanswers, k, -, -, hcalls⟩ :=
    calls_within_attempts hbuilt 0 ⟨none, []⟩ (fun _ => World.start 0 0 store) 2
  have hnotes : (l.noted 0 ⟨none, []⟩ (fun _ => World.start 0 0 store) 2).2.backend.notes = notes :=
    congrArg (fun r => r.2.backend.notes) hnoted
  have hlength : (notes.filterMap LimiterNote.call?).length = 3 := by
    rw [← hnotes]
    decide
  rw [hcalls, List.length_replicate] at hlength
  subst hlength
  exact ⟨hbuilt, notes, hnoted, hanswers, hcalls⟩

end Layer

end Turnstile
