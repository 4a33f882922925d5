/-
**Settings depend on their meaningful members alone.**

The settings in an object are gathered from its members one by one.  The steps of two members
commute: they fill different places of the draft, or one of them is not filled from anything, or
both are after the same place and the second one fails, whichever it is.  So the order of the
members does not matter, two members of one name can be brought to the front, where the second one
is seen to fail, and a member whose name is unknown can be left out, whatever its value is.  The
same holds inside the retry settings, whose meaning is all that their member contributes.

Main definitions:

* `Json.Named`, `Json.Foreign`, `Json.Rearranged` — a member of a name, a member with a name other
  than those given, and members in another order with foreign ones among them;
* `Json.Lacks`, `Json.Repeats` — a name is missing, and a name occurs twice;
* `Settings.retryForm`, `Settings.admissionForm` — the two records;
* `AdmissionSettings.Rearranged`, `AdmissionSettings.Faulty` — members that differ from others only
  in what does not matter, and members that are no settings.

Main results:

* `Settings.Form.step_comm` — the steps of two members commute;
* `Settings.Form.gather_rearranged` — what does not matter to a record;
* `Settings.Form.gather_repeats`, `Settings.Form.meaning_lacks` — what no record is read from;
* `Json.toOption_readAll` — what a text is read as, as a whole;
* `AdmissionSettings.ofJson_document` — **settings are read from their meaningful members, each once
  and the required ones all there**.
-/

import Mathlib.Data.List.Pairwise
import Mathlib.Data.List.Perm.Basic
import Turnstile.Proofs.Settings.Records

set_option relaxedAutoImplicit false
set_option autoImplicit false

namespace Turnstile

namespace Json

variable {α : Type}

open Read

/-! ### Members by their names -/

/-- A member has a name. -/
def Named (name : String) (m : Member) : Prop := denotes? m.1 = some name

instance (name : String) : DecidablePred (Named name) := fun _ =>
  inferInstanceAs (Decidable (_ = _))

/-- A member has a name that is none of those given. -/
def Foreign (names : List String) (m : Member) : Prop := ∃ name, Named name m ∧ name ∉ names

/-- Members in any order, with foreign ones among them. -/
def Rearranged (names : List String) (ms ms' : List Member) : Prop :=
  ∃ more, (∀ m ∈ more, Foreign names m) ∧ ms'.Perm (ms ++ more)

/-- No member has one of the names. -/
def Lacks (names : List String) (ms : List Member) : Prop :=
  ∃ name ∈ names, ∀ m ∈ ms, ¬ Named name m

/-- Two members have the same one of the names. -/
def Repeats (names : List String) (ms : List Member) : Prop :=
  ∃ name ∈ names, 2 ≤ ms.countP (Named name)

/-! ### Whole texts -/

/-- What ends a text: nothing but blanks follows. -/
def ended (a : α) : Read α := do
  match ← upcoming with
  | none => return a
  | some _ => .fail .malformed

theorem take?_ended {after : List Char} (h : Blank after) (a : α) :
    (ended a).take? after = some (a, []) := by
  have hblank : (ended a).take? (after ++ []) = (ended a).take? [] :=
    take?_upcoming_blank h _ []
  rw [List.append_nil] at hblank
  exact hblank

theorem toOption_readAll_eq (r : Read α) (text : String) :
    (readAll r text).toOption = ((r >>= ended).take? text.toList).map Prod.fst := by
  unfold readAll Read.take?
  split
  · rename_i hok
    exact (congrArg (fun x => (Except.toOption x).map Prod.fst) hok).symm
  · rename_i herror
    exact (congrArg (fun x => (Except.toOption x).map Prod.fst) herror).symm

/-- **A whole text is read as its tree is understood.** -/
theorem toOption_readAll {r : Read α} {meaning : Tree → Option α} (hr : Understands r meaning)
    {v : Tree} {text : String} (h : Document v text) : (readAll r text).toOption = meaning v := by
  obtain ⟨before, spelled, after, hbefore, hafter, hv, htext⟩ := h
  have hends : Ends after := by
    simpa using ends_nil.after_blank hafter
  have htaken := hr v spelled before after hv hbefore hends
  rw [toOption_readAll_eq, htext, take?_bind, htaken]
  cases meaning v with
  | none => rfl
  | some a =>
      rw [Option.map_some, Option.bind_some, take?_ended hafter]
      rfl

end Json

namespace Settings

open Json

namespace Form

variable {δ : Type} (F : Form δ)

/-! ### Steps -/

/-- Two parts are the same, or they are apart. -/
theorem eq_or_apart {p q : Part δ} (hp : p ∈ F.parts) (hq : q ∈ F.parts) : p = q ∨ p.Apart q := by
  by_cases hsame : p = q
  · exact .inl hsame
  · have hsymm : Std.Symm (Part.Apart (δ := δ)) := ⟨fun _ _ => Part.Apart.symm⟩
    exact .inr (F.apart.forall hp hq hsame)

theorem mem_of_part? {name : String} {p : Part δ} (h : F.part? name = some p) :
    p ∈ F.parts ∧ p.name = name :=
  ⟨List.mem_of_find?_eq_some h, by simpa using List.find?_some h⟩

/-- A part is not filled twice. -/
theorem fill?_fill? (p : Part δ) (v w : Tree) (d : δ) : (p.fill? v d).bind (p.fill? w) = none := by
  unfold Part.fill?
  split
  · rfl
  · cases p.meaning v with
    | none => rfl
    | some a => simp [p.given_set]

/-- Parts that are apart are filled in any order. -/
theorem fill?_comm {p q : Part δ} (h : p.Apart q) (v w : Tree) (d : δ) :
    (p.fill? v d).bind (q.fill? w) = (q.fill? w d).bind (p.fill? v) := by
  unfold Part.fill?
  cases hp : (p.get d).isSome <;> cases hq : (q.get d).isSome <;> cases p.meaning v <;>
    cases q.meaning w <;> simp [hp, hq, h.get_left, h.get_right, h.set_comm]

/-- A member stops everything, does nothing, or fills the part of its name. -/
theorem step_cases (m : Json.Member) : (F.step m = fun _ => none) ∨ F.step m = some ∨
    ∃ p ∈ F.parts, Named p.name m ∧ F.step m = p.fill? m.2 := by
  unfold step Named
  cases denotes? m.1 with
  | none => exact .inl rfl
  | some name =>
      cases hpart : F.part? name with
      | none => exact .inr (.inl (funext fun d => by simp [hpart]))
      | some p =>
          obtain ⟨hp, hname⟩ := F.mem_of_part? hpart
          exact .inr (.inr ⟨p, hp, by rw [hname], funext fun d => by simp [hpart]⟩)

/-- **The steps of two members commute.** -/
theorem step_comm (m m' : Json.Member) (d : δ) :
    (F.step m d).bind (F.step m') = (F.step m' d).bind (F.step m) := by
  rcases F.step_cases m with hm | hm | ⟨p, hp, -, hm⟩ <;>
    rcases F.step_cases m' with hm' | hm' | ⟨q, hq, -, hm'⟩ <;> rw [hm, hm']
  case inr.inr.inr.inr =>
    obtain rfl | hapart := F.eq_or_apart hp hq
    · rw [fill?_fill?, fill?_fill?]
    · exact fill?_comm hapart m.2 m'.2 d
  all_goals simp

/-- The order of the members does not matter. -/
theorem fold_perm {ms ms' : List Json.Member} (h : ms.Perm ms') (d : Option δ) :
    F.fold ms d = F.fold ms' d := by
  have hcomm : RightCommutative fun (d : Option δ) m => d.bind (F.step m) := by
    refine ⟨fun d m m' => ?_⟩
    cases d with
    | none => rfl
    | some d => exact F.step_comm m m' d
  exact h.foldl_eq d

/-- The names of the parts. -/
def names : List String := F.parts.map Part.name

theorem part?_eq_none {name : String} (h : name ∉ F.names) : F.part? name = none := by
  rw [part?, List.find?_eq_none]
  intro p hp hname
  exact h (List.mem_map.2 ⟨p, hp, by simpa using hname⟩)

theorem exists_part {name : String} (h : name ∈ F.names) :
    ∃ p ∈ F.parts, p.name = name ∧ F.part? name = some p := by
  cases hpart : F.part? name with
  | none =>
      obtain ⟨p, hp, hname⟩ := List.mem_map.1 h
      rw [part?, List.find?_eq_none] at hpart
      exact absurd (by simpa using hname) (hpart p hp)
  | some p => exact ⟨p, (F.mem_of_part? hpart).1, (F.mem_of_part? hpart).2, rfl⟩

theorem step_named {name : String} {m : Json.Member} (h : Named name m) {p : Part δ}
    (hp : F.part? name = some p) : F.step m = p.fill? m.2 := by
  funext d
  rw [step, show denotes? m.1 = some name from h, Option.bind_some, hp]

/-- A member with an unknown name does nothing. -/
theorem step_foreign {m : Json.Member} (h : Foreign F.names m) : F.step m = some := by
  obtain ⟨name, hname, hunknown⟩ := h
  funext d
  rw [step, show denotes? m.1 = some name from hname, Option.bind_some, F.part?_eq_none hunknown]

theorem fold_foreign {more : List Json.Member} (h : ∀ m ∈ more, Foreign F.names m) (d : Option δ) :
    F.fold more d = d := by
  induction more generalizing d with
  | nil => rfl
  | cons m more ih =>
      rw [fold_cons, F.step_foreign (h m List.mem_cons_self), Option.bind_fun_some]
      exact ih (fun m hm => h m (List.mem_cons_of_mem _ hm)) d

theorem fold_append (ms more : List Json.Member) (d : Option δ) :
    F.fold (ms ++ more) d = F.fold more (F.fold ms d) := List.foldl_append

/-- **Neither the order of the members nor a foreign one matters to a record.** -/
theorem gather_rearranged {ms ms' : List Json.Member} (h : Rearranged F.names ms ms') :
    F.gather ms' = F.gather ms := by
  obtain ⟨more, hmore, hperm⟩ := h
  rw [gather, F.fold_perm hperm, fold_append, F.fold_foreign hmore, gather]

/-! ### What no record is read from -/

/-- Two members of one name can be brought to the front. -/
theorem exists_pair {name : String} {ms : List Json.Member} (h : 2 ≤ ms.countP (Named name)) :
    ∃ m m' rest, Named name m ∧ Named name m' ∧ ms.Perm (m :: m' :: rest) := by
  have hperm := List.filter_append_perm (fun m => decide (Named name m)) ms
  have hall : ∀ m ∈ ms.filter (Named name), Named name m := fun m hm => by
    simpa using List.of_mem_filter hm
  rw [List.countP_eq_length_filter] at h
  rcases hms : ms.filter (Named name) with _ | ⟨m, _ | ⟨m', rest⟩⟩ <;> rw [hms] at h hall hperm
  · exact absurd h (by simp)
  · exact absurd h (by simp)
  · exact ⟨m, m', _, hall m (by simp), hall m' (by simp), hperm.symm⟩

/-- **Nothing is read where a name occurs twice.** -/
theorem gather_repeats {ms : List Json.Member} (h : Repeats F.names ms) : F.gather ms = none := by
  obtain ⟨name, hname, hcount⟩ := h
  obtain ⟨m, m', rest, hm, hm', hperm⟩ := exists_pair hcount
  obtain ⟨p, -, -, hpart⟩ := F.exists_part hname
  rw [gather, F.fold_perm hperm, fold_cons, fold_cons, Option.bind_some, F.step_named hm hpart,
    F.step_named hm' hpart, fill?_fill?, fold_none]

theorem get_step {p : Part δ} (hp : p ∈ F.parts) {m : Json.Member} (h : ¬ Named p.name m) {d d' : δ}
    (hd : F.step m d = some d') : p.get d' = p.get d := by
  rcases F.step_cases m with hm | hm | ⟨q, hq, hname, hm⟩ <;> rw [hm] at hd
  · exact nomatch hd
  · rw [Option.some.inj hd]
  · obtain rfl | hapart := F.eq_or_apart hp hq
    · exact absurd hname h
    · unfold Part.fill? at hd
      split at hd
      · exact nomatch hd
      · obtain ⟨a, -, rfl⟩ := Option.map_eq_some_iff.1 hd
        exact hapart.get_left a d

/-- A part that no member has the name of stays as it was. -/
theorem get_fold {p : Part δ} (hp : p ∈ F.parts) {ms : List Json.Member}
    (h : ∀ m ∈ ms, ¬ Named p.name m) {d d' : δ} (hd : F.fold ms (some d) = some d') :
    p.get d' = p.get d := by
  induction ms generalizing d with
  | nil => rw [Option.some.inj hd]
  | cons m ms ih =>
      rw [fold_cons, Option.bind_some] at hd
      cases hstep : F.step m d with
      | none =>
          rw [hstep, fold_none] at hd
          exact nomatch hd
      | some d'' =>
          rw [hstep] at hd
          rw [ih (fun m hm => h m (List.mem_cons_of_mem _ hm)) hd]
          exact F.get_step hp (h m List.mem_cons_self) hstep

/-- The names of the parts that must be there. -/
def required : List String := (F.parts.filter Part.required).map Part.name

/-- **Nothing is read where a required name is missing.** -/
theorem meaning_lacks {ms : List Json.Member} (h : Lacks F.required ms) :
    F.meaning (.object ms) = none := by
  obtain ⟨name, hname, hnone⟩ := h
  obtain ⟨p, hpart, rfl⟩ := List.mem_map.1 hname
  obtain ⟨hp, hrequired⟩ := List.mem_filter.1 hpart
  rw [meaning]
  cases hgather : F.gather ms with
  | none => rfl
  | some d =>
      have hget : p.get d = none := (F.get_fold hp hnone hgather).trans (F.blank p hp)
      have hincomplete : F.complete d = false := by
        rw [complete, List.all_eq_false]
        exact ⟨p, hp, by simp [hrequired, hget]⟩
      rw [Option.filter_some, hincomplete]
      rfl

/-- Nothing is read where a member stops everything. -/
theorem fold_eq_none {ms : List Json.Member} {m : Json.Member} (hm : m ∈ ms)
    (h : F.step m = fun _ => none) (d : Option δ) : F.fold ms d = none := by
  obtain ⟨before, later, rfl⟩ := List.append_of_mem hm
  rw [fold_append, fold_cons, h, Option.bind_fun_none, fold_none]

theorem fold_congr {ms ms' : List Json.Member}
    (h : List.Forall₂ (fun m m' => F.step m = F.step m') ms ms') (d : Option δ) :
    F.fold ms d = F.fold ms' d := by
  induction h generalizing d with
  | nil => rfl
  | cons hstep _ ih => rw [fold_cons, fold_cons, hstep, ih]

end Form

/-! ### The two records -/

/-- Retry settings as a record. -/
def retryForm : Form RetryDraft where
  name := "RetrySettings"
  empty := retryShape.empty
  parts :=
    [⟨"max_attempts", true, Nat, (·.maxAttempts), fun a d => { d with maxAttempts := some a },
        attempts, _, understands_natural (Nat.le_refl _) "usize", fun _ _ => rfl⟩,
      ⟨"retry_interval_ms", true, Nat, (·.retryIntervalMs),
        fun a d => { d with retryIntervalMs := some a }, word64, _,
        understands_natural (Nat.le_refl _) "u64", fun _ _ => rfl⟩,
      ⟨"use_exponential_backoff", false, Bool, (·.exponential),
        fun a d => { d with exponential := some a }, readTruth, _, understands_truth,
        fun _ _ => rfl⟩,
      ⟨"max_retry_interval_ms", false, Nat, (·.maxRetryIntervalMs),
        fun a d => { d with maxRetryIntervalMs := some a }, word64, _,
        understands_natural (Nat.le_refl _) "u64", fun _ _ => rfl⟩,
      ⟨"jitter", false, Jitter, (·.jitter), fun a d => { d with jitter := some a },
        readVariant jitters, _, understands_variant jitters, fun _ _ => rfl⟩]
  apart := by
    simp only [List.pairwise_cons, List.mem_cons, forall_eq_or_imp, List.not_mem_nil,
      false_imp_iff, implies_true, List.Pairwise.nil, and_true]
    repeat' apply And.intro
    all_goals exact ⟨by decide, fun _ _ _ => rfl, fun _ _ => rfl, fun _ _ => rfl⟩
  blank := by simp [retryShape]

theorem shape_retryForm : retryForm.shape = retryShape := rfl

end Settings

open Json Settings

/-- What retry settings are read from. -/
def RetrySettings.meaning (v : Tree) : Option RetrySettings :=
  (retryForm.meaning v).map RetryDraft.finish

theorem RetrySettings.understands : Understands RetrySettings.read RetrySettings.meaning := by
  have hshape := retryForm.understands
  rw [shape_retryForm] at hshape
  exact hshape.map RetryDraft.finish

namespace Settings

/-- Admission settings as a record. -/
def admissionForm : Form AdmissionDraft where
  name := "AdmissionSettings"
  empty := admissionShape.empty
  parts :=
    [⟨"limit", true, Nat, (·.limit), fun a d => { d with limit := some a }, word64, _,
        understands_natural (Nat.le_refl _) "u64", fun _ _ => rfl⟩,
      ⟨"window_ms", true, Nat, (·.windowMs), fun a d => { d with windowMs := some a }, word64, _,
        understands_natural (Nat.le_refl _) "u64", fun _ _ => rfl⟩,
      ⟨"wait_mode", false, Option Bool, (·.waitMode), fun a d => { d with waitMode := some a },
        readOptional readTruth, _, understands_truth.optional, fun _ _ => rfl⟩,
      ⟨"wait_timeout_ms", false, Option Nat, (·.waitTimeoutMs),
        fun a d => { d with waitTimeoutMs := some a }, readOptional word64, _,
        (understands_natural (Nat.le_refl _) "u64").optional, fun _ _ => rfl⟩,
      ⟨"cost", false, Option Nat, (·.cost), fun a d => { d with cost := some a },
        readOptional word64, _, (understands_natural (Nat.le_refl _) "u64").optional,
        fun _ _ => rfl⟩,
      ⟨"retry", false, Option RetrySettings, (·.retry), fun a d => { d with retry := some a },
        readOptional RetrySettings.read, _, RetrySettings.understands.optional, fun _ _ => rfl⟩,
      ⟨"failure_policy", false, Option FailurePolicy, (·.failurePolicy),
        fun a d => { d with failurePolicy := some a }, readOptional (readVariant failurePolicies),
        _, (understands_variant failurePolicies).optional, fun _ _ => rfl⟩,
      ⟨"rejected_status", false, Option Nat, (·.rejectedStatus),
        fun a d => { d with rejectedStatus := some a }, readOptional word16, _,
        (understands_natural (by decide) "u16").optional, fun _ _ => rfl⟩,
      ⟨"rejected_message", false, Option String, (·.rejectedMessage),
        fun a d => { d with rejectedMessage := some a }, readOptional text, _,
        (understands_text "a string").optional, fun _ _ => rfl⟩,
      ⟨"error_status", false, Option Nat, (·.errorStatus),
        fun a d => { d with errorStatus := some a }, readOptional word16, _,
        (understands_natural (by decide) "u16").optional, fun _ _ => rfl⟩,
      ⟨"error_message", false, Option String, (·.errorMessage),
        fun a d => { d with errorMessage := some a }, readOptional text, _,
        (understands_text "a string").optional, fun _ _ => rfl⟩]
  apart := by
    simp only [List.pairwise_cons, List.mem_cons, forall_eq_or_imp, List.not_mem_nil,
      false_imp_iff, implies_true, List.Pairwise.nil, and_true]
    repeat' apply And.intro
    all_goals exact ⟨by decide, fun _ _ _ => rfl, fun _ _ => rfl, fun _ _ => rfl⟩
  blank := by simp [admissionShape]

theorem shape_admissionForm : admissionForm.shape = admissionShape := rfl

end Settings

namespace AdmissionSettings

/-- What settings are read from. -/
def meaning (v : Tree) : Option AdmissionSettings :=
  (admissionForm.meaning v).map AdmissionDraft.finish

/-- Settings in a text are read from its tree. -/
theorem toOption_ofJson {v : Tree} {text : String} (h : Document v text) :
    (ofJson text).toOption = meaning v := by
  have hshape := admissionForm.understands
  rw [shape_admissionForm] at hshape
  exact toOption_readAll (hshape.map AdmissionDraft.finish) h

/-! ### What matters, and what does not -/

/-- A member in another form: as it was, or with retry settings whose members are rearranged. -/
inductive Amended : Json.Member → Json.Member → Prop
  | same (m : Json.Member) : Amended m m
  | retry (name : List Json.Piece) (named : denotes? name = some "retry")
      (inner inner' : List Json.Member)
      (rearranged : Json.Rearranged (retryShape.fields.map Field.name) inner inner') :
      Amended (name, .object inner) (name, .object inner')

/-- Members that differ from others in what does not matter: their order, the order of those of
their retry settings, and members with unknown names in both. -/
def Rearranged (ms ms' : List Json.Member) : Prop :=
  ∃ kept, List.Forall₂ Amended ms kept ∧
    Json.Rearranged (admissionShape.fields.map Field.name) kept ms'

/-- Members that are no retry settings: a required one is missing, or a known one occurs twice. -/
def FaultyRetry (ms : List Json.Member) : Prop :=
  Lacks ["max_attempts", "retry_interval_ms"] ms ∨ Repeats (retryShape.fields.map Field.name) ms

/-- Members that are no settings: a required one is missing, a known one occurs twice, or the retry
settings in an object are none. -/
def Faulty (ms : List Json.Member) : Prop :=
  Lacks ["limit", "window_ms"] ms ∨ Repeats (admissionShape.fields.map Field.name) ms ∨
    ∃ m ∈ ms, Named "retry" m ∧ ∃ inner, m.2 = .object inner ∧ FaultyRetry inner

theorem meaning_faultyRetry {ms : List Json.Member} (h : FaultyRetry ms) :
    RetrySettings.meaning (.object ms) = none := by
  rw [RetrySettings.meaning]
  obtain h | h := h
  · rw [retryForm.meaning_lacks h]
    rfl
  · rw [Form.meaning, retryForm.gather_repeats h]
    rfl

/-- **No settings are read from members that are none.** -/
theorem meaning_faulty {ms : List Json.Member} (h : Faulty ms) : meaning (.object ms) = none := by
  rw [meaning]
  obtain h | h | ⟨m, hm, hname, inner, hvalue, hfaulty⟩ := h
  · rw [admissionForm.meaning_lacks h]
    rfl
  · rw [Form.meaning, admissionForm.gather_repeats h]
    rfl
  · -- the member of the retry settings stops everything
    have hstop : admissionForm.step m = fun _ => none := by
      funext d
      rw [admissionForm.step_named hname rfl, hvalue, Part.fill?]
      split
      · rfl
      · change ((RetrySettings.meaning (.object inner)).map some).map _ = none
        rw [meaning_faultyRetry hfaulty]
        rfl
    rw [Form.meaning, Form.gather, admissionForm.fold_eq_none hm hstop]
    rfl

/-- A member in another form does the same to a draft. -/
theorem step_amended {m m' : Json.Member} (h : Amended m m') :
    admissionForm.step m = admissionForm.step m' := by
  cases h with
  | same => rfl
  | retry name named inner inner' rearranged =>
      have hinner :
          RetrySettings.meaning (.object inner) = RetrySettings.meaning (.object inner') := by
        rw [RetrySettings.meaning, RetrySettings.meaning, Form.meaning, Form.meaning,
          retryForm.gather_rearranged rearranged]
      have hname (v : Tree) : Named "retry" (name, v) := named
      funext d
      rw [admissionForm.step_named (hname _) rfl, admissionForm.step_named (hname _) rfl,
        Part.fill?, Part.fill?]
      change (if _ then none else ((RetrySettings.meaning (.object inner)).map some).map _) =
        if _ then none else ((RetrySettings.meaning (.object inner')).map some).map _
      rw [hinner]

/-- **What does not matter does not change what is read.** -/
theorem meaning_rearranged {ms ms' : List Json.Member} (h : Rearranged ms ms') :
    meaning (.object ms') = meaning (.object ms) := by
  obtain ⟨kept, hkept, hrearranged⟩ := h
  have hsteps := hkept.imp fun _ _ => step_amended
  rw [meaning, meaning, Form.meaning, Form.meaning, admissionForm.gather_rearranged hrearranged,
    Form.gather, Form.gather, admissionForm.fold_congr hsteps]

/-- **Settings are read from their meaningful members, each once and the required ones all there.**
A text of an object is read alike in any order of its members, with any blanks, and with members of
unknown names and any values among them, also inside the retry settings; and it is not read at all
where a required member is missing, a known one occurs twice, or the retry settings are faulty. -/
theorem ofJson_document {ms : List Json.Member} {text : String} (h : Document (.object ms) text) :
    (∀ ms' text', Rearranged ms ms' → Document (.object ms') text' →
      ∀ s, ofJson text = .ok s ↔ ofJson text' = .ok s) ∧
    (Faulty ms → ∃ e, ofJson text = .error e) := by
  have hread := toOption_ofJson h
  have hok (t : String) (s : AdmissionSettings) :
      ofJson t = .ok s ↔ (ofJson t).toOption = some s := by
    cases ofJson t <;> simp [Except.toOption]
  refine ⟨fun ms' text' hrearranged h' s => ?_, fun hfaulty => ?_⟩
  · rw [hok, hok, hread, toOption_ofJson h', meaning_rearranged hrearranged]
  · rw [meaning_faulty hfaulty] at hread
    cases hjson : ofJson text with
    | error e => exact ⟨e, rfl⟩
    | ok s => exact absurd (((hok text s).1 hjson).symm.trans hread) nofun

/-- A member without blanks around it, whose name needs no escapes. -/
def tight (name : String) (value : Tree) (text : List Char) : Json.Labelled where
  before := []
  name := name.toList.filterMap fun c =>
    if ok : isPlain c = true then some (.plain c ok) else none
  between := []
  item := ⟨[], value, text, [], blank_nil, blank_nil⟩
  blank_before := blank_nil
  blank_between := blank_nil

/-- A number of one digit. -/
def digit (c : Char) (h : c.isDigit = true) : Tree :=
  .number ⟨false, ⟨c, [], h, fun _ h => nomatch h⟩, none, none, fun _ => rfl⟩

/-- Two members, and the same ones in the other order with a foreign one among them and blanks
around all. -/
theorem ofJson_document_reversed :
    ofJson " \x7b\"window_ms\":7,\"x\":[[ ]],\"limit\":5\x7d\n" =
      .ok ⟨5, 7, none, none, none, none, none, none, none, none, none⟩ := by
  have hfive : Spells (digit '5' rfl) ['5'] := .number _
  have hseven : Spells (digit '7' rfl) ['7'] := .number _
  have hnested : Spells (.array [.array []]) ['[', '[', ' ', ']', ']'] :=
    .items ⟨[], .array [], ['[', ' ', ']'], [], blank_nil, blank_nil⟩ [] fun j hj => by
      obtain rfl := List.mem_singleton.1 hj
      exact .noItems [' '] (by simp [Blank, isBlank])
  let limit := tight "limit" (digit '5' rfl) ['5']
  let window := tight "window_ms" (digit '7' rfl) ['7']
  let foreign := tight "x" (.array [.array []]) ['[', '[', ' ', ']', ']']
  have hdocument : Document (.object [limit.member, window.member])
      "\x7b\"limit\":5,\"window_ms\":7\x7d" :=
    ⟨[], _, [], blank_nil, blank_nil,
      .members limit [window] (by simp [limit, window, tight, hfive, hseven]), by decide⟩
  have hdocument' : Document (.object [window.member, foreign.member, limit.member])
      " \x7b\"window_ms\":7,\"x\":[[ ]],\"limit\":5\x7d\n" :=
    ⟨[' '], _, ['\n'], by simp [Blank, isBlank], by simp [Blank, isBlank],
      .members window [foreign, limit]
        (by simp [limit, window, foreign, tight, hfive, hseven, hnested]), by decide⟩
  have hforeign : Foreign (admissionShape.fields.map Field.name) foreign.member :=
    ⟨"x", by decide, by decide⟩
  have hrearranged : Rearranged [limit.member, window.member]
      [window.member, foreign.member, limit.member] :=
    ⟨_, .cons (.same _) (.cons (.same _) .nil), [foreign.member], by simpa using hforeign,
      (List.Perm.cons _ (List.Perm.swap _ _ _)).trans (List.Perm.swap _ _ _)⟩
  exact ((ofJson_document hdocument).1 _ _ hrearranged hdocument' _).1 (by decide +kernel)

end AdmissionSettings

end Turnstile
