/-
**Settings laid over settings.**

A draft of a layer takes over settings any number of times, between other calls.  Limit and window
are always replaced, the other options where the settings mention them; the retries of settings are
one option, a strategy together with its jitter.  So to take over two settings one after the other
is to take over one that is laid together from them: the later one wins wherever it says something.

A call on the draft that sets an option is undone by later settings that mention the option, and
otherwise it is as if it had been made after them.  A complete retry policy is mentioned by no
settings, and has precedence over every retry strategy, so it decides the retries of the layer
wherever among the calls it stands.

Main definitions:

* `AdmissionSettings.overlay` — settings with others laid over them;
* `AdmissionSettings.mentions` — whether settings replace what a call sets;
* `Layer.Draft.Keeps` — a draft has the options of another one that settings do not mention.

Main results:

* `Layer.Draft.withSettings_withSettings` — **two settings in a row are the overlay of them**;
* `Layer.Draft.withSettings_foldl` — settings after calls are the calls that they do not mention
  after the settings;
* `Layer.Draft.build_of_retryPolicy` — a complete retry policy decides;
* `Layer.Draft.overlays_compose` — **all of this, for every draft and all settings**.
-/

import Turnstile.Proofs.Admission.Draft

set_option relaxedAutoImplicit false
set_option autoImplicit false

namespace Turnstile

variable {ℓ : Type}

/-! ### Overlays -/

namespace AdmissionSettings

/-- Settings with others laid over them: limit and window of the upper ones, and every other field
of the upper ones where they have it, else of the lower ones. -/
def overlay (a b : AdmissionSettings) : AdmissionSettings where
  limit := b.limit
  windowMs := b.windowMs
  waitMode := b.waitMode.or a.waitMode
  waitTimeoutMs := b.waitTimeoutMs.or a.waitTimeoutMs
  cost := b.cost.or a.cost
  retry := b.retry.or a.retry
  failurePolicy := b.failurePolicy.or a.failurePolicy
  rejectedStatus := b.rejectedStatus.or a.rejectedStatus
  rejectedMessage := b.rejectedMessage.or a.rejectedMessage
  errorStatus := b.errorStatus.or a.errorStatus
  errorMessage := b.errorMessage.or a.errorMessage

@[simp] theorem overlay_self (a : AdmissionSettings) : a.overlay a = a := by
  simp only [overlay, Option.or_self]

/-- Whether settings replace what a call on a draft sets. -/
def mentions (s : AdmissionSettings) : Layer.Change ℓ → Bool
  | .limit _ | .window _ | .settings _ => true
  | .waitMode _ => s.waitMode.isSome
  | .waitTimeout _ => s.waitTimeoutMs.isSome
  | .cost _ => s.cost.isSome
  | .retry _ | .retryJitter _ => s.retry.isSome
  | .failurePolicy _ => s.failurePolicy.isSome
  | .rejectedStatus _ => s.rejectedStatus.isSome
  | .rejectedMessage _ => s.rejectedMessage.isSome
  | .errorStatus _ => s.errorStatus.isSome
  | .errorMessage _ => s.errorMessage.isSome
  | .limiter _ | .key _ | .retryPolicy _ | .onRejected _ | .onError _ | .measured _ => false

/-- An overlay mentions what either of its parts mentions. -/
theorem mentions_overlay (a b : AdmissionSettings) (c : Layer.Change ℓ) :
    (a.overlay b).mentions c = (a.mentions c || b.mentions c) := by
  cases c <;> simp [mentions, overlay, Bool.or_comm]

end AdmissionSettings

namespace Layer

/-- Whether a call takes over settings. -/
def Change.isSettings : Change ℓ → Bool
  | .settings _ => true
  | _ => false

namespace Draft

variable {d : Draft ℓ} {s : AdmissionSettings} {p : RetryPolicy}

/-! ### Two settings in a row -/

/-- **Two settings in a row are the overlay of them.** -/
theorem withSettings_withSettings (d : Draft ℓ) (a b : AdmissionSettings) :
    (d.withSettings a).withSettings b = d.withSettings (a.overlay b) := by
  simp only [withSettings, AdmissionSettings.overlay, AdmissionSettings.window,
    AdmissionSettings.waitTimeout, Option.getD_or, Option.map_or, Option.or_assoc]

/-! ### Settings and other calls -/

/-- A draft has those options of another one that settings do not mention. -/
structure Keeps (s : AdmissionSettings) (d d' : Draft ℓ) : Prop where
  limiter : d'.limiter = d.limiter
  key : d'.key = d.key
  retryPolicy : d'.retryPolicy = d.retryPolicy
  onRejected : d'.onRejected = d.onRejected
  onError : d'.onError = d.onError
  measured : d'.measured = d.measured
  waitMode : s.waitMode = none → d'.waitMode = d.waitMode
  waitTimeout : s.waitTimeoutMs = none → d'.waitTimeout = d.waitTimeout
  cost : s.cost = none → d'.cost = d.cost
  retry : s.retry = none → d'.retryStrategy = d.retryStrategy ∧ d'.retryJitter = d.retryJitter
  failurePolicy : s.failurePolicy = none → d'.failurePolicy = d.failurePolicy
  rejectedStatus : s.rejectedStatus = none → d'.rejectedStatus = d.rejectedStatus
  rejectedMessage : s.rejectedMessage = none → d'.rejectedMessage = d.rejectedMessage
  errorStatus : s.errorStatus = none → d'.errorStatus = d.errorStatus
  errorMessage : s.errorMessage = none → d'.errorMessage = d.errorMessage

theorem keeps_withSettings (s : AdmissionSettings) (d : Draft ℓ) :
    Keeps s d (d.withSettings s) := by
  refine ⟨rfl, rfl, rfl, rfl, rfl, rfl, ?_, ?_, ?_, ?_, ?_, ?_, ?_, ?_, ?_⟩ <;> intro h <;>
    simp [withSettings, AdmissionSettings.waitTimeout, h]

/-- A call that settings do not mention may as well be made after them. -/
theorem withSettings_apply_of_not_mentions {c : Change ℓ} (h : s.mentions c = false)
    (d : Draft ℓ) : (d.apply c).withSettings s = (d.withSettings s).apply c := by
  cases c with
  | limit | window | settings => exact nomatch h
  | limiter | key | retryPolicy | onRejected | onError | measured => rfl
  | _ =>
      simp only [AdmissionSettings.mentions, Option.isSome_eq_false_iff,
        Option.isNone_iff_eq_none] at h
      simp [apply, withSettings, AdmissionSettings.waitTimeout, h]

/-- A call that settings mention is undone by them. -/
theorem withSettings_apply_of_mentions {c : Change ℓ} (hc : c.isSettings = false)
    (h : s.mentions c = true) (d : Draft ℓ) : (d.apply c).withSettings s = d.withSettings s := by
  cases c with
  | settings => exact nomatch hc
  | limiter | key | retryPolicy | onRejected | onError | measured => exact nomatch h
  | limit | window => rfl
  | _ =>
      obtain ⟨v, hv⟩ := Option.isSome_iff_exists.1 h
      simp [apply, withSettings, AdmissionSettings.waitTimeout, hv]

/-- **Settings after calls** are the settings, and then those of the calls that they do not
mention. -/
theorem withSettings_foldl (d : Draft ℓ) (s : AdmissionSettings) {calls : List (Change ℓ)}
    (hcalls : ∀ c ∈ calls, c.isSettings = false) :
    (calls.foldl apply d).withSettings s =
      (calls.filter fun c => !s.mentions c).foldl apply (d.withSettings s) := by
  induction calls generalizing d with
  | nil => rfl
  | cons c rest ih =>
      obtain ⟨hc, hrest⟩ := List.forall_mem_cons.1 hcalls
      rw [List.foldl_cons, ih _ hrest]
      cases h : s.mentions c with
      | true =>
          rw [withSettings_apply_of_mentions hc h, List.filter_cons_of_neg (by simp [h])]
      | false =>
          rw [withSettings_apply_of_not_mentions h, List.filter_cons_of_pos (by simp [h]),
            List.foldl_cons]

/-! ### Retries -/

theorem checkRetry_of_retryPolicy (h : d.retryPolicy = some p) : d.checkRetry = .ok p := by
  rw [checkRetry, h]

/-- **A complete retry policy decides**: it is the one of the layer, and the retries of settings
change nothing, not even whether there is a layer. -/
theorem build_of_retryPolicy (h : d.retryPolicy = some p) (s : AdmissionSettings) :
    (∀ l, (d.withSettings s).build = .ok l → l.retry = p) ∧
      (d.withSettings s).build = (d.withSettings { s with retry := none }).build := by
  have hcheck (s : AdmissionSettings) : (d.withSettings s).checkRetry = .ok p :=
    checkRetry_of_retryPolicy h
  refine ⟨fun l hl => ?_, ?_⟩
  · exact (Except.ok.inj ((hcheck s).symm.trans (of_build_ok hl).2)).symm
  · -- nothing but the retry policy is made of the strategy and the jitter
    unfold build
    rw [hcheck, hcheck]
    rfl

/-! ### Overlays on any draft -/

/-- **Settings compose.**  Two settings in a row make the draft, and so the layer or the first
problem, that their overlay makes; the same settings twice make the draft that they make once.  What
neither of them mentions stays as it was, so of earlier calls those remain that neither mentions.  A
complete retry policy, set before or after them, is the one of the layer. -/
theorem overlays_compose (d : Draft ℓ) (a b : AdmissionSettings) :
    (d.withSettings a).withSettings b = d.withSettings (a.overlay b) ∧
      ((d.withSettings a).withSettings b).build = (d.withSettings (a.overlay b)).build ∧
      (d.withSettings a).withSettings a = d.withSettings a ∧
      Keeps (a.overlay b) d ((d.withSettings a).withSettings b) ∧
      (∀ calls : List (Change ℓ), (∀ c ∈ calls, c.isSettings = false) →
        ((calls.foldl apply d).withSettings a).withSettings b =
          (calls.filter fun c => !(a.mentions c || b.mentions c)).foldl apply
            ((d.withSettings a).withSettings b)) ∧
      ∀ p, ((d.apply (.retryPolicy p)).withSettings a).withSettings b =
          ((d.withSettings a).withSettings b).apply (.retryPolicy p) ∧
        (∀ l, (((d.withSettings a).withSettings b).apply (.retryPolicy p)).build = .ok l →
          l.retry = p) ∧
        (((d.withSettings a).withSettings b).apply (.retryPolicy p)).build =
          (((d.withSettings { a with retry := none }).withSettings { b with retry := none }).apply
            (.retryPolicy p)).build := by
  have htwice := withSettings_withSettings d a b
  refine ⟨htwice, congrArg build htwice, ?_, ?_, fun calls hcalls => ?_, fun p => ?_⟩
  · rw [withSettings_withSettings, AdmissionSettings.overlay_self]
  · rw [htwice]
    exact keeps_withSettings (a.overlay b) d
  · rw [withSettings_withSettings, withSettings_foldl d (a.overlay b) hcalls, htwice]
    simp only [AdmissionSettings.mentions_overlay]
  · -- settings do not mention a policy, so it may be set before them
    have hmoved (s : AdmissionSettings) :
        (d.withSettings s).apply (.retryPolicy p) = (d.apply (.retryPolicy p)).withSettings s :=
      (withSettings_apply_of_not_mentions rfl d).symm
    have hset : (d.apply (.retryPolicy p)).retryPolicy = some p := rfl
    obtain ⟨hretry, hdropped⟩ := build_of_retryPolicy hset (a.overlay b)
    rw [htwice, hmoved, withSettings_withSettings, withSettings_withSettings, hmoved]
    exact ⟨rfl, hretry, hdropped⟩

end Draft

end Layer

end Turnstile
