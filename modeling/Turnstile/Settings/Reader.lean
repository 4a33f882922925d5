/-
**Reading settings.**

Settings are read from a JSON object, or from an array of the fields in order.  In an object the
order of the members does not matter, unknown members are skipped, no known member may occur twice,
and the first two fields must be there.  In an array the first two fields must be there, later ones
may be left out at the end.

Main definitions:

* `Settings.Field`, `Settings.Shape` — a record as a list of fields, each with its reader;
* `Settings.readShape` — reads a record of a shape;
* `RetrySettings.read`, `AdmissionSettings.read` — the readers of the two records;
* `AdmissionSettings.ofJson` — the settings in a text.
-/

import Turnstile.Json.Scan
import Turnstile.Settings.Basic

set_option relaxedAutoImplicit false
set_option autoImplicit false

namespace Turnstile

namespace Settings

open Json

/-! ### Records as lists of fields -/

/-- A field of a record that is read into a draft `δ`: its name, whether it must be there, whether
the draft has it, and how it is read into the draft. -/
structure Field (δ : Type) where
  name : String
  required : Bool
  given : δ → Bool
  read : δ → Read δ

/-- A record: its name, its empty draft, and its fields in order. -/
structure Shape (δ : Type) where
  name : String
  empty : δ
  fields : List (Field δ)

variable {δ : Type}

/-- How the wanted record is called in messages. -/
def Shape.expected (s : Shape δ) : String := "struct " ++ s.name

/-- How the wanted record is called where the number of its fields matters. -/
def Shape.expectedElements (s : Shape δ) : String :=
  s.expected ++ " with " ++ toString s.fields.length ++ " elements"

/-- Reads the members of an object into a draft; `fuel` bounds their number. -/
def readMembers (s : Shape δ) : Nat → Bool → δ → Read δ
  | 0, _, _ => .fail .truncated
  | fuel + 1, isFirst, draft => do
      if ← hasMember isFirst then
        let name ← readString
        match s.fields.find? fun f => f.name == name with
        | some field =>
            if field.given draft then .fail (.mismatch (.duplicateField name))
            else
              colon
              let draft ← field.read draft
              readMembers s fuel false draft
        | none =>
            colon
            skipValue
            readMembers s fuel false draft
      else return draft

/-- The first field that must be there and is not, as a failure. -/
def checkFields (draft : δ) : List (Field δ) → Read Unit
  | [] => return ()
  | field :: rest =>
      if field.required && !field.given draft then .fail (.mismatch (.missingField field.name))
      else checkFields draft rest

/-- Reads the elements of an array into a draft, field by field.  Where the array ends, the
remaining fields must not be required. -/
def readElements (s : Shape δ) : List (Field δ) → Nat → δ → Read δ
  | [], _, draft => return draft
  | field :: rest, i, draft => do
      if ← hasElement (i = 0) then
        let draft ← field.read draft
        readElements s rest (i + 1) draft
      else if field.required then
        .fail (.mismatch (.invalidLength i s.expectedElements))
      else return draft

/-- Reads a record of a shape. -/
def readShape (s : Shape δ) : Read δ := do
  match ← upcoming with
  | none => .fail .truncated
  | some '\x7b' => do
      Read.advance
      let cs ← get
      let draft ← readMembers s (cs.length + 1) true s.empty
      checkFields draft s.fields
      endObject
      return draft
  | some '[' => do
      Read.advance
      let draft ← readElements s s.fields 0 s.empty
      endArray
      return draft
  | some _ => unwanted s.expected

/-! ### The fields of the two records -/

/-- The greatest number of sixteen bits. -/
def maxShort : Nat := 65535

/-- A number of 64 bits. -/
def word64 : Read Nat := readNatural maxWord "u64"

/-- A number of attempts. -/
def attempts : Read Nat := readNatural maxWord "usize"

/-- A number of sixteen bits. -/
def word16 : Read Nat := readNatural maxShort "u16"

/-- A text. -/
def text : Read String := readText "a string"

/-- The kinds of jitter by name. -/
def jitters : List (String × Jitter) := [("none", .none), ("full", .full), ("equal", .equal)]

/-- The failure policies by name. -/
def failurePolicies : List (String × FailurePolicy) :=
  [("fail_closed", .failClosed), ("fail_open", .failOpen)]

/-- Retry settings as far as they are read. -/
structure RetryDraft where
  maxAttempts : Option Nat
  retryIntervalMs : Option Nat
  exponential : Option Bool
  maxRetryIntervalMs : Option Nat
  jitter : Option Jitter

/-- The shape of retry settings. -/
def retryShape : Shape RetryDraft where
  name := "RetrySettings"
  empty := ⟨none, none, none, none, none⟩
  fields :=
    [⟨"max_attempts", true, (·.maxAttempts.isSome),
        fun d => return { d with maxAttempts := some (← attempts) }⟩,
      ⟨"retry_interval_ms", true, (·.retryIntervalMs.isSome),
        fun d => return { d with retryIntervalMs := some (← word64) }⟩,
      ⟨"use_exponential_backoff", false, (·.exponential.isSome),
        fun d => return { d with exponential := some (← readTruth) }⟩,
      ⟨"max_retry_interval_ms", false, (·.maxRetryIntervalMs.isSome),
        fun d => return { d with maxRetryIntervalMs := some (← word64) }⟩,
      ⟨"jitter", false, (·.jitter.isSome),
        fun d => return { d with jitter := some (← readVariant jitters) }⟩]

/-- The retry settings of a draft; what is not given is off. -/
def RetryDraft.finish (d : RetryDraft) : RetrySettings where
  maxAttempts := d.maxAttempts.getD 0
  retryIntervalMs := d.retryIntervalMs.getD 0
  exponential := d.exponential.getD false
  maxRetryIntervalMs := d.maxRetryIntervalMs.getD 0
  jitter := d.jitter.getD .none

/-- Settings as far as they are read; an optional field may be given as nothing. -/
structure AdmissionDraft where
  limit : Option Nat
  windowMs : Option Nat
  waitMode : Option (Option Bool)
  waitTimeoutMs : Option (Option Nat)
  cost : Option (Option Nat)
  retry : Option (Option RetrySettings)
  failurePolicy : Option (Option FailurePolicy)
  rejectedStatus : Option (Option Nat)
  rejectedMessage : Option (Option String)
  errorStatus : Option (Option Nat)
  errorMessage : Option (Option String)

end Settings

open Json Settings

/-- Reads retry settings. -/
def RetrySettings.read : Read RetrySettings := return (← readShape retryShape).finish

namespace Settings

/-- The shape of admission settings. -/
def admissionShape : Shape AdmissionDraft where
  name := "AdmissionSettings"
  empty := ⟨none, none, none, none, none, none, none, none, none, none, none⟩
  fields :=
    [⟨"limit", true, (·.limit.isSome), fun d => return { d with limit := some (← word64) }⟩,
      ⟨"window_ms", true, (·.windowMs.isSome),
        fun d => return { d with windowMs := some (← word64) }⟩,
      ⟨"wait_mode", false, (·.waitMode.isSome),
        fun d => return { d with waitMode := some (← readOptional readTruth) }⟩,
      ⟨"wait_timeout_ms", false, (·.waitTimeoutMs.isSome),
        fun d => return { d with waitTimeoutMs := some (← readOptional word64) }⟩,
      ⟨"cost", false, (·.cost.isSome),
        fun d => return { d with cost := some (← readOptional word64) }⟩,
      ⟨"retry", false, (·.retry.isSome),
        fun d => return { d with retry := some (← readOptional RetrySettings.read) }⟩,
      ⟨"failure_policy", false, (·.failurePolicy.isSome),
        fun d => return { d with failurePolicy := some (← readOptional (readVariant failurePolicies)) }⟩,
      ⟨"rejected_status", false, (·.rejectedStatus.isSome),
        fun d => return { d with rejectedStatus := some (← readOptional word16) }⟩,
      ⟨"rejected_message", false, (·.rejectedMessage.isSome),
        fun d => return { d with rejectedMessage := some (← readOptional text) }⟩,
      ⟨"error_status", false, (·.errorStatus.isSome),
        fun d => return { d with errorStatus := some (← readOptional word16) }⟩,
      ⟨"error_message", false, (·.errorMessage.isSome),
        fun d => return { d with errorMessage := some (← readOptional text) }⟩]

/-- The settings of a draft. -/
def AdmissionDraft.finish (d : AdmissionDraft) : AdmissionSettings where
  limit := d.limit.getD 0
  windowMs := d.windowMs.getD 0
  waitMode := d.waitMode.join
  waitTimeoutMs := d.waitTimeoutMs.join
  cost := d.cost.join
  retry := d.retry.join
  failurePolicy := d.failurePolicy.join
  rejectedStatus := d.rejectedStatus.join
  rejectedMessage := d.rejectedMessage.join
  errorStatus := d.errorStatus.join
  errorMessage := d.errorMessage.join

end Settings

namespace AdmissionSettings

/-- Reads settings. -/
def read : Read AdmissionSettings := return (← readShape admissionShape).finish

/-- The settings in a text. -/
def ofJson (text : String) : Except Failure AdmissionSettings := readAll read text

end AdmissionSettings

end Turnstile
