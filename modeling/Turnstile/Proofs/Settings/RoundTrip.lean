/-
**Settings come back from their written form.**

Written settings name every field once, in the order of the shape, so the reader of a shape finds
each name among its fields, has not been given that field yet, and takes its value up to the comma
or the brace that follows.  The draft is then complete and stands for the settings that were
written.

Main definitions:

* `Settings.memberText`, `Settings.membersText` — the characters of members, one after another;
* `Settings.Fills` — reading fields from their written values turns one draft into another;
* `RetrySettings.Fits`, `AdmissionSettings.Fits` — settings whose numbers have the widths of their
  fields.

Main results:

* `Settings.readMembers_member`, `Settings.readMembers_fills` — **one member, and all of them**;
* `Settings.reads_shape` — a record is read back from its members;
* `RetrySettings.reads_toJson` — retry settings are read back inside an object;
* `AdmissionSettings.ofJson_toJson` — **settings are read back from their text**.
-/

import Turnstile.Proofs.Json.Reading
import Turnstile.Settings.Basic
import Turnstile.Settings.Reader

set_option relaxedAutoImplicit false
set_option autoImplicit false

namespace Turnstile

namespace Settings

open Json

variable {δ : Type}

/-! ### Members of an object -/

/-- The characters of a member. -/
def memberText (m : String × String) : List Char := (string m.1).toList ++ ':' :: m.2.toList

/-- What stands before a member: a comma, except before the first of an object. -/
def separator (isFirst : Bool) : List Char := if isFirst then [] else [',']

/-- The characters of members, one after another. -/
def membersText : Bool → List (String × String) → List Char
  | _, [] => []
  | isFirst, m :: ms => separator isFirst ++ (memberText m ++ membersText false ms)

theorem intercalate_memberText (m : String × String) (ms : List (String × String)) :
    [','].intercalate ((m :: ms).map memberText) = memberText m ++ membersText false ms := by
  induction ms generalizing m with
  | nil => simp [membersText]
  | cons m' ms ih =>
      rw [List.map_cons, List.map_cons, List.intercalate_cons_cons, ← List.map_cons, ih]
      simp [membersText, separator]

theorem toList_object (ms : List (String × String)) :
    (object ms).toList = '\x7b' :: (membersText true ms ++ ['\x7d']) := by
  have chars : (ms.map fun m => string m.1 ++ ":" ++ m.2).map String.toList =
      ms.map memberText := by
    simp [memberText]
  have inner : [','].intercalate (ms.map memberText) = membersText true ms := by
    cases ms with
    | nil => rfl
    | cons m ms =>
        rw [intercalate_memberText]
        simp [membersText, separator]
  have between : ",".toList = [','] := rfl
  unfold object
  rw [String.toList_append, String.toList_append, String.toList_intercalate, between, chars, inner]
  rfl

theorem length_le_membersText (isFirst : Bool) (ms : List (String × String)) :
    ms.length ≤ (membersText isFirst ms).length := by
  induction ms generalizing isFirst with
  | nil => exact Nat.zero_le _
  | cons m ms ih =>
      have others := ih false
      simp only [membersText, memberText, List.length_append, List.length_cons]
      omega

/-- After a value come a comma and the next member, or the end of the object. -/
theorem closes_membersText (ms : List (String × String)) (rest : List Char) :
    Closes (membersText false ms ++ '\x7d' :: rest) := by
  cases ms with
  | nil => simp [Closes, membersText]
  | cons m ms => simp [Closes, membersText, separator]

/-- A member begins with the quote of its name. -/
theorem on_hasMember (isFirst : Bool) (cs : List Char) :
    (hasMember isFirst).on (separator isFirst ++ '"' :: cs) = .ok (true, cs) := by
  cases isFirst with
  | true => rfl
  | false => rfl

/-! ### Fields in order -/

/-- Reading fields in order, each from its written value, turns one draft into another. -/
inductive Fills : List (Field δ) → List (String × String) → δ → δ → Prop
  | nil (d : δ) : Fills [] [] d d
  | cons {f : Field δ} {fs : List (Field δ)} {value : String} {ms : List (String × String)}
      {d d' last : δ} (absent : f.given d = false) (reads : Reads (f.read d) value d')
      (others : Fills fs ms d' last) : Fills (f :: fs) ((f.name, value) :: ms) d last

/-- A field is found by its name where no two have the same. -/
theorem find?_field {fs : List (Field δ)} (distinct : (fs.map Field.name).Nodup) {f : Field δ}
    (h : f ∈ fs) : (fs.find? fun g => g.name == f.name) = some f := by
  induction fs with
  | nil => simp at h
  | cons g gs ih =>
      rw [List.map_cons, List.nodup_cons] at distinct
      rcases List.mem_cons.mp h with rfl | later
      · simp
      · have other : g.name ≠ f.name := fun same =>
          distinct.1 (same ▸ List.mem_map_of_mem later)
        rw [List.find?_cons_of_neg (by simpa using other)]
        exact ih distinct.2 later

/-- **One member**: a field that is not given yet is read from its value, and the draft goes on. -/
theorem readMembers_member {s : Shape δ} (distinct : (s.fields.map Field.name).Nodup)
    {f : Field δ} (h : f ∈ s.fields) {d d' : δ} (absent : f.given d = false) {value : String}
    (reads : Reads (f.read d) value d') (fuel : Nat) (isFirst : Bool)
    (ms : List (String × String)) (rest : List Char) :
    (readMembers s (fuel + 1) isFirst d).on
        (membersText isFirst ((f.name, value) :: ms) ++ '\x7d' :: rest) =
      (readMembers s fuel false d').on (membersText false ms ++ '\x7d' :: rest) := by
  let after := membersText false ms ++ '\x7d' :: rest
  have chars : membersText isFirst ((f.name, value) :: ms) ++ '\x7d' :: rest = separator isFirst ++
      '"' :: (f.name.toList.flatMap escape ++ '"' :: ':' :: (value.toList ++ after)) := by
    simp [membersText, memberText, toList_string, after]
  have named := on_readString f.name (':' :: (value.toList ++ after))
  have colon_taken : colon.on (':' :: (value.toList ++ after)) = .ok ((), value.toList ++ after) :=
    rfl
  have taken := reads after (closes_membersText ms rest)
  rw [chars, readMembers, Read.on_bind (on_hasMember isFirst _), if_pos rfl, Read.on_bind named,
    find?_field distinct h]
  simp only [absent]
  rw [if_neg (by simp), Read.on_bind colon_taken, Read.on_bind taken]

/-- **All members**: the fields are read in order, up to the end of the object. -/
theorem readMembers_fills {s : Shape δ} (distinct : (s.fields.map Field.name).Nodup)
    {fs : List (Field δ)} {ms : List (String × String)} {d last : δ} (h : Fills fs ms d last)
    (known : ∀ f ∈ fs, f ∈ s.fields) (fuel : Nat) (enough : ms.length < fuel) (isFirst : Bool)
    (rest : List Char) :
    (readMembers s fuel isFirst d).on (membersText isFirst ms ++ '\x7d' :: rest) =
      .ok (last, '\x7d' :: rest) := by
  induction h generalizing fuel isFirst with
  | nil d =>
      obtain ⟨fuel, rfl⟩ : ∃ n, fuel = n + 1 := ⟨fuel - 1, by omega⟩
      have ended : (hasMember isFirst).on ('\x7d' :: rest) = .ok (false, '\x7d' :: rest) := rfl
      have nothing : membersText isFirst [] = [] := by cases isFirst <;> rfl
      rw [nothing, List.nil_append, readMembers, Read.on_bind ended]
      rfl
  | @cons f fs value ms d d' last absent reads others ih =>
      obtain ⟨fuel, rfl⟩ : ∃ n, fuel = n + 1 := ⟨fuel - 1, by omega⟩
      rw [readMembers_member distinct (known f (by simp)) absent reads]
      exact ih (fun g hg => known g (by simp [hg])) fuel (by simpa using enough) false

/-- A draft that has every field passes the check for missing ones. -/
theorem on_checkFields {d : δ} {fs : List (Field δ)} (complete : ∀ f ∈ fs, f.given d = true)
    (cs : List Char) : (checkFields d fs).on cs = .ok ((), cs) := by
  induction fs with
  | nil => rfl
  | cons f fs ih =>
      rw [checkFields, if_neg (by simp [complete f (by simp)])]
      exact ih fun g hg => complete g (by simp [hg])

/-- **A record is read back** from its members, when they fill all its fields. -/
theorem reads_shape {s : Shape δ} (distinct : (s.fields.map Field.name).Nodup)
    {ms : List (String × String)} {d : δ} (h : Fills s.fields ms s.empty d)
    (complete : ∀ f ∈ s.fields, f.given d = true) : Reads (readShape s) (object ms) d := by
  intro rest _
  have enough : ms.length < (membersText true ms ++ '\x7d' :: rest).length + 1 := by
    have := length_le_membersText true ms
    simp only [List.length_append]
    omega
  have members := readMembers_fills distinct h (fun _ hf => hf) _ enough true rest
  have ended : endObject.on ('\x7d' :: rest) = .ok ((), rest) := rfl
  have chars : (object ms).toList ++ rest = '\x7b' :: (membersText true ms ++ '\x7d' :: rest) := by
    simp [toList_object]
  rw [chars, readShape, on_upcoming_bind rfl]
  simp only [Read.on_advance_bind, Read.on_get_bind]
  rw [Read.on_bind members, Read.on_bind (on_checkFields complete _), Read.on_bind ended]
  rfl

theorem opens_object (ms : List (String × String)) : Opens (object ms) :=
  ⟨'\x7b', _, toList_object ms, rfl, by decide⟩

/-! ### Fields of settings -/

/-- A value or its absence is read back, where the written value is told apart from `null`. -/
theorem reads_optional {α : Type} {r : Read α} {write : α → String} (o : Option α)
    (h : ∀ v ∈ o, Reads r (write v) v) (opens : ∀ v, Opens (write v)) :
    Reads (readOptional r) (optional write o) o := by
  cases o with
  | none => exact reads_null r
  | some v => exact (h v rfl).optional (opens v)

theorem reads_attempts {n : Nat} (h : n ≤ maxWord) : Reads attempts (toString n) n :=
  reads_natural _ h (Nat.le_refl _)

theorem reads_word64 {n : Nat} (h : n ≤ maxWord) : Reads word64 (toString n) n :=
  reads_natural _ h (Nat.le_refl _)

theorem reads_optional_word64 {o : Option Nat} (h : ∀ n ∈ o, n ≤ maxWord) :
    Reads (readOptional word64) (optional toString o) o :=
  reads_optional o (fun n hn => reads_word64 (h n hn)) opens_toString

theorem reads_word16 {n : Nat} (h : n ≤ maxShort) : Reads word16 (toString n) n :=
  reads_natural _ h (by decide)

theorem reads_optional_word16 {o : Option Nat} (h : ∀ n ∈ o, n ≤ maxShort) :
    Reads (readOptional word16) (optional toString o) o :=
  reads_optional o (fun n hn => reads_word16 (h n hn)) opens_toString

theorem reads_optional_text (o : Option String) :
    Reads (readOptional text) (optional string o) o :=
  reads_optional o (fun s _ => reads_string s _) opens_string

theorem reads_jitter (j : Jitter) : Reads (readVariant jitters) (string (jitterName j)) j :=
  reads_variant (by cases j <;> rfl)

theorem reads_failurePolicy (p : FailurePolicy) :
    Reads (readVariant failurePolicies) (string (failurePolicyName p)) p :=
  reads_variant (by cases p <;> rfl)

end Settings

open Json Settings

/-! ### Retry settings -/

/-- Retry settings whose numbers have the widths of their fields. -/
structure RetrySettings.Fits (s : RetrySettings) : Prop where
  maxAttempts : s.maxAttempts ≤ maxWord
  retryIntervalMs : s.retryIntervalMs ≤ maxWord
  maxRetryIntervalMs : s.maxRetryIntervalMs ≤ maxWord

namespace RetrySettings

/-- The draft with all retry settings. -/
def draft (s : RetrySettings) : RetryDraft where
  maxAttempts := some s.maxAttempts
  retryIntervalMs := some s.retryIntervalMs
  exponential := some s.exponential
  maxRetryIntervalMs := some s.maxRetryIntervalMs
  jitter := some s.jitter

/-- Retry settings are read back inside an object. -/
theorem reads_toJson {s : RetrySettings} (fits : s.Fits) : Reads read s.toJson s := by
  have fills : Fills retryShape.fields _ retryShape.empty s.draft :=
    .cons rfl ((reads_attempts fits.maxAttempts).map _) <|
    .cons rfl ((reads_word64 fits.retryIntervalMs).map _) <|
    .cons rfl ((reads_truth s.exponential).map _) <|
    .cons rfl ((reads_word64 fits.maxRetryIntervalMs).map _) <|
    .cons rfl ((reads_jitter s.jitter).map _) <|
    .nil _
  have shape : Reads (readShape retryShape) s.toJson s.draft :=
    reads_shape (by decide) fills (by simp [retryShape, draft])
  exact shape.map RetryDraft.finish

end RetrySettings

/-! ### Settings -/

/-- Settings whose numbers have the widths of their fields. -/
structure AdmissionSettings.Fits (s : AdmissionSettings) : Prop where
  limit : s.limit ≤ maxWord
  windowMs : s.windowMs ≤ maxWord
  waitTimeoutMs : ∀ n ∈ s.waitTimeoutMs, n ≤ maxWord
  cost : ∀ n ∈ s.cost, n ≤ maxWord
  retry : ∀ r ∈ s.retry, r.Fits
  rejectedStatus : ∀ n ∈ s.rejectedStatus, n ≤ maxShort
  errorStatus : ∀ n ∈ s.errorStatus, n ≤ maxShort

namespace AdmissionSettings

/-- The draft with all settings. -/
def draft (s : AdmissionSettings) : AdmissionDraft where
  limit := some s.limit
  windowMs := some s.windowMs
  waitMode := some s.waitMode
  waitTimeoutMs := some s.waitTimeoutMs
  cost := some s.cost
  retry := some s.retry
  failurePolicy := some s.failurePolicy
  rejectedStatus := some s.rejectedStatus
  rejectedMessage := some s.rejectedMessage
  errorStatus := some s.errorStatus
  errorMessage := some s.errorMessage

/-- **Settings are read back from their text**, whatever is absent and whatever the messages say. -/
theorem ofJson_toJson (s : AdmissionSettings) (fits : s.Fits) : ofJson s.toJson = .ok s := by
  -- one line for each field, in the order in which the shape has them and they are written
  have fills : Fills admissionShape.fields _ admissionShape.empty s.draft :=
    .cons rfl ((reads_word64 fits.limit).map _) <|
    .cons rfl ((reads_word64 fits.windowMs).map _) <|
    .cons rfl ((reads_optional s.waitMode (fun b _ => reads_truth b) opens_truth).map _) <|
    .cons rfl ((reads_optional_word64 fits.waitTimeoutMs).map _) <|
    .cons rfl ((reads_optional_word64 fits.cost).map _) <|
    .cons rfl ((reads_optional s.retry
      (fun r hr => r.reads_toJson (fits.retry r hr)) fun _ => opens_object _).map _) <|
    .cons rfl ((reads_optional s.failurePolicy
      (fun p _ => reads_failurePolicy p) fun _ => opens_string _).map _) <|
    .cons rfl ((reads_optional_word16 fits.rejectedStatus).map _) <|
    .cons rfl ((reads_optional_text s.rejectedMessage).map _) <|
    .cons rfl ((reads_optional_word16 fits.errorStatus).map _) <|
    .cons rfl ((reads_optional_text s.errorMessage).map _) <|
    .nil _
  have shape : Reads (readShape admissionShape) s.toJson s.draft :=
    reads_shape (by decide) fills (by simp [admissionShape, draft])
  have settings : Reads read s.toJson s := shape.map AdmissionDraft.finish
  exact readAll_of_reads settings

/-- Settings with the greatest numbers, with quotes, a backslash, control characters and a character
of four bytes in one message and none at all in the other. -/
def outspoken : AdmissionSettings where
  limit := maxWord
  windowMs := 0
  waitMode := some false
  waitTimeoutMs := none
  cost := some maxWord
  retry := some ⟨maxWord, 10, true, maxWord, .equal⟩
  failurePolicy := some .failOpen
  rejectedStatus := some maxShort
  rejectedMessage := some "say \"no\" \\ \x00\x08\t\n\x0c\r\x1f\x7f é \u2028 𝄞"
  errorStatus := none
  errorMessage := some ""

theorem ofJson_toJson_outspoken : outspoken.Fits ∧ ofJson outspoken.toJson = .ok outspoken := by
  have fits : outspoken.Fits := by
    refine ⟨by decide, by decide, by decide, by decide, ?_, by decide, by decide⟩
    rintro r ⟨⟩
    exact ⟨by decide, by decide, by decide⟩
  exact ⟨fits, ofJson_toJson outspoken fits⟩

end AdmissionSettings

end Turnstile
