/-
**What is read as a record.**

A record is read into a draft, part by part.  A part has a place in the draft and a reader for the
value in it, and the places of different parts do not touch each other.  From an object the reader
gathers the parts that it knows by name and passes over the other members; a part that is already
there stops it.  From an array it takes the parts in their order.  Both are functions of the tree
alone, so a record has a meaning if its parts have one.

Main definitions:

* `Settings.Part`, `Settings.Form` — a part of a record, and a record whose parts are apart;
* `Settings.Form.step`, `Settings.Form.gather` — what one member does to a draft, and what all do;
* `Settings.Form.collect` — what the items of an array do to a draft;
* `Settings.Form.meaning` — the meaning of a record.

Main results:

* `Settings.take?_member` — one member is read as its step;
* `Settings.Form.understands` — **the reader of a record has this meaning**.
-/

import Turnstile.Proofs.Json.Numerals
import Turnstile.Settings.Reader

set_option relaxedAutoImplicit false
set_option autoImplicit false

namespace Turnstile

namespace Json

variable {α : Type}

open Read

/-- A skipped value is understood: it stands for nothing. -/
theorem understands_skip : Understands skipValue fun _ => some () := by
  intro v text before rest hv hb hrest
  rw [take?, on_skipValue hv hb hrest]
  rfl

/-! ### Whether something follows -/

theorem take?_hasMember_first {before : List Char} (h : Blank before) (cs : List Char) :
    (hasMember true).take? (before ++ '"' :: cs) = some (true, cs) := by
  unfold hasMember
  rw [take?_upcoming_blank h]
  rfl

theorem take?_hasMember_next {after before : List Char} (ha : Blank after) (hb : Blank before)
    (cs : List Char) :
    (hasMember false).take? (after ++ ',' :: (before ++ '"' :: cs)) = some (true, cs) := by
  unfold hasMember
  rw [take?_upcoming_blank ha, take?_upcoming rfl]
  simp only [Bool.false_eq_true, if_false]
  split
  · contradiction
  · contradiction
  · rename_i hsome
    rw [if_pos (Option.some.inj hsome).symm, take?_advance_bind, take?_upcoming_blank hb]
    rfl

theorem take?_hasMember_last {after : List Char} (h : Blank after) (isFirst : Bool)
    (rest : List Char) :
    (hasMember isFirst).take? (after ++ '\x7d' :: rest) = some (false, '\x7d' :: rest) := by
  unfold hasMember
  rw [take?_upcoming_blank h]
  rfl

/-- The first item of an array is found, behind the blanks before it. -/
theorem take?_hasElement_first {j : Item} (hv : Spells j.value j.text) (rest : List Char) :
    (hasElement true).take? (j.chars ++ rest) = some (true, j.text ++ (j.after ++ rest)) := by
  obtain ⟨c, cs, hc, hstarts⟩ := hv.starts
  unfold hasElement
  rw [Item.chars, List.append_assoc, List.append_assoc, take?_upcoming_blank j.blank_before, hc,
    List.cons_append, take?_upcoming hstarts.solid]
  split
  · contradiction
  · rename_i hsome
    exact absurd (Option.some.inj hsome) hstarts.inside.2.1
  · rfl

/-- A further item of an array is found behind its comma. -/
theorem take?_hasElement_next {after : List Char} (ha : Blank after) {j : Item}
    (hv : Spells j.value j.text) (rest : List Char) :
    (hasElement false).take? (after ++ ',' :: (j.chars ++ rest)) =
      some (true, j.text ++ (j.after ++ rest)) := by
  obtain ⟨c, cs, hc, hstarts⟩ := hv.starts
  unfold hasElement
  rw [take?_upcoming_blank ha, take?_upcoming rfl]
  simp only [Bool.false_eq_true, if_false]
  split
  · contradiction
  · contradiction
  · rename_i hsome
    rw [if_pos (Option.some.inj hsome).symm, take?_advance_bind, Item.chars, List.append_assoc,
      List.append_assoc, take?_upcoming_blank j.blank_before, hc, List.cons_append,
      take?_upcoming hstarts.solid]
    split
    · contradiction
    · rename_i hclosing
      exact absurd (Option.some.inj hclosing) hstarts.inside.2.1
    · rfl

theorem take?_hasElement_last {after : List Char} (h : Blank after) (isFirst : Bool)
    (rest : List Char) :
    (hasElement isFirst).take? (after ++ ']' :: rest) = some (false, ']' :: rest) := by
  unfold hasElement
  rw [take?_upcoming_blank h]
  rfl

end Json

namespace Settings

open Json Json.Read

variable {δ : Type}

/-! ### Parts of a record -/

/-- A part of a record that is read into a draft `δ`: its name, whether it must be there, its place
in the draft, and the reader of its value with what it makes of it. -/
structure Part (δ : Type) where
  name : String
  required : Bool
  α : Type
  get : δ → Option α
  set : α → δ → δ
  read : Read α
  meaning : Tree → Option α
  understands : Understands read meaning
  given_set : ∀ a d, (get (set a d)).isSome = true

namespace Part

/-- A part as a field of a shape. -/
def field (p : Part δ) : Field δ :=
  ⟨p.name, p.required, fun d => (p.get d).isSome, fun d => return p.set (← p.read) d⟩

/-- Two parts have different names and different places. -/
structure Apart (p q : Part δ) : Prop where
  name_ne : p.name ≠ q.name
  set_comm : ∀ a b d, p.set a (q.set b d) = q.set b (p.set a d)
  get_left : ∀ b d, p.get (q.set b d) = p.get d
  get_right : ∀ a d, q.get (p.set a d) = q.get d

theorem Apart.symm {p q : Part δ} (h : p.Apart q) : q.Apart p :=
  ⟨h.name_ne.symm, fun b a d => (h.set_comm a b d).symm, h.get_right, h.get_left⟩

/-- Fills a part of a draft from a value, if it is not there yet. -/
def fill? (p : Part δ) (v : Tree) (d : δ) : Option δ :=
  if (p.get d).isSome then none else (p.meaning v).map fun a => p.set a d

theorem understands_field (p : Part δ) (d : δ) :
    Understands (p.field.read d) fun v => (p.meaning v).map fun a => p.set a d :=
  p.understands.map fun a => p.set a d

end Part

/-- A record: its name, its empty draft, and its parts, which are apart and not there yet. -/
structure Form (δ : Type) where
  name : String
  empty : δ
  parts : List (Part δ)
  apart : parts.Pairwise Part.Apart
  blank : ∀ p ∈ parts, p.get empty = none

namespace Form

variable (F : Form δ)

/-- A record as a shape. -/
def shape : Shape δ := ⟨F.name, F.empty, F.parts.map Part.field⟩

/-- The part of a name. -/
def part? (name : String) : Option (Part δ) := F.parts.find? fun p => p.name == name

/-- What a member does to a draft: it fills the part of its name, or nothing. -/
def step (m : Json.Member) (d : δ) : Option δ :=
  (denotes? m.1).bind fun name =>
    match F.part? name with
    | some p => p.fill? m.2 d
    | none => some d

/-- What members do to a draft, one after the other. -/
def fold (ms : List Json.Member) (d : Option δ) : Option δ :=
  ms.foldl (fun d m => d.bind (F.step m)) d

/-- The draft that is gathered from the members of an object. -/
def gather (ms : List Json.Member) : Option δ := F.fold ms (some F.empty)

/-- Whether every part that must be there is. -/
def complete (d : δ) : Bool := F.parts.all fun p => !p.required || (p.get d).isSome

/-- The draft that is collected from the items of an array, part by part. -/
def collect : List (Part δ) → List Tree → δ → Option δ
  | [], [], d => some d
  | [], _ :: _, _ => none
  | p :: _, [], d => if p.required then none else some d
  | p :: ps, v :: vs, d => (p.meaning v).bind fun a => collect ps vs (p.set a d)

/-- The meaning of a record. -/
def meaning : Tree → Option δ
  | .object ms => (F.gather ms).filter F.complete
  | .array vs => collect F.parts vs F.empty
  | _ => none

@[simp] theorem fold_cons (m : Json.Member) (ms : List Json.Member) (d : Option δ) :
    F.fold (m :: ms) d = F.fold ms (d.bind (F.step m)) := rfl

@[simp] theorem fold_none (ms : List Json.Member) : F.fold ms none = none := by
  induction ms with
  | nil => rfl
  | cons m ms ih => exact ih

theorem find?_field (name : String) :
    (F.shape.fields.find? fun f => f.name == name) = (F.part? name).map Part.field := by
  rw [shape, List.find?_map]
  rfl

end Form

/-! ### Members -/

variable (F : Form δ)

/-- **One member is read as its step**, once its opening quote is passed over. -/
theorem take?_member {e : Json.Labelled} (hv : Spells e.item.value e.item.text) {isFirst : Bool}
    {cs : List Char} (es : List Json.Labelled) (rest : List Char)
    (h : (hasMember isFirst).take? cs = some (true, closed e.name ++
      (e.between ++ ':' :: (e.item.chars ++ following es rest)))) (fuel : Nat) (d : δ) :
    (readMembers F.shape (fuel + 1) isFirst d).take? cs =
      (F.step e.member d).bind fun d =>
        (readMembers F.shape fuel false d).take? (e.item.after ++ following es rest) := by
  have hfollows := ends_following es rest
  rw [readMembers, take?_bind, h, Option.bind_some]
  simp only [if_true]
  rw [take?_bind, take?_readString, Option.bind_map, Form.step, Option.bind_assoc]
  refine congrArg _ (funext fun name => ?_)
  simp only [Function.comp_def]
  rw [F.find?_field name]
  cases F.part? name with
  | none => exact take?_labelled understands_skip hv _ hfollows
  | some p =>
      rw [Option.map_some]
      by_cases hgiven : (p.get d).isSome = true
      · have hfield : p.field.given d = true := hgiven
        simp [hfield, Part.fill?, hgiven]
      · have hfield : p.field.given d = false := Bool.eq_false_iff.2 hgiven
        simp only [hfield, Bool.false_eq_true, if_false, Part.fill?, hgiven]
        exact take?_labelled (p.understands_field d) hv _ hfollows

/-- Further members are read one after the other, up to the end of the object. -/
theorem take?_readMembers (es : List Json.Labelled)
    (each : ∀ j ∈ es, Spells j.item.value j.item.text) {fuel : Nat} (hfuel : es.length < fuel)
    (d : δ) {after : List Char} (ha : Blank after) (rest : List Char) :
    (readMembers F.shape fuel false d).take? (after ++ following es rest) =
      (F.fold (es.map Json.Labelled.member) (some d)).map fun d => (d, '\x7d' :: rest) := by
  obtain ⟨fuel, rfl⟩ := Nat.exists_eq_succ_of_ne_zero (Nat.ne_zero_of_lt hfuel)
  induction es generalizing fuel d after with
  | nil =>
      rw [readMembers, take?_bind, following, List.flatMap_nil, List.nil_append,
        take?_hasMember_last ha]
      rfl
  | cons e es ih =>
      obtain ⟨fuel, rfl⟩ := Nat.exists_eq_succ_of_ne_zero
        (Nat.ne_zero_of_lt (Nat.lt_of_succ_lt_succ hfuel))
      have hnext := take?_hasMember_next ha e.blank_before
        (closed e.name ++ (e.between ++ ':' :: (e.item.chars ++ following es rest)))
      have hchars : following (e :: es) rest = ',' :: (e.before ++ '"' :: (closed e.name ++
          (e.between ++ ':' :: (e.item.chars ++ following es rest)))) := by
        simp [following, Json.Labelled.spaced, Json.Labelled.chars]
      rw [hchars, take?_member F (each e List.mem_cons_self) es rest hnext, List.map_cons,
        Form.fold_cons, Option.bind_some]
      cases F.step e.member d with
      | none => simp
      | some d =>
          exact ih (fun j hj => each j (List.mem_cons_of_mem _ hj)) d e.item.blank_after fuel
            (Nat.lt_of_succ_lt_succ hfuel)

theorem take?_checkFields (d : δ) (ps : List (Part δ)) (cs : List Char) :
    (checkFields d (ps.map Part.field)).take? cs =
      if ps.all (fun p => !p.required || (p.get d).isSome) then some ((), cs) else none := by
  induction ps with
  | nil => rfl
  | cons p ps ih =>
      rw [List.map_cons, checkFields, List.all_cons]
      have hfield : (p.field.required && !p.field.given d) =
          !(!p.required || (p.get d).isSome) := by
        rw [Bool.not_or, Bool.not_not]
        rfl
      cases hp : !p.required || (p.get d).isSome with
      | true => simpa [hfield, hp] using ih
      | false => simp [hfield, hp]

/-- The end of an object, once its members are read into a draft. -/
theorem take?_close {isFirst : Bool} {fuel : Nat} {d : δ} {cs rest : List Char} {o : Option δ}
    (h : (readMembers F.shape fuel isFirst d).take? cs = o.map fun d => (d, '\x7d' :: rest)) :
    (do
      let draft ← readMembers F.shape fuel isFirst d
      checkFields draft F.shape.fields
      endObject
      return draft : Read δ).take? cs = (o.filter F.complete).map fun d => (d, rest) := by
  rw [take?_bind, h]
  cases o with
  | none => rfl
  | some d =>
      rw [Option.map_some, Option.bind_some, take?_bind, Form.shape, take?_checkFields,
        Option.filter_some, Form.complete]
      cases F.parts.all fun p => !p.required || (p.get d).isSome with
      | true => rfl
      | false => rfl

/-! ### Items -/

/-- What follows an item of an array: the other items, and the end. -/
def remaining (is : List Item) (rest : List Char) : List Char :=
  (is.flatMap fun j => ',' :: j.chars) ++ ']' :: rest

theorem ends_remaining (is : List Item) (rest : List Char) : Ends (remaining is rest) := by
  have hends := ends_rest .array (is.map Item.chars) rest
  rw [List.flatMap_map] at hends
  exact hends

/-- The end of an array is passed over, if no further item stands before it. -/
theorem take?_endArray {after : List Char} (h : Blank after) (is : List Item) (rest : List Char) :
    endArray.take? (after ++ remaining is rest) = if is.isEmpty then some ((), rest) else none := by
  unfold endArray
  rw [take?_upcoming_blank h]
  cases is <;> rfl

/-- An item is not the end of an array. -/
theorem take?_endArray_none {j : Item} (hv : Spells j.value j.text) (rest : List Char) :
    endArray.take? (j.chars ++ rest) = none := by
  obtain ⟨c, cs, hc, hstarts⟩ := hv.starts
  unfold endArray
  rw [Item.chars, List.append_assoc, List.append_assoc, take?_upcoming_blank j.blank_before, hc,
    List.cons_append, take?_upcoming hstarts.solid]
  split
  · rfl
  · rename_i hsome
    exact absurd (Option.some.inj hsome) hstarts.inside.2.1
  · rfl

/-- The items of an array, into a draft, and its end. -/
def readItems (ps : List (Part δ)) (i : Nat) (d : δ) : Read δ := do
  let draft ← readElements F.shape (ps.map Part.field) i d
  endArray
  return draft

/-- One item is read into its part, once it is known to be there. -/
theorem take?_item {p : Part δ} {ps : List (Part δ)} {j : Item} (hv : Spells j.value j.text)
    {i : Nat} {cs : List Char} (is : List Item) (rest : List Char)
    (h : (hasElement (i = 0)).take? cs = some (true, j.text ++ (j.after ++ remaining is rest)))
    (d : δ) :
    (readItems F (p :: ps) i d).take? cs = (p.meaning j.value).bind fun a =>
      (readItems F ps (i + 1) (p.set a d)).take? (j.after ++ remaining is rest) := by
  have hread := p.understands_field d _ _ [] _ hv blank_nil
    ((ends_remaining is rest).after_blank j.blank_after)
  rw [List.nil_append] at hread
  rw [readItems, List.map_cons, readElements, take?_bind, take?_bind, h, Option.bind_some]
  simp only [if_true]
  rw [take?_bind, hread, Option.bind_map, Option.bind_map, Option.bind_assoc]
  refine congrArg _ (funext fun a => ?_)
  rw [readItems, take?_bind]
  rfl

/-- What is not an item ends a record that needs no further part. -/
theorem take?_noItem {ps : List (Part δ)} {i : Nat} {cs rest : List Char}
    (h : (hasElement (i = 0)).take? cs = some (false, ']' :: rest))
    (hend : endArray.take? cs = some ((), rest)) (d : δ) :
    (readItems F ps i d).take? cs = (Form.collect ps [] d).map fun d => (d, rest) := by
  cases ps with
  | nil =>
      rw [readItems, List.map_nil, readElements, take?_bind, take?_pure, Option.bind_some,
        take?_bind, hend]
      rfl
  | cons p ps =>
      rw [readItems, List.map_cons, readElements, take?_bind, take?_bind, h, Option.bind_some,
        Form.collect]
      simp only [Bool.false_eq_true, if_false]
      cases hrequired : p.required with
      | true =>
          have hfield : p.field.required = true := hrequired
          simp [hfield]
      | false =>
          have hfield : p.field.required = false := hrequired
          simp only [hfield, Bool.false_eq_true, if_false, take?_pure, Option.bind_some]
          rfl

/-- Further items are read part by part, up to the end of the array. -/
theorem take?_readItems (is : List Item) (each : ∀ j ∈ is, Spells j.value j.text)
    (ps : List (Part δ)) (i : Nat) (d : δ) {after : List Char} (ha : Blank after)
    (rest : List Char) :
    (readItems F ps (i + 1) d).take? (after ++ remaining is rest) =
      (Form.collect ps (is.map Item.value) d).map fun d => (d, rest) := by
  induction is generalizing ps i d after with
  | nil =>
      refine take?_noItem F ?_ (take?_endArray ha [] rest) d
      simpa [remaining] using take?_hasElement_last ha false rest
  | cons j js ih =>
      cases ps with
      | nil =>
          rw [readItems, List.map_nil, readElements, take?_bind, take?_pure, Option.bind_some,
            take?_bind, take?_endArray ha]
          rfl
      | cons p ps =>
          have hv := each j List.mem_cons_self
          have hnext := take?_hasElement_next ha hv (remaining js rest)
          have hchars : remaining (j :: js) rest = ',' :: (j.chars ++ remaining js rest) := by
            simp [remaining]
          rw [hchars, take?_item F (i := i + 1) hv js rest hnext, List.map_cons, Form.collect,
            Option.map_bind]
          refine congrArg _ (funext fun a => ?_)
          exact ih (fun k hk => each k (List.mem_cons_of_mem _ hk)) ps (i + 1) (p.set a d)
            j.blank_after

/-! ### Records -/

theorem length_le_following (es : List Json.Labelled) (rest : List Char) :
    es.length < (following es rest).length := by
  induction es with
  | nil => exact Nat.succ_pos _
  | cons e es ih =>
      simp only [following, List.flatMap_cons, List.length_append, List.length_cons] at ih ⊢
      omega

/-- The members of an object are read, and its end. -/
theorem take?_object {ms : List Json.Member} {cs : List Char}
    (h : Spells (.object ms) ('\x7b' :: cs)) (rest : List Char) :
    (do
      let draft ← readMembers F.shape ((cs ++ rest).length + 1) true F.empty
      checkFields draft F.shape.fields
      endObject
      return draft : Read δ).take? (cs ++ rest) =
        ((F.gather ms).filter F.complete).map fun d => (d, rest) := by
  refine take?_close F ?_
  cases h with
  | noMembers inner blank =>
      rw [List.append_assoc, List.singleton_append, readMembers, take?_bind,
        take?_hasMember_last blank]
      rfl
  | members e es each =>
      have hfirst := take?_hasMember_first e.blank_before
        (closed e.name ++ (e.between ++ ':' :: (e.item.chars ++ following es rest)))
      have hlength : es.length < (e.spaced ++ (es.flatMap fun j => ',' :: j.spaced) ++ ['\x7d'] ++
          rest).length := by
        have hfollowing := length_le_following es rest
        rw [members_chars]
        simp only [List.length_append, List.length_cons]
        omega
      have hmember := take?_member F (each e List.mem_cons_self) es rest hfirst
        (e.spaced ++ (es.flatMap fun j => ',' :: j.spaced) ++ ['\x7d'] ++ rest).length F.empty
      rw [← members_chars] at hmember
      rw [hmember, Form.gather, Form.fold_cons, Option.bind_some]
      cases F.step e.member F.empty with
      | none => simp
      | some d =>
          exact take?_readMembers F es (fun j hj => each j (List.mem_cons_of_mem _ hj)) hlength d
            e.item.blank_after rest

/-- The items of an array are read, and its end. -/
theorem take?_array {vs : List Tree} {cs : List Char} (h : Spells (.array vs) ('[' :: cs))
    (rest : List Char) :
    (readItems F F.parts 0 F.empty).take? (cs ++ rest) =
      (Form.collect F.parts vs F.empty).map fun d => (d, rest) := by
  cases h with
  | noItems inner blank =>
      rw [List.append_assoc, List.singleton_append]
      have hlast : (hasElement (0 = 0)).take? (inner ++ ']' :: rest) = some (false, ']' :: rest) :=
        take?_hasElement_last blank true rest
      exact take?_noItem F hlast (take?_endArray blank [] rest) F.empty
  | items j js each =>
      have hv := each j List.mem_cons_self
      have hfirst := take?_hasElement_first hv (remaining js rest)
      have hchars : j.chars ++ (js.flatMap fun j => ',' :: j.chars) ++ [']'] ++ rest =
          j.chars ++ remaining js rest := by
        simp [remaining]
      rw [hchars]
      cases hparts : F.parts with
      | nil =>
          rw [readItems, List.map_nil, readElements, take?_bind, take?_pure, Option.bind_some,
            take?_bind, take?_endArray_none hv]
          rfl
      | cons p ps =>
          rw [take?_item F (i := 0) hv js rest hfirst, Form.collect, Option.map_bind]
          refine congrArg _ (funext fun a => ?_)
          exact take?_readItems F js (fun k hk => each k (List.mem_cons_of_mem _ hk)) ps 0 _
            j.blank_after rest

/-- **The reader of a record has its meaning.** -/
theorem Form.understands : Understands (readShape F.shape) F.meaning := by
  refine understands_of_upcoming fun v c cs rest hv hc _ => ?_
  split
  · contradiction
  · rename_i hsome
    obtain rfl := Option.some.inj hsome
    obtain ⟨ms, rfl⟩ := hc.object.1 rfl
    exact take?_object F hv rest
  · rename_i hsome
    obtain rfl := Option.some.inj hsome
    obtain ⟨vs, rfl⟩ := hc.array.1 rfl
    exact take?_array F hv rest
  · rename_i hobject harray hsome
    obtain rfl := Option.some.inj hsome
    rw [take?_unwanted]
    cases v with
    | object ms => exact absurd (hc.object.2 ⟨ms, rfl⟩) hobject
    | array vs => exact absurd (hc.array.2 ⟨vs, rfl⟩) harray
    | _ => rfl

end Settings

end Turnstile
