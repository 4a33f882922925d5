/-
**What a reader makes of a value depends on the value alone.**

A reader that is given a text of a tree either fails or takes the text to its last character.
Which of the two it does, and what it makes of the text, depends on the tree: not on the blanks in
the text, nor on what follows it.  So every reader has a meaning, a partial function on trees, and
two texts of one tree are read alike.  Why a reader fails is left out here, since the reason of a
failure may depend on the place where it is noticed first.

Main definitions:

* `Json.Read.take?` — what a reader takes, if it does not fail;
* `Json.Understands` — **a reader has a meaning**;
* `Json.Tree.truth?`, `Json.Tree.text?`, `Json.Tree.variant?`, `Json.Tree.optional?` — the meanings
  of truth values, strings, variants and values that may be absent.

Main results:

* `Json.take?_readString` — a string is read as what it denotes, or not at all;
* `Json.understands_truth`, `Json.understands_text`, `Json.understands_variant`,
  `Json.Understands.optional` — these are the meanings.
-/

import Turnstile.Proofs.Json.Skipping

set_option relaxedAutoImplicit false
set_option autoImplicit false

namespace Turnstile

namespace Json

variable {α β : Type}

/-! ### What a reader takes -/

namespace Read

/-- What a reader takes from the beginning of a text, and the rest of it, if it does not fail. -/
def take? (r : Read α) (cs : List Char) : Option (α × List Char) := (r.on cs).toOption

@[simp] theorem take?_pure (a : α) (cs : List Char) :
    (pure a : Read α).take? cs = some (a, cs) := rfl

@[simp] theorem take?_fail (e : Failure) (cs : List Char) :
    (fail e : Read α).take? cs = none := rfl

theorem take?_bind (r : Read α) (f : α → Read β) (cs : List Char) :
    (r >>= f).take? cs = (r.take? cs).bind fun p => (f p.1).take? p.2 := by
  unfold take?
  cases h : r.on cs with
  | ok p => rw [on_bind h]; rfl
  | error e =>
      have hfail : (r >>= f).on cs = .error e := by
        change (r cs >>= fun p => f p.1 p.2) = _
        rw [show r cs = .error e from h]
        rfl
      rw [hfail]
      rfl

/-- A reader that takes something is followed by the next one. -/
theorem take?_bind_of_on {r : Read α} {cs rest : List Char} {a : α} (h : r.on cs = .ok (a, rest))
    (f : α → Read β) : (r >>= f).take? cs = (f a).take? rest := by
  rw [take?, on_bind h, take?]

theorem take?_advance_bind (f : Unit → Read β) (c : Char) (cs : List Char) :
    (advance >>= f).take? (c :: cs) = (f ()).take? cs := rfl

theorem take?_peek_bind (f : Option Char → Read β) (cs : List Char) :
    (peek >>= f).take? cs = (f cs.head?).take? cs := rfl

theorem take?_map (r : Read α) (g : α → β) (cs : List Char) :
    (do return g (← r) : Read β).take? cs = (r.take? cs).map fun p => (g p.1, p.2) := by
  rw [take?_bind]
  cases r.take? cs <;> rfl

end Read

open Read

theorem take?_upcoming_blank {before : List Char} (h : Blank before) (f : Option Char → Read α)
    (cs : List Char) : (upcoming >>= f).take? (before ++ cs) = (upcoming >>= f).take? cs := by
  rw [take?, on_upcoming_blank h, take?]

theorem take?_upcoming {c : Char} (h : isBlank c = false) (f : Option Char → Read α)
    (cs : List Char) : (upcoming >>= f).take? (c :: cs) = (f (some c)).take? (c :: cs) := by
  rw [take?, on_upcoming_bind h, take?]

/-- Where something else is wanted, nothing is taken. -/
@[simp] theorem take?_unwanted (expected : String) (cs : List Char) :
    (unwanted expected : Read α).take? cs = none := by
  unfold unwanted
  rw [take?_bind]
  cases found.take? cs <;> rfl

/-! ### Meanings -/

/-- **A reader has a meaning**: it takes a text of a tree to its end, or fails, as its meaning says,
whatever blanks stand before it and whatever follows. -/
def Understands (r : Read α) (meaning : Tree → Option α) : Prop :=
  ∀ v text before rest, Spells v text → Blank before → Ends rest →
    r.take? (before ++ (text ++ rest)) = (meaning v).map fun a => (a, rest)

theorem Understands.map {r : Read α} {meaning : Tree → Option α} (h : Understands r meaning)
    (g : α → β) : Understands (do return g (← r)) fun v => (meaning v).map g := by
  intro v text before rest hv hb hrest
  rw [take?_map, h v text before rest hv hb hrest, Option.map_map, Option.map_map]
  rfl

/-- To understand values one may look at their first character. -/
theorem understands_of_upcoming {f : Option Char → Read α} {meaning : Tree → Option α}
    (h : ∀ v c cs rest, Spells v (c :: cs) → Starts v c → Ends rest →
      (f (some c)).take? (c :: (cs ++ rest)) = (meaning v).map fun a => (a, rest)) :
    Understands (upcoming >>= f) meaning := by
  intro v text before rest hv hb hrest
  obtain ⟨c, cs, rfl, hc⟩ := hv.starts
  rw [take?_upcoming_blank hb, List.cons_append, take?_upcoming hc.solid]
  exact h v c cs rest hv hc hrest

/-! ### Truth values, and nothing -/

/-- The truth value of a tree. -/
def Tree.truth? : Tree → Option Bool
  | .truth b => some b
  | _ => none

theorem understands_truth : Understands readTruth Tree.truth? := by
  refine understands_of_upcoming fun v c cs rest hv hc _ => ?_
  split
  · contradiction
  · rename_i hsome
    obtain rfl := Option.some.inj hsome
    obtain rfl := hc.yes.1 rfl
    cases hv
    rfl
  · rename_i hsome
    obtain rfl := Option.some.inj hsome
    obtain rfl := hc.no.1 rfl
    cases hv
    rfl
  · rename_i hyes hno hsome
    obtain rfl := Option.some.inj hsome
    rw [take?_unwanted]
    cases v with
    | truth b =>
        cases b with
        | true => exact absurd (hc.yes.2 rfl) hyes
        | false => exact absurd (hc.no.2 rfl) hno
    | _ => rfl

/-- Nothing, in the form of `null`. -/
def Tree.unit? : Tree → Option Unit
  | .null => some ()
  | _ => none

theorem understands_unit : Understands readUnit Tree.unit? := by
  refine understands_of_upcoming fun v c cs rest hv hc _ => ?_
  split
  · contradiction
  · rename_i hsome
    obtain rfl := Option.some.inj hsome
    obtain rfl := hc.null.1 rfl
    cases hv
    rfl
  · rename_i hnull hsome
    obtain rfl := Option.some.inj hsome
    rw [take?_unwanted]
    cases v with
    | null => exact absurd (hc.null.2 rfl) hnull
    | _ => rfl

/-! ### Values that may be absent -/

/-- A value, or none in the form of `null`. -/
def Tree.optional? (meaning : Tree → Option α) : Tree → Option (Option α)
  | .null => some none
  | v => (meaning v).map some

theorem Understands.optional {r : Read α} {meaning : Tree → Option α} (h : Understands r meaning) :
    Understands (readOptional r) (Tree.optional? meaning) := by
  refine understands_of_upcoming fun v c cs rest hv hc hrest => ?_
  split
  · rename_i hsome
    obtain rfl := Option.some.inj hsome
    obtain rfl := hc.null.1 rfl
    cases hv
    rfl
  · rename_i hnull
    have hv' : v ≠ .null := fun he => hnull (congrArg some (hc.null.2 he))
    have htaken := h v _ [] rest hv blank_nil hrest
    rw [List.nil_append, List.cons_append] at htaken
    rw [take?_map, htaken, Tree.optional?, Option.map_map, Option.map_map]
    · rfl
    · exact hv'

/-! ### Strings -/

theorem readChars_plain (fuel : Nat) (acc : List Char) {c : Char} (ok : isPlain c = true)
    (cs : List Char) : (readChars (fuel + 1) acc).on (c :: cs) =
      (readChars fuel (c :: acc)).on cs := by
  obtain ⟨⟨hquote, hslash⟩, hlow⟩ := isPlain_iff.1 ok
  simp [readChars, hquote, hslash, Nat.not_lt.2 hlow]

/-- An escape is taken, and then the rest of the string. -/
theorem take?_readChars_escape (fuel : Nat) (acc cs : List Char) :
    (readChars (fuel + 1) acc).take? ('\\' :: cs) =
      (readEscape.take? cs).bind fun p => (readChars fuel (p.1 :: acc)).take? p.2 := by
  change (next >>= _).take? _ = _
  rw [take?_bind_of_on (show next.on ('\\' :: cs) = .ok ('\\', cs) from rfl)]
  simp only [show '\\' ≠ '"' by decide, if_false, if_true]
  rw [take?_bind]

theorem take?_readEscape_short {c d : Char} (ok : shortEscape? c = some d) (cs : List Char) :
    readEscape.take? (c :: cs) = some (d, cs) := by
  unfold readEscape
  rw [take?_bind_of_on (show next.on (c :: cs) = .ok (c, cs) from rfl)]
  simp [ne_u_of_short ok, ok]

theorem take?_readEscape_code {a b c d : Char} {n : Nat} (ok : hexNumber? [a, b, c, d] = some n)
    (hlow : isLowHalf n = false) (hhigh : isHighHalf n = false) (cs : List Char) :
    readEscape.take? ('u' :: a :: b :: c :: d :: cs) = some (Char.ofNat n, cs) := by
  change readCode.take? (a :: b :: c :: d :: cs) = _
  rw [readCode, take?_bind_of_on (on_readHex ok cs)]
  simp [hlow, hhigh]

/-- A second half does not stand alone. -/
theorem take?_readEscape_low {a b c d : Char} {n : Nat} (ok : hexNumber? [a, b, c, d] = some n)
    (hlow : isLowHalf n = true) (cs : List Char) :
    readEscape.take? ('u' :: a :: b :: c :: d :: cs) = none := by
  change readCode.take? (a :: b :: c :: d :: cs) = _
  rw [readCode, take?_bind_of_on (on_readHex ok cs), if_pos hlow, take?_fail]

/-- A first half and a second half are one character. -/
theorem take?_readEscape_pair {a b c d a' b' c' d' : Char} {n n' : Nat}
    (ok : hexNumber? [a, b, c, d] = some n) (ok' : hexNumber? [a', b', c', d'] = some n')
    (hlow : isLowHalf n = false) (hhigh : isHighHalf n = true) (cs : List Char) :
    readEscape.take? ('u' :: a :: b :: c :: d :: '\\' :: 'u' :: a' :: b' :: c' :: d' :: cs) =
      if isLowHalf n' then
        some (Char.ofNat ((n - 0xD800) * 1024 + (n' - 0xDC00) + 0x10000), cs)
      else none := by
  change readCode.take? (a :: b :: c :: d :: _) = _
  rw [readCode, take?_bind_of_on (on_readHex ok _)]
  simp only [hlow, hhigh, Bool.false_eq_true, if_false, if_true]
  rw [take?_bind_of_on (a := '\\') rfl, if_neg (by simp), take?_bind_of_on (a := 'u') rfl,
    if_neg (by simp), take?_bind_of_on (on_readHex ok' cs)]
  cases isLowHalf n' <;> rfl

/-- A first half does not stand alone either. -/
theorem take?_readEscape_high {a b c d : Char} {n : Nat} (ok : hexNumber? [a, b, c, d] = some n)
    (hlow : isLowHalf n = false) (hhigh : isHighHalf n = true) {cs : List Char}
    (halone : ∀ rest, cs ≠ '\\' :: 'u' :: rest) :
    readEscape.take? ('u' :: a :: b :: c :: d :: cs) = none := by
  change readCode.take? (a :: b :: c :: d :: cs) = _
  rw [readCode, take?_bind_of_on (on_readHex ok cs)]
  simp only [hlow, hhigh, Bool.false_eq_true, if_false, if_true]
  rcases cs with _ | ⟨e, _ | ⟨f, cs⟩⟩
  · rfl
  · rw [take?_bind_of_on (show next.on [e] = .ok (e, []) from rfl)]
    split <;> rfl
  · rw [take?_bind_of_on (show next.on (e :: f :: cs) = .ok (e, f :: cs) from rfl)]
    split
    · rfl
    · rename_i he
      rw [take?_bind_of_on (show next.on (f :: cs) = .ok (f, cs) from rfl), if_pos, take?_fail]
      rintro rfl
      exact halone cs (by rw [Classical.not_not.1 he])

theorem closed_cons (p : Piece) (ps : List Piece) (rest : List Char) :
    closed (p :: ps) ++ rest = p.chars ++ (closed ps ++ rest) := by
  simp [closed]

/-- Only an escape by code begins like one. -/
theorem closed_ne_code {ps : List Piece}
    (h : ∀ a b c d n ok ps', ps = .code a b c d n ok :: ps' → False) (rest cs : List Char) :
    closed ps ++ rest ≠ '\\' :: 'u' :: cs := by
  rcases ps with _ | ⟨p, ps⟩
  · simp [closed]
  rw [closed_cons]
  cases p with
  | plain c ok => simp [Piece.chars, (isPlain_iff.1 ok).1.2]
  | short c d ok => simp [Piece.chars, ne_u_of_short ok]
  | code a b c d n ok => exact absurd rfl (h a b c d n ok ps)

/-- The characters of a string are taken as far as they denote any. -/
theorem take?_readChars (ps : List Piece) {fuel : Nat} (acc : List Char) (h : ps.length ≤ fuel)
    (rest : List Char) : (readChars (fuel + 1) acc).take? (closed ps ++ rest) =
      (unescape? ps).map fun cs => (acc.reverse ++ cs, rest) := by
  -- the fuel for the pieces that are left
  have hfuel {p : Piece} {ps : List Piece} {fuel : Nat} (h : (p :: ps).length ≤ fuel) :
      ∃ m, fuel = m + 1 ∧ ps.length ≤ m :=
    ⟨fuel - 1, by simp only [List.length_cons] at h; omega⟩
  have hacc (acc : List Char) (d : Char) (o : Option (List Char)) :
      (o.map fun cs => ((d :: acc).reverse ++ cs, rest)) =
        (o.map (d :: ·)).map fun cs => (acc.reverse ++ cs, rest) := by
    cases o <;> simp
  fun_induction unescape? ps generalizing fuel acc with
  | case1 =>
      simp only [Option.map_some, List.append_nil]
      rfl
  | case2 c ok ps ih =>
      obtain ⟨fuel, rfl, hps⟩ := hfuel h
      rw [closed_cons, take?, Piece.chars, List.singleton_append, readChars_plain _ _ ok, ← take?,
        ih (c :: acc) hps, hacc]
  | case3 c d ok ps ih =>
      obtain ⟨fuel, rfl, hps⟩ := hfuel h
      rw [closed_cons]
      change (readChars (fuel + 1 + 1) acc).take? ('\\' :: c :: (closed ps ++ rest)) = _
      rw [take?_readChars_escape, take?_readEscape_short ok, Option.bind_some, ih (d :: acc) hps,
        hacc]
  | case4 a b c d n ok ps hlow =>
      rw [closed_cons]
      change (readChars (fuel + 1) acc).take?
        ('\\' :: 'u' :: a :: b :: c :: d :: (closed ps ++ rest)) = _
      rw [take?_readChars_escape, take?_readEscape_low ok hlow]
      rfl
  | case5 a b c d n ok hlow hhigh a' b' c' d' n' ok' ps hlow' ih =>
      obtain ⟨fuel, rfl, hps⟩ := hfuel h
      rw [closed_cons, closed_cons]
      change (readChars (fuel + 1 + 1) acc).take? ('\\' :: 'u' :: a :: b :: c :: d ::
        '\\' :: 'u' :: a' :: b' :: c' :: d' :: (closed ps ++ rest)) = _
      rw [take?_readChars_escape, take?_readEscape_pair ok ok' (by simpa using hlow) hhigh,
        if_pos hlow', Option.bind_some, ih _ (Nat.le_of_succ_le hps), hacc]
  | case6 a b c d n ok hlow hhigh a' b' c' d' n' ok' ps hlow' =>
      rw [closed_cons, closed_cons]
      change (readChars (fuel + 1) acc).take? ('\\' :: 'u' :: a :: b :: c :: d ::
        '\\' :: 'u' :: a' :: b' :: c' :: d' :: (closed ps ++ rest)) = _
      rw [take?_readChars_escape, take?_readEscape_pair ok ok' (by simpa using hlow) hhigh,
        if_neg hlow']
      rfl
  | case7 a b c d n ok ps hlow hhigh halone =>
      rw [closed_cons]
      change (readChars (fuel + 1) acc).take?
        ('\\' :: 'u' :: a :: b :: c :: d :: (closed ps ++ rest)) = _
      rw [take?_readChars_escape, take?_readEscape_high ok (by simpa using hlow) hhigh]
      · rfl
      · exact closed_ne_code halone rest
  | case8 a b c d n ok ps hlow hhigh ih =>
      obtain ⟨fuel, rfl, hps⟩ := hfuel h
      rw [closed_cons]
      change (readChars (fuel + 1 + 1) acc).take?
        ('\\' :: 'u' :: a :: b :: c :: d :: (closed ps ++ rest)) = _
      rw [take?_readChars_escape, take?_readEscape_code ok (by simpa using hlow)
        (by simpa using hhigh), Option.bind_some, ih _ hps, hacc]

/-- **A string is read as what it denotes**, or not at all. -/
theorem take?_readString (ps : List Piece) (rest : List Char) :
    readString.take? (closed ps ++ rest) = (denotes? ps).map fun s => (s, rest) := by
  have hlength : ps.length ≤ (closed ps ++ rest).length := by
    have hclosed := length_le_closed ps
    rw [List.length_append]
    omega
  have hchars := take?_readChars ps [] hlength rest
  have hread : readString.take? (closed ps ++ rest) = (do
      return String.ofList (← readChars ((closed ps ++ rest).length + 1) []) : Read String).take?
        (closed ps ++ rest) := rfl
  rw [hread, take?_map, hchars, denotes?, Option.map_map, Option.map_map]
  rfl

/-- The text that a tree denotes. -/
def Tree.text? : Tree → Option String
  | .text ps => denotes? ps
  | _ => none

theorem understands_text (expected : String) : Understands (readText expected) Tree.text? := by
  refine understands_of_upcoming fun v c cs rest hv hc _ => ?_
  split
  · contradiction
  · rename_i hsome
    obtain rfl := Option.some.inj hsome
    obtain ⟨ps, rfl⟩ := hc.text.1 rfl
    cases hv
    exact take?_readString ps rest
  · rename_i htext hsome
    obtain rfl := Option.some.inj hsome
    rw [take?_unwanted]
    cases v with
    | text ps => exact absurd (hc.text.2 ⟨ps, rfl⟩) htext
    | _ => rfl

/-! ### Members of an object -/

theorem take?_colon {before : List Char} (h : Blank before) (cs : List Char) :
    colon.take? (before ++ ':' :: cs) = some ((), cs) := by
  unfold colon
  rw [take?_upcoming_blank h, take?_upcoming rfl]
  rfl

/-- The value of a member is read after its colon. -/
theorem take?_labelled {r : Read α} {meaning : Tree → Option α} (hr : Understands r meaning)
    {e : Labelled} (hv : Spells e.item.value e.item.text) (f : α → Read β) {rest : List Char}
    (hrest : Ends rest) :
    (do
      colon
      let a ← r
      f a : Read β).take? (e.between ++ ':' :: (e.item.chars ++ rest)) =
        (meaning e.item.value).bind fun a => (f a).take? (e.item.after ++ rest) := by
  have hvalue := hr _ _ _ _ hv e.item.blank_before (hrest.after_blank e.item.blank_after)
  rw [take?_bind, take?_colon e.blank_between, Option.bind_some, take?_bind, Item.chars,
    List.append_assoc, List.append_assoc, hvalue, Option.bind_map]
  rfl

/-- What follows a member of an object: the other members, and the end. -/
def following (es : List Labelled) (rest : List Char) : List Char :=
  (es.flatMap fun j => ',' :: j.spaced) ++ '\x7d' :: rest

theorem ends_following (es : List Labelled) (rest : List Char) : Ends (following es rest) := by
  have hends := ends_rest .object (es.map Labelled.spaced) rest
  rw [List.flatMap_map] at hends
  exact hends

/-- The characters of an object after its brace. -/
theorem members_chars (e : Labelled) (es : List Labelled) (rest : List Char) :
    e.spaced ++ (es.flatMap fun j => ',' :: j.spaced) ++ ['\x7d'] ++ rest =
      e.before ++ '"' :: (closed e.name ++
        (e.between ++ ':' :: (e.item.chars ++ following es rest))) := by
  simp [Labelled.spaced, Labelled.chars, following]

/-- The end of an object is passed over, if no further member stands before it. -/
theorem take?_endObject {after : List Char} (h : Blank after) (es : List Labelled)
    (rest : List Char) :
    endObject.take? (after ++ following es rest) =
      if es.isEmpty then some ((), rest) else none := by
  unfold endObject
  rw [take?_upcoming_blank h]
  cases es <;> rfl

/-! ### Variants -/

theorem take?_variant (known : List (String × α)) (name : String) (cs : List Char) :
    (variant known name).take? cs = (known.lookup name).map fun a => (a, cs) := by
  unfold variant
  cases known.lookup name <;> rfl

/-- The variant of a tree: its name, or an object with the name as its only member and nothing as
the value. -/
def Tree.variant? (known : List (String × α)) : Tree → Option α
  | .text ps => (denotes? ps).bind fun s => known.lookup s
  | .object [(name, v)] =>
      (denotes? name).bind fun s => (known.lookup s).bind fun a => v.unit?.map fun _ => a
  | _ => none

theorem take?_readMemberName {before : List Char} (h : Blank before) (ps : List Piece)
    (cs : List Char) : readMemberName.take? (before ++ '"' :: (closed ps ++ cs)) =
      (denotes? ps).map fun s => (s, cs) := by
  unfold readMemberName
  rw [take?_upcoming_blank h, take?_upcoming rfl]
  exact take?_readString ps cs

theorem understands_variant (known : List (String × α)) :
    Understands (readVariant known) (Tree.variant? known) := by
  refine understands_of_upcoming fun v c cs rest hv hc _ => ?_
  split
  · contradiction
  · rename_i hsome
    obtain rfl := Option.some.inj hsome
    obtain ⟨ps, rfl⟩ := hc.text.1 rfl
    cases hv
    change (readString >>= _).take? (closed ps ++ rest) = _
    rw [take?_bind, take?_readString, Tree.variant?]
    cases denotes? ps with
    | none => rfl
    | some s => exact take?_variant known s rest
  · rename_i hsome
    obtain rfl := Option.some.inj hsome
    obtain ⟨ms, rfl⟩ := hc.object.1 rfl
    rw [take?_advance_bind, take?_bind]
    cases hv with
    | noMembers inner blank =>
        have hnone : readMemberName.take? (inner ++ ['\x7d'] ++ rest) = none := by
          unfold readMemberName
          rw [List.append_assoc, take?_upcoming_blank blank]
          rfl
        rw [hnone]
        rfl
    | members e es each =>
        have hfollows := ends_following es rest
        -- behind the name of the variant stands nothing, and the end of the object
        have hvariant (s : String) : (do
              let v ← variant known s
              colon
              readUnit
              endObject
              return v : Read α).take? (e.between ++ ':' :: (e.item.chars ++ following es rest)) =
            (known.lookup s).bind fun a => e.item.value.unit?.bind fun _ =>
              if es.isEmpty then some (a, rest) else none := by
          rw [take?_bind, take?_variant, Option.bind_map]
          refine congrArg _ (funext fun a => ?_)
          refine (take?_labelled understands_unit (each e List.mem_cons_self) _ hfollows).trans ?_
          refine congrArg _ (funext fun _ => ?_)
          rw [take?_bind, take?_endObject e.item.blank_after]
          cases es <;> rfl
        rw [members_chars, take?_readMemberName e.blank_before, Option.bind_map]
        simp only [Function.comp_def, hvariant]
        cases es with
        | nil =>
            simp only [Tree.variant?, Labelled.member, List.map_nil, Option.map_bind,
              Function.comp_def, Option.map_map, List.isEmpty_nil, if_true]
            cases e.item.value.unit? <;> rfl
        | cons j js => simp [Tree.variant?, Labelled.member]
  · rename_i htext hobject hsome
    obtain rfl := Option.some.inj hsome
    rw [take?_fail]
    cases v with
    | text ps => exact absurd (hc.text.2 ⟨ps, rfl⟩) htext
    | object ms => exact absurd (hc.object.2 ⟨ms, rfl⟩) hobject
    | _ => rfl

end Json

end Turnstile
