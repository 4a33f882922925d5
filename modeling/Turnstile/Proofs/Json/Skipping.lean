/-
**What is not wanted is passed over exactly.**

To skip a value is to take its text to the last character and nothing of what follows, however deep
the value is nested.  The skipping reader keeps a stack of open arrays and objects and goes from
piece to piece, so what carries the induction is not the reader but one of its states: from a state
that expects a value it comes, behind that value, to the state that has a complete one, with the
same stack.  The number of pieces is at most twice the number of characters, so the reader always
has fuel enough.

Main definitions:

* `Json.Halts` — digits end here;
* `Json.Skipped`, `Json.Passed` — a value, and what stands between two commas, are passed over.

Main results:

* `Json.on_skipString`, `Json.on_skipNumber` — strings and numbers are taken exactly;
* `Json.Spells.skipped` — so is every value, in any state of the stack;
* `Json.on_skipValue` — **a value of any depth is passed over exactly**.
-/

import Turnstile.Proofs.Json.Grammar
import Turnstile.Proofs.Json.Reading

set_option relaxedAutoImplicit false
set_option autoImplicit false

namespace Turnstile

namespace Json

variable {α : Type}

@[simp] theorem Read.on_peek_bind (f : Option Char → Read α) (cs : List Char) :
    (Read.peek >>= f).on cs = (f cs.head?).on cs := rfl

/-! ### Blanks -/

theorem dropWhile_blank {before : List Char} (h : Blank before) (cs : List Char) :
    (before ++ cs).dropWhile isBlank = cs.dropWhile isBlank :=
  List.dropWhile_append_of_pos h

/-- To look for what comes next is to pass over blanks first. -/
theorem on_upcoming_blank {before : List Char} (h : Blank before) (f : Option Char → Read α)
    (cs : List Char) : (upcoming >>= f).on (before ++ cs) = (upcoming >>= f).on cs := by
  have hlook (ds : List Char) : (upcoming >>= f).on ds =
      (f (ds.dropWhile isBlank).head?).on (ds.dropWhile isBlank) := Read.on_bind rfl
  rw [hlook, hlook, dropWhile_blank h]

/-! ### Strings -/

/-- One piece of a string is passed over. -/
theorem skipChars_piece (fuel : Nat) (p : Piece) (rest : List Char) :
    (skipChars (fuel + 1)).on (p.chars ++ rest) = (skipChars fuel).on rest := by
  cases p with
  | plain c ok =>
      obtain ⟨⟨hquote, hslash⟩, hlow⟩ := isPlain_iff.1 ok
      simp [skipChars, Piece.chars, hquote, hslash, Nat.not_lt.2 hlow]
  | short c d ok => simp [skipChars, Piece.chars, ne_u_of_short ok, ok]
  | code a b c d n ok =>
      simp [skipChars, Piece.chars, Read.on_bind (on_readHex ok rest)]

theorem on_skipChars (ps : List Piece) {fuel : Nat} (h : ps.length < fuel) (rest : List Char) :
    (skipChars fuel).on (closed ps ++ rest) = .ok ((), rest) := by
  induction ps generalizing fuel with
  | nil =>
      obtain ⟨fuel, rfl⟩ := Nat.exists_eq_add_of_lt h
      simp [skipChars, closed]
  | cons p ps ih =>
      obtain ⟨fuel, rfl⟩ := Nat.exists_eq_add_of_lt (Nat.lt_of_le_of_lt (Nat.zero_le _) h)
      have hchars : closed (p :: ps) ++ rest = p.chars ++ (closed ps ++ rest) := by
        simp [closed]
      rw [hchars, Nat.zero_add, skipChars_piece]
      exact ih (by simpa using h)

theorem length_le_closed (ps : List Piece) : ps.length < (closed ps).length := by
  induction ps with
  | nil => exact Nat.one_pos
  | cons p ps ih =>
      have hone : 1 ≤ p.chars.length := by cases p <;> simp [Piece.chars]
      simp only [closed, List.flatMap_cons, List.length_append, List.length_cons] at ih ⊢
      omega

/-- A string is passed over exactly. -/
theorem on_skipString (ps : List Piece) (rest : List Char) :
    skipString.on (closed ps ++ rest) = .ok ((), rest) := by
  have hlength := length_le_closed ps
  unfold skipString
  rw [Read.on_get_bind]
  refine on_skipChars ps ?_ rest
  rw [List.length_append]
  omega

/-! ### Numbers -/

/-- Digits end here. -/
def Halts (rest : List Char) : Prop := ∀ c ∈ rest.head?, c.isDigit = false

theorem halts_cons {c : Char} (h : c.isDigit = false) (rest : List Char) : Halts (c :: rest) :=
  fun _ hc => Option.some.inj hc ▸ h

/-- What ends a value is no digit, no point and no exponent. -/
theorem Ends.other {rest : List Char} (h : Ends rest) :
    ∀ c ∈ rest.head?, c.isDigit = false ∧ c ≠ '.' ∧ c ≠ 'e' ∧ c ≠ 'E' := by
  intro c hc
  have hends := h c hc
  simp only [isBlank, Bool.or_eq_true, beq_iff_eq] at hends
  rcases hends with (((rfl | rfl) | rfl) | rfl) | rfl | rfl | rfl <;> decide

theorem Ends.halts {rest : List Char} (h : Ends rest) : Halts rest := fun c hc => (h.other c hc).1

theorem Digits.all (ds : Digits) : ∀ d ∈ ds.chars, d.isDigit = true := by
  intro d hd
  rcases List.mem_cons.1 hd with rfl | hd
  · exact ds.first_digit
  · exact ds.more_digits d hd

/-- Digits are taken where they end. -/
theorem on_digits {ds rest : List Char} (hds : ∀ d ∈ ds, d.isDigit = true) (h : Halts rest) :
    Read.digits.on (ds ++ rest) = .ok (ds, rest) := by
  have hstop : rest.takeWhile Char.isDigit = [] ∧ rest.dropWhile Char.isDigit = rest := by
    cases rest with
    | nil => exact ⟨rfl, rfl⟩
    | cons c cs => simp [h c rfl]
  change Except.ok ((ds ++ rest).takeWhile Char.isDigit, (ds ++ rest).dropWhile Char.isDigit) = _
  rw [List.takeWhile_append_of_pos hds, List.dropWhile_append_of_pos hds, hstop.1, hstop.2,
    List.append_nil]

theorem on_skipDigits (ds : Digits) {rest : List Char} (h : Halts rest) :
    skipDigits.on (ds.chars ++ rest) = .ok ((), rest) := by
  unfold skipDigits
  rw [Read.on_bind (on_digits ds.all h)]
  rfl

/-- An exponent is passed over. -/
theorem on_skipExponent (e : Exponent) {rest : List Char} (h : Halts rest) :
    skipExponent.on (e.sign.toList ++ e.digits.chars ++ rest) = .ok ((), rest) := by
  have hdigits := on_skipDigits e.digits h
  unfold skipExponent
  cases hsign : e.sign with
  | none =>
      have hfirst := e.digits.first_digit
      have hplus := digit_ne hfirst (show '+'.isDigit = false from rfl)
      have hminus := digit_ne hfirst (show '-'.isDigit = false from rfl)
      have hhead : (e.digits.chars ++ rest).head? = some e.digits.first := rfl
      rw [Option.toList_none, List.nil_append, Read.on_peek_bind, hhead]
      simpa [hplus, hminus] using hdigits
  | some c =>
      simpa [e.sign_ok c hsign] using hdigits

/-- The exponent of a number, if it has one, is passed over. -/
theorem on_skip_exponent (o : Option Exponent) {rest : List Char} (h : Ends rest) :
    (do match ← Read.peek with
        | some 'e' | some 'E' => do
            Read.advance
            skipExponent
        | _ => return () : Read Unit).on (o.elim [] Exponent.chars ++ rest) = .ok ((), rest) := by
  cases o with
  | none =>
      have hother := h.other
      rw [Option.elim_none, List.nil_append, Read.on_peek_bind]
      split
      · rename_i he
        exact absurd rfl (hother 'e' he).2.2.1
      · rename_i he
        exact absurd rfl (hother 'E' he).2.2.2
      · rfl
  | some e =>
      have hskip := on_skipExponent e h.halts
      rw [Option.elim_some, Exponent.chars, Read.on_peek_bind]
      obtain hletter | hletter := e.letter_ok
      · rw [hletter]
        exact hskip
      · rw [hletter]
        exact hskip

/-- No digit follows the whole part of a number. -/
theorem halts_tail (n : Numeral) {rest : List Char} (h : Ends rest) : Halts (n.tail ++ rest) := by
  unfold Numeral.tail
  cases n.fraction with
  | some ds => exact halts_cons rfl _
  | none =>
      cases n.exponent with
      | none => exact h.halts
      | some e =>
          refine halts_cons ?_ _
          obtain hletter | hletter := e.letter_ok <;> rw [hletter] <;> rfl

/-- What follows the whole part of a number is passed over. -/
theorem on_skipAfterWhole (n : Numeral) {rest : List Char} (h : Ends rest) :
    skipAfterWhole.on (n.tail ++ rest) = .ok ((), rest) := by
  have hskip := on_skip_exponent n.exponent h
  have htail : Halts (n.exponent.elim [] Exponent.chars ++ rest) := by
    simpa [Numeral.tail] using halts_tail { n with fraction := none } h
  unfold skipAfterWhole Numeral.tail
  rw [Read.on_peek_bind]
  cases n.fraction with
  | some ds =>
      have hdigits := on_skipDigits ds htail
      rw [Option.elim_some, List.append_assoc, List.cons_append]
      change (Read.advance >>= fun _ => skipDigits >>= _).on _ = _
      rw [Read.on_advance_bind, Read.on_bind hdigits]
      exact hskip
  | none =>
      rw [Option.elim_none, List.nil_append]
      rw [Read.on_peek_bind] at hskip
      split
      · -- a point belongs to a fraction
        rename_i hpoint
        cases he : n.exponent with
        | none =>
            rw [he] at hpoint
            exact absurd rfl (h.other '.' hpoint).2.1
        | some e =>
            rw [he] at hpoint
            obtain hletter : e.letter = '.' := Option.some.inj hpoint
            obtain he | he := e.letter_ok <;> exact absurd (hletter.symm.trans he) (by decide)
      · rename_i he
        rw [he] at hskip
        exact hskip
      · rename_i he
        rw [he] at hskip
        exact hskip
      · split at hskip
        · contradiction
        · contradiction
        · exact hskip

/-- A number is passed over exactly, after its sign. -/
theorem on_skipNumber (n : Numeral) {rest : List Char} (h : Ends rest) :
    skipNumber.on (n.unsigned ++ rest) = .ok ((), rest) := by
  have hafter := on_skipAfterWhole n h
  have hhalts := halts_tail n h
  unfold skipNumber Numeral.unsigned
  rw [List.append_assoc, Read.on_peek_bind]
  by_cases hzero : n.whole.first = '0'
  · have hchars : n.whole.chars ++ (n.tail ++ rest) = '0' :: (n.tail ++ rest) := by
      rw [Digits.chars, hzero, n.no_zeros hzero]
      rfl
    rw [hchars]
    change (Read.advance >>= fun _ => Read.peek >>= _).on _ = _
    rw [Read.on_advance_bind, Read.on_peek_bind]
    cases hrest : n.tail ++ rest with
    | nil =>
        obtain rfl := (List.append_eq_nil_iff.1 hrest).2
        rfl
    | cons c cs =>
        rw [hrest] at hafter hhalts
        have hc : c.isDigit = false := hhalts c rfl
        simpa [hc] using hafter
  · have hdigits := on_digits n.whole.all hhalts
    have hhead : (n.whole.chars ++ (n.tail ++ rest)).head? = some n.whole.first := rfl
    rw [hhead]
    split
    · rename_i hsome
      exact absurd (Option.some.inj hsome) hzero
    · rename_i c hsome
      obtain rfl := Option.some.inj hsome
      rw [if_pos n.whole.first_digit, Read.on_bind hdigits]
      exact hafter
    · contradiction

/-! ### Values -/

/-- A state that looks for what comes next passes over blanks first. -/
theorem skipFrames_blank {state : Skipping} {frames : List Frame}
    (hstate : state = .value ∨ state = .member ∨ frames ≠ []) {before : List Char}
    (h : Blank before) (fuel : Nat) (cs : List Char) :
    (skipFrames fuel state frames).on (before ++ cs) = (skipFrames fuel state frames).on cs := by
  cases fuel with
  | zero => rfl
  | succ fuel =>
      cases state with
      | value | member => exact on_upcoming_blank h _ cs
      | opened | complete =>
          obtain ⟨frame, frames, rfl⟩ := List.exists_cons_of_ne_nil (by simpa using hstate)
          exact on_upcoming_blank h _ cs

/-- A value is passed over: from a state that expects it to one that has it, whatever is open. -/
def Skipped (text : List Char) : Prop :=
  ∃ k, k ≤ 2 * text.length ∧ ∀ fuel frames rest, Ends rest →
    (skipFrames (fuel + k) .value frames).on (text ++ rest) =
      (skipFrames fuel .complete frames).on rest

/-- What stands between two commas in a frame is passed over; it does not end the frame. -/
structure Passed (f : Frame) (chars : List Char) : Prop where
  opens : ∃ before c cs, chars = before ++ c :: cs ∧ Blank before ∧ isBlank c = false ∧
    c ≠ f.closing
  passes : ∃ k, k ≤ 2 * chars.length ∧ ∀ fuel frames rest, Ends rest →
    (skipFrames (fuel + k) f.inside (f :: frames)).on (chars ++ rest) =
      (skipFrames fuel .complete (f :: frames)).on rest

/-- What can stand in a frame and ends it, or goes on in it, ends a value. -/
theorem ends_rest (f : Frame) (chunks : List (List Char)) (rest : List Char) :
    Ends ((chunks.flatMap fun cs => ',' :: cs) ++ f.closing :: rest) := by
  cases chunks with
  | nil => cases f <;> exact ends_cons (by decide) _
  | cons cs chunks => exact ends_cons (.inl rfl) _

/-- After a value the rest of a frame is passed over, and its end. -/
theorem skipFrames_rest {f : Frame} {chunks : List (List Char)} (h : ∀ cs ∈ chunks, Passed f cs) :
    ∃ k, k ≤ 2 * (chunks.flatMap fun cs => ',' :: cs).length + 1 ∧ ∀ fuel frames rest,
      (skipFrames (fuel + k) .complete (f :: frames)).on
          ((chunks.flatMap fun cs => ',' :: cs) ++ f.closing :: rest) =
        (skipFrames fuel .complete frames).on rest := by
  induction chunks with
  | nil =>
      refine ⟨1, by simp, fun fuel frames rest => ?_⟩
      cases f <;> rfl
  | cons cs chunks ih =>
      obtain ⟨k, hk, hrest⟩ := ih fun ds hds => h ds (List.mem_cons_of_mem _ hds)
      obtain ⟨k', hk', hpass⟩ := (h cs List.mem_cons_self).passes
      refine ⟨k + k' + 1, ?_, fun fuel frames rest => ?_⟩
      · simp only [List.flatMap_cons, List.length_append, List.length_cons] at hk ⊢
        omega
      · -- the comma, what follows it, and the rest
        have hcomma : (skipFrames (fuel + (k + k' + 1)) .complete (f :: frames)).on
            (',' :: (cs ++ ((chunks.flatMap fun cs => ',' :: cs) ++ f.closing :: rest))) =
            (skipFrames (fuel + k + k') f.inside (f :: frames)).on
              (cs ++ ((chunks.flatMap fun cs => ',' :: cs) ++ f.closing :: rest)) := by
          have hfuel : fuel + (k + k' + 1) = fuel + k + k' + 1 := by omega
          rw [hfuel]
          rfl
        rw [List.flatMap_cons, List.append_assoc, List.cons_append, hcomma,
          hpass _ _ _ (ends_rest f chunks rest), hrest]

/-- The character that opens a frame. -/
def Frame.opening : Frame → Char
  | .array => '['
  | .object => '\x7b'

theorem skipFrames_opening (f : Frame) (fuel : Nat) (frames : List Frame) (cs : List Char) :
    (skipFrames (fuel + 1) .value frames).on (f.opening :: cs) =
      (skipFrames fuel .opened (f :: frames)).on cs := by
  cases f <;> rfl

/-- A frame with nothing in it is passed over. -/
theorem skipped_empty (f : Frame) {inner : List Char} (h : Blank inner) :
    Skipped (f.opening :: (inner ++ [f.closing])) := by
  have hlength : 2 ≤ 2 * (f.opening :: (inner ++ [f.closing])).length := by
    simp only [List.length_cons, List.length_append]
    omega
  refine ⟨2, hlength, fun fuel frames rest _ => ?_⟩
  rw [List.cons_append, List.append_assoc, List.singleton_append]
  rw [skipFrames_opening f (fuel + 1), skipFrames_blank (.inr (.inr (List.cons_ne_nil _ _))) h]
  cases f <;> rfl

/-- A frame with something in it is passed over. -/
theorem skipped_frame {f : Frame} {first : List Char} {chunks : List (List Char)}
    (h : ∀ cs ∈ first :: chunks, Passed f cs) :
    Skipped (f.opening :: (first ++ (chunks.flatMap fun cs => ',' :: cs) ++ [f.closing])) := by
  obtain ⟨k, hk, hrest⟩ := skipFrames_rest fun cs hcs => h cs (List.mem_cons_of_mem _ hcs)
  obtain ⟨⟨before, c, cs, rfl, hblank, hsolid, hclosing⟩, k', hk', hpass⟩ :=
    h first List.mem_cons_self
  refine ⟨k + k' + 2, ?_, fun fuel frames rest _ => ?_⟩
  · simp only [List.length_append, List.length_cons] at hk hk' ⊢
    omega
  · have hfuel : fuel + (k + k' + 2) = fuel + k + k' + 1 + 1 := by omega
    -- what is not the end of the frame is looked at once more from inside
    have hinside (tail : List Char) :
        (skipFrames (fuel + k + k' + 1) .opened (f :: frames)).on (before ++ c :: cs ++ tail) =
          (skipFrames (fuel + k + k') f.inside (f :: frames)).on (before ++ c :: cs ++ tail) := by
      have hstate : f.inside = .value ∨ f.inside = .member ∨ f :: frames ≠ [] :=
        .inr (.inr (List.cons_ne_nil _ _))
      rw [List.append_assoc, skipFrames_blank (.inr (.inr (List.cons_ne_nil _ _))) hblank,
        skipFrames_blank hstate hblank, List.cons_append, skipFrames, on_upcoming_bind hsolid]
      simp only [hclosing, if_false]
    rw [hfuel, List.cons_append, skipFrames_opening, List.append_assoc, List.append_assoc, hinside,
      List.singleton_append, hpass _ _ _ (ends_rest f chunks rest), hrest]

/-- A value in a frame is passed over with the blanks around it. -/
theorem Skipped.spaced {i : Item} (h : Skipped i.text) :
    ∃ k, k ≤ 2 * i.chars.length ∧ ∀ fuel (f : Frame) frames rest, Ends rest →
      (skipFrames (fuel + k) .value (f :: frames)).on (i.chars ++ rest) =
        (skipFrames fuel .complete (f :: frames)).on rest := by
  obtain ⟨k, hk, hskip⟩ := h
  refine ⟨k, ?_, fun fuel f frames rest hrest => ?_⟩
  · simp only [Item.chars, List.length_append]
    omega
  · rw [Item.chars, List.append_assoc, List.append_assoc,
      skipFrames_blank (.inl rfl) i.blank_before, hskip _ _ _ (hrest.after_blank i.blank_after),
      skipFrames_blank (.inr (.inr (List.cons_ne_nil _ _))) i.blank_after]

theorem passed_item {i : Item} (h : Spells i.value i.text) (hi : Skipped i.text) :
    Passed .array i.chars := by
  obtain ⟨c, cs, hc, hstarts⟩ := h.starts
  refine ⟨⟨i.before, c, cs ++ i.after, ?_, i.blank_before, hstarts.solid, hstarts.inside.2.1⟩, ?_⟩
  · rw [Item.chars, hc, List.cons_append]
  · obtain ⟨k, hk, hskip⟩ := hi.spaced
    exact ⟨k, hk, fun fuel => hskip fuel .array⟩

/-- A member of an object is passed over with the blanks around it. -/
theorem passed_member {e : Labelled} (h : Skipped e.item.text) : Passed .object e.spaced := by
  refine ⟨⟨e.before, '"', _, rfl, e.blank_before, rfl, by decide⟩, ?_⟩
  obtain ⟨k, hk, hskip⟩ := h.spaced
  refine ⟨k + 1, ?_, fun fuel frames rest hrest => ?_⟩
  · simp only [Labelled.spaced, Labelled.chars, List.length_append, List.length_cons]
    omega
  · have hname := on_skipString e.name (e.between ++ ':' :: (e.item.chars ++ rest))
    -- the name, the colon, and the value
    have hmember : (skipFrames (fuel + (k + 1)) .member (.object :: frames)).on
        ('"' :: (closed e.name ++ (e.between ++ ':' :: (e.item.chars ++ rest)))) =
        (skipFrames (fuel + k) .value (.object :: frames)).on (e.item.chars ++ rest) := by
      rw [← Nat.add_assoc, skipFrames, on_upcoming_bind rfl]
      change (Read.advance >>= fun _ => skipString >>= _).on _ = _
      rw [Read.on_advance_bind, Read.on_bind hname, on_upcoming_blank e.blank_between,
        on_upcoming_bind rfl]
      rfl
    change (skipFrames (fuel + (k + 1)) .member (.object :: frames)).on _ = _
    rw [Labelled.spaced, List.append_assoc, skipFrames_blank (.inr (.inl rfl)) e.blank_before]
    simp only [Labelled.chars, List.cons_append, List.append_assoc] at hmember ⊢
    rw [hmember, hskip fuel .object frames rest hrest]

theorem skipped_number (n : Numeral) : Skipped n.chars := by
  have hlength : 1 ≤ n.chars.length := by
    obtain ⟨c, cs, hc, -⟩ := (Spells.number n).starts
    rw [hc]
    exact Nat.succ_pos _
  refine ⟨1, by omega, fun fuel frames rest h => ?_⟩
  have hnumber := on_skipNumber n h
  unfold Numeral.chars
  split
  · -- after the sign
    rw [List.cons_append, skipFrames, on_upcoming_bind rfl]
    change (Read.advance >>= fun _ => skipNumber >>= _).on _ = _
    rw [Read.on_advance_bind, Read.on_bind hnumber]
  · have hstarts := starts_digit n.whole.first_digit n
    have hhead : n.unsigned ++ rest = n.whole.first :: (n.whole.more ++ n.tail ++ rest) := rfl
    rw [skipFrames, hhead, on_upcoming_bind hstarts.solid, ← hhead]
    split
    case h_9 c _ _ _ _ _ _ _ hsome =>
      obtain rfl := Option.some.inj hsome
      rw [if_pos n.whole.first_digit, Read.on_bind hnumber]
    all_goals
      rename_i hsome
      first
        | contradiction
        | exact absurd n.whole.first_digit (by rw [Option.some.inj hsome]; decide)

/-- **Every value is passed over**, to its last character and no further. -/
theorem Spells.skipped {v : Tree} {text : List Char} (h : Spells v text) : Skipped text := by
  induction h with
  | null | yes | no => exact ⟨1, by decide, fun fuel frames rest _ => rfl⟩
  | number n => exact skipped_number n
  | text ps =>
      refine ⟨1, by simp; omega, fun fuel frames rest _ => ?_⟩
      rw [List.cons_append, skipFrames, on_upcoming_bind rfl]
      change (Read.advance >>= fun _ => skipString >>= _).on _ = _
      rw [Read.on_advance_bind, Read.on_bind (on_skipString ps rest)]
  | noItems inner blank => exact skipped_empty .array blank
  | noMembers inner blank => exact skipped_empty .object blank
  | items i is each ih =>
      have hpassed : ∀ cs ∈ i.chars :: is.map Item.chars, Passed .array cs := by
        intro cs hcs
        obtain ⟨j, hj, rfl⟩ := List.mem_map.1 (List.map_cons ▸ hcs)
        exact passed_item (each j hj) (ih j hj)
      have hskipped := skipped_frame hpassed
      rw [List.flatMap_map] at hskipped
      exact hskipped
  | members e es each ih =>
      have hpassed : ∀ cs ∈ e.spaced :: es.map Labelled.spaced, Passed .object cs := by
        intro cs hcs
        obtain ⟨j, hj, rfl⟩ := List.mem_map.1 (List.map_cons ▸ hcs)
        exact passed_member (ih j hj)
      have hskipped := skipped_frame hpassed
      rw [List.flatMap_map] at hskipped
      exact hskipped

/-- **A value of any depth is passed over exactly**, whatever follows it. -/
theorem on_skipValue {v : Tree} {text before rest : List Char} (h : Spells v text)
    (hb : Blank before) (hrest : Ends rest) :
    skipValue.on (before ++ (text ++ rest)) = .ok ((), rest) := by
  obtain ⟨k, hk, hskip⟩ := h.skipped
  unfold skipValue
  rw [Read.on_get_bind, skipFrames_blank (.inl rfl) hb]
  -- the fuel is enough for the value and for the end
  obtain ⟨fuel, hfuel⟩ : ∃ fuel, 3 * (before ++ (text ++ rest)).length + 3 = fuel + 1 + k :=
    ⟨3 * (before ++ (text ++ rest)).length + 2 - k, by simp only [List.length_append]; omega⟩
  rw [hfuel, hskip _ _ _ hrest]
  rfl

end Json

end Turnstile
