/-
**Arguments in text.**

A remote store gets the arguments of a script as texts, a store in memory gets them as they are, and
both are to decide alike.  So a text has to read as an integer exactly where it denotes one.  It may
have white space at its ends and a sign in front, and its digits are decimal; a number that is no
signed 64-bit word is none.  What is printed of a word reads back as that word, also at the least
one, whose sign makes the difference between a word and none.  Then it is all the same to the script
whether an integer comes as such or as its text: it reads the same four integers, or it finds fault
with the same argument.

Main definitions:

* `Text.whiteSpace` — the code points of white space;
* `Text.Writes` — characters write an integer in decimal;
* `ScriptArg.Respelled` — an integer argument as its text, or an argument as it is.

Main results:

* `Text.isBlank_iff` — the blank characters are those of white space;
* `Text.signed?_eq_some_iff` — characters are read as what they write;
* `Text.readInteger?_eq_some_iff` — **which texts are read as integers**;
* `Text.readInteger?_toString` — a word reads back from its text;
* `SlidingScript.native_respelled` — the script does the same;
* `ScriptArg.text_is_integer` — **texts of arguments are as good as integers**.
-/

import Mathlib.Algebra.Ring.Int.Defs
import Mathlib.Data.List.DropRight
import Turnstile.Limiter.Script
import Turnstile.Remote.Server

set_option relaxedAutoImplicit false
set_option autoImplicit false

namespace Turnstile

namespace Text

variable {cs ds : List Char} {v : Int}

/-! ### White space -/

/-- The code points with the property `White_Space`. -/
def whiteSpace : List Nat :=
  [0x09, 0x0A, 0x0B, 0x0C, 0x0D, 0x20, 0x85, 0xA0, 0x1680, 0x2000, 0x2001, 0x2002, 0x2003, 0x2004,
    0x2005, 0x2006, 0x2007, 0x2008, 0x2009, 0x200A, 0x2028, 0x2029, 0x202F, 0x205F, 0x3000]

/-- The blank characters are those of white space. -/
theorem isBlank_iff (c : Char) : isBlank c = true ↔ c.toNat ∈ whiteSpace := by
  simp only [isBlank, whiteSpace, Bool.or_eq_true, Bool.and_eq_true, decide_eq_true_eq, beq_iff_eq,
    List.mem_cons, List.not_mem_nil, or_false]
  omega

/-- What is left of a text stands between blanks. -/
theorem exists_around_trimBlank (cs : List Char) : ∃ before after,
    cs = before ++ trimBlank cs ++ after ∧ ∀ c ∈ before ++ after, isBlank c = true := by
  refine ⟨cs.takeWhile isBlank, (cs.dropWhile isBlank).rtakeWhile isBlank, ?_, fun c hc => ?_⟩
  · have hback : trimBlank cs ++ (cs.dropWhile isBlank).rtakeWhile isBlank =
        cs.dropWhile isBlank := by
      rw [trimBlank, List.rtakeWhile, ← List.reverse_append, List.takeWhile_append_dropWhile,
        List.reverse_reverse]
    rw [List.append_assoc, hback, List.takeWhile_append_dropWhile]
  · rcases List.mem_append.1 hc with hbefore | hafter
    · exact List.mem_takeWhile_imp hbefore
    · exact List.mem_rtakeWhile_imp hafter

/-- Blanks at the ends of a text without blanks are taken off. -/
theorem trimBlank_append {before body after : List Char}
    (hblank : ∀ c ∈ before ++ after, isBlank c = true) (hbody : ∀ c ∈ body, isBlank c = false) :
    trimBlank (before ++ body ++ after) = body := by
  have hbefore : ∀ c ∈ before, isBlank c = true := fun c hc =>
    hblank c (List.mem_append_left _ hc)
  have hafter : ∀ c ∈ after, isBlank c = true := fun c hc => hblank c (List.mem_append_right _ hc)
  cases body with
  | nil =>
      rw [trimBlank, List.append_nil, List.dropWhile_eq_nil_iff.2 hblank]
      rfl
  | cons first rest =>
      have hfirst : (first :: rest ++ after).dropWhile isBlank = first :: rest ++ after := by
        rw [List.cons_append, List.dropWhile_cons_of_neg (by simp [hbody])]
      have hlast : (first :: rest).reverse.dropWhile isBlank = (first :: rest).reverse := by
        obtain ⟨c, cs, hcs⟩ := List.exists_cons_of_ne_nil
          (List.reverse_ne_nil_iff.2 (List.cons_ne_nil first rest))
        have hc : c ∈ first :: rest := List.mem_reverse.1 (hcs ▸ List.mem_cons_self)
        rw [hcs, List.dropWhile_cons_of_neg (by simp [hbody c hc])]
      rw [trimBlank, List.append_assoc, List.dropWhile_append_of_pos hbefore, hfirst,
        List.reverse_append, List.dropWhile_append_of_pos fun c hc => hafter c (List.mem_reverse.1 hc),
        hlast, List.reverse_reverse]

/-! ### Decimal numbers -/

/-- One or more decimal digits. -/
def IsDigits (ds : List Char) : Prop := ds ≠ [] ∧ ∀ c ∈ ds, c.isDigit = true

/-- Characters write an integer in decimal: a sign or none, then one or more digits. -/
inductive Writes : List Char → Int → Prop
  | unsigned {ds : List Char} (digits : IsDigits ds) : Writes ds (Nat.ofDigitChars 10 ds 0 : Nat)
  | plus {ds : List Char} (digits : IsDigits ds) :
      Writes ('+' :: ds) (Nat.ofDigitChars 10 ds 0 : Nat)
  | minus {ds : List Char} (digits : IsDigits ds) :
      Writes ('-' :: ds) (-(Nat.ofDigitChars 10 ds 0 : Nat))

theorem digitsValue?_eq_some_iff {acc n : Nat} :
    digitsValue? acc cs = some n ↔
      (∀ c ∈ cs, c.isDigit = true) ∧ Nat.ofDigitChars 10 cs acc = n := by
  induction cs generalizing acc with
  | nil => simp [digitsValue?, Nat.ofDigitChars]
  | cons c cs ih =>
      rw [digitsValue?, List.forall_mem_cons, Nat.ofDigitChars_cons, Nat.mul_comm 10]
      by_cases hc : c.isDigit = true
      · rw [if_pos hc, ih, and_iff_right hc]
      · simp [hc]

theorem natural?_eq_some_iff {n : Nat} :
    natural? ds = some n ↔ IsDigits ds ∧ Nat.ofDigitChars 10 ds 0 = n := by
  cases ds with
  | nil => simp [natural?, IsDigits]
  | cons d ds =>
      have hne : d :: ds ≠ [] := List.cons_ne_nil d ds
      rw [natural?, digitsValue?_eq_some_iff, IsDigits, and_iff_right hne]
      exact nofun

/-- A number of digits, with its sign. -/
theorem map_natural?_eq_some_iff (sign : Int → Int) :
    ((natural? ds >>= fun n => pure (n : Int)).map sign = some v) ↔
      IsDigits ds ∧ sign (Nat.ofDigitChars 10 ds 0 : Nat) = v := by
  cases hn : natural? ds with
  | none =>
      have hdigits : ¬ IsDigits ds := fun h => by
        rw [natural?_eq_some_iff.2 ⟨h, rfl⟩] at hn
        exact nomatch hn
      simp [hdigits]
  | some n =>
      obtain ⟨hdigits, rfl⟩ := natural?_eq_some_iff.1 hn
      simp [hdigits]

/-- **Characters are read as what they write.** -/
theorem signed?_eq_some_iff : signed? cs = some v ↔ Writes cs v := by
  constructor
  · intro h
    unfold signed? at h
    split at h <;> obtain ⟨hdigits, rfl⟩ := (map_natural?_eq_some_iff _).1 h
    · exact .minus hdigits
    · exact .plus hdigits
    · exact .unsigned hdigits
  · intro h
    unfold signed?
    cases h with
    | plus hdigits | minus hdigits => exact (map_natural?_eq_some_iff _).2 ⟨hdigits, rfl⟩
    | unsigned hdigits =>
        -- no sign is a digit
        split
        · exact absurd (hdigits.2 '-' List.mem_cons_self) (by decide)
        · exact absurd (hdigits.2 '+' List.mem_cons_self) (by decide)
        · exact (map_natural?_eq_some_iff _).2 ⟨hdigits, rfl⟩

/-- No digit is white space. -/
theorem isBlank_of_isDigit {c : Char} (h : c.isDigit = true) : isBlank c = false := by
  have haround : ∀ n ∈ whiteSpace, n < '0'.toNat ∨ '9'.toNat < n := by decide
  rw [Char.isDigit_iff_toNat] at h
  rw [Bool.eq_false_iff, ne_eq, isBlank_iff]
  intro hblank
  have hplace := haround _ hblank
  omega

/-- What writes an integer has no blanks. -/
theorem Writes.isBlank_eq_false (h : Writes cs v) : ∀ c ∈ cs, isBlank c = false := by
  intro c hc
  cases h with
  | unsigned hdigits => exact isBlank_of_isDigit (hdigits.2 c hc)
  | plus hdigits | minus hdigits =>
      rcases List.mem_cons.1 hc with rfl | hc
      · decide
      · exact isBlank_of_isDigit (hdigits.2 c hc)

/-! ### Texts -/

/-- **Which texts are read as integers**: those that write a word between white space. -/
theorem readInteger?_eq_some_iff {s : String} :
    readInteger? s = some v ↔ (∃ before body after, s.toList = before ++ body ++ after ∧
      (∀ c ∈ before ++ after, c.toNat ∈ whiteSpace) ∧ Writes body v) ∧ fitsWord v = true := by
  have hread : readInteger? s = some v ↔ signed? (trimBlank s.toList) = some v ∧
      fitsWord v = true := by
    unfold readInteger?
    cases signed? (trimBlank s.toList) with
    | none => simp
    | some w =>
        by_cases hw : fitsWord w = true
        · simp only [hw, if_true, Option.some.injEq]
          exact ⟨fun h => ⟨h, h ▸ hw⟩, fun h => h.1⟩
        · simp only [hw, Bool.false_eq_true, if_false, Option.some.injEq]
          exact ⟨nofun, fun h => absurd (h.1 ▸ h.2) hw⟩
  rw [hread, signed?_eq_some_iff]
  refine and_congr_left fun _ => ⟨fun h => ?_, fun ⟨before, body, after, htext, hblank, h⟩ => ?_⟩
  · obtain ⟨before, after, htext, hblank⟩ := exists_around_trimBlank s.toList
    exact ⟨before, _, after, htext, fun c hc => (isBlank_iff c).1 (hblank c hc), h⟩
  · rw [htext, trimBlank_append (fun c hc => (isBlank_iff c).2 (hblank c hc)) h.isBlank_eq_false]
    exact h

theorem isDigits_toDigits (n : Nat) : IsDigits (Nat.toDigits 10 n) :=
  ⟨Nat.toDigits_ne_nil, fun _ hc => Nat.isDigit_of_mem_toDigits (by decide) (by decide) hc⟩

/-- The text of an integer writes it. -/
theorem writes_toString (v : Int) : Writes (toString v).toList v := by
  cases v with
  | ofNat n =>
      have htext : (toString (Int.ofNat n)).toList = Nat.toDigits 10 n := String.toList_ofList
      have hwrites := Writes.unsigned (isDigits_toDigits n)
      rw [Nat.ofDigitChars_ten_toDigits] at hwrites
      exact htext ▸ hwrites
  | negSucc n =>
      have htext : (toString (Int.negSucc n)).toList = '-' :: Nat.toDigits 10 (n + 1) := by
        rw [Int.toString_eq_repr, Int.repr, String.toList_append]
        exact congrArg _ String.toList_ofList
      have hwrites := Writes.minus (isDigits_toDigits (n + 1))
      rw [Nat.ofDigitChars_ten_toDigits] at hwrites
      exact htext ▸ hwrites

/-- A word reads back from its text. -/
theorem readInteger?_toString (h : fitsWord v = true) : readInteger? (toString v) = some v :=
  readInteger?_eq_some_iff.2 ⟨⟨[], _, [], by simp, by simp, writes_toString v⟩, h⟩

end Text

/-! ### Arguments -/

namespace ScriptArg

variable {a a' : ScriptArg} {args args' : List ScriptArg}

/-- An argument as it is, or an integer as the text in which it travels. -/
inductive Respelled : ScriptArg → ScriptArg → Prop
  | same (a : ScriptArg) : Respelled a a
  | printed (v : Int) : Respelled (.int v) (.str (ScriptArg.int v).text)

/-- The integers among arguments are words. -/
def OnWords (args : List ScriptArg) : Prop := ∀ v, .int v ∈ args → Text.fitsWord v = true

theorem Respelled.integer?_eq (h : Respelled a a') (hword : OnWords [a]) :
    a'.integer? = a.integer? := by
  cases h with
  | same => rfl
  | printed v => exact Text.readInteger?_toString (hword v (List.mem_singleton_self _))

/-- An argument travels in the same form. -/
theorem Respelled.text_eq (h : Respelled a a') : a'.text = a.text := by
  cases h <;> rfl

theorem map_integer?_respelled (h : List.Forall₂ Respelled args args') (hwords : OnWords args) :
    args'.map integer? = args.map integer? := by
  induction h with
  | nil => rfl
  | @cons a a' args args' ha _ ih =>
      have hfirst : OnWords [a] := fun v hv =>
        hwords v (List.mem_singleton.1 hv ▸ List.mem_cons_self)
      have hrest : OnWords args := fun v hv => hwords v (List.mem_cons_of_mem _ hv)
      rw [List.map_cons, List.map_cons, ha.integer?_eq hfirst, ih hrest]

theorem map_text_respelled (h : List.Forall₂ Respelled args args') :
    args'.map text = args.map text := by
  induction h with
  | nil => rfl
  | cons ha _ ih => rw [List.map_cons, List.map_cons, ha.text_eq, ih]

end ScriptArg

namespace SlidingScript

variable {args args' : List ScriptArg}

/-- What is read at a place is the integer view of the argument there, and nothing else. -/
theorem integerAt_congr (h : args'.map ScriptArg.integer? = args.map ScriptArg.integer?) (i : Nat)
    (name : String) : integerAt args' i name = integerAt args i name := by
  have hjoin (args : List ScriptArg) :
      args[i]?.bind ScriptArg.integer? = (args.map ScriptArg.integer?)[i]?.join := by
    rw [List.getElem?_map]
    cases args[i]? <;> rfl
  rw [integerAt, integerAt, hjoin, hjoin, h]

/-- **The script does the same** when integers are respelled. -/
theorem native_respelled (h : List.Forall₂ ScriptArg.Respelled args args')
    (hwords : ScriptArg.OnWords args) (clock : Nat) (keys : List String) :
    native clock keys args' = native clock keys args := by
  have hread := integerAt_congr (ScriptArg.map_integer?_respelled h hwords)
  match keys with
  | [] | [_] => rfl
  | eventKey :: counterKey :: _ => simp only [native, hread]

end SlidingScript

/-- A guard does not look at what it guards. -/
theorem MemoryStore.guarded_congr {α : Type}
    {act act' : MemoryStore → Except StoreError α × MemoryStore} {s : MemoryStore}
    (h : act s = act' s) (call : Call) : guarded call act s = guarded call act' s := by
  unfold guarded
  rw [h]

namespace ScriptArg

open SlidingScript (script native)

/-- **Texts of arguments are as good as integers.**  A text reads as an integer just if, white space
at its ends aside, it is a sign or none and one or more decimal digits that denote this integer, and
the integer is a signed 64-bit word.  So every word reads back from its text.  Let any integers among
the arguments of the script be given as texts: then a store in memory, whatever it holds and in
whatever state it is, gives the same reply and is left the same, and a remote one is sent the same
command. -/
theorem text_is_integer :
    (∀ (s : String) (v : Int), (ScriptArg.str s).integer? = some v ↔
      (∃ before body after, s.toList = before ++ body ++ after ∧
        (∀ c ∈ before ++ after, c.toNat ∈ Text.whiteSpace) ∧ Text.Writes body v) ∧
      -2 ^ 63 ≤ v ∧ v ≤ 2 ^ 63 - 1) ∧
    (∀ v : Int, -2 ^ 63 ≤ v → v ≤ 2 ^ 63 - 1 →
      (ScriptArg.str (ScriptArg.int v).text).integer? = some v) ∧
    ∀ args args' : List ScriptArg, List.Forall₂ Respelled args args' →
      (∀ v, .int v ∈ args → -2 ^ 63 ≤ v ∧ v ≤ 2 ^ 63 - 1) →
      (∀ s : MemoryStore, s.native? script.name = some native → ∀ call keys,
        s.eval call script keys args' = s.eval call script keys args) ∧
      ∀ source keys, Server.runCommand source keys args' = Server.runCommand source keys args := by
  have hword (v : Int) : Text.fitsWord v = true ↔ -2 ^ 63 ≤ v ∧ v ≤ 2 ^ 63 - 1 := by
    rw [Text.fitsWord_iff]
    unfold Text.minInt Text.maxInt
    omega
  refine ⟨fun s v => ?_, fun v hleast hmost => ?_, fun args args' h hwords => ⟨?_, ?_⟩⟩
  · rw [← hword]
    exact Text.readInteger?_eq_some_iff
  · exact Text.readInteger?_toString ((hword v).2 ⟨hleast, hmost⟩)
  · intro s hscript call keys
    have hnative := SlidingScript.native_respelled h fun v hv => (hword v).2 (hwords v hv)
    refine MemoryStore.guarded_congr ?_ call
    simp only [hscript, hnative]
  · intro source keys
    rw [Server.runCommand, Server.runCommand, map_text_respelled h]

/-- The least word reads back, and a call with three of its integers in text is admitted. -/
theorem text_is_integer_three_texts :
    (ScriptArg.str (ScriptArg.int (-2 ^ 63)).text).integer? = some (-2 ^ 63) ∧
    (MemoryStore.initial.eval ⟨none, 1000⟩ script (SlidingScript.keys "k")
        [.str "1000", .int 60000, .str "5", .str "5"]).1 = .ok (.replied (.int 1)) ∧
    Server.runCommand SlidingScript.source (SlidingScript.keys "k")
        [.str "1000", .int 60000, .str "5", .str "5"] =
      Server.runCommand SlidingScript.source (SlidingScript.keys "k")
        [.int 1000, .int 60000, .int 5, .int 5] := by
  have hrespelled : List.Forall₂ Respelled [.int 1000, .int 60000, .int 5, .int 5]
      [.str "1000", .int 60000, .str "5", .str "5"] :=
    .cons (.printed 1000) (.cons (.same _) (.cons (.printed 5) (.cons (.printed 5) .nil)))
  have hwords : ∀ v : Int, ScriptArg.int v ∈ [.int 1000, .int 60000, .int 5, .int 5] →
      -2 ^ 63 ≤ v ∧ v ≤ 2 ^ 63 - 1 := by
    intro v hv
    simp only [List.mem_cons, ScriptArg.int.injEq, List.not_mem_nil, or_false] at hv
    omega
  obtain ⟨hstore, hremote⟩ := text_is_integer.2.2 _ _ hrespelled hwords
  refine ⟨text_is_integer.2.1 _ (by decide) (by decide), ?_, hremote _ _⟩
  rw [hstore .initial rfl]
  with_unfolding_all rfl

end ScriptArg

end Turnstile
