/-
**Addresses as keys.**

A caller is counted under the text of its address, so two callers share a quota just if the texts of
their addresses are the same.  That they are not is seen by reading: what is printed reads back as
what it was printed from.  The one step of printing that loses something on its face is the gap that
stands for a run of zero groups.  There is at most one gap, and eight groups in all, so the groups
around it tell how many zeros it stands for; the choice among several runs of zeros does not matter.

Neither does a key of a caller meet the counter of another one: counters end in a word with letters
that no address is written with, and neither is the key of the callers without an address.

Main definitions:

* `Address.IsLongest` — a longest run of zero groups, the first of equals;
* `Address.Written` — a character that addresses are written with.

Main results:

* `Address.isLongest_longestZeros` — the run that is left out is the longest one;
* `Address.dotted?_dotted`, `Address.eight?_groupsText` — what is printed reads back;
* `Address.text_injective` — **different addresses have different texts**;
* `Caller.addressKey_eq_iff` — callers have the same key just if they have the same address;
* `Caller.apart_addressKey` — **callers with different addresses share no physical key**.
-/

import Turnstile.Admission.Caller
import Turnstile.Proofs.Limiter.Visit

set_option relaxedAutoImplicit false
set_option autoImplicit false

namespace Turnstile

namespace Address

/-! ### Numbers -/

theorem hexValue?_digitChar : ∀ d < 16, hexValue? d.digitChar = some d := by decide

/-- The digits of a number in a base up to sixteen are hexadecimal digits. -/
theorem exists_of_mem_toDigits {base n : Nat} (hbase : 1 < base) (hmost : base ≤ 16) {c : Char}
    (h : c ∈ Nat.toDigits base n) : ∃ d < 16, c = d.digitChar := by
  induction n using Nat.strongRecOn with
  | ind n ih =>
      rw [Nat.toDigits_eq_if hbase] at h
      split at h
      · exact ⟨n, by omega, List.mem_singleton.1 h⟩
      · rcases List.mem_append.1 h with h | h
        · exact ih _ (Nat.div_lt_self (by omega) hbase) h
        · exact ⟨n % base, Nat.lt_of_lt_of_le (Nat.mod_lt _ (by omega)) hmost,
            List.mem_singleton.1 h⟩

/-- A number reads back from its digits. -/
theorem valueOf?_toDigits {base n : Nat} (hbase : 1 < base) (hmost : base ≤ 16) :
    valueOf? base (Nat.toDigits base n) = some n := by
  rw [valueOf?, if_neg (by simp [Nat.toDigits_ne_nil])]
  induction n using Nat.strongRecOn with
  | ind n ih =>
      rw [Nat.toDigits_eq_if hbase]
      split
      · rename_i hlt
        simp [hexValue?_digitChar n (by omega), hlt]
      · have hdigit : n % base < base := Nat.mod_lt _ (by omega)
        rw [List.foldlM_append, ih _ (Nat.div_lt_self (by omega) hbase)]
        simp [hexValue?_digitChar _ (Nat.lt_of_lt_of_le hdigit hmost), hdigit,
          Nat.div_add_mod']

theorem group?_toDigits {n : Nat} (h : n < 65536) : group? (Nat.toDigits 16 n) = some n := by
  have hlength : (Nat.toDigits 16 n).length ≤ 4 :=
    (Nat.length_toDigits_le_iff (by decide) (by decide)).2 h
  rw [group?, if_pos hlength, valueOf?_toDigits (by decide) (by decide)]

theorem byte?_toDigits : ∀ n < 256, byte? (Nat.toDigits 10 n) = some n := by decide +kernel

/-! ### Pieces -/

variable {separator : Char}

theorem pieces_of_not_mem {cs : List Char} (h : separator ∉ cs) : pieces separator cs = [cs] := by
  induction cs with
  | nil => rfl
  | cons c rest ih =>
      rw [List.mem_cons, not_or] at h
      rw [pieces, if_neg (Ne.symm h.1), ih h.2]

theorem pieces_append_cons {cs : List Char} (h : separator ∉ cs) (rest : List Char) :
    pieces separator (cs ++ separator :: rest) = cs :: pieces separator rest := by
  induction cs with
  | nil => rw [List.nil_append, pieces, if_pos rfl]
  | cons c cs ih =>
      rw [List.mem_cons, not_or] at h
      rw [List.cons_append, pieces, if_neg (Ne.symm h.1), ih h.2]

/-- What is joined by a separator that it does not contain falls into pieces again. -/
theorem pieces_joined {xs : List (List Char)} (hne : xs ≠ []) (h : ∀ x ∈ xs, separator ∉ x) :
    pieces separator (joined [separator] xs) = xs := by
  induction xs with
  | nil => exact absurd rfl hne
  | cons x rest ih =>
      obtain ⟨hx, hrest⟩ := List.forall_mem_cons.1 h
      cases rest with
      | nil => exact pieces_of_not_mem hx
      | cons y rest =>
          have hjoined : joined [separator] (x :: y :: rest) =
              x ++ separator :: joined [separator] (y :: rest) := by simp [joined]
          rw [hjoined, pieces_append_cons hx, ih (List.cons_ne_nil _ _) hrest]

/-- The characters of what is joined. -/
theorem mem_joined {xs : List (List Char)} {c : Char} (h : c ∈ joined [separator] xs) :
    c = separator ∨ ∃ x ∈ xs, c ∈ x := by
  induction xs with
  | nil => exact nomatch h
  | cons x rest ih =>
      cases rest with
      | nil => exact .inr ⟨x, List.mem_singleton_self x, h⟩
      | cons y rest =>
          rw [joined, List.mem_append, List.mem_append] at h
          · rcases h with (h | h) | h
            · exact .inr ⟨x, List.mem_cons_self, h⟩
            · exact .inl (List.mem_singleton.1 h)
            · exact (ih h).imp_right fun ⟨z, hz, hc⟩ => ⟨z, List.mem_cons_of_mem _ hz, hc⟩
          · exact List.cons_ne_nil _ _

/-- What is read piece by piece from printed pieces. -/
theorem mapM_map {α β : Type} {read : β → Option α} {print : α → β} {xs : List α}
    (h : ∀ x ∈ xs, read (print x) = some x) : (xs.map print).mapM read = some xs := by
  induction xs with
  | nil => rfl
  | cons x rest ih =>
      obtain ⟨hx, hrest⟩ := List.forall_mem_cons.1 h
      rw [List.map_cons, List.mapM_cons, hx, ih hrest]
      rfl

/-! ### Characters -/

/-- The characters of numbers that are joined: the separator and hexadecimal digits. -/
theorem mem_joined_toDigits {base : Nat} (hbase : 1 < base) (hmost : base ≤ 16) {ns : List Nat}
    {c : Char} (h : c ∈ joined [separator] (ns.map (Nat.toDigits base))) :
    c = separator ∨ ∃ d < 16, c = d.digitChar := by
  refine (mem_joined h).imp_right fun ⟨x, hx, hc⟩ => ?_
  obtain ⟨n, -, rfl⟩ := List.mem_map.1 hx
  exact exists_of_mem_toDigits hbase hmost hc

theorem digitChar_ne : ∀ d < 16, d.digitChar ≠ '.' ∧ d.digitChar ≠ ':' ∧ d.digitChar ≠ 'n' ∧
    d.digitChar ≠ 'r' := by decide

theorem dot_not_mem_toDigits {base : Nat} (hbase : 1 < base) (hmost : base ≤ 16) (n : Nat) :
    '.' ∉ Nat.toDigits base n := fun h =>
  have ⟨d, hd, heq⟩ := exists_of_mem_toDigits hbase hmost h
  (digitChar_ne d hd).1 heq.symm

theorem colon_not_mem_toDigits {base : Nat} (hbase : 1 < base) (hmost : base ≤ 16) (n : Nat) :
    ':' ∉ Nat.toDigits base n := fun h =>
  have ⟨d, hd, heq⟩ := exists_of_mem_toDigits hbase hmost h
  (digitChar_ne d hd).2.1 heq.symm

theorem dot_not_mem_colons (groups : List Nat) : '.' ∉ colons groups := fun h => by
  rcases mem_joined_toDigits (by decide) (by decide) h with h | ⟨d, hd, heq⟩
  · exact absurd h (by decide)
  · exact (digitChar_ne d hd).1 heq.symm

theorem colon_not_mem_dotted (bytes : List Nat) : ':' ∉ dotted bytes := fun h => by
  rcases mem_joined_toDigits (by decide) (by decide) h with h | ⟨d, hd, heq⟩
  · exact absurd h (by decide)
  · exact (digitChar_ne d hd).2.1 heq.symm

/-! ### Four bytes -/

/-- **Four bytes read back.** -/
theorem dotted?_dotted {bytes : List Nat} (hlength : bytes.length = 4) (h : ∀ b ∈ bytes, b < 256) :
    dotted? (dotted bytes) = some bytes := by
  have hne : bytes.map (Nat.toDigits 10) ≠ [] := by
    intro hnil
    rw [List.map_eq_nil_iff.1 hnil] at hlength
    exact nomatch hlength
  have hpieces : pieces '.' (dotted bytes) = bytes.map (Nat.toDigits 10) :=
    pieces_joined hne fun x hx => by
      obtain ⟨n, -, rfl⟩ := List.mem_map.1 hx
      exact dot_not_mem_toDigits (by decide) (by decide) n
  rw [dotted?, hpieces, mapM_map fun b hb => byte?_toDigits b (h b hb)]
  simp [hlength]

/-- A text without a dot is no four bytes. -/
theorem dotted?_of_not_mem {cs : List Char} (h : '.' ∉ cs) : dotted? cs = none := by
  rw [dotted?, pieces_of_not_mem h]
  cases hbyte : byte? cs <;> simp [hbyte]

/-! ### Groups -/

theorem colons_cons_cons (g g' : Nat) (groups : List Nat) :
    colons (g :: g' :: groups) = Nat.toDigits 16 g ++ ':' :: colons (g' :: groups) := by
  simp [colons, joined]

/-- Groups begin with a digit. -/
theorem exists_colons_cons (g : Nat) (groups : List Nat) :
    ∃ d < 16, ∃ rest, colons (g :: groups) = d.digitChar :: rest := by
  obtain ⟨c, cs, hdigits⟩ := List.exists_cons_of_ne_nil (Nat.toDigits_ne_nil (n := g) (b := 16))
  obtain ⟨d, hd, rfl⟩ : ∃ d < 16, c = d.digitChar :=
    exists_of_mem_toDigits (by decide) (by decide) (hdigits ▸ List.mem_cons_self)
  cases groups with
  | nil => exact ⟨d, hd, cs, hdigits⟩
  | cons g' groups => exact ⟨d, hd, _, by rw [colons_cons_cons, hdigits, List.cons_append]⟩

/-- Groups read back. -/
theorem groups?_colons {groups : List Nat} (h : ∀ g ∈ groups, g < 65536) :
    groups? (colons groups) = some groups := by
  cases groups with
  | nil => rfl
  | cons g rest =>
      have hpieces : pieces ':' (colons (g :: rest)) = (g :: rest).map (Nat.toDigits 16) :=
        pieces_joined (List.cons_ne_nil _ _) fun x hx => by
          obtain ⟨n, -, rfl⟩ := List.mem_map.1 hx
          exact colon_not_mem_toDigits (by decide) (by decide) n
      have hne : ¬ (colons (g :: rest)).isEmpty := by
        obtain ⟨d, -, cs, hcolons⟩ := exists_colons_cons g rest
        simp [hcolons]
      -- the last group has no dot, so it is not taken for four bytes
      have hlast : ((g :: rest).map (Nat.toDigits 16)).getLast?.bind dotted? = none := by
        rw [Option.bind_eq_none_iff]
        intro x hx
        obtain ⟨n, -, rfl⟩ := List.mem_map.1 (List.mem_of_getLast? hx)
        exact dotted?_of_not_mem (dot_not_mem_toDigits (by decide) (by decide) n)
      rw [groups?, if_neg hne, hpieces]
      simp only [hlast]
      exact mapM_map fun n hn => group?_toDigits (h n hn)

/-! ### The gap -/

/-- A character that does not begin a gap comes before it. -/
theorem cutAtGap?_cons {c : Char} {rest : List Char} (h : c = ':' → rest.head? ≠ some ':') :
    cutAtGap? (c :: rest) =
      (cutAtGap? rest).map fun (before, after) => (c :: before, after) := by
  rw [cutAtGap?]
  rintro cs ⟨rfl⟩ rfl
  exact h rfl rfl

theorem cutAtGap?_append {cs : List Char} (h : ':' ∉ cs) (rest : List Char) :
    cutAtGap? (cs ++ rest) =
      (cutAtGap? rest).map fun (before, after) => (cs ++ before, after) := by
  induction cs with
  | nil => cases hcut : cutAtGap? rest <;> simp [hcut]
  | cons c cs ih =>
      rw [List.mem_cons, not_or] at h
      rw [List.cons_append, cutAtGap?_cons fun hc => absurd hc.symm h.1, ih h.2, Option.map_map]
      rfl

/-- There is no gap among groups with colons between them. -/
theorem cutAtGap?_colons (groups : List Nat) (rest : List Char) :
    cutAtGap? (colons groups ++ rest) =
      (cutAtGap? rest).map fun (before, after) => (colons groups ++ before, after) := by
  induction groups with
  | nil => cases hcut : cutAtGap? rest <;> simp [colons, joined, hcut]
  | cons g groups ih =>
      have hdigits : ':' ∉ Nat.toDigits 16 g := colon_not_mem_toDigits (by decide) (by decide) g
      cases groups with
      | nil => exact cutAtGap?_append hdigits rest
      | cons g' groups =>
          -- a digit follows the colon
          have hhead : (colons (g' :: groups) ++ rest).head? ≠ some ':' := by
            obtain ⟨d, hd, cs, hcolons⟩ := exists_colons_cons g' groups
            rw [hcolons, List.cons_append, List.head?_cons]
            exact fun h => (digitChar_ne d hd).2.1 (Option.some.inj h)
          rw [colons_cons_cons, List.append_assoc, cutAtGap?_append hdigits, List.cons_append,
            cutAtGap?_cons fun _ => hhead, ih, Option.map_map, Option.map_map]
          simp [Function.comp_def]

/-! ### Runs of zeros -/

theorem eq_replicate_append {run : Nat} {groups : List Nat} (h : run ≤ leadingZeros groups) :
    groups = List.replicate run 0 ++ groups.drop run := by
  induction groups generalizing run with
  | nil =>
      obtain rfl : run = 0 := by simpa [leadingZeros] using h
      rfl
  | cons g rest ih =>
      cases run with
      | zero => rfl
      | succ run =>
          by_cases hg : g = 0
          · subst hg
            have hrest : run ≤ leadingZeros rest := by
              simpa [leadingZeros] using h
            rw [List.replicate_succ, List.cons_append, List.drop_succ_cons, ← ih hrest]
          · simp [leadingZeros, hg] at h

/-- A place and a length give the longest run of zero groups among those that begin before an end,
and the first of equals. -/
structure IsLongest (groups : List Nat) (stop : Nat) (best : Nat × Nat) : Prop where
  run : best.2 ≤ leadingZeros (groups.drop best.1)
  longest : ∀ i < stop, leadingZeros (groups.drop i) ≤ best.2
  first : ∀ i < best.1, leadingZeros (groups.drop i) < best.2

/-- **The run that is left out is the longest one**, the first of equals. -/
theorem isLongest_longestZeros (groups : List Nat) :
    IsLongest groups groups.length (longestZeros groups) := by
  unfold longestZeros
  induction groups.length with
  | zero => exact ⟨Nat.zero_le _, nofun, nofun⟩
  | succ stop ih =>
      rw [List.range_succ, List.foldl_append, List.foldl_cons, List.foldl_nil]
      generalize (List.range stop).foldl _ (0, 0) = best at ih ⊢
      by_cases hlonger : best.2 < leadingZeros (groups.drop stop)
      · simp only [hlonger, if_true]
        refine ⟨Nat.le_refl _, fun i hi => ?_, fun i hi => ?_⟩
        · rcases Nat.lt_succ_iff_lt_or_eq.1 hi with hi | rfl
          · exact Nat.le_trans (ih.longest i hi) (Nat.le_of_lt hlonger)
          · exact Nat.le_refl _
        · exact Nat.lt_of_le_of_lt (ih.longest i hi) hlonger
      · simp only [hlonger, if_false]
        refine ⟨ih.run, fun i hi => ?_, ih.first⟩
        rcases Nat.lt_succ_iff_lt_or_eq.1 hi with hi | rfl
        · exact ih.longest i hi
        · exact Nat.not_lt.1 hlonger

/-- Groups are what stands before their longest run of zeros, the run, and what comes after it. -/
theorem eq_around_longestZeros (groups : List Nat) :
    groups = groups.take (longestZeros groups).1 ++ List.replicate (longestZeros groups).2 0 ++
      groups.drop ((longestZeros groups).1 + (longestZeros groups).2) := by
  have hrun := eq_replicate_append (isLongest_longestZeros groups).run
  rw [List.drop_drop] at hrun
  rw [List.append_assoc, ← hrun, List.take_append_drop]

/-- Eight groups read back from a text with a gap. -/
theorem eight?_compressed {groups : List Nat} (hlength : groups.length = 8)
    (h : ∀ g ∈ groups, g < 65536) : eight? (compressed groups) = some groups := by
  have haround := eq_around_longestZeros groups
  unfold compressed
  generalize longestZeros groups = place at haround ⊢
  obtain ⟨start, run⟩ := place
  simp only at haround ⊢
  split
  · rename_i hrun
    have hcut : cutAtGap? (colons (groups.take start) ++ [':', ':'] ++
        colons (groups.drop (start + run))) =
          some (colons (groups.take start), colons (groups.drop (start + run))) := by
      rw [List.append_assoc, cutAtGap?_colons]
      simp [cutAtGap?]
    have hfront : groups? (colons (groups.take start)) = some (groups.take start) :=
      groups?_colons fun g hg => h g (List.mem_of_mem_take hg)
    have hback : groups? (colons (groups.drop (start + run))) = some (groups.drop (start + run)) :=
      groups?_colons fun g hg => h g (List.mem_of_mem_drop hg)
    have hdot : (colons (groups.take start)).contains '.' = false := by
      simpa using dot_not_mem_colons (groups.take start)
    -- the lengths of what is around the gap tell how many zeros it stands for
    have hsum := congrArg List.length haround
    simp only [List.length_append, List.length_replicate, hlength] at hsum
    have hzeros : 8 - (groups.take start).length - (groups.drop (start + run)).length = run := by
      omega
    rw [eight?, hcut]
    simp only [hfront, hback, hdot, hzeros, Option.bind_eq_bind, Option.bind_some,
      Bool.false_eq_true, if_false, ← haround]
    rw [if_pos (by omega)]
  · have hcut : cutAtGap? (colons groups) = none := by
      simpa [cutAtGap?] using cutAtGap?_colons groups []
    rw [eight?, hcut]
    simp [groups?_colons h, hlength]

/-- A four-byte address in sixteen bytes reads back from its own text. -/
theorem eight?_mapped {high low : Nat} (hhigh : high < 65536) (hlow : low < 65536) :
    eight? ("::ffff:".toList ++ dotted [high / 256, high % 256, low / 256, low % 256]) =
      some [0, 0, 0, 0, 0, 0xffff, high, low] := by
  have hbytes : dotted? (dotted [high / 256, high % 256, low / 256, low % 256]) =
      some [high / 256, high % 256, low / 256, low % 256] :=
    dotted?_dotted rfl (by simp only [List.forall_mem_cons, List.not_mem_nil, false_implies,
      implies_true, and_true]; omega)
  have hcolon := colon_not_mem_dotted [high / 256, high % 256, low / 256, low % 256]
  generalize dotted [high / 256, high % 256, low / 256, low % 256] = text at hbytes hcolon ⊢
  have hcut : cutAtGap? ("::ffff:".toList ++ text) = some ([], "ffff".toList ++ ':' :: text) := rfl
  have hpieces : pieces ':' ("ffff".toList ++ ':' :: text) = ["ffff".toList, text] := by
    rw [pieces_append_cons (by decide), pieces_of_not_mem hcolon]
  have hprefix : ["ffff".toList].mapM group? = some [0xffff] := by decide
  have hback : groups? ("ffff".toList ++ ':' :: text) = some [0xffff, high, low] := by
    rw [groups?, if_neg (by simp), hpieces]
    have hlast : ["ffff".toList, text].getLast?.bind dotted? =
        some [high / 256, high % 256, low / 256, low % 256] := hbytes
    simp only [hlast, List.dropLast_cons_cons, List.dropLast_singleton, hprefix, Nat.div_add_mod',
      Option.bind_eq_bind, Option.bind_some, List.cons_append, List.nil_append]
  have hfront : groups? [] = some [] := rfl
  rw [eight?, hcut]
  simp only [hfront, hback, Option.bind_eq_bind, Option.bind_some]
  rfl

/-- **Eight groups read back.** -/
theorem eight?_groupsText {groups : List Nat} (hlength : groups.length = 8)
    (h : ∀ g ∈ groups, g < 65536) : eight? (groupsText groups) = some groups := by
  unfold groupsText
  split
  · exact eight?_mapped (h _ (by simp)) (h _ (by simp))
  · exact eight?_compressed hlength h

/-! ### Texts of addresses -/

/-- The text of eight groups has a colon. -/
theorem colon_mem_groupsText {groups : List Nat} (hlength : groups.length = 8) :
    ':' ∈ groupsText groups := by
  unfold groupsText
  split
  · simp
  · unfold compressed
    simp only
    split
    · simp
    · obtain ⟨g, g', rest, rfl⟩ : ∃ g g' rest, groups = g :: g' :: rest := by
        match groups, hlength with
        | g :: g' :: rest, _ => exact ⟨g, g', rest, rfl⟩
      rw [colons_cons_cons]
      simp

/-- A character that addresses are written with: a dot, a colon or a hexadecimal digit. -/
def Written (c : Char) : Prop := c = '.' ∨ c = ':' ∨ ∃ d < 16, c = d.digitChar

theorem Written.ne {c : Char} (h : Written c) : c ≠ 'n' ∧ c ≠ 'r' := by
  rcases h with rfl | rfl | ⟨d, hd, rfl⟩
  · decide
  · decide
  · exact ⟨(digitChar_ne d hd).2.2.1, (digitChar_ne d hd).2.2.2⟩

theorem written_of_mem_dotted {bytes : List Nat} {c : Char} (h : c ∈ dotted bytes) : Written c :=
  (mem_joined_toDigits (by decide) (by decide) h).imp_right .inr

theorem written_of_mem_colons {groups : List Nat} {c : Char} (h : c ∈ colons groups) : Written c :=
  .inr (mem_joined_toDigits (by decide) (by decide) h)

theorem written_of_mem_groupsText {groups : List Nat} {c : Char} (h : c ∈ groupsText groups) :
    Written c := by
  unfold groupsText at h
  split at h
  · rcases List.mem_append.1 h with h | h
    · have hletters : c ∈ [':', ':', 'f', 'f', 'f', 'f', ':'] := h
      obtain rfl | rfl | rfl : c = ':' ∨ c = 'f' ∨ c = ':' := by simpa using hletters
      · exact .inr (.inl rfl)
      · exact .inr (.inr ⟨15, by decide, rfl⟩)
      · exact .inr (.inl rfl)
    · exact written_of_mem_dotted h
  · unfold compressed at h
    simp only at h
    split at h
    · rcases List.mem_append.1 h with h | h
      · rcases List.mem_append.1 h with h | h
        · exact written_of_mem_colons h
        · obtain rfl : c = ':' := by simpa using h
          exact .inr (.inl rfl)
      · exact written_of_mem_colons h
    · exact written_of_mem_colons h

theorem written_of_mem_text {a : Address} {c : Char} (h : c ∈ a.text.toList) : Written c := by
  cases a with
  | v4 a b c d => exact written_of_mem_dotted (String.toList_ofList ▸ h)
  | v6 groups => exact written_of_mem_groupsText (String.toList_ofList ▸ h)

/-- The bytes of an address read back. -/
theorem dotted?_toNat (a b c d : UInt8) :
    dotted? (dotted [a.toNat, b.toNat, c.toNat, d.toNat]) =
      some [a.toNat, b.toNat, c.toNat, d.toNat] := by
  refine dotted?_dotted rfl ?_
  simp only [List.forall_mem_cons, List.not_mem_nil, false_implies, implies_true, and_true]
  exact ⟨a.toNat_lt, b.toNat_lt, c.toNat_lt, d.toNat_lt⟩

theorem length_toNat (groups : Vector UInt16 8) :
    (groups.toList.map UInt16.toNat).length = 8 := by
  simp

/-- The groups of an address read back. -/
theorem eight?_toNat (groups : Vector UInt16 8) :
    eight? (groupsText (groups.toList.map UInt16.toNat)) =
      some (groups.toList.map UInt16.toNat) := by
  refine eight?_groupsText (length_toNat groups) fun g hg => ?_
  obtain ⟨w, -, rfl⟩ := List.mem_map.1 hg
  exact w.toNat_lt

/-- **Different addresses have different texts.** -/
theorem text_injective : Function.Injective text := by
  intro x y h
  cases x with
  | v4 a b c d =>
      cases y with
      | v4 a' b' c' d' =>
          have hread := congrArg dotted? (String.ofList_injective h)
          rw [dotted?_toNat, dotted?_toNat] at hread
          simp only [Option.some.injEq, List.cons.injEq, UInt8.toNat_inj, and_true] at hread
          obtain ⟨rfl, rfl, rfl, rfl⟩ := hread
          rfl
      | v6 groups =>
          exact absurd (String.ofList_injective h ▸ colon_mem_groupsText (length_toNat groups))
            (colon_not_mem_dotted _)
  | v6 groups =>
      cases y with
      | v4 a b c d =>
          exact absurd (String.ofList_injective h ▸ colon_mem_groupsText (length_toNat groups))
            (colon_not_mem_dotted _)
      | v6 groups' =>
          have hread := congrArg eight? (String.ofList_injective h)
          rw [eight?_toNat, eight?_toNat, Option.some.injEq] at hread
          have hgroups := (List.map_inj_right fun _ _ => UInt16.toNat_inj.1).1 hread
          rw [Vector.toList_inj.1 hgroups]

end Address

/-! ### Keys by address -/

namespace Caller

/-- No key by address has the letter with which the counter keys end. -/
theorem r_not_mem_addressKey (c : Caller) : 'r' ∉ c.addressKey.toList := by
  unfold addressKey
  cases c.address with
  | some a => exact fun h => (Address.written_of_mem_text h).ne.2 rfl
  | none => decide

/-- No address has the text that stands for no address. -/
theorem text_ne_unknownKey (a : Address) : a.text ≠ unknownKey := by
  intro h
  have hn : 'n' ∈ a.text.toList := by
    rw [h]
    decide
  exact (Address.written_of_mem_text hn).ne.1 rfl

/-- **Callers have the same key just if they have the same address**, or none. -/
theorem addressKey_eq_iff {c c' : Caller} :
    c.addressKey = c'.addressKey ↔ c.address = c'.address := by
  refine ⟨fun h => ?_, fun h => by simp only [addressKey, h]⟩
  unfold addressKey at h
  cases haddress : c.address with
  | some a =>
      cases haddress' : c'.address with
      | some a' =>
          simp only [haddress, haddress'] at h
          rw [Address.text_injective h]
      | none =>
          simp only [haddress, haddress'] at h
          exact absurd h (text_ne_unknownKey a)
  | none =>
      cases haddress' : c'.address with
      | some a' =>
          simp only [haddress, haddress'] at h
          exact absurd h.symm (text_ne_unknownKey a')
      | none => rfl

theorem addressKey_ne_counterKey (c : Caller) (key : String) :
    c.addressKey ≠ SlidingScript.counterKey key := by
  intro h
  have hr : 'r' ∈ (SlidingScript.counterKey key).toList := by
    rw [SlidingScript.counterKey, String.toList_append, List.mem_append]
    exact .inr (by decide)
  exact c.r_not_mem_addressKey (h ▸ hr)

/-- **Callers with different addresses share no physical key.** -/
theorem apart_addressKey {c c' : Caller} (h : c.address ≠ c'.address) :
    Apart c.addressKey c'.addressKey :=
  ⟨fun heq => h (addressKey_eq_iff.1 heq), c.addressKey_ne_counterKey _,
    c'.addressKey_ne_counterKey _⟩

end Caller

end Turnstile
