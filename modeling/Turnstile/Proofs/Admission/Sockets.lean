/-
**Callers behind sockets.**

A request comes in from a socket, which is an address with a port, and in sixteen bytes a flow label
and a scope besides.  Its key is the text of the address alone.  The socket tells its address with
the port and the scope around it, in brackets where the address has colons of its own, and what is
read there is the address again.  So two requests have the same key exactly if their sockets have the
same address, whatever else the sockets have; no key is the one of requests without an address, and
none is the counter key of any other.  In particular a four-byte address and the sixteen-byte one
that holds it are two callers, though the text of one ends in the text of the other.

Main definitions:

* `Socket`, `Socket.address`, `Socket.text` — sockets, their addresses and their texts;
* `Caller.behind` — who makes a request that comes in from a socket;
* `Address.mapped` — the sixteen-byte address that holds a four-byte one.

Main results:

* `Address.text_mapped` — the text of an address that holds a four-byte one;
* `Socket.ofSocket?_text` — **the text of a socket is read as its address**;
* `Caller.addressKey_mapped` — a four-byte address and the one that holds it have two keys;
* `Caller.addressKey_behind` — **requests have the same key just if they come from the same address**.
-/

import Turnstile.Proofs.Admission.AddressText

set_option relaxedAutoImplicit false
set_option autoImplicit false

namespace Turnstile

/-! ### Sockets -/

/-- Where a request comes from: an address and a port, and with a sixteen-byte address a flow label
and a scope. -/
inductive Socket
  | v4 (a b c d : UInt8) (port : UInt16)
  | v6 (groups : Vector UInt16 8) (port : UInt16) (flow scope : UInt32)

namespace Socket

/-- The address of a socket. -/
def address : Socket → Address
  | .v4 a b c d _ => .v4 a b c d
  | .v6 groups _ _ _ => .v6 groups

/-- A scope in the text of a socket; the scope zero is not written. -/
def scopeText (scope : UInt32) : List Char :=
  if scope = 0 then [] else '%' :: Nat.toDigits 10 scope.toNat

/-- The text of a socket.  It does not show the flow label. -/
def text : Socket → String
  | .v4 a b c d port => String.ofList
      (Address.dotted [a.toNat, b.toNat, c.toNat, d.toNat] ++ ':' :: Nat.toDigits 10 port.toNat)
  | .v6 groups port _ scope => String.ofList
      ('[' :: (Address.groupsText (groups.toList.map UInt16.toNat) ++ scopeText scope) ++
        ']' :: ':' :: Nat.toDigits 10 port.toNat)

end Socket

namespace Address

/-! ### Parts of a text -/

theorem forall_mem_ne_mark {mark : Char} {cs : List Char} (h : mark ∉ cs) :
    ∀ c ∈ cs, (c != mark) = true := fun c hc => by
  rw [bne_iff_ne]
  rintro rfl
  exact h hc

/-- A text up to the first occurrence of a mark, and from there on. -/
theorem cut_at_mark {mark : Char} {cs : List Char} (h : mark ∉ cs) (rest : List Char) :
    (cs ++ mark :: rest).takeWhile (· != mark) = cs ∧
      (cs ++ mark :: rest).dropWhile (· != mark) = mark :: rest := by
  have hbefore := forall_mem_ne_mark h
  rw [List.takeWhile_append_of_pos hbefore, List.dropWhile_append_of_pos hbefore,
    List.takeWhile_cons_of_neg (by simp), List.dropWhile_cons_of_neg (by simp), List.append_nil]
  exact ⟨rfl, rfl⟩

/-- A text in which a mark does not occur. -/
theorem cut_without_mark {mark : Char} {cs : List Char} (h : mark ∉ cs) :
    cs.takeWhile (· != mark) = cs ∧ cs.dropWhile (· != mark) = [] := by
  have hbefore := forall_mem_ne_mark h
  have htake : (cs ++ []).takeWhile (· != mark) = cs ++ [] :=
    List.takeWhile_append_of_pos hbefore
  have hdrop : (cs ++ []).dropWhile (· != mark) = [] := List.dropWhile_append_of_pos hbefore
  rw [List.append_nil] at htake hdrop
  exact ⟨htake, hdrop⟩

/-- The marks around an address do not occur in it. -/
theorem Written.ne_mark {c : Char} (h : Written c) : c ≠ '[' ∧ c ≠ ']' ∧ c ≠ '%' := by
  have hdigit : ∀ d < 16, d.digitChar ≠ '[' ∧ d.digitChar ≠ ']' ∧ d.digitChar ≠ '%' := by decide
  rcases h with rfl | rfl | ⟨d, hd, rfl⟩
  · decide
  · decide
  · exact hdigit d hd

theorem written_of_mem_toDigits {n : Nat} {c : Char} (h : c ∈ Nat.toDigits 10 n) : Written c :=
  .inr (.inr (exists_of_mem_toDigits (by decide) (by decide) h))

theorem bounded?_toDigits {n most : Nat} (h : n ≤ most) :
    bounded? most (Nat.toDigits 10 n) = some n := by
  rw [bounded?, valueOf?_toDigits (by decide) (by decide)]
  simp [h]

/-- Eight groups are read as the address that has them. -/
theorem ofGroups?_toNat (groups : Vector UInt16 8) :
    ofGroups? (groups.toList.map UInt16.toNat) = some (.v6 groups) := by
  have hwords : ((groups.toList.map UInt16.toNat).map Nat.toUInt16).toArray = groups.toArray := by
    have hid : Nat.toUInt16 ∘ UInt16.toNat = id := funext fun w => UInt16.ofNat_toNat
    rw [List.map_map, hid, List.map_id, Vector.toArray_toList]
  unfold ofGroups?
  simp only [hwords]
  rw [dif_pos groups.size_toArray]

/-! ### Addresses that hold a four-byte one -/

/-- The groups of the sixteen-byte address that holds a four-byte one. -/
def mapped (a b c d : UInt8) : Vector UInt16 8 :=
  #v[0, 0, 0, 0, 0, 0xffff, a.toUInt16 * 256 + b.toUInt16, c.toUInt16 * 256 + d.toUInt16]

/-- Two bytes of one group. -/
theorem toNat_group (a b : UInt8) :
    (a.toUInt16 * 256 + b.toUInt16).toNat = a.toNat * 256 + b.toNat := by
  have ha := a.toNat_lt
  have hb := b.toNat_lt
  rw [UInt16.toNat_add, UInt16.toNat_mul, UInt8.toNat_toUInt16, UInt8.toNat_toUInt16]
  simp only [UInt16.reduceToNat]
  omega

theorem words_mapped (a b c d : UInt8) : (mapped a b c d).toList.map UInt16.toNat =
    [0, 0, 0, 0, 0, 0xffff, a.toNat * 256 + b.toNat, c.toNat * 256 + d.toNat] := by
  simp only [mapped, Vector.toList_mk, List.map_cons, List.map_nil, toNat_group,
    UInt16.reduceToNat]

/-- The last two of such groups are written as four bytes. -/
theorem groupsText_mapped (high low : Nat) :
    groupsText [0, 0, 0, 0, 0, 0xffff, high, low] =
      "::ffff:".toList ++ dotted [high / 256, high % 256, low / 256, low % 256] := by
  -- evaluating the match would count down from 0xffff
  unfold groupsText
  split
  · next high' low' h =>
      obtain ⟨rfl, rfl⟩ : high = high' ∧ low = low' := by simpa using h
      rfl
  · next h => exact absurd rfl (h high low)

/-- The text of an address that holds a four-byte one ends in the text of that one. -/
theorem text_mapped (a b c d : UInt8) :
    (Address.v6 (mapped a b c d)).text = "::ffff:" ++ (Address.v4 a b c d).text := by
  have hbytes (x y : UInt8) : (x.toNat * 256 + y.toNat) / 256 = x.toNat ∧
      (x.toNat * 256 + y.toNat) % 256 = y.toNat := by
    have hy := y.toNat_lt
    omega
  rw [text, text, words_mapped, groupsText_mapped, (hbytes a b).1, (hbytes a b).2,
    (hbytes c d).1, (hbytes c d).2, String.ofList_append, String.ofList_toList]

end Address

/-! ### Sockets read back -/

namespace Socket

open Address

/-- A scope does not close the brackets. -/
theorem close_not_mem_scopeText (scope : UInt32) : ']' ∉ scopeText scope := by
  unfold scopeText
  split
  · exact List.not_mem_nil
  · intro h
    rcases List.mem_cons.1 h with h | h
    · exact absurd h (by decide)
    · exact (written_of_mem_toDigits h).ne_mark.2.1 rfl

/-- An address without colons stands before the first colon. -/
theorem ofSocket?_text_v4 (a b c d : UInt8) (port : UInt16) :
    ofSocket? (Socket.v4 a b c d port).text = some (.v4 a b c d) := by
  have hport : bounded? 65535 (Nat.toDigits 10 port.toNat) = some port.toNat :=
    bounded?_toDigits (Nat.le_of_lt_succ port.toNat_lt)
  have hpieces : pieces ':' (dotted [a.toNat, b.toNat, c.toNat, d.toNat] ++
      ':' :: Nat.toDigits 10 port.toNat) =
        [dotted [a.toNat, b.toNat, c.toNat, d.toNat], Nat.toDigits 10 port.toNat] := by
    rw [pieces_append_cons (colon_not_mem_dotted _),
      pieces_of_not_mem (colon_not_mem_toDigits (by decide) (by decide) _)]
  have hopen : '[' ∉ dotted [a.toNat, b.toNat, c.toNat, d.toNat] ++
      ':' :: Nat.toDigits 10 port.toNat := by
    rw [List.mem_append, List.mem_cons]
    rintro (h | h | h)
    · exact (written_of_mem_dotted h).ne_mark.1 rfl
    · exact absurd h (by decide)
    · exact (written_of_mem_toDigits h).ne_mark.1 rfl
  unfold ofSocket?
  rw [text, String.toList_ofList]
  split
  · next rest heq => exact absurd (heq ▸ List.mem_cons_self) hopen
  · simp only [hpieces, hport, dotted?_toNat, Option.bind_eq_bind, Option.bind_some,
      UInt8.ofNat_toNat]

/-- An address with colons stands in brackets, up to the scope if there is one. -/
theorem ofSocket?_text_v6 (groups : Vector UInt16 8) (port : UInt16) (flow scope : UInt32) :
    ofSocket? (Socket.v6 groups port flow scope).text = some (.v6 groups) := by
  have hport : bounded? 65535 (Nat.toDigits 10 port.toNat) = some port.toNat :=
    bounded?_toDigits (Nat.le_of_lt_succ port.toNat_lt)
  have hread := eight?_toNat groups
  have hgroups := ofGroups?_toNat groups
  have hclose : ']' ∉ groupsText (groups.toList.map UInt16.toNat) ++ scopeText scope := by
    rw [List.mem_append]
    rintro (h | h)
    · exact (written_of_mem_groupsText h).ne_mark.2.1 rfl
    · exact close_not_mem_scopeText scope h
  have hpercent : '%' ∉ groupsText (groups.toList.map UInt16.toNat) :=
    fun h => (written_of_mem_groupsText h).ne_mark.2.2 rfl
  unfold ofSocket?
  rw [text, String.toList_ofList]
  generalize groupsText (groups.toList.map UInt16.toNat) = address at hread hclose hpercent ⊢
  obtain ⟨hinside, hafter⟩ := cut_at_mark hclose (':' :: Nat.toDigits 10 port.toNat)
  simp only [List.cons_append, hinside, hafter]
  unfold scopeText
  by_cases hscope : scope = 0
  · obtain ⟨htake, hdrop⟩ := cut_without_mark hpercent
    simp only [hscope, if_true, List.append_nil, htake, hdrop, hport, hread]
    exact hgroups
  · obtain ⟨htake, hdrop⟩ := cut_at_mark hpercent (Nat.toDigits 10 scope.toNat)
    have hbound : bounded? 4294967295 (Nat.toDigits 10 scope.toNat) = some scope.toNat :=
      bounded?_toDigits (Nat.le_of_lt_succ scope.toNat_lt)
    simp only [hscope, if_false, htake, hdrop, hport, hread, hbound]
    exact hgroups

/-- **The text of a socket is read as its address.** -/
theorem ofSocket?_text (s : Socket) : ofSocket? s.text = some s.address := by
  cases s with
  | v4 a b c d port => exact ofSocket?_text_v4 a b c d port
  | v6 groups port flow scope => exact ofSocket?_text_v6 groups port flow scope

example : (Socket.v6 #v[0xfe80, 0, 0, 0, 0, 0, 0, 1] 443 7 2).text = "[fe80::1%2]:443" := by
  decide +kernel

end Socket

/-! ### Keys -/

namespace Caller

/-- Who makes a request that comes in from a socket. -/
def behind (s : Socket) (headers : List (String × String)) : Caller :=
  ⟨Address.ofSocket? s.text, headers⟩

theorem address_behind (s : Socket) (headers : List (String × String)) :
    (behind s headers).address = some s.address := s.ofSocket?_text

/-- The key of a request is the text of the address of its socket. -/
theorem addressKey_eq_text (s : Socket) (headers : List (String × String)) :
    (behind s headers).addressKey = s.address.text := by
  rw [addressKey, address_behind]

/-- The two keys of a four-byte address and of the one that holds it. -/
theorem addressKey_mapped (a b c d : UInt8) (port port' : UInt16) (flow scope : UInt32)
    (headers headers' : List (String × String)) :
    (behind (.v6 (Address.mapped a b c d) port' flow scope) headers').addressKey =
      "::ffff:" ++ (behind (.v4 a b c d port) headers).addressKey := by
  rw [addressKey_eq_text, addressKey_eq_text]
  exact Address.text_mapped a b c d

/-- **Requests have the same key just if they come from the same address.**  Ports, flow labels,
scopes and headers do not matter, and a four-byte address is not the sixteen-byte one that holds it.
The key of such a request is never the one of requests without an address, and never the counter key
of another one. -/
theorem addressKey_behind (s s' : Socket) (headers headers' : List (String × String)) :
    ((behind s headers).addressKey = (behind s' headers').addressKey ↔ s.address = s'.address) ∧
    (behind s headers).addressKey ≠ unknownKey ∧
    (behind s headers).addressKey ≠
      SlidingScript.counterKey (behind s' headers').addressKey ∧
    ∀ a b c d port port' flow scope,
      (behind (.v4 a b c d port) headers).addressKey ≠
        (behind (.v6 (Address.mapped a b c d) port' flow scope) headers').addressKey := by
  have hsame (t t' : Socket) : (behind t headers).addressKey = (behind t' headers').addressKey ↔
      t.address = t'.address := by
    rw [addressKey_eq_iff, address_behind, address_behind, Option.some.injEq]
  refine ⟨hsame s s', ?_, addressKey_ne_counterKey _ _, fun a b c d port port' flow scope h => ?_⟩
  · rw [addressKey_eq_text]
    exact text_ne_unknownKey s.address
  · exact nomatch (hsame _ _).1 h

end Caller

end Turnstile
