/-
**The quota of each caller.**

A layer in reject mode that knows callers by address gives each of them a quota of its own.  Callers
with different addresses share no physical key, so in a burst of requests each caller fills its
quota as if it were alone: its first requests are forwarded, as many as fit, and all further ones
are rejected.  Requests without an address count as those of one caller.

Main definitions:

* `Arrival`, `Arrival.move` — a request that a layer meets.

Main results:

* `Quota.foldl_spend_replicate` — how equal requests fill a quota;
* `Arrival.asked_eq` — in a run of requests a caller asks for the cost of each of its own;
* `Layer.told_of_burst` — **the requests of a caller are forwarded as long as its quota lasts**,
  whatever the other callers do.
-/

import Turnstile.Proofs.Admission.AddressText
import Turnstile.Proofs.Admission.Draft
import Turnstile.Proofs.Traffic.Burst

set_option relaxedAutoImplicit false
set_option autoImplicit false

namespace Turnstile

/-! ### Equal requests -/

/-- Of equal requests the first ones fit, as many as the limit allows, and no other one does. -/
theorem Quota.foldl_spend_replicate (limit cost j : Nat) :
    (List.replicate j cost).foldl (spend limit) 0 + cost ≤ limit ↔ (j + 1) * cost ≤ limit := by
  -- until the quota is full everything is taken, and then it stays full
  have hfills : (List.replicate j cost).foldl (spend limit) 0 = j * cost ∨
      limit < j * cost ∧ limit < (List.replicate j cost).foldl (spend limit) 0 + cost := by
    induction j with
    | zero => exact .inl (Nat.zero_mul cost).symm
    | succ j ih =>
        rw [List.replicate_succ', List.foldl_append, List.foldl_cons, List.foldl_nil, Nat.succ_mul]
        generalize (List.replicate j cost).foldl (spend limit) 0 = used at ih ⊢
        unfold spend
        split <;> omega
  rw [Nat.succ_mul]
  omega

/-! ### Requests that a layer meets -/

/-- A request: its setting, its number, its context and who makes it. -/
structure Arrival where
  setting : Setting
  number : Nat
  parent : ContextId
  caller : Caller

namespace Arrival

/-- A request to a layer as a move. -/
def move (l : Layer SlidingWindow) (a : Arrival) : Setting × Move :=
  (a.setting, .request a.number l a.parent a.caller)

variable {l : Layer SlidingWindow} {p : Nat → Prop} {a : Arrival}

/-- A request of a caller takes part in a burst on the key of the caller. -/
theorem spends (hmode : l.waitMode = false) (htime : p a.setting.storeReading)
    (hrange : l.limit + l.cost ≤ 9223372036854775807) :
    Traffic.Spends (l.key a.caller) l.limit l.window p (a.move l)
      (l.visit a.setting (l.key a.caller) a.parent) where
  visit := by simp only [move, Move.visit?, hmode, Bool.false_eq_true, if_false]
  key_eq := rfl
  limit_eq := rfl
  window_eq := rfl
  time := htime
  range := hrange

/-- Seen from the key of a caller, a request is one of this caller or one of a key apart. -/
theorem same_or_apart (hkey : l.key = Caller.addressKey) (a : Arrival) (caller : Caller) :
    a.caller.address = caller.address ∧ l.key a.caller = l.key caller ∨
      a.caller.address ≠ caller.address ∧ Apart (l.key caller) (a.move l).2.key := by
  by_cases hsame : a.caller.address = caller.address
  · refine .inl ⟨hsame, ?_⟩
    rw [hkey]
    exact Caller.addressKey_eq_iff.2 hsame
  · refine .inr ⟨hsame, ?_⟩
    change Apart _ (l.key a.caller)
    rw [hkey]
    exact Caller.apart_addressKey (Ne.symm hsame)

theorem visit_not_barred (hbuilt : l.Built) (hlive : a.setting.status a.parent = none)
    (hfaults : a.setting.backend = []) (key : String) :
    (l.visit a.setting key a.parent).bar? = none := by
  obtain ⟨-, hwindow, hcost⟩ := hbuilt.pos
  exact Visit.bar?_eq_none_iff.2 ⟨⟨hcost, hwindow⟩, hlive, hfaults⟩

/-- **In a run of requests a caller asks for the cost of each of its own**, and for nothing else. -/
theorem asked_eq (hbuilt : l.Built) (hmode : l.waitMode = false) (hkey : l.key = Caller.addressKey)
    (hrange : l.limit + l.cost ≤ 9223372036854775807) {arrivals : List Arrival}
    (hlive : ∀ a ∈ arrivals, a.setting.status a.parent = none ∧ a.setting.backend = [])
    (caller : Caller) :
    Traffic.asked (l.key caller) (arrivals.map (move l)) =
      List.replicate (arrivals.countP fun a => a.caller.address = caller.address) l.cost := by
  induction arrivals with
  | nil => rfl
  | cons a rest ih =>
      obtain ⟨⟨hparent, hfaults⟩, hrest⟩ := List.forall_mem_cons.1 hlive
      have hrec := ih hrest
      rw [List.map_cons, Traffic.asked, List.filterMap_cons]
      rcases same_or_apart hkey a caller with ⟨hsame, hkeys⟩ | ⟨hother, hapart⟩
      · have hasked : Traffic.asked? (l.key caller) (a.move l) = some l.cost := by
          rw [← hkeys, (spends (p := fun _ => True) hmode trivial hrange).asked?_eq,
            visit_not_barred hbuilt hparent hfaults]
          rfl
        rw [hasked, List.countP_cons_of_pos (by simpa using hsame), List.replicate_succ, ← hrec]
        rfl
      · rw [Traffic.asked?_of_apart hapart, List.countP_cons_of_neg (by simpa using hother), ← hrec]
        rfl

end Arrival

/-! ### The quota of a caller -/

namespace Layer

variable {l : Layer SlidingWindow}

/-- **The requests of a caller are forwarded as long as its quota lasts, and then rejected**,
whatever the other callers do.  Requests meet a layer in reject mode that knows callers by address,
on an empty store without faults, in contexts that are not finished; all are made before the largest
time that a clock can show, within less than the lifetime of the keys of each other.  A request is
the `j`-th one of its caller; it is forwarded just if the cost of `j` requests is within the limit,
and else it gets the rejection of its key with the limit and the window. -/
theorem told_of_burst (hbuilt : l.Built) (hmode : l.waitMode = false)
    (hkey : l.key = Caller.addressKey) (hrange : l.limit + l.cost ≤ 9223372036854775807)
    {before : List Arrival} {next : Arrival}
    (hlive : ∀ a ∈ before ++ [next], a.setting.status a.parent = none ∧ a.setting.backend = [])
    (htimes : ∀ a ∈ before ++ [next], a.setting.storeReading < maxWord ∧
      ∀ b ∈ before ++ [next], b.setting.storeReading < a.setting.storeReading +
        (SlidingScript.keyTtl (Account.word l.window.clampedMillis)).millis) :
    let j := before.countP (fun a => a.caller.address = next.caller.address) + 1
    ((Traffic.start.after (before.map (Arrival.move l))).step next.setting
        (.request next.number l next.parent next.caller)).1.told =
      some (if j * l.cost ≤ l.limit then .judged l (.ok true) .forward
        else .judged l (.ok false) (.answer (l.onRejected ⟨l.key next.caller, l.limit, l.window,
          l.rejectedStatus, l.rejectedMessage⟩))) := by
  intro j
  let p (time : Nat) : Prop := ∃ a ∈ before ++ [next], a.setting.storeReading = time
  have hlapse : ∀ time later, p time → p later → later < Account.lapseAfter time l.window := by
    rintro _ _ ⟨a, ha, rfl⟩ ⟨b, hb, rfl⟩
    exact Account.lt_lapseAfter_of_lt ((htimes a ha).2 b hb) (htimes b hb).1
  have hnext : next ∈ before ++ [next] := by simp
  have hmoves : ∀ x ∈ before.map (Arrival.move l), Apart (l.key next.caller) x.2.key ∨
      ∃ v, Traffic.Spends (l.key next.caller) l.limit l.window p x v := by
    intro x hx
    obtain ⟨a, ha, rfl⟩ := List.mem_map.1 hx
    rcases a.same_or_apart hkey next.caller with ⟨-, hkeys⟩ | ⟨-, hapart⟩
    · have htime : p a.setting.storeReading := ⟨a, List.mem_append_left _ ha, rfl⟩
      exact .inr ⟨_, hkeys ▸ Arrival.spends hmode htime hrange⟩
    · exact .inl hapart
  have hstands : Traffic.Stands (l.key next.caller) p 0 Traffic.start :=
    ⟨Traffic.sound_start _, .fresh, Keyspace.shows_empty _, Account.holds_fresh p⟩
  have hafter := hstands.after hmoves hlapse (Nat.zero_le _)
  have hused := Quota.foldl_spend_le (Nat.zero_le l.limit)
    (Traffic.asked (l.key next.caller) (before.map (Arrival.move l)))
  obtain ⟨hparent, hfaults⟩ := hlive next hnext
  have hfits : (Traffic.asked (l.key next.caller) (before.map (Arrival.move l))).foldl
      (Quota.spend l.limit) 0 + l.cost ≤ l.limit ↔ j * l.cost ≤ l.limit := by
    rw [Arrival.asked_eq hbuilt hmode hkey hrange
      (fun a ha => hlive a (List.mem_append_left _ ha)) next.caller]
    exact Quota.foldl_spend_replicate l.limit l.cost _
  have hanswer : ((l.visit next.setting (l.key next.caller) next.parent).pay
      (Traffic.start.after (before.map (Arrival.move l))).keyspace).1 =
        .ok (decide (j * l.cost ≤ l.limit)) := by
    rw [(hafter.pay (Arrival.spends hmode ⟨next, hnext, rfl⟩ hrange) hlapse hused
      (Arrival.visit_not_barred hbuilt hparent hfaults _)).1]
    exact congrArg Except.ok (decide_eq_decide.2 hfits)
  rw [Traffic.step_request hmode _ _ next.number next.parent next.caller hanswer]
  by_cases h : j * l.cost ≤ l.limit
  · rw [if_pos h, decide_eq_true h]
    rfl
  · rw [if_neg h, decide_eq_false h]
    rfl

/-- A layer in reject mode that admits one request a second from each address. -/
def onePerAddress : Layer SlidingWindow :=
  ⟨Traffic.oneASecond.limiter, Caller.addressKey, 1, Duration.ofMillis 1000, 1, false, .zero,
    .single, .failClosed, 429, "rate limit exceeded", 500, "internal server error",
    Rejection.response, AdmissionError.response, false⟩

/-- A caller in IPv4 is not kept out by the mapped form of its own address or by a request without
an address, and neither lets it in a second time. -/
theorem told_of_burst_mapped :
    let arrival (time : Nat) (address : Option Address) : Arrival :=
      ⟨World.start 0 time [], 0, 0, ⟨address, []⟩⟩
    let before := [arrival 1000 (some (.v4 1 2 3 4)),
      arrival 1500 (some (.v6 #v[0, 0, 0, 0, 0, 0xffff, 0x102, 0x304])), arrival 2000 none]
    let next := arrival 2500 (some (.v4 1 2 3 4))
    ((Traffic.start.after (before.map (Arrival.move onePerAddress))).step next.setting
        (.request next.number onePerAddress next.parent next.caller)).1.told =
      some (.judged onePerAddress (.ok false) (.answer (Rejection.mk "1.2.3.4" 1
        (Duration.ofMillis 1000) 429 "rate limit exceeded").response)) := by
  intro arrival before next
  have hbuilt : onePerAddress.Built :=
    ⟨[.limiter Traffic.oneASecond.limiter, .limit 1, .window (Duration.ofMillis 1000)], by simp,
      rfl⟩
  have hkey : onePerAddress.key next.caller = "1.2.3.4" := by decide +kernel
  have hsecond : ¬ (before.countP (fun a => a.caller.address = next.caller.address) + 1) *
      onePerAddress.cost ≤ onePerAddress.limit := by decide +kernel
  rw [told_of_burst hbuilt rfl rfl (by decide) (by decide +kernel) (by decide +kernel),
    if_neg hsecond, hkey]
  rfl

/-- At the largest time that a clock can show, two requests of one caller are forwarded though its
quota is one. -/
theorem told_at_largest_time :
    let arrival : Arrival := ⟨World.start maxWord maxWord [], 0, 0, ⟨some (.v4 1 2 3 4), []⟩⟩
    ((Traffic.start.after [arrival.move onePerAddress]).step arrival.setting
        (.request 0 onePerAddress 0 arrival.caller)).1.told =
      some (.judged onePerAddress (.ok true) .forward) ∧ ¬ 2 * onePerAddress.cost ≤ 1 :=
  ⟨Traffic.step_request rfl _ _ _ _ _ (by decide +kernel), by decide⟩

end Layer

end Turnstile
