/-
**The observations account for every call.**

Calls for decisions, resets and waits of measured limiters run side by side on one store, and each
of them may end in any way, or be dropped at a pause.  Whatever the order of their moves is, and
even if they report in between each other, what is observed says how many of them there were and
how they ended.  A wait shows its polls by the sizes it reports, one after the other, and its end by
a zero, which it also reports when it is dropped.  So while no wait of a key is at a pause, the last
size reported for the key is zero.

Main definitions:

* `CountsPolls` — sizes that count the polls of a wait;
* `Wait.Reported` — where a wait stands, and the sizes that it has reported;
* `Interleaves` — the orders in which the reports of a run may come.

Main results:

* `Wait.Reported.step` — a wait goes on counting its polls, and ends with zero;
* `Traffic.reported_after` — so it does in every run;
* `Traffic.observations_account` — **the observations of a run account for its calls**.
-/

import Mathlib.Data.List.Forall2
import Mathlib.Data.List.Induction
import Turnstile.Proofs.Metrics.Counts
import Turnstile.Proofs.Traffic.Sights

set_option relaxedAutoImplicit false
set_option autoImplicit false

namespace Turnstile

/-! ### The sizes that a wait reports -/

/-- Sizes that count so many polls: they tell one, two, and so on. -/
def CountsPolls (polls : Nat) (sizes : List Quantity) : Prop :=
  List.Forall₂ Quantity.Tells sizes (List.range' 1 polls)

theorem countsPolls_zero : CountsPolls 0 [] := .nil

/-- Sizes go on counting when a poll reports its number. -/
theorem CountsPolls.next {polls : Nat} {sizes : List Quantity} (h : CountsPolls polls sizes) :
    CountsPolls (polls + 1) (sizes ++ [.ofNat (polls + 1)]) := by
  rw [CountsPolls, List.range'_1_concat, Nat.add_comm 1 polls]
  exact List.rel_append h (.cons (Quantity.tells_ofNat (polls + 1)) .nil)

/-- The numbers that such sizes stand for. -/
theorem CountsPolls.numbers {polls : Nat} {sizes : List Quantity} (h : CountsPolls polls sizes)
    (hpolls : polls ≤ 2 ^ 53) :
    sizes.map Quantity.number? = (List.range' 1 polls).map fun n : Nat => some (n : ℚ) := by
  obtain ⟨hlength, htells⟩ := List.forall₂_iff_zip.1 h
  rw [← List.forall₂_eq_eq_eq, List.forall₂_map_left_iff, List.forall₂_map_right_iff]
  refine List.forall₂_iff_zip.2 ⟨hlength, fun {size n} hin => (htells hin).exactly ?_⟩
  have hn : n < 1 + polls := (List.mem_range'_1.1 (List.of_mem_zip hin).2).2
  omega

/-- Where the wait of a name stands after so many polls, and the sizes that it has reported: it has
not begun; it is at a pause, and has counted its polls; or it is over, and has reported zero at
last. -/
inductive Wait.Reported (begun : Prop) : Option Task → Nat → List Quantity → Prop
  | ahead (notYet : ¬ begun) : Reported begun none 0 []
  | asleep (already : begun) (w : Wait) (polled : List Quantity)
      (counts : CountsPolls w.cycles polled) :
      Reported begun (some (.waiting w)) w.cycles polled
  | closed (already : begun) (polls : Nat) (polled : List Quantity)
      (counts : CountsPolls polls polled) :
      Reported begun none polls (polled ++ [.zero])

namespace Wait.Reported

variable {m : Move} {paused : Paused} {s : Setting} {ticket : Ticket} {begun : Prop}
  {task : Option Task} {polls : Nat} {seen : List Quantity} {w : Wait}

theorem of_ahead (h : Reported begun task polls seen) (notYet : ¬ begun) :
    task = none ∧ polls = 0 ∧ seen = [] := by
  cases h with
  | ahead => exact ⟨rfl, rfl, rfl⟩
  | asleep already => exact absurd already notYet
  | closed already => exact absurd already notYet

theorem of_waiting (h : Reported begun (some (.waiting w)) polls seen) :
    polls = w.cycles ∧ CountsPolls w.cycles seen ∧ begun := by
  cases h with
  | asleep already w polled counts => exact ⟨rfl, counts, already⟩

/-- A wait that moves has counted its polls so far, and has begun by then. -/
theorem of_wait? (h : Reported begun (paused ticket) polls seen) (hticket : m.ticket? = some ticket)
    (hname : m.begins? = some ticket → ¬ begun) (hof : m.wait? paused = some w) :
    polls = w.cycles ∧ CountsPolls w.cycles seen ∧ (begun ∨ m.begins? = some ticket) := by
  have hthere (moved : Ticket) (hmoved : moved = ticket) (hof : paused.waiting? moved = some w) :
      polls = w.cycles ∧ CountsPolls w.cycles seen ∧ begun := by
    rw [hmoved, Paused.waiting?_eq_some] at hof
    rw [hof] at h
    exact h.of_waiting
  cases m with
  | allowN l ctx key n limit window => exact nomatch hticket
  | reset l ctx key => exact nomatch hticket
  | request number l parent caller => exact nomatch hof
  | wait number l ctx key limit window =>
      obtain rfl := Option.some.inj hof
      obtain ⟨-, hpolls, hseen⟩ := h.of_ahead (hname hticket)
      exact ⟨hpolls, hseen ▸ countsPolls_zero, Or.inr hticket⟩
  | resume moved wake =>
      obtain ⟨hpolls, hseen, hbegun⟩ := hthere moved (Option.some.inj hticket) hof
      exact ⟨hpolls, hseen, Or.inl hbegun⟩
  | abandon moved =>
      obtain ⟨hpolls, hseen, hbegun⟩ := hthere moved (Option.some.inj hticket) hof
      exact ⟨hpolls, hseen, Or.inl hbegun⟩

/-- **A wait goes on counting its polls, and ends with zero.** -/
theorem step (h : Reported begun (paused ticket) polls seen) (hm : m.IsMeasured)
    (hpaused : paused.Measured) (hticket : m.ticket? = some ticket)
    (hname : m.begins? = some ticket → ¬ begun)
    {answer : Option (Except LimiterError Bool)} {e : Landing} {added : List Observation}
    (hobserves : m.Observes paused s answer e added) :
    Reported (begun ∨ m.begins? = some ticket) e.left (polls + if answer.isSome then 1 else 0)
      (seen ++ sizes ticket.key added) := by
  have hkey : ticket.key = m.key := Traffic.ticket_key hticket
  rw [hkey]
  cases hobserves with
  | decided alone => exact nomatch alone.symm.trans hticket
  | reset alone => exact nomatch alone.symm.trans hticket
  | barred alone => exact nomatch alone.symm.trans hticket
  | @waits w answer turn added hof hw noReset measured stretch =>
      obtain ⟨rfl, hcounts, hbegun⟩ := h.of_wait? hticket hname hof
      cases stretch with
      | asleep answer on =>
          rw [sizes_polling, if_pos hw]
          exact .asleep hbegun { w with cycles := w.cycles + 1 } _ hcounts.next
      | ended answer result =>
          rw [sizes_append, sizes_polling, sizes_closing, if_pos hw, if_pos hw, ← List.append_assoc]
          exact .closed hbegun (w.cycles + 1) _ hcounts.next
      | finished result =>
          rw [sizes_closing, if_pos hw]
          exact .closed hbegun w.cycles _ hcounts
  | @dropped w hof noReset =>
      obtain ⟨rfl, hcounts, hbegun⟩ := h.of_wait? hticket hname hof
      have hzero : sizes m.key [.waiting m.key .zero] = [.zero] := by
        simp [sizes, Observation.size?]
      rw [hzero]
      exact .closed hbegun w.cycles _ hcounts
  | idle nothing noReset =>
      obtain ⟨hnone, hbegins⟩ := hm.idle hpaused hticket nothing
      have hbegun : (begun ∨ m.begins? = some ticket) = begun := by simp [hbegins]
      have hseen : seen ++ sizes m.key [] = seen := List.append_nil seen
      rw [hbegun, hseen]
      rw [hnone] at h
      exact h

/-- What a wait has reported: sizes that count its polls, and zero at last if it is over. -/
theorem sizes_eq [Decidable begun] (h : Reported begun task polls seen) :
    ∃ polled, seen = polled ++ (if begun ∧ task.isNone then [.zero] else []) ∧
      CountsPolls polls polled := by
  cases h with
  | ahead notYet => exact ⟨[], by simp [notYet], countsPolls_zero⟩
  | asleep already w polled counts => exact ⟨seen, by simp, counts⟩
  | closed already polls polled counts => exact ⟨polled, by simp [already], counts⟩

/-- The last size that a wait which is not at a pause has reported, if any, is zero. -/
theorem last_eq_zero (h : Reported begun none polls seen) :
    ∀ size ∈ seen.getLast?, size = .zero := by
  cases h with
  | ahead notYet => exact nofun
  | closed already polls polled counts =>
      intro size hsize
      rw [List.getLast?_concat] at hsize
      exact (Option.some.inj hsize).symm

end Wait.Reported

/-! ### Reports that come side by side -/

/-- An observation, with the name of the call that reports it if the call may pause. -/
abbrev Signed := Option Ticket × Observation

/-- The observations of a move, with the name of its call. -/
def Sight.signed (x : Sight) : List Signed := x.observations.map (x.ticket, ·)

/-- The observations that a call reports. -/
def observationsOf (ticket : Ticket) (reported : List Signed) : List Observation :=
  (reported.filter fun r => r.1 = some ticket).map Prod.snd

/-- How many polls of a wait are seen. -/
def pollsOf (ticket : Ticket) (seen : List Sight) : Nat :=
  seen.countP fun x => x.ticket = some ticket && x.answer.isSome

/-- The observations of what is seen come in some order.  Calls that run side by side may report in
between each other, but a call that may pause reports in its own order. -/
structure Interleaves (reported : List Signed) (seen : List Sight) : Prop where
  all : reported.Perm (seen.flatMap Sight.signed)
  inOrder : ∀ ticket : Ticket,
    observationsOf ticket reported = observationsOf ticket (seen.flatMap Sight.signed)

/-- They may come in the order of the moves. -/
theorem Interleaves.refl (seen : List Sight) : Interleaves (seen.flatMap Sight.signed) seen :=
  ⟨.refl _, fun _ => rfl⟩

theorem observationsOf_append (ticket : Ticket) (reported reported' : List Signed) :
    observationsOf ticket (reported ++ reported') =
      observationsOf ticket reported ++ observationsOf ticket reported' := by
  rw [observationsOf, List.filter_append, List.map_append]
  rfl

theorem observationsOf_signed (ticket : Ticket) (x : Sight) :
    observationsOf ticket x.signed = if x.ticket = some ticket then x.observations else [] := by
  by_cases h : x.ticket = some ticket
  · simp [observationsOf, Sight.signed, List.filter_map, Function.comp_def, h]
  · simp [observationsOf, Sight.signed, List.filter_map, Function.comp_def, h]

/-- The observations of moves that each account for themselves count what the moves are to count. -/
theorem countP_signed {seen : List Sight} (h : ∀ x ∈ seen, x.Accounts) (key : String) (k : Tally) :
    ((seen.flatMap Sight.signed).map Prod.snd).countP (k.sees key) =
      seen.countP (k.happens key) := by
  induction seen with
  | nil => rfl
  | cons x seen ih =>
      have hx : (x.signed.map Prod.snd).countP (k.sees key) =
          if k.happens key x then 1 else 0 := by
        have hall : x.signed.map Prod.snd = x.observations := by
          simp [Sight.signed, Function.comp_def]
        rw [hall]
        exact (h x List.mem_cons_self).counts key k
      have hrest := ih fun y hy => h y (List.mem_cons_of_mem x hy)
      rw [List.flatMap_cons, List.map_append, List.countP_append, hx, hrest, List.countP_cons,
        Nat.add_comm]

/-- A size for a key that moves report which account for themselves is signed by a call of this
key. -/
theorem signed_of_size {seen : List Sight} (h : ∀ x ∈ seen, x.Accounts) {r : Signed}
    (hr : r ∈ seen.flatMap Sight.signed) {key : String} {size : Quantity}
    (hsize : r.2.size? key = some size) : ∃ number, r.1 = some ⟨key, number⟩ := by
  obtain ⟨x, hx, hin⟩ := List.mem_flatMap.1 hr
  obtain ⟨o, ho, rfl⟩ := List.mem_map.1 hin
  have hsome : size ∈ sizes key x.observations := List.mem_filterMap.2 ⟨o, ho, hsize⟩
  exact (h x hx).owned key (List.ne_nil_of_mem hsome)

namespace Traffic

/-- **After every run a wait has reported its polls so far, and zero at last if it is over.** -/
theorem reported_after {run : List (Setting × Move)} (hmeasured : ∀ x ∈ run, x.2.IsMeasured)
    (hnames : (run.filterMap fun x => x.2.begins?).Nodup) (ticket : Ticket) :
    Wait.Reported (ticket ∈ run.filterMap fun x => x.2.begins?) ((start.after run).paused ticket)
      (pollsOf ticket (start.sights run))
      (sizes ticket.key (observationsOf ticket ((start.sights run).flatMap Sight.signed))) := by
  induction run using List.reverseRecOn with
  | nil => exact .ahead List.not_mem_nil
  | append_singleton run x ih =>
      have hbefore : ∀ y ∈ run, y.2.IsMeasured := fun y hy =>
        hmeasured y (List.mem_append_left _ hy)
      have hx : x.2.IsMeasured := hmeasured x (List.mem_append_right _ (List.mem_singleton_self x))
      have hpaused := measured_after measured_start hbefore
      have hbegun : (run ++ [x]).filterMap (fun y => y.2.begins?) =
          run.filterMap (fun y => y.2.begins?) ++ x.2.begins?.toList := by
        rw [List.filterMap_append]
        cases h : x.2.begins? <;> simp [h]
      rw [hbegun, List.nodup_append] at hnames
      obtain ⟨hnames, -, hfresh⟩ := hnames
      have hsofar := ih hbefore hnames
      let t := start.after run
      have hafter : start.after (run ++ [x]) = (t.step x.1 x.2).2 := after_append start run [x]
      have hsights : start.sights (run ++ [x]) = start.sights run ++ [t.sight x.1 x.2] :=
        sights_append start run [x]
      have hpolls : pollsOf ticket [t.sight x.1 x.2] =
          if x.2.ticket? = some ticket ∧ (t.answer? x.1 x.2).isSome then 1 else 0 := by
        simp [pollsOf, sight, List.countP_cons]
      have hown : observationsOf ticket (([t.sight x.1 x.2] : List Sight).flatMap Sight.signed) =
          if x.2.ticket? = some ticket then t.observed x.1 x.2 else [] := by
        rw [List.flatMap_singleton, observationsOf_signed]
        rfl
      rw [hafter, paused_step, hsights, pollsOf, List.countP_append, ← pollsOf, ← pollsOf, hpolls,
        List.flatMap_append, observationsOf_append, sizes_append, hown, hbegun, List.mem_append,
        Option.mem_toList]
      by_cases hmoved : x.2.ticket? = some ticket
      · simp only [hmoved, if_true, true_and]
        exact hsofar.step hx hpaused hmoved
          (fun hname hin => hfresh _ hin _ (Option.mem_toList.2 hname) rfl)
          (observes_step hx hpaused x.1)
      · have hbegins : x.2.begins? ≠ some ticket := fun h => hmoved (Move.ticket?_of_begins? h)
        simp only [hmoved, hbegins, if_false, false_and, or_false]
        rw [show sizes ticket.key [] = [] from rfl, List.append_nil]
        exact hsofar

end Traffic

/-! ### What the observations of a run account for, in whatever order they come -/

/-- The last size that is reported for a key is the last one of a call of this key. -/
theorem Interleaves.last_size {reported : List Signed} {seen : List Sight}
    (h : Interleaves reported seen) (haccounts : ∀ x ∈ seen, x.Accounts) {key : String}
    {size : Quantity} (hsize : size ∈ (sizes key (reported.map Prod.snd)).getLast?) :
    ∃ number, size ∈ (sizes key (observationsOf ⟨key, number⟩ reported)).getLast? := by
  -- the report with this size, and those that come before and after
  obtain ⟨earlier, hlast⟩ := List.getLast?_eq_some_iff.1 hsize
  rw [sizes, List.filterMap_map] at hlast
  obtain ⟨before, rest, rfl, -, hrest⟩ := List.filterMap_eq_append_iff.1 hlast
  obtain ⟨between, r, after, rfl, -, hr, hafter⟩ := List.filterMap_eq_cons_iff.1 hrest
  have hin : r ∈ seen.flatMap Sight.signed :=
    h.all.mem_iff.1 (List.mem_append_right _ (List.mem_append_right _ List.mem_cons_self))
  obtain ⟨number, howner⟩ := signed_of_size haccounts hin hr
  have hsilent : sizes key (observationsOf ⟨key, number⟩ after) = [] := by
    rw [sizes, List.filterMap_eq_nil_iff]
    intro o ho
    obtain ⟨r', hr', rfl⟩ := List.mem_map.1 ho
    exact List.filterMap_eq_nil_iff.1 hafter r' (List.mem_filter.1 hr').1
  have hown : observationsOf ⟨key, number⟩ (r :: after) =
      r.2 :: observationsOf ⟨key, number⟩ after := by
    simp [observationsOf, howner]
  have hr : r.2.size? key = some size := hr
  refine ⟨number, ?_⟩
  rw [observationsOf_append, observationsOf_append, hown, ← List.append_assoc, sizes_append,
    sizes_cons, hsilent, hr]
  exact List.getLast?_concat

namespace Traffic

/-- **The observations of a run account for its calls.**  The calls are those of measured limiters,
each wait has a name of its own, and the reports come in any order in which no wait's own are
exchanged.  A wait has reported one, two, and so on, once for each of its polls, and, if it is over,
zero at last; while no wait of a key is at a pause, the last size reported for the key is zero; and the answers and the
latencies reported for a key are as many as the decisions that were answered so, the decisions, the
waits that returned, and the resets on behalf of live contexts. -/
theorem observations_account {run : List (Setting × Move)} {reported : List Signed}
    (hmeasured : ∀ x ∈ run, x.2.IsMeasured)
    (hnames : (run.filterMap fun x => x.2.begins?).Nodup)
    (hreported : Interleaves reported (start.sights run)) :
    (∀ ticket, ∃ polled, sizes ticket.key (observationsOf ticket reported) =
        polled ++ (if (ticket ∈ run.filterMap fun x => x.2.begins?) ∧
              ((start.after run).paused ticket).isNone then [.zero] else []) ∧
        CountsPolls (pollsOf ticket (start.sights run)) polled) ∧
      (∀ key, (∀ number, (start.after run).paused ⟨key, number⟩ = none) →
        ∀ size ∈ (sizes key (reported.map Prod.snd)).getLast?, size = .zero) ∧
      ∀ (key : String) (k : Tally), (reported.map Prod.snd).countP (k.sees key) =
        (start.sights run).countP (k.happens key) := by
  have haccounts := accounts_sights measured_start hmeasured
  have hwaits (ticket : Ticket) : Wait.Reported (ticket ∈ run.filterMap fun x => x.2.begins?)
      ((start.after run).paused ticket) (pollsOf ticket (start.sights run))
      (sizes ticket.key (observationsOf ticket reported)) := by
    rw [hreported.inOrder]
    exact reported_after hmeasured hnames ticket
  refine ⟨fun ticket => (hwaits ticket).sizes_eq, fun key hover size hsize => ?_, fun key k => ?_⟩
  · obtain ⟨number, hown⟩ := hreported.last_size haccounts hsize
    have hwait := hwaits ⟨key, number⟩
    rw [hover number] at hwait
    exact hwait.last_eq_zero size hown
  · rw [(hreported.all.map Prod.snd).countP_eq]
    exact countP_signed haccounts key k

/-- Two waits meet a key that has no room.  One is dropped at its pause; the other one polls again
when there is room, between a call for a decision that a fault hits and a reset. -/
theorem observations_account_two_waits :
    let l : SlidingWindow := ⟨SlidingWindow.defaultPollInterval, .timer, .own, true⟩
    let run : List (Setting × Move) :=
      [(World.start 0 0 [], .allowN l 0 "a" 1 1 (Duration.ofMillis 1000)),
        (World.start 100 100 [], .wait 0 l 0 "a" 1 (Duration.ofMillis 1000)),
        (World.start 200 200 [], .wait 1 l 0 "a" 1 (Duration.ofMillis 1000)),
        (World.start 300 300 [.script "gone"], .allowN l 0 "a" 1 1 (Duration.ofMillis 1000)),
        (World.start 400 400 [], .abandon ⟨"a", 1⟩),
        (World.start 2000 2000 [], .resume ⟨"a", 0⟩ .timer),
        (World.start 2100 2100 [], .reset l 0 "a")]
    let reported := (start.sights run).flatMap Sight.signed
    (sizes "a" (observationsOf ⟨"a", 0⟩ reported)).map Quantity.number? =
        [some 1, some 2, some 0] ∧
      (sizes "a" (observationsOf ⟨"a", 1⟩ reported)).map Quantity.number? = [some 1, some 0] ∧
      [Tally.request true, .request false, .latency .allowN, .latency .wait, .latency .reset].map
        (fun k => (reported.map Prod.snd).countP (k.sees "a")) = [2, 2, 5, 1, 1] := by
  intro l run reported
  have hmeasured : ∀ x ∈ run, x.2.IsMeasured := by
    simp [run, Move.IsMeasured, l]
  obtain ⟨hwaits, -, hcounts⟩ := observations_account hmeasured (by decide) (Interleaves.refl _)
  have hsizes (ticket : Ticket) (polls : Nat) (hfew : polls ≤ 2 ^ 53)
      (hpolls : pollsOf ticket (start.sights run) = polls)
      (hover : (ticket ∈ run.filterMap fun x => x.2.begins?) ∧
        ((start.after run).paused ticket).isNone) :
      (sizes ticket.key (observationsOf ticket reported)).map Quantity.number? =
        (List.range' 1 polls).map (fun n : Nat => some (n : ℚ)) ++ [some 0] := by
    obtain ⟨polled, hseen, hcounted⟩ := hwaits ticket
    rw [hpolls] at hcounted
    rw [hseen, if_pos hover, List.map_append, hcounted.numbers hfew]
    exact congrArg _ (congrArg ([·]) (Quantity.tells_zero.exactly (Nat.zero_le _)))
  refine ⟨hsizes ⟨"a", 0⟩ 2 (by decide) (by decide +kernel) (by decide +kernel),
    hsizes ⟨"a", 1⟩ 1 (by decide) (by decide +kernel) (by decide +kernel), ?_⟩
  rw [List.map_congr_left fun k _ => hcounts "a" k]
  decide +kernel

end Traffic

end Turnstile
