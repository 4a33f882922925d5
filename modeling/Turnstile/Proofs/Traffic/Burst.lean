/-
**Calls that fill a quota while nothing lapses.**

What is in use of a key lapses some time after the last admission.  Calls that all happen within
less than that time of each other form a burst: whatever they take stays taken until the last of
them is decided.  So a burst fills the quota greedily.  A call takes what it asks for if that still
fits, and is denied otherwise; a denied call leaves nothing behind, so a smaller one after it may
still fit.  The order decides who is admitted, but not that nobody is denied without need: what a
denied call asked for does not even fit in the room that is left at the end.

The expiry of entries is cut off at the largest time that the clock of the store can show.  At this
time every entry is due at once, and the quota of a key is forgotten from call to call.

Main definitions:

* `Quota.spend`, `Quota.fill`, `Quota.admitted` — filling a quota;
* `Account.Holds` — a number in use that does not lapse at the times of a burst;
* `Move.visit?` — the one decision of a call for a decision, or of a request in reject mode;
* `Traffic.answers`, `Traffic.asked` — what the calls on a key are answered, and what those ask for
  that reach the script;
* `Traffic.Stands` — the state of a key in the middle of a burst.

Main results:

* `Quota.fill_all_iff`, `Quota.limit_lt_of_denied`, `Quota.countP_denied` — what filling comes to;
* `Traffic.Stands.step`, `Traffic.Stands.after` — moves of a burst spend the quota;
* `Traffic.answers_burst` — **in every order, a burst on a fresh key fills its quota greedily**.
-/

import Mathlib.Algebra.Ring.Nat
import Turnstile.Proofs.Traffic.Isolation
import Turnstile.Proofs.Traffic.RetryAfter

set_option relaxedAutoImplicit false
set_option autoImplicit false

namespace Turnstile

/-! ### Filling a quota -/

namespace Quota

/-- What is in use after a call: what it asks for is taken if it fits. -/
def spend (limit used n : Nat) : Nat := if used + n ≤ limit then used + n else used

/-- What calls ask for in turn, each with whether it fits. -/
def fill (limit : Nat) : Nat → List Nat → List (Nat × Bool)
  | _, [] => []
  | used, n :: rest => (n, decide (used + n ≤ limit)) :: fill limit (spend limit used n) rest

/-- The total of what is admitted. -/
def admitted (ds : List (Nat × Bool)) : Nat := ((ds.filter Prod.snd).map Prod.fst).sum

variable {limit used : Nat}

theorem le_spend (limit used n : Nat) : used ≤ spend limit used n := by
  unfold spend
  split <;> omega

theorem spend_le (h : used ≤ limit) (n : Nat) : spend limit used n ≤ limit := by
  unfold spend
  split <;> omega

theorem foldl_spend_le (h : used ≤ limit) (ns : List Nat) :
    ns.foldl (spend limit) used ≤ limit := by
  induction ns generalizing used with
  | nil => exact h
  | cons n rest ih => exact ih (spend_le h n)

theorem le_foldl_spend (limit used : Nat) (ns : List Nat) : used ≤ ns.foldl (spend limit) used := by
  induction ns generalizing used with
  | nil => exact Nat.le_refl _
  | cons n rest ih => exact Nat.le_trans (le_spend limit used n) (ih _)

theorem map_fst_fill (limit used : Nat) (ns : List Nat) :
    (fill limit used ns).map Prod.fst = ns := by
  induction ns generalizing used with
  | nil => rfl
  | cons n rest ih => rw [fill, List.map_cons, ih]

/-- What is in use at the end is what was in use and what was admitted. -/
theorem foldl_spend_eq (limit used : Nat) (ns : List Nat) :
    ns.foldl (spend limit) used = used + admitted (fill limit used ns) := by
  induction ns generalizing used with
  | nil => rfl
  | cons n rest ih =>
      rw [List.foldl_cons, ih, fill, admitted, admitted, List.filter_cons, spend]
      by_cases h : used + n ≤ limit
      · rw [if_pos h, if_pos (decide_eq_true h), List.map_cons, List.sum_cons, Nat.add_assoc]
      · rw [if_neg h, if_neg (by simpa using h)]

/-- All are admitted just if all of them fit together. -/
theorem fill_all_iff (h : used ≤ limit) (ns : List Nat) :
    (∀ d ∈ fill limit used ns, d.2 = true) ↔ used + ns.sum ≤ limit := by
  induction ns generalizing used with
  | nil => simpa [fill] using h
  | cons n rest ih =>
      simp only [fill, List.forall_mem_cons, decide_eq_true_eq, List.sum_cons]
      constructor
      · rintro ⟨hn, hrest⟩
        rw [spend, if_pos hn, ih hn] at hrest
        omega
      · intro hsum
        have hn : used + n ≤ limit := by omega
        rw [spend, if_pos hn, ih hn]
        exact ⟨hn, by omega⟩

/-- What is denied does not fit in the room that is left at the end either. -/
theorem limit_lt_of_denied {ns : List Nat} {n : Nat} (h : (n, false) ∈ fill limit used ns) :
    limit < ns.foldl (spend limit) used + n := by
  induction ns generalizing used with
  | nil => exact nomatch h
  | cons m rest ih =>
      rcases List.mem_cons.1 h with heq | hrest
      · -- what was in use when it was denied is still in use at the end
        obtain ⟨rfl, hdenied⟩ := Prod.mk.inj heq
        have hover : ¬ used + n ≤ limit := of_decide_eq_false hdenied.symm
        have hgrown : used ≤ rest.foldl (spend limit) (spend limit used n) :=
          Nat.le_trans (le_spend limit used n) (le_foldl_spend limit _ rest)
        rw [List.foldl_cons]
        omega
      · exact ih hrest

/-- Of calls for one event each, those are denied that are too many. -/
theorem countP_denied (h : used ≤ limit) {ns : List Nat} (hones : ∀ n ∈ ns, n = 1) :
    (fill limit used ns).countP (fun d => !d.2) = ns.length - (limit - used) := by
  induction ns generalizing used with
  | nil => simp [fill]
  | cons n rest ih =>
      obtain ⟨rfl, hrest⟩ := List.forall_mem_cons.1 hones
      have hcount := ih (spend_le h 1) hrest
      rw [fill, List.countP_cons, hcount, List.length_cons]
      unfold spend
      by_cases hfit : used + 1 ≤ limit
      · simp only [hfit, if_true, decide_true, Bool.not_true, Bool.false_eq_true, if_false]
        omega
      · simp only [hfit, if_false, decide_false, Bool.not_false, if_true]
        omega

end Quota

/-! ### Accounts in a burst -/

namespace Account

variable {p : Nat → Prop} {a : Account} {used now n limit : Nat} {window : Duration}

/-- At each of some times the same number is in use. -/
def Holds (p : Nat → Prop) (used : Nat) (a : Account) : Prop := ∀ t, p t → (a.asOf t).used = used

theorem holds_fresh (p : Nat → Prop) : fresh.Holds p 0 := fun _ _ => rfl

/-- What is left of an account at one of these times is in use at all of them. -/
theorem Holds.left (h : a.Holds p used) (hnow : p now) : (a.asOf now).Holds p used := by
  rcases asOf_cases now a with ⟨hfresh, -⟩ | ⟨hsame, -⟩
  · obtain rfl : 0 = used := by
      rw [← h now hnow, hfresh]
      rfl
    exact hfresh ▸ holds_fresh p
  · exact hsame.symm ▸ h

/-- What is taken is in use as long as it does not lapse. -/
theorem holds_taken {lapse : Nat} (h : ∀ t, p t → t < lapse) (used : Nat) :
    Holds p used ⟨used, some lapse⟩ := by
  intro t ht
  have hlater : ¬ lapse ≤ t := Nat.not_le.2 (h t ht)
  simp only [asOf, hlater, if_false]

/-- **A decision in a burst admits what fits, and spends it.** -/
theorem Holds.take (h : a.Holds p used) (hnow : p now)
    (hlapse : ∀ t, p t → t < lapseAfter now window) (hused : used ≤ limit)
    (hrange : limit + n ≤ 9223372036854775807) :
    (a.take now n limit window).1 = .ok (decide (used + n ≤ limit)) ∧
      (a.take now n limit window).2.Holds p (Quota.spend limit used n) := by
  have hn : word n = n := word_of_le (by omega)
  have hlimit : word limit = limit := word_of_le (by omega)
  have hover : ¬ 9223372036854775807 < used + n := by omega
  unfold Account.take Quota.spend
  simp only [h now hnow, hn, hlimit, hover, if_false]
  by_cases hfit : used + n ≤ limit
  · simp only [hfit, if_true, decide_true, true_and]
    exact holds_taken hlapse _
  · simp only [hfit, if_false, decide_false, true_and]
    exact h.left hnow

/-- Nothing that is taken at one time lapses at another time that is less than the lifetime of the
keys later, unless that is the largest time. -/
theorem lt_lapseAfter_of_lt {later : Nat}
    (h : later < now + (SlidingScript.keyTtl (word window.clampedMillis)).millis)
    (hmost : later < maxWord) : later < lapseAfter now window := by
  unfold lapseAfter Keyspace.expiryAfter Duration.clampedMillis at *
  omega

end Account

/-- A decision in a burst that nothing bars admits what fits, and spends it. -/
theorem Keyspace.Shows.pay_of_holds {p : Nat → Prop} {ks : Keyspace} {v : Visit} {a : Account}
    {used : Nat} (hshows : ks.Shows v.key a) (h : a.Holds p used) (hbar : v.bar? = none)
    (hnow : p v.call.now) (hlapse : ∀ t, p t → t < Account.lapseAfter v.call.now v.window)
    (hused : used ≤ v.limit) (hrange : v.limit + v.n ≤ 9223372036854775807) :
    (v.pay ks).1 = .ok (decide (used + v.n ≤ v.limit)) ∧
      ∃ a', (v.pay ks).2.Shows v.key a' ∧ a'.Holds p (Quota.spend v.limit used v.n) := by
  obtain ⟨hanswer, hshows'⟩ := hshows.pay
  obtain ⟨htake, hholds⟩ := h.take hnow hlapse hused hrange
  rw [hanswer]
  refine ⟨?_, _, hshows', ?_⟩
  · simp only [Visit.onAccount, hbar, htake]
    rfl
  · simpa only [Visit.onAccount, hbar] using hholds

/-! ### Moves of one decision -/

/-- The decision that a move consists of: a whole call for a decision, or the first stretch of a
request in reject mode. -/
def Move.visit? (s : Setting) : Move → Option Visit
  | .allowN l ctx key n limit window => some (.within s l.clock ctx key n limit window)
  | .request _ l parent caller =>
      if l.waitMode then none else some (l.visit s (l.key caller) parent)
  | _ => none

theorem Move.visit?_key {s : Setting} {m : Move} {v : Visit} (h : m.visit? s = some v) :
    v.key = m.key := by
  cases m with
  | allowN l ctx key n limit window =>
      obtain rfl := Option.some.inj h
      rfl
  | request number l parent caller =>
      simp only [visit?] at h
      split at h
      · exact nomatch h
      · obtain rfl := Option.some.inj h
        rfl
  | _ => exact nomatch h

namespace Traffic

/-- What a move of one decision leaves is what the decision leaves. -/
theorem keyspace_step_of_visit {s : Setting} {m : Move} {v : Visit} (h : m.visit? s = some v)
    (t : Traffic) : (t.step s m).2.keyspace = (v.pay t.keyspace).2 := by
  cases m with
  | allowN l ctx key n limit window =>
      obtain rfl := Option.some.inj h
      rw [step_allowN]
  | request number l parent caller =>
      simp only [Move.visit?] at h
      split at h
      · exact nomatch h
      · obtain rfl := Option.some.inj h
        have hdecides := Layer.ask_decides (eq_false_of_ne_true ‹_›) s t.keyspace parent
          (l.key caller)
        exact (Layer.told_of_decides hdecides l (l.key caller)).2
  | _ => exact nomatch h

/-- What a move asks of a key, if it consists of a decision on the key that nothing bars. -/
def asked? (key : String) (x : Setting × Move) : Option Nat :=
  match x.2.visit? x.1 with
  | some v => if v.key = key ∧ v.bar?.isNone then some v.n else none
  | none => none

/-- What is asked of a key in a run, by the decisions that nothing bars. -/
def asked (key : String) (xs : List (Setting × Move)) : List Nat := xs.filterMap (asked? key)

/-- A move on a key that takes part in a burst: one decision with the limit and the window of the
burst, at one of its times, for a number that stays in the signed 64-bit range with the limit. -/
structure Spends (key : String) (limit : Nat) (window : Duration) (p : Nat → Prop)
    (x : Setting × Move) (v : Visit) : Prop where
  visit : x.2.visit? x.1 = some v
  key_eq : v.key = key
  limit_eq : v.limit = limit
  window_eq : v.window = window
  time : p v.call.now
  range : limit + v.n ≤ 9223372036854775807

/-- In the middle of a burst the slots of a key show that some number is in use, and it does not
lapse at the times of the burst. -/
structure Stands (key : String) (p : Nat → Prop) (used : Nat) (t : Traffic) : Prop where
  sound : t.paused.Sound fun _ => True
  shows : ∃ a, t.keyspace.Shows key a ∧ a.Holds p used

variable {key : String} {p : Nat → Prop} {used limit : Nat} {window : Duration} {t : Traffic}

theorem asked?_of_apart {x : Setting × Move} (h : Apart key x.2.key) : asked? key x = none := by
  unfold asked?
  split
  · rename_i v hv
    have hne : v.key ≠ key := fun he => h.1 (he.symm.trans (Move.visit?_key hv))
    simp [hne]
  · rfl

theorem Spends.asked?_eq {x : Setting × Move} {v : Visit} (h : Spends key limit window p x v) :
    asked? key x = if v.bar?.isNone then some v.n else none := by
  simp [asked?, h.visit, h.key_eq]

namespace Stands

/-- A move of a key apart leaves a burst where it stands. -/
theorem step_apart (h : Stands key p used t) (s : Setting) {m : Move} (hm : Apart key m.key) :
    Stands key p used (t.step s m).2 := by
  obtain ⟨a, hshows, hholds⟩ := h.shows
  obtain ⟨hevents, hcounter⟩ := get?_step_of_apart (fun _ _ => trivial) h.sound s hm
  exact ⟨sound_step (fun _ _ => trivial) h.sound s, a, hshows.congr hevents hcounter, hholds⟩

/-- **A decision of a burst that nothing bars admits what fits.** -/
theorem pay (h : Stands key p used t) {x : Setting × Move} {v : Visit}
    (hx : Spends key limit window p x v)
    (hlapse : ∀ t t', p t → p t' → t' < Account.lapseAfter t window) (hused : used ≤ limit)
    (hbar : v.bar? = none) :
    (v.pay t.keyspace).1 = .ok (decide (used + v.n ≤ limit)) ∧
      Stands key p (Quota.spend limit used v.n) (t.step x.1 x.2).2 := by
  obtain ⟨a, hshows, hholds⟩ := h.shows
  obtain ⟨hvisit, rfl, rfl, rfl, htime, hrange⟩ := hx
  obtain ⟨hanswer, hshows'⟩ := hshows.pay_of_holds hholds hbar htime
    (fun t ht => hlapse _ t htime ht) hused hrange
  refine ⟨hanswer, sound_step (fun _ _ => trivial) h.sound _, ?_⟩
  rwa [keyspace_step_of_visit hvisit]

/-- A move of a burst spends what it asks for. -/
theorem step (h : Stands key p used t) {x : Setting × Move}
    (hx : Apart key x.2.key ∨ ∃ v, Spends key limit window p x v)
    (hlapse : ∀ t t', p t → p t' → t' < Account.lapseAfter t window) (hused : used ≤ limit) :
    Stands key p ((asked? key x).toList.foldl (Quota.spend limit) used) (t.step x.1 x.2).2 := by
  rcases hx with hapart | ⟨v, hv⟩
  · rw [asked?_of_apart hapart]
    exact h.step_apart x.1 hapart
  · rw [hv.asked?_eq]
    cases hbar : v.bar? with
    | none => exact (h.pay hv hlapse hused hbar).2
    | some e =>
        -- a decision that is barred writes nothing
        obtain ⟨a, hshows, hholds⟩ := h.shows
        refine ⟨sound_step (fun _ _ => trivial) h.sound _, a, ?_, hholds⟩
        rw [keyspace_step_of_visit hv.visit, Visit.pay_of_bar hbar]
        exact hshows

/-- **The moves of a burst spend what they ask for**, one after the other. -/
theorem after {xs : List (Setting × Move)} (h : Stands key p used t)
    (hxs : ∀ x ∈ xs, Apart key x.2.key ∨ ∃ v, Spends key limit window p x v)
    (hlapse : ∀ t t', p t → p t' → t' < Account.lapseAfter t window) (hused : used ≤ limit) :
    Stands key p ((asked key xs).foldl (Quota.spend limit) used) (t.after xs) := by
  induction xs generalizing t used with
  | nil => exact h
  | cons x rest ih =>
      obtain ⟨hx, hrest⟩ := List.forall_mem_cons.1 hxs
      have hnext := ih (h.step hx hlapse hused) hrest (Quota.foldl_spend_le hused _)
      rw [← List.foldl_append] at hnext
      have hasked : asked key (x :: rest) = (asked? key x).toList ++ asked key rest := by
        cases hask : asked? key x <;> simp [asked, hask]
      rw [hasked]
      exact hnext

end Stands

end Traffic

/-! ### What a burst is answered -/

/-- What a call for a decision is answered, with what it asked for, unless it fails. -/
def Notice.answer? : Notice → Option (Nat × Bool)
  | .decided n (.ok admitted) => some (n, admitted)
  | _ => none

/-- What the calls for a decision on a key are answered in a run, without those that fail. -/
def Traffic.answers (key : String) (t : Traffic) (xs : List (Setting × Move)) :
    List (Nat × Bool) :=
  (t.results key xs).filterMap fun told => told.bind Notice.answer?

namespace Traffic

variable {key : String} {p : Nat → Prop} {used limit : Nat} {window : Duration} {t : Traffic}

/-- A call for a decision that asks for something that it can ask for, in a setting where nothing
is in its way, asks for it; any other one does not get to ask. -/
theorem asked?_allowN (s : Setting) (l : SlidingWindow) (ctx : ContextId) (n : Nat) :
    asked? key (s, .allowN l ctx key n limit window) =
      if (1 ≤ n ∧ 1 ≤ window.millis) ∧ s.status ctx = none ∧ s.backend = [] then some n
      else none := by
  have hbar : (Visit.within s l.clock ctx key n limit window).bar?.isNone ↔
      (1 ≤ n ∧ 1 ≤ window.millis) ∧ s.status ctx = none ∧ s.backend = [] := by
    rw [Option.isNone_iff_eq_none]
    exact Visit.bar?_eq_none_iff
  simp only [asked?, Move.visit?]
  by_cases h : (Visit.within s l.clock ctx key n limit window).bar?.isNone
  · rw [if_pos ⟨rfl, h⟩, if_pos (hbar.1 h)]
    rfl
  · rw [if_neg (fun h' => h h'.2), if_neg (fun h' => h (hbar.2 h'))]

/-- A call for a decision with the limit and the window of a burst takes part in it. -/
theorem spends_allowN {s : Setting} (l : SlidingWindow) (ctx : ContextId) {n : Nat}
    (htime : p s.storeReading) (hrange : limit + n ≤ 9223372036854775807) :
    Spends key limit window p (s, .allowN l ctx key n limit window)
      (.within s l.clock ctx key n limit window) :=
  ⟨rfl, rfl, rfl, rfl, htime, hrange⟩

/-- A call of a burst is answered whether what it asks for fits, if it gets to ask. -/
theorem Stands.answer (h : Stands key p used t) {s : Setting} (l : SlidingWindow) (ctx : ContextId)
    {n : Nat} (htime : p s.storeReading) (hrange : limit + n ≤ 9223372036854775807)
    (hlapse : ∀ t t', p t → p t' → t' < Account.lapseAfter t window) (hused : used ≤ limit) :
    (t.step s (.allowN l ctx key n limit window)).1.told.bind Notice.answer? =
      (asked? key (s, .allowN l ctx key n limit window)).map fun n =>
        (n, decide (used + n ≤ limit)) := by
  have hspends : Spends key limit window p _ _ := spends_allowN l ctx htime hrange
  rw [step_allowN, hspends.asked?_eq]
  cases hbar : (Visit.within s l.clock ctx key n limit window).bar? with
  | none =>
      simp only [(h.pay hspends hlapse hused hbar).1]
      rfl
  | some e =>
      simp only [Visit.pay_of_bar hbar]
      rfl

/-- **The calls of a burst are answered as a quota is filled.** -/
theorem Stands.answers {xs : List (Setting × Move)} (h : Stands key p used t)
    (hxs : ∀ x ∈ xs, Apart key x.2.key ∨ ∃ l ctx n, x.2 = .allowN l ctx key n limit window ∧
      limit + n ≤ 9223372036854775807)
    (htimes : ∀ x ∈ xs, x.2.key = key → p x.1.storeReading)
    (hlapse : ∀ t t', p t → p t' → t' < Account.lapseAfter t window) (hused : used ≤ limit) :
    t.answers key xs = Quota.fill limit used (asked key xs) := by
  induction xs generalizing t used with
  | nil => rfl
  | cons x rest ih =>
      obtain ⟨s, m⟩ := x
      obtain ⟨hx, hrest⟩ := List.forall_mem_cons.1 hxs
      obtain ⟨htime, htimes'⟩ := List.forall_mem_cons.1 htimes
      rcases hx with hapart | ⟨l, ctx, n, rfl, hrange⟩
      · -- a move of a key apart is no call of the burst
        have hne : m.key ≠ key := hapart.1.symm
        have hnone := asked?_of_apart (x := (s, m)) hapart
        rw [Traffic.answers, results_cons_of_ne hne, asked, List.filterMap_cons_none hnone]
        exact ih (h.step_apart s hapart) hrest htimes' hused
      · have hkey : (Move.allowN l ctx key n limit window).key = key := rfl
        have htime : p s.storeReading := htime rfl
        have hspends : Spends key limit window p _ _ := spends_allowN l ctx htime hrange
        have hanswer := h.answer l ctx htime hrange hlapse hused
        have hnext := h.step (.inr ⟨_, hspends⟩) hlapse hused
        have hrec := ih hnext hrest htimes' (Quota.foldl_spend_le hused _)
        rw [Traffic.answers, results_cons_of_eq hkey, asked, List.filterMap_cons,
          List.filterMap_cons, hanswer]
        cases hask : asked? key (s, .allowN l ctx key n limit window) with
        | none =>
            rw [hask] at hrec
            exact hrec
        | some n' =>
            rw [hask] at hrec
            exact congrArg (_ :: ·) hrec

/-- **In every order, a burst on a fresh key fills its quota greedily.**  The calls on the key ask
under one limit and one window, each for a number that stays in the signed 64-bit range with the
limit; they are made before the largest time that a clock can show, within less than the lifetime of
the keys of each other.  Moves of keys apart may stand between them.  Exactly those calls are
answered that get to ask.  All of them are admitted just if all that they ask for is within the
limit.  Never more than the limit is admitted, and what was denied does not fit in the room that is
left at the end.  If each of them asks for one event, as many are denied as are too many. -/
theorem answers_burst {prior calls order : List (Setting × Move)}
    (hfresh : (start.after prior).keyspace.get? key = none ∧
      (start.after prior).keyspace.get? (SlidingScript.counterKey key) = none)
    (hcalls : ∀ x ∈ calls, Apart key x.2.key ∨ ∃ l ctx n,
      x.2 = .allowN l ctx key n limit window ∧ limit + n ≤ 9223372036854775807)
    (htimes : ∀ x ∈ calls, x.2.key = key → x.1.storeReading < maxWord ∧
      ∀ y ∈ calls, y.2.key = key → y.1.storeReading < x.1.storeReading +
        (SlidingScript.keyTtl (Account.word window.clampedMillis)).millis)
    (horder : order.Perm calls) :
    let ds := (start.after prior).answers key order
    (ds.map Prod.fst).Perm (asked key calls) ∧
      ((∀ d ∈ ds, d.2 = true) ↔ (asked key calls).sum ≤ limit) ∧
      Quota.admitted ds ≤ limit ∧
      (∀ d ∈ ds, d.2 = false → limit - Quota.admitted ds < d.1) ∧
      ((∀ n ∈ asked key calls, n = 1) →
        ds.countP (fun d => !d.2) = (asked key calls).length - limit) := by
  let p (time : Nat) : Prop := ∃ x ∈ calls, x.2.key = key ∧ x.1.storeReading = time
  have hlapse : ∀ time later, p time → p later → later < Account.lapseAfter time window := by
    rintro _ _ ⟨x, hx, hxkey, rfl⟩ ⟨y, hy, hykey, rfl⟩
    exact Account.lt_lapseAfter_of_lt ((htimes x hx hxkey).2 y hy hykey) (htimes y hy hykey).1
  have hstands : Stands key p 0 (start.after prior) := by
    refine ⟨sound_after (fun _ _ _ _ => trivial) (sound_start _), .fresh, ⟨?_, ?_⟩,
      Account.holds_fresh p⟩
    · rw [hfresh.1]
      exact trivial
    · rw [hfresh.2]
      exact .absent
  have hfill : (start.after prior).answers key order = Quota.fill limit 0 (asked key order) :=
    hstands.answers (fun x hx => hcalls x (horder.mem_iff.1 hx))
      (fun x hx hkey => ⟨x, horder.mem_iff.1 hx, hkey, rfl⟩) hlapse (Nat.zero_le _)
  -- only the total and the number of what is asked for matter, and these have no order
  have hasked : (asked key order).Perm (asked key calls) := horder.filterMap _
  have htotal := Quota.foldl_spend_eq limit 0 (asked key order)
  have hmost := Quota.foldl_spend_le (Nat.zero_le limit) (asked key order)
  intro ds
  simp only [ds, hfill]
  refine ⟨?_, ?_, by omega, ?_, fun hones => ?_⟩
  · rw [Quota.map_fst_fill]
    exact hasked
  · rw [Quota.fill_all_iff (Nat.zero_le _), hasked.sum_nat, Nat.zero_add]
  · rintro ⟨n, admitted⟩ hd rfl
    have hover := Quota.limit_lt_of_denied hd
    change _ < n
    omega
  · rw [Quota.countP_denied (Nat.zero_le _) fun n hn => hones n (hasked.mem_iff.1 hn),
      hasked.length_eq, Nat.sub_zero]

/-- Three calls for one event each with room for two, a call on another key between them: in the
reverse order too just one of them is denied. -/
theorem answers_burst_reverse :
    let calls : List (Setting × Move) :=
      [(World.start 0 0 [], .allowN .plain 0 "a" 1 2 (Duration.ofMillis 1000)),
        (World.start 0 500 [], .allowN .plain 0 "b" 1 2 (Duration.ofMillis 1000)),
        (World.start 0 900 [], .allowN .plain 0 "a" 1 2 (Duration.ofMillis 1000)),
        (World.start 0 1900 [], .allowN .plain 0 "a" 1 2 (Duration.ofMillis 1000))]
    (start.answers "a" calls.reverse).countP (fun d => !d.2) = 1 := by
  intro calls
  have hcalls : ∀ x ∈ calls, Apart "a" x.2.key ∨ ∃ l ctx n,
      x.2 = .allowN l ctx "a" n 2 (Duration.ofMillis 1000) ∧ 2 + n ≤ 9223372036854775807 := by
    simp only [calls, List.forall_mem_cons, List.not_mem_nil, false_implies, implies_true, and_true]
    exact ⟨.inr ⟨_, _, _, rfl, by decide⟩, .inl (by decide), .inr ⟨_, _, _, rfl, by decide⟩,
      .inr ⟨_, _, _, rfl, by decide⟩⟩
  have hburst := @answers_burst "a" 2 (Duration.ofMillis 1000) [] calls calls.reverse ⟨rfl, rfl⟩
    hcalls (by decide +kernel) calls.reverse_perm
  exact hburst.2.2.2.2 (by decide +kernel)

/-- At the largest time that a clock can show every entry is due at once: two calls for one event
are admitted at the same time, though there is room for one. -/
theorem answers_at_largest_time :
    let call : Setting × Move := (World.start maxWord maxWord [],
      .allowN oneASecond.limiter 0 "k" 1 1 (Duration.ofMillis 1000))
    start.keyspace.get? "k" = none ∧
      start.keyspace.get? (SlidingScript.counterKey "k") = none ∧
      asked "k" [call, call] = [1, 1] ∧
      start.answers "k" [call, call] = [(1, true), (1, true)] ∧
      Quota.admitted (start.answers "k" [call, call]) = 2 :=
  ⟨rfl, rfl, by decide +kernel, by decide +kernel, by decide +kernel⟩

end Traffic

end Turnstile
