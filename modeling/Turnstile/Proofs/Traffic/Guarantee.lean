/-
**The guarantee of the sliding window.**

No window of a limiter key ever sees more events admitted than its limit, whoever else uses the
store.  The program does not count events by windows: it keeps one sum per key and drops it when it
lapses, and every admission puts the lapse off.  What makes this enough is that a sum lapses only
after the window of the last admission has passed, so at any time what is in use covers everything
that was admitted within the window before.  An admission closes every window that it lies in, and
what is in use by then is within the limit.

Main definitions:

* `Event.charged` — what the events of a key charge that are as a condition says;
* `Event.chargedWithin` — what they charge in one closed window;
* `Account.Covers` — an account covers what was charged before.

Main results:

* `Account.Covers.idle`, `Account.Covers.admitted` — one decision keeps this;
* `Traffic.chargedWithin_le` — **every closed window is charged at most the limit**.
-/

import Mathlib.Algebra.Ring.Nat
import Turnstile.Proofs.Traffic.Run

set_option relaxedAutoImplicit false
set_option autoImplicit false

namespace Turnstile

/-! ### What events charge -/

namespace Event

/-- What the events of a key charge that satisfy `p`. -/
def charged (key : String) (p : Event → Bool) (es : List Event) : Nat :=
  ((es.filter fun e => e.key = key ∧ p e).map charge).sum

/-- What the events of a key charge in the closed window that begins at `t` nanoseconds. -/
def chargedWithin (key : String) (window : Duration) (t : Nat) (es : List Event) : Nat :=
  charged key
    (fun e => t ≤ e.time * 1000000 ∧ e.time * 1000000 ≤ t + window.nanos) es

variable {key : String} {p q : Event → Bool} {es : List Event} {e : Event}

theorem charged_append (key : String) (p : Event → Bool) (es es' : List Event) :
    charged key p (es ++ es') = charged key p es + charged key p es' := by
  simp [charged, List.filter_append, List.map_append, List.sum_append]

theorem charged_singleton (h : e.key = key) (hp : p e = true) : charged key p [e] = e.charge := by
  simp [charged, h, hp]

/-- An event of another key, one that charges nothing and one that is not as `p` says do not
count. -/
theorem charged_singleton_of_not (h : e.key = key → p e = true → e.charge = 0) :
    charged key p [e] = 0 := by
  by_cases hkey : e.key = key
  · by_cases hp : p e = true
    · rw [charged_singleton hkey hp]
      exact h hkey hp
    · simp [charged, hp]
  · simp [charged, hkey]

/-- A condition that holds more often charges no less. -/
theorem charged_mono (h : ∀ e ∈ es, p e = true → q e = true) :
    charged key p es ≤ charged key q es := by
  induction es with
  | nil => exact Nat.le_refl _
  | cons e rest ih =>
      have hrest := ih fun e' he' => h e' (List.mem_cons_of_mem e he')
      have hfirst : charged key p [e] ≤ charged key q [e] := by
        by_cases hkey : e.key = key
        · by_cases hp : p e = true
          · have hq : q e = true := h e List.mem_cons_self hp
            exact Nat.le_of_eq (by rw [charged_singleton hkey hp, charged_singleton hkey hq])
          · simp [charged, hp]
        · simp [charged, hkey]
      calc charged key p ([e] ++ rest)
          = charged key p [e] + charged key p rest := charged_append key p [e] rest
        _ ≤ charged key q [e] + charged key q rest := Nat.add_le_add hfirst hrest
        _ = charged key q ([e] ++ rest) := (charged_append key q [e] rest).symm

/-- Where no event is as `p` says nothing is charged. -/
theorem charged_eq_zero (h : ∀ e ∈ es, p e = false) : charged key p es = 0 := by
  have hfilter : (es.filter fun e => e.key = key ∧ p e) = [] := by
    rw [List.filter_eq_nil_iff]
    intro e he
    simp [h e he]
  rw [charged, hfilter]
  rfl

end Event

/-! ### Accounts that cover what was charged -/

/-- An account of a key under a limit covers the events until `now`: it is within the limit, at any
later time it covers what was charged within the window before, and no window was charged more than
the limit. -/
structure Account.Covers (a : Account) (key : String) (limit : Nat) (window : Duration) (now : Nat)
    (es : List Event) : Prop where
  within : a.used ≤ limit
  past : ∀ e ∈ es, e.time ≤ now
  recent : ∀ later, now ≤ later →
    Event.charged key (fun e => later ≤ e.time + window.millis) es ≤ (a.asOf later).used
  windows : ∀ t, Event.chargedWithin key window t es ≤ limit

namespace Account

variable {a a' : Account} {key : String} {limit : Nat} {window : Duration} {now : Nat}
  {es : List Event}

theorem covers_fresh (key : String) (limit : Nat) (window : Duration) :
    fresh.Covers key limit window 0 [] :=
  ⟨Nat.zero_le _, by simp, fun _ _ => Nat.le_refl _, fun _ => Nat.zero_le _⟩

theorem used_asOf_le (a : Account) (now : Nat) : (a.asOf now).used ≤ a.used := by
  rcases asOf_cases now a with ⟨h, -⟩ | ⟨h, -⟩ <;> simp [h, fresh]

/-- An event that charges the key nothing, after which the account is the same or what was left of
it. -/
theorem Covers.idle (h : a.Covers key limit window now es) {e : Event} (hnow : now ≤ e.time)
    (hcharge : e.key = key → e.charge = 0) (ha : a' = a ∨ a' = a.asOf e.time) :
    a'.Covers key limit window e.time (es ++ [e]) := by
  have hzero (p : Event → Bool) : Event.charged key p [e] = 0 :=
    Event.charged_singleton_of_not fun hkey _ => hcharge hkey
  have hsame (later : Nat) (hlater : e.time ≤ later) : a'.asOf later = a.asOf later := by
    rcases ha with rfl | rfl
    · rfl
    · exact asOf_asOf hlater a
  refine ⟨?_, ?_, fun later hlater => ?_, fun t => ?_⟩
  · rcases ha with rfl | rfl
    · exact h.within
    · exact Nat.le_trans (used_asOf_le a e.time) h.within
  · intro e' he'
    rcases List.mem_append.1 he' with he' | he'
    · exact Nat.le_trans (h.past e' he') hnow
    · exact Nat.le_of_eq (congrArg Event.time (List.mem_singleton.1 he'))
  · rw [Event.charged_append, hzero, hsame later hlater]
    exact h.recent later (Nat.le_trans hnow hlater)
  · rw [Event.chargedWithin, Event.charged_append, hzero]
    exact h.windows t

/-- An event that is charged to the account, which lapses after the window has passed. -/
theorem Covers.admitted (h : a.Covers key limit window now es) {e : Event} (hnow : now ≤ e.time)
    (hkey : e.key = key) {lapse : Nat} (hlapse : e.time + window.millis < lapse)
    (hfit : (a.asOf e.time).used + e.charge ≤ limit) :
    Covers ⟨(a.asOf e.time).used + e.charge, some lapse⟩ key limit window e.time (es ++ [e]) := by
  have hpast : ∀ e' ∈ es ++ [e], e'.time ≤ e.time := by
    intro e' he'
    rcases List.mem_append.1 he' with he' | he'
    · exact Nat.le_trans (h.past e' he') hnow
    · exact Nat.le_of_eq (congrArg Event.time (List.mem_singleton.1 he'))
  have hrecent := h.recent e.time hnow
  refine ⟨hfit, hpast, fun later hlater => ?_, fun t => ?_⟩
  · by_cases hin : later ≤ e.time + window.millis
    · -- the sum has not lapsed, and what was charged before still counts
      have hleft : asOf later ⟨(a.asOf e.time).used + e.charge, some lapse⟩ =
          ⟨(a.asOf e.time).used + e.charge, some lapse⟩ := by
        simp only [asOf, Nat.not_le.2 (Nat.lt_of_le_of_lt hin hlapse), if_false]
      have hbefore : Event.charged key (fun e => later ≤ e.time + window.millis) es ≤
          Event.charged key (fun e' => e.time ≤ e'.time + window.millis) es :=
        Event.charged_mono fun e' _ hp => by
          simp only [decide_eq_true_eq] at hp ⊢
          omega
      rw [Event.charged_append, Event.charged_singleton hkey (by simpa using hin), hleft]
      exact Nat.add_le_add_right (Nat.le_trans hbefore hrecent) _
    · -- every event is out of the window by now
      rw [Event.charged_eq_zero fun e' he' => ?_]
      · exact Nat.zero_le _
      · have := hpast e' he'
        simp only [decide_eq_false_iff_not]
        omega
  · by_cases hin : t ≤ e.time * 1000000 ∧ e.time * 1000000 ≤ t + window.nanos
    · -- whatever lies in this window is recent when the event happens
      have hbefore : Event.chargedWithin key window t es ≤
          Event.charged key (fun e' => e.time ≤ e'.time + window.millis) es :=
        Event.charged_mono fun e' _ hp => by
          have hmillis : window.millis = window.nanos / 1000000 := rfl
          simp only [decide_eq_true_eq] at hp ⊢
          omega
      rw [Event.chargedWithin, Event.charged_append,
        Event.charged_singleton hkey (by simpa using hin)]
      exact Nat.le_trans (Nat.add_le_add_right (Nat.le_trans hbefore hrecent) _) hfit
    · rw [Event.chargedWithin, Event.charged_append,
        Event.charged_singleton_of_not fun _ hp => absurd (by simpa using hp) hin]
      exact h.windows t

end Account

/-! ### Runs -/

namespace Traffic

variable {key : String} {limit : Nat} {window : Duration}

/-- A bid for the key asks for its limit and its window. -/
def Agreed (key : String) (limit : Nat) (window : Duration) (b : Bid) : Prop :=
  b.key = key → b.limit = limit ∧ b.window = window

/-- **One move keeps the account of a key covering what was charged**: the move is for another key
that shares nothing with it, or asks for its limit and its window. -/
theorem covers_step {t : Traffic} {s : Setting} {m : Move} {a : Account} {now : Nat}
    {es : List Event} (hlimit : limit < 9223372036854775807)
    (hwindow : window.millis ≤ 9223372036854775807) (hkey : m.key = key ∨ Apart key m.key)
    (hreset : m.key = key → m.resets = false)
    (hm : ∀ b ∈ m.bid?, Agreed key limit window b)
    (hpaused : t.paused.Sound (Agreed key limit window)) (hnow : now ≤ s.storeReading)
    (hbound : s.storeReading < 4611686018427387904) (hshows : t.keyspace.Shows key a)
    (hcovers : a.Covers key limit window now es) :
    ∃ a' : Account, (t.step s m).2.keyspace.Shows key a' ∧
      a'.Covers key limit window s.storeReading (es ++ [t.event s m]) := by
  obtain ⟨a', hshows', hmoves⟩ := moves_step hkey hm hpaused hshows
  refine ⟨a', hshows', ?_⟩
  have hnow' : now ≤ (t.event s m).time := hnow
  cases hmoves with
  | same charge _ _ => exact hcovers.idle hnow' charge (Or.inl rfl)
  | left _ charge _ => exact hcovers.idle hnow' (fun _ => charge) (Or.inr rfl)
  | taken b hsame hbkey ok charge _ _ fit =>
      obtain ⟨hlimit', hwindow'⟩ := ok hbkey
      rw [hlimit', Account.word_of_le (Nat.le_of_lt hlimit)] at fit
      -- as the limit is below the greatest word, what fits is no word cut short
      have hword : Account.word b.n = b.n := by
        unfold Account.word at fit ⊢
        omega
      rw [hword, ← charge] at fit
      rw [hword, ← charge, hwindow']
      exact hcovers.admitted hnow' hsame (Account.lt_lapseAfter hbound hwindow) fit
  | cleared hsame reset _ _ =>
      rw [hreset hsame] at reset
      exact absurd reset (by decide)

/-- A run keeps the account of a key covering what was charged. -/
theorem covers_events {t : Traffic} {xs : List (Setting × Move)} {a : Account} {now : Nat}
    {es : List Event} (hlimit : limit < 9223372036854775807)
    (hwindow : window.millis ≤ 9223372036854775807)
    (hkeys : ∀ x ∈ xs, x.2.key = key ∨ Apart key x.2.key)
    (hresets : ∀ x ∈ xs, x.2.key = key → x.2.resets = false)
    (hbids : ∀ x ∈ xs, ∀ b ∈ x.2.bid?, Agreed key limit window b)
    (hpaused : t.paused.Sound (Agreed key limit window))
    (hclock : xs.Pairwise fun x y => x.1.storeReading ≤ y.1.storeReading)
    (hnow : ∀ x ∈ xs, now ≤ x.1.storeReading)
    (hbound : ∀ x ∈ xs, x.1.storeReading < 4611686018427387904)
    (hshows : t.keyspace.Shows key a) (hcovers : a.Covers key limit window now es) :
    ∃ (a' : Account) (later : Nat), a'.Covers key limit window later (es ++ t.events xs) := by
  induction xs generalizing t a now es with
  | nil => exact ⟨a, now, by simpa [events] using hcovers⟩
  | cons x rest ih =>
      obtain ⟨s, m⟩ := x
      obtain ⟨hfirst, hclock⟩ := List.pairwise_cons.1 hclock
      obtain ⟨hkey, hkeys⟩ := List.forall_mem_cons.1 hkeys
      obtain ⟨hreset, hresets⟩ := List.forall_mem_cons.1 hresets
      obtain ⟨hm, hbids⟩ := List.forall_mem_cons.1 hbids
      obtain ⟨hnow, -⟩ := List.forall_mem_cons.1 hnow
      obtain ⟨hlt, hbound⟩ := List.forall_mem_cons.1 hbound
      obtain ⟨a', hshows', hcovers'⟩ := covers_step hlimit hwindow hkey hreset hm hpaused hnow hlt
        hshows hcovers
      obtain ⟨a'', later, h⟩ := ih hkeys hresets hbids (sound_step hm hpaused s) hclock hfirst
        hbound hshows' hcovers'
      exact ⟨a'', later, by simpa [events] using h⟩

/-- **Every closed window of a limiter key is charged at most the limit.**  All calls on the key ask
for this limit and this window and none resets it, other keys share no physical key with it, and the
clock of the store does not go back. -/
theorem chargedWithin_le {xs : List (Setting × Move)} (hlimit : limit < 9223372036854775807)
    (hwindow : window.millis ≤ 9223372036854775807)
    (hkeys : ∀ x ∈ xs, x.2.key = key ∨ Apart key x.2.key)
    (hresets : ∀ x ∈ xs, x.2.key = key → x.2.resets = false)
    (hbids : ∀ x ∈ xs, ∀ b ∈ x.2.bid?, b.key = key → b.limit = limit ∧ b.window = window)
    (hclock : xs.Pairwise fun x y => x.1.storeReading ≤ y.1.storeReading)
    (hbound : ∀ x ∈ xs, x.1.storeReading < 4611686018427387904) (t : Nat) :
    Event.chargedWithin key window t (start.events xs) ≤ limit := by
  obtain ⟨a, later, h⟩ := covers_events hlimit hwindow hkeys hresets hbids (sound_start _) hclock
    (fun _ _ => Nat.zero_le _) hbound (Keyspace.shows_empty key)
    (Account.covers_fresh key limit window)
  exact h.windows t

/-- One event fits in a second; the next one waits until the first has lapsed. -/
theorem chargedWithin_le_one_event :
    let xs : List (Setting × Move) :=
      [(World.start 0 0 [], .allowN .plain 0 "a" 1 1 (Duration.ofMillis 1000)),
        (World.start 0 1000 [], .wait 0 .plain 0 "a" 1 (Duration.ofMillis 1000)),
        (World.start 0 1500 [], .allowN .plain 0 "b" 5 9 (Duration.ofMillis 10)),
        (World.start 0 2000 [], .resume ⟨"a", 0⟩ .timer)]
    (start.events xs).map Event.charge = [1, 0, 5, 1] ∧
      Event.chargedWithin "a" (Duration.ofMillis 1000) 0 (start.events xs) ≤ 1 :=
  ⟨by decide +kernel, chargedWithin_le (by decide) (by decide) (by decide) (by decide) (by decide)
    (by decide) (by decide) 0⟩

end Traffic

end Turnstile
