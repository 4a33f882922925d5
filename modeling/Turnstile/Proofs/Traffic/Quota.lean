/-
**What a decision answers about the quota in use.**

Suppose that `c` events of a key are in use.  In unbounded numbers a call for `n` more would be
admitted just if `c + n` is within the limit, and denied otherwise.  The script counts in signed
64-bit words: it takes `n` and the limit for the greatest word where they are beyond it, and it
fails where the sum leaves the range.  So a request that is over quota by far is not denied: the
call fails as if the store had failed, and whoever lets requests through on failures of the store
lets it through.

Main definitions:

* `Account.verdict` — the answer of the script about a number in use.

Main results:

* `Account.take_eq_verdict` — a decision on an account answers about what is left of it;
* `Account.verdict_eq_iff` — where this is the answer of unbounded numbers;
* `Traffic.decided_eq_verdict` — **what a call answers in every state that runs come to**.
-/

import Mathlib.Control.Monad.Basic
import Turnstile.Proofs.Traffic.Charges

set_option relaxedAutoImplicit false
set_option autoImplicit false

namespace Turnstile

open SlidingScript (counterKey)

namespace Account

/-- What the script answers about `n` events under a limit while `used` are in use. -/
def verdict (used n limit : Nat) : Except StoreError Bool :=
  if 9223372036854775807 < used + word n then .error Keyspace.overflow
  else .ok (decide (used + word n ≤ word limit))

/-- A decision answers about what is left of the account. -/
theorem take_eq_verdict (now n limit : Nat) (window : Duration) (a : Account) :
    (a.take now n limit window).1 = verdict (a.asOf now).used n limit := by
  unfold take verdict
  by_cases hover : 9223372036854775807 < (a.asOf now).used + word n
  · simp only [hover, if_true]
  · by_cases hfit : (a.asOf now).used + word n ≤ word limit <;> simp [hover, hfit]

/-- The only failure is that of the script. -/
theorem mapError_verdict (key : String) (used n limit : Nat) :
    (verdict used n limit).mapError (LimiterError.ofStore .allowN key) =
      (verdict used n limit).mapError (.store .allowN key) := by
  unfold verdict
  split <;> rfl

/-- The script answers as unbounded numbers do exactly if the sum stays in the range, or nothing is
in use and the limit is no word cut short that `n` exceeds. -/
theorem verdict_eq_iff (used n limit : Nat) :
    verdict used n limit = .ok (decide (used + n ≤ limit)) ↔
      used + n ≤ 9223372036854775807 ∨ used = 0 ∧ (limit < 9223372036854775807 ∨ n ≤ limit) := by
  unfold verdict
  by_cases hover : 9223372036854775807 < used + word n
  · -- a failure is no answer, and the sum is beyond the range
    simp only [hover, if_true, reduceCtorEq, false_iff]
    unfold word at hover
    omega
  · simp only [hover, if_false, Except.ok.injEq, decide_eq_decide]
    unfold word at hover ⊢
    omega

end Account

/-- A decision that nothing bars answers about what is left of the account of its key. -/
theorem Keyspace.Shows.pay_eq_verdict {ks : Keyspace} {v : Visit} {a : Account}
    (h : ks.Shows v.key a) (hbar : v.bar? = none) :
    (v.pay ks).1 = (Account.verdict (a.asOf v.call.now).used v.n v.limit).mapError
      (LimiterError.ofStore .allowN v.key) := by
  rw [h.pay.1, Visit.onAccount, hbar, ← Account.take_eq_verdict]

namespace Traffic

variable {key : String}

/-- After a run on the key and on keys apart, the two slots of the key show an account. -/
theorem shows_after {t : Traffic} {xs : List (Setting × Move)} {a : Account}
    (hkeys : ∀ x ∈ xs, x.2.key = key ∨ Apart key x.2.key)
    (hpaused : t.paused.Sound fun _ => True) (hshows : t.keyspace.Shows key a) :
    ∃ a' : Account, (t.after xs).keyspace.Shows key a' := by
  induction xs generalizing t a with
  | nil => exact ⟨a, hshows⟩
  | cons x rest ih =>
      obtain ⟨s, m⟩ := x
      obtain ⟨hkey, hkeys⟩ := List.forall_mem_cons.1 hkeys
      obtain ⟨a', hshows', -⟩ := moves_step hkey (fun _ _ => trivial) hpaused hshows
      exact ih hkeys (sound_step (fun _ _ => trivial) hpaused s) hshows'

/-- **What a call for a decision answers** in any state that a run comes to, while its context is
not finished and no fault waits.  The counter of the key reads some number in use.  The call answers
about this number as the script does, which is the answer of unbounded numbers exactly if the sum
stays in the signed 64-bit range, or nothing is in use and the limit is no word cut short that the
call exceeds. -/
theorem decided_eq_verdict {xs : List (Setting × Move)}
    (hkeys : ∀ x ∈ xs, x.2.key ≠ counterKey key ∧ key ≠ counterKey x.2.key)
    {s : Setting} {l : SlidingWindow} {ctx : ContextId} {n limit : Nat} {window : Duration}
    (hlive : s.status ctx = none) (hfaults : s.backend = []) (hn : 1 ≤ n)
    (hwindow : 1 ≤ window.millis) :
    ∃ used : Nat, (start.after xs).keyspace.counter s.storeReading key = .ok used ∧
      let told := ((start.after xs).step s (.allowN l ctx key n limit window)).1.told
      told = some (.decided n ((Account.verdict used n limit).mapError (.store .allowN key))) ∧
      (told = some (.decided n (.ok (decide (used + n ≤ limit)))) ↔
        used + n ≤ 9223372036854775807 ∨
          used = 0 ∧ (limit < 9223372036854775807 ∨ n ≤ limit)) := by
  have hapart : ∀ x ∈ xs, x.2.key = key ∨ Apart key x.2.key := fun x hx =>
    eq_or_apart (hkeys x hx).1 (hkeys x hx).2
  obtain ⟨a, hshows⟩ := shows_after hapart (sound_start _) (Keyspace.shows_empty key)
  have hbar : (Visit.within s l.clock ctx key n limit window).bar? = none :=
    Visit.bar?_eq_none_iff.2 ⟨⟨hn, hwindow⟩, hlive, hfaults⟩
  -- what the counter reads is what is left of the account
  have hcounter : (start.after xs).keyspace.counter s.storeReading key =
      .ok ((a.asOf s.storeReading).used : Nat) := by
    have hused : (a.asOf s.storeReading).used =
        if (start.after xs).keyspace.due s.storeReading key then 0 else a.used :=
      hshows.counter.used_asOf s.storeReading
    rw [hshows.counter_eq, hused]
    split <;> rfl
  have hanswer : ((Visit.within s l.clock ctx key n limit window).pay
      (start.after xs).keyspace).1 =
        (Account.verdict (a.asOf s.storeReading).used n limit).mapError (.store .allowN key) :=
    (Keyspace.Shows.pay_eq_verdict (v := .within s l.clock ctx key n limit window) hshows
      hbar).trans (Account.mapError_verdict key _ n limit)
  refine ⟨(a.asOf s.storeReading).used, hcounter, ?_⟩
  simp only [step_allowN, hanswer, true_and, Option.some.injEq, Notice.decided.injEq]
  rw [← Account.verdict_eq_iff]
  cases Account.verdict (a.asOf s.storeReading).used n limit <;> simp [Except.mapError]

/-- One event of ten is in use, and ten more do not fit. -/
theorem decided_eq_verdict_ten_more :
    ((start.after [(World.start 0 0 [], .allowN .plain 0 "a" 1 10 (Duration.ofMillis 1000))]).step
        (World.start 0 500 []) (.allowN .plain 0 "a" 10 10 (Duration.ofMillis 1000))).1.told =
      some (.decided 10 (.ok false)) := by
  obtain ⟨used, hused, htold, -⟩ := @decided_eq_verdict "a"
    [(World.start 0 0 [], .allowN .plain 0 "a" 1 10 (Duration.ofMillis 1000))] (by decide)
    (World.start 0 500 []) .plain 0 10 10 (Duration.ofMillis 1000) (by decide) rfl (by decide)
    (by decide)
  obtain rfl : used = 1 := by
    have hone : (start.after [(World.start 0 0 [],
        .allowN .plain 0 "a" 1 10 (Duration.ofMillis 1000))]).keyspace.counter 500 "a" =
          .ok (1 : Nat) := by decide +kernel
    exact Int.ofNat_inj.1 (Except.ok.inj (hused.symm.trans hone))
  exact htold

/-- One event of ten is in use, and as many more as a signed word can count are not denied: the call
fails. -/
theorem told_overflow :
    ((start.after [(World.start 0 0 [], .allowN .plain 0 "a" 1 10 (Duration.ofMillis 1000))]).step
        (World.start 0 500 [])
        (.allowN .plain 0 "a" 9223372036854775807 10 (Duration.ofMillis 1000))).1.told =
      some (.decided 9223372036854775807 (.error (.store .allowN "a" Keyspace.overflow))) :=
  (congrArg (fun r => r.1.told) (step_allowN ..)).trans
    (congrArg (fun answer => some (Notice.decided _ answer)) (by decide +kernel))

end Traffic

end Turnstile
