/-
**Decisions and resets on the store in memory.**

A decision depends on its circumstances and on two slots of the keyspace.  Its circumstances alone
say whether it is barred: by its arguments, by a finished context, or by a fault that waits in the
store.  A barred decision answers why and leaves the entries as they were.  Any other one settles
the two slots of its key.  So it leaves alone whatever shares no physical key with its own, and is
not changed by it.

Main definitions:

* `MemoryStore.holding` — a store with the script, with given faults and entries;
* `Visit`, `Visit.bar?` — the circumstances of a decision, and what bars it;
* `Visit.pay` — **the answer and the entries after it**, by the limiter's own decision;
* `Visit.onSlots`, `Visit.onAccount` — the same on two slots, and on an account;
* `Keyspace.AgreeOn` — two keyspaces with the same slots at some keys.

Main results:

* `Visit.eval_ne_aborted` — no decision aborts the script;
* `Visit.decide_eq_pay` — a decision changes nothing of a store but entries and faults;
* `Visit.pay_eq` — a decision is a function of its two slots, and replaces these;
* `Visit.onSlots_of_counts` — on slots that show an account it is what it is on the account;
* `Visit.pay_agree`, `Visit.get?_pay_of_ne` — what it does not depend on and does not change;
* `SlidingWindow.forget_holding` — a reset that is not barred empties the two slots.
-/

import Turnstile.Proofs.Limiter.Account

set_option relaxedAutoImplicit false
set_option autoImplicit false

namespace Turnstile

/-- A store in memory with the sliding-window script, the faults still to come and the entries. -/
def MemoryStore.holding (faults : List StoreError) (ks : Keyspace) : MemoryStore :=
  { MemoryStore.initial with keyspace := ks, faults }

namespace MemoryStore

@[simp] theorem faults_holding (faults : List StoreError) (ks : Keyspace) :
    (holding faults ks).faults = faults := rfl

theorem native?_holding (faults : List StoreError) (ks : Keyspace) :
    (holding faults ks).native? SlidingScript.script.name = some SlidingScript.native :=
  List.lookup_cons_self

theorem backend_eval (call : Call) (script : Script) (keys : List String) (args : List ScriptArg)
    (s : MemoryStore) : Backend.eval call script keys args s =
      ((eval call script keys args s).1.map ScriptEnd.value, (eval call script keys args s).2) := rfl

end MemoryStore

/-- The arguments of a call can be honoured if it asks for an event at least, in a window of a
millisecond at least. -/
theorem SlidingWindow.argumentFault?_eq_none_iff {n : Nat} {window : Duration} :
    argumentFault? n window = none ↔ 1 ≤ n ∧ 1 ≤ window.millis := by
  unfold argumentFault?
  by_cases hn : n = 0
  · simp [hn]
  · by_cases hwindow : window.millis = 0
    · simp [hn, hwindow]
    · simp [hn, hwindow, Nat.one_le_iff_ne_zero]

/-- Everything that a decision depends on, except the entries of the store. -/
structure Visit where
  clock : Nat
  call : Call
  faults : List StoreError
  key : String
  n : Nat
  limit : Nat
  window : Duration

/-! ### Keys that share nothing -/

/-- Two limiter keys share no physical key. -/
def Apart (k j : String) : Prop :=
  k ≠ j ∧ k ≠ SlidingScript.counterKey j ∧ j ≠ SlidingScript.counterKey k

instance (k j : String) : Decidable (Apart k j) := inferInstanceAs (Decidable (_ ∧ _ ∧ _))

theorem Apart.counterKey_ne {k j : String} (h : Apart k j) :
    SlidingScript.counterKey k ≠ SlidingScript.counterKey j := fun he =>
  h.1 (SlidingScript.counterKey_injective he)

/-- Two limiter keys neither of which is the counter key of the other one are one key, or share
nothing. -/
theorem eq_or_apart {k j : String} (h : j ≠ SlidingScript.counterKey k)
    (h' : k ≠ SlidingScript.counterKey j) : j = k ∨ Apart k j := by
  by_cases hsame : j = k
  · exact Or.inl hsame
  · exact Or.inr ⟨Ne.symm hsame, h', h⟩

namespace Keyspace

/-- Two keyspaces have the same slots at the keys of a set. -/
def AgreeOn (p : String → Prop) (ks ks' : Keyspace) : Prop :=
  ∀ key, p key → ks.get? key = ks'.get? key

theorem AgreeOn.refl (p : String → Prop) (ks : Keyspace) : AgreeOn p ks ks := fun _ _ => rfl

theorem AgreeOn.assign {p : String → Prop} {ks ks' : Keyspace} (h : AgreeOn p ks ks')
    (key : String) (s : Slot) : AgreeOn p (ks.assign key s) (ks'.assign key s) := by
  intro j hj
  rw [get?_assign, get?_assign, h j hj]

/-- The slots of a set are not touched by a write outside of it. -/
theorem get?_assign_assign_of_ne (ks : Keyspace) {key key' j : String} (h : key ≠ j)
    (h' : key' ≠ j) (s s' : Slot) : ((ks.assign key s).assign key' s').get? j = ks.get? j := by
  rw [get?_assign_of_ne _ h', get?_assign_of_ne _ h]

end Keyspace

namespace Visit

/-! ### What bars a decision -/

/-- What bars a decision: bad arguments, a finished context, the first fault that waits. -/
def bar? (v : Visit) : Option LimiterError :=
  match SlidingWindow.argumentFault? v.n v.window, v.call.status, v.faults with
  | some fault, _, _ => some fault
  | none, some cause, _ => some (.context cause)
  | none, none, fault :: _ => some (.ofStore .allowN v.key fault)
  | none, none, [] => none

/-- Nothing bars a decision with good arguments, in a context that is not finished, on a store
without faults; and any other one is barred. -/
theorem bar?_eq_none_iff {v : Visit} : v.bar? = none ↔
    (1 ≤ v.n ∧ 1 ≤ v.window.millis) ∧ v.call.status = none ∧ v.faults = [] := by
  rw [← SlidingWindow.argumentFault?_eq_none_iff]
  unfold bar?
  cases SlidingWindow.argumentFault? v.n v.window <;> cases v.call.status <;> cases v.faults <;>
    simp

/-- The faults that a decision leaves: it uses the first one up if it gets as far as the store. -/
def faultsAfter (v : Visit) : List StoreError :=
  match SlidingWindow.argumentFault? v.n v.window, v.call.status with
  | none, none => v.faults.tail
  | _, _ => v.faults

/-- A decision in its circumstances: its answer and the entries after it. -/
def pay (v : Visit) (ks : Keyspace) : Except LimiterError Bool × Keyspace :=
  let (answer, s) := SlidingWindow.decide v.clock v.call v.key v.n v.limit v.window
    (MemoryStore.holding v.faults ks)
  (answer, s.keyspace)

/-! ### Decisions on slots -/

/-- A decision as a function of the marker slot and the counter slot of its key. -/
def onSlots (v : Visit) (events counter : Slot) : Except LimiterError Bool × Slot × Slot :=
  match v.bar? with
  | some e => (.error e, events, counter)
  | none =>
      let (reply, slots) := SlidingScript.settle v.call.now v.key
        (SlidingScript.counterKey v.key) (Account.word v.clock)
        (Account.word v.window.clampedMillis) (Account.word v.limit) (Account.word v.n) events
        counter
      (SlidingWindow.readReply v.key (reply.map ScriptEnd.value), slots)

/-- A decision as a function of the account of its key. -/
def onAccount (v : Visit) (a : Account) : Except LimiterError Bool × Account :=
  match v.bar? with
  | some e => (.error e, a)
  | none =>
      let (answer, a) := a.take v.call.now v.n v.limit v.window
      (answer.mapError (LimiterError.ofStore .allowN v.key), a)

theorem scriptArgs_eq (clock n limit : Nat) (window : Duration) :
    SlidingWindow.scriptArgs clock n limit window =
      [.int (Account.word clock), .int (Account.word window.clampedMillis),
        .int (Account.word limit), .int (Account.word n)] := by
  simp only [SlidingWindow.scriptArgs, ScriptArg.ofNat, Account.coe_word]

/-- The script on a store without faults settles the two slots of a limiter key. -/
theorem eval_holding_nil (clock n limit now : Nat) (key : String) (window : Duration)
    (ks : Keyspace) :
    MemoryStore.eval ⟨none, now⟩ SlidingScript.script (SlidingScript.keys key)
        (SlidingWindow.scriptArgs clock n limit window) (MemoryStore.holding [] ks) =
      let r := SlidingScript.settle now key (SlidingScript.counterKey key) (Account.word clock)
        (Account.word window.clampedMillis) (Account.word limit) (Account.word n) (ks.get? key)
        (ks.get? (SlidingScript.counterKey key))
      (r.1, MemoryStore.holding []
        ((ks.assign key r.2.1).assign (SlidingScript.counterKey key) r.2.2)) := by
  have hne : key ≠ SlidingScript.counterKey key := (SlidingScript.counterKey_ne key).symm
  rw [scriptArgs_eq]
  simp only [MemoryStore.eval, MemoryStore.guarded, MemoryStore.faults_holding,
    MemoryStore.native?_holding, MemoryStore.onKeyspace, SlidingScript.keys,
    SlidingScript.runOn_native]
  rw [SlidingScript.runOn_decide hne]
  rfl

/-- **No decision aborts the script**: the number of events that a limiter passes to it can be
negated, so a limiter learns from the replies all that the script does. -/
theorem eval_ne_aborted (v : Visit) (ks : Keyspace) :
    (MemoryStore.eval v.call SlidingScript.script (SlidingScript.keys v.key)
      (SlidingWindow.scriptArgs v.clock v.n v.limit v.window)
      (MemoryStore.holding v.faults ks)).1 ≠ .ok .aborted := by
  obtain ⟨clock, ⟨status, now⟩, faults, key, n, limit, window⟩ := v
  cases status with
  | some cause => exact nofun
  | none =>
      cases faults with
      | cons fault rest => exact nofun
      | nil =>
          have hword : (Account.word n : Int) ≠ Text.minInt := by
            unfold Text.minInt
            omega
          rw [eval_holding_nil]
          exact SlidingScript.settle_ne_aborted hword now key _ _ _ _ _ _

/-- A decision settles its two slots, and uses a fault up. -/
theorem decide_holding (v : Visit) (ks : Keyspace) :
    SlidingWindow.decide v.clock v.call v.key v.n v.limit v.window
        (MemoryStore.holding v.faults ks) =
      let r := v.onSlots (ks.get? v.key) (ks.get? (SlidingScript.counterKey v.key))
      (r.1, MemoryStore.holding v.faultsAfter
        ((ks.assign v.key r.2.1).assign (SlidingScript.counterKey v.key) r.2.2)) := by
  -- a barred decision writes back what it found
  have hsame : (ks.assign v.key (ks.get? v.key)).assign (SlidingScript.counterKey v.key)
      (ks.get? (SlidingScript.counterKey v.key)) = ks := by
    rw [Keyspace.assign_get?, Keyspace.assign_get?]
  obtain ⟨clock, ⟨status, now⟩, faults, key, n, limit, window⟩ := v
  unfold SlidingWindow.decide onSlots bar? faultsAfter
  cases SlidingWindow.argumentFault? n window with
  | some fault => simp only [hsame]
  | none =>
      cases status with
      | some cause => simp only [hsame]
      | none =>
          cases faults with
          | cons fault rest =>
              simp only [hsame]
              rfl
          | nil =>
              simp only [MemoryStore.backend_eval, eval_holding_nil, List.tail_nil]

/-- **A decision is a function of its two slots, and replaces these.** -/
theorem pay_eq (v : Visit) (ks : Keyspace) :
    v.pay ks =
      let r := v.onSlots (ks.get? v.key) (ks.get? (SlidingScript.counterKey v.key))
      (r.1, (ks.assign v.key r.2.1).assign (SlidingScript.counterKey v.key) r.2.2) := by
  rw [pay, decide_holding]
  rfl

/-- A decision changes nothing of a store but entries and faults. -/
theorem decide_eq_pay (v : Visit) (ks : Keyspace) :
    SlidingWindow.decide v.clock v.call v.key v.n v.limit v.window
        (MemoryStore.holding v.faults ks) =
      ((v.pay ks).1, MemoryStore.holding v.faultsAfter (v.pay ks).2) := by
  rw [pay, decide_holding]
  rfl

/-- A barred decision answers why and changes nothing. -/
theorem pay_of_bar {v : Visit} {e : LimiterError} (h : v.bar? = some e) (ks : Keyspace) :
    v.pay ks = (.error e, ks) := by
  rw [pay_eq, onSlots, h]
  simp only [Keyspace.assign_get?]

/-- A decision that answers is not barred. -/
theorem bar?_of_pay_ok {v : Visit} {ks : Keyspace} {admitted : Bool}
    (h : (v.pay ks).1 = .ok admitted) : v.bar? = none := by
  cases hbar : v.bar? with
  | none => rfl
  | some e =>
      rw [pay_of_bar hbar] at h
      exact nomatch h

/-! ### What a decision does not touch -/

/-- A decision leaves alone every key but its own two. -/
theorem get?_pay_of_ne (v : Visit) (ks : Keyspace) {j : String} (hkey : v.key ≠ j)
    (hcounter : SlidingScript.counterKey v.key ≠ j) : (v.pay ks).2.get? j = ks.get? j := by
  rw [pay_eq]
  exact ks.get?_assign_assign_of_ne hkey hcounter _ _

/-- Decisions on keyspaces that agree on a set with the two keys answer the same, and the keyspaces
agree afterwards. -/
theorem pay_agree {p : String → Prop} {v : Visit} {ks ks' : Keyspace}
    (h : Keyspace.AgreeOn p ks ks') (hkey : p v.key)
    (hcounter : p (SlidingScript.counterKey v.key)) :
    (v.pay ks).1 = (v.pay ks').1 ∧ Keyspace.AgreeOn p (v.pay ks).2 (v.pay ks').2 := by
  rw [pay_eq, pay_eq, h _ hkey, h _ hcounter]
  exact ⟨rfl, (h.assign _ _).assign _ _⟩

/-! ### Decisions on accounts -/

/-- **On slots that show an account, a decision is what it is on the account.** -/
theorem onSlots_of_counts (v : Visit) {events counter : Slot} {a : Account}
    (hevents : events.IsMarkers) (hcounter : counter.Counts a) :
    let r := v.onSlots events counter
    r.1 = (v.onAccount a).1 ∧ r.2.1.IsMarkers ∧ r.2.2.Counts (v.onAccount a).2 := by
  unfold onSlots onAccount
  cases v.bar? with
  | some e => exact ⟨rfl, hevents, hcounter⟩
  | none =>
      obtain ⟨hreply, hevents', hcounter'⟩ := SlidingScript.settle_of_counts hevents hcounter
        v.call.now v.key (SlidingScript.counterKey v.key) (Account.word v.clock) v.n v.limit
        v.window
      refine ⟨?_, hevents', hcounter'⟩
      simp only [hreply]
      rcases (a.take v.call.now v.n v.limit v.window).1 with e | _ | _ <;> rfl

/-- A decision that admits is not barred, and is one on the account. -/
theorem onAccount_of_admitted {v : Visit} {a : Account} (h : (v.onAccount a).1 = .ok true) :
    (a.asOf v.call.now).used + Account.word v.n ≤ Account.word v.limit ∧
      (v.onAccount a).2 = ⟨(a.asOf v.call.now).used + Account.word v.n,
        some (Account.lapseAfter v.call.now v.window)⟩ := by
  unfold onAccount at h ⊢
  cases hbar : v.bar? with
  | some e => simp [hbar] at h
  | none =>
      simp only [hbar] at h ⊢
      refine Account.take_of_admitted ?_
      rcases hanswer : (a.take v.call.now v.n v.limit v.window).1 with e | admitted
      · rw [hanswer] at h
        exact nomatch h
      · rw [hanswer] at h
        exact congrArg Except.ok (Except.ok.inj h)

/-- A decision that admits asks for an event at least. -/
theorem pos_of_admitted {v : Visit} {a : Account} (h : (v.onAccount a).1 = .ok true) : 0 < v.n := by
  cases hbar : v.bar? with
  | some e => simp [onAccount, hbar] at h
  | none => exact (bar?_eq_none_iff.1 hbar).1.1

/-- A decision that admits nothing leaves the account alone, or what is left of it. -/
theorem onAccount_of_not_admitted {v : Visit} {a : Account} (h : (v.onAccount a).1 ≠ .ok true) :
    v.bar?.isSome ∧ (v.onAccount a).2 = a ∨
      v.bar? = none ∧ (v.onAccount a).2 = a.asOf v.call.now := by
  unfold onAccount at h ⊢
  cases hbar : v.bar? with
  | some e => exact Or.inl ⟨rfl, rfl⟩
  | none =>
      simp only [hbar] at h ⊢
      refine Or.inr ⟨trivial, Account.take_of_not_admitted fun hok => h ?_⟩
      rw [hok]
      rfl

end Visit

namespace Keyspace

/-- The two slots of a limiter key show an account. -/
structure Shows (ks : Keyspace) (key : String) (a : Account) : Prop where
  events : Slot.IsMarkers (ks.get? key)
  counter : Slot.Counts (ks.get? (SlidingScript.counterKey key)) a

theorem shows_empty (key : String) : empty.Shows key .fresh := by
  constructor <;> rw [get?_empty]
  · exact trivial
  · exact .absent

/-- A keyspace with the same two slots shows the same account. -/
theorem Shows.congr {ks ks' : Keyspace} {key : String} {a : Account} (h : ks.Shows key a)
    (hevents : ks'.get? key = ks.get? key)
    (hcounter : ks'.get? (SlidingScript.counterKey key) =
      ks.get? (SlidingScript.counterKey key)) : ks'.Shows key a :=
  ⟨hevents ▸ h.events, hcounter ▸ h.counter⟩

/-- A decision on a key does to its account what a decision does. -/
theorem Shows.pay {ks : Keyspace} {v : Visit} {a : Account} (h : ks.Shows v.key a) :
    (v.pay ks).1 = (v.onAccount a).1 ∧ (v.pay ks).2.Shows v.key (v.onAccount a).2 := by
  obtain ⟨hanswer, hevents, hcounter⟩ := v.onSlots_of_counts h.events h.counter
  rw [Visit.pay_eq]
  refine ⟨hanswer, ?_, ?_⟩
  · rw [get?_assign_of_ne _ (SlidingScript.counterKey_ne v.key), get?_assign_self]
    exact hevents
  · rw [get?_assign_self]
    exact hcounter

/-- A decision on a key apart does nothing to the account. -/
theorem Shows.pay_of_apart {ks : Keyspace} {v : Visit} {key : String} {a : Account}
    (h : ks.Shows key a) (hapart : Apart key v.key) : (v.pay ks).2.Shows key a :=
  h.congr (v.get?_pay_of_ne ks hapart.1.symm hapart.2.1.symm)
    (v.get?_pay_of_ne ks hapart.2.2 hapart.counterKey_ne.symm)

end Keyspace

/-! ### Resets -/

namespace Keyspace

/-- A keyspace without what it held at the two keys of a limiter key. -/
def without (ks : Keyspace) (key : String) : Keyspace :=
  (ks.assign key none).assign (SlidingScript.counterKey key) none

theorem shows_without (ks : Keyspace) (key : String) : (ks.without key).Shows key .fresh := by
  constructor
  · rw [without, get?_assign_of_ne _ (SlidingScript.counterKey_ne key), get?_assign_self]
    exact trivial
  · rw [without, get?_assign_self]
    exact .absent

theorem Shows.without_of_apart {ks : Keyspace} {key j : String} {a : Account} (h : ks.Shows key a)
    (hapart : Apart key j) : (ks.without j).Shows key a :=
  h.congr (ks.get?_assign_assign_of_ne hapart.1.symm hapart.2.1.symm _ _)
    (ks.get?_assign_assign_of_ne hapart.2.2 hapart.counterKey_ne.symm _ _)

end Keyspace

namespace SlidingWindow

/-- What bars a reset: a finished context, or the first fault that waits. -/
def resetBar? (call : Call) (key : String) (faults : List StoreError) : Option LimiterError :=
  match call.status, faults with
  | some cause, _ => some (.context cause)
  | none, fault :: _ => some (.ofStore .reset key fault)
  | none, [] => none

/-- A reset that is not barred empties the two slots of its key; any other one changes no entry. -/
theorem forget_holding (call : Call) (key : String) (faults : List StoreError) (ks : Keyspace) :
    ∃ left, forget call key (MemoryStore.holding faults ks) =
      match resetBar? call key faults with
      | some e => (.error e, .holding left ks)
      | none => (.ok (), .holding left (ks.without key)) := by
  have hdelete : MemoryStore.deleteAll call.now (SlidingScript.keys key) ks = ks.without key := by
    simp only [MemoryStore.deleteAll, SlidingScript.keys, List.foldl_cons, List.foldl_nil,
      Keyspace.delete_eq, Keyspace.without]
  obtain ⟨status, now⟩ := call
  cases status with
  | some cause => exact ⟨faults, rfl⟩
  | none =>
      cases faults with
      | cons fault rest => exact ⟨rest, rfl⟩
      | nil =>
          refine ⟨[], ?_⟩
          simp only [resetBar?, ← hdelete]
          rfl

end SlidingWindow

end Turnstile
