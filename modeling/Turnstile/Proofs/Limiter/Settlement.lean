/-
**The sliding-window script on two slots.**

A decision touches the marker key and the counter key and no other one, so it is a function of the
two slots.  The function takes the same steps as the script, an error or an abort ends it where it
ends the script, and what the earlier steps did stays.

Main definitions:

* `Slot.IsMarkers` — the slot holds no integer;
* `SlidingScript.marked` — a slot after the markers of some events were added;
* `SlidingScript.settle` — **a decision as a function of the two slots**.

Main results:

* `SlidingScript.settle_ne_aborted` — only the least integer aborts a decision;
* `SlidingScript.runOn_decide` — a decision on a keyspace replaces the two slots as the function
  says, and nothing else;
* `SlidingScript.runOn_native` — so does the script, once its arguments are read;
* `SlidingScript.counterKey_ne`, `SlidingScript.counterKey_injective` — a limiter key is never its
  own counter key, and two of them never have the same one.
-/

import Turnstile.Limiter.Script
import Turnstile.Proofs.Store.Slot

set_option relaxedAutoImplicit false
set_option autoImplicit false

namespace Turnstile

/-! ### Slots that hold markers -/

namespace Slot

/-- The slot holds nothing, or a set. -/
def IsMarkers : Slot → Prop
  | some ⟨.int _, _⟩ => False
  | _ => True

@[simp] theorem isMarkers_none : IsMarkers none := trivial

@[simp] theorem isMarkers_set (members : Table Int) (expiry : Option Nat) :
    IsMarkers (some ⟨.set members, expiry⟩) := trivial

@[simp] theorem not_isMarkers_int (v : Int) (expiry : Option Nat) :
    ¬ IsMarkers (some ⟨.int v, expiry⟩) := fun h => h

theorem IsMarkers.live {s : Slot} (h : IsMarkers s) (now : Nat) : IsMarkers (live now s) := by
  cases hs : Slot.live now s with
  | none => exact trivial
  | some e =>
      obtain ⟨rfl, -⟩ := eq_of_live_eq_some hs
      exact h

/-- Removing members succeeds on markers, and only there; it leaves markers. -/
theorem removeByScore_of_isMarkers {now : Nat} {s : Slot} (h : IsMarkers (Slot.live now s))
    (key : String) (low high : Int) :
    ∃ removed s', removeByScore now key low high s = (.ok removed, s') ∧ IsMarkers s' := by
  unfold removeByScore
  rcases hs : Slot.live now s with _ | ⟨v | members, expiry⟩
  · exact ⟨0, none, rfl, trivial⟩
  · rw [hs] at h
    exact absurd h (not_isMarkers_int v expiry)
  · refine ⟨_, _, rfl, ?_⟩
    split <;> trivial

theorem isMarkers_of_removeByScore_ok {now removed : Nat} {key : String} {low high : Int}
    {s s' : Slot} (h : removeByScore now key low high s = (.ok removed, s')) : IsMarkers s' := by
  unfold removeByScore at h
  rcases hs : Slot.live now s with _ | ⟨v | members, expiry⟩
  · simp only [hs, Prod.mk.injEq] at h
    rw [← h.2]
    exact trivial
  · simp [hs] at h
  · simp only [hs, Prod.mk.injEq] at h
    rw [← h.2]
    split <;> trivial

/-- Adding a member succeeds on markers, and leaves markers. -/
theorem addMember_of_isMarkers {s : Slot} (h : IsMarkers s) (now : Nat) (key : String)
    (score : Int) (member : String) :
    ∃ fresh s', addMember now key score member s = (.ok fresh, s') ∧ IsMarkers s' := by
  have hlive := h.live now
  unfold addMember
  rcases hs : Slot.live now s with _ | ⟨v | members, expiry⟩
  · exact ⟨true, _, rfl, trivial⟩
  · rw [hs] at hlive
    exact absurd hlive (not_isMarkers_int v expiry)
  · exact ⟨_, _, rfl, trivial⟩

theorem IsMarkers.expire {s : Slot} (h : IsMarkers s) (now : Nat) (ttl : Duration) :
    IsMarkers (expire now ttl s).2 := by
  have hlive := h.live now
  unfold Slot.expire
  rcases hs : Slot.live now s with _ | ⟨v | members, expiry⟩
  · exact trivial
  · rw [hs] at hlive
    exact absurd hlive (not_isMarkers_int v expiry)
  · exact trivial

end Slot

namespace SlidingScript

/-! ### The two keys -/

theorem length_counterKey (key : String) : (counterKey key).length = key.length + 8 := by
  rw [counterKey, String.length_append]
  rfl

theorem counterKey_ne (key : String) : counterKey key ≠ key := by
  intro h
  have := length_counterKey key
  rw [h] at this
  omega

theorem counterKey_injective : Function.Injective counterKey := fun _ _ h =>
  String.append_left_inj _ |>.1 h

/-! ### The steps on slots -/

/-- A slot after the markers of `n` events were added. -/
def marked (clock : Nat) (eventKey : String) (now : Int) : Nat → Slot → Slot
  | 0, s => s
  | n + 1, s =>
      (Slot.addMember clock eventKey now (marker now (n + 1)) (marked clock eventKey now n s)).2

theorem isMarkers_marked {s : Slot} (h : s.IsMarkers) (clock : Nat) (eventKey : String)
    (now : Int) (n : Nat) : (marked clock eventKey now n s).IsMarkers := by
  induction n with
  | zero => exact h
  | succ n ih =>
      obtain ⟨_, _, hadd, hs⟩ :=
        Slot.addMember_of_isMarkers ih clock eventKey now (marker now (n + 1))
      rw [marked, hadd]
      exact hs

/-- A decision as a function of the two slots: what it answers, and the slots after it. -/
def settle (clock : Nat) (eventKey counterKey : String) (now window limit n : Int)
    (events counter : Slot) : Except StoreError ScriptEnd × Slot × Slot :=
  match Slot.removeByScore clock eventKey Text.minInt (Text.clampWord (now - window)) events with
  | (.error e, events) => (.error e, events, counter)
  | (.ok _, events) =>
      match Slot.incrBy clock counterKey n counter with
      | (.error e, counter) => (.error e, events, counter)
      | (.ok count, counter) =>
          if limit < count then
            match Text.negation? n with
            | none => (.ok .aborted, events, counter)
            | some back =>
                match Slot.incrBy clock counterKey back counter with
                | (.error e, counter) => (.error e, events, counter)
                | (.ok _, counter) => (.ok (.replied (.int 0)), events, counter)
          else
            (.ok (.replied (.int 1)),
              (Slot.expire clock (keyTtl window) (marked clock eventKey now n.toNat events)).2,
              (Slot.expire clock (keyTtl window) counter).2)

/-- **The script is aborted only by the least integer**, whatever the two slots hold. -/
theorem settle_ne_aborted {n : Int} (hn : n ≠ Text.minInt) (clock : Nat)
    (eventKey counterKey : String) (now window limit : Int) (events counter : Slot) :
    (settle clock eventKey counterKey now window limit n events counter).1 ≠ .ok .aborted := by
  unfold settle
  rw [Text.negation?_of_ne hn]
  rcases Slot.removeByScore .. with ⟨_ | _, events⟩
  · exact nofun
  rcases Slot.incrBy .. with ⟨_ | count, counter⟩
  · exact nofun
  simp only
  split
  · rcases Slot.incrBy .. with ⟨_ | _, counter⟩ <;> simp
  · simp

/-! ### The steps on a keyspace -/

/-- The marker of the last event comes last. -/
theorem addMarkers_succ (clock : Nat) (eventKey : String) (now : Int) (n : Nat) :
    addMarkers clock eventKey now (n + 1) =
      (do
        addMarkers clock eventKey now n
        let _ ← KeyspaceM.attempt fun ks =>
          ks.addMember clock eventKey now (marker now (n + 1))) := by
  simp [addMarkers, List.range_succ, List.forM_append]

theorem runOn_addMarkers (clock : Nat) (eventKey : String) (now : Int) (n : Nat) (ks : Keyspace)
    (h : Slot.IsMarkers (ks.get? eventKey)) :
    (addMarkers clock eventKey now n).runOn ks =
      (.ok (), ks.assign eventKey (marked clock eventKey now n (ks.get? eventKey))) := by
  induction n with
  | zero =>
      rw [marked, Keyspace.assign_get?]
      rfl
  | succ n ih =>
      -- the last marker is added to what the markers before it left
      obtain ⟨fresh, s, hadd, -⟩ := Slot.addMember_of_isMarkers
        (isMarkers_marked h clock eventKey now n) clock eventKey now (marker now (n + 1))
      rw [addMarkers_succ, KeyspaceM.runOn_bind, ih]
      simp only [KeyspaceM.runOn_bind, KeyspaceM.runOn_attempt, Keyspace.addMember_eq,
        Keyspace.onSlot, Keyspace.get?_assign_self, Keyspace.assign_assign, marked, hadd]
      rfl

/-- **A decision replaces the slots of its two keys, and nothing else.** -/
theorem runOn_decide {eventKey counterKey : String} (hne : eventKey ≠ counterKey) (clock : Nat)
    (now window limit n : Int) (ks : Keyspace) :
    (decide clock eventKey counterKey now window limit n).runOn ks =
      let r := settle clock eventKey counterKey now window limit n (ks.get? eventKey)
        (ks.get? counterKey)
      (r.1, (ks.assign eventKey r.2.1).assign counterKey r.2.2) := by
  have hcounter (s : Slot) : (ks.assign eventKey s).get? counterKey = ks.get? counterKey :=
    ks.get?_assign_of_ne hne s
  unfold decide settle
  simp only [KeyspaceM.runOn_bind, KeyspaceM.runOn_attempt, Keyspace.removeByScore_eq,
    Keyspace.incrBy_eq, Keyspace.onSlot]
  rcases hremove : Slot.removeByScore clock eventKey Text.minInt (Text.clampWord (now - window))
    (ks.get? eventKey) with ⟨e | removed, events⟩
  · -- an entry of another type stops the decision before anything is counted
    simp only
    rw [← hcounter events, Keyspace.assign_get?]
  have hmarkers : events.IsMarkers := Slot.isMarkers_of_removeByScore_ok hremove
  simp only [hcounter]
  rcases Slot.incrBy clock counterKey n (ks.get? counterKey) with ⟨e | count, counter⟩
  · rfl
  simp only
  by_cases hlimit : limit < count
  · simp only [hlimit, if_true]
    cases Text.negation? n with
    | none => rfl
    | some back =>
        simp only [KeyspaceM.runOn_bind, KeyspaceM.runOn_attempt, Keyspace.get?_assign_self,
          Keyspace.assign_assign]
        rcases Slot.incrBy clock counterKey back counter with ⟨e | restored, counter⟩ <;> rfl
  · -- whatever the two slots hold by now, the marker slot is the inner one
    have hread (e c : Slot) : ((ks.assign eventKey e).assign counterKey c).get? eventKey = e := by
      simp [Keyspace.get?_assign, Ne.symm hne]
    have hwrite (e c s : Slot) : ((ks.assign eventKey e).assign counterKey c).assign eventKey s =
        (ks.assign eventKey s).assign counterKey c := by
      rw [Keyspace.assign_comm _ (Ne.symm hne), Keyspace.assign_assign]
    simp only [hlimit, if_false, KeyspaceM.runOn_bind, KeyspaceM.runOn_always]
    rw [runOn_addMarkers _ _ _ _ _ (by rw [hread]; exact hmarkers), hread, hwrite]
    simp only [Keyspace.expire_eq, Keyspace.onSlot, hread, hwrite, Keyspace.get?_assign_self,
      Keyspace.assign_assign, KeyspaceM.runOn_pure]

/-- The script on words is the decision on them. -/
theorem runOn_native (clock : Nat) (eventKey counterKey : String) (now window limit n : Int)
    (ks : Keyspace) :
    (native clock [eventKey, counterKey] [.int now, .int window, .int limit, .int n]).runOn ks =
      (decide clock eventKey counterKey now window limit n).runOn ks := by
  rfl

end SlidingScript

end Turnstile
