/-
**A collection shows what a log tells.**

The hook for collection adds observations up by label values, and the hook in memory keeps them and
adds them up when it is asked.  Both are given the same observations, as many as the log may hold.
Then a collection lists exactly what the log tells: as many admissions and denials of each key, as
many latencies of each operation on it, the last size of its wait, and the last number of limiters
of each kind.  Nothing is listed that was not observed.

Values for collection are found by digests of their label values, run together.  It is assumed that
no two texts that come in have the same digest.  This does not keep `a` with `bc` apart from `ab`
with `c`, but no operation and no result ends like another one, so two combinations that are
observed never run together to the same text.

Main definitions:

* `Observation.family`, `Observation.labels` — where an observation is listed;
* `Observation.FallsIn` — an observation is listed in a family under label values;
* `SuffixFree` — no text of a list ends with another one;
* `DigestsApart` — the texts of observations have digests of their own;
* `Exposition.Keeps` — values for exactly the combinations that were observed;
* `Exposition.Agrees` — values that match what a log tells;
* `Exposition.Lists` — what a collection lists;
* `Exposition.Shows`, `Exposition.ListsOnly` — a collection lists what a log tells, and no more.

Main results:

* `DigestsApart.labels_eq` — no two combinations of a family share a digest;
* `Exposition.Keeps.observe`, `Exposition.Agrees.observe` — **both hooks take in an observation**;
* `Exposition.keeps_and_agrees` — so they do with any observations;
* `Hook.exposition_shows_memory` — **after any observations they agree**.
-/

import Mathlib.Data.List.Induction
import Turnstile.Metrics.Hook
import Turnstile.Proofs.Metrics.Series

set_option relaxedAutoImplicit false
set_option autoImplicit false

namespace Turnstile

/-! ### Where an observation is listed -/

/-- The four families are different. -/
@[simp] theorem Exposition.families_apart :
    (requestsFamily ≠ latencyFamily ∧ requestsFamily ≠ waitingFamily ∧
      requestsFamily ≠ activeFamily) ∧
    (latencyFamily ≠ requestsFamily ∧ latencyFamily ≠ waitingFamily ∧
      latencyFamily ≠ activeFamily) ∧
    (waitingFamily ≠ requestsFamily ∧ waitingFamily ≠ latencyFamily ∧
      waitingFamily ≠ activeFamily) ∧
    activeFamily ≠ requestsFamily ∧ activeFamily ≠ latencyFamily ∧
      activeFamily ≠ waitingFamily := by decide

/-- The family of an observation. -/
def Observation.family : Observation → Descriptor
  | .request .. => Exposition.requestsFamily
  | .latency .. => Exposition.latencyFamily
  | .waiting .. => Exposition.waitingFamily
  | .active .. => Exposition.activeFamily

/-- The label values of an observation. -/
def Observation.labels : Observation → List String
  | .request key allowed => [key, Exposition.resultLabel allowed]
  | .latency key operation _ => [key, operation]
  | .waiting key _ => [key]
  | .active kind _ => [kind]

theorem Observation.length_labels (o : Observation) : o.labels.length = o.family.labels.length := by
  cases o <;> rfl

/-- An observation is listed in a family under label values. -/
def Observation.FallsIn (o : Observation) (d : Descriptor) (labels : List String) : Prop :=
  o.family = d ∧ o.labels = labels

instance (o : Observation) (d : Descriptor) (labels : List String) :
    Decidable (o.FallsIn d labels) := inferInstanceAs (Decidable (_ ∧ _))

/-- What an observation measured; a decision measures nothing. -/
def Observation.amount : Observation → Quantity
  | .request .. => .zero
  | .latency _ _ seconds => seconds
  | .waiting _ size => size
  | .active _ count => count

/-- The labels under which latencies are observed. -/
def operationLabels : List String :=
  [Operation.allowN.label, Operation.wait.label, Operation.reset.label, admissionLabel]

/-- A latency is of an operation of limiters or layers. -/
def Observation.Known : Observation → Prop
  | .latency _ operation _ => operation ∈ operationLabels
  | _ => True

instance : DecidablePred Observation.Known
  | .latency _ operation _ => inferInstanceAs (Decidable (operation ∈ operationLabels))
  | .request .. | .waiting .. | .active .. => .isTrue trivial

/-! ### Label values that run together -/

/-- No text of a list ends with another one. -/
def SuffixFree (texts : List String) : Prop :=
  ∀ a ∈ texts, ∀ b ∈ texts, a.toList <:+ b.toList → a = b

instance (texts : List String) : Decidable (SuffixFree texts) :=
  inferInstanceAs (Decidable (∀ a ∈ texts, ∀ b ∈ texts, a.toList <:+ b.toList → a = b))

theorem suffixFree_operationLabels : SuffixFree operationLabels := by decide

theorem suffixFree_resultLabels : SuffixFree [Exposition.resultLabel true,
    Exposition.resultLabel false] := by decide

/-- Before such texts a key can be told. -/
theorem SuffixFree.append_inj {texts : List String} (h : SuffixFree texts) {key key' a b : String}
    (ha : a ∈ texts) (hb : b ∈ texts) (heq : key ++ a = key' ++ b) : key = key' ∧ a = b := by
  have hlists : key.toList ++ a.toList = key'.toList ++ b.toList := by
    rw [← String.toList_append, heq, String.toList_append]
  have hab : a = b := by
    have hsuffix : a.toList <:+ key'.toList ++ b.toList := hlists ▸ List.suffix_append ..
    obtain hshort | hshort :=
      List.suffix_or_suffix_of_suffix hsuffix (List.suffix_append key'.toList b.toList)
    · exact h a ha b hb hshort
    · exact (h b hb a ha hshort).symm
  subst hab
  exact ⟨String.toList_injective (List.append_cancel_right hlists), rfl⟩

/-- Observations of one family whose label values have the same digest have label values that run
together to the same text. -/
def DigestsApart (os : List Observation) : Prop :=
  ∀ o ∈ os, ∀ o' ∈ os, o.family = o'.family → Series.digest o.labels = Series.digest o'.labels →
    String.join o.labels = String.join o'.labels

instance (os : List Observation) : Decidable (DigestsApart os) :=
  inferInstanceAs (Decidable (∀ o ∈ os, ∀ o' ∈ os, o.family = o'.family →
    Series.digest o.labels = Series.digest o'.labels →
    String.join o.labels = String.join o'.labels))

theorem DigestsApart.mono {os os' : List Observation} (h : DigestsApart os')
    (hsub : ∀ o ∈ os, o ∈ os') : DigestsApart os :=
  fun o ho o' ho' => h o (hsub o ho) o' (hsub o' ho')

theorem mem_resultLabels (allowed : Bool) : Exposition.resultLabel allowed ∈
    [Exposition.resultLabel true, Exposition.resultLabel false] := by
  cases allowed <;> simp

theorem resultLabel_inj {allowed allowed' : Bool} :
    Exposition.resultLabel allowed = Exposition.resultLabel allowed' ↔ allowed = allowed' := by
  revert allowed allowed'
  decide

/-- No two combinations of a family share a digest. -/
theorem DigestsApart.labels_eq {os : List Observation} (h : DigestsApart os)
    (hknown : ∀ o ∈ os, o.Known) {o o' : Observation} (ho : o ∈ os) (ho' : o' ∈ os)
    (hfamily : o.family = o'.family) (hdigest : Series.digest o.labels = Series.digest o'.labels) :
    o.labels = o'.labels := by
  have hjoin := h o ho o' ho' hfamily hdigest
  have hone (a : String) : String.join [a] = a := by simp [String.join]
  have htwo (a b : String) : String.join [a, b] = a ++ b := by simp [String.join]
  cases o with
  | request key allowed =>
      cases o' with
      | request key' allowed' =>
          simp only [Observation.labels, htwo] at hjoin
          obtain ⟨rfl, hresult⟩ := suffixFree_resultLabels.append_inj (mem_resultLabels allowed)
            (mem_resultLabels allowed') hjoin
          rw [Observation.labels, Observation.labels, hresult]
      | latency | waiting | active => simp [Observation.family] at hfamily
  | latency key operation seconds =>
      cases o' with
      | latency key' operation' seconds' =>
          simp only [Observation.labels, htwo] at hjoin
          obtain ⟨rfl, rfl⟩ :=
            suffixFree_operationLabels.append_inj (hknown _ ho) (hknown _ ho') hjoin
          rfl
      | request | waiting | active => simp [Observation.family] at hfamily
  | waiting key size =>
      cases o' with
      | waiting key' size' =>
          simp only [Observation.labels, hone] at hjoin ⊢
          rw [hjoin]
      | request | latency | active => simp [Observation.family] at hfamily
  | active kind count =>
      cases o' with
      | active kind' count' =>
          simp only [Observation.labels, hone] at hjoin ⊢
          rw [hjoin]
      | request | latency | waiting => simp [Observation.family] at hfamily

/-! ### What is kept for collection -/

/-- The combinations of label values that were observed for a family. -/
def observed (d : Descriptor) (os : List Observation) : List (List String) :=
  (os.filter fun o => o.family = d).map Observation.labels

theorem mem_observed {d : Descriptor} {os : List Observation} {labels : List String} :
    labels ∈ observed d os ↔ ∃ o ∈ os, o.FallsIn d labels := by
  simp [observed, Observation.FallsIn, and_assoc]

theorem observed_append (d : Descriptor) (os : List Observation) (o : Observation) :
    observed d (os ++ [o]) =
      if o.family = d then observed d os ++ [o.labels] else observed d os := by
  by_cases h : o.family = d <;> simp [observed, h]

/-- An observation collides with no other combination of its family. -/
def Fresh (os : List Observation) (o : Observation) : Prop :=
  ∀ labels ∈ observed o.family os, Series.digest labels = Series.digest o.labels →
    labels = o.labels

theorem DigestsApart.fresh {os : List Observation} {o : Observation}
    (h : DigestsApart (os ++ [o])) (hknown : ∀ o' ∈ os ++ [o], o'.Known) : Fresh os o := by
  intro labels hin hdigest
  obtain ⟨o', ho', hfamily, rfl⟩ := mem_observed.1 hin
  exact h.labels_eq hknown (List.mem_append_left _ ho') (by simp) hfamily hdigest

namespace Exposition

variable {x : Exposition} {l l' : MemoryLog} {os : List Observation} {o : Observation}

/-- There are values for exactly the combinations that were observed. -/
structure Keeps (x : Exposition) (os : List Observation) : Prop where
  requests : x.requests.Holds (observed requestsFamily os)
  latency : x.latency.Holds (observed latencyFamily os)
  waiting : x.waiting.Holds (observed waitingFamily os)
  active : x.active.Holds (observed activeFamily os)

theorem Keeps.empty : Exposition.empty.Keeps [] := ⟨.empty, .empty, .empty, .empty⟩

/-- **An observation adds its combination**, unless it is there. -/
theorem Keeps.observe (h : x.Keeps os) (hfresh : Fresh os o) :
    (x.observe o).Keeps (os ++ [o]) := by
  have stays {β : Type} {s : Series β} {d : Descriptor} (hs : s.Holds (observed d os))
      (hd : o.family ≠ d) : s.Holds (observed d (os ++ [o])) := by
    rwa [observed_append, if_neg hd]
  have hadds : observed o.family (os ++ [o]) = observed o.family os ++ [o.labels] := by
    rw [observed_append, if_pos rfl]
  cases o with
  | request key allowed =>
      exact ⟨hadds ▸ h.requests.update hfresh ..,
        stays h.latency (by simp [Observation.family]),
        stays h.waiting (by simp [Observation.family]),
        stays h.active (by simp [Observation.family])⟩
  | latency key operation seconds =>
      exact ⟨stays h.requests (by simp [Observation.family]),
        hadds ▸ h.latency.update hfresh ..,
        stays h.waiting (by simp [Observation.family]),
        stays h.active (by simp [Observation.family])⟩
  | waiting key size =>
      exact ⟨stays h.requests (by simp [Observation.family]),
        stays h.latency (by simp [Observation.family]),
        hadds ▸ h.waiting.update hfresh ..,
        stays h.active (by simp [Observation.family])⟩
  | active kind count =>
      exact ⟨stays h.requests (by simp [Observation.family]),
        stays h.latency (by simp [Observation.family]),
        stays h.waiting (by simp [Observation.family]),
        hadds ▸ h.active.update hfresh ..⟩

end Exposition

/-! ### One observation more -/

namespace Exposition

variable {x : Exposition} {os : List Observation} {o : Observation}

theorem at?_update {β : Type} {s : Series β} (hs : s.Holds (observed o.family os))
    (hfresh : Fresh os o) (zero : β) (f : β → β) (labels : List String) :
    (s.update o.labels zero f).at? labels = if o.FallsIn o.family labels
      then some (f ((s.at? labels).getD zero)) else s.at? labels := by
  rw [hs.at?_update hfresh]
  by_cases hlabels : o.labels = labels
  · rw [if_pos hlabels.symm, if_pos ⟨rfl, hlabels⟩, hlabels]
  · rw [if_neg (Ne.symm hlabels), if_neg fun hfalls => hlabels hfalls.2]

theorem at?_requests_observe (h : x.Keeps os) (hfresh : Fresh os o) (labels : List String) :
    (x.observe o).requests.at? labels = if o.FallsIn requestsFamily labels
      then some ((x.requests.at? labels).getD 0 + 1) else x.requests.at? labels := by
  cases o with
  | request key allowed => exact at?_update h.requests hfresh ..
  | latency | waiting | active => simp [Observation.FallsIn, Observation.family, observe]

theorem at?_latency_observe (h : x.Keeps os) (hfresh : Fresh os o) (labels : List String) :
    (x.observe o).latency.at? labels = if o.FallsIn latencyFamily labels
      then some (((x.latency.at? labels).getD .empty).observe o.amount)
      else x.latency.at? labels := by
  cases o with
  | latency key operation seconds => exact at?_update h.latency hfresh ..
  | request | waiting | active => simp [Observation.FallsIn, Observation.family, observe]

theorem at?_waiting_observe (h : x.Keeps os) (hfresh : Fresh os o) (labels : List String) :
    (x.observe o).waiting.at? labels = if o.FallsIn waitingFamily labels
      then some o.amount else x.waiting.at? labels := by
  cases o with
  | waiting key size => exact at?_update h.waiting hfresh ..
  | request | latency | active => simp [Observation.FallsIn, Observation.family, observe]

theorem at?_active_observe (h : x.Keeps os) (hfresh : Fresh os o) (labels : List String) :
    (x.observe o).active.at? labels = if o.FallsIn activeFamily labels
      then some o.amount else x.active.at? labels := by
  cases o with
  | active kind count => exact at?_update h.active hfresh ..
  | request | latency | waiting => simp [Observation.FallsIn, Observation.family, observe]

end Exposition

namespace MemoryLog

variable {l l' : MemoryLog} {o : Observation}

/-- How many decisions on a key had a result. -/
def decisions (l : MemoryLog) (key : String) (allowed : Bool) : Nat :=
  if allowed then (l.requests key).1 else (l.requests key).2

theorem decisions_append (h : l'.events = l.events ++ [o]) (key : String) (allowed : Bool) :
    l'.decisions key allowed = l.decisions key allowed +
      if o.FallsIn Exposition.requestsFamily [key, Exposition.resultLabel allowed] then 1
      else 0 := by
  simp only [decisions, requests, h, List.foldl_append, List.foldl_cons, List.foldl_nil]
  cases o with
  | request k result =>
      by_cases hkey : k = key <;> cases result <;> cases allowed <;>
        simp [Observation.FallsIn, Observation.family, Observation.labels, resultLabel_inj, hkey]
  | latency | waiting | active => simp [Observation.FallsIn, Observation.family]

theorem count_latencyOperations_append (h : l'.events = l.events ++ [o])
    (key operation : String) :
    (l'.latencyOperations key).count operation = (l.latencyOperations key).count operation +
      if o.FallsIn Exposition.latencyFamily [key, operation] then 1 else 0 := by
  rw [latencyOperations, h, List.filterMap_append, List.count_append, latencyOperations]
  cases o with
  | latency k op seconds =>
      by_cases hkey : k = key <;>
        simp [Observation.FallsIn, Observation.family, Observation.labels, hkey,
          List.count_singleton]
  | request | waiting | active => simp [Observation.FallsIn, Observation.family]

theorem getLast?_waitingSizes_append (h : l'.events = l.events ++ [o]) (key : String) :
    (l'.waitingSizes key).getLast? = if o.FallsIn Exposition.waitingFamily [key]
      then some o.amount else (l.waitingSizes key).getLast? := by
  rw [waitingSizes, h, List.filterMap_append, waitingSizes]
  cases o with
  | waiting k size =>
      by_cases hkey : k = key <;>
        simp [Observation.FallsIn, Observation.family, Observation.labels, Observation.amount,
          hkey]
  | request | latency | active => simp [Observation.FallsIn, Observation.family]

theorem activeLimiters?_append (h : l'.events = l.events ++ [o]) (kind : String) :
    l'.activeLimiters? kind = if o.FallsIn Exposition.activeFamily [kind]
      then some o.amount else l.activeLimiters? kind := by
  rw [activeLimiters?, h, List.reverse_append, List.reverse_singleton, List.singleton_append,
    List.findSome?_cons, activeLimiters?]
  cases o with
  | active k count =>
      by_cases hkind : k = kind <;>
        simp [Observation.FallsIn, Observation.family, Observation.labels, Observation.amount,
          hkind]
  | request | latency | waiting => simp [Observation.FallsIn, Observation.family]

end MemoryLog

/-! ### Any observations -/

/-- A count that is listed, unless it is zero. -/
def counted (n : Nat) : Option Nat := if n = 0 then none else some n

theorem counted_succ (n : Nat) : counted (n + 1) = some ((counted n).getD 0 + 1) := by
  cases n <;> rfl

theorem counted_eq_some {n m : Nat} : counted n = some m ↔ m ≠ 0 ∧ m = n := by
  unfold counted
  split
  · next hzero => simp [hzero]
  · next hzero => exact ⟨by rintro ⟨⟩; exact ⟨hzero, rfl⟩, fun h => h.2 ▸ rfl⟩

namespace Exposition

variable {x : Exposition} {l l' : MemoryLog} {os : List Observation} {o : Observation}

/-- The values match what a log tells. -/
structure Agrees (x : Exposition) (l : MemoryLog) : Prop where
  requests : ∀ key allowed,
    x.requests.at? [key, resultLabel allowed] = counted (l.decisions key allowed)
  latency : ∀ key operation, (x.latency.at? [key, operation]).map Histogram.count =
    counted ((l.latencyOperations key).count operation)
  waiting : ∀ key, x.waiting.at? [key] = (l.waitingSizes key).getLast?
  active : ∀ kind, x.active.at? [kind] = l.activeLimiters? kind

theorem Agrees.empty (capacity : Nat) : Exposition.empty.Agrees (.ofCapacity capacity) :=
  ⟨fun _ allowed => by cases allowed <;> rfl, fun _ _ => rfl, fun _ => rfl, fun _ => rfl⟩

/-- **Both take in an observation**, and agree about it. -/
theorem Agrees.observe (h : x.Agrees l) (hkeeps : x.Keeps os) (hfresh : Fresh os o)
    (hevents : l'.events = l.events ++ [o]) : (x.observe o).Agrees l' := by
  constructor
  · intro key allowed
    rw [at?_requests_observe hkeeps hfresh, MemoryLog.decisions_append hevents]
    split
    · rw [h.requests, counted_succ]
    · exact h.requests key allowed
  · intro key operation
    rw [at?_latency_observe hkeeps hfresh, MemoryLog.count_latencyOperations_append hevents]
    split
    · rw [counted_succ, ← h.latency]
      cases x.latency.at? [key, operation] <;> rfl
    · exact h.latency key operation
  · intro key
    rw [at?_waiting_observe hkeeps hfresh, MemoryLog.getLast?_waitingSizes_append hevents,
      h.waiting]
  · intro kind
    rw [at?_active_observe hkeeps hfresh, MemoryLog.activeLimiters?_append hevents, h.active]

end Exposition

theorem MemoryLog.capacity_pushAll (l : MemoryLog) (os : List Observation) :
    (os.foldl push l).capacity = l.capacity := by
  induction os generalizing l with
  | nil => rfl
  | cons o os ih => rw [List.foldl_cons, ih, capacity_push]

/-- A log keeps all observations that it may hold. -/
theorem MemoryLog.events_pushAll {capacity : Nat} {os : List Observation}
    (h : os.length ≤ capacity) : (os.foldl push (.ofCapacity capacity)).events = os := by
  induction os using List.reverseRecOn with
  | nil => rfl
  | append_singleton os o ih =>
      rw [List.length_append, List.length_singleton] at h
      have hold := ih (by omega)
      have hroom : (os.foldl push (ofCapacity capacity)).held <
          (os.foldl push (ofCapacity capacity)).capacity := by
        rw [capacity_pushAll, ← length_events, hold]
        exact Nat.lt_of_lt_of_le h (Nat.le_max_left ..)
      rw [List.foldl_append, List.foldl_cons, List.foldl_nil, events_push,
        if_neg (Nat.not_le.2 hroom), hold]

theorem Hook.observeAll_exposition (x : Exposition) (os : List Observation) :
    ((Hook.exposition x).observeAll os).1 = .exposition (os.foldl Exposition.observe x) := by
  induction os generalizing x with
  | nil => rfl
  | cons o os ih => exact ih (x.observe o)

theorem Hook.observeAll_memory (l : MemoryLog) (os : List Observation) :
    ((Hook.memory l).observeAll os).1 = .memory (os.foldl MemoryLog.push l) := by
  induction os generalizing l with
  | nil => rfl
  | cons o os ih => exact ih (l.push o)

namespace Exposition

variable {x : Exposition} {os : List Observation}

/-- **All observations taken in**, by a log that may hold them. -/
theorem keeps_and_agrees {capacity : Nat} (hknown : ∀ o ∈ os, o.Known) (hapart : DigestsApart os)
    (hcapacity : os.length ≤ capacity) :
    (os.foldl observe empty).Keeps os ∧
      (os.foldl observe empty).Agrees (os.foldl MemoryLog.push (.ofCapacity capacity)) := by
  -- on the last observation: what was kept before it decides whether its digest is free
  induction os using List.reverseRecOn with
  | nil => exact ⟨.empty, .empty capacity⟩
  | append_singleton os o ih =>
      have hshorter : os.length ≤ capacity := by
        rw [List.length_append] at hcapacity
        omega
      obtain ⟨hkeeps, hagrees⟩ := ih (fun o' ho' => hknown o' (List.mem_append_left _ ho'))
        (hapart.mono fun o' ho' => List.mem_append_left _ ho') hshorter
      have hfresh : Fresh os o := hapart.fresh hknown
      have hevents : ((os ++ [o]).foldl MemoryLog.push (.ofCapacity capacity)).events =
          (os.foldl MemoryLog.push (.ofCapacity capacity)).events ++ [o] := by
        rw [MemoryLog.events_pushAll hcapacity, MemoryLog.events_pushAll hshorter]
      rw [List.foldl_append, List.foldl_append]
      rw [List.foldl_append] at hevents
      exact ⟨hkeeps.observe hfresh, hagrees.observe hkeeps hfresh hevents⟩

/-! ### What is listed -/

/-- The families with their values, also those without any. -/
def sections (x : Exposition) : List Family :=
  [listed activeFamily .gauge x.active, listed latencyFamily .histogram x.latency,
    listed requestsFamily .counter x.requests, listed waitingFamily .gauge x.waiting]

theorem mem_collect {f : Family} : f ∈ x.collect ↔ f ∈ x.sections ∧ f.metrics ≠ [] := by
  rw [collect, List.mem_filter, ← sections]
  simp

theorem nodup_names_sections (x : Exposition) : (x.sections.map Family.name).Nodup := by
  have hnames : x.sections.map Family.name =
      [activeFamily.name, latencyFamily.name, requestsFamily.name, waitingFamily.name] := rfl
  rw [hnames]
  decide

/-- A collection lists a value of a family under label values. -/
def Lists (x : Exposition) (d : Descriptor) (labels : List String) (r : Reading) : Prop :=
  ∃ f ∈ x.collect, f.name = d.name ∧ (d.labels.zip labels, r) ∈ f.metrics

theorem length_of_mem_observed {d : Descriptor} {labels : List String}
    (h : labels ∈ observed d os) : labels.length = d.labels.length := by
  obtain ⟨o, -, rfl, rfl⟩ := mem_observed.1 h
  exact o.length_labels

/-- What is listed of a family are the values of its series. -/
theorem lists_iff {β : Type} {s : Series β} {d : Descriptor} {reading : β → Reading}
    (hmem : listed d reading s ∈ x.sections) (hs : s.Holds (observed d os)) (labels : List String)
    (hlabels : labels.length = d.labels.length) {r : Reading} :
    x.Lists d labels r ↔ ∃ v, s.at? labels = some v ∧ r = reading v := by
  rw [← mem_listed hs d reading (fun _ => length_of_mem_observed) hlabels]
  constructor
  · rintro ⟨f, hf, hname, hrow⟩
    obtain rfl : f = listed d reading s := List.inj_on_of_nodup_map x.nodup_names_sections
      (mem_collect.1 hf).1 hmem hname
    exact hrow
  · intro hrow
    exact ⟨_, mem_collect.2 ⟨hmem, List.ne_nil_of_mem hrow⟩, rfl, hrow⟩

/-- A collection shows what a log tells: how many admissions and denials of each key there were,
how many latencies of each operation on it, the last size of its wait, and the last number of
limiters of each kind; and no value where there was nothing to tell. -/
structure Shows (x : Exposition) (l : MemoryLog) : Prop where
  requests : ∀ key allowed r, x.Lists requestsFamily [key, resultLabel allowed] r ↔
    l.decisions key allowed ≠ 0 ∧ r = .counter (l.decisions key allowed)
  latency : ∀ key operation n,
    (∃ h, x.Lists latencyFamily [key, operation] (.histogram h) ∧ h.count = n) ↔
      n ≠ 0 ∧ n = (l.latencyOperations key).count operation
  waiting : ∀ key r, x.Lists waitingFamily [key] r ↔
    ∃ size, (l.waitingSizes key).getLast? = some size ∧ r = .gauge size
  active : ∀ kind r, x.Lists activeFamily [kind] r ↔
    ∃ count, l.activeLimiters? kind = some count ∧ r = .gauge count

/-- A collection lists each family once, in each family one value for the same labels, and only
what was observed. -/
structure ListsOnly (x : Exposition) (os : List Observation) : Prop where
  nodup_names : (x.collect.map Family.name).Nodup
  nodup_labels : ∀ f ∈ x.collect, (f.metrics.map Prod.fst).Nodup
  observed : ∀ f ∈ x.collect, ∀ row ∈ f.metrics,
    ∃ o ∈ os, f.name = o.family.name ∧ row.1 = o.family.labels.zip o.labels

theorem Agrees.shows {l : MemoryLog} (h : x.Agrees l) (hkeeps : x.Keeps os) : x.Shows l := by
  constructor
  · intro key allowed r
    have hmem : listed requestsFamily .counter x.requests ∈ x.sections := by simp [sections]
    rw [lists_iff hmem hkeeps.requests [key, resultLabel allowed] rfl, h.requests]
    constructor
    · rintro ⟨n, hn, rfl⟩
      obtain ⟨hn, rfl⟩ := counted_eq_some.1 hn
      exact ⟨hn, rfl⟩
    · rintro ⟨hn, rfl⟩
      exact ⟨_, counted_eq_some.2 ⟨hn, rfl⟩, rfl⟩
  · intro key operation n
    have hmem : listed latencyFamily .histogram x.latency ∈ x.sections := by simp [sections]
    rw [← counted_eq_some, ← h.latency, Option.map_eq_some_iff]
    simp only [lists_iff hmem hkeeps.latency [key, operation] rfl, Reading.histogram.injEq,
      exists_eq_right']
  · intro key r
    have hmem : listed waitingFamily .gauge x.waiting ∈ x.sections := by simp [sections]
    rw [lists_iff hmem hkeeps.waiting [key] rfl, h.waiting]
  · intro kind r
    have hmem : listed activeFamily .gauge x.active ∈ x.sections := by simp [sections]
    rw [lists_iff hmem hkeeps.active [kind] rfl, h.active]

theorem Keeps.listsOnly (h : x.Keeps os) : x.ListsOnly os := by
  have hone {β : Type} {s : Series β} {d : Descriptor} {reading : β → Reading}
      (hs : s.Holds (Turnstile.observed d os)) :
      ((listed d reading s).metrics.map Prod.fst).Nodup ∧
        ∀ row ∈ (listed d reading s).metrics,
          ∃ o ∈ os, d.name = o.family.name ∧ row.1 = o.family.labels.zip o.labels := by
    refine ⟨nodup_listed hs d reading fun _ => length_of_mem_observed, fun row hrow => ?_⟩
    obtain ⟨v, hv, rfl⟩ := List.mem_map.1 hrow
    obtain ⟨e, he, rfl⟩ := mem_sorted.1 hv
    obtain ⟨o, ho, rfl, hlabels⟩ := mem_observed.1 (hs.mem_iff.1 (List.mem_map_of_mem he))
    exact ⟨o, ho, rfl, by rw [hlabels]⟩
  have hall (f : Family) (hf : f ∈ x.collect) : (f.metrics.map Prod.fst).Nodup ∧
      ∀ row ∈ f.metrics, ∃ o ∈ os, f.name = o.family.name ∧
        row.1 = o.family.labels.zip o.labels := by
    have hsections := (mem_collect.1 hf).1
    simp only [sections, List.mem_cons, List.not_mem_nil, or_false] at hsections
    obtain rfl | rfl | rfl | rfl := hsections
    · exact hone h.active
    · exact hone h.latency
    · exact hone h.requests
    · exact hone h.waiting
  exact ⟨x.nodup_names_sections.sublist (List.filter_sublist.map _), fun f hf => (hall f hf).1,
    fun f hf => (hall f hf).2⟩

end Exposition

/-! ### The two hooks -/

/-- **A collection shows what a log tells.**  Let both hooks be given the same observations, of any
keys and kinds and of the operations that limiters and layers have, and let the log be able to hold
them all.  Then it does, what is collected is what it tells, and nothing is listed that was not
observed; provided that different texts have different digests. -/
theorem Hook.exposition_shows_memory (os : List Observation) (hknown : ∀ o ∈ os, o.Known)
    (hapart : DigestsApart os) (capacity : Nat) (hcapacity : os.length ≤ capacity) :
    ∃ x l, ((Hook.exposition .empty).observeAll os).1 = .exposition x ∧
      ((Hook.memory (.ofCapacity capacity)).observeAll os).1 = .memory l ∧ l.events = os ∧
      x.Shows l ∧ x.ListsOnly os := by
  obtain ⟨hkeeps, hagrees⟩ := Exposition.keeps_and_agrees hknown hapart hcapacity
  exact ⟨_, _, Hook.observeAll_exposition .empty os, Hook.observeAll_memory _ os,
    MemoryLog.events_pushAll hcapacity, hagrees.shows hkeeps, hkeeps.listsOnly⟩

/-- What a limiter observes that admits a key twice and denies it once, while another one waits. -/
def busyMinute : List Observation :=
  [.active "sliding_window" ⟨0x3FF0000000000000⟩, .request "user:1" true,
    .latency "user:1" "allow_n" .zero, .request "user:1" true, .latency "user:1" "allow_n" .zero,
    .waiting "w" ⟨0x3FF0000000000000⟩, .request "user:1" false,
    .latency "user:1" "allow_n" .zero, .waiting "w" .zero, .latency "w" "wait" .zero]

theorem Hook.exposition_shows_memory_busyMinute :
    (∀ o ∈ busyMinute, o.Known) ∧ DigestsApart busyMinute ∧ busyMinute.length ≤ 10 ∧
    ∃ x l, ((Hook.exposition .empty).observeAll busyMinute).1 = .exposition x ∧
      ((Hook.memory (.ofCapacity 10)).observeAll busyMinute).1 = .memory l ∧
      l.events = busyMinute ∧ x.Shows l ∧ x.ListsOnly busyMinute := by
  have hknown : ∀ o ∈ busyMinute, o.Known := by decide
  have hapart : DigestsApart busyMinute := by decide +kernel
  have hcapacity : busyMinute.length ≤ 10 := by decide
  exact ⟨hknown, hapart, hcapacity, exposition_shows_memory busyMinute hknown hapart 10 hcapacity⟩

end Turnstile
