import Mathlib.Algebra.GroupWithZero.Nat
import Mathlib.Data.List.Induction
import PeerMesh.Group
import PeerMesh.Proofs.NameMap

/-!
# What the counters of a group count

As long as no total exceeds what a counter holds, the counters that are taken from samples are their
number, the sums of three of their figures, and the largest of a fourth. The sums are made by adding
to what is there, so without a sample there is nothing under their names. Each figure is capped
before it is added, but the sum is not: it overflows exactly if the capped figures do not fit.
-/

set_option autoImplicit false

namespace PeerMesh.Stats

/-! ## Numbers as counters -/

theorem counter_eq (count : Nat) : counter count = Int32.ofNat (min count lengthLimit) := by
  rw [counter]
  split
  · rename_i exceeds
    rw [Nat.min_eq_right (Nat.le_of_lt exceeds)]
  · rename_i fits
    rw [Nat.min_eq_left (Nat.not_lt.mp fits)]

theorem toInt_ofNat {number : Nat} (fits : number ≤ lengthLimit) :
    (Int32.ofNat number).toInt = number :=
  Int32.toInt_ofNat_of_lt (Nat.lt_succ_of_le fits)

theorem toInt_counter {count : Nat} (fits : count ≤ lengthLimit) :
    (counter count).toInt = count := by
  rw [counter_eq, Nat.min_eq_left fits, toInt_ofNat fits]

theorem counter_le_iff {left right : Nat} (leftFits : left ≤ lengthLimit)
    (rightFits : right ≤ lengthLimit) : counter left ≤ counter right ↔ left ≤ right := by
  rw [Int32.le_iff_toInt_le, toInt_counter leftFits, toInt_counter rightFits, Int.ofNat_le]

theorem max_counter {left right : Nat} (leftFits : left ≤ lengthLimit)
    (rightFits : right ≤ lengthLimit) :
    max (counter left) (counter right) = counter (max left right) := by
  change (if counter left ≤ counter right then counter right else counter left) = _
  by_cases below : left ≤ right
  · rw [if_pos ((counter_le_iff leftFits rightFits).mpr below), Nat.max_eq_right below]
  · rw [if_neg fun same => below ((counter_le_iff leftFits rightFits).mp same),
      Nat.max_eq_left (Nat.le_of_not_le below)]

/-! ## The largest blocklist -/

theorem foldl_max_counter {samples : List Sample} {start : Nat} (startFits : start ≤ lengthLimit)
    (fit : ∀ sample ∈ samples, sample.blocked ≤ lengthLimit) :
    samples.foldl (fun largest sample => max largest (counter sample.blocked)) (counter start) =
      counter ((samples.map (·.blocked)).foldl max start) := by
  induction samples generalizing start with
  | nil => rfl
  | cons sample rest ih =>
      have sampleFits := fit sample List.mem_cons_self
      rw [List.foldl_cons, max_counter startFits sampleFits, List.map_cons, List.foldl_cons]
      apply ih
      · exact Nat.max_le.mpr ⟨startFits, sampleFits⟩
      · intro later member
        exact fit later (List.mem_cons_of_mem _ member)

theorem blockedCounter_eq {samples : List Sample}
    (fit : ∀ sample ∈ samples, sample.blocked ≤ lengthLimit) :
    blockedCounter samples = counter ((samples.map (·.blocked)).max?.getD 0) := by
  have folded := foldl_max_counter (Nat.zero_le lengthLimit) fit
  rw [List.foldl_max, Nat.zero_max] at folded
  exact folded

/-! ## The sums -/

/-- The names of the counters that are sums, each with what a sample adds to it. -/
def summed : List (String × (Sample → Nat)) :=
  [("connections", Sample.connections), ("peered", Sample.peered), ("dialing", Sample.dialing)]

variable {name : String} {figure : Sample → Nat}

theorem get?_addTo (counters : StatsMap) (name : String) (amount : Int32) (other : String) :
    (addTo counters name amount).get? other =
      if name = other then some ((counters.get? other).getD 0 + amount)
      else counters.get? other := by
  rw [addTo, NameMap.get?_insert]
  split
  · rename_i same
    rw [same]
  · rfl

theorem get?_addSample (among : (name, figure) ∈ summed) (counters : StatsMap) (sample : Sample) :
    (addSample counters sample).get? name =
      some ((counters.get? name).getD 0 + counter (figure sample)) := by
  simp only [summed, List.mem_cons, Prod.mk.injEq, List.not_mem_nil, or_false] at among
  rcases among with ⟨rfl, rfl⟩ | ⟨rfl, rfl⟩ | ⟨rfl, rfl⟩ <;> simp [addSample, get?_addTo]

theorem get?_addSample_of_other (other : name ∉ summed.map (·.1)) (counters : StatsMap)
    (sample : Sample) : (addSample counters sample).get? name = counters.get? name := by
  simp only [summed, List.map_cons, List.map_nil, List.mem_cons, List.not_mem_nil, or_false,
    not_or] at other
  obtain ⟨connections, peered, dialing⟩ := other
  rw [addSample, get?_addTo, if_neg (Ne.symm dialing), get?_addTo, if_neg (Ne.symm peered),
    get?_addTo, if_neg (Ne.symm connections)]

/-- A figure summed over samples, in each of them capped as a counter caps it. -/
def cappedSum (figure : Sample → Nat) (samples : List Sample) : Nat :=
  (samples.map fun sample => min (figure sample) lengthLimit).sum

theorem cappedSum_append_singleton (figure : Sample → Nat) (earlier : List Sample)
    (last : Sample) :
    cappedSum figure (earlier ++ [last]) =
      cappedSum figure earlier + min (figure last) lengthLimit := by
  rw [cappedSum, List.map_append, List.sum_append_nat]
  rfl

/-- What is under the name of a sum once all samples are added; it may have wrapped around. The
induction is on the last sample, the one that is added last. -/
theorem get?_foldl_addSample (among : (name, figure) ∈ summed) (samples : List Sample) :
    (samples.foldl addSample .empty).get? name =
      if samples = [] then none else some (Int32.ofNat (cappedSum figure samples)) := by
  induction samples using List.reverseRecOn with
  | nil => rfl
  | append_singleton earlier last ih =>
      have before : ((earlier.foldl addSample .empty).get? name).getD 0 =
          Int32.ofNat (cappedSum figure earlier) := by
        rw [ih]
        split
        · rename_i none
          rw [none]
          rfl
        · rfl
      rw [List.foldl_append, List.foldl_cons, List.foldl_nil, get?_addSample among, before,
        counter_eq, ← Int32.ofNat_add, if_neg (by simp), cappedSum_append_singleton]

/-- Capping the figures makes no difference to a sum that is capped. -/
theorem min_cappedSum (figure : Sample → Nat) (samples : List Sample) :
    min (cappedSum figure samples) lengthLimit = min (samples.map figure).sum lengthLimit := by
  induction samples with
  | nil => rfl
  | cons sample rest ih =>
      rw [cappedSum] at ih ⊢
      rw [List.map_cons, List.sum_cons, List.map_cons, List.sum_cons]
      omega

theorem cappedSum_le (figure : Sample → Nat) (samples : List Sample) :
    cappedSum figure samples ≤ (samples.map figure).sum := by
  induction samples with
  | nil => exact Nat.le_refl 0
  | cons sample rest ih => exact Nat.add_le_add (Nat.min_le_left _ _) ih

theorem cappedSum_of_fits {samples : List Sample}
    (fits : (samples.map figure).sum ≤ lengthLimit) :
    cappedSum figure samples = (samples.map figure).sum := by
  have same := min_cappedSum figure samples
  rwa [Nat.min_eq_left fits, Nat.min_eq_left ((cappedSum_le figure samples).trans fits)] at same

theorem get?_foldl_addSample_of_other (other : name ∉ summed.map (·.1)) (samples : List Sample)
    (counters : StatsMap) : (samples.foldl addSample counters).get? name = counters.get? name := by
  induction samples generalizing counters with
  | nil => rfl
  | cons sample rest ih => rw [List.foldl_cons, ih, get?_addSample_of_other other]

/-! ## All counters -/

theorem get?_countersOf (samples : List Sample) (name : String) :
    (countersOf samples).get? name =
      if "blocked" = name then some (blockedCounter samples)
      else if "nodes" = name then some (counter samples.length)
      else (samples.foldl addSample .empty).get? name := by
  rw [countersOf, NameMap.get?_insert, NameMap.get?_insert]

/-- Under a name stands a number. -/
def Counts (counters : StatsMap) (name : String) (number : Nat) : Prop :=
  (counters.get? name).map Int32.toInt = some (number : Int)

theorem Counts.unique {counters : StatsMap} {first second : Nat}
    (one : Counts counters name first) (other : Counts counters name second) : first = second :=
  Int.ofNat.inj (Option.some.inj (one.symm.trans other))

theorem counts_of_get? {counters : StatsMap} {number : Nat} (fits : number ≤ lengthLimit)
    (held : counters.get? name = some (counter number)) : Counts counters name number := by
  rw [Counts, held, Option.map_some, toInt_counter fits]

theorem counts_nodes {samples : List Sample} (fits : samples.length ≤ lengthLimit) :
    Counts (countersOf samples) "nodes" samples.length := by
  apply counts_of_get? fits
  rw [get?_countersOf, if_neg (by decide), if_pos rfl]

theorem counts_blocked {samples : List Sample}
    (fit : ∀ sample ∈ samples, sample.blocked ≤ lengthLimit) :
    Counts (countersOf samples) "blocked" ((samples.map (·.blocked)).max?.getD 0) := by
  apply counts_of_get?
  · cases largest : (samples.map (·.blocked)).max? with
    | none => exact Nat.zero_le _
    | some size =>
        obtain ⟨sample, member, rfl⟩ := List.mem_map.mp (List.max?_mem largest)
        exact fit sample member
  · rw [get?_countersOf, if_pos rfl, blockedCounter_eq fit]

theorem get?_countersOf_of_summed (among : (name, figure) ∈ summed) (samples : List Sample) :
    (countersOf samples).get? name = (samples.foldl addSample .empty).get? name := by
  have apart : "blocked" ≠ name ∧ "nodes" ≠ name := by
    simp only [summed, List.mem_cons, Prod.mk.injEq, List.not_mem_nil, or_false] at among
    rcases among with ⟨rfl, -⟩ | ⟨rfl, -⟩ | ⟨rfl, -⟩ <;> decide
  rw [get?_countersOf, if_neg apart.1, if_neg apart.2]

/-- A sum that fits is counted exactly if there is a sample to sum over. -/
theorem counts_cappedSum_iff (among : (name, figure) ∈ summed) {samples : List Sample}
    (fits : cappedSum figure samples ≤ lengthLimit) :
    Counts (countersOf samples) name (cappedSum figure samples) ↔ samples ≠ [] := by
  rw [Counts, get?_countersOf_of_summed among, get?_foldl_addSample among]
  constructor
  · rintro counted rfl
    cases counted
  · intro some
    rw [if_neg some, Option.map_some, toInt_ofNat fits]

theorem counts_sum_iff (among : (name, figure) ∈ summed) {samples : List Sample}
    (fits : (samples.map figure).sum ≤ lengthLimit) :
    Counts (countersOf samples) name (samples.map figure).sum ↔ samples ≠ [] := by
  have capped := cappedSum_of_fits fits
  rw [← capped] at fits ⊢
  exact counts_cappedSum_iff among fits

/-! ## Additions that overflow -/

/-- What is under the name of a sum, and zero if there is nothing. -/
def runningTotal (name : String) (samples : List Sample) : Int32 :=
  ((samples.foldl addSample .empty).get? name).getD 0

/-- Sample after sample is added to the counter under `name` as numbers are added. -/
def AddsExactly (name : String) (figure : Sample → Nat) (samples : List Sample) : Prop :=
  ∀ earlier sample, earlier ++ [sample] <+: samples →
    (runningTotal name earlier + counter (figure sample)).toInt =
      (runningTotal name earlier).toInt + (counter (figure sample)).toInt

theorem runningTotal_eq (among : (name, figure) ∈ summed) (samples : List Sample) :
    runningTotal name samples = Int32.ofNat (cappedSum figure samples) := by
  rw [runningTotal, get?_foldl_addSample among]
  split
  · rename_i none
    rw [none]
    rfl
  · rfl

theorem runningTotal_append_singleton (among : (name, figure) ∈ summed) (earlier : List Sample)
    (last : Sample) :
    runningTotal name (earlier ++ [last]) =
      runningTotal name earlier + counter (figure last) := by
  rw [runningTotal_eq among, runningTotal_eq among, cappedSum_append_singleton, counter_eq,
    Int32.ofNat_add]

theorem cappedSum_mono {front samples : List Sample} (within : front <+: samples) :
    cappedSum figure front ≤ cappedSum figure samples := by
  obtain ⟨later, rfl⟩ := within
  rw [cappedSum, cappedSum, List.map_append, List.sum_append_nat]
  exact Nat.le_add_right _ _

/-- As long as nothing has overflowed, the counter is the sum so far. -/
theorem AddsExactly.toInt_runningTotal (among : (name, figure) ∈ summed) {samples : List Sample}
    (exactly : AddsExactly name figure samples) {front : List Sample} (within : front <+: samples) :
    (runningTotal name front).toInt = cappedSum figure front := by
  induction front using List.reverseRecOn with
  | nil => rfl
  | append_singleton earlier last ih =>
      have before := ih ((List.prefix_append earlier [last]).trans within)
      rw [runningTotal_append_singleton among, exactly earlier last within, before, counter_eq,
        toInt_ofNat (Nat.min_le_right _ _), cappedSum_append_singleton, Int.natCast_add]

/-- Nothing overflows on the way if and only if the capped figures fit in the end. -/
theorem addsExactly_iff (among : (name, figure) ∈ summed) {samples : List Sample} :
    AddsExactly name figure samples ↔ cappedSum figure samples ≤ lengthLimit := by
  constructor
  · intro exactly
    -- what the last addition gives is a counter, and no counter is larger than the limit
    have total := exactly.toInt_runningTotal among List.prefix_rfl
    have bound := (runningTotal name samples).toInt_le
    rw [total] at bound
    exact Int.ofNat_le.mp bound
  · intro fits earlier sample within
    have after : cappedSum figure (earlier ++ [sample]) ≤ lengthLimit :=
      (cappedSum_mono within).trans fits
    have before := (cappedSum_mono (List.prefix_append earlier [sample])).trans after
    rw [← runningTotal_append_singleton among, runningTotal_eq among, runningTotal_eq among,
      toInt_ofNat after, toInt_ofNat before, counter_eq, toInt_ofNat (Nat.min_le_right _ _),
      cappedSum_append_singleton, Int.natCast_add]

/-- A sum is made without overflow and is what the capped sum should be, if and only if there is a
sample and the capped figures fit. -/
theorem addsExactly_and_counts_iff (among : (name, figure) ∈ summed) {samples : List Sample} :
    AddsExactly name figure samples ∧
        Counts (countersOf samples) name (min (samples.map figure).sum lengthLimit) ↔
      samples ≠ [] ∧ cappedSum figure samples ≤ lengthLimit := by
  rw [addsExactly_iff among, ← min_cappedSum, and_comm, and_congr_left_iff]
  intro fits
  rw [Nat.min_eq_left fits]
  exact counts_cappedSum_iff among fits

theorem get?_countersOf_of_other
    (other : name ∉ ["nodes", "connections", "peered", "dialing", "blocked"])
    (samples : List Sample) : (countersOf samples).get? name = none := by
  simp only [List.mem_cons, List.not_mem_nil, or_false, not_or] at other
  obtain ⟨nodes, connections, peered, dialing, blocked⟩ := other
  rw [get?_countersOf, if_neg (Ne.symm blocked), if_neg (Ne.symm nodes),
    get?_foldl_addSample_of_other]
  · rfl
  · simp [summed, connections, peered, dialing]

end PeerMesh.Stats
