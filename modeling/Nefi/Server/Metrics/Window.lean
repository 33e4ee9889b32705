import Nefi.Server.Metrics.Entry
import Mathlib.Algebra.Order.BigOperators.Group.List
import Mathlib.Algebra.Order.Field.Basic

/-!
# Tumbling windows: the aggregator over whole runs

The ingestion server calls `ObserveConnection` and `ObserveHTTPRequest` from its stream handlers,
and `flushLoop` calls `flush` on every tick and once more when `Stop` closes `stopCh`.  Each
observation is one critical section on `a.mu`, and so is the swap at the start of `flush`; the
snapshot is then turned into points with the lock released, from a map no one else can reach.
So a run of the aggregator is a sequence of `Action`s, each an observation or a flush.

The `Run` carries the aggregator and a ghost history: every observation made, the observations of
each closed window and of the open one, the snapshots swapped out, and the points written.
`Reachable` is every state some interleaving reaches from an empty map.

## The invariant

`Inv` says what the aggregator is for.  The live map is the map that the open window's
observations build from an empty one, every snapshot is the map its own window built, and the
windows cut the sequence of observations into consecutive pieces.  Every point written is a point
of some entry of some snapshot.

## Results

* `snapshot_totals`: after the final flush, each counter of a service, summed over all snapshots,
  is the total over every observation bound to the service, when no window overflows the counter.
* `entries_bounded`: in every reachable state the live map and the snapshots are the maps of their
  own windows, and, when no window holds `2^64` observations of one service, each entry has one
  count per bucket and for `+Inf`, its histogram total is its window's number of positive-latency
  observations of its service, the histogram total and the error count are at most the call
  count, every error-rate point written lies in `[0, 1]`, and a flush writes latency points for
  exactly the services with a positive-latency observation in its window
  (`EntriesBounded`).  Without that bound the error count can pass the call count
  (`error_count_wraps`).
-/

namespace Nefi
namespace Metrics

open List

/-- One critical section: an observation, or the swap of a flush stamped `now`. -/
inductive Action
  | observe (ev : Event)
  | flush (now : Time)

/-- The aggregator with the ghost history of its run. -/
structure Run where
  agg : Aggregator
  /-- Every observation made, in order. -/
  observed : List Event
  /-- The observations of each closed window, oldest first. -/
  windows : List (List Event)
  /-- The observations since the last flush. -/
  current : List Event
  /-- The maps `flush` swapped out, oldest first. -/
  snapshots : List ServiceMap
  /-- Every point written, with its metric type. -/
  written : List (GoString × TimeSeriesPoint)

namespace Run

/-- A new aggregator with the given boundaries. -/
def init (buckets : List ℚ) : Run := ⟨⟨buckets, ∅⟩, [], [], [], [], []⟩

/-- One critical section, with its effect on the history. -/
def step (r : Run) : Action → Run
  | .observe ev =>
    { r with
      agg := r.agg.observe ev
      observed := r.observed ++ [ev]
      current := r.current ++ [ev] }
  | .flush now =>
    { r with
      agg := (r.agg.flush now).1
      windows := r.windows ++ [r.current]
      current := []
      snapshots := r.snapshots ++ [r.agg.services]
      written := r.written ++ emitted (r.agg.flush now).2 }

/-- A sequence of observations with no flush between them. -/
def observeAll (r : Run) (evs : List Event) : Run := evs.foldl (fun r ev => r.step (.observe ev)) r

@[simp] theorem init_agg (buckets : List ℚ) : (Run.init buckets).agg = ⟨buckets, ∅⟩ := rfl

theorem observeAll_agg (r : Run) (evs : List Event) :
    (r.observeAll evs).agg = r.agg.observeAll evs := by
  induction evs generalizing r with
  | nil => rfl
  | cons ev evs ih => exact ih _

end Run

/-- The states some interleaving reaches from an empty map with the given boundaries. -/
inductive Reachable (buckets : List ℚ) : Run → Prop
  | init : Reachable buckets (Run.init buckets)
  | step {r : Run} (a : Action) : Reachable buckets r → Reachable buckets (r.step a)

theorem Reachable.observeAll {buckets : List ℚ} {r : Run} (h : Reachable buckets r)
    (evs : List Event) : Reachable buckets (r.observeAll evs) := by
  induction evs generalizing r with
  | nil => exact h
  | cons ev evs ih => exact ih (h.step _)

/-! ## The invariant -/

section Invariant

variable (buckets : List ℚ)

/-- The map a window's observations build from an empty one. -/
def build (evs : List Event) : ServiceMap := (Aggregator.observeAll ⟨buckets, ∅⟩ evs).services

/-- What a reachable state satisfies. -/
structure Inv (r : Run) : Prop where
  /-- The aggregator is the open window's observations applied to an empty map. -/
  live : r.agg = Aggregator.observeAll ⟨buckets, ∅⟩ r.current
  /-- Every snapshot is the map its window built. -/
  closed : r.snapshots = r.windows.map (build buckets)
  /-- The windows cut the observations into consecutive pieces. -/
  partition : r.observed = r.windows.flatten ++ r.current
  /-- Every point written is a point of an entry of a snapshot. -/
  written : ∀ p ∈ r.written, ∃ m ∈ r.snapshots, ∃ e ∈ m.entries, ∃ now : Time,
    p ∈ servicePoints buckets now e.1 e.2

theorem inv_init : Inv buckets (Run.init buckets) :=
  ⟨rfl, rfl, rfl, fun _ h => absurd h (not_mem_nil _)⟩

variable {buckets}

theorem inv_step {r : Run} (hi : Inv buckets r) (a : Action) : Inv buckets (r.step a) := by
  have hb : r.agg.buckets = buckets := by rw [hi.live, Aggregator.observeAll_buckets]
  cases a with
  | observe ev =>
    refine ⟨?_, hi.closed, ?_, hi.written⟩
    · simp only [Run.step, hi.live, Aggregator.observeAll_append]
      rfl
    · simp only [Run.step, hi.partition, append_assoc]
  | flush now =>
    refine ⟨?_, ?_, ?_, ?_⟩
    · simp only [Run.step, Aggregator.flush, hb]
      rfl
    · simp only [Run.step, hi.closed, map_append, map_singleton, build, hi.live]
    · simp only [Run.step, hi.partition, flatten_append, flatten_singleton, append_nil]
    · intro p hp
      simp only [Run.step, mem_append] at hp ⊢
      rcases hp with hp | hp
      · obtain ⟨m, hm, rest⟩ := hi.written p hp
        exact ⟨m, .inl hm, rest⟩
      · obtain ⟨e, he, hpe⟩ := mem_flatMap.mp ((emitted_flush r.agg now).subset hp)
        exact ⟨r.agg.services, .inr (mem_singleton_self _), e, he, now, hb ▸ hpe⟩

theorem Reachable.inv {r : Run} (h : Reachable buckets r) : Inv buckets r := by
  induction h with
  | init => exact inv_init buckets
  | step a _ ih => exact inv_step ih a

end Invariant

/-! ## Totals over the windows -/

section Totals

variable {buckets : List ℚ}

/-- The totals of the windows add up to the total of their concatenation. -/
theorem sum_map_total (c : Counter) (S : GoString) (ws : List (List Event)) :
    (ws.map (c.total buckets S)).sum = c.total buckets S ws.flatten := by
  induction ws with
  | nil => rfl
  | cons w ws ih => rw [map_cons, sum_cons, ih, flatten_cons, Counter.total_append]

/-- Summed over the snapshots, a counter is the total over the closed windows, when no window
overflows it. -/
theorem sum_counterIn_snapshots {r : Run} (hi : Inv buckets r) (c : Counter) (S : GoString)
    (hw : ∀ w ∈ r.windows, c.total buckets S w < 2 ^ 64) :
    (r.snapshots.map (c.counterIn S)).sum = c.total buckets S r.windows.flatten := by
  rw [hi.closed, map_map, ← sum_map_total]
  congr 1
  refine map_congr_left fun w hw' => ?_
  rw [Function.comp_apply, build, counterIn_observeAll, Nat.mod_eq_of_lt (hw w hw')]

/-- **Every observation is counted in exactly one window.**  After the final flush, a counter of
`S` summed over all snapshots is its total over every observation made, provided that no window
overflows it. -/
theorem snapshot_totals {r : Run} (h : Reachable buckets r) (c : Counter) (S : GoString)
    (hw : ∀ w ∈ r.windows ++ [r.current], c.total buckets S w < 2 ^ 64) (now : Time) :
    ((r.step (.flush now)).snapshots.map (c.counterIn S)).sum = c.total buckets S r.observed := by
  have hi := (h.step (.flush now)).inv
  rw [sum_counterIn_snapshots hi c S hw]
  exact congrArg (c.total buckets S) ((append_nil _).symm.trans hi.partition.symm)

/-- One request observed, before any flush. -/
def oneRequestRun : Run := (Run.init defaultBucketBoundaries).step (.observe (requestTo "api" "a"))

/-- A single request, then the final flush: the snapshot counts it once. -/
theorem snapshot_totals_one_request :
    Reachable defaultBucketBoundaries oneRequestRun ∧
      (∀ w ∈ oneRequestRun.windows ++ [oneRequestRun.current],
        Counter.callCount.total defaultBucketBoundaries "api" w < 2 ^ 64) ∧
      ((oneRequestRun.step (.flush (Time.unix 0))).snapshots.map
          (Counter.callCount.counterIn "api")).sum =
        Counter.callCount.total defaultBucketBoundaries "api" oneRequestRun.observed :=
  ⟨.step _ .init, by decide,
    snapshot_totals (.step _ .init) Counter.callCount "api" (by decide) (Time.unix 0)⟩

end Totals

/-! ## The entries of a window -/

section Entries

variable {buckets : List ℚ}

theorem uint64_le_of_toNat_le {a b : UInt64} (h : a.toNat ≤ b.toNat) : a ≤ b :=
  UInt64.le_def.mpr (BitVec.le_def.mpr h)

/-- A counter whose observations each add at most one stays below the call count. -/
theorem total_le_callCount (c : Counter) (hc : ∀ ev, c.delta buckets ev ≤ 1) (S : GoString)
    (w : List Event) : c.total buckets S w ≤ Counter.callCount.total buckets S w :=
  sum_le_sum fun ev _ => hc ev

theorem delta_errorCount_le_one (buckets : List ℚ) (ev : Event) : Counter.errorCount.delta buckets ev ≤ 1 := by
  cases ev with
  | connection => exact Nat.zero_le _
  | httpRequest e =>
    simp only [Counter.delta, Event.errors]
    split <;> decide

theorem delta_latencyTotal_le_one (buckets : List ℚ) (ev : Event) : Counter.latencyTotal.delta buckets ev ≤ 1 := by
  simp only [Counter.delta]
  split <;> decide

/-- A window's map has an entry for `S` exactly when one of the window's observations is bound
to `S`. -/
theorem isSome_lookup_build (w : List Event) (S : GoString) :
    ((build buckets w).lookup S).isSome ↔ ∃ ev ∈ w, BoundTo S ev := by
  rw [build, lookup_observeAll, AList.lookup_empty]
  cases hl : w.filter (BoundTo S ·) with
  | nil =>
    simp only [foldl_nil, Option.isSome_none, Bool.false_eq_true, false_iff, not_exists, not_and]
    simpa using filter_eq_nil_iff.mp hl
  | cons ev l =>
    simp only [foldl_observeEntry_none, Option.isSome_some, true_iff]
    have hev := mem_filter.mp (hl ▸ mem_cons_self ev l)
    exact ⟨ev, hev.1, by simpa using hev.2⟩

/-- Each counter of a window's entry is the window's total, modulo `2^64`. -/
theorem get_of_lookup_build {w : List Event} {S : GoString} {sm : ServiceMetrics}
    (h : (build buckets w).lookup S = some sm) (c : Counter) :
    (c.get sm).toNat = c.total buckets S w % 2 ^ 64 := by
  have hc := counterIn_observeAll buckets c S w
  rwa [Counter.counterIn, ← build, h] at hc

/-- **The entries of a window without overflow**: a count per bucket and for `+Inf`, a histogram
total that counts the positive-latency observations, and a histogram total and an error count
bounded by the call count. -/
theorem entry_bounds {w : List Event} {S : GoString} {sm : ServiceMetrics}
    (h : (build buckets w).lookup S = some sm)
    (hw : Counter.callCount.total buckets S w < 2 ^ 64) :
    sm.latencyCounts.length = buckets.length + 1 ∧
      (totalHistogramCount sm.latencyCounts).toNat = Counter.latencyTotal.total buckets S w ∧
      totalHistogramCount sm.latencyCounts ≤ sm.callCount ∧ sm.errorCount ≤ sm.callCount := by
  have hlat := (total_le_callCount _ (delta_latencyTotal_le_one buckets) S w)
  have herr := (total_le_callCount _ (delta_errorCount_le_one buckets) S w)
  have hcall := get_of_lookup_build h Counter.callCount
  have hhist := get_of_lookup_build h Counter.latencyTotal
  have hcount := get_of_lookup_build h Counter.errorCount
  simp only [Counter.get] at hcall hhist hcount
  rw [Nat.mod_eq_of_lt hw] at hcall
  rw [Nat.mod_eq_of_lt (hlat.trans_lt hw)] at hhist
  rw [Nat.mod_eq_of_lt (herr.trans_lt hw)] at hcount
  exact ⟨length_of_lookup_observeAll h, hhist, uint64_le_of_toNat_le (hhist ▸ hcall ▸ hlat),
    uint64_le_of_toNat_le (hcount ▸ hcall ▸ herr)⟩

/-- A count over a larger count, as the server divides them (`float64(a) / float64(b)`, and 0
when `b` is 0), is a rate in `[0, 1]`. -/
theorem ratio_mem {a b : UInt64} (h : a ≤ b) :
    0 ≤ (if 0 < b then (a.toNat : ℚ) / b.toNat else 0) ∧
      (if 0 < b then (a.toNat : ℚ) / b.toNat else 0) ≤ 1 := by
  split
  · have hle : a.toNat ≤ b.toNat := BitVec.le_def.mp (UInt64.le_def.mp h)
    exact ⟨div_nonneg (Nat.cast_nonneg _) (Nat.cast_nonneg _),
      div_le_one_of_le₀ (by exact_mod_cast hle) (Nat.cast_nonneg _)⟩
  · exact ⟨le_rfl, zero_le_one⟩

/-- An error rate with no more errors than calls lies in `[0, 1]`. -/
theorem errorRate_mem {sm : ServiceMetrics} (h : sm.errorCount ≤ sm.callCount) :
    0 ≤ errorRate sm ∧ errorRate sm ≤ 1 :=
  ratio_mem h

/-- The error-rate point of an entry carries the entry's error rate. -/
theorem value_of_mem_servicePoints {now : Time} {svc : GoString} {sm : ServiceMetrics}
    {p : GoString × TimeSeriesPoint} (hp : p ∈ servicePoints buckets now svc sm)
    (ht : p.1 = "error_rate") : p.2.value = errorRate sm := by
  simp only [servicePoints, FlushPoints.tagged, addServicePoints, tagWith, mem_append, mem_map,
    nil_append, not_mem_nil, false_or, mem_singleton] at hp
  rcases hp with ((⟨q, -, rfl⟩ | ⟨q, -, rfl⟩) | ⟨q, rfl, rfl⟩) | ⟨q, -, rfl⟩
  · simp only at ht; exact absurd ht (by decide)
  · simp only at ht; exact absurd ht (by decide)
  · rfl
  · simp only at ht; exact absurd ht (by decide)

end Entries

/-! ## Entries over whole runs -/

section Runs

variable {buckets : List ℚ}

theorem uint64_pos_iff (t : UInt64) : 0 < t ↔ 0 < t.toNat :=
  ⟨fun h => BitVec.lt_def.mp (UInt64.lt_def.mp h), fun h => UInt64.lt_def.mpr (BitVec.lt_def.mpr h)⟩

/-- The live map and the snapshots of a reachable state are the maps of their windows. -/
theorem Inv.maps {r : Run} (hi : Inv buckets r) :
    r.snapshots ++ [r.agg.services] = (r.windows ++ [r.current]).map (build buckets) := by
  rw [map_append, map_singleton, ← hi.closed, hi.live]
  rfl

/-- A window has a positive-latency total for `S` exactly when one of its observations bound to
`S` has a positive latency. -/
theorem total_latencyTotal_pos_iff (S : GoString) (w : List Event) :
    0 < Counter.latencyTotal.total buckets S w ↔ ∃ ev ∈ w, BoundTo S ev ∧ 0 < ev.latencyNs := by
  simp only [Counter.total, Counter.delta, Nat.pos_iff_ne_zero, ne_eq, sum_eq_zero_iff, mem_map,
    mem_filter, decide_eq_true_eq, forall_exists_index, and_imp, not_forall]
  constructor
  · rintro ⟨_, ev, hev, hb, rfl, hne⟩
    exact ⟨ev, hev, hb, by_contra fun h => hne (if_neg h)⟩
  · rintro ⟨ev, hev, hb, hpos⟩
    exact ⟨_, ev, hev, hb, rfl, by rw [if_pos hpos]; exact one_ne_zero⟩

/-- An entry's points include latency points exactly when its histogram is not empty. -/
theorem exists_latency_mem_servicePoints_iff {now : Time} {svc : GoString} {sm : ServiceMetrics} :
    (∃ p ∈ servicePoints buckets now svc sm, p.1 = "latency") ↔
      0 < totalHistogramCount sm.latencyCounts := by
  simp only [servicePoints, FlushPoints.tagged, addServicePoints, tagWith]
  split_ifs with h
  · exact ⟨fun _ => h, fun _ => ⟨_, mem_append_left _ (mem_append_left _ (mem_append_left _
      (mem_map_of_mem _ (mem_append_right _ (mem_cons_self _ _))))), rfl⟩⟩
  · refine ⟨fun ⟨p, hp, ht⟩ => ?_, fun h' => absurd h' h⟩
    simp only [nil_append, map_nil, mem_append, mem_map, mem_singleton, mem_cons, not_mem_nil,
      or_false] at hp
    rcases hp with (⟨q, -, rfl⟩ | ⟨q, -, rfl⟩) | ⟨q, -, rfl⟩ <;> simp only at ht <;>
      exact absurd ht (by decide)

/-- What a reachable state keeps of every window: the live map and the snapshots are the maps of
their own windows, in order; every entry has a count per bucket and for `+Inf`, a histogram total
that is its window's number of positive-latency observations of its service, and a histogram total
and an error count at most the call count; every error-rate point written is in `[0, 1]`; and the
next flush writes latency points for exactly the services with a positive-latency observation in
the open window. -/
structure EntriesBounded (buckets : List ℚ) (r : Run) : Prop where
  maps : r.snapshots ++ [r.agg.services] = (r.windows ++ [r.current]).map (build buckets)
  entries : ∀ w ∈ r.windows ++ [r.current], ∀ S, ∀ sm ∈ (build buckets w).lookup S,
    sm.latencyCounts.length = buckets.length + 1 ∧
      (totalHistogramCount sm.latencyCounts).toNat = Counter.latencyTotal.total buckets S w ∧
      totalHistogramCount sm.latencyCounts ≤ sm.callCount ∧ sm.errorCount ≤ sm.callCount
  errorRate : ∀ p ∈ r.written, p.1 = "error_rate" → 0 ≤ p.2.value ∧ p.2.value ≤ 1
  latencyPoints : ∀ (now : Time) (S : GoString),
    (∃ p ∈ emitted (r.agg.flush now).2, p.1 = "latency" ∧
        p.2.labels.lookup ("service" : GoString) = some S) ↔
      ∃ ev ∈ r.current, BoundTo S ev ∧ 0 < ev.latencyNs

/-- The next flush writes latency points for a service exactly when the open window has a
positive-latency observation of it, when the window does not overflow the call count. -/
theorem Inv.latencyPoints {r : Run} (hi : Inv buckets r)
    (hw : ∀ S, Counter.callCount.total buckets S r.current < 2 ^ 64) (now : Time) (S : GoString) :
    (∃ p ∈ emitted (r.agg.flush now).2, p.1 = "latency" ∧
        p.2.labels.lookup ("service" : GoString) = some S) ↔
      ∃ ev ∈ r.current, BoundTo S ev ∧ 0 < ev.latencyNs := by
  have hb : r.agg.buckets = buckets := by rw [hi.live, Aggregator.observeAll_buckets]
  have hsvc : r.agg.services = build buckets r.current := by rw [hi.live]; rfl
  -- the histogram of the entry of `S`, if any, counts the positive latencies of the window
  have hpos : ∀ sm, (build buckets r.current).lookup S = some sm →
      (0 < totalHistogramCount sm.latencyCounts ↔ ∃ ev ∈ r.current, BoundTo S ev ∧ 0 < ev.latencyNs) :=
    fun sm hsm => by
      rw [uint64_pos_iff, (entry_bounds hsm (hw S)).2.1, total_latencyTotal_pos_iff]
  constructor
  · rintro ⟨p, hp, ht, hl⟩
    obtain ⟨e, he, hpe⟩ := mem_flatMap.mp ((emitted_flush _ _).subset hp)
    rw [hb] at hpe
    obtain rfl : e.1 = S := Option.some.inj ((labels_of_mem_servicePoints p hpe).1.symm.trans hl)
    rw [hsvc] at he
    exact (hpos e.2 (AList.mem_lookup_iff.mpr he)).mp
      (exists_latency_mem_servicePoints_iff.mp ⟨p, hpe, ht⟩)
  · rintro hev
    obtain ⟨sm, hsm⟩ := Option.isSome_iff_exists.mp
      ((isSome_lookup_build r.current S).mpr (hev.imp fun _ h => ⟨h.1, h.2.1⟩))
    obtain ⟨p, hp, ht⟩ := exists_latency_mem_servicePoints_iff.mpr ((hpos sm hsm).mpr hev)
    refine ⟨p, (emitted_flush _ _).symm.subset (mem_flatMap.mpr ⟨⟨S, sm⟩, ?_, ?_⟩), ht,
      (labels_of_mem_servicePoints p hp).1⟩
    · rw [hsvc]
      exact AList.mem_lookup_iff.mp hsm
    · rwa [hb]

/-- **Entries in every reachable state.**  The live map and every snapshot are the maps of their
own windows.  When no window holds `2^64` observations of one service, every entry has a count per
bucket and for `+Inf`, its histogram total counts the positive-latency observations of its service
in its window, the histogram total and the error count are at most the call count, every
error-rate point written lies in `[0, 1]`, and every flush writes latency points for exactly the
services with a positive-latency observation in its window. -/
theorem entries_bounded {r : Run} (h : Reachable buckets r)
    (hw : ∀ S, ∀ w ∈ r.windows ++ [r.current], Counter.callCount.total buckets S w < 2 ^ 64) :
    EntriesBounded buckets r := by
  have hi := h.inv
  refine ⟨hi.maps, fun w hw' S sm hsm => entry_bounds hsm (hw S w hw'), fun p hp ht => ?_,
    hi.latencyPoints fun S => hw S _ (mem_append_right _ (mem_singleton_self _))⟩
  obtain ⟨m, hm, e, he, now, hpe⟩ := hi.written p hp
  obtain ⟨w, hw', rfl⟩ := mem_map.mp (hi.maps ▸ mem_append_left _ hm)
  rw [value_of_mem_servicePoints hpe ht]
  exact errorRate_mem (entry_bounds (AList.mem_lookup_iff.mpr he) (hw e.1 w hw')).2.2.2

theorem total_callCount_le_length (S : GoString) (w : List Event) :
    Counter.callCount.total buckets S w ≤ w.length := by
  rw [Counter.total, show Counter.delta buckets .callCount = fun _ => 1 from rfl, map_const',
    sum_replicate, smul_eq_mul, mul_one]
  exact length_filter_le _ _

/-- The run of `snapshot_totals_one_request`, flushed. -/
def flushedOneRequestRun : Run := oneRequestRun.step (.flush (Time.unix 0))

/-- The flushed run of one request keeps its entries bounded. -/
theorem entries_bounded_one_request :
    Reachable defaultBucketBoundaries flushedOneRequestRun ∧
      (∀ S, ∀ w ∈ flushedOneRequestRun.windows ++ [flushedOneRequestRun.current],
        Counter.callCount.total defaultBucketBoundaries S w < 2 ^ 64) ∧
      EntriesBounded defaultBucketBoundaries flushedOneRequestRun :=
  have hw : ∀ S, ∀ w ∈ flushedOneRequestRun.windows ++ [flushedOneRequestRun.current],
      Counter.callCount.total defaultBucketBoundaries S w < 2 ^ 64 := fun S w hw =>
    (total_callCount_le_length S w).trans_lt
      ((by decide : ∀ w ∈ flushedOneRequestRun.windows ++ [flushedOneRequestRun.current],
        w.length < 2 ^ 64) w hw)
  ⟨.step _ (.step _ .init), hw, entries_bounded (.step _ (.step _ .init)) hw⟩

/-- A request to `api` answered with the status code `status`, at the epoch. -/
def answered (status : UInt16) : Event :=
  .httpRequest { timestamp := Time.unix 0, destination := { service := "api" }, statusCode := status }

/-- Two failed requests, then `2^64 - 1` successful ones. -/
def wrapEvents : List Event := replicate 2 (answered 500) ++ replicate (2 ^ 64 - 1) (answered 200)

/-- With `2^64 + 1` requests in one window the call count wraps to 1 under an error count of 2,
and the error rate flushed would be 2. -/
theorem error_count_wraps :
    Reachable defaultBucketBoundaries ((Run.init defaultBucketBoundaries).observeAll wrapEvents) ∧
      ∃ sm : ServiceMetrics,
        ((Run.init defaultBucketBoundaries).observeAll wrapEvents).agg.services.lookup
            ("api" : GoString) =
          some sm ∧ sm.callCount.toNat = 1 ∧ sm.errorCount.toNat = 2 ∧ errorRate sm = 2 := by
  refine ⟨.observeAll .init _, ?_⟩
  have hall : wrapEvents.filter (BoundTo "api" ·) = wrapEvents := filter_eq_self.mpr fun ev hev => by
    simp only [wrapEvents, mem_append, mem_replicate] at hev
    rcases hev with ⟨-, rfl⟩ | ⟨-, rfl⟩ <;> decide
  have htotal : ∀ c : Counter, c.total defaultBucketBoundaries "api" wrapEvents =
      2 * c.delta defaultBucketBoundaries (answered 500) +
        (2 ^ 64 - 1) * c.delta defaultBucketBoundaries (answered 200) := fun c => by
    rw [Counter.total, hall, wrapEvents, map_append, map_replicate, map_replicate, sum_append,
      sum_replicate, sum_replicate, smul_eq_mul, smul_eq_mul]
  obtain ⟨sm, hsm⟩ : ∃ sm, (build defaultBucketBoundaries wrapEvents).lookup ("api" : GoString) =
      some sm := Option.isSome_iff_exists.mp ((isSome_lookup_build wrapEvents "api").mpr
    ⟨answered 500, mem_append_left _ (mem_replicate.mpr ⟨two_ne_zero, rfl⟩), by decide⟩)
  have hcall := get_of_lookup_build hsm Counter.callCount
  have herr := get_of_lookup_build hsm Counter.errorCount
  have h500 : (answered 500).errors.toNat = 1 := by decide
  have h200 : (answered 200).errors.toNat = 0 := by decide
  simp only [htotal, Counter.get, Counter.delta, h500, h200] at hcall herr
  replace hcall : sm.callCount.toNat = 1 := hcall.trans (by decide)
  replace herr : sm.errorCount.toNat = 2 := herr.trans (by decide)
  rw [Run.observeAll_agg, Run.init_agg, ← build]
  refine ⟨sm, hsm, hcall, herr, ?_⟩
  have hpos : 0 < sm.callCount := UInt64.lt_def.mpr (BitVec.lt_def.mpr (by
    show 0 < sm.callCount.toNat
    omega))
  rw [errorRate, if_pos hpos, hcall, herr]
  norm_num

end Runs

end Metrics
end Nefi
