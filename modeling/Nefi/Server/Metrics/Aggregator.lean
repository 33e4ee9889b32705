import Nefi.Server.Metrics.Histogram
import Mathlib.Data.List.AList

/-!
# The aggregator: observations and the flush swap

`Aggregator` keeps one `serviceMetrics` per service in `a.services`, a Go map guarded by `a.mu`.

* `ObserveConnection` and `ObserveHTTPRequest` bind an event to a service (the source's service
  first for a connection, the destination's first for a request; an event with neither is not
  counted) and, under the lock, fetch or create that service's entry with `getOrCreate` and add the
  event to it.
* `flush` swaps the map for an empty one under the lock and then, with the lock released, turns
  every entry of the swapped-out snapshot into points: three latency percentiles when the histogram
  is not empty, a call count, an error rate and two traffic points, all labelled with the service
  and the entry's namespace.

`observeLatency_increments_bucket` is the histogram insertion: one count goes up, at the first
boundary not below the sample or at `+Inf`, and the others stay.

The Go map is an `AList` keyed by the service name.  `getOrCreate` stores a new entry and returns a
pointer that the caller then mutates; the model returns the entry and the caller stores the
updated entry, which leaves the map in the same state at the end of the critical section.  Go
iterates a map in an unspecified order, and `flush` emits points in that order; the model uses the
order of the `AList`, and every law about emitted points is stated up to permutation.

`lastObserved` is written with `time.Now()` and never read, so it is left out.
-/

namespace Nefi
namespace Metrics

/-- `serviceMetrics`, without `lastObserved`.  Fields default to Go's zero values. -/
@[ext] structure ServiceMetrics where
  «namespace» : GoString := []
  latencyCounts : List UInt64 := []
  latencySum : ℚ := 0
  callCount : UInt64 := 0
  errorCount : UInt64 := 0
  bytesSent : UInt64 := 0
  bytesRecv : UInt64 := 0
  deriving DecidableEq

/-- A `map[string]*serviceMetrics`. -/
abbrev ServiceMap := AList fun _ : GoString => ServiceMetrics

/-- The fields of `Aggregator` that observations and `flush` read and write. -/
structure Aggregator where
  buckets : List ℚ
  services : ServiceMap

/-- `NewAggregator`: the default boundaries and an empty map. -/
def newAggregator : Aggregator := ⟨defaultBucketBoundaries, ∅⟩

namespace Aggregator

/-- `getOrCreate`: the service's entry, or a new one with the given namespace and one zero count
per bucket plus the `+Inf` bucket. -/
def getOrCreate (a : Aggregator) (service «namespace» : GoString) : ServiceMetrics :=
  (a.services.lookup service).getD
    { «namespace» := «namespace», latencyCounts := List.replicate (a.buckets.length + 1) 0 }

/-- `observeLatency`. -/
def observeLatency (a : Aggregator) (sm : ServiceMetrics) (latencyNs : ℚ) : ServiceMetrics :=
  { sm with
    latencySum := sm.latencySum + latencyNs
    latencyCounts := insertLatency a.buckets sm.latencyCounts latencyNs }

/-- **`observeLatency` adds one to the count of the first bucket whose boundary is not below the
sample**, or of the `+Inf` bucket when every boundary is below it, and leaves every other count as
it is; a larger sample never goes to an earlier bucket.  Neither the order of the boundaries nor
the sign of the sample matters.  The entry needs its `len(buckets) + 1` counts, which
`getOrCreate` gives it. -/
theorem observeLatency_increments_bucket (a : Aggregator) (sm : ServiceMetrics) (x : ℚ)
    (hlen : sm.latencyCounts.length = a.buckets.length + 1) :
    bucketIndex x a.buckets < sm.latencyCounts.length ∧
    (∀ j, (a.observeLatency sm x).latencyCounts[j]? =
      if j = bucketIndex x a.buckets then (· + 1) <$> sm.latencyCounts[j]?
      else sm.latencyCounts[j]?) ∧
    (∀ k (hk : k < a.buckets.length), k < bucketIndex x a.buckets → a.buckets[k] < x) ∧
    (∀ b, a.buckets[bucketIndex x a.buckets]? = some b → x ≤ b) ∧
    (∀ y, x ≤ y → bucketIndex x a.buckets ≤ bucketIndex y a.buckets) := by
  refine ⟨hlen ▸ Nat.lt_succ_of_le (bucketIndex_le_length x a.buckets), fun j => ?_,
    fun k hk => getElem_lt_of_lt_bucketIndex hk, fun b => le_of_getElem?_bucketIndex,
    fun y hy => bucketIndex_mono hy a.buckets⟩
  rw [observeLatency, insertLatency_eq, List.getElem?_modify]
  by_cases hj : j = bucketIndex x a.buckets
  · simp [hj]
  · simp [hj, Ne.symm hj]

theorem observeLatency_increments_bucket_newAggregator :
    (newAggregator.getOrCreate "checkout" "shop").latencyCounts.length =
        newAggregator.buckets.length + 1 ∧
      bucketIndex 3000000 newAggregator.buckets <
        (newAggregator.getOrCreate "checkout" "shop").latencyCounts.length ∧
      (∀ j, (newAggregator.observeLatency (newAggregator.getOrCreate "checkout" "shop")
          3000000).latencyCounts[j]? =
        if j = bucketIndex 3000000 newAggregator.buckets then
          (· + 1) <$> (newAggregator.getOrCreate "checkout" "shop").latencyCounts[j]?
        else (newAggregator.getOrCreate "checkout" "shop").latencyCounts[j]?) ∧
      (∀ k (hk : k < newAggregator.buckets.length),
        k < bucketIndex 3000000 newAggregator.buckets → newAggregator.buckets[k] < 3000000) ∧
      (∀ b, newAggregator.buckets[bucketIndex 3000000 newAggregator.buckets]? = some b →
        3000000 ≤ b) ∧
      (∀ y, 3000000 ≤ y →
        bucketIndex 3000000 newAggregator.buckets ≤ bucketIndex y newAggregator.buckets) :=
  have hlen : (newAggregator.getOrCreate "checkout" "shop").latencyCounts.length =
      newAggregator.buckets.length + 1 := rfl
  ⟨hlen, observeLatency_increments_bucket _ _ _ hlen⟩

/-- `ObserveConnection`. -/
def observeConnection (a : Aggregator) (ev : ConnectionEvent) : Aggregator :=
  let svc := if ev.source.service = [] then ev.destination.service else ev.source.service
  if svc = [] then a
  else
    let sm := a.getOrCreate svc ev.source.«namespace»
    let sm := { sm with
      callCount := sm.callCount + 1
      bytesSent := sm.bytesSent + ev.bytesSent
      bytesRecv := sm.bytesRecv + ev.bytesRecv }
    let sm := if 0 < ev.durationNs then a.observeLatency sm ev.durationNs.toNat else sm
    { a with services := a.services.insert svc sm }

/-- `ObserveHTTPRequest`. -/
def observeHTTPRequest (a : Aggregator) (ev : HTTPRequestEvent) : Aggregator :=
  let svc := if ev.destination.service = [] then ev.source.service else ev.destination.service
  if svc = [] then a
  else
    let sm := a.getOrCreate svc ev.destination.«namespace»
    let sm := { sm with
      callCount := sm.callCount + 1
      errorCount := if 500 ≤ ev.statusCode then sm.errorCount + 1 else sm.errorCount }
    let sm := if 0 < ev.latencyNs then a.observeLatency sm ev.latencyNs.toNat else sm
    { a with services := a.services.insert svc sm }

/-- The observation the ingestion server makes for one event. -/
def observe (a : Aggregator) : Event → Aggregator
  | .connection ev => a.observeConnection ev
  | .httpRequest ev => a.observeHTTPRequest ev

@[simp] theorem observe_buckets (a : Aggregator) (ev : Event) : (a.observe ev).buckets = a.buckets := by
  cases ev <;> simp only [observe, observeConnection, observeHTTPRequest] <;> split_ifs <;> rfl

end Aggregator

/-! ## Points -/

/-- `withLabel`: a copy of the labels with `key` set to `value`. -/
def withLabel (src : List (GoString × GoString)) (key value : GoString) :
    List (GoString × GoString) :=
  src.filter (fun p => p.1 != key) ++ [(key, value)]

/-- The four lists of points `flush` accumulates, one per metric type. -/
structure FlushPoints where
  latencyPoints : List TimeSeriesPoint := []
  callPoints : List TimeSeriesPoint := []
  errorPoints : List TimeSeriesPoint := []
  trafficPoints : List TimeSeriesPoint := []

/-- The error rate `flush` emits: `errorCount / callCount`, and 0 without calls. -/
def errorRate (sm : ServiceMetrics) : ℚ :=
  if 0 < sm.callCount then (sm.errorCount.toNat : ℚ) / sm.callCount.toNat else 0

/-- The body of `flush`'s loop for the entry `sm` of service `svc`: its points appended to each
list. -/
def addServicePoints (buckets : List ℚ) (now : Time) (acc : FlushPoints) (svc : GoString)
    (sm : ServiceMetrics) : FlushPoints :=
  let labels : List (GoString × GoString) := [("service", svc), ("namespace", sm.«namespace»)]
  let totalCount := totalHistogramCount sm.latencyCounts
  let percentile (q : ℚ) := histogramPercentile buckets sm.latencyCounts totalCount q
  { latencyPoints :=
      if 0 < totalCount then
        acc.latencyPoints ++
          [⟨now, percentile (1 / 2), withLabel labels "quantile" "0.5"⟩,
            ⟨now, percentile (95 / 100), withLabel labels "quantile" "0.95"⟩,
            ⟨now, percentile (99 / 100), withLabel labels "quantile" "0.99"⟩]
      else acc.latencyPoints
    callPoints := acc.callPoints ++ [⟨now, sm.callCount.toNat, labels⟩]
    errorPoints := acc.errorPoints ++ [⟨now, errorRate sm, labels⟩]
    trafficPoints := acc.trafficPoints ++
      [⟨now, sm.bytesSent.toNat, withLabel labels "direction" "sent"⟩,
        ⟨now, sm.bytesRecv.toNat, withLabel labels "direction" "recv"⟩] }

/-- The loop of `flush` over the snapshot. -/
def flushPoints (buckets : List ℚ) (now : Time) (snapshot : ServiceMap) : FlushPoints :=
  snapshot.entries.foldl (fun acc e => addServicePoints buckets now acc e.1 e.2) {}

/-- One guarded `WriteMetrics` call: the points with their metric type, if there are any. -/
def writeMetrics (points : List TimeSeriesPoint) (metricType : GoString) :
    List (List TimeSeriesPoint × GoString) :=
  if 0 < points.length then [(points, metricType)] else []

/-- The `WriteMetrics` calls of `flush`, in the source's order. -/
def metricWrites (fp : FlushPoints) : List (List TimeSeriesPoint × GoString) :=
  writeMetrics fp.latencyPoints "latency" ++ writeMetrics fp.callPoints "call_rate" ++
    writeMetrics fp.errorPoints "error_rate" ++ writeMetrics fp.trafficPoints "traffic"

namespace Aggregator

/-- `flush`: the map is swapped for an empty one under the lock; the snapshot's points are
computed with the lock released and written, nothing at all for an empty snapshot.  `now` is the
`time.Now()` the points are stamped with. -/
def flush (a : Aggregator) (now : Time) : Aggregator × List (List TimeSeriesPoint × GoString) :=
  let snapshot := a.services
  ({ a with services := ∅ },
    if snapshot.entries.length = 0 then [] else metricWrites (flushPoints a.buckets now snapshot))

end Aggregator

/-- Every point a list of writes emits, with the metric type it is written under. -/
def emitted (writes : List (List TimeSeriesPoint × GoString)) : List (GoString × TimeSeriesPoint) :=
  writes.flatMap fun w => w.1.map fun p => (w.2, p)

end Metrics
end Nefi
