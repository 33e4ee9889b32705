import Nefi.Server.Metrics.Aggregator
import Mathlib.Data.Multiset.Basic
import Mathlib.Tactic.Abel

/-!
# The aggregator service by service

`Aggregator.lean` follows the source function by function.  This module says what those functions
compute for one service at a time, which is the form every law of the aggregator is stated in.

* `Event.boundService` is the binding both observe functions compute, and `record` is the update
  either makes to the entry it fetched: one call, the event's errors and bytes, and, for a positive
  latency, one histogram sample.  `observe_eq` says that an observation is `getOrCreate`, `record`
  and a store, and nothing else.
* `lookup_observeAll`: after a sequence of observations, a service's entry is the fold of
  `observeEntry` over the observations bound to it.  Observations bound elsewhere leave it alone.
* `Counter` names the additive counters of an entry, and `get_foldl_record` says that each is the
  sum, modulo `2^64`, of what the folded observations contribute; `counterIn_observeAll` is the
  same for a map built from an empty one.
* `record_comm`: two observations commute on an entry that exists.  The one step that depends on
  order is the creation of an entry, which keeps the namespace of whichever observation created it.
  `lookup_observeAll_perm` is the resulting law: permuted observations that agree on the namespace
  of each service give the same entries.
* `emitted_flush`: whatever the order of the map, `flush` emits each entry's points.
* `namespace_of_mem_emitted_flush`: every point is labelled with the namespace that the first
  observation bound to its service passed to `getOrCreate`, which is the source's for a connection
  and the destination's for a request, even when the service came from the other endpoint
  (`fallback_namespace_from_source`).
-/

namespace Nefi

namespace Event

/-- The service an observation is bound to: a connection's source service, else its
destination's; a request's destination service, else its source's.  Empty means unbound. -/
def boundService : Event → GoString
  | connection e => if e.source.service = [] then e.destination.service else e.source.service
  | httpRequest e =>
    if e.destination.service = [] then e.source.service else e.destination.service

/-- The namespace an observation passes to `getOrCreate`: always the source's for a connection
and the destination's for a request, whichever endpoint the service was taken from. -/
def boundNamespace : Event → GoString
  | connection e => e.source.«namespace»
  | httpRequest e => e.destination.«namespace»

/-- The latency an observation samples: a connection's duration, a request's latency. -/
def latencyNs : Event → UInt64
  | connection e => e.durationNs
  | httpRequest e => e.latencyNs

/-- What an observation adds to `errorCount`: one for a request answered with a 5xx status. -/
def errors : Event → UInt64
  | connection _ => 0
  | httpRequest e => if 500 ≤ e.statusCode then 1 else 0

/-- What an observation adds to `bytesSent`: a connection's bytes, nothing for a request. -/
def bytesSent : Event → UInt64
  | connection e => e.bytesSent
  | httpRequest _ => 0

/-- What an observation adds to `bytesRecv`. -/
def bytesRecv : Event → UInt64
  | connection e => e.bytesRecv
  | httpRequest _ => 0

end Event

namespace Metrics

open List

/-- The entry `getOrCreate` creates. -/
def newServiceMetrics (buckets : List ℚ) («namespace» : GoString) : ServiceMetrics :=
  { «namespace» := «namespace», latencyCounts := List.replicate (buckets.length + 1) 0 }

theorem getOrCreate_eq (a : Aggregator) (service «namespace» : GoString) :
    a.getOrCreate service «namespace» =
      (a.services.lookup service).getD (newServiceMetrics a.buckets «namespace») := rfl

/-- An observation is counted in the entry of `S` when it is bound to `S`; an observation bound to
the empty name is dropped. -/
def BoundTo (S : GoString) (ev : Event) : Prop := S ≠ [] ∧ ev.boundService = S

instance (S : GoString) : DecidablePred (BoundTo S) :=
  fun _ => inferInstanceAs (Decidable (_ ∧ _))

/-! ## One observation -/

/-- What one observation adds to the entry of its service. -/
def record (buckets : List ℚ) (sm : ServiceMetrics) (ev : Event) : ServiceMetrics :=
  let sm := { sm with
    callCount := sm.callCount + 1
    errorCount := sm.errorCount + ev.errors
    bytesSent := sm.bytesSent + ev.bytesSent
    bytesRecv := sm.bytesRecv + ev.bytesRecv }
  if 0 < ev.latencyNs then
    { sm with
      latencySum := sm.latencySum + ev.latencyNs.toNat
      latencyCounts := insertLatency buckets sm.latencyCounts ev.latencyNs.toNat }
  else sm

section record

variable (buckets : List ℚ) (sm : ServiceMetrics) (ev : Event)

@[simp] theorem record_namespace : (record buckets sm ev).«namespace» = sm.«namespace» := by
  unfold record; split <;> rfl

@[simp] theorem record_callCount : (record buckets sm ev).callCount = sm.callCount + 1 := by
  unfold record; split <;> rfl

@[simp] theorem record_errorCount :
    (record buckets sm ev).errorCount = sm.errorCount + ev.errors := by
  unfold record; split <;> rfl

@[simp] theorem record_bytesSent : (record buckets sm ev).bytesSent = sm.bytesSent + ev.bytesSent := by
  unfold record; split <;> rfl

@[simp] theorem record_bytesRecv : (record buckets sm ev).bytesRecv = sm.bytesRecv + ev.bytesRecv := by
  unfold record; split <;> rfl

@[simp] theorem record_latencySum :
    (record buckets sm ev).latencySum =
      if 0 < ev.latencyNs then sm.latencySum + ev.latencyNs.toNat else sm.latencySum := by
  unfold record; split <;> rfl

@[simp] theorem record_latencyCounts :
    (record buckets sm ev).latencyCounts =
      if 0 < ev.latencyNs then insertLatency buckets sm.latencyCounts ev.latencyNs.toNat
      else sm.latencyCounts := by
  unfold record; split <;> rfl

theorem length_record :
    (record buckets sm ev).latencyCounts.length = sm.latencyCounts.length := by
  rw [record_latencyCounts]; split <;> simp

/-- **Two observations commute on an existing entry.** -/
theorem record_comm (e₁ e₂ : Event) :
    record buckets (record buckets sm e₁) e₂ = record buckets (record buckets sm e₂) e₁ := by
  ext1 <;> simp only [record_namespace, record_callCount, record_errorCount, record_bytesSent,
    record_bytesRecv, record_latencySum, record_latencyCounts] <;>
    (try split_ifs) <;> first | rfl | exact insertLatency_comm .. | exact add_right_comm _ _ _

end record

/-- **An observation is `getOrCreate`, `record` and a store.** -/
theorem observe_eq (a : Aggregator) (ev : Event) :
    a.observe ev =
      if ev.boundService = [] then a
      else ⟨a.buckets, a.services.insert ev.boundService
        (record a.buckets (a.getOrCreate ev.boundService ev.boundNamespace) ev)⟩ := by
  cases ev <;>
    simp only [Aggregator.observe, Aggregator.observeConnection, Aggregator.observeHTTPRequest,
      Event.boundService, Event.boundNamespace] <;>
    split_ifs <;>
    simp only [*, record, Aggregator.observeLatency, Event.latencyNs, Event.errors, Event.bytesSent,
      Event.bytesRecv, add_zero, ↓reduceIte]

/-- The entry of a service after one more observation bound to it. -/
def observeEntry (buckets : List ℚ) (entry : Option ServiceMetrics) (ev : Event) :
    Option ServiceMetrics :=
  some (record buckets (entry.getD (newServiceMetrics buckets ev.boundNamespace)) ev)

theorem lookup_observe (a : Aggregator) (ev : Event) (S : GoString) :
    (a.observe ev).services.lookup S =
      if BoundTo S ev then observeEntry a.buckets (a.services.lookup S) ev
      else a.services.lookup S := by
  rw [observe_eq]
  by_cases h0 : ev.boundService = []
  · have : ¬ BoundTo S ev := fun h => h.1 (h.2 ▸ h0)
    simp only [h0, this, if_true, if_false]
  · by_cases hS : ev.boundService = S
    · subst hS
      simp only [h0, BoundTo, if_false, ne_eq, not_false_eq_true, true_and, if_true,
        AList.lookup_insert]
      rfl
    · simp only [h0, BoundTo, hS, if_false, and_false, AList.lookup_insert_ne (Ne.symm hS)]

/-! ## Sequences of observations -/

namespace Aggregator

/-- Observations made one after another, each a critical section on `a.mu`. -/
def observeAll (a : Aggregator) (evs : List Event) : Aggregator := evs.foldl observe a

@[simp] theorem observeAll_nil (a : Aggregator) : a.observeAll [] = a := rfl

theorem observeAll_append (a : Aggregator) (evs evs' : List Event) :
    a.observeAll (evs ++ evs') = (a.observeAll evs).observeAll evs' := foldl_append ..

@[simp] theorem observeAll_buckets (a : Aggregator) (evs : List Event) :
    (a.observeAll evs).buckets = a.buckets := by
  induction evs generalizing a with
  | nil => rfl
  | cons ev evs ih => exact (ih _).trans (observe_buckets a ev)

end Aggregator

/-- **A service's entry after a sequence of observations** is the fold of `observeEntry` over
the observations bound to it. -/
theorem lookup_observeAll (a : Aggregator) (evs : List Event) (S : GoString) :
    (a.observeAll evs).services.lookup S =
      (evs.filter (BoundTo S ·)).foldl (observeEntry a.buckets) (a.services.lookup S) := by
  induction evs generalizing a with
  | nil => rfl
  | cons ev evs ih =>
    rw [Aggregator.observeAll, foldl_cons, ← Aggregator.observeAll, ih, Aggregator.observe_buckets,
      lookup_observe]
    by_cases h : BoundTo S ev <;> simp [h]

section fold

variable {buckets : List ℚ}

theorem foldl_observeEntry_some (l : List Event) (sm : ServiceMetrics) :
    l.foldl (observeEntry buckets) (some sm) = some (l.foldl (record buckets) sm) := by
  induction l generalizing sm with
  | nil => rfl
  | cons ev l ih => exact ih _

/-- A service without an entry gets the one the first observation bound to it creates. -/
theorem foldl_observeEntry_none (ev : Event) (l : List Event) :
    (ev :: l).foldl (observeEntry buckets) none =
      some ((ev :: l).foldl (record buckets) (newServiceMetrics buckets ev.boundNamespace)) :=
  foldl_observeEntry_some l _

/-- Permuted observations give the same entry when they agree on the namespace, which matters
only when the entry is created. -/
theorem foldl_observeEntry_perm {l l' : List Event} (hp : l ~ l')
    (hns : ∀ e₁ ∈ l, ∀ e₂ ∈ l, e₁.boundNamespace = e₂.boundNamespace) (o : Option ServiceMetrics) :
    l.foldl (observeEntry buckets) o = l'.foldl (observeEntry buckets) o := by
  have hrec : ∀ sm, l.foldl (record buckets) sm = l'.foldl (record buckets) sm :=
    hp.foldl_eq' fun _ _ _ _ _ => record_comm ..
  cases o with
  | some sm => rw [foldl_observeEntry_some, foldl_observeEntry_some, hrec]
  | none =>
    cases l with
    | nil => rw [hp.nil_eq]
    | cons e t =>
      cases l' with
      | nil => exact absurd hp.eq_nil (cons_ne_nil e t)
      | cons e' t' =>
        rw [foldl_observeEntry_none, foldl_observeEntry_none, hrec,
          hns e (mem_cons_self e t) e' (hp.symm.subset (mem_cons_self e' t'))]

end fold

/-- The entries after permuted observations agree, provided that all observations bound to one
service pass the same namespace to `getOrCreate`. -/
theorem lookup_observeAll_perm (a : Aggregator) {evs evs' : List Event} (hp : evs ~ evs')
    (hns : ∀ e₁ ∈ evs, ∀ e₂ ∈ evs, BoundTo e₁.boundService e₁ →
      e₁.boundService = e₂.boundService → e₁.boundNamespace = e₂.boundNamespace)
    (S : GoString) :
    (a.observeAll evs).services.lookup S = (a.observeAll evs').services.lookup S := by
  rw [lookup_observeAll, lookup_observeAll]
  refine foldl_observeEntry_perm (hp.filter _) (fun e₁ h₁ e₂ h₂ => ?_) _
  simp only [mem_filter, decide_eq_true_eq] at h₁ h₂
  obtain ⟨h₁, hS, rfl⟩ := h₁
  exact hns e₁ h₁ e₂ h₂.1 ⟨hS, rfl⟩ h₂.2.2.symm

/-- Two maps with the same entries hold them in permuted orders. -/
theorem entries_perm_of_lookup {m m' : ServiceMap} (h : ∀ S, m.lookup S = m'.lookup S) :
    m.entries ~ m'.entries :=
  lookup_ext m.nodupKeys m'.nodupKeys fun S _ => by
    rw [← AList.lookup, ← AList.lookup, h]

/-! ## Counters -/

/-- The additive counters of an entry: the four counts, each latency bucket, and the histogram's
total, which `flush` reads to decide whether to emit latency points. -/
inductive Counter
  | callCount
  | errorCount
  | bytesSent
  | bytesRecv
  | latencyBucket (i : Nat)
  | latencyTotal
  deriving DecidableEq

namespace Counter

/-- The counter's value in an entry. -/
def get : Counter → ServiceMetrics → UInt64
  | callCount, sm => sm.callCount
  | errorCount, sm => sm.errorCount
  | bytesSent, sm => sm.bytesSent
  | bytesRecv, sm => sm.bytesRecv
  | latencyBucket i, sm => sm.latencyCounts.getD i 0
  | latencyTotal, sm => totalHistogramCount sm.latencyCounts

/-- What an observation adds to the counter of the service it is bound to. -/
def delta (buckets : List ℚ) : Counter → Event → Nat
  | callCount, _ => 1
  | errorCount, ev => ev.errors.toNat
  | bytesSent, ev => ev.bytesSent.toNat
  | bytesRecv, ev => ev.bytesRecv.toNat
  | latencyBucket i, ev =>
    if 0 < ev.latencyNs ∧ bucketIndex ev.latencyNs.toNat buckets = i then 1 else 0
  | latencyTotal, ev => if 0 < ev.latencyNs then 1 else 0

/-- The value a counter of `S` would reach over the observations `evs` if it did not wrap. -/
def total (buckets : List ℚ) (c : Counter) (S : GoString) (evs : List Event) : Nat :=
  ((evs.filter (BoundTo S ·)).map (c.delta buckets)).sum

/-- The counter of `S` in a map: 0 when `S` has no entry. -/
def counterIn (c : Counter) (S : GoString) (m : ServiceMap) : Nat :=
  ((m.lookup S).map fun sm => (c.get sm).toNat).getD 0

theorem total_append (buckets : List ℚ) (c : Counter) (S : GoString) (evs evs' : List Event) :
    c.total buckets S (evs ++ evs') = c.total buckets S evs + c.total buckets S evs' := by
  simp [total]

@[simp] theorem total_nil (buckets : List ℚ) (c : Counter) (S : GoString) :
    c.total buckets S [] = 0 := rfl

end Counter

/-- An increment inside the list adds one to the count at its index and nothing elsewhere. -/
theorem toNat_getD_modify_succ {counts : List UInt64} {j : Nat} (hj : j < counts.length) (i : Nat) :
    ((counts.modify (· + 1) j).getD i 0).toNat =
      ((counts.getD i 0).toNat + if j = i then 1 else 0) % 2 ^ 64 := by
  simp only [getD_eq_getElem?_getD, getElem?_modify]
  rcases Nat.lt_or_ge i counts.length with hi | hi
  · rw [getElem?_eq_getElem hi]
    split_ifs
    · rfl
    · exact (toNat_mod_uint64 _).symm
  · rw [getElem?_eq_none hi]
    simp [show j ≠ i by omega]

/-- **What `record` adds to each counter**, in `uint64` arithmetic, for an entry with a count for
every bucket. -/
theorem get_record {buckets : List ℚ} {sm : ServiceMetrics}
    (hl : buckets.length < sm.latencyCounts.length) (c : Counter) (ev : Event) :
    (c.get (record buckets sm ev)).toNat = ((c.get sm).toNat + c.delta buckets ev) % 2 ^ 64 := by
  have hj := (bucketIndex_le_length ev.latencyNs.toNat buckets).trans_lt hl
  cases c with
  | callCount | errorCount | bytesSent | bytesRecv =>
    simp only [Counter.get, record_callCount, record_errorCount, record_bytesSent,
      record_bytesRecv]
    exact toNat_add_uint64 _ _
  | latencyBucket i =>
    simp only [Counter.get, Counter.delta, record_latencyCounts, insertLatency_eq]
    by_cases hpos : 0 < ev.latencyNs
    · simp only [hpos, if_true, true_and]
      exact toNat_getD_modify_succ hj i
    · simp only [hpos, if_false, false_and, Nat.add_zero]
      exact (toNat_mod_uint64 _).symm
  | latencyTotal =>
    simp only [Counter.get, Counter.delta, record_latencyCounts, insertLatency_eq,
      totalHistogramCount_eq]
    by_cases hpos : 0 < ev.latencyNs
    · simp only [hpos, if_true, sum_modify_succ hj]
      exact toNat_add_uint64 _ _
    · simp only [hpos, if_false, Nat.add_zero]
      exact (toNat_mod_uint64 _).symm

theorem length_foldl_record {buckets : List ℚ} (l : List Event) (sm : ServiceMetrics) :
    (l.foldl (record buckets) sm).latencyCounts.length = sm.latencyCounts.length := by
  induction l generalizing sm with
  | nil => rfl
  | cons ev l ih => rw [foldl_cons, ih, length_record]

theorem get_foldl_record {buckets : List ℚ} (l : List Event) {sm : ServiceMetrics}
    (hl : buckets.length < sm.latencyCounts.length) (c : Counter) :
    (c.get (l.foldl (record buckets) sm)).toNat =
      ((c.get sm).toNat + (l.map (c.delta buckets)).sum) % 2 ^ 64 := by
  induction l generalizing sm with
  | nil => exact (toNat_mod_uint64 _).symm
  | cons ev l ih =>
    rw [foldl_cons, ih (by rwa [length_record]), get_record hl, map_cons, sum_cons,
      Nat.mod_add_mod, Nat.add_assoc]

@[simp] theorem get_newServiceMetrics (buckets : List ℚ) («namespace» : GoString) (c : Counter) :
    (c.get (newServiceMetrics buckets «namespace»)).toNat = 0 := by
  cases c with
  | latencyBucket i =>
    simp only [Counter.get, newServiceMetrics, getD_eq_getElem?_getD, getElem?_replicate]
    split <;> rfl
  | latencyTotal =>
    simp only [Counter.get, newServiceMetrics, totalHistogramCount_eq]
    rw [sum_eq_zero fun _ h => eq_of_mem_replicate h]
    rfl
  | _ => rfl

@[simp] theorem length_newServiceMetrics (buckets : List ℚ) («namespace» : GoString) :
    (newServiceMetrics buckets «namespace»).latencyCounts.length = buckets.length + 1 := by
  simp [newServiceMetrics]

/-- Every entry of a map built from an empty one has a count for each bucket and for `+Inf`. -/
theorem length_of_lookup_observeAll {buckets : List ℚ} {evs : List Event} {S : GoString}
    {sm : ServiceMetrics} (h : (Aggregator.observeAll ⟨buckets, ∅⟩ evs).services.lookup S = some sm) :
    sm.latencyCounts.length = buckets.length + 1 := by
  rw [lookup_observeAll, AList.lookup_empty] at h
  cases hl : evs.filter (BoundTo S ·) with
  | nil => simp [hl] at h
  | cons ev l =>
    rw [hl, foldl_observeEntry_none, Option.some_inj] at h
    rw [← h, length_foldl_record, length_newServiceMetrics]

/-- **Each counter of a map built from an empty one is the total of its observations**, modulo
`2^64`. -/
theorem counterIn_observeAll (buckets : List ℚ) (c : Counter) (S : GoString) (evs : List Event) :
    c.counterIn S (Aggregator.observeAll ⟨buckets, ∅⟩ evs).services =
      c.total buckets S evs % 2 ^ 64 := by
  rw [Counter.counterIn, lookup_observeAll, AList.lookup_empty, Counter.total]
  cases evs.filter (BoundTo S ·) with
  | nil => rfl
  | cons ev l =>
    rw [foldl_observeEntry_none, Option.map_some', Option.getD_some,
      get_foldl_record _ (by simp), get_newServiceMetrics, Nat.zero_add]

/-! ## What a flush emits -/

/-- Points written under one metric type, as emitted pairs. -/
def tagWith (metricType : GoString) (points : List TimeSeriesPoint) :
    List (GoString × TimeSeriesPoint) :=
  points.map fun p => (metricType, p)

/-- The points of a `FlushPoints`, each with the metric type `flush` writes it under. -/
def FlushPoints.tagged (fp : FlushPoints) : List (GoString × TimeSeriesPoint) :=
  tagWith "latency" fp.latencyPoints ++ tagWith "call_rate" fp.callPoints ++
    tagWith "error_rate" fp.errorPoints ++ tagWith "traffic" fp.trafficPoints

/-- The points `flush` emits for one entry, with their metric types. -/
def servicePoints (buckets : List ℚ) (now : Time) (svc : GoString) (sm : ServiceMetrics) :
    List (GoString × TimeSeriesPoint) :=
  (addServicePoints buckets now {} svc sm).tagged

theorem emitted_append (w w' : List (List TimeSeriesPoint × GoString)) :
    emitted (w ++ w') = emitted w ++ emitted w' := flatMap_append ..

/-- A write guarded by `len(points) > 0` emits the points, the guard only skips an empty call. -/
theorem emitted_writeMetrics (points : List TimeSeriesPoint) (metricType : GoString) :
    emitted (writeMetrics points metricType) = tagWith metricType points := by
  unfold writeMetrics
  split
  · simp [emitted, tagWith]
  · simp_all [emitted, tagWith]

theorem emitted_metricWrites (fp : FlushPoints) : emitted (metricWrites fp) = fp.tagged := by
  simp only [metricWrites, emitted_append, emitted_writeMetrics, FlushPoints.tagged]

/-- One turn of the loop of `flush` adds the entry's points, interleaved with the others. -/
theorem tagged_addServicePoints (buckets : List ℚ) (now : Time) (acc : FlushPoints)
    (svc : GoString) (sm : ServiceMetrics) :
    (addServicePoints buckets now acc svc sm).tagged ~ acc.tagged ++ servicePoints buckets now svc sm := by
  rw [← Multiset.coe_eq_coe]
  simp only [servicePoints, FlushPoints.tagged, addServicePoints, tagWith]
  split_ifs <;> simp only [map_append, nil_append, map_nil, ← Multiset.coe_add] <;> abel

theorem tagged_foldl_addServicePoints (buckets : List ℚ) (now : Time)
    (l : List (Σ _ : GoString, ServiceMetrics)) (acc : FlushPoints) :
    (l.foldl (fun acc e => addServicePoints buckets now acc e.1 e.2) acc).tagged ~
      acc.tagged ++ l.flatMap fun e => servicePoints buckets now e.1 e.2 := by
  induction l generalizing acc with
  | nil => simp
  | cons e l ih =>
    rw [foldl_cons, flatMap_cons, ← append_assoc]
    exact (ih _).trans ((tagged_addServicePoints ..).append_right _)

/-- **`flush` emits the points of every entry of the map**, in some order. -/
theorem emitted_flush (a : Aggregator) (now : Time) :
    emitted (a.flush now).2 ~
      a.services.entries.flatMap fun e => servicePoints a.buckets now e.1 e.2 := by
  unfold Aggregator.flush
  dsimp only
  split
  · rename_i h
    rw [length_eq_zero.mp h]
    rfl
  · rw [emitted_metricWrites, flushPoints]
    exact tagged_foldl_addServicePoints ..

/-- A request to the service `svc` of the namespace `ns`, at the epoch. -/
def requestTo (svc ns : GoString) : Event :=
  .httpRequest { timestamp := Time.unix 0, destination := { service := svc, «namespace» := ns } }

/-- **Permuted observations flush to the same points** when every observation bound to one
service passes the same namespace to `getOrCreate`; observations bound to no service are not
counted and need not agree. -/
theorem observeAll_perm_flush (a : Aggregator) {evs evs' : List Event} (hp : evs ~ evs')
    (hns : ∀ e₁ ∈ evs, ∀ e₂ ∈ evs, BoundTo e₁.boundService e₁ →
      e₁.boundService = e₂.boundService → e₁.boundNamespace = e₂.boundNamespace)
    (now : Time) :
    emitted ((a.observeAll evs).flush now).2 ~ emitted ((a.observeAll evs').flush now).2 := by
  refine (emitted_flush _ _).trans (Perm.trans ?_ (emitted_flush _ _).symm)
  simp only [Aggregator.observeAll_buckets]
  exact (entries_perm_of_lookup (lookup_observeAll_perm a hp hns)).flatMap_right _

/-- Requests to two services, in either order, flush to the same points. -/
theorem observeAll_perm_flush_two_services :
    [requestTo "api" "a", requestTo "web" "b"] ~ [requestTo "web" "b", requestTo "api" "a"] ∧
      (∀ e₁ ∈ [requestTo "api" "a", requestTo "web" "b"],
        ∀ e₂ ∈ [requestTo "api" "a", requestTo "web" "b"], BoundTo e₁.boundService e₁ →
          e₁.boundService = e₂.boundService → e₁.boundNamespace = e₂.boundNamespace) ∧
      emitted ((newAggregator.observeAll
            [requestTo "api" "a", requestTo "web" "b"]).flush (Time.unix 0)).2 ~
        emitted ((newAggregator.observeAll
            [requestTo "web" "b", requestTo "api" "a"]).flush (Time.unix 0)).2 :=
  ⟨.swap _ _ _, by decide, observeAll_perm_flush _ (.swap _ _ _) (by decide) _⟩

/-- Two requests to one service from two namespaces, in either order: the entry keeps the
namespace of the first, and the flushed labels differ. -/
theorem first_namespace_kept :
    [requestTo "api" "a", requestTo "api" "b"] ~ [requestTo "api" "b", requestTo "api" "a"] ∧
      ¬ emitted ((newAggregator.observeAll
            [requestTo "api" "a", requestTo "api" "b"]).flush (Time.unix 0)).2 ~
        emitted ((newAggregator.observeAll
            [requestTo "api" "b", requestTo "api" "a"]).flush (Time.unix 0)).2 :=
  ⟨.swap _ _ _, by decide⟩

/-! ## The namespace label -/

@[simp] theorem namespace_foldl_record (buckets : List ℚ) (l : List Event) (sm : ServiceMetrics) :
    (l.foldl (record buckets) sm).«namespace» = sm.«namespace» := by
  induction l generalizing sm with
  | nil => rfl
  | cons ev l ih => rw [foldl_cons, ih, record_namespace]

/-- **An entry keeps the namespace that the first observation bound to its service passes**: the
source's for a connection and the destination's for a request, whichever endpoint named the
service. -/
theorem namespace_of_lookup_observeAll {a : Aggregator} {S : GoString}
    (ha : a.services.lookup S = none) (evs : List Event) {sm : ServiceMetrics}
    (h : (a.observeAll evs).services.lookup S = some sm) :
    (evs.filter (BoundTo S ·)).head?.map Event.boundNamespace = some sm.«namespace» := by
  rw [lookup_observeAll, ha] at h
  cases hl : evs.filter (BoundTo S ·) with
  | nil => rw [hl] at h; cases h
  | cons ev l =>
    rw [hl, foldl_observeEntry_none, Option.some.injEq] at h
    rw [← h, head?_cons, Option.map_some', namespace_foldl_record]
    rfl

/-- Every point of an entry is labelled with the entry's service and namespace. -/
theorem labels_of_mem_servicePoints {buckets : List ℚ} {now : Time} {svc : GoString}
    {sm : ServiceMetrics} :
    ∀ p ∈ servicePoints buckets now svc sm, p.2.labels.lookup ("service" : GoString) = some svc ∧
      p.2.labels.lookup ("namespace" : GoString) = some sm.«namespace» := by
  simp only [servicePoints, FlushPoints.tagged, addServicePoints, tagWith]
  split_ifs <;>
    simp only [nil_append, forall_mem_append, forall_mem_map, forall_mem_cons, not_mem_nil,
      false_implies, implies_true, and_true] <;>
    repeat' constructor

/-- **Every point `flush` emits is labelled with a service and with the namespace that the first
observation bound to the service passed**, for observations made from an empty map. -/
theorem namespace_of_mem_emitted_flush {a : Aggregator} (ha : a.services = ∅) (evs : List Event)
    (now : Time) {p : GoString × TimeSeriesPoint} (hp : p ∈ emitted ((a.observeAll evs).flush now).2) :
    ∃ S, p.2.labels.lookup ("service" : GoString) = some S ∧
      (evs.filter (BoundTo S ·)).head?.map Event.boundNamespace =
        p.2.labels.lookup ("namespace" : GoString) := by
  obtain ⟨e, he, hpe⟩ := mem_flatMap.mp ((emitted_flush _ _).subset hp)
  obtain ⟨h₁, h₂⟩ := labels_of_mem_servicePoints p hpe
  refine ⟨e.1, h₁, ?_⟩
  rw [h₂, namespace_of_lookup_observeAll (by rw [ha]; rfl) evs (AList.mem_lookup_iff.mpr he)]

/-- A connection from a client with no service name, in the namespace `client-ns`, to the service
`api` of the namespace `prod`. -/
def unnamedClientConnection : Event :=
  .connection
    { timestamp := Time.unix 0
      source := { «namespace» := "client-ns" }
      destination := { service := "api", «namespace» := "prod" } }

/-- **A service named by the destination of a connection is labelled with the source's
namespace.**  Every point of `api`, a service of the namespace `prod`, is labelled `client-ns`. -/
theorem fallback_namespace_from_source :
    unnamedClientConnection.boundService = "api" ∧
      emitted ((newAggregator.observeAll [unnamedClientConnection]).flush (Time.unix 0)).2 ≠ [] ∧
      ∀ p ∈ emitted ((newAggregator.observeAll [unnamedClientConnection]).flush (Time.unix 0)).2,
        p.2.labels.lookup ("service" : GoString) = some ("api" : GoString) ∧
          p.2.labels.lookup ("namespace" : GoString) = some ("client-ns" : GoString) := by
  decide

end Metrics
end Nefi
