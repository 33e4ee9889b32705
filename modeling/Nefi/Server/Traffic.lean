import Nefi.Server.Metrics.Aggregator

/-!
# Traffic per service: `handleGetTraffic`

`GET /api/v1/metrics/traffic` reads the connection events that match the request's query and sums their
bytes per service.  A connection counts for its source's service, or for its destination's when the
source has none, and is skipped when neither has one.  The sums are kept in a Go map of
`*trafficSummary` and written in map order; a failed read answers 500 with
`"failed to get traffic data"`.

The aggregator's `ObserveConnection` binds a connection to a service by the same rule and adds its
bytes to that service's entry, which `flush` turns into the `traffic` points.

## What is modelled

The read (`FindConnections`) is a parameter, `none` for an error, as for `buildTopology`.  The map
is an `AList` keyed by the service; Go iterates it in an unspecified order, so the results speak of
the summaries as a collection, never of their order.  Byte counts are `uint64` and wrap.

## Results

* `lookup_trafficMap`: the summary of a service is the sum, wrapped at `2^64`, of the bytes of the
  connections that count for it, and there is none when no connection does.
* `handleGetTraffic_summaries`: a successful read is answered with one summary per service that
  some connection counts for, and nothing else, each with those sums.
* `traffic_agrees_with_aggregator`: from an empty map, over any stream of connection and request
  events, the aggregator's entry of every service carries the bytes that the traffic endpoint
  reports for the stream's connections.
-/

namespace Nefi
namespace Api

open Metrics

/-- `trafficSummary`. -/
structure TrafficSummary where
  service : GoString
  bytesSent : UInt64 := 0
  bytesRecv : UInt64 := 0
  deriving DecidableEq, Repr

/-- `svcTraffic`, a `map[string]*trafficSummary`. -/
abbrev TrafficMap := AList fun _ : GoString => TrafficSummary

/-- The service a connection's bytes count for: its source's, or its destination's when the source
has none. -/
def trafficService (c : ConnectionEvent) : GoString :=
  if c.source.service = [] then c.destination.service else c.source.service

/-- `t.BytesSent += c.BytesSent; t.BytesRecv += c.BytesRecv`. -/
def addBytes (t : TrafficSummary) (c : ConnectionEvent) : TrafficSummary :=
  { t with bytesSent := t.bytesSent + c.bytesSent, bytesRecv := t.bytesRecv + c.bytesRecv }

/-- One pass of the loop over the connections: a connection without a service is skipped, and a
service seen for the first time gets a zero summary. -/
def addTraffic (m : TrafficMap) (c : ConnectionEvent) : TrafficMap :=
  let svc := trafficService c
  if svc = [] then m
  else m.insert svc (addBytes ((m.lookup svc).getD { service := svc }) c)

/-- The map after the loop. -/
def trafficMap (conns : List ConnectionEvent) : TrafficMap := conns.foldl addTraffic ∅

/-- `handleGetTraffic` on the result of `FindConnections`: the status and the body. -/
def handleGetTraffic (conns : Option (List ConnectionEvent)) :
    Nat × Except GoString (List TrafficSummary) :=
  match conns with
  | none => (500, .error "failed to get traffic data")
  | some conns => (200, .ok ((trafficMap conns).entries.map Sigma.snd))

/-! ## The loop -/

/-- The connections that count for `svc`. -/
def countedFor (conns : List ConnectionEvent) (svc : GoString) : List ConnectionEvent :=
  conns.filter fun c => trafficService c = svc

theorem lookup_addTraffic (m : TrafficMap) (c : ConnectionEvent) {svc : GoString}
    (hsvc : svc ≠ []) :
    (addTraffic m c).lookup svc =
      if trafficService c = svc then some (addBytes ((m.lookup svc).getD { service := svc }) c)
      else m.lookup svc := by
  by_cases h : trafficService c = svc
  · subst h
    simp [addTraffic, hsvc]
  · rw [if_neg h, addTraffic]
    split_ifs
    · rfl
    · exact AList.lookup_insert_ne (Ne.symm h)

theorem lookup_nil_addTraffic (m : TrafficMap) (c : ConnectionEvent) :
    (addTraffic m c).lookup [] = m.lookup [] := by
  rw [addTraffic]
  split_ifs with h
  · rfl
  · exact AList.lookup_insert_ne (Ne.symm h)

/-- Over the loop, the summary of `svc` sees exactly the connections that count for it. -/
theorem lookup_foldl_addTraffic (conns : List ConnectionEvent) (m : TrafficMap) {svc : GoString}
    (hsvc : svc ≠ []) :
    (conns.foldl addTraffic m).lookup svc =
      (countedFor conns svc).foldl (fun o c => some (addBytes (o.getD { service := svc }) c))
        (m.lookup svc) := by
  induction conns generalizing m with
  | nil => rfl
  | cons c cs ih =>
    rw [List.foldl_cons, ih, lookup_addTraffic _ _ hsvc]
    simp only [countedFor, List.filter_cons, decide_eq_true_eq]
    split_ifs <;> rfl

theorem foldl_addBytes (cs : List ConnectionEvent) (t : TrafficSummary) :
    (cs.foldl addBytes t).service = t.service ∧
      (cs.foldl addBytes t).bytesSent.toNat =
        (t.bytesSent.toNat + (cs.map fun c => c.bytesSent.toNat).sum) % 2 ^ 64 ∧
      (cs.foldl addBytes t).bytesRecv.toNat =
        (t.bytesRecv.toNat + (cs.map fun c => c.bytesRecv.toNat).sum) % 2 ^ 64 := by
  induction cs generalizing t with
  | nil => simp only [List.foldl_nil, List.map_nil, List.sum_nil, Nat.add_zero, toNat_mod_uint64,
      and_self]
  | cons c cs ih =>
    obtain ⟨hs, hsent, hrecv⟩ := ih (addBytes t c)
    rw [List.foldl_cons, hs, hsent, hrecv]
    simp only [addBytes, toNat_add_uint64, Nat.mod_add_mod, List.map_cons, List.sum_cons,
      Nat.add_assoc, and_self]

theorem foldl_some_addBytes (cs : List ConnectionEvent) (d t : TrafficSummary) :
    cs.foldl (fun o c => some (addBytes (o.getD d) c)) (some t) = some (cs.foldl addBytes t) := by
  induction cs generalizing t with
  | nil => rfl
  | cons c cs ih => exact ih (addBytes t c)

theorem foldl_none_addBytes (cs : List ConnectionEvent) (d : TrafficSummary) :
    cs.foldl (fun o c => some (addBytes (o.getD d) c)) none =
      if cs = [] then none else some (cs.foldl addBytes d) := by
  cases cs with
  | nil => rfl
  | cons c cs => exact foldl_some_addBytes cs d (addBytes d c)

/-- **The loop sums the bytes of each service.**  The summary of a service is there exactly when
some connection counts for it, and then carries the service's name and the sums of the bytes of
those connections, wrapped at `2^64`. -/
theorem lookup_trafficMap (conns : List ConnectionEvent) {svc : GoString} (hsvc : svc ≠ []) :
    (trafficMap conns).lookup svc =
      if countedFor conns svc = [] then none
      else some ((countedFor conns svc).foldl addBytes { service := svc }) := by
  rw [trafficMap, lookup_foldl_addTraffic _ _ hsvc]
  exact foldl_none_addBytes _ _

theorem lookup_nil_foldl_addTraffic (conns : List ConnectionEvent) (m : TrafficMap) :
    (conns.foldl addTraffic m).lookup [] = m.lookup [] := by
  induction conns generalizing m with
  | nil => rfl
  | cons c cs ih => rw [List.foldl_cons, ih, lookup_nil_addTraffic]

/-- What a summary in the map is: that of a named service, for which some connection counts, built
from the zero summary by the loop over those connections. -/
theorem of_lookup_trafficMap {conns : List ConnectionEvent} {svc : GoString} {t : TrafficSummary}
    (h : (trafficMap conns).lookup svc = some t) :
    svc ≠ [] ∧ countedFor conns svc ≠ [] ∧ t = (countedFor conns svc).foldl addBytes { service := svc } := by
  have hsvc : svc ≠ [] := by
    rintro rfl
    rw [trafficMap, lookup_nil_foldl_addTraffic] at h
    cases h
  rw [lookup_trafficMap conns hsvc] at h
  split_ifs at h with hc
  exact ⟨hsvc, hc, (Option.some.inj h).symm⟩

/-- **The traffic endpoint's answer.**  A successful read is answered with status 200 and one
summary per service that some connection counts for, and no other; each summary's byte counts are
the sums of the bytes of the connections that count for its service, wrapped at `2^64`. -/
theorem handleGetTraffic_summaries (conns : List ConnectionEvent) :
    ∃ ts, handleGetTraffic (some conns) = (200, .ok ts) ∧ (ts.map (·.service)).Nodup ∧
      (∀ svc, (∃ t ∈ ts, t.service = svc) ↔ svc ≠ [] ∧ ∃ c ∈ conns, trafficService c = svc) ∧
      ∀ t ∈ ts,
        t.bytesSent.toNat = ((countedFor conns t.service).map fun c => c.bytesSent.toNat).sum % 2 ^ 64 ∧
        t.bytesRecv.toNat = ((countedFor conns t.service).map fun c => c.bytesRecv.toNat).sum % 2 ^ 64 := by
  have hmem : ∀ t, t ∈ (trafficMap conns).entries.map Sigma.snd ↔
      ∃ svc, (trafficMap conns).lookup svc = some t := by
    intro t
    simp only [List.mem_map]
    constructor
    · rintro ⟨⟨k, v⟩, he, rfl⟩
      exact ⟨k, AList.mem_lookup_iff.mpr he⟩
    · rintro ⟨k, hk⟩
      exact ⟨⟨k, t⟩, AList.mem_lookup_iff.mp hk, rfl⟩
  have hservice : ∀ {svc t}, (trafficMap conns).lookup svc = some t → t.service = svc := by
    intro svc t h
    rw [(of_lookup_trafficMap h).2.2]
    exact (foldl_addBytes _ _).1
  refine ⟨_, rfl, ?_, fun svc => ⟨?_, ?_⟩, fun t ht => ?_⟩
  · -- the services are the map's keys
    have hkeys : (trafficMap conns).entries.map (fun e => e.2.service) = (trafficMap conns).keys :=
      List.map_congr_left fun e he => hservice (AList.mem_lookup_iff.mpr he)
    rw [List.map_map]
    exact hkeys ▸ (trafficMap conns).nodupKeys
  · rintro ⟨t, ht, rfl⟩
    obtain ⟨k, hk⟩ := (hmem t).mp ht
    obtain ⟨hk0, hc, -⟩ := of_lookup_trafficMap hk
    obtain ⟨c, hc'⟩ := List.exists_mem_of_ne_nil _ hc
    rw [hservice hk]
    exact ⟨hk0, c, List.mem_of_mem_filter hc', by simpa using (List.mem_filter.mp hc').2⟩
  · rintro ⟨hsvc, c, hc, hcs⟩
    have hne : countedFor conns svc ≠ [] :=
      List.ne_nil_of_mem (List.mem_filter.mpr ⟨hc, by simpa using hcs⟩)
    exact ⟨_, (hmem _).mpr ⟨svc, (lookup_trafficMap conns hsvc).trans (if_neg hne)⟩,
      (foldl_addBytes _ _).1⟩
  · obtain ⟨k, hk⟩ := (hmem t).mp ht
    obtain ⟨-, hsent, hrecv⟩ := foldl_addBytes (countedFor conns k) { service := k }
    rw [hservice hk, (of_lookup_trafficMap hk).2.2, hsent, hrecv]
    simp

/-! ## Agreement with the aggregator -/

/-- The bytes of an aggregator entry, `(0, 0)` without one. -/
def metricBytes (o : Option ServiceMetrics) : UInt64 × UInt64 :=
  (o.map fun sm => (sm.bytesSent, sm.bytesRecv)).getD (0, 0)

/-- The bytes of a traffic summary, `(0, 0)` without one. -/
def trafficBytes (o : Option TrafficSummary) : UInt64 × UInt64 :=
  (o.map fun t => (t.bytesSent, t.bytesRecv)).getD (0, 0)

theorem bytes_getOrCreate (a : Aggregator) (svc ns : GoString) :
    ((a.getOrCreate svc ns).bytesSent, (a.getOrCreate svc ns).bytesRecv) =
      metricBytes (a.services.lookup svc) := by
  unfold Aggregator.getOrCreate metricBytes
  cases a.services.lookup svc <;> rfl

theorem bytes_getD (o : Option TrafficSummary) (svc : GoString) :
    ((o.getD { service := svc }).bytesSent, (o.getD { service := svc }).bytesRecv) =
      trafficBytes o := by
  cases o <;> rfl

/-- A connection adds its bytes to the entry of the service it counts for, and to no other. -/
theorem metricBytes_observeConnection (a : Aggregator) (c : ConnectionEvent) (s : GoString) :
    metricBytes ((a.observeConnection c).services.lookup s) =
      if s ≠ [] ∧ trafficService c = s then
        metricBytes (a.services.lookup s) + (c.bytesSent, c.bytesRecv)
      else metricBytes (a.services.lookup s) := by
  have hsvc : (if c.source.service = [] then c.destination.service else c.source.service) =
      trafficService c := rfl
  have hlatency : ∀ sm : ServiceMetrics, metricBytes (some (if 0 < c.durationNs then
      a.observeLatency sm c.durationNs.toNat else sm)) = (sm.bytesSent, sm.bytesRecv) := by
    intro sm
    split_ifs <;> rfl
  simp only [Aggregator.observeConnection, hsvc]
  by_cases h0 : trafficService c = []
  · rw [if_neg (fun hs => hs.1 (h0 ▸ hs.2).symm : ¬(s ≠ [] ∧ trafficService c = s)), if_pos h0]
  rw [if_neg h0]
  by_cases hs : trafficService c = s
  · subst hs
    rw [if_pos (⟨h0, rfl⟩ : trafficService c ≠ [] ∧ trafficService c = trafficService c)]
    dsimp only
    rw [AList.lookup_insert, hlatency, ← bytes_getOrCreate a _ c.source.«namespace»]
    rfl
  · rw [if_neg (fun h => hs h.2 : ¬(s ≠ [] ∧ trafficService c = s))]
    dsimp only
    rw [AList.lookup_insert_ne (Ne.symm hs)]

/-- A request leaves the bytes of every entry as they are, creating a zero one at most. -/
theorem metricBytes_observeHTTPRequest (a : Aggregator) (r : HTTPRequestEvent) (s : GoString) :
    metricBytes ((a.observeHTTPRequest r).services.lookup s) = metricBytes (a.services.lookup s) := by
  have hlatency : ∀ sm : ServiceMetrics, metricBytes (some (if 0 < r.latencyNs then
      a.observeLatency sm r.latencyNs.toNat else sm)) = (sm.bytesSent, sm.bytesRecv) := by
    intro sm
    split_ifs <;> rfl
  simp only [Aggregator.observeHTTPRequest]
  generalize (if r.destination.service = [] then r.source.service
    else r.destination.service) = svc
  by_cases h0 : svc = []
  · rw [if_pos h0]
  rw [if_neg h0]
  dsimp only
  by_cases hs : svc = s
  · subst hs
    rw [AList.lookup_insert, hlatency, ← bytes_getOrCreate a _ r.destination.«namespace»]
  · rw [AList.lookup_insert_ne (Ne.symm hs)]

theorem trafficBytes_addTraffic (m : TrafficMap) (c : ConnectionEvent) (s : GoString) :
    trafficBytes ((addTraffic m c).lookup s) =
      if s ≠ [] ∧ trafficService c = s then trafficBytes (m.lookup s) + (c.bytesSent, c.bytesRecv)
      else trafficBytes (m.lookup s) := by
  by_cases hs : s = []
  · subst hs
    rw [lookup_nil_addTraffic, if_neg fun h => h.1 rfl]
  · rw [lookup_addTraffic _ _ hs]
    by_cases h : trafficService c = s
    · rw [if_pos h, if_pos ⟨hs, h⟩, ← bytes_getD (m.lookup s) s]
      rfl
    · rw [if_neg h, if_neg fun h' => h h'.2]

/-- **The traffic endpoint and the aggregator count the same bytes.**  Start the aggregator with an
empty map, as `flush` leaves it, and feed it any stream of connection and request events: the bytes
of each service's entry are those the traffic endpoint reports for that service over the stream's
connections (both `(0, 0)` for a service with no entry or no summary). -/
theorem traffic_agrees_with_aggregator (a : Aggregator) (events : List Event) (svc : GoString) :
    metricBytes ((events.foldl Aggregator.observe { a with services := ∅ }).services.lookup svc) =
      trafficBytes ((trafficMap (events.filterMap Event.connection?)).lookup svc) := by
  suffices h : ∀ (a : Aggregator) (m : TrafficMap),
      (∀ s, metricBytes (a.services.lookup s) = trafficBytes (m.lookup s)) →
      ∀ s, metricBytes ((events.foldl Aggregator.observe a).services.lookup s) =
        trafficBytes (((events.filterMap Event.connection?).foldl addTraffic m).lookup s) from
    h { a with services := ∅ } ∅ (fun s => by simp only [AList.lookup_empty]; rfl) svc
  induction events with
  | nil => exact fun _ _ h => h
  | cons e es ih =>
    intro a m h
    cases e with
    | connection c =>
      refine ih (a.observeConnection c) (addTraffic m c) fun s => ?_
      rw [metricBytes_observeConnection, trafficBytes_addTraffic, h s]
    | httpRequest r =>
      refine ih (a.observeHTTPRequest r) m fun s => ?_
      rw [metricBytes_observeHTTPRequest, h s]

end Api
end Nefi
