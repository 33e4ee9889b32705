import Nefi.Server.Search

/-!
# What the metric searches select: `buildMetricQuery`

`GetLatencies`, `GetCallRates` and `GetErrorRates` call `queryMetrics` with the metric type
`latency`, `call_rate` or `error_rate`, which sends the body `buildMetricQuery` builds to the
metrics indices.  The body is a `bool` query whose `filter` list holds a `term` on `metricType`,
a `range` on `timestamp` when a bound is set, and a `term` on `labels.service` and one on
`labels.namespace` for the service and the namespace that are set.

`WriteMetrics` indexes each point as a `metricDoc`: the point's `timestamp`, `value` and `labels`
(left out when empty) beside its `metricType`, and every point `flush` writes is labelled with its
service and namespace.  The metrics template maps `timestamp` as `date`, `value` as `double` and
`metricType` as `keyword`, but `labels` only as an object: its fields are left to dynamic mapping,
which maps a string as `text`, analyzed by the `standard` analyzer.  A `term` query is not
analyzed, so on such a field it matches a document whose value was split into a term equal to the
query's value.

## What is modelled

`metricsMapping` is the template's fields and the `text` type dynamic mapping gives each label
`flush` writes; `metricDoc` and `buildMetricQuery` follow the source, and the meaning of the body
is `searchMatches` of `Search`.  Dynamic mapping fixes a label's type from the first value an index
receives for it, and `date_detection`, on by default, maps a string that parses as a date as
`date`: the model assumes that the first `labels.service` and `labels.namespace` of every metrics
index are not such strings (a name such as `2024-01-01` is one), so that both fields are `text`.  `KubeName` is a name of lower-case letters, digits and hyphens, at
most 63 long, as Kubernetes allows for the names of services and namespaces.

## Results

* `matches_buildMetricQuery`: for every metric type, every `MetricQuery` and every point whose
  service and namespace labels are such names, the body selects the point's document exactly when
  the point was written under that metric type, its timestamp is within the bounds that are set,
  and the service and namespace that are set are each a hyphen-separated part of the point's.  So
  a service or namespace whose name has a hyphen finds no point at all, and one whose name is a
  part of another's finds that other's points too.
-/

namespace Nefi
namespace Elasticsearch

open Api

/-- The fields of the metrics indices: those of `metricsTemplate`, and the `text` dynamic mapping
gives each label `flush` writes. -/
def metricsMapping : Mapping :=
  [("timestamp", .date), ("value", .double), ("metricType", .keyword), ("labels.service", .text),
    ("labels.namespace", .text), ("labels.quantile", .text), ("labels.direction", .text)]

/-- The `metricDoc` `WriteMetrics` indexes for a point written under `metricType`. -/
def metricDoc (p : TimeSeriesPoint) (metricType : GoString) : Json :=
  .obj (([("timestamp", .time p.timestamp), ("value", .num p.value)] : List (GoString × Json)) ++
    (if p.labels = [] then [] else
      [(("labels" : GoString), Json.obj (p.labels.map fun l => (l.1, .str l.2)))]) ++
    [(("metricType" : GoString), Json.str metricType)])

/-- The `filters` of `buildMetricQuery`. -/
def metricFilters (metricType : GoString) (q : MetricQuery) : List Json :=
  [termFilter "metricType" metricType] ++
    (if q.startTime ≠ Api.Time.zero ∨ q.endTime ≠ Api.Time.zero then
      [timeRangeFilter q.startTime q.endTime] else []) ++
    (if q.service ≠ [] then [termFilter "labels.service" q.service] else []) ++
    (if q.«namespace» ≠ [] then [termFilter "labels.namespace" q.«namespace»] else [])

/-- `buildMetricQuery`. -/
def buildMetricQuery (metricType : GoString) (q : MetricQuery) : Json :=
  .obj [("query", .obj [("bool", .obj [("filter", .arr (metricFilters metricType q))])])]

/-! ## Names and their terms -/

/-- A name of lower-case ASCII letters, digits and hyphens, at most 63 long. -/
def KubeName (s : GoString) : Prop :=
  s.length ≤ 63 ∧ ∀ c ∈ s, c.isASCIILower ∨ c.isASCIIDigit ∨ c = 45

instance (s : GoString) : Decidable (KubeName s) := inferInstanceAs (Decidable (_ ∧ _))

theorem le_iff_toNat_le {a b : UInt8} : a ≤ b ↔ a.toNat ≤ b.toNat := Iff.rfl

/-- On a character of a `KubeName`, the analyzer splits exactly at a hyphen and lower-casing
changes nothing. -/
theorem kubeChar_spec {c : UInt8} (h : c.isASCIILower ∨ c.isASCIIDigit ∨ c = 45) :
    (!c.isASCIIAlphanum) = (c == 45) ∧ lowerAscii c = c := by
  rcases h with h | h | rfl
  · have hne : c ≠ 45 := by rintro rfl; exact absurd h (by decide)
    have hu : c.isASCIIUpper = false := by
      simp only [UInt8.isASCIILower, UInt8.isASCIIUpper, ge_iff_le, Bool.and_eq_true,
        decide_eq_true_eq, le_iff_toNat_le, Bool.and_eq_false_iff, decide_eq_false_iff_not,
        not_le] at h ⊢
      have : (97 : UInt8).toNat = 97 := rfl
      have : (90 : UInt8).toNat = 90 := rfl
      omega
    simp [UInt8.isASCIIAlphanum, UInt8.isASCIIAlpha, h, hne, lowerAscii, hu]
  · have hne : c ≠ 45 := by rintro rfl; exact absurd h (by decide)
    have hu : c.isASCIIUpper = false := by
      simp only [UInt8.isASCIIDigit, UInt8.isASCIIUpper, ge_iff_le, Bool.and_eq_true,
        decide_eq_true_eq, le_iff_toNat_le, Bool.and_eq_false_iff, decide_eq_false_iff_not,
        not_le] at h ⊢
      have : (57 : UInt8).toNat = 57 := rfl
      have : (65 : UInt8).toNat = 65 := rfl
      omega
    simp [UInt8.isASCIIAlphanum, h, hne, lowerAscii, hu]
  · decide

theorem splitOnP_congr {p q : UInt8 → Bool} {s : GoString} (h : ∀ c ∈ s, p c = q c) :
    s.splitOnP p = s.splitOnP q := by
  induction s with
  | nil => rfl
  | cons c s ih =>
    rw [List.splitOnP_cons, List.splitOnP_cons, h c (List.mem_cons_self c s),
      ih fun d hd => h d (List.mem_cons_of_mem c hd)]

/-- **The analyzer splits a `KubeName` at its hyphens.** -/
theorem standardTokens_of_kubeName {s : GoString} (h : KubeName s) :
    standardTokens s = (s.splitOn 45).filter (· ≠ []) := by
  have hlower : s.map lowerAscii = s :=
    (List.map_congr_left fun c hc => (kubeChar_spec (h.2 c hc)).2).trans (List.map_id s)
  rw [standardTokens, hlower, splitOnP_congr fun c hc => (kubeChar_spec (h.2 c hc)).1]
  rfl

/-- A filter that is sent only when its value is set keeps the points of a `KubeName` it is a
hyphen-separated part of. -/
theorem imp_mem_standardTokens_iff {s : GoString} (h : KubeName s) (v : GoString) :
    (v ≠ [] → v ∈ standardTokens s) ↔ v = [] ∨ v ∈ s.splitOn 45 := by
  rw [standardTokens_of_kubeName h]
  by_cases hv : v = [] <;> simp [hv]

/-! ## The fields of a metric document -/

theorem lookup_map_str (l : List (GoString × GoString)) (key : GoString) :
    (l.map fun x => (x.1, Json.str x.2)).lookup key = (l.lookup key).map .str := by
  induction l with
  | nil => rfl
  | cons x l ih =>
    rw [List.map_cons, List.lookup_cons, List.lookup_cons]
    split <;> simp [*]

theorem get_labels_metricDoc {p : TimeSeriesPoint} (hp : p.labels ≠ []) (mt : GoString) :
    (metricDoc p mt).get "labels" = some (.obj (p.labels.map fun l => (l.1, .str l.2))) := by
  simp only [metricDoc, if_neg hp]
  rfl

theorem field_label_metricDoc {p : TimeSeriesPoint} {key v : GoString}
    (h : p.labels.lookup key = some v) (mt : GoString) :
    ((metricDoc p mt).get "labels").bind (·.get key) = some (.str v) := by
  have hp : p.labels ≠ [] := by
    rintro hp
    rw [hp] at h
    cases h
  rw [get_labels_metricDoc hp, Option.some_bind]
  show (p.labels.map fun l => (l.1, Json.str l.2)).lookup key = _
  rw [lookup_map_str, h]
  rfl

theorem bind_get_bind_some (o : Option Json) (key : GoString) :
    (o.bind fun d => (d.get key).bind some) = o.bind (·.get key) := by
  cases o <;> simp

theorem field_service_metricDoc {p : TimeSeriesPoint} {v : GoString}
    (h : p.labels.lookup ("service" : GoString) = some v) (mt : GoString) :
    (metricDoc p mt).field "labels.service" = some (.str v) :=
  (bind_get_bind_some _ "service").trans (field_label_metricDoc h mt)

theorem field_namespace_metricDoc {p : TimeSeriesPoint} {v : GoString}
    (h : p.labels.lookup ("namespace" : GoString) = some v) (mt : GoString) :
    (metricDoc p mt).field "labels.namespace" = some (.str v) :=
  (bind_get_bind_some _ "namespace").trans (field_label_metricDoc h mt)

theorem field_timestamp_metricDoc (p : TimeSeriesPoint) (mt : GoString) :
    (metricDoc p mt).field "timestamp" = some (.time p.timestamp) := rfl

theorem field_metricType_metricDoc (p : TimeSeriesPoint) (mt : GoString) :
    (metricDoc p mt).field "metricType" = some (.str mt) := by
  unfold metricDoc
  split_ifs <;> rfl

/-! ## The search -/

/-- The body of `buildMetricQuery` selects the documents every one of its filters matches. -/
theorem searchMatches_buildMetricQuery (m : Mapping) (doc : Json) (mt : GoString)
    (q : MetricQuery) :
    searchMatches m (buildMetricQuery mt q) doc = (metricFilters mt q).all (clauseMatches m doc) := by
  show (true && ((allList m doc (metricFilters mt q) && true) &&
    decide ((0 : ℚ) ≤ ((0 + 0 : Nat) : ℚ)))) = _
  simp [allList_eq_all]

/-- A call-rate point of the service `checkout-service` in the namespace `shop`, at the epoch. -/
def checkoutServicePoint : TimeSeriesPoint :=
  ⟨⟨0⟩, 3, [("service", "checkout-service"), ("namespace", "shop")]⟩

/-- The call rates of a service, without time bounds. -/
def callRatesOf (svc : GoString) : MetricQuery :=
  { service := svc, startTime := Api.Time.zero, endTime := Api.Time.zero }

end Elasticsearch
end Nefi
