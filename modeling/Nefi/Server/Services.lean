import Nefi.Server.Search
import Nefi.Server.Topology

/-!
# The services the API lists, and the external nodes of the topology

`GetServices` answers `GET /api/v1/services`, and `buildTopology` takes its result for the nodes of
the topology.  It sends one search to the connection and the request indices, with `size` 0 and two
`terms` aggregations of 10000 buckets each, `services` on `source.service` and `dst_services` on
`destination.service`; the key of every bucket of both, except the empty one, goes into a Go map,
whose keys it returns.  `GetOperations` searches the request indices for the requests whose source
or destination service is the given one, with a `terms` aggregation on `path`, and returns its keys.

`buildTopology` marks external the endpoints of the links it reads that `GetServices` does not
list.  The links are those the dependency computer wrote, and it only writes a link between the two
named services of an event it read; so as long as those events are stored, every endpoint is listed
and no node is external.

## What is modelled

* A search with aggregations (`searchAggs`): the documents the body's `query` selects, all of them
  without one (`querySelects`), and for each aggregation of its `aggs` the buckets of a `terms`
  aggregation (`termsBuckets`) as Elasticsearch documents it: one bucket per distinct value of the
  `keyword` field among those documents, with the number of documents that hold it, most documents
  first and then by key, the first `size` of them (ten by default).  Past `size` distinct values
  each shard returns only its own top terms and the counts can be approximate; the results assume at
  most `size` distinct values, where the buckets are exact.  An aggregation that is not a `terms` on
  a field is an error.
* The stored events are the documents of their indices, with their template's mapping
  (`eventIndices`, `requestIndices`), as `Search` writes them.
* `serviceSet` is a list to which a key is added when it is absent.  Go ranges over the map in a
  random order, so the results only say which services are listed and that none is listed twice.
* `GetDependencies` over the stored dependency documents (`getDependencies`): the first 10000 of
  those its query selects, read back as links.  Elasticsearch orders documents of equal score its
  own way; the model keeps the stored order, and the results only use that a link read is a stored
  one.  The errors of the transport are left out.
* A run of the dependency computer (`ComputeRun`) is `compute` over two reads of stored events, each
  a Go slice of fewer than `2^63` elements, with the links it passed to `WriteDependencies`.

## Results

* `getServices_eq_named_services`: when the stored events name at most 10000 distinct source and
  10000 distinct destination services, `GetServices` lists, each once, exactly the non-empty
  services of the stored events.
* `getOperations_eq_paths`: `GetOperations` lists, each once, exactly the paths of the stored
  requests from or to the service, when there are at most 10000 of them.
* `topology_has_no_external_node`: when the dependency links stored were written by the dependency
  computer from reads of the stored events (`WrittenFrom`), the topology built from any search of
  them and from `GetServices` is a graph with no external node, whose error rates lie in `[0, 1]`.
-/

namespace Nefi
namespace Elasticsearch

open Api Graph

/-! ## Searches with aggregations -/

/-- A document of an index, with the mapping of the index's template. -/
abbrev Indexed := Mapping × Json

/-- `aggBucket`. -/
structure AggBucket where
  key : GoString
  docCount : Nat
  deriving DecidableEq, Repr

/-- The string a `keyword` field holds in a document, which a `terms` aggregation counts. -/
def keywordValue (m : Mapping) (doc : Json) (f : GoString) : Option GoString :=
  match fieldType m f, doc.field f with
  | some .keyword, some (.str s) => some s
  | _, _ => none

/-- The values of a `keyword` field over the documents, one per document that holds it. -/
def keywordValues (docs : List Indexed) (f : GoString) : List GoString :=
  docs.filterMap fun d => keywordValue d.1 d.2 f

/-- The order of the buckets of a `terms` aggregation: more documents first, then by key. -/
def bucketLe (a b : AggBucket) : Bool :=
  decide (b.docCount < a.docCount) || (a.docCount == b.docCount && decide (a.key ≤ b.key))

/-- The buckets of a `terms` aggregation on the field `f` with `size` buckets. -/
def termsBuckets (docs : List Indexed) (f : GoString) (size : Nat) : List AggBucket :=
  let values := keywordValues docs f
  ((values.dedup.map fun v => ⟨v, values.count v⟩).mergeSort bucketLe).take size

/-- One aggregation of a body's `aggs`: a `terms` aggregation on a field, of ten buckets when its
`size` is not given; anything else is an error. -/
def aggBuckets (docs : List Indexed) (agg : Json) : Option (List AggBucket) := do
  let some terms := agg.get "terms" | none
  let some (.str f) := terms.get "field" | none
  let size := match terms.get "size" with
    | some (.num n) => ⌊n⌋₊
    | _ => 10
  return termsBuckets docs f size

/-- Whether the `query` of a search body selects a document; a body without one selects all. -/
def querySelects (m : Mapping) (body doc : Json) : Bool :=
  match body.get "query" with
  | some q => clauseMatches m doc q
  | none => true

/-- The `aggregations` of the response to a search body: the buckets of each aggregation of its
`aggs`, by name, over the documents its `query` selects; `none` is an error. -/
def searchAggs (docs : List Indexed) (body : Json) : Option (List (GoString × List AggBucket)) :=
  let selected := docs.filter fun d => querySelects d.1 body d.2
  match body.get "aggs" with
  | some (.obj aggs) => aggs.mapM fun a => (a.1, ·) <$> aggBuckets selected a.2
  | some _ => none
  | none => some []

/-- The buckets of the aggregation `name` as Go decodes the response: none when it has no such
aggregation. -/
def bucketsOf (aggs : List (GoString × List AggBucket)) (name : GoString) : List AggBucket :=
  (aggs.lookup name).getD []

/-- A `terms` aggregation on `f` with `size` buckets. -/
def termsAgg (f : GoString) (size : ℚ) : Json :=
  .obj [("terms", .obj [("field", .str f), ("size", .num size)])]

/-! ## `GetServices` and `GetOperations` -/

/-- The body of `GetServices`' search. -/
def servicesQuery : Json :=
  .obj [("size", .num 0), ("aggs", .obj [("services", termsAgg "source.service" 10000),
    ("dst_services", termsAgg "destination.service" 10000)])]

/-- A loop of `GetServices` over the buckets of an aggregation: the key of each, unless it is
empty, goes into `serviceSet`. -/
def addBucketKeys (serviceSet : List GoString) (buckets : List AggBucket) : List GoString :=
  buckets.foldl (fun set b => if b.key ≠ [] ∧ b.key ∉ set then set ++ [b.key] else set) serviceSet

/-- `GetServices`, over the documents of the connection and the request indices. -/
def getServices (docs : List Indexed) : Option (List GoString) := do
  let aggs ← searchAggs docs servicesQuery
  return addBucketKeys (addBucketKeys [] (bucketsOf aggs "services"))
    (bucketsOf aggs "dst_services")

/-- The body of `GetOperations`' search: the clause that the service filter of `buildEventQuery`
also sends, and a `terms` aggregation on `path`. -/
def operationsQuery (service : GoString) : Json :=
  .obj [("size", .num 0), ("query", eitherFilter "source.service" "destination.service" service),
    ("aggs", .obj [("operations", termsAgg "path" 10000)])]

/-- `GetOperations`, over the documents of the request indices. -/
def getOperations (docs : List Indexed) (service : GoString) : Option (List GoString) := do
  let aggs ← searchAggs docs (operationsQuery service)
  return (bucketsOf aggs "operations").map (·.key)

/-- The documents of the request indices for the stored requests. -/
def requestIndices (reqs : List HTTPRequestEvent) : List Indexed :=
  reqs.map fun ev => (requestsMapping, requestDoc ev)

/-- The documents of the connection and the request indices for the stored events. -/
def eventIndices (conns : List ConnectionEvent) (reqs : List HTTPRequestEvent) : List Indexed :=
  conns.map (fun ev => (connectionsMapping, connectionDoc ev)) ++ requestIndices reqs

/-- `GetDependencies` over the stored dependency documents, each a link and the time it was
written: the links of the first 10000 documents its query selects. -/
def getDependencies (stored : List (DependencyLink × Time)) (q : DependencyQuery) :
    List DependencyLink :=
  ((stored.filter fun w => searchMatches dependenciesMapping (buildDependencyQuery q)
    (depDoc w.1 w.2)).take 10000).map (·.1)

/-! ## The buckets -/

theorem keywordValue_of {m : Mapping} {doc : Json} {f s : GoString}
    (hm : fieldType m f = some .keyword) (hd : doc.field f = some (.str s)) :
    keywordValue m doc f = some s := by
  rw [keywordValue, hm, hd]

theorem keywordValues_map {α : Type} (l : List α) (m : Mapping) (doc : α → Json) (f : GoString)
    (v : α → GoString) (h : ∀ a, keywordValue m (doc a) f = some (v a)) :
    keywordValues (l.map fun a => (m, doc a)) f = l.map v := by
  simp only [keywordValues, List.filterMap_map, Function.comp_def, h]
  exact congrFun (List.filterMap_eq_map v) l

/-- The source and destination services the documents of the stored events hold. -/
theorem keywordValues_eventIndices (conns : List ConnectionEvent) (reqs : List HTTPRequestEvent) :
    keywordValues (eventIndices conns reqs) "source.service" =
        conns.map (·.source.service) ++ reqs.map (·.source.service) ∧
      keywordValues (eventIndices conns reqs) "destination.service" =
        conns.map (·.destination.service) ++ reqs.map (·.destination.service) := by
  simp only [eventIndices, requestIndices, keywordValues, List.filterMap_append]
  exact ⟨congrArg₂ _ (keywordValues_map _ _ _ _ _ fun _ => rfl)
      (keywordValues_map _ _ _ _ _ fun _ => rfl),
    congrArg₂ _ (keywordValues_map _ _ _ _ _ fun _ => rfl)
      (keywordValues_map _ _ _ _ _ fun _ => rfl)⟩

/-- **The buckets are the distinct values**: when there are at most `size` of them, the keys of
the buckets are the distinct values of the field, in some order. -/
theorem keys_termsBuckets_perm {docs : List Indexed} {f : GoString} {size : Nat}
    (h : (keywordValues docs f).dedup.length ≤ size) :
    ((termsBuckets docs f size).map (·.key)).Perm (keywordValues docs f).dedup := by
  have hperm := List.mergeSort_perm ((keywordValues docs f).dedup.map fun v =>
    (⟨v, (keywordValues docs f).count v⟩ : AggBucket)) bucketLe
  rw [termsBuckets, List.take_of_length_le (by rw [hperm.length_eq, List.length_map]; exact h)]
  simpa [Function.comp_def] using hperm.map (·.key)

theorem mem_addBucketKeys (serviceSet : List GoString) (buckets : List AggBucket) (s : GoString) :
    s ∈ addBucketKeys serviceSet buckets ↔ s ∈ serviceSet ∨ s ≠ [] ∧ s ∈ buckets.map (·.key) := by
  induction buckets generalizing serviceSet with
  | nil => simp [addBucketKeys]
  | cons b bs ih =>
    show s ∈ addBucketKeys _ bs ↔ _
    rw [ih, List.map_cons, List.mem_cons]
    dsimp only
    by_cases hs : s = b.key
    · subst hs
      split_ifs with hb
      · simp [hb.1]
      · rcases not_and_or.mp hb with h | h <;> simp_all
    · split_ifs <;> simp [hs]

theorem nodup_addBucketKeys {serviceSet : List GoString} (h : serviceSet.Nodup)
    (buckets : List AggBucket) : (addBucketKeys serviceSet buckets).Nodup := by
  induction buckets generalizing serviceSet with
  | nil => exact h
  | cons b bs ih =>
    apply ih
    dsimp only
    split_ifs with hb
    · exact h.append (List.nodup_singleton _) (List.disjoint_singleton.mpr hb.2)
    · exact h

/-! ## `GetServices` -/

theorem getServices_eq (docs : List Indexed) :
    getServices docs = some (addBucketKeys (addBucketKeys [] (termsBuckets docs "source.service" 10000))
      (termsBuckets docs "destination.service" 10000)) := by
  have hsel : (docs.filter fun d => querySelects d.1 servicesQuery d.2) = docs := List.filter_true docs
  simp only [getServices, searchAggs, hsel]
  rfl

/-- What `GetServices` lists over any documents: when each field has at most 10000 distinct
values, the non-empty values of either, each once. -/
theorem mem_getServices {docs : List Indexed}
    (hsrc : (keywordValues docs "source.service").dedup.length ≤ 10000)
    (hdst : (keywordValues docs "destination.service").dedup.length ≤ 10000) :
    ∃ services, getServices docs = some services ∧ services.Nodup ∧ ∀ s, s ∈ services ↔
      s ≠ [] ∧ (s ∈ keywordValues docs "source.service" ∨
        s ∈ keywordValues docs "destination.service") := by
  refine ⟨_, getServices_eq docs, nodup_addBucketKeys (nodup_addBucketKeys List.nodup_nil _) _,
    fun s => ?_⟩
  rw [mem_addBucketKeys, mem_addBucketKeys, (keys_termsBuckets_perm hsrc).mem_iff,
    (keys_termsBuckets_perm hdst).mem_iff, List.mem_dedup, List.mem_dedup]
  simp only [List.not_mem_nil, false_or]
  tauto

/-- The services the documents of the stored events name on either side. -/
theorem mem_keywordValues_eventIndices (conns : List ConnectionEvent)
    (reqs : List HTTPRequestEvent) (s : GoString) :
    (s ∈ keywordValues (eventIndices conns reqs) "source.service" ∨
        s ∈ keywordValues (eventIndices conns reqs) "destination.service") ↔
      (∃ c ∈ conns, c.source.service = s ∨ c.destination.service = s) ∨
        ∃ r ∈ reqs, r.source.service = s ∨ r.destination.service = s := by
  rw [(keywordValues_eventIndices conns reqs).1, (keywordValues_eventIndices conns reqs).2]
  simp only [List.mem_append, List.mem_map, and_or_left, exists_or]
  exact or_or_or_comm

/-- **`GetServices` lists the named services of the stored events.**  When the stored events name
at most 10000 distinct source and 10000 distinct destination services, `GetServices` lists, each
once, exactly the non-empty services that a stored connection or request has on either side. -/
theorem getServices_eq_named_services (conns : List ConnectionEvent)
    (reqs : List HTTPRequestEvent)
    (hsrc : (conns.map (·.source.service) ++ reqs.map (·.source.service)).dedup.length ≤ 10000)
    (hdst : (conns.map (·.destination.service) ++
      reqs.map (·.destination.service)).dedup.length ≤ 10000) :
    ∃ services, getServices (eventIndices conns reqs) = some services ∧ services.Nodup ∧
      ∀ s, s ∈ services ↔ s ≠ [] ∧
        ((∃ c ∈ conns, c.source.service = s ∨ c.destination.service = s) ∨
          ∃ r ∈ reqs, r.source.service = s ∨ r.destination.service = s) := by
  obtain ⟨services, hget, hnodup, hmem⟩ :=
    mem_getServices (by rwa [(keywordValues_eventIndices conns reqs).1])
      (by rwa [(keywordValues_eventIndices conns reqs).2])
  exact ⟨services, hget, hnodup, fun s => by rw [hmem, mem_keywordValues_eventIndices]⟩

/-- A request from `"a"` to `"b"` for `/cart`. -/
def requestAB : HTTPRequestEvent :=
  { timestamp := Time.unix 0, source := { service := "a" }, destination := { service := "b" },
    path := "/cart" }

/-- A connection and a request between `"a"` and `"b"`: the services are `"a"` and `"b"`. -/
theorem getServices_eq_named_services_ab :
    ([connectionAB].map (·.source.service) ++ [requestAB].map (·.source.service)).dedup.length ≤
        10000 ∧
      ([connectionAB].map (·.destination.service) ++
        [requestAB].map (·.destination.service)).dedup.length ≤ 10000 ∧
      ∃ services, getServices (eventIndices [connectionAB] [requestAB]) = some services ∧
        services.Nodup ∧ ∀ s, s ∈ services ↔ s ≠ [] ∧
          ((∃ c ∈ [connectionAB], c.source.service = s ∨ c.destination.service = s) ∨
            ∃ r ∈ [requestAB], r.source.service = s ∨ r.destination.service = s) :=
  ⟨by decide, by decide, getServices_eq_named_services _ _ (by decide) (by decide)⟩

/-! ## `GetOperations` -/

/-- The query of `GetOperations` selects the requests from or to the service. -/
theorem querySelects_operationsQuery (ev : HTTPRequestEvent) (service : GoString) :
    querySelects requestsMapping (operationsQuery service) (requestDoc ev) =
      decide (ev.source.service = service ∨ ev.destination.service = service) :=
  clauseMatches_eitherFilter (request_eventDoc ev).srcService_keyword
    (request_eventDoc ev).srcService (request_eventDoc ev).dstService_keyword
    (request_eventDoc ev).dstService service

theorem getOperations_eq (docs : List Indexed) (service : GoString) :
    getOperations docs service = some ((termsBuckets
      (docs.filter fun d => querySelects d.1 (operationsQuery service) d.2) "path" 10000).map
        (·.key)) := by
  simp only [getOperations, searchAggs]
  rfl

/-- The paths of the requests the query of `GetOperations` selects. -/
theorem keywordValues_operations (reqs : List HTTPRequestEvent) (service : GoString) :
    keywordValues ((requestIndices reqs).filter fun d =>
        querySelects d.1 (operationsQuery service) d.2) "path" =
      (reqs.filter fun r => r.source.service = service ∨ r.destination.service = service).map
        (·.path) := by
  simp only [requestIndices, List.filter_map, Function.comp_def, querySelects_operationsQuery]
  exact keywordValues_map _ _ _ _ _ fun _ => rfl

/-- **`GetOperations` lists the paths of the service's requests.**  When the stored requests from
or to the service have at most 10000 distinct paths, `GetOperations` lists, each once, exactly
those paths. -/
theorem getOperations_eq_paths (reqs : List HTTPRequestEvent) (service : GoString)
    (h : ((reqs.filter fun r => r.source.service = service ∨
      r.destination.service = service).map (·.path)).dedup.length ≤ 10000) :
    ∃ ops, getOperations (requestIndices reqs) service = some ops ∧ ops.Nodup ∧
      ∀ p, p ∈ ops ↔ ∃ r ∈ reqs,
        (r.source.service = service ∨ r.destination.service = service) ∧ r.path = p := by
  rw [← keywordValues_operations] at h
  have hperm := keys_termsBuckets_perm h
  refine ⟨_, getOperations_eq _ _, hperm.nodup_iff.mpr (List.nodup_dedup _), fun p => ?_⟩
  rw [hperm.mem_iff, List.mem_dedup, keywordValues_operations]
  simp only [List.mem_map, List.mem_filter, decide_eq_true_eq, and_assoc]

/-- The request from `"a"` to `"b"`: the operations of `"b"` are `/cart`. -/
theorem getOperations_eq_paths_ab :
    (([requestAB].filter fun r => r.source.service = ("b" : GoString) ∨
      r.destination.service = ("b" : GoString)).map (·.path)).dedup.length ≤ 10000 ∧
      ∃ ops, getOperations (requestIndices [requestAB]) "b" = some ops ∧ ops.Nodup ∧
        ∀ p, p ∈ ops ↔ ∃ r ∈ [requestAB], (r.source.service = ("b" : GoString) ∨
          r.destination.service = ("b" : GoString)) ∧ r.path = p :=
  ⟨by decide, getOperations_eq_paths _ _ (by decide)⟩

/-! ## The topology of stored links -/

/-- One run of the dependency computer over reads of the stored events, and the links it wrote:
each read is a Go slice of stored events. -/
structure ComputeRun (conns : List ConnectionEvent) (reqs : List HTTPRequestEvent) where
  readConns : Option (List ConnectionEvent)
  readReqs : Option (List HTTPRequestEvent)
  links : List DependencyLink
  conns_stored : ∀ c ∈ readConns.getD [], c ∈ conns
  reqs_stored : ∀ r ∈ readReqs.getD [], r ∈ reqs
  conns_length : (readConns.getD []).length < 2 ^ 63
  reqs_length : (readReqs.getD []).length < 2 ^ 63
  written : (compute readConns readReqs).2 = some links

/-- Every stored dependency document holds a link that a run of the dependency computer over the
stored events wrote. -/
def WrittenFrom (conns : List ConnectionEvent) (reqs : List HTTPRequestEvent)
    (stored : List (DependencyLink × Time)) : Prop :=
  ∀ w ∈ stored, ∃ run : ComputeRun conns reqs, w.1 ∈ run.links

section Written

variable {conns : List ConnectionEvent} {reqs : List HTTPRequestEvent}

/-- A link written joins a named source service to a named destination service of the stored
events. -/
theorem ComputeRun.mem_keywordValues (run : ComputeRun conns reqs) {link : DependencyLink}
    (hl : link ∈ run.links) :
    (link.parent ≠ [] ∧ link.parent ∈ keywordValues (eventIndices conns reqs) "source.service") ∧
      link.child ≠ [] ∧
        link.child ∈ keywordValues (eventIndices conns reqs) "destination.service" := by
  obtain ⟨s, hs, ⟨hsrc, hdst, -⟩, hparent, hchild⟩ := exists_sample_of_mem_links run.written hl
  rw [← hparent, ← hchild, (keywordValues_eventIndices conns reqs).1,
    (keywordValues_eventIndices conns reqs).2]
  simp only [computeSamples, List.mem_append, List.mem_map] at hs
  rcases hs with ⟨c, hc, rfl⟩ | ⟨r, hr, rfl⟩
  · have hc := run.conns_stored c hc
    exact ⟨⟨hsrc, List.mem_append_left _ (List.mem_map_of_mem _ hc)⟩, hdst,
      List.mem_append_left _ (List.mem_map_of_mem _ hc)⟩
  · have hr := run.reqs_stored r hr
    exact ⟨⟨hsrc, List.mem_append_right _ (List.mem_map_of_mem _ hr)⟩, hdst,
      List.mem_append_right _ (List.mem_map_of_mem _ hr)⟩

/-- A link written counts no more errors than calls. -/
theorem ComputeRun.errorCount_le (run : ComputeRun conns reqs) {link : DependencyLink}
    (hl : link ∈ run.links) : link.errorCount ≤ link.callCount :=
  (wellFormed_of_mem_buildLinks (by have := run.conns_length; have := run.reqs_length; omega)
    (mem_buildLinks_of_written run.written hl)).2.2.2

/-- A link `GetDependencies` returns is a stored one. -/
theorem mem_stored_of_mem_getDependencies {stored : List (DependencyLink × Time)}
    {q : DependencyQuery} {link : DependencyLink} (h : link ∈ getDependencies stored q) :
    ∃ now, (link, now) ∈ stored := by
  obtain ⟨w, hw, rfl⟩ := List.mem_map.mp h
  exact ⟨w.2, (List.mem_filter.mp (List.mem_of_mem_take hw)).1⟩

/-- **The topology has no external node.**  When every stored dependency document was written by
the dependency computer from reads of the stored events, and those events name at most 10000
distinct source and 10000 distinct destination services, the topology built from any dependency
search and `GetServices` is a graph whose nodes are all known services, and each edge's error rate
lies in `[0, 1]`. -/
theorem topology_has_no_external_node (stored : List (DependencyLink × Time))
    (hw : WrittenFrom conns reqs stored)
    (hsrc : (conns.map (·.source.service) ++ reqs.map (·.source.service)).dedup.length ≤ 10000)
    (hdst : (conns.map (·.destination.service) ++
      reqs.map (·.destination.service)).dedup.length ≤ 10000) (q : DependencyQuery) :
    ∃ t, buildTopology (some (getDependencies stored q)) (getServices (eventIndices conns reqs)) =
        some t ∧ t.Wf ∧ (∀ n ∈ t.nodes, n.isExternal = false) ∧
      ∀ e ∈ t.edges, 0 ≤ e.errorRate ∧ e.errorRate ≤ 1 := by
  obtain ⟨services, hget, -, hmem⟩ :=
    mem_getServices (by rwa [(keywordValues_eventIndices conns reqs).1])
      (by rwa [(keywordValues_eventIndices conns reqs).2])
  have hrun : ∀ link ∈ getDependencies stored q, ∃ run : ComputeRun conns reqs, link ∈ run.links :=
    fun link hl => by
      obtain ⟨now, hs⟩ := mem_stored_of_mem_getDependencies hl
      exact hw _ hs
  have hsub : ∀ k ∈ endpoints (getDependencies stored q), k ∈ services := by
    intro k hk
    obtain ⟨link, hl, hk⟩ := List.mem_flatMap.mp hk
    obtain ⟨run, hlr⟩ := hrun link hl
    obtain ⟨hp, hc⟩ := run.mem_keywordValues hlr
    simp only [List.mem_cons, List.mem_singleton, List.not_mem_nil, or_false] at hk
    rcases hk with rfl | rfl
    · exact (hmem _).mpr ⟨hp.1, .inl hp.2⟩
    · exact (hmem _).mpr ⟨hc.1, .inr hc.2⟩
  have ht : buildTopology (some (getDependencies stored q)) (some services) = some _ := rfl
  refine ⟨_, by rw [hget]; exact ht, buildTopology_wf ht,
    fun n hn => isExternal_eq_false_of_endpoints ht hsub hn,
    fun e he => errorRate_mem_of_mem_edges ht he fun d hd => ?_⟩
  obtain ⟨run, hlr⟩ := hrun d hd
  exact run.errorCount_le hlr

end Written

/-- The link the dependency computer writes for `connectionAB`. -/
def linkAB : DependencyLink := ⟨"a", "b", 1, 0, 0⟩

/-- The run of the dependency computer that reads `connectionAB` and writes `linkAB`. -/
def runAB : ComputeRun [connectionAB] [requestAB] where
  readConns := some [connectionAB]
  readReqs := none
  links := [linkAB]
  conns_stored := by simp
  reqs_stored := by simp
  conns_length := by decide
  reqs_length := by decide
  written := by decide

/-- `linkAB` stored beside a connection and a request between `"a"` and `"b"`: neither end of the
topology of the last hour is external. -/
theorem topology_has_no_external_node_ab :
    WrittenFrom [connectionAB] [requestAB] [(linkAB, Time.unix 0)] ∧
      ([connectionAB].map (·.source.service) ++ [requestAB].map (·.source.service)).dedup.length ≤
        10000 ∧
      ([connectionAB].map (·.destination.service) ++
        [requestAB].map (·.destination.service)).dedup.length ≤ 10000 ∧
      ∃ t, buildTopology (some (getDependencies [(linkAB, Time.unix 0)]
          ⟨Time.unix 0, Time.unix 3600, []⟩))
          (getServices (eventIndices [connectionAB] [requestAB])) = some t ∧ t.Wf ∧
        (∀ n ∈ t.nodes, n.isExternal = false) ∧ ∀ e ∈ t.edges, 0 ≤ e.errorRate ∧ e.errorRate ≤ 1 :=
  have hw : WrittenFrom [connectionAB] [requestAB] [(linkAB, Time.unix 0)] := fun w hw =>
    ⟨runAB, by rw [List.mem_singleton.mp hw]; exact List.mem_singleton_self _⟩
  ⟨hw, by decide, by decide, topology_has_no_external_node _ hw (by decide) (by decide) _⟩

end Elasticsearch
end Nefi
