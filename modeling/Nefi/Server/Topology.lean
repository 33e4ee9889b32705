import Nefi.Server.Dependencies
import Nefi.Server.Metrics.Window

/-!
# The topology the API serves: `buildTopology`

`Handler.buildTopology` answers `GET /api/v1/topology`, and the websocket broadcast sends what it
returns every five seconds.  It reads the dependency links of the last hour and the names of the
known services, fails if either read fails, and otherwise builds the graph the UI draws:

* one node per known service;
* then, for each link in order, a node for its parent and one for its child where none has that
  name yet, marked external, and an edge with the link's counts and the error rate
  `float64(ErrorCount) / float64(CallCount)`, 0 for a link without calls.

The node set is a Go map whose values are appended to `nodes` in map order; the model keeps it as
an `AList` and uses its order.  The reads are parameters, `none` for an error.

## Results

* `lookup_buildNodeSet`: the node of a name is the service's node for a known service, an
  external node for any other name a link mentions, and there is none otherwise.
* `buildTopology_wf`: every topology the handler returns is a graph: its node IDs are distinct
  and every edge's endpoints are nodes (`Topology.Wf`).
* `isExternal_of_mem_nodes`: a node is external exactly when it is not a known service.
* `errorRate_mem_of_mem_edges`: an edge whose link counts no more errors than calls has an error
  rate in `[0, 1]`.
* `isExternal_eq_false_of_endpoints`: when every name the links mention is a known service, no node
  is external.
-/

namespace Nefi
namespace Api

open Graph Metrics

/-- `model.TopologyNode`. -/
structure TopologyNode where
  id : GoString
  service : GoString
  «namespace» : GoString := []
  workloadType : GoString := []
  isExternal : Bool := false
  deriving DecidableEq, Repr

/-- `model.TopologyEdge`. -/
structure TopologyEdge where
  source : GoString
  target : GoString
  callCount : UInt64 := 0
  errorCount : UInt64 := 0
  p99LatencyNs : UInt64 := 0
  bytesSent : UInt64 := 0
  errorRate : ℚ := 0
  deriving DecidableEq

/-- `model.Topology`. -/
structure Topology where
  nodes : List TopologyNode
  edges : List TopologyEdge
  deriving DecidableEq

/-- The `nodeSet` map of `buildTopology`, keyed by service name. -/
abbrev NodeSet := AList fun _ : GoString => TopologyNode

/-- The node of a known service. -/
def serviceNode (svc : GoString) : TopologyNode := { id := svc, service := svc }

/-- The node a link's endpoint gets when no node has its name. -/
def externalNode (svc : GoString) : TopologyNode :=
  { id := svc, service := svc, isExternal := true }

/-- The check-and-insert `buildTopology` makes for a link's parent and then for its child. -/
def ensureNode (nodeSet : NodeSet) (svc : GoString) : NodeSet :=
  if svc ∈ nodeSet then nodeSet else nodeSet.insert svc (externalNode svc)

/-- The edge of a link. -/
def toEdge (dep : DependencyLink) : TopologyEdge :=
  { source := dep.parent
    target := dep.child
    callCount := dep.callCount
    errorCount := dep.errorCount
    p99LatencyNs := dep.p99LatencyNs
    errorRate :=
      if 0 < dep.callCount then (dep.errorCount.toNat : ℚ) / dep.callCount.toNat else 0 }

/-- The first loop of `buildTopology`: a node per known service. -/
def serviceNodes (services : List GoString) : NodeSet :=
  services.foldl (fun nodeSet svc => nodeSet.insert svc (serviceNode svc)) ∅

/-- The body of the loop of `buildTopology` over the links. -/
def addDependency (acc : NodeSet × List TopologyEdge) (dep : DependencyLink) :
    NodeSet × List TopologyEdge :=
  (ensureNode (ensureNode acc.1 dep.parent) dep.child, acc.2 ++ [toEdge dep])

/-- `buildTopology`, given what its two reads return. -/
def buildTopology (deps : Option (List DependencyLink)) (services : Option (List GoString)) :
    Option Topology := do
  let deps ← deps
  let services ← services
  let acc := deps.foldl addDependency (serviceNodes services, [])
  return { nodes := acc.1.entries.map (·.2), edges := acc.2 }

/-! ## The node set -/

/-- Every name a link mentions, in order. -/
def endpoints (deps : List DependencyLink) : List GoString :=
  deps.flatMap fun dep => [dep.parent, dep.child]

theorem lookup_ensureNode (nodeSet : NodeSet) (svc k : GoString) :
    (ensureNode nodeSet svc).lookup k =
      if nodeSet.lookup k = none ∧ k = svc then some (externalNode k) else nodeSet.lookup k := by
  unfold ensureNode
  by_cases hs : svc ∈ nodeSet
  · rw [if_pos hs, if_neg]
    rintro ⟨hk, rfl⟩
    exact AList.lookup_eq_none.mp hk hs
  · rw [if_neg hs]
    rcases eq_or_ne k svc with rfl | hk
    · rw [AList.lookup_insert, if_pos ⟨AList.lookup_eq_none.mpr hs, rfl⟩]
    · rw [AList.lookup_insert_ne hk, if_neg fun h => hk h.2]

theorem lookup_foldl_serviceNode (services : List GoString) (nodeSet : NodeSet) (k : GoString) :
    (services.foldl (fun nodeSet svc => nodeSet.insert svc (serviceNode svc)) nodeSet).lookup k =
      if k ∈ services then some (serviceNode k) else nodeSet.lookup k := by
  induction services generalizing nodeSet with
  | nil => simp
  | cons svc services ih =>
    rw [List.foldl_cons, ih]
    rcases eq_or_ne k svc with rfl | hk
    · simp
    · simp [AList.lookup_insert_ne hk, hk]

theorem lookup_foldl_addDependency (deps : List DependencyLink) (acc : NodeSet × List TopologyEdge)
    (k : GoString) :
    (deps.foldl addDependency acc).1.lookup k =
      if acc.1.lookup k = none ∧ k ∈ endpoints deps then some (externalNode k)
      else acc.1.lookup k := by
  induction deps generalizing acc with
  | nil => simp [endpoints]
  | cons dep deps ih =>
    rw [List.foldl_cons, ih]
    simp only [addDependency, lookup_ensureNode, endpoints, List.flatMap_cons, List.mem_append,
      List.mem_cons, List.mem_singleton, List.not_mem_nil, or_false]
    cases h : acc.1.lookup k
    · by_cases hp : k = dep.parent
      · simp [hp]
      · by_cases hc : k = dep.child <;> simp [hp, hc]
    · simp

/-- **The node of each name.**  A known service has its service node; any other name a link
mentions has an external node; no other name has one. -/
theorem lookup_buildNodeSet (deps : List DependencyLink) (services : List GoString)
    (k : GoString) :
    (deps.foldl addDependency (serviceNodes services, [])).1.lookup k =
      if k ∈ services then some (serviceNode k)
      else if k ∈ endpoints deps then some (externalNode k) else none := by
  rw [lookup_foldl_addDependency, serviceNodes, lookup_foldl_serviceNode]
  by_cases hk : k ∈ services <;> simp [hk]

/-- The edges of the loop over the links: one per link, in order. -/
theorem foldl_addDependency_snd (deps : List DependencyLink) (acc : NodeSet × List TopologyEdge) :
    (deps.foldl addDependency acc).2 = acc.2 ++ deps.map toEdge := by
  induction deps generalizing acc with
  | nil => simp
  | cons dep deps ih => simp [ih, addDependency]

/-! ## The topology is a graph -/

/-- A topology is a graph: its node IDs are distinct, and every edge's endpoints are nodes. -/
structure Topology.Wf (t : Topology) : Prop where
  nodup : (t.nodes.map (·.id)).Nodup
  source_mem : ∀ e ∈ t.edges, ∃ n ∈ t.nodes, n.id = e.source
  target_mem : ∀ e ∈ t.edges, ∃ n ∈ t.nodes, n.id = e.target

section Built

variable {deps : List DependencyLink} {services : List GoString} {t : Topology}

theorem buildTopology_eq (h : buildTopology (some deps) (some services) = some t) :
    t.nodes = (deps.foldl addDependency (serviceNodes services, [])).1.entries.map (·.2) ∧
      t.edges = deps.map toEdge := by
  simp only [buildTopology, Option.pure_def, Option.bind_eq_bind, Option.some_bind,
    Option.some.injEq] at h
  subst h
  exact ⟨rfl, by rw [foldl_addDependency_snd, List.nil_append]⟩

/-- Every node of the node set is stored under its own ID. -/
theorem id_of_lookup_buildNodeSet {k : GoString} {n : TopologyNode}
    (hk : (deps.foldl addDependency (serviceNodes services, [])).1.lookup k = some n) :
    n.id = k := by
  rw [lookup_buildNodeSet] at hk
  split_ifs at hk <;> cases hk <;> rfl

/-- The nodes of a built topology are the values of the node set, each under its own ID. -/
theorem lookup_of_mem_nodes (h : buildTopology (some deps) (some services) = some t)
    {n : TopologyNode} (hn : n ∈ t.nodes) :
    (deps.foldl addDependency (serviceNodes services, [])).1.lookup n.id = some n := by
  rw [(buildTopology_eq h).1] at hn
  obtain ⟨⟨k, n⟩, he, rfl⟩ := List.mem_map.mp hn
  have hk := AList.mem_lookup_iff.mpr he
  rwa [id_of_lookup_buildNodeSet hk]

theorem mem_nodes_of_lookup (h : buildTopology (some deps) (some services) = some t)
    {k : GoString} {n : TopologyNode}
    (hk : (deps.foldl addDependency (serviceNodes services, [])).1.lookup k = some n) :
    n ∈ t.nodes ∧ n.id = k := by
  rw [(buildTopology_eq h).1]
  exact ⟨List.mem_map.mpr ⟨⟨k, n⟩, AList.mem_lookup_iff.mp hk, rfl⟩,
    id_of_lookup_buildNodeSet hk⟩

/-- **Every topology the handler returns is a graph.** -/
theorem buildTopology_wf (h : buildTopology (some deps) (some services) = some t) : t.Wf := by
  have hmem : ∀ k ∈ endpoints deps, ∃ n ∈ t.nodes, n.id = k := fun k hk => by
    obtain ⟨n, hn⟩ : ∃ n, (deps.foldl addDependency (serviceNodes services, [])).1.lookup k =
        some n := by
      rw [lookup_buildNodeSet]
      split_ifs <;> simp
    exact ⟨n, mem_nodes_of_lookup h hn⟩
  refine ⟨?_, fun e he => ?_, fun e he => ?_⟩
  · rw [(buildTopology_eq h).1, List.map_map]
    convert AList.keys_nodup (deps.foldl addDependency (serviceNodes services, [])).1 using 1
    exact List.map_congr_left fun e he => id_of_lookup_buildNodeSet (AList.mem_lookup_iff.mpr he)
  · rw [(buildTopology_eq h).2] at he
    obtain ⟨d, hd, rfl⟩ := List.mem_map.mp he
    exact hmem _ (List.mem_flatMap.mpr ⟨d, hd, by simp [toEdge]⟩)
  · rw [(buildTopology_eq h).2] at he
    obtain ⟨d, hd, rfl⟩ := List.mem_map.mp he
    exact hmem _ (List.mem_flatMap.mpr ⟨d, hd, by simp [toEdge]⟩)

/-- **A node is external exactly when it is not a known service.** -/
theorem isExternal_of_mem_nodes (h : buildTopology (some deps) (some services) = some t)
    {n : TopologyNode} (hn : n ∈ t.nodes) : n.isExternal = true ↔ n.id ∉ services := by
  have hk := lookup_of_mem_nodes h hn
  rw [lookup_buildNodeSet] at hk
  split_ifs at hk with h₁ <;> rw [← Option.some.inj hk] <;>
    simp [serviceNode, externalNode, h₁]

/-- **An edge's error rate is a rate** when its link counts no more errors than calls. -/
theorem errorRate_mem_of_mem_edges (h : buildTopology (some deps) (some services) = some t)
    {e : TopologyEdge} (he : e ∈ t.edges) (hle : ∀ d ∈ deps, d.errorCount ≤ d.callCount) :
    0 ≤ e.errorRate ∧ e.errorRate ≤ 1 := by
  rw [(buildTopology_eq h).2] at he
  obtain ⟨d, hd, rfl⟩ := List.mem_map.mp he
  exact ratio_mem (hle d hd)

/-- **No node is external** when every name a link mentions is a known service. -/
theorem isExternal_eq_false_of_endpoints (h : buildTopology (some deps) (some services) = some t)
    (hsub : ∀ k ∈ endpoints deps, k ∈ services) {n : TopologyNode} (hn : n ∈ t.nodes) :
    n.isExternal = false := by
  have hk := lookup_of_mem_nodes h hn
  rw [lookup_buildNodeSet] at hk
  split_ifs at hk with hs he
  · rw [← Option.some.inj hk]
    rfl
  · exact absurd (hsub _ he) hs

end Built

end Api
end Nefi
