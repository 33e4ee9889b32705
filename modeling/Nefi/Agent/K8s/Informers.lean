import Nefi.Agent.K8s.Cache

/-!
# The identity cache under its informers

`Start` registers the cache's callbacks on two informers: `onPodAdd` for a pod's add and update
and `onPodDelete` for its delete on the pod informer, `onEndpointSliceUpdate` for a slice's add
and update and `onEndpointSliceDelete` for its delete on the `EndpointSlice` informer.  Each
informer runs its callbacks one at a time, and the two informers run concurrently.

This module looks at the cache at two grains.

* **Callbacks.**  `Cache.handle` runs the callback of one `InformerEvent` to completion.  Against
  it stands `Cluster`, the state of the cluster the events describe: the current pods and slices.
  `ip_reuse_forgets_pod` is an event sequence after which a current pod's IP is unknown to the
  cache: a new pod takes over an IP before the delete of the pod that had it arrives, and the
  delete removes the new pod's row.
* **Critical sections.**  `Section` splits `onPodAdd` into its read-locked lookup of the service
  and its write-locked store, and keeps every slice callback whole.  `read_write_eq_onPodAdd` says
  that the sections back to back are `onPodAdd`.  `slice_update_lost` is an interleaving in
  which a slice callback runs between them: the row is stored with the service read before the
  slice named the pod, and disagrees with `podToServices` once all callbacks have completed.

What does hold at both grains is that every row is stored under its own IP (`Cache.Keyed`):
`keyed_foldl_handle` for every sequence of callbacks, `lookup_ip_of_run` for every interleaving
of their sections.  So the row that `enrichEndpoint` copies for an IP is always a row of that
IP.
-/

namespace Nefi
namespace K8s

/-- An informer notification: the object's new state for an add or an update, its last state
for a delete. -/
inductive InformerEvent
  | podAdd (pod : Pod)
  | podUpdate (pod : Pod)
  | podDelete (pod : Pod)
  | sliceAdd (eps : EndpointSlice)
  | sliceUpdate (eps : EndpointSlice)
  | sliceDelete (eps : EndpointSlice)

namespace Cache

/-- The callback `Start` registers for an event, run to completion. -/
def handle (owners : ReplicaSetOwners) (c : Cache) : InformerEvent → Cache
  | .podAdd pod | .podUpdate pod => c.onPodAdd owners pod
  | .podDelete pod => c.onPodDelete pod
  | .sliceAdd eps | .sliceUpdate eps => c.onEndpointSliceUpdate eps
  | .sliceDelete eps => c.onEndpointSliceDelete eps

end Cache

/-- A pod's namespace and name, which the cluster knows it by. -/
def Pod.key (p : Pod) : GoString × GoString := (p.«namespace», p.name)

/-- A slice's namespace and name. -/
def EndpointSlice.key (eps : EndpointSlice) : GoString × GoString := (eps.«namespace», eps.name)

/-- The abstract state the informer events describe: the cluster's current pods and slices, which
the cache is proved to follow. -/
structure Cluster where
  pods : List Pod
  slices : List EndpointSlice
  deriving DecidableEq

namespace Cluster

/-- The cluster after an event: an add or update replaces the object of its name, a delete removes
it. -/
def apply (cl : Cluster) : InformerEvent → Cluster
  | .podAdd pod | .podUpdate pod => { cl with pods := cl.pods.filter (·.key != pod.key) ++ [pod] }
  | .podDelete pod => { cl with pods := cl.pods.filter (·.key != pod.key) }
  | .sliceAdd eps | .sliceUpdate eps =>
    { cl with slices := cl.slices.filter (·.key != eps.key) ++ [eps] }
  | .sliceDelete eps => { cl with slices := cl.slices.filter (·.key != eps.key) }

end Cluster

/-! ## An IP taken over before the old pod's delete -/

/-- Pod `a` of `default`, at `10.0.0.5`. -/
def podA : Pod := { «namespace» := "default", name := "a", podIP := "10.0.0.5" }

/-- Pod `b` of `default`, which gets the IP of `a` before the delete of `a` arrives. -/
def podB : Pod := { «namespace» := "default", name := "b", podIP := "10.0.0.5" }

/-- `a` is added, `b` is added with the same IP, and the delete of `a` arrives last. -/
def ipReuseEvents : List InformerEvent := [.podAdd podA, .podAdd podB, .podDelete podA]

/-- After `ipReuseEvents`, whatever the API server answers, `b` is the one current pod, at
`10.0.0.5`, and the cache knows nothing of `10.0.0.5`. -/
theorem ip_reuse_forgets_pod (owners : ReplicaSetOwners) :
    (ipReuseEvents.foldl Cluster.apply ⟨[], []⟩).pods = [podB] ∧ podB.podIP = "10.0.0.5" ∧
      (ipReuseEvents.foldl (Cache.handle owners) Cache.empty).lookup "10.0.0.5" = none :=
  ⟨by decide, rfl, AList.lookup_erase _ _⟩

/-! ## Critical sections -/

/-- A critical section of a callback: the two of `onPodAdd`, or a whole other callback. -/
inductive Section
  | podAddRead (pod : Pod)
  | podAddWrite
  | podDelete (pod : Pod)
  | sliceUpdate (eps : EndpointSlice)
  | sliceDelete (eps : EndpointSlice)

/-- The cache, and the row the pod informer's `onPodAdd` has read and not yet stored. -/
structure Callbacks where
  cache : Cache
  pending : Option (GoString × Endpoint)

namespace Callbacks

/-- One critical section.  The pod informer runs one callback at a time, so its sections wait for
a pending row to be stored; the slice informer's run at any time. -/
def step (owners : ReplicaSetOwners) (s : Callbacks) : Section → Option Callbacks
  | .podAddRead pod =>
    if s.pending.isSome then none else some { s with pending := s.cache.podAddRow owners pod }
  | .podAddWrite => s.pending.map fun row => ⟨s.cache.storeRow row, none⟩
  | .podDelete pod =>
    if s.pending.isSome then none else some { s with cache := s.cache.onPodDelete pod }
  | .sliceUpdate eps => some { s with cache := s.cache.onEndpointSliceUpdate eps }
  | .sliceDelete eps => some { s with cache := s.cache.onEndpointSliceDelete eps }

/-- The sections of a list, in order; `none` when one cannot run. -/
def run (owners : ReplicaSetOwners) : Callbacks → List Section → Option Callbacks
  | s, [] => some s
  | s, sec :: secs => (s.step owners sec).bind fun s' => run owners s' secs

/-- **The sections of `onPodAdd`, back to back, are `onPodAdd`**: the read, and the write when
the pod has an IP. -/
theorem read_write_eq_onPodAdd (owners : ReplicaSetOwners) (c : Cache) (pod : Pod) :
    (⟨c, none⟩ : Callbacks).run owners
        (.podAddRead pod :: if pod.podIP = [] then [] else [.podAddWrite]) =
      some ⟨c.onPodAdd owners pod, none⟩ := by
  by_cases h : pod.podIP = []
  · simp [run, step, Cache.onPodAdd, Cache.podAddRow, h]
  · obtain ⟨row, hrow⟩ : ∃ row, c.podAddRow owners pod = some row := by
      simp [Cache.podAddRow, h]
    simp [run, step, Cache.onPodAdd, hrow, h]

end Callbacks

/-- Pod `p` of `default`, at `10.0.0.5`. -/
def podP : Pod := { «namespace» := "default", name := "p", podIP := "10.0.0.5" }

/-- The slice of service `api`, with one endpoint: `p` at its IP. -/
def apiSlice : EndpointSlice :=
  { «namespace» := "default", name := "api-7x2kq", serviceName := "api"
    endpoints := [{ addresses := ["10.0.0.5"], targetRef := some ⟨"Pod", "p"⟩ }] }

/-- `onPodAdd` of `p` reads no service, the slice callback names `p` for `api` while no row of
`10.0.0.5` exists yet, and the row is then stored with the service read before.  Once both
callbacks have completed, `podToServices` gives `api` for `p` and `p`'s row has no service. -/
theorem slice_update_lost (owners : ReplicaSetOwners) :
    ∃ s : Callbacks,
      (⟨Cache.empty, none⟩ : Callbacks).run owners
          [.podAddRead podP, .sliceUpdate apiSlice, .podAddWrite] = some s ∧
        s.pending = none ∧ (s.cache.lookup "10.0.0.5").map (·.service) = some [] ∧
        s.cache.lookupServiceForPod "default" "p" = "api" :=
  ⟨_, rfl, rfl, rfl, rfl⟩

/-! ## Every row under its own IP

However the callbacks are ordered and their critical sections interleaved, `Lookup` returns for an
IP a row of that IP: `onPodAdd` stores a pod's row under the pod's own IP, and the slice callbacks
only change the service of rows already there. -/

namespace Cache

/-- Every row of a map of rows is stored under its own IP. -/
def Keyed (endpoints : AList fun _ : GoString => Endpoint) : Prop :=
  ∀ ip row, endpoints.lookup ip = some row → row.ip = ip

section Keyed

variable {endpoints : AList fun _ : GoString => Endpoint}

theorem keyed_empty : Keyed ∅ := fun ip row h => by simp at h

theorem Keyed.insert (h : Keyed endpoints) {row : GoString × Endpoint} (hrow : row.2.ip = row.1) :
    Keyed (endpoints.insert row.1 row.2) := by
  intro ip e he
  rcases eq_or_ne ip row.1 with rfl | hne
  · rw [AList.lookup_insert, Option.some.injEq] at he
    exact he ▸ hrow
  · rw [AList.lookup_insert_ne hne] at he
    exact h ip e he

theorem Keyed.erase (h : Keyed endpoints) (a : GoString) : Keyed (endpoints.erase a) := by
  intro ip e he
  rcases eq_or_ne ip a with rfl | hne
  · simp [AList.lookup_erase] at he
  · rw [AList.lookup_erase_ne hne] at he
    exact h ip e he

theorem Keyed.setService (h : Keyed endpoints) (svc addr : GoString) :
    Keyed (setService svc endpoints addr) := by
  intro ip e he
  rw [lookup_setService] at he
  split at he
  · subst ip
    obtain ⟨e₀, h₀, rfl⟩ := Option.map_eq_some'.mp he
    exact h addr e₀ h₀
  · exact h ip e he

end Keyed

/-- The row `onPodAdd` reads is stored under its own IP. -/
theorem podAddRow_keyed {owners : ReplicaSetOwners} {c : Cache} {pod : Pod}
    {row : GoString × Endpoint} (h : c.podAddRow owners pod = some row) : row.2.ip = row.1 := by
  unfold podAddRow at h
  split at h
  · cases h
  · cases h
    rfl

variable {c : Cache}

theorem Keyed.onPodAdd (h : Keyed c.endpoints) (owners : ReplicaSetOwners) (pod : Pod) :
    Keyed (c.onPodAdd owners pod).endpoints := by
  unfold Cache.onPodAdd
  cases hr : c.podAddRow owners pod with
  | none => exact h
  | some row => exact h.insert (podAddRow_keyed hr)

theorem Keyed.onPodDelete (h : Keyed c.endpoints) (pod : Pod) :
    Keyed (c.onPodDelete pod).endpoints := by
  unfold Cache.onPodDelete
  split
  · exact h
  · exact h.erase _

theorem Keyed.onEndpointSliceUpdate (h : Keyed c.endpoints) (eps : EndpointSlice) :
    Keyed (c.onEndpointSliceUpdate eps).endpoints := by
  unfold Cache.onEndpointSliceUpdate
  split
  · exact h
  · refine List.foldlRecOn (motive := fun c : Cache => Keyed c.endpoints) _ _ _ h
      fun c hc ep _ => ?_
    exact List.foldlRecOn _ _ _ hc fun _ hb _ _ => hb.setService _ _

theorem Keyed.onEndpointSliceDelete (h : Keyed c.endpoints) (eps : EndpointSlice) :
    Keyed (c.onEndpointSliceDelete eps).endpoints := by
  refine List.foldlRecOn (motive := fun c : Cache => Keyed c.endpoints) _ _ _ h fun c hc ep _ => ?_
  exact List.foldlRecOn _ _ _ hc fun _ hb _ _ => hb.setService _ _

/-- Every callback keeps every row under its own IP. -/
theorem Keyed.handle (h : Keyed c.endpoints) (owners : ReplicaSetOwners) (ev : InformerEvent) :
    Keyed (c.handle owners ev).endpoints := by
  cases ev with
  | podAdd pod => exact h.onPodAdd owners pod
  | podUpdate pod => exact h.onPodAdd owners pod
  | podDelete pod => exact h.onPodDelete pod
  | sliceAdd eps => exact h.onEndpointSliceUpdate eps
  | sliceUpdate eps => exact h.onEndpointSliceUpdate eps
  | sliceDelete eps => exact h.onEndpointSliceDelete eps

/-- After every sequence of informer events, from `NewCache`, every row is under its own IP. -/
theorem keyed_foldl_handle (owners : ReplicaSetOwners) (evs : List InformerEvent) :
    Keyed (evs.foldl (handle owners) empty).endpoints :=
  List.foldlRecOn (motive := fun c : Cache => Keyed c.endpoints) _ _ _ keyed_empty
    fun _ hc ev _ => hc.handle owners ev

end Cache

namespace Callbacks

/-- The rows of the cache, and the row read and not yet stored, are under their own IPs. -/
structure Inv (s : Callbacks) : Prop where
  keyed : Cache.Keyed s.cache.endpoints
  pending : ∀ row ∈ s.pending, row.2.ip = row.1

variable {owners : ReplicaSetOwners} {s s' : Callbacks}

theorem Inv.step (h : s.Inv) {sec : Section} (hs : s.step owners sec = some s') : s'.Inv := by
  cases sec with
  | podAddRead pod =>
    simp only [Callbacks.step, Option.ite_none_left_eq_some, Option.some.injEq] at hs
    obtain ⟨-, rfl⟩ := hs
    exact ⟨h.keyed, fun _ hr => Cache.podAddRow_keyed hr⟩
  | podAddWrite =>
    obtain ⟨row, hrow, rfl⟩ := Option.map_eq_some'.mp hs
    exact ⟨h.keyed.insert (h.pending row hrow), fun _ h => (Option.not_mem_none _ h).elim⟩
  | podDelete pod =>
    simp only [Callbacks.step, Option.ite_none_left_eq_some, Option.some.injEq] at hs
    obtain ⟨-, rfl⟩ := hs
    exact ⟨h.keyed.onPodDelete pod, h.pending⟩
  | sliceUpdate eps =>
    cases hs
    exact ⟨h.keyed.onEndpointSliceUpdate eps, h.pending⟩
  | sliceDelete eps =>
    cases hs
    exact ⟨h.keyed.onEndpointSliceDelete eps, h.pending⟩

theorem Inv.run (h : s.Inv) {secs : List Section} (hs : s.run owners secs = some s') :
    s'.Inv := by
  induction secs generalizing s with
  | nil => exact Option.some.inj hs ▸ h
  | cons sec secs ih =>
    obtain ⟨s₁, h₁, h₂⟩ := Option.bind_eq_some.mp hs
    exact ih (h.step h₁) h₂

/-- **Under every interleaving of the callbacks' critical sections**, from `NewCache`, `Lookup`
returns for an IP a row of that IP. -/
theorem lookup_ip_of_run {secs : List Section}
    (hs : (⟨Cache.empty, none⟩ : Callbacks).run owners secs = some s) {ip : GoString} {row : Endpoint} (h : s.cache.lookup ip = some row) : row.ip = ip :=
  (Inv.run ⟨Cache.keyed_empty, fun _ h => (Option.not_mem_none _ h).elim⟩ hs).keyed ip row h

end Callbacks

end K8s
end Nefi
