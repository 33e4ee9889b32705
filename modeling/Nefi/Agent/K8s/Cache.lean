import Nefi.Model.Event
import Mathlib.Data.List.AList

/-!
# The identity cache of `internal/agent/k8s/cache.go`

The agent resolves an IP to the pod behind it through `Cache`, which keeps two maps under one
`sync.RWMutex`:

* `endpoints`, from a pod IP to the `model.Endpoint` row of that pod, and
* `podToServices`, from a pod key `namespace/name` to the service whose `EndpointSlice` last
  named the pod.

Two informers write them.  The pod informer calls `onPodAdd` for an added or updated pod and
`onPodDelete` for a deleted one; the `EndpointSlice` informer calls `onEndpointSliceUpdate` and
`onEndpointSliceDelete`.  `Lookup` reads a row under the read lock and returns a copy.

`onPodAdd` is the one callback with two critical sections: it resolves the pod's workload (which
may call the API server) and reads the pod's service under the read lock, and only then stores
the row under the write lock.  The model keeps the two apart: `podAddRow` is everything up to the
read, `storeRow` is the write, and `onPodAdd` runs them back to back.

## What is modelled

Go's map of pointers becomes an `AList` of values.  Each row is stored under one IP and only ever
reached through that IP, so an update through the pointer is an update of the value at that key.
A callback receives a typed object; the tombstone that a delete may carry wraps the object's last
known state and is unwrapped to the same object.  Of an `EndpointSlice`'s labels only the
service-name label is read, so the model keeps only its value (empty when absent).  The
ReplicaSet lookup of `resolveReplicaSetOwner` asks the API server, whose answer is a parameter
(`ReplicaSetOwners`): the owners of the named ReplicaSet, or `none` when the request fails.

## Workload names

`stripReplicaSetHash_split` says what the fallback name of a standalone ReplicaSet is: the name
split at its last `-` loses the token after it exactly when the part before is not empty and the
token has 5 to 16 bytes.  The source's comment asks for an alphanumeric token, but no byte of it
is read, so a version suffix such as `v1.2.0` is stripped too (`strips_dotted_suffix`).
-/

namespace Nefi
namespace K8s

/-- An owner reference of an object's metadata. -/
structure OwnerReference where
  kind : GoString
  name : GoString
  deriving DecidableEq, Repr

/-- The fields of a `corev1.Pod` that the cache reads. -/
structure Pod where
  «namespace» : GoString
  name : GoString
  podIP : GoString := []
  ownerReferences : List OwnerReference := []
  deriving DecidableEq, Repr

/-- The target reference of an endpoint of a slice. -/
structure ObjectReference where
  kind : GoString
  name : GoString
  deriving DecidableEq, Repr

/-- One endpoint of an `EndpointSlice`: its addresses and, optionally, the object behind it. -/
structure SliceEndpoint where
  addresses : List GoString := []
  targetRef : Option ObjectReference := none
  deriving DecidableEq, Repr

/-- The fields of a `discoveryv1.EndpointSlice` that the cache reads.  `serviceName` is the value
of the `kubernetes.io/service-name` label, empty when the label is absent. -/
structure EndpointSlice where
  «namespace» : GoString
  name : GoString
  serviceName : GoString
  endpoints : List SliceEndpoint
  deriving DecidableEq, Repr

/-- The answer of the API server to a ReplicaSet `Get`: its owner references, or `none` when the
request fails. -/
abbrev ReplicaSetOwners := GoString → GoString → Option (List OwnerReference)

/-- The two maps of `Cache`. -/
structure Cache where
  endpoints : AList fun _ : GoString => Endpoint
  podToServices : AList fun _ : GoString => GoString

namespace Cache

/-- `NewCache`: both maps empty. -/
def empty : Cache := ⟨∅, ∅⟩

/-- `Lookup`: a copy of the row of the IP, or `nil`. -/
def lookup (c : Cache) (ip : GoString) : Option Endpoint := c.endpoints.lookup ip

/-- The key of `podToServices`: `namespace + "/" + name`. -/
def podKey («namespace» name : GoString) : GoString := «namespace» ++ "/" ++ name

/-- `lookupServiceForPod`: the service recorded for the pod, `""` when there is none. -/
def lookupServiceForPod (c : Cache) («namespace» podName : GoString) : GoString :=
  (c.podToServices.lookup (podKey «namespace» podName)).getD []

end Cache

/-! ## Workloads -/

/-- `strings.LastIndex(s, sep)` for a one-byte separator: the index of its last occurrence, or
-1. -/
def lastIndexByte : GoString → UInt8 → Int
  | [], _ => -1
  | c :: cs, b =>
    let i := lastIndexByte cs b
    if 0 ≤ i then i + 1 else if c = b then 0 else -1

/-- `stripReplicaSetHash`: drop a last `-`-delimited token of 5 to 16 bytes. -/
def stripReplicaSetHash (name : GoString) : GoString :=
  let idx := lastIndexByte name '-'.toNat.toUInt8
  if idx ≤ 0 then name
  else
    let suffix := name.drop (idx.toNat + 1)
    if 5 ≤ suffix.length ∧ suffix.length ≤ 16 then name.take idx.toNat else name

/-- What `stripReplicaSetHash` returns is a prefix of its argument. -/
theorem stripReplicaSetHash_prefix (name : GoString) : stripReplicaSetHash name <+: name := by
  unfold stripReplicaSetHash
  dsimp only
  split
  · exact List.prefix_refl _
  · split
    · exact List.take_prefix _ _
    · exact List.prefix_refl _

example : stripReplicaSetHash "my-deploy-6b8f7c9d4" = "my-deploy" := by decide

theorem lastIndexByte_of_not_mem {s : GoString} {b : UInt8} (h : b ∉ s) : lastIndexByte s b = -1 := by
  induction s with
  | nil => rfl
  | cons c s ih =>
    rw [List.mem_cons, not_or] at h
    simp [lastIndexByte, ih h.2, Ne.symm h.1]

/-- `strings.LastIndex` finds the separator that no later byte repeats. -/
theorem lastIndexByte_append_cons {pre suf : GoString} {b : UInt8} (h : b ∉ suf) :
    lastIndexByte (pre ++ b :: suf) b = pre.length := by
  induction pre with
  | nil => simp [lastIndexByte, lastIndexByte_of_not_mem h]
  | cons c pre ih =>
    rw [List.cons_append]
    simp only [lastIndexByte, ih, if_pos (Int.ofNat_nonneg _), List.length_cons]
    omega

/-- A name without `-` is returned as it is. -/
theorem stripReplicaSetHash_of_not_mem {name : GoString} (h : '-'.toNat.toUInt8 ∉ name) :
    stripReplicaSetHash name = name := by
  simp only [stripReplicaSetHash, lastIndexByte_of_not_mem h]
  rfl

/-- **What `stripReplicaSetHash` does with a name split at its last `-`**: it returns the part
before the `-` when that part is not empty and the token after it has 5 to 16 bytes, whatever
those bytes are, and the name unchanged otherwise. -/
theorem stripReplicaSetHash_split (pre suf : GoString) (h : '-'.toNat.toUInt8 ∉ suf) :
    stripReplicaSetHash (pre ++ '-'.toNat.toUInt8 :: suf) =
      if pre ≠ [] ∧ 5 ≤ suf.length ∧ suf.length ≤ 16 then pre
      else pre ++ '-'.toNat.toUInt8 :: suf := by
  have hdrop : (pre ++ '-'.toNat.toUInt8 :: suf).drop (pre.length + 1) = suf := by
    rw [List.drop_append]
    rfl
  simp only [stripReplicaSetHash, lastIndexByte_append_cons h, Int.toNat_natCast, hdrop,
    List.take_left, Int.natCast_nonpos_iff, List.length_eq_zero, ne_eq]
  by_cases hpre : pre = [] <;> simp [hpre]

/-- The spec's hash: a token of 5 to 16 ASCII letters and digits. -/
def isHashToken (token : GoString) : Bool :=
  5 ≤ token.length && token.length ≤ 16 && token.all fun c => (Char.ofNat c.toNat).isAlphanum

/-- A standalone ReplicaSet named after a version loses the version: its last token is not a
hash, and it is stripped all the same. -/
theorem strips_dotted_suffix :
    isHashToken "v1.2.0" = false ∧ stripReplicaSetHash "frontend-v1.2.0" = "frontend" := by
  decide

/-- `resolveReplicaSetOwner`: the name of the first `Deployment` owner of the ReplicaSet, `""` if
it has none or the request fails. -/
def resolveReplicaSetOwner (owners : ReplicaSetOwners) («namespace» rsName : GoString) :
    GoString :=
  match owners «namespace» rsName with
  | none => []
  | some refs =>
    ((refs.find? fun ref => ref.kind = ("Deployment" : GoString)).map (·.name)).getD []

/-- `resolveWorkload`: the workload name and kind from the pod's first owner reference. -/
def resolveWorkload (owners : ReplicaSetOwners) (pod : Pod) : GoString × GoString :=
  match pod.ownerReferences with
  | [] => (pod.name, "Pod")
  | owner :: _ =>
    if owner.kind = ("ReplicaSet" : GoString) then
      let deployName := resolveReplicaSetOwner owners pod.«namespace» owner.name
      if deployName ≠ [] then (deployName, "Deployment")
      else (stripReplicaSetHash owner.name, "ReplicaSet")
    else if owner.kind = ("StatefulSet" : GoString) then (owner.name, "StatefulSet")
    else if owner.kind = ("DaemonSet" : GoString) then (owner.name, "DaemonSet")
    else if owner.kind = ("Job" : GoString) then (owner.name, "Job")
    else (owner.name, owner.kind)

/-! ## Callbacks -/

namespace Cache

/-- `onPodAdd` up to its read-locked section: the row it will store and the IP it stores it
under, with the service read from `podToServices`; `none` for a pod without an IP. -/
def podAddRow (owners : ReplicaSetOwners) (c : Cache) (pod : Pod) : Option (GoString × Endpoint) :=
  if pod.podIP = [] then none
  else
    let (workload, workloadType) := resolveWorkload owners pod
    let svcName := c.lookupServiceForPod pod.«namespace» pod.name
    some (pod.podIP,
      { ip := pod.podIP
        pod := pod.name
        «namespace» := pod.«namespace»
        workload := workload
        workloadType := workloadType
        service := svcName })

/-- The write-locked section of `onPodAdd`: store the row. -/
def storeRow (c : Cache) (row : GoString × Endpoint) : Cache :=
  { c with endpoints := c.endpoints.insert row.1 row.2 }

/-- `onPodAdd`, both sections back to back. -/
def onPodAdd (owners : ReplicaSetOwners) (c : Cache) (pod : Pod) : Cache :=
  match c.podAddRow owners pod with
  | none => c
  | some row => c.storeRow row

/-- `onPodDelete`: remove the row of the pod's IP. -/
def onPodDelete (c : Cache) (pod : Pod) : Cache :=
  if pod.podIP = [] then c else { c with endpoints := c.endpoints.erase pod.podIP }

/-- `existing.Service = svc` for the row of `addr`, if there is one. -/
def setService (svc : GoString) (endpoints : AList fun _ : GoString => Endpoint)
    (addr : GoString) : AList fun _ : GoString => Endpoint :=
  match endpoints.lookup addr with
  | some existing => endpoints.replace addr { existing with service := svc }
  | none => endpoints

theorem dlookup_kreplace (a k : GoString) (b : Endpoint) :
    ∀ l : List (Σ _ : GoString, Endpoint),
      (l.kreplace a b).dlookup k = if k = a ∧ a ∈ l.keys then some b else l.dlookup k
  | [] => by simp [List.kreplace]
  | ⟨a', b'⟩ :: l => by
    by_cases h : a = a'
    · subst h
      rw [List.kreplace, List.lookmap_cons_some _ l (show _ = some ⟨a, b⟩ by simp)]
      rcases eq_or_ne k a with rfl | hk <;> simp [*]
    · rw [List.kreplace, List.lookmap_cons_none _ _ (by simp [h]), ← List.kreplace]
      by_cases hk : k = a'
      · subst hk
        simp [Ne.symm h]
      · simp [dlookup_kreplace a k b l, hk, h]

/-- `setService` changes the service of the row of `addr`, if there is one, and nothing else. -/
theorem lookup_setService (svc : GoString) (endpoints : AList fun _ : GoString => Endpoint)
    (addr k : GoString) :
    (setService svc endpoints addr).lookup k =
      if k = addr then (endpoints.lookup addr).map ({ · with service := svc })
      else endpoints.lookup k := by
  unfold setService
  cases h : endpoints.lookup addr with
  | none => rcases eq_or_ne k addr with rfl | hk <;> simp [*]
  | some e =>
    have hmem : addr ∈ endpoints.entries.keys := AList.lookup_isSome.mp (by simp [h])
    by_cases hk : k = addr <;> simp [AList.lookup, AList.replace, dlookup_kreplace, hk, hmem]

/-- The body of the loop of `onEndpointSliceUpdate` for one endpoint of a slice of `namespace`
whose service is `svc`. -/
def sliceEndpointUpdate («namespace» svc : GoString) (c : Cache) (ep : SliceEndpoint) : Cache :=
  { podToServices :=
      match ep.targetRef with
      | some ref =>
        if ref.kind = ("Pod" : GoString) then c.podToServices.insert (podKey «namespace» ref.name) svc
        else c.podToServices
      | none => c.podToServices
    endpoints := ep.addresses.foldl (setService svc) c.endpoints }

/-- `onEndpointSliceUpdate`: nothing for a slice without a service name. -/
def onEndpointSliceUpdate (c : Cache) (eps : EndpointSlice) : Cache :=
  if eps.serviceName = [] then c
  else eps.endpoints.foldl (sliceEndpointUpdate eps.«namespace» eps.serviceName) c

/-- The body of the loop of `onEndpointSliceDelete` for one endpoint. -/
def sliceEndpointDelete («namespace» : GoString) (c : Cache) (ep : SliceEndpoint) : Cache :=
  { podToServices :=
      match ep.targetRef with
      | some ref =>
        if ref.kind = ("Pod" : GoString) then c.podToServices.erase (podKey «namespace» ref.name)
        else c.podToServices
      | none => c.podToServices
    endpoints := ep.addresses.foldl (setService []) c.endpoints }

/-- `onEndpointSliceDelete`.  Unlike the update it does not look at the service name. -/
def onEndpointSliceDelete (c : Cache) (eps : EndpointSlice) : Cache :=
  eps.endpoints.foldl (sliceEndpointDelete eps.«namespace») c

end Cache

end K8s
end Nefi
