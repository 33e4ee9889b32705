import Nefi.Agent.Ebpf.Lifecycle

/-!
# What `Loader.Start` opens, and what it closes before it returns

`Start` loads the eBPF specs, and for each spec creates a collection, attaches the collection's
programs named in `attachMap` and opens a perf reader on `conn_events` and on `http_events`, each
the first time a collection has the map.  Every step of this may fail and is then skipped with a
warning.  Then `Start` returns by one of four paths:

* `loadSpecs` fails, or finds no object file: nothing has been opened yet;
* no perf reader could be opened: `Start` returns the error at once, **without `Close`**;
* otherwise it launches the decode loops, blocks until `ctx` is done, and calls `Close`, which
  closes the links, the perf readers and the collections, and then the events channel.

## What is modelled

A kernel object is a `Resource`, named by the path of its spec and, for a link or a reader, by its
program or map.  What the object file and the kernel decide for one spec is a parameter: whether
the collection is created (`none` when `NewCollection` fails), its programs and maps, and which
attach calls and `perf.NewReader` calls fail (`CollectionOutcome`).  The specs are a list in the
order the `for ... range` visits them, which Go leaves unspecified; every result holds for every
order.  `Resources` is the part of `Loader` that holds kernel objects, with two ghost ledgers,
`opened` and `closed`, recording what `Start` opened and what has been closed.

Between `<-ctx.Done()` returning and `Close` nothing opens or closes a kernel object (the decode
loops only read, see `Lifecycle`), so the return after cancellation is `Close` applied to the state
the loading loop leaves.  The hooks' groups and names, the logger and the map sizes are only passed
to the kernel and are left out.

## Results

* `Loading.loadSpecs`: while `Start` loads, its fields hold exactly what it opened, and nothing is
  closed.  One lemma per step of the loop (`Loading.attachOne`, `Loading.openReader`,
  `Loading.loadSpec`) and one induction over the specs.
* `start_cancelled_closes_opened`: after cancellation every object `Start` opened is closed.
* `start_opened_eq_nil`: when spec loading fails or finds nothing, `Start` opened nothing.
* `start_noPerfBuffers_closes_nothing`: when no perf reader opens, `Start` returns with every
  collection and link it opened still open;
  `start_leaks_without_perf_buffers` is that path for a single object file with one kprobe.
-/

namespace Nefi
namespace Ebpf

/-- A kernel object `Start` opens: the collection of a spec (named by the spec's path), a link of
one of its programs to the program's hook, or a perf reader on one of its maps. -/
inductive Resource where
  | collection (path : GoString)
  | link (path progName : GoString)
  | perfReader (path mapName : GoString)
  deriving DecidableEq, Repr

/-- `programAttach`, without the hook's group and name, which only the kernel reads. -/
structure ProgramAttach where
  progName : GoString
  attachType : GoString

/-- `attachMap`. -/
def attachMap : List ProgramAttach :=
  [⟨"trace_inet_sock_set_state", "tracepoint"⟩, ⟨"trace_tcp_retransmit", "tracepoint"⟩,
    ⟨"trace_tcp_sendmsg", "kprobe"⟩, ⟨"trace_tcp_recvmsg_enter", "kprobe"⟩,
    ⟨"trace_tcp_recvmsg_exit", "kretprobe"⟩, ⟨"trace_udp_sendmsg", "kprobe"⟩]

/-- The cases of the `switch a.attachType` in `attachPrograms` that attach; any other type is
skipped with a warning. -/
def knownAttachType (t : GoString) : Bool :=
  t = ("tracepoint" : GoString) || t = ("kprobe" : GoString) || t = ("kretprobe" : GoString)

/-- What the object file and the kernel decide for a spec whose collection `NewCollection`
creates: the collection's programs and maps by name, the programs whose attach call fails and the
maps on which `perf.NewReader` fails. -/
structure CollectionOutcome where
  programs : List GoString
  attachFails : List GoString := []
  maps : List GoString := []
  readerFails : List GoString := []
  deriving DecidableEq, Repr

/-- The map a decode loop's perf reader is opened on. -/
def Reader.mapName : Reader → GoString
  | .conn => "conn_events"
  | .http => "http_events"

/-- The fields of `Loader` that hold kernel objects and the events channel's state, with two
ghost ledgers: every object `Start` opened and every object closed, in order. -/
structure Resources where
  collections : List Resource := []
  links : List Resource := []
  connPerf : Option Resource := none
  httpPerf : Option Resource := none
  eventsClosed : Bool := false
  opened : List Resource := []
  closed : List Resource := []
  deriving DecidableEq, Repr

namespace Resources

/-- A decode loop's perf reader field. -/
def perf (l : Resources) : Reader → Option Resource
  | .conn => l.connPerf
  | .http => l.httpPerf

/-- Store a reader in a decode loop's field. -/
def setPerf (l : Resources) : Reader → Resource → Resources
  | .conn, p => { l with connPerf := some p }
  | .http, p => { l with httpPerf := some p }

/-- Everything the fields hold. -/
def held (l : Resources) : List Resource :=
  l.collections ++ l.links ++ l.connPerf.toList ++ l.httpPerf.toList

@[simp] theorem mem_held {l : Resources} {r : Resource} :
    r ∈ l.held ↔ r ∈ l.collections ∨ r ∈ l.links ∨ l.connPerf = some r ∨ l.httpPerf = some r := by
  simp [held, or_assoc, eq_comm]

/-- Record an opened object. -/
def record (l : Resources) (r : Resource) : Resources := { l with opened := l.opened ++ [r] }

/-- The body of `attachPrograms`'s loop for one entry of `attachMap`: a program the collection
lacks, an unknown attach type and a failed attach are skipped; otherwise the link is kept. -/
def attachOne (path : GoString) (out : CollectionOutcome) (l : Resources) (a : ProgramAttach) :
    Resources :=
  if a.progName ∉ out.programs then l
  else if !knownAttachType a.attachType then l
  else if a.progName ∈ out.attachFails then l
  else
    let lnk := Resource.link path a.progName
    { l.record lnk with links := l.links ++ [lnk] }

/-- `attachPrograms`. -/
def attachPrograms (path : GoString) (out : CollectionOutcome) (l : Resources) : Resources :=
  attachMap.foldl (attachOne path out) l

/-- `if m := coll.Maps[name]; m != nil && l.xPerf == nil { reader, err := perf.NewReader(...) }`,
for either decode loop's map: on an error the field stays empty. -/
def openReader (path : GoString) (out : CollectionOutcome) (l : Resources) (r : Reader) :
    Resources :=
  if r.mapName ∈ out.maps ∧ l.perf r = none ∧ r.mapName ∉ out.readerFails then
    let rd := Resource.perfReader path r.mapName
    (l.record rd).setPerf r rd
  else l

/-- One iteration of `Start`'s loop over the specs: `NewCollection` (its outcome `none` when it
fails and the spec is skipped), `attachPrograms` and the two perf readers. -/
def loadSpec (l : Resources) : GoString × Option CollectionOutcome → Resources
  | (_, none) => l
  | (path, some out) =>
    let coll := Resource.collection path
    let l := { l.record coll with collections := l.collections ++ [coll] }
    ((l.attachPrograms path out).openReader path out .conn).openReader path out .http

/-- `Close`: the links, the two perf readers and the collections, then `close(l.events)`. -/
def close (l : Resources) : Resources :=
  { l with
    closed := l.closed ++ l.links ++ l.connPerf.toList ++ l.httpPerf.toList ++ l.collections
    eventsClosed := true }

@[simp] theorem opened_close (l : Resources) : l.close.opened = l.opened := rfl

@[simp] theorem mem_closed_close {l : Resources} {r : Resource} :
    r ∈ l.close.closed ↔ r ∈ l.closed ∨ r ∈ l.held := by
  simp only [close, held, List.mem_append]
  simp only [or_assoc, or_comm, or_left_comm]

end Resources

/-- How `Start` returns. -/
inductive StartReturn where
  /-- `loadSpecs` failed. -/
  | loadSpecsFailed
  /-- `loadSpecs` found no object file. -/
  | noObjectFiles
  /-- No perf reader could be opened. -/
  | noPerfBuffers
  /-- `ctx` was cancelled, after `Close`. -/
  | cancelled
  deriving DecidableEq, Repr

open Resources in
/-- `Start`, from what `loadSpecs` returns (`none` for its error) to the return, with the state of
the loader's objects at that point.  The `cancelled` path is taken once `ctx` is done. -/
def start : Option (List (GoString × Option CollectionOutcome)) → StartReturn × Resources
  | none => (.loadSpecsFailed, {})
  | some [] => (.noObjectFiles, {})
  | some specs =>
    let l := specs.foldl loadSpec {}
    if l.connPerf = none ∧ l.httpPerf = none then (.noPerfBuffers, l) else (.cancelled, l.close)

/-! ## The loading loop -/

namespace Resources

/-- What holds while `Start` loads: the fields hold exactly what it opened, and nothing is
closed. -/
structure Loading (l : Resources) : Prop where
  mem_opened : ∀ r, r ∈ l.opened ↔ r ∈ l.held
  closed_eq : l.closed = []

theorem loading_empty : Loading {} := ⟨fun _ => by simp [held], rfl⟩

theorem Loading.attachOne {l : Resources} (h : Loading l) (path : GoString) (out : CollectionOutcome)
    (a : ProgramAttach) : Loading (Resources.attachOne path out l a) := by
  unfold Resources.attachOne
  split_ifs <;> try exact h
  refine ⟨fun r => ?_, h.closed_eq⟩
  simp only [record, mem_held, List.mem_append, List.mem_singleton, h.mem_opened r]
  simp only [or_assoc, or_comm, or_left_comm]

theorem Loading.attachPrograms {l : Resources} (h : Loading l) (path : GoString)
    (out : CollectionOutcome) : Loading (Resources.attachPrograms path out l) := by
  unfold Resources.attachPrograms
  induction attachMap generalizing l with
  | nil => exact h
  | cons a as ih => exact ih (h.attachOne path out a)

theorem Loading.openReader {l : Resources} (h : Loading l) (path : GoString)
    (out : CollectionOutcome) (rd : Reader) : Loading (Resources.openReader path out l rd) := by
  unfold Resources.openReader
  split_ifs with hm
  · have hnone := hm.2.1
    cases rd <;> refine ⟨fun r => ?_, h.closed_eq⟩ <;>
      simp only [perf, setPerf, record, mem_held, List.mem_append, List.mem_singleton,
        h.mem_opened r] at hnone ⊢ <;>
      simp only [hnone, Option.some.injEq, reduceCtorEq, false_or, or_false] <;>
      simp only [or_assoc, or_comm, or_left_comm, eq_comm]
  · exact h

theorem Loading.loadSpec {l : Resources} (h : Loading l) :
    ∀ s, Loading (Resources.loadSpec l s)
  | (_, none) => h
  | (path, some out) => by
    have hc : Loading { l.record (.collection path) with
        collections := l.collections ++ [.collection path] } := by
      refine ⟨fun r => ?_, h.closed_eq⟩
      simp only [record, mem_held, List.mem_append, List.mem_singleton, h.mem_opened r]
      simp only [or_assoc, or_comm, or_left_comm]
    exact ((hc.attachPrograms path out).openReader path out .conn).openReader path out .http

/-- **The loading loop keeps every object it opens in a field and closes none.** -/
theorem Loading.loadSpecs (specs : List (GoString × Option CollectionOutcome)) :
    Loading (specs.foldl Resources.loadSpec {}) := by
  suffices ∀ l, Loading l → Loading (specs.foldl Resources.loadSpec l) from this _ loading_empty
  induction specs with
  | nil => exact fun _ h => h
  | cons s ss ih => exact fun l h => ih _ (h.loadSpec s)

end Resources

/-! ## The return paths -/

open Resources

/-- **After cancellation every object `Start` opened is closed.** -/
theorem start_cancelled_closes_opened {specs : Option (List (GoString × Option CollectionOutcome))}
    {l : Resources} (h : start specs = (.cancelled, l)) : ∀ r ∈ l.opened, r ∈ l.closed := by
  match specs, h with
  | some (s :: ss), h =>
    simp only [start] at h
    split_ifs at h
    · cases h
    · cases h
      intro r hr
      rw [opened_close, (Loading.loadSpecs _).mem_opened] at hr
      exact mem_closed_close.mpr (.inr hr)

/-- When spec loading fails or finds no object file, `Start` has opened nothing. -/
theorem start_opened_eq_nil {specs : Option (List (GoString × Option CollectionOutcome))}
    {ret : StartReturn} {l : Resources} (h : start specs = (ret, l))
    (hret : ret = .loadSpecsFailed ∨ ret = .noObjectFiles) : l.opened = [] := by
  match specs, h with
  | none, h => cases h; rfl
  | some [], h => cases h; rfl
  | some (s :: ss), h =>
    simp only [start] at h
    split_ifs at h <;> cases h <;> simp at hret

/-- **Without a perf reader `Start` returns with everything it opened still open**: nothing is
closed, and what it opened is its collections and links. -/
theorem start_noPerfBuffers_closes_nothing
    {specs : Option (List (GoString × Option CollectionOutcome))} {l : Resources}
    (h : start specs = (.noPerfBuffers, l)) :
    l.closed = [] ∧ ∀ r, r ∈ l.opened ↔ r ∈ l.collections ∨ r ∈ l.links := by
  match specs, h with
  | some (s :: ss), h =>
    simp only [start] at h
    split_ifs at h with hp
    · cases h
      have hl := Loading.loadSpecs (s :: ss)
      refine ⟨hl.closed_eq, fun r => ?_⟩
      rw [hl.mem_opened r, mem_held, hp.1, hp.2]
      simp only [reduceCtorEq, or_false]
    · cases h

/-- The object file `dns_tracker.o` alone: a collection with one kprobe program and no perf
event map. -/
def dnsTrackerOnly : List (GoString × Option CollectionOutcome) :=
  [("dns_tracker.o", some { programs := ["trace_udp_sendmsg"] })]

/-- Loaded alone, `dns_tracker.o` gets its collection created and its kprobe attached, and
`Start` returns the no-perf-buffers error with both still open; the agent goes on running without
closing them. -/
theorem start_leaks_without_perf_buffers :
    (start (some dnsTrackerOnly)).1 = .noPerfBuffers ∧
      (start (some dnsTrackerOnly)).2.opened =
        [.collection "dns_tracker.o", .link "dns_tracker.o" "trace_udp_sendmsg"] ∧
      (start (some dnsTrackerOnly)).2.closed = [] := by
  decide

end Ebpf
end Nefi
