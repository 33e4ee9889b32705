import Nefi.Agent.Ebpf.Record
import Nefi.Agent.K8s.Cache
import Nefi.Agent.Exporter.Queue
import Nefi.Server.Stream

/-!
# From the loader's records to the server's storage

An event crosses four stages on its way from the kernel to storage.

1. A decode loop of the loader (`Ebpf.Record`) turns a perf record into a `model` event, stamped
   with `time.Unix(0, int64(ts))`.
2. `processEvents`, in the agent's `main` package, fills in both endpoints from the identity cache
   (`enrichEndpoint`), sets the node name, and passes the event to `Enqueue`.
3. The exporter ships the queue in batches (`Exporter.Queue`), each as one `EventBatch` message
   built by `buildBatch`.
4. The ingestion server decodes each batch and fans it out to the writer and the aggregator
   (`Ingestion.Stream`).

Each stage has its lemma, and the statements below compose them.  An event the agent enqueues is
one the loader decoded, passed through `processEvent` with the identity cache as it stood at that
moment (`FromLoader`); the channels between the stages are left out, and only which events cross
them matters.

* `representable_of_mem_readConnEvents`, `representable_of_mem_readHTTPEvents`: the loader's
  timestamps are in the range in which `UnixNano` is exact, so the wire keeps them
  (`Ingestion.wire_round_trip`).
* `decodeBatch_buildBatch`: the server decodes the exporter's message for a batch into the
  batch's own events, connections first, each with the batch's node where its own is blank.
* `lookup_processBatch_buildBatch`: so the server's per-service entries after a batch are those of
  observing the batch in the agent's order, when the events bound to one service agree on its
  namespace.
* `served_sublist_enqueued`: over every interleaving of the exporter's critical sections, the
  connections the server stores are, in order, a subsequence of the connections the agent
  enqueued, unchanged, and likewise for requests: the path neither reorders, duplicates, alters
  nor invents events.
-/

namespace Nefi

namespace Event

/-- The timestamp of either kind of event. -/
def timestamp : Event → Time
  | connection e => e.timestamp
  | httpRequest e => e.timestamp

/-- Whether the event is a connection, the case `buildBatch` and `processBatch` take first. -/
def isConnection : Event → Bool
  | connection _ => true
  | httpRequest _ => false

/-- The event as the server decodes it from a batch of `node`: a blank node name takes the
batch's. -/
def withBatchNode (n : GoString) : Event → Event
  | connection e => connection { e with node := if e.node = [] then n else e.node }
  | httpRequest e => httpRequest { e with node := if e.node = [] then n else e.node }

@[simp] theorem isConnection_withBatchNode (n : GoString) (e : Event) :
    (e.withBatchNode n).isConnection = e.isConnection := by
  cases e <;> rfl

/-- The batch's connections, then its requests: the order in which the message holds them. -/
def connectionsFirst (b : List Event) : List Event :=
  b.filter isConnection ++ b.filter fun e => !e.isConnection

theorem connectionsFirst_perm (b : List Event) : List.Perm (connectionsFirst b) b :=
  List.filter_append_perm _ _

@[simp] theorem filter_isConnection_connectionsFirst (b : List Event) :
    (connectionsFirst b).filter isConnection = b.filter isConnection := by
  simp [connectionsFirst, List.filter_filter]

@[simp] theorem filter_not_isConnection_connectionsFirst (b : List Event) :
    (connectionsFirst b).filter (fun e => !e.isConnection) = b.filter fun e => !e.isConnection := by
  simp [connectionsFirst, List.filter_filter]

end Event

namespace Agent

open List K8s Exporter Ingestion Metrics

/-! ## Enrichment -/

/-- `enrichEndpoint`: the identity the cache holds for the endpoint's IP, when it has an IP and
the cache a row for it. -/
def enrichEndpoint (cache : Cache) (ep : Endpoint) : Endpoint :=
  if ep.ip = [] then ep
  else
    match cache.lookup ep.ip with
    | none => ep
    | some cached =>
      { ep with
        pod := cached.pod
        «namespace» := cached.«namespace»
        workload := cached.workload
        workloadType := cached.workloadType
        service := cached.service }

/-- The body of `processEvents`' loop for one event it takes off the loader's channel: both
endpoints enriched and the node set, as passed to `Enqueue`. -/
def processEvent (cache : Cache) (nodeName : GoString) : Event → Event
  | .connection v =>
    .connection { v with
      source := enrichEndpoint cache v.source
      destination := enrichEndpoint cache v.destination
      node := nodeName }
  | .httpRequest v =>
    .httpRequest { v with
      source := enrichEndpoint cache v.source
      destination := enrichEndpoint cache v.destination
      node := nodeName }

@[simp] theorem timestamp_processEvent (cache : Cache) (nodeName : GoString) (e : Event) :
    (processEvent cache nodeName e).timestamp = e.timestamp := by
  cases e <;> rfl

/-- The agent's events already carry the node name, so the server's default leaves them as they
are. -/
@[simp] theorem withBatchNode_processEvent (cache : Cache) (nodeName : GoString) (e : Event) :
    (processEvent cache nodeName e).withBatchNode nodeName = processEvent cache nodeName e := by
  cases e <;> simp [processEvent, Event.withBatchNode]

/-! ## The loader's timestamps -/

/-- `time.Unix(0, int64(ts))` is in the range of `UnixNano`. -/
theorem representable_unix_goInt64 (x : Int) : Representable (Time.unix (goInt64 x)) := by
  have lo := Int.le_bmod (x := x) (m := 2 ^ 64) (by decide)
  have hi := Int.bmod_lt (x := x) (m := 2 ^ 64) (by decide)
  constructor <;> simp only [Time.unix_unixNs, goInt64] <;> omega

theorem exists_of_mem_readLoop {α : Type} {sample : Ebpf.PerfRecord → Option α} {a : α} :
    ∀ {reads : List Ebpf.PerfRead}, a ∈ Ebpf.readLoop sample reads → ∃ r, sample r = some a
  | [], h => nomatch h
  | .record r :: rs, h => by
    rcases List.mem_append.mp h with h | h
    · exact ⟨r, Option.mem_toList.mp h⟩
    · exact exists_of_mem_readLoop h
  | .unknownEvent :: rs, h => exists_of_mem_readLoop (show a ∈ Ebpf.readLoop sample rs from h)
  | .failed :: _, h => nomatch h

theorem representable_of_mem_readConnEvents {reads : List Ebpf.PerfRead} {e : ConnectionEvent}
    (h : e ∈ Ebpf.readConnEvents reads) : Representable e.timestamp := by
  obtain ⟨r, hr⟩ := exists_of_mem_readLoop h
  unfold Ebpf.connSample Ebpf.decodeSample at hr
  split_ifs at hr
  obtain rfl := Option.some.inj hr
  exact representable_unix_goInt64 _

theorem representable_of_mem_readHTTPEvents {reads : List Ebpf.PerfRead} {e : HTTPRequestEvent}
    (h : e ∈ Ebpf.readHTTPEvents reads) : Representable e.timestamp := by
  obtain ⟨r, hr⟩ := exists_of_mem_readLoop h
  unfold Ebpf.httpSample Ebpf.decodeSample at hr
  split_ifs at hr
  obtain rfl := Option.some.inj hr
  exact representable_unix_goInt64 _

/-! ## One batch, agent to server -/

section Batch

variable (nodeName : GoString) {b : List Event} (hb : ∀ e ∈ b, Representable e.timestamp)
include hb

theorem decodeConnections_buildBatch :
    decodeConnections (buildBatch nodeName b) =
      (b.filter Event.isConnection).map (Event.withBatchNode nodeName) := by
  rw [buildBatch_eq]
  simp only [decodeConnections, List.map_map]
  induction b with
  | nil => rfl
  | cons e b ih =>
    have ih := ih fun e he => hb e (.tail _ he)
    cases e with
    | connection c =>
      simp [Event.connection?, Event.isConnection, Event.withBatchNode, ih,
        protoToConnectionEvent_connectionEventToProto nodeName (hb _ (.head _))]
    | httpRequest r => simpa [Event.connection?, Event.isConnection] using ih

theorem decodeHTTPRequests_buildBatch :
    decodeHTTPRequests (buildBatch nodeName b) =
      (b.filter fun e => !e.isConnection).map (Event.withBatchNode nodeName) := by
  rw [buildBatch_eq]
  simp only [decodeHTTPRequests, List.map_map]
  induction b with
  | nil => rfl
  | cons e b ih =>
    have ih := ih fun e he => hb e (.tail _ he)
    cases e with
    | connection c => simpa [Event.httpRequest?, Event.isConnection] using ih
    | httpRequest r =>
      simp [Event.httpRequest?, Event.isConnection, Event.withBatchNode, ih,
        protoToHTTPRequestEvent_httpRequestEventToProto nodeName (hb _ (.head _))]

/-- **The server decodes the exporter's message for a batch into the batch**: its connections,
then its requests, each with the batch's node where its own is blank. -/
theorem decodeBatch_buildBatch :
    decodeBatch (buildBatch nodeName b) =
      (Event.connectionsFirst b).map (Event.withBatchNode nodeName) := by
  rw [decodeBatch, decodeConnections_buildBatch nodeName hb,
    decodeHTTPRequests_buildBatch nodeName hb, Event.connectionsFirst, List.map_append]

/-- With both writes returning nil, the server stores and observes the batch's events and counts
every one of them. -/
theorem processBatch_buildBatch (s : IngestionServer) :
    processBatch .allOk s (buildBatch nodeName b) =
      ({ s.writeAndObserve ((Event.connectionsFirst b).map (Event.withBatchNode nodeName)) with
          accepted := s.accepted + b.length.toUInt64 },
        b.length.toUInt64, true) := by
  rw [processBatch_allOk, decodeBatch_buildBatch nodeName hb, List.length_map,
    (Event.connectionsFirst_perm b).length_eq]

end Batch

/-- The aggregator reads no node name. -/
@[simp] theorem observe_withBatchNode (a : Aggregator) (n : GoString) (e : Event) :
    a.observe (e.withBatchNode n) = a.observe e := by
  cases e <;> rfl

theorem observeAll_map_withBatchNode (a : Aggregator) (n : GoString) (l : List Event) :
    a.observeAll (l.map (Event.withBatchNode n)) = a.observeAll l := by
  simp only [Aggregator.observeAll, List.foldl_map, observe_withBatchNode]

/-- **The server's per-service entries after a batch are those of observing the batch in the
agent's order**, when the batch's events bound to one service agree on its namespace (without
that, the namespace an entry keeps depends on the order; see
`Metrics.lookup_observeAll_perm`). -/
theorem lookup_processBatch_buildBatch (nodeName : GoString) {b : List Event}
    (hb : ∀ e ∈ b, Representable e.timestamp)
    (hns : ∀ e₁ ∈ b, ∀ e₂ ∈ b, BoundTo e₁.boundService e₁ →
      e₁.boundService = e₂.boundService → e₁.boundNamespace = e₂.boundNamespace)
    (s : IngestionServer) (S : GoString) :
    (processBatch .allOk s (buildBatch nodeName b)).1.aggregator.services.lookup S =
      (s.aggregator.observeAll b).services.lookup S := by
  have hp := Event.connectionsFirst_perm b
  rw [processBatch_buildBatch nodeName hb]
  simp only [IngestionServer.writeAndObserve, observeAll_map_withBatchNode]
  exact lookup_observeAll_perm _ hp
    (fun e₁ h₁ e₂ h₂ => hns e₁ (hp.subset h₁) e₂ (hp.subset h₂)) S

/-- Two requests to two services, in one batch: the entry of `"api"` is the one of observing
the batch. -/
theorem lookup_processBatch_buildBatch_two_services :
    (∀ e ∈ [requestTo "api" "a", requestTo "web" "b"], Representable e.timestamp) ∧
      (∀ e₁ ∈ [requestTo "api" "a", requestTo "web" "b"],
        ∀ e₂ ∈ [requestTo "api" "a", requestTo "web" "b"], BoundTo e₁.boundService e₁ →
          e₁.boundService = e₂.boundService → e₁.boundNamespace = e₂.boundNamespace) ∧
      (processBatch .allOk ⟨newAggregator, [], 0⟩
          (buildBatch "node-1" [requestTo "api" "a", requestTo "web" "b"])).1.aggregator.services.lookup
          ("api" : GoString) =
        (newAggregator.observeAll [requestTo "api" "a", requestTo "web" "b"]).services.lookup
          ("api" : GoString) :=
  ⟨by decide, by decide, lookup_processBatch_buildBatch _ (by decide) (by decide) _ _⟩

/-! ## Every batch the exporter sends -/

/-- An event `processEvents` passes to `Enqueue`: one that a decode loop of the loader sent,
enriched from the identity cache as it stood then, with the node set. -/
def FromLoader (connReads httpReads : List Ebpf.PerfRead) (nodeName : GoString) (e : Event) :
    Prop :=
  ∃ (cache : Cache) (e₀ : Event), (e₀ ∈ (Ebpf.readConnEvents connReads).map .connection ∨
    e₀ ∈ (Ebpf.readHTTPEvents httpReads).map .httpRequest) ∧ e = processEvent cache nodeName e₀

section FromLoader

variable {connReads httpReads : List Ebpf.PerfRead} {nodeName : GoString} {e : Event}

theorem FromLoader.representable (h : FromLoader connReads httpReads nodeName e) :
    Representable e.timestamp := by
  obtain ⟨cache, e₀, he₀, rfl⟩ := h
  rw [timestamp_processEvent]
  rcases he₀ with he₀ | he₀ <;> obtain ⟨e₁, he₁, rfl⟩ := List.mem_map.mp he₀
  · exact representable_of_mem_readConnEvents he₁
  · exact representable_of_mem_readHTTPEvents he₁

theorem FromLoader.withBatchNode_eq (h : FromLoader connReads httpReads nodeName e) :
    e.withBatchNode nodeName = e := by
  obtain ⟨cache, e₀, -, rfl⟩ := h
  exact withBatchNode_processEvent cache nodeName e₀

end FromLoader


/-- The messages of a stream on which the server receives the batches `bs`, every write
returning nil. -/
def sentStream (nodeName : GoString) (bs : List (List Event)) : List Recv :=
  bs.map fun b => .batch (buildBatch nodeName b) .allOk

/-- The server stores the sent batches, in order, each with its connections first. -/
theorem stored_streamEvents_sentStream (nodeName : GoString) {bs : List (List Event)}
    (hts : ∀ b ∈ bs, ∀ e ∈ b, Representable e.timestamp) (s : IngestionServer)
    (t : UInt64) :
    (streamEvents s t (sentStream nodeName bs)).1.stored =
      s.stored ++
        bs.flatMap fun b => (Event.connectionsFirst b).map (Event.withBatchNode nodeName) := by
  induction bs generalizing s t with
  | nil => simp [sentStream, streamEvents]
  | cons b bs ih =>
    simp only [sentStream, List.map_cons, streamEvents] at ih ⊢
    rw [ih (fun b' hb' => hts b' (.tail _ hb')), processBatch_buildBatch nodeName (hts b (.head _))]
    simp [IngestionServer.writeAndObserve]

/-- The events of one kind that the server stores from a list of batches are the batches' events
of that kind, in order. -/
theorem filter_flatMap_connectionsFirst (nodeName : GoString) {p : Event → Bool}
    (hp : ∀ e, p (e.withBatchNode nodeName) = p e)
    (hc : ∀ b, (Event.connectionsFirst b).filter p = b.filter p) (bs : List (List Event)) :
    (bs.flatMap fun b => (Event.connectionsFirst b).map (Event.withBatchNode nodeName)).filter p =
      (bs.flatten.filter p).map (Event.withBatchNode nodeName) := by
  induction bs with
  | nil => rfl
  | cons b bs ih => simp [filter_map, Function.comp_def, hp, hc, ih]

/-- **Over every interleaving of the exporter's critical sections, the server stores what the
agent enqueued, per kind, in order and unchanged.**  When the agent enqueues the loader's events
as `processEvents` makes them, the server receives the batches whose `Send` returned nil and all
its writes return nil, the connections it stores are a subsequence of the connections passed to
`Enqueue`, and likewise the requests. -/
theorem served_sublist_enqueued (cfg : Exporter.Config) {r : Exporter.Run}
    (hr : Exporter.Reachable cfg r) {connReads httpReads : List Ebpf.PerfRead} {nodeName : GoString}
    (henq : ∀ e ∈ r.enqueued, FromLoader connReads httpReads nodeName e) (t : UInt64)
    (a : Aggregator) :
    let stored := (streamEvents ⟨a, [], 0⟩ t (sentStream nodeName r.sent)).1.stored
    stored.filter Event.isConnection <+ r.enqueued.filter Event.isConnection ∧
      stored.filter (fun e => !e.isConnection) <+ r.enqueued.filter fun e => !e.isConnection := by
  have hsent : r.sent.flatten <+ r.enqueued :=
    ((sublist_append_left _ _).trans (sublist_append_left _ _)).trans (hr.inv cfg).order
  have hfrom : ∀ e ∈ r.sent.flatten, FromLoader connReads httpReads nodeName e :=
    fun e he => henq e (hsent.subset he)
  have hst := stored_streamEvents_sentStream nodeName
    (fun b hb e he => (hfrom e (mem_flatten_of_mem hb he)).representable) ⟨a, [], 0⟩ t
  -- the agent's events already carry the node, so the server's default changes none of them
  have hnode : ∀ p : Event → Bool, ((r.sent.flatten.filter p).map (Event.withBatchNode nodeName)) =
      r.sent.flatten.filter p := fun p =>
    (map_congr_left fun e he => (hfrom e (mem_of_mem_filter he)).withBatchNode_eq).trans (map_id _)
  dsimp only at hst ⊢
  rw [hst, nil_append, filter_flatMap_connectionsFirst nodeName (by simp) (by simp),
    filter_flatMap_connectionsFirst nodeName (by simp) (by simp), hnode, hnode]
  exact ⟨hsent.filter _, hsent.filter _⟩

/-- A connection record of the loader's perf buffer: `10.0.0.1:40000 → 10.0.0.2:8080`. -/
def loaderConnEvent : Ebpf.ConnEvent := ⟨1, 167772161, 167772162, 40000, 8080, 10, 20, 30, 0, 6⟩

/-- One read of the connection buffer: the record, padded to `unsafe.Sizeof(ConnEvent{})`. -/
def loaderReads : List Ebpf.PerfRead :=
  [.record ⟨Ebpf.encodeConnRecord loaderConnEvent ++ [0, 0, 0, 0], 0⟩]

/-- The event `processEvents` enqueues for the record, with an empty identity cache. -/
def processedEvent : Event :=
  processEvent Cache.empty "node-1" (.connection (Ebpf.connEventToModel loaderConnEvent))

/-- The run that enqueues the event and sends it in a batch of one. -/
def servedRun : Exporter.Run := ⟨[], none, [processedEvent], [[processedEvent]], [], []⟩

theorem runActions_servedRun :
    runActions ⟨1, 10000, by decide⟩ Run.init [.enqueue processedEvent, .take, .finish .ok] =
      some servedRun :=
  rfl

/-- The connection the loader decoded, enqueued and sent, is the one the server stores. -/
theorem served_sublist_enqueued_one_connection :
    Exporter.Reachable ⟨1, 10000, by decide⟩ servedRun ∧
      (∀ e ∈ servedRun.enqueued, FromLoader loaderReads [] "node-1" e) ∧
      let stored := (streamEvents ⟨newAggregator, [], 0⟩ 0 (sentStream "node-1" servedRun.sent)).1.stored
      stored.filter Event.isConnection <+ servedRun.enqueued.filter Event.isConnection ∧
        stored.filter (fun e => !e.isConnection) <+
          servedRun.enqueued.filter fun e => !e.isConnection :=
  have hr := reachable_of_runActions _ .init runActions_servedRun
  have hread : Ebpf.readConnEvents loaderReads = [Ebpf.connEventToModel loaderConnEvent] := by
    show (Ebpf.connSample _).toList ++ [] = _
    rw [Ebpf.connSample_append _ (by decide)]
    rfl
  have henq : ∀ e ∈ servedRun.enqueued, FromLoader loaderReads [] "node-1" e := fun e he =>
    ⟨Cache.empty, _, .inl (by rw [hread]; exact List.mem_singleton_self _), List.mem_singleton.mp he⟩
  ⟨hr, henq, served_sublist_enqueued _ hr henq 0 _⟩

end Agent

end Nefi
