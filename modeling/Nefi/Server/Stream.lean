import Nefi.Server.Ingestion
import Nefi.Server.Metrics.Entry

/-!
# The ingestion server: `processBatch` and `StreamEvents`

`IngestionServer.StreamEvents` serves one agent's stream.  It calls `Recv` until `io.EOF`, hands
each batch to `processBatch`, adds what that returns to the stream's `totalAccepted` whether or not
it also returned an error, and at `io.EOF` answers with `StreamResponse{Accepted: totalAccepted}`.
Any other `Recv` error ends the call with that error and no response.

`processBatch` has two halves of one shape, connections first and then requests.  When the batch
holds events of the kind, it decodes them, passes them to the `EventWriter`, and only when the
write returns nil hands each to the aggregator and adds their number to its count.  A failed write
returns at once, with the count so far.  So a failed request write leaves the batch's connections
stored, observed and counted in the returned value, while the server's own `accepted` counter,
which `TotalAccepted` reads, only moves at the end of a batch whose writes all returned nil.

## What is modelled

The writer is an interface (OpenSearch in the server binary): the model takes, per batch, which of
its two calls return nil (`WriteOutcome`), and keeps the events of every call that returned nil in
`stored`.  A stream is the list of what its `Recv` calls return.  The context, the logger and the
transport are left out; `processBatch`'s error only chooses the log line, so the model returns it
as a `Bool`.

## Results

* `fanOut_eq` and `processBatch_spec`: one spec lemma each.  Whatever the writes do, a batch
  leaves the server having stored and observed a prefix of its decoded events, and the count it
  returns is that prefix's length.
* `processBatch_allOk` and `streamEvents_allOk`: when every write returns nil, a stream stores and
  observes every event of every batch, in stream order and connections first within a batch.
* `streamEvents_total`: the total a stream answers with counts exactly the events it stored, and
  `streamEvents_allOk_closed`: with every write returning nil, every event of its batches.
* `Synced.streamEvents`: over every stream, under every outcome of the writes, the aggregator has
  observed exactly the events of the write calls that returned nil, in the order of the calls.
* `totalAccepted_misses_partial_batch`: `TotalAccepted` does not follow the streams' totals; a
  batch whose request write fails after its connection write returned nil is stored, observed and
  acknowledged, but not counted.
-/

namespace Nefi
namespace Ingestion

open Exporter Metrics

/-- Which of the two `EventWriter` calls of one `processBatch` return nil. -/
structure WriteOutcome where
  connections : Bool
  httpRequests : Bool
  deriving DecidableEq, Repr

/-- Both writes return nil. -/
def WriteOutcome.allOk : WriteOutcome := ⟨true, true⟩

/-- The fields of `IngestionServer` that `processBatch` writes, and what its writer holds. -/
structure IngestionServer where
  aggregator : Aggregator
  stored : List Event
  accepted : UInt64

namespace IngestionServer

/-- A write of `evs` that returned nil, followed by the loop that hands each to the
aggregator. -/
def writeAndObserve (s : IngestionServer) (evs : List Event) : IngestionServer :=
  { s with aggregator := s.aggregator.observeAll evs, stored := s.stored ++ evs }

@[simp] theorem writeAndObserve_nil (s : IngestionServer) : s.writeAndObserve [] = s := by
  simp [writeAndObserve]

@[simp] theorem writeAndObserve_accepted (s : IngestionServer) (evs : List Event) :
    (s.writeAndObserve evs).accepted = s.accepted := rfl

theorem writeAndObserve_append (s : IngestionServer) (evs evs' : List Event) :
    (s.writeAndObserve evs).writeAndObserve evs' = s.writeAndObserve (evs ++ evs') := by
  simp [writeAndObserve, Aggregator.observeAll_append]

end IngestionServer

open IngestionServer

/-! ## `processBatch` -/

/-- The loop that decodes a batch's connections. -/
def decodeConnections (batch : EventBatchProto) : List Event :=
  batch.connections.map fun c => .connection (protoToConnectionEvent c batch.node)

/-- The loop that decodes a batch's requests. -/
def decodeHTTPRequests (batch : EventBatchProto) : List Event :=
  batch.httpRequests.map fun r => .httpRequest (protoToHTTPRequestEvent r batch.node)

/-- Every event `processBatch` can hand on, in the order it does. -/
def decodeBatch (batch : EventBatchProto) : List Event :=
  decodeConnections batch ++ decodeHTTPRequests batch

/-- One half of `processBatch`, for the decoded events `evs` of one kind: nothing when there are
none; otherwise the write, then the fan-out and the count when it returns nil, and the count so
far as the error result when it fails. -/
def fanOut (writeOk : Bool) (s : IngestionServer) (accepted : UInt64) (evs : List Event) :
    Except UInt64 (IngestionServer × UInt64) :=
  if 0 < evs.length then
    if writeOk then .ok (s.writeAndObserve evs, accepted + evs.length.toUInt64)
    else .error accepted
  else .ok (s, accepted)

/-- `processBatch`: the server afterwards, the returned count, and whether the returned error is
nil.  `s.accepted.Add` runs only on the path that returns nil. -/
def processBatch (w : WriteOutcome) (s : IngestionServer) (batch : EventBatchProto) :
    IngestionServer × UInt64 × Bool :=
  match fanOut w.connections s 0 (decodeConnections batch) with
  | .error accepted => (s, accepted, false)
  | .ok (s, accepted) =>
    match fanOut w.httpRequests s accepted (decodeHTTPRequests batch) with
    | .error accepted => (s, accepted, false)
    | .ok (s, accepted) => ({ s with accepted := s.accepted + accepted }, accepted, true)

/-- A half goes through when its write returns nil or it has nothing to write. -/
theorem fanOut_eq (writeOk : Bool) (s : IngestionServer) (n : UInt64) (evs : List Event) :
    fanOut writeOk s n evs =
      if writeOk ∨ evs = [] then .ok (s.writeAndObserve evs, n + evs.length.toUInt64)
      else .error n := by
  by_cases he : evs = []
  · subst he
    simp [fanOut]
  · cases writeOk <;> simp [fanOut, he, List.length_pos]

/-- **What one batch does, whatever the writes do.**  The server stores and observes a prefix of
the batch's decoded events, all of them when no error is returned; the returned count is that
prefix's length, and only a batch without error adds it to `accepted`. -/
theorem processBatch_spec (w : WriteOutcome) (s : IngestionServer) (batch : EventBatchProto) :
    ∃ evs, evs <+: decodeBatch batch ∧
      ((processBatch w s batch).2.2 = true → evs = decodeBatch batch) ∧
      (processBatch w s batch).2.1 = evs.length.toUInt64 ∧
      (processBatch w s batch).1 =
        { s.writeAndObserve evs with
          accepted :=
            if (processBatch w s batch).2.2 then s.accepted + evs.length.toUInt64
            else s.accepted } := by
  unfold processBatch
  rw [fanOut_eq]
  by_cases h₁ : w.connections ∨ decodeConnections batch = []
  · rw [if_pos h₁]
    dsimp only
    rw [fanOut_eq]
    by_cases h₂ : w.httpRequests ∨ decodeHTTPRequests batch = []
    · -- both halves went through
      rw [if_pos h₂]
      refine ⟨decodeBatch batch, List.prefix_refl _, fun _ => rfl, ?_, ?_⟩ <;>
        simp [decodeBatch, writeAndObserve_append, toUInt64_add_toUInt64]
    · -- the request write failed: the connections stay written
      rw [if_neg h₂]
      exact ⟨decodeConnections batch, List.prefix_append _ _, nofun, by simp, rfl⟩
  · -- the connection write failed
    rw [if_neg h₁]
    exact ⟨[], List.nil_prefix, nofun, rfl, by simp⟩

/-- With both writes returning nil, a batch stores and observes all of its decoded events and
counts them. -/
theorem processBatch_allOk (s : IngestionServer) (batch : EventBatchProto) :
    processBatch .allOk s batch =
      ({ s.writeAndObserve (decodeBatch batch) with
          accepted := s.accepted + (decodeBatch batch).length.toUInt64 },
        (decodeBatch batch).length.toUInt64, true) := by
  obtain ⟨evs, -, hall, hn, hs⟩ := processBatch_spec .allOk s batch
  have hok : (processBatch .allOk s batch).2.2 = true := by
    simp [processBatch, fanOut_eq, WriteOutcome.allOk]
  obtain rfl := hall hok
  rw [hok, if_pos rfl] at hs
  exact Prod.ext hs (Prod.ext hn hok)

/-! ## `StreamEvents` -/

/-- What one `Recv` call returns. -/
inductive Recv where
  /-- A batch, with the outcome of the writer calls its `processBatch` makes. -/
  | batch (b : EventBatchProto) (w : WriteOutcome)
  /-- `io.EOF`: the agent has closed its side of the stream. -/
  | eof
  /-- Any other error of the transport. -/
  | error

/-- Where a `StreamEvents` call stands. -/
inductive StreamResult where
  /-- Still in its loop, with the running `totalAccepted`. -/
  | receiving (totalAccepted : UInt64)
  /-- Returned after `SendAndClose(&StreamResponse{Accepted: accepted})`. -/
  | closed (accepted : UInt64)
  /-- Returned the error of `Recv`, with no response. -/
  | failed
  deriving DecidableEq, Repr

/-- `StreamEvents` on the values its `Recv` calls return, with the running `totalAccepted`: the
server afterwards and where the call stands. -/
def streamEvents (s : IngestionServer) (totalAccepted : UInt64) :
    List Recv → IngestionServer × StreamResult
  | [] => (s, .receiving totalAccepted)
  | .eof :: _ => (s, .closed totalAccepted)
  | .error :: _ => (s, .failed)
  | .batch b w :: rest =>
    let r := processBatch w s b
    streamEvents r.1 (totalAccepted + r.2.1) rest

/-- **A stream whose writes all return nil** stores and observes every event of every batch, in
stream order and connections first within a batch, and counts them all in `accepted`. -/
theorem streamEvents_allOk (s : IngestionServer) (t : UInt64) (bs : List EventBatchProto) :
    (streamEvents s t (bs.map fun b => .batch b .allOk)).1 =
      { s.writeAndObserve (bs.flatMap decodeBatch) with
        accepted := s.accepted + (bs.flatMap decodeBatch).length.toUInt64 } := by
  induction bs generalizing s t with
  | nil => simp [streamEvents]
  | cons b bs ih =>
    simp only [List.map_cons, streamEvents, processBatch_allOk, ih, List.flatMap_cons]
    simp [writeAndObserve, Aggregator.observeAll_append, add_assoc, toUInt64_add_toUInt64]

/-- The running `totalAccepted` of a call that is still receiving or has answered. -/
def StreamResult.total? : StreamResult → Option UInt64
  | .receiving t => some t
  | .closed t => some t
  | .failed => none

/-- **A stream's running total counts exactly the events it stored**, in `uint64` arithmetic,
whatever each write returns: the total it answers with is what it started from plus the number of
events its batches added to the writer. -/
theorem streamEvents_total (s : IngestionServer) (t : UInt64) (msgs : List Recv) :
    ∃ evs, (streamEvents s t msgs).1.stored = s.stored ++ evs ∧
      ∀ acc, (streamEvents s t msgs).2.total? = some acc → acc = t + evs.length.toUInt64 := by
  induction msgs generalizing s t with
  | nil => exact ⟨[], by simp [streamEvents], by simp [streamEvents, StreamResult.total?]⟩
  | cons m msgs ih =>
    cases m with
    | batch b w =>
      obtain ⟨evs₀, -, -, hn, hs⟩ := processBatch_spec w s b
      obtain ⟨evs₁, hst, hacc⟩ := ih (processBatch w s b).1 (t + (processBatch w s b).2.1)
      refine ⟨evs₀ ++ evs₁, ?_, fun acc h => ?_⟩
      · show (streamEvents (processBatch w s b).1 _ msgs).1.stored = _
        rw [hst, hs]
        exact List.append_assoc _ _ _
      · rw [hacc acc h, hn, List.length_append, ← toUInt64_add_toUInt64, add_assoc]
    | eof => exact ⟨[], by simp [streamEvents], by simp [streamEvents, StreamResult.total?]⟩
    | error => exact ⟨[], by simp [streamEvents], by simp [streamEvents, StreamResult.total?]⟩

/-- With every write returning nil, the stream's answer counts every event of its batches. -/
theorem streamEvents_allOk_closed (s : IngestionServer) (t : UInt64) (bs : List EventBatchProto) :
    (streamEvents s t (bs.map (fun b => .batch b .allOk) ++ [.eof])).2 =
      .closed (t + (bs.flatMap decodeBatch).length.toUInt64) := by
  induction bs generalizing s t with
  | nil => simp [streamEvents]
  | cons b bs ih =>
    rw [List.map_cons, List.cons_append]
    simp only [streamEvents, processBatch_allOk]
    rw [ih, List.flatMap_cons, List.length_append, ← toUInt64_add_toUInt64, add_assoc]

/-- A batch with one connection and one request. -/
def connAndRequestBatch : EventBatchProto := { node := "node-a", connections := [{}], httpRequests := [{}] }

/-- **`TotalAccepted` misses a batch whose request write fails.**  One stream sends a batch with
one connection and one request; the connection write returns nil and the request write an error;
then the agent closes the stream.  The connection is stored and observed, and the stream answers
`Accepted: 1`, but `processBatch` returned before `s.accepted.Add`, so `TotalAccepted` is 0. -/
theorem totalAccepted_misses_partial_batch :
    (streamEvents ⟨newAggregator, [], 0⟩ 0 [.batch connAndRequestBatch ⟨true, false⟩, .eof]).2 =
        .closed 1 ∧
      (streamEvents ⟨newAggregator, [], 0⟩ 0
        [.batch connAndRequestBatch ⟨true, false⟩, .eof]).1.stored.length = 1 ∧
      (streamEvents ⟨newAggregator, [], 0⟩ 0
        [.batch connAndRequestBatch ⟨true, false⟩, .eof]).1.accepted = 0 :=
  ⟨by decide, by decide, by decide⟩

/-! ## The aggregator follows the writer -/

/-- The aggregator has observed, from `a₀` and in order, exactly the events of the write calls
that returned nil. -/
def Synced (a₀ : Aggregator) (s : IngestionServer) : Prop :=
  s.aggregator = a₀.observeAll s.stored

theorem Synced.writeAndObserve {a₀ : Aggregator} {s : IngestionServer} (h : Synced a₀ s)
    (evs : List Event) : Synced a₀ (s.writeAndObserve evs) := by
  simp only [Synced, IngestionServer.writeAndObserve, Aggregator.observeAll_append] at h ⊢
  rw [h]

theorem Synced.processBatch {a₀ : Aggregator} {s : IngestionServer} (h : Synced a₀ s)
    (w : WriteOutcome) (batch : EventBatchProto) : Synced a₀ (processBatch w s batch).1 := by
  obtain ⟨evs, -, -, -, hs⟩ := processBatch_spec w s batch
  rw [hs]
  exact h.writeAndObserve evs

/-- **Metrics follow the writes that returned nil.**  Over every stream, whatever each write
returns, the aggregator has observed exactly the events of the write calls that returned nil, in
the order of the calls. -/
theorem Synced.streamEvents {a₀ : Aggregator} {s : IngestionServer} (h : Synced a₀ s)
    (t : UInt64) (msgs : List Recv) : Synced a₀ (streamEvents s t msgs).1 := by
  induction msgs generalizing s t with
  | nil => exact h
  | cons m msgs ih =>
    cases m with
    | batch b w => exact ih (h.processBatch w b) _
    | eof => exact h
    | error => exact h

end Ingestion
end Nefi
