import Nefi.Agent.Exporter.Proto

/-!
# The ingestion server's decoding, and the wire round trip

`internal/server/ingestion` turns each received message back into a domain event:
`protoToEndpoint` (a missing endpoint becomes the zero `Endpoint`), `protoToConnectionEvent` and
`protoToHTTPRequestEvent`, which also default a blank per-event `Node` to the batch's node name.

The server's message structs are mirrors of the exporter's (see `Exporter.Proto`), so the model
reads them with the exporter's types.

`wire_round_trip` is the law the two ends are written for: an event encoded by the exporter and
decoded by the server is the event it was, field for field, except that a blank node name takes
the batch's.  The only hypothesis is the one `UnixNano` documents: the timestamp is representable
as `int64` nanoseconds.  Ports and status codes need none, since widening a `uint16` to `uint32`
and truncating it back loses nothing.
-/

namespace Nefi
namespace Ingestion

open Exporter

/-- `protoToEndpoint`: a nil pointer gives the zero `Endpoint`. -/
def protoToEndpoint : Option EndpointProto → Endpoint
  | none => {}
  | some ep =>
    { ip := ep.ip
      port := ep.port.toUInt16
      pod := ep.pod
      «namespace» := ep.«namespace»
      workload := ep.workload
      workloadType := ep.workloadType
      service := ep.service }

/-- `protoToConnectionEvent`: the item's node, or the batch's when the item's is blank. -/
def protoToConnectionEvent (c : ConnectionEventProto) (node : GoString) : ConnectionEvent where
  timestamp := Time.unix c.timestampNs
  node := if c.node = [] then node else c.node
  source := protoToEndpoint c.source
  destination := protoToEndpoint c.destination
  bytesSent := c.bytesSent
  bytesRecv := c.bytesRecv
  durationNs := c.durationNs
  retransmits := c.retransmits
  protocol := c.protocol

/-- `protoToHTTPRequestEvent`. -/
def protoToHTTPRequestEvent (r : HTTPRequestEventProto) (node : GoString) : HTTPRequestEvent where
  timestamp := Time.unix r.timestampNs
  node := if r.node = [] then node else r.node
  source := protoToEndpoint r.source
  destination := protoToEndpoint r.destination
  method := r.method
  path := r.path
  statusCode := r.statusCode.toUInt16
  latencyNs := r.latencyNs
  protocol := r.protocol

/-- Widening a `uint16` to `uint32` and truncating it back is the identity. -/
@[simp] theorem toUInt32_toUInt16 (x : UInt16) : x.toUInt32.toUInt16 = x :=
  UInt16.toNat.inj (Nat.mod_eq_of_lt x.toNat_lt_size)

@[simp] theorem protoToEndpoint_endpointToProto (ep : Endpoint) :
    protoToEndpoint (some (endpointToProto ep)) = ep := by
  simp [protoToEndpoint, endpointToProto]

/-- The instant is representable as `int64` nanoseconds, the range in which `UnixNano` is
defined. -/
def Representable (t : Time) : Prop := -2 ^ 63 ≤ t.unixNs ∧ t.unixNs < 2 ^ 63

instance (t : Time) : Decidable (Representable t) := inferInstanceAs (Decidable (_ ∧ _))

@[simp] theorem unix_unixNano {t : Time} (h : Representable t) : Time.unix t.unixNano = t := by
  rw [Time.unixNano_of_mem h.1 h.2]
  rfl

theorem protoToConnectionEvent_connectionEventToProto {e : ConnectionEvent} (n : GoString)
    (he : Representable e.timestamp) :
    protoToConnectionEvent (connectionEventToProto e) n =
      { e with node := if e.node = [] then n else e.node } := by
  simp [protoToConnectionEvent, connectionEventToProto, he]

theorem protoToHTTPRequestEvent_httpRequestEventToProto {r : HTTPRequestEvent} (n : GoString)
    (hr : Representable r.timestamp) :
    protoToHTTPRequestEvent (httpRequestEventToProto r) n =
      { r with node := if r.node = [] then n else r.node } := by
  simp [protoToHTTPRequestEvent, httpRequestEventToProto, hr]

/-- **The wire round trip.**  Encoding an event on the agent and decoding it on the server gives
the event back, with a blank node name replaced by the batch's. -/
theorem wire_round_trip (e : ConnectionEvent) (r : HTTPRequestEvent) (n : GoString)
    (he : Representable e.timestamp) (hr : Representable r.timestamp) :
    protoToConnectionEvent (connectionEventToProto e) n =
        { e with node := if e.node = [] then n else e.node } ∧
      protoToHTTPRequestEvent (httpRequestEventToProto r) n =
        { r with node := if r.node = [] then n else r.node } :=
  ⟨protoToConnectionEvent_connectionEventToProto n he,
    protoToHTTPRequestEvent_httpRequestEventToProto n hr⟩

/-- The round trip on two events stamped at the epoch, one with a blank node name. -/
theorem wire_round_trip_at_epoch :
    Representable (Time.unix 0) ∧ Representable (Time.unix 0) ∧
      (protoToConnectionEvent (connectionEventToProto { timestamp := Time.unix 0 }) "node-1" =
          { timestamp := Time.unix 0, node := "node-1" } ∧
        protoToHTTPRequestEvent
            (httpRequestEventToProto { timestamp := Time.unix 0, node := "node-2" }) "node-1" =
          { timestamp := Time.unix 0, node := "node-2" }) :=
  ⟨by decide, by decide, wire_round_trip { timestamp := Time.unix 0 }
    { timestamp := Time.unix 0, node := "node-2" } "node-1" (by decide) (by decide)⟩

end Ingestion
end Nefi
