import Nefi.Model.Event

/-!
# The wire messages, and the exporter's conversions to them

`internal/agent/exporter/grpc.go` declares by hand the messages of `nefi.proto` that the agent
streams to the collector, and converts each queued event into one: `endpointToProto`,
`connectionEventToProto` and `httpRequestEventToProto`.  The ingestion server
(`internal/server/ingestion`) declares its own mirrors of the same messages, with the same fields
and the same Go types; only the struct tags differ, and those say how a field is named on the
wire, not what it holds.  The model therefore has one type per message, shared by both ends, and
copying a message "field by field" from one end's struct into the other's is the identity.

Two fields change type on the way out: a port (`uint16` in the model) travels as `uint32`, and so
does a status code; the timestamp travels as `UnixNano`, an `int64`.  The server's conversions
back, and the round trip, are in `Server.Ingestion`.
-/

namespace Nefi
namespace Exporter

/-- `EndpointProto`. -/
structure EndpointProto where
  ip : GoString := []
  port : UInt32 := 0
  pod : GoString := []
  «namespace» : GoString := []
  workload : GoString := []
  workloadType : GoString := []
  service : GoString := []
  deriving DecidableEq, Repr

/-- `ConnectionEventProto`.  `Source` and `Destination` are pointers, so they may be absent. -/
structure ConnectionEventProto where
  timestampNs : Int := 0
  node : GoString := []
  source : Option EndpointProto := none
  destination : Option EndpointProto := none
  bytesSent : UInt64 := 0
  bytesRecv : UInt64 := 0
  durationNs : UInt64 := 0
  retransmits : UInt32 := 0
  protocol : GoString := []
  deriving DecidableEq, Repr

/-- `HTTPRequestEventProto`. -/
structure HTTPRequestEventProto where
  timestampNs : Int := 0
  node : GoString := []
  source : Option EndpointProto := none
  destination : Option EndpointProto := none
  method : GoString := []
  path : GoString := []
  statusCode : UInt32 := 0
  latencyNs : UInt64 := 0
  protocol : GoString := []
  deriving DecidableEq, Repr

/-- `EventBatchProto`: the batch envelope, carrying the agent's node name. -/
structure EventBatchProto where
  node : GoString := []
  connections : List ConnectionEventProto := []
  httpRequests : List HTTPRequestEventProto := []
  deriving DecidableEq, Repr

/-- `endpointToProto`. -/
def endpointToProto (ep : Endpoint) : EndpointProto where
  ip := ep.ip
  port := ep.port.toUInt32
  pod := ep.pod
  «namespace» := ep.«namespace»
  workload := ep.workload
  workloadType := ep.workloadType
  service := ep.service

/-- `connectionEventToProto`. -/
def connectionEventToProto (ce : ConnectionEvent) : ConnectionEventProto where
  timestampNs := ce.timestamp.unixNano
  node := ce.node
  source := some (endpointToProto ce.source)
  destination := some (endpointToProto ce.destination)
  bytesSent := ce.bytesSent
  bytesRecv := ce.bytesRecv
  durationNs := ce.durationNs
  retransmits := ce.retransmits
  protocol := ce.protocol

/-- `httpRequestEventToProto`. -/
def httpRequestEventToProto (he : HTTPRequestEvent) : HTTPRequestEventProto where
  timestampNs := he.timestamp.unixNano
  node := he.node
  source := some (endpointToProto he.source)
  destination := some (endpointToProto he.destination)
  method := he.method
  path := he.path
  statusCode := he.statusCode.toUInt32
  latencyNs := he.latencyNs
  protocol := he.protocol

end Exporter
end Nefi
