import Nefi.Model.Event
import Nefi.Bpf.Maps
import Nefi.Agent.Ebpf.Record
import Nefi.Bpf.ConnectionTracker
import Nefi.Bpf.HttpParser
import Nefi.Bpf.DnsTracker
import Nefi.Agent.Ebpf.Lifecycle
import Nefi.Agent.Ebpf.Start
import Nefi.Agent.Exporter.Proto
import Nefi.Agent.Exporter.Queue
import Nefi.Agent.Exporter.Reconnect
import Nefi.Agent.K8s.Cache
import Nefi.Agent.K8s.Informers
import Nefi.Server.Ingestion
import Nefi.Server.Metrics.Histogram
import Nefi.Server.Metrics.Aggregator
import Nefi.Server.Metrics.Entry
import Nefi.Server.Metrics.Percentile
import Nefi.Server.Metrics.Window
import Nefi.Server.Stream
import Nefi.Server.Bulk
import Nefi.Server.Dependencies
import Nefi.Server.Topology
import Nefi.Server.Traffic
import Nefi.Server.Search
import Nefi.Server.MetricSearch
import Nefi.Server.Broadcast
import Nefi.Server.Params
import Nefi.Pipeline
import Nefi.Server.Services
