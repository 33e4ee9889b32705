import Mathlib.Data.UInt
import Mathlib.Data.Rat.Defs

/-!
# The event model of `internal/model/event.go`

Every component of the pipeline passes the same few records around: an `Endpoint` with its
optional workload identity, the two kinds of observation (`ConnectionEvent` for an L4 flow,
`HTTPRequestEvent` for an L7 exchange), and the `TimeSeriesPoint` the aggregator emits.  This
file fixes how the Go types they are built from are read in Lean, once, so that the decoder, the
exporter, the ingestion server and the aggregator all speak about the same values.

## The dictionary

* A Go `string` is a sequence of bytes, not of characters: the kernel hands the decoder raw path
  bytes, and `stripReplicaSetHash` counts bytes.  So `GoString` is `List UInt8`, and a string
  literal of the source is its UTF-8 bytes (`GoString.ofString`, a coercion).
* `uint8` ... `uint64` are `UInt8` ... `UInt64`, which wrap as Go's do.  An `int64` field is an
  `Int` that the code keeps in range; `goInt64` is Go's conversion to `int64`.
* A `time.Time` is the instant it denotes, in nanoseconds since the Unix epoch (`Time`).  Its
  monotonic reading and location are never compared by the code modelled here.
* A `float64` value that the code only computes and writes is a rational number.  The one place
  where rounding could matter, comparing a latency with a bucket boundary, is discussed where it
  happens.
* A field a Go composite literal leaves out holds its type's zero value, so the structures give
  every field but the timestamp its zero value as default, and a literal of the source reads the
  same in Lean.
* The `interface{}` that the loader's channel and the exporter's queue carry holds one of the two
  event types (`processEvents` enqueues nothing else), so it is the sum type `Event`.
-/

namespace Nefi

/-- A Go `string`: an immutable sequence of bytes. -/
abbrev GoString := List UInt8

namespace GoString

/-- A string literal of the source: the UTF-8 bytes the Go compiler stores for it. -/
@[coe] def ofString (s : String) : GoString := s.toUTF8.data.toList

instance : Coe String GoString := ⟨ofString⟩

end GoString

/-- Go's conversion `int64(x)` of an integer of another type: the two's-complement wrap of `x`
into `[-2^63, 2^63)`. -/
def goInt64 (x : Int) : Int := Int.bmod x (2 ^ 64)

/-- `(a + b).toNat` in `uint64` arithmetic. -/
theorem toNat_add_uint64 (a b : UInt64) : (a + b).toNat = (a.toNat + b.toNat) % 2 ^ 64 := rfl

@[simp] theorem toNat_mod_uint64 (a : UInt64) : a.toNat % 2 ^ 64 = a.toNat :=
  Nat.mod_eq_of_lt a.toNat_lt_size

/-- `uint64(a) + uint64(b) = uint64(a + b)`: both sides wrap at `2^64`. -/
theorem toUInt64_add_toUInt64 (a b : Nat) : a.toUInt64 + b.toUInt64 = (a + b).toUInt64 := by
  apply UInt64.toNat.inj
  rw [toNat_add_uint64]
  show (a % 2 ^ 64 + b % 2 ^ 64) % 2 ^ 64 = (a + b) % 2 ^ 64
  omega

@[simp] theorem toUInt64_zero : (0 : Nat).toUInt64 = 0 := rfl

theorem toNat_toUInt64 (n : Nat) : n.toUInt64.toNat = n % 2 ^ 64 := rfl

/-- Below `2^64` the conversion to `uint64` keeps the order. -/
theorem toUInt64_le_toUInt64 {m n : Nat} (h : m ≤ n) (hn : n < 2 ^ 64) :
    m.toUInt64 ≤ n.toUInt64 := by
  show m.toUInt64.toNat ≤ n.toUInt64.toNat
  rw [toNat_toUInt64, toNat_toUInt64, Nat.mod_eq_of_lt hn, Nat.mod_eq_of_lt (by omega)]
  exact h

/-- A `time.Time`, as the instant it denotes: nanoseconds since the Unix epoch. -/
structure Time where
  unixNs : Int
  deriving DecidableEq, Repr

namespace Time

/-- `time.Unix(0, nsec)`. -/
def unix (nsec : Int) : Time := ⟨nsec⟩

/-- `t.UnixNano()`.  Go computes `sec*1e9 + nsec` in `int64` arithmetic, so outside the `int64`
range the result wraps; the documentation calls it undefined there. -/
def unixNano (t : Time) : Int := goInt64 t.unixNs

@[simp] theorem unix_unixNs (nsec : Int) : (unix nsec).unixNs = nsec := rfl

/-- Inside the `int64` range `UnixNano` is exact. -/
theorem unixNano_of_mem {t : Time} (lo : -2 ^ 63 ≤ t.unixNs) (hi : t.unixNs < 2 ^ 63) :
    t.unixNano = t.unixNs := by
  unfold unixNano goInt64
  rw [Int.bmod_def]
  split <;> omega

end Time

/-- `model.Endpoint`: a network peer and the workload identity enrichment found for it. -/
structure Endpoint where
  ip : GoString := []
  port : UInt16 := 0
  pod : GoString := []
  «namespace» : GoString := []
  workload : GoString := []
  workloadType : GoString := []
  service : GoString := []
  deriving DecidableEq, Repr

/-- `model.ConnectionEvent`: one completed L4 flow. -/
structure ConnectionEvent where
  timestamp : Time
  node : GoString := []
  source : Endpoint := {}
  destination : Endpoint := {}
  bytesSent : UInt64 := 0
  bytesRecv : UInt64 := 0
  durationNs : UInt64 := 0
  retransmits : UInt32 := 0
  protocol : GoString := []
  deriving DecidableEq, Repr

/-- `model.HTTPRequestEvent`: one L7 exchange. -/
structure HTTPRequestEvent where
  timestamp : Time
  node : GoString := []
  source : Endpoint := {}
  destination : Endpoint := {}
  method : GoString := []
  path : GoString := []
  statusCode : UInt16 := 0
  latencyNs : UInt64 := 0
  protocol : GoString := []
  deriving DecidableEq, Repr

/-- The `interface{}` values of the loader's channel and of the exporter's queue: a connection
event or a request event, with the tag the type switches read. -/
inductive Event where
  | connection (e : ConnectionEvent)
  | httpRequest (e : HTTPRequestEvent)
  deriving DecidableEq, Repr

namespace Event

/-- The connection event an `Event` holds, if it holds one. -/
def connection? : Event → Option ConnectionEvent
  | connection e => some e
  | httpRequest _ => none

/-- The request event an `Event` holds, if it holds one. -/
def httpRequest? : Event → Option HTTPRequestEvent
  | connection _ => none
  | httpRequest e => some e

end Event

/-- `model.TimeSeriesPoint`.  The label map is kept as the list of its pairs, in the order the
aggregator inserts them. -/
structure TimeSeriesPoint where
  timestamp : Time
  value : ℚ
  labels : List (GoString × GoString)
  deriving DecidableEq

end Nefi
