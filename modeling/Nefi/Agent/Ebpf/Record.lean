import Nefi.Model.Event
import Mathlib.Data.List.GetD

/-!
# Decoding kernel records: `readConnEvents` and `readHTTPEvents`

The probes emit fixed-layout records into perf buffers, and the loader turns each raw sample into a
typed event.  For every sample the two decode loops of `internal/agent/ebpf/loader.go` do the same
three things: skip it when the kernel reports lost samples, skip it when it is shorter than the
expected size, and otherwise read the fields at fixed offsets with `binary.LittleEndian` and
convert them with `connEventToModel` or `httpEventToModel`.

## The two layouts

The expected size is `unsafe.Sizeof` of the Go mirror structs `ConnEvent` and `HttpEvent`, whose
comments say they mirror the *packed* C structs.  A Go struct is not packed: every field sits at an
offset aligned for its type, and the struct's size is rounded up to its largest alignment.  So this
file models two things side by side.

* Go's layout rule (`GoType`, `sizeofStruct`), applied to the field lists of the two mirror structs.
  On a 64-bit target it gives 56 and 168 bytes.
* The packed records of the specification (`encodeConnRecord`, `encodeHttpRecord`): the same
  fields, little-endian, with no padding, which is also the offsets the decoder reads.  They are
  52 and 159 bytes long.

`readEvents_drop_packed` is the consequence: the length check rejects every packed record, whatever
its fields, before any field is read.  The offsets themselves are right: `connSample_append` and
`httpSample_append` decode a packed record field for field as soon as the sample is long enough to
pass the check.

## Decoding

* `leNat` is `binary.LittleEndian` on a slice, `toLE` its inverse (`leNat_toLE`).
* `decodeConnEvent` and `decodeHttpEvent` read the fields at the fixed offsets of the source.
* `intToIPv4` prints the four bytes of an address word, low byte first, as a dotted quad.
* `pathLen` is the loop of `httpEventToModel` that finds the terminating NUL.
-/

namespace Nefi
namespace Ebpf

/-! ## Go's struct layout -/

/-- The field types that occur in the two mirror structs. -/
inductive GoType where
  | uint8
  | uint16
  | uint32
  | uint64
  | array (n : Nat) (elem : GoType)

namespace GoType

/-- `unsafe.Sizeof` of a value of the type. -/
def size : GoType → Nat
  | uint8 => 1
  | uint16 => 2
  | uint32 => 4
  | uint64 => 8
  | array n t => n * t.size

/-- `unsafe.Alignof` on a 64-bit target (amd64, arm64), where the agent runs as a DaemonSet. -/
def align : GoType → Nat
  | uint8 => 1
  | uint16 => 2
  | uint32 => 4
  | uint64 => 8
  | array _ t => t.align

end GoType

/-- `off` rounded up to a multiple of `a`. -/
def alignUp (off a : Nat) : Nat := (off + a - 1) / a * a

/-- `unsafe.Sizeof` of a struct with these fields: each field is placed at the first offset after
the previous one that is aligned for it, and the end is rounded up to the largest alignment. -/
def sizeofStruct (fields : List GoType) : Nat :=
  alignUp (fields.foldl (fun off t => alignUp off t.align + t.size) 0)
    (fields.foldl (fun a t => max a t.align) 1)

/-- The fields of the Go `ConnEvent`, in declaration order; the last is `Pad [3]uint8`. -/
def connEventFields : List GoType :=
  [.uint64, .uint32, .uint32, .uint16, .uint16, .uint64, .uint64, .uint64, .uint32, .uint8,
    .array 3 .uint8]

/-- The fields of the Go `HttpEvent`, in declaration order; the last is `Pad [1]uint8`. -/
def httpEventFields : List GoType :=
  [.uint64, .uint32, .uint32, .uint16, .uint16, .uint8, .uint16, .uint64, .array 128 .uint8,
    .array 1 .uint8]

/-- `int(unsafe.Sizeof(ConnEvent{}))`, the threshold of `readConnEvents`. -/
def connExpectedSize : Nat := sizeofStruct connEventFields

/-- `int(unsafe.Sizeof(HttpEvent{}))`, the threshold of `readHTTPEvents`. -/
def httpExpectedSize : Nat := sizeofStruct httpEventFields

theorem connExpectedSize_eq : connExpectedSize = 56 := by decide

theorem httpExpectedSize_eq : httpExpectedSize = 168 := by decide

/-! ## Little-endian words -/

/-- The natural number whose little-endian bytes are `b`. -/
def leNat : List UInt8 → Nat
  | [] => 0
  | x :: b => x.toNat + 256 * leNat b

/-- The `w` little-endian bytes of `n`; bits above `8 * w` are dropped. -/
def toLE : Nat → Nat → List UInt8
  | 0, _ => []
  | w + 1, n => UInt8.ofNat n :: toLE w (n / 256)

@[simp] theorem length_toLE (w n : Nat) : (toLE w n).length = w := by
  induction w generalizing n with
  | zero => rfl
  | succ w ih => simp [toLE, ih]

theorem leNat_toLE (w n : Nat) : leNat (toLE w n) = n % 256 ^ w := by
  induction w generalizing n with
  | zero => simp [toLE, leNat, Nat.mod_one]
  | succ w ih =>
    have h : (UInt8.ofNat n).toNat = n % 256 := rfl
    rw [toLE, leNat, ih, h, pow_succ', Nat.mod_mul]

/-- `binary.LittleEndian.Uint16`. -/
def uint16LE (b : List UInt8) : UInt16 := UInt16.ofNat (leNat (b.take 2))

/-- `binary.LittleEndian.Uint32`. -/
def uint32LE (b : List UInt8) : UInt32 := UInt32.ofNat (leNat (b.take 4))

/-- `binary.LittleEndian.Uint64`. -/
def uint64LE (b : List UInt8) : UInt64 := UInt64.ofNat (leNat (b.take 8))

@[simp] theorem uint16LE_toLE (x : UInt16) : uint16LE (toLE 2 x.toNat) = x := by
  have hx : x.toNat < 256 ^ 2 := x.toNat_lt_size
  apply UInt16.toNat.inj
  rw [uint16LE, List.take_of_length_le (by simp), leNat_toLE, Nat.mod_eq_of_lt hx,
    UInt16.toNat_ofNat_of_lt hx]

@[simp] theorem uint32LE_toLE (x : UInt32) : uint32LE (toLE 4 x.toNat) = x := by
  have hx : x.toNat < 256 ^ 4 := x.toNat_lt_size
  apply UInt32.toNat.inj
  rw [uint32LE, List.take_of_length_le (by simp), leNat_toLE, Nat.mod_eq_of_lt hx,
    UInt32.toNat_ofNat_of_lt hx]

@[simp] theorem uint64LE_toLE (x : UInt64) : uint64LE (toLE 8 x.toNat) = x := by
  have hx : x.toNat < 256 ^ 8 := x.toNat_lt_size
  apply UInt64.toNat.inj
  rw [uint64LE, List.take_of_length_le (by simp), leNat_toLE, Nat.mod_eq_of_lt hx,
    UInt64.toNat_ofNat_of_lt hx]

/-- `raw[lo:hi]`. -/
def slice (raw : List UInt8) (lo hi : Nat) : List UInt8 := (raw.drop lo).take (hi - lo)

theorem slice_zero {l : List UInt8} {hi : Nat} (h : l.length = hi) : slice l 0 hi = l := by
  rw [slice, List.drop_zero, List.take_of_length_le (by omega)]

/-- A slice that ends inside the first part reads only the first part. -/
theorem slice_append_left {l₁ l₂ : List UInt8} {lo hi : Nat} (h : hi ≤ l₁.length) :
    slice (l₁ ++ l₂) lo hi = slice l₁ lo hi := by
  rw [slice, slice, List.drop_append_eq_append_drop,
    List.take_append_of_le_length (by simp only [List.length_drop]; omega)]

/-- A slice that covers exactly the second part is the second part. -/
theorem slice_append_right {l₁ l₂ : List UInt8} {lo hi : Nat} (h₁ : l₁.length = lo)
    (h₂ : l₂.length = hi - lo) : slice (l₁ ++ l₂) lo hi = l₂ := by
  rw [slice, List.drop_left' h₁, List.take_of_length_le (by omega)]

/-- `copy(dst, src)` into a fixed-size array: the first `min` bytes of `src` overwrite `dst`. -/
def goCopy (dst src : List UInt8) : List UInt8 := src.take dst.length ++ dst.drop src.length

@[simp] theorem length_goCopy (dst src : List UInt8) : (goCopy dst src).length = dst.length := by
  simp only [goCopy, List.length_append, List.length_take, List.length_drop]
  omega

theorem goCopy_of_length_eq {dst src : List UInt8} (h : src.length = dst.length) :
    goCopy dst src = src := by
  simp [goCopy, ← h]

/-! ## The mirror structs -/

/-- The Go `ConnEvent`.  Its `Pad [3]uint8` is in `connEventFields` but not here: nothing reads
it. -/
structure ConnEvent where
  timestampNs : UInt64
  srcIP : UInt32
  dstIP : UInt32
  srcPort : UInt16
  dstPort : UInt16
  bytesSent : UInt64
  bytesRecv : UInt64
  durationNs : UInt64
  retransmits : UInt32
  protocol : UInt8
  deriving DecidableEq, Repr

/-- The Go `HttpEvent`, without its `Pad [1]uint8`.  `Path` is a `[128]byte` array, so the
structure carries its length. -/
@[ext] structure HttpEvent where
  timestampNs : UInt64
  srcIP : UInt32
  dstIP : UInt32
  srcPort : UInt16
  dstPort : UInt16
  method : UInt8
  statusCode : UInt16
  latencyNs : UInt64
  path : List UInt8
  path_length : path.length = 128
  deriving DecidableEq

/-- The field reads of `readConnEvents`, from `ce.TimestampNs = ...Uint64(raw[0:8])` to
`ce.Protocol = raw[48]`.  The length check before them guarantees every index is in range. -/
def decodeConnEvent (raw : List UInt8) : ConnEvent where
  timestampNs := uint64LE (slice raw 0 8)
  srcIP := uint32LE (slice raw 8 12)
  dstIP := uint32LE (slice raw 12 16)
  srcPort := uint16LE (slice raw 16 18)
  dstPort := uint16LE (slice raw 18 20)
  bytesSent := uint64LE (slice raw 20 28)
  bytesRecv := uint64LE (slice raw 28 36)
  durationNs := uint64LE (slice raw 36 44)
  retransmits := uint32LE (slice raw 44 48)
  protocol := raw.getD 48 0

/-- The field reads of `readHTTPEvents`, ending with `copy(he.Path[:], raw[31:159])` into the
zeroed array. -/
def decodeHttpEvent (raw : List UInt8) : HttpEvent where
  timestampNs := uint64LE (slice raw 0 8)
  srcIP := uint32LE (slice raw 8 12)
  dstIP := uint32LE (slice raw 12 16)
  srcPort := uint16LE (slice raw 16 18)
  dstPort := uint16LE (slice raw 18 20)
  method := raw.getD 20 0
  statusCode := uint16LE (slice raw 21 23)
  latencyNs := uint64LE (slice raw 23 31)
  path := goCopy (List.replicate 128 0) (slice raw 31 159)
  path_length := by simp

/-! ## Conversion to the event model -/

/-- An octet as `net.IP.String` prints it: in decimal. -/
def decimal (n : Nat) : GoString := GoString.ofString (toString n)

/-- The dotted quad `a.b.c.d`. -/
def dottedQuad (a b c d : UInt8) : GoString :=
  decimal a.toNat ++ [46] ++ decimal b.toNat ++ [46] ++ decimal c.toNat ++ [46] ++ decimal d.toNat

/-- `intToIPv4`: `net.IPv4(byte(ip), byte(ip>>8), byte(ip>>16), byte(ip>>24)).String()`. -/
def intToIPv4 (ip : UInt32) : GoString :=
  dottedQuad (UInt8.ofNat ip.toNat) (UInt8.ofNat (ip.toNat >>> 8)) (UInt8.ofNat (ip.toNat >>> 16))
    (UInt8.ofNat (ip.toNat >>> 24))

/-- The address word read from four buffer bytes prints as those bytes, in buffer order. -/
theorem intToIPv4_uint32LE (a b c d : UInt8) :
    intToIPv4 (uint32LE [a, b, c, d]) = dottedQuad a b c d := by
  -- a little-endian word: its low byte, and the word above it
  have low (x : UInt8) (y : Nat) : UInt8.ofNat (x.toNat + 256 * y) = x :=
    UInt8.toNat.inj (by
      show (x.toNat + 256 * y) % 256 = x.toNat
      have : x.toNat < 256 := x.toNat_lt_size
      omega)
  have high (x : UInt8) (y : Nat) : (x.toNat + 256 * y) / 256 = y := by
    have : x.toNat < 256 := x.toNat_lt_size
    omega
  have hw : (uint32LE [a, b, c, d]).toNat =
      a.toNat + 256 * (b.toNat + 256 * (c.toNat + 256 * (d.toNat + 256 * 0))) := by
    have := a.toNat_lt_size; have := b.toNat_lt_size; have := c.toNat_lt_size
    have := d.toNat_lt_size
    rw [uint32LE, List.take_of_length_le (by simp), UInt32.toNat_ofNat_of_lt]
    · rfl
    · simp only [leNat, UInt32.size, UInt8.size] at *
      omega
  have h16 (n : Nat) : n >>> 16 = n / 256 / 256 := by
    rw [Nat.shiftRight_eq_div_pow, Nat.div_div_eq_div_mul]
  have h24 (n : Nat) : n >>> 24 = n / 256 / 256 / 256 := by
    rw [Nat.shiftRight_eq_div_pow, Nat.div_div_eq_div_mul, Nat.div_div_eq_div_mul]
  have h8 (n : Nat) : n >>> 8 = n / 256 := by rw [Nat.shiftRight_eq_div_pow]
  simp only [intToIPv4, hw, h8, h16, h24, high, low]

/-- `httpMethods`, the method byte's names. -/
def httpMethods : List (UInt8 × GoString) :=
  [(0, "UNKNOWN"), (1, "GET"), (2, "POST"), (3, "PUT"), (4, "DELETE"), (5, "PATCH"), (6, "HEAD"),
    (7, "OPTIONS")]

/-- The loop of `httpEventToModel` over `pathBytes`: at index `i`, a NUL sets `pathLen = i` and
breaks, any other byte sets `pathLen = i + 1`. -/
def pathLenLoop : Nat → Nat → List UInt8 → Nat
  | _, pathLen, [] => pathLen
  | i, _, b :: bs => if b = 0 then i else pathLenLoop (i + 1) (i + 1) bs

/-- Before a NUL, the loop counts the bytes it passes. -/
theorem pathLenLoop_append_nul (i k : Nat) {p : List UInt8} (hp : 0 ∉ p) (rest : List UInt8) :
    pathLenLoop i k (p ++ 0 :: rest) = i + p.length := by
  induction p generalizing i k with
  | nil => simp [pathLenLoop]
  | cons b p ih =>
    have hb : b ≠ 0 := fun h => hp (h ▸ List.mem_cons_self b p)
    rw [List.cons_append, pathLenLoop, if_neg hb, ih (i + 1) (i + 1) (fun h => hp (.tail b h))]
    simp only [List.length_cons]
    omega

/-- `connEventToModel`. -/
def connEventToModel (ce : ConnEvent) : ConnectionEvent where
  timestamp := Time.unix (goInt64 ce.timestampNs.toNat)
  source := { ip := intToIPv4 ce.srcIP, port := ce.srcPort }
  destination := { ip := intToIPv4 ce.dstIP, port := ce.dstPort }
  bytesSent := ce.bytesSent
  bytesRecv := ce.bytesRecv
  durationNs := ce.durationNs
  retransmits := ce.retransmits
  protocol := if ce.protocol = 17 then "UDP" else "TCP"

/-- `httpEventToModel`. -/
def httpEventToModel (he : HttpEvent) : HTTPRequestEvent where
  timestamp := Time.unix (goInt64 he.timestampNs.toNat)
  source := { ip := intToIPv4 he.srcIP, port := he.srcPort }
  destination := { ip := intToIPv4 he.dstIP, port := he.dstPort }
  method := (httpMethods.lookup he.method).getD "UNKNOWN"
  path := he.path.take (pathLenLoop 0 0 he.path)
  statusCode := he.statusCode
  latencyNs := he.latencyNs
  protocol := "HTTP"

/-- A NUL-terminated path field decodes to the bytes before the NUL. -/
theorem httpEventToModel_path {he : HttpEvent} {p rest : List UInt8} (hp : 0 ∉ p)
    (hpath : he.path = p ++ 0 :: rest) : (httpEventToModel he).path = p := by
  simp [httpEventToModel, hpath, pathLenLoop_append_nul 0 0 hp]

/-! ## The decode loops -/

/-- A record returned by `perf.Reader.Read`. -/
structure PerfRecord where
  rawSample : List UInt8
  lostSamples : UInt64

/-- What one call of `Read` gives a decode loop: a record, an error for which
`perf.IsUnknownEvent` holds (the loop continues), or any other error (the loop returns). -/
inductive PerfRead where
  | record (r : PerfRecord)
  | unknownEvent
  | failed

/-- One pass of a decode loop over a record: skipped (`none`) when samples were lost or the sample
is shorter than `expectedSize`, decoded otherwise. -/
def decodeSample {α : Type} (expectedSize : Nat) (decode : List UInt8 → α) (record : PerfRecord) :
    Option α :=
  if 0 < record.lostSamples then none
  else if record.rawSample.length < expectedSize then none
  else some (decode record.rawSample)

/-- The events a decode loop sends on `l.events`, given what its successive `Read`s return. -/
def readLoop {α : Type} (sample : PerfRecord → Option α) : List PerfRead → List α
  | [] => []
  | .record r :: rs => (sample r).toList ++ readLoop sample rs
  | .unknownEvent :: rs => readLoop sample rs
  | .failed :: _ => []

/-- The per-record body of `readConnEvents`. -/
def connSample : PerfRecord → Option ConnectionEvent :=
  decodeSample connExpectedSize fun raw => connEventToModel (decodeConnEvent raw)

/-- The per-record body of `readHTTPEvents`. -/
def httpSample : PerfRecord → Option HTTPRequestEvent :=
  decodeSample httpExpectedSize fun raw => httpEventToModel (decodeHttpEvent raw)

/-- `readConnEvents`. -/
def readConnEvents : List PerfRead → List ConnectionEvent := readLoop connSample

/-- `readHTTPEvents`. -/
def readHTTPEvents : List PerfRead → List HTTPRequestEvent := readLoop httpSample

/-! ## The packed records of the specification -/

/-- The connection record of the specification: the fields of `ConnEvent` packed little-endian in
declaration order, then three pad bytes, 52 in all. -/
def encodeConnRecord (ce : ConnEvent) : List UInt8 :=
  toLE 8 ce.timestampNs.toNat ++ toLE 4 ce.srcIP.toNat ++ toLE 4 ce.dstIP.toNat ++
    toLE 2 ce.srcPort.toNat ++ toLE 2 ce.dstPort.toNat ++ toLE 8 ce.bytesSent.toNat ++
    toLE 8 ce.bytesRecv.toNat ++ toLE 8 ce.durationNs.toNat ++ toLE 4 ce.retransmits.toNat ++
    [ce.protocol, 0, 0, 0]

/-- The request record of the specification: the fields of `HttpEvent` packed little-endian, the
128 path bytes last, 159 in all. -/
def encodeHttpRecord (he : HttpEvent) : List UInt8 :=
  toLE 8 he.timestampNs.toNat ++ toLE 4 he.srcIP.toNat ++ toLE 4 he.dstIP.toNat ++
    toLE 2 he.srcPort.toNat ++ toLE 2 he.dstPort.toNat ++ [he.method] ++
    toLE 2 he.statusCode.toNat ++ toLE 8 he.latencyNs.toNat ++ he.path

@[simp] theorem length_encodeConnRecord (ce : ConnEvent) : (encodeConnRecord ce).length = 52 := by
  simp [encodeConnRecord]

@[simp] theorem length_encodeHttpRecord (he : HttpEvent) : (encodeHttpRecord he).length = 159 := by
  simp [encodeHttpRecord, he.path_length]

/-- The offsets of `decodeConnEvent` are those of the packed record. -/
theorem decodeConnEvent_append (ce : ConnEvent) (extra : List UInt8) :
    decodeConnEvent (encodeConnRecord ce ++ extra) = ce := by
  simp (disch := simp only [List.length_append, length_toLE, List.length_cons, List.length_nil,
      Nat.reduceAdd, Nat.reduceLeDiff, Nat.reduceLT, Nat.reduceSub]) only [decodeConnEvent, encodeConnRecord,
    slice_append_left, slice_append_right, slice_zero, List.getD_append, List.getD_append_right,
    List.getD_cons_zero, List.length_append, length_toLE, Nat.reduceAdd, Nat.reduceSub,
    uint64LE_toLE, uint32LE_toLE, uint16LE_toLE]

/-- The offsets of `decodeHttpEvent` are those of the packed record. -/
theorem decodeHttpEvent_append (he : HttpEvent) (extra : List UInt8) :
    decodeHttpEvent (encodeHttpRecord he ++ extra) = he := by
  obtain ⟨ts, src, dst, sp, dp, m, st, lat, p, hp⟩ := he
  simp (disch := simp only [List.length_append, length_toLE, List.length_cons, List.length_nil,
      List.length_replicate, hp, Nat.reduceAdd, Nat.reduceLeDiff, Nat.reduceLT, Nat.reduceSub])
    only [decodeHttpEvent, encodeHttpRecord, slice_append_left, slice_append_right, slice_zero,
    List.getD_append, List.getD_append_right, List.getD_cons_zero, List.length_append, length_toLE,
    Nat.reduceAdd, Nat.reduceSub, uint64LE_toLE, uint32LE_toLE, uint16LE_toLE, goCopy_of_length_eq]

/-- A packed connection record followed by enough bytes to pass the length check decodes field
for field. -/
theorem connSample_append (ce : ConnEvent) {extra : List UInt8} (h : 4 ≤ extra.length) :
    connSample ⟨encodeConnRecord ce ++ extra, 0⟩ = some (connEventToModel ce) := by
  simp [connSample, decodeSample, connExpectedSize_eq, decodeConnEvent_append]
  omega

/-- A packed request record followed by enough bytes to pass the length check decodes field for
field. -/
theorem httpSample_append (he : HttpEvent) {extra : List UInt8} (h : 9 ≤ extra.length) :
    httpSample ⟨encodeHttpRecord he ++ extra, 0⟩ = some (httpEventToModel he) := by
  simp [httpSample, decodeSample, httpExpectedSize_eq, decodeHttpEvent_append]
  omega

/-- **The length checks reject every packed record.**  Whatever its fields, a packed connection
record (52 bytes) is shorter than `unsafe.Sizeof(ConnEvent{})` (56) and a packed request record
(159 bytes) is shorter than `unsafe.Sizeof(HttpEvent{})` (168), so each is skipped and the decode
loop sends exactly what it would have sent without it. -/
theorem readEvents_drop_packed (ce : ConnEvent) (he : HttpEvent) (lost : UInt64)
    (rs : List PerfRead) :
    readConnEvents (.record ⟨encodeConnRecord ce, lost⟩ :: rs) = readConnEvents rs ∧
      readHTTPEvents (.record ⟨encodeHttpRecord he, lost⟩ :: rs) = readHTTPEvents rs := by
  constructor <;>
    simp [readConnEvents, readHTTPEvents, readLoop, connSample, httpSample, decodeSample,
      connExpectedSize_eq, httpExpectedSize_eq]

end Ebpf
end Nefi
