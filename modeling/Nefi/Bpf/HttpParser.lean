import Nefi.Bpf.Maps
import Nefi.Agent.Ebpf.Record

/-!
# The HTTP probes: `bpf/http_parser.c`

Three programs watch TCP sockets.  `trace_tcp_sendmsg` reads 256 bytes, recognises a request by
their first four (`detect_method`), copies the path (`parse_path`), records the send time under the
socket's 4-tuple in `http_req_start`, and writes a request record.  The
kprobe and kretprobe on `tcp_recvmsg` pass the socket from entry to return through `active_recv`,
keyed by `pid_tgid`, under the *swapped* tuple; at the return, if `http_req_start` holds that
tuple, they write a record with the latency since it and delete it.

## What is modelled

`Probes` is the two maps and the records written to `http_events`.  A `ProbeEvent` is one program
run, with what it reads from the kernel: the socket (`none` for NULL), the task's `pid_tgid`, the
clock, and for a send the two reads below.  The programs are `traceTcpSendmsg`,
`traceTcpRecvmsgEnter` and `traceTcpRecvmsgExit`, and the records they write are the Go mirror
`HttpEvent` of `Ebpf.Record`, whose fields are those of `struct http_event`.

The send probe reads 8 bytes at `msg + 16` and takes them for a pointer (`iter`), then reads its
256 bytes from that address.  At `msg + 16` lies `msg_iter` itself, and a `struct iov_iter` opens
with its type and flags (`iter_type`, `nofault`, `data_source` and padding on Linux 6), not with a
pointer to the data: for a `send` from user space the word is `0x10000`.  So the bytes the probe
parses are whatever memory lies at that small address, and never the message being sent.  Both
reads are inputs here (`none` for a NULL `msg` or a failed read), and the results say what the
probe does with the bytes it reads.
`parse_status_code` is never called and is left out; every record's status is 0.

`struct http_event` is not packed: clang aligns `status_code` to offset 22 and `latency_ns` to 24,
so the record is 168 bytes (`httpEventBytes`).  The Go decoder reads the packed offsets 21, 23 and
31 of the specification.

## Results

* `parsePath_zeros`, `sendmsg_request_record`: when the bytes read from the address in the first
  word of `msg_iter` start `METHOD SP rest`, an IPv4 socket's send gives a record with the method's
  code, the socket's tuple, and as path the bytes of `rest` up to the first space, `?`, CR, LF or
  NUL, at most 127 of them, NUL-padded.
* `httpEventBytes_eq`, `httpSample_httpEventBytes`: the C layout is the packed layout of a record
  whose latency is shifted one byte, so that is what the Go decoder reads.
* `records_decode_shifted`: over every run, every record decodes in Go with status 0, latency
  multiplied by 256, and, for a request, an empty path.
* `run_paired`: over every run, each response record answers the latest request record of its
  tuple, with no other response of the tuple between them, and its latency is the time since.
* `recvmsgExit_peer`: the record a return writes carries the swap of the tuple of the socket the
  task entered `tcp_recvmsg` with, so the request it answers was sent from the peer socket.
-/

namespace Nefi
namespace Bpf

open Ebpf (HttpEvent uint32LE httpMethods toLE)

/-! ## Parsing -/

/-- `HTTP_GET`, `"GET "` as a little-endian word. -/
def httpGet : UInt32 := 0x20544547

/-- `HTTP_POST`. -/
def httpPost : UInt32 := 0x54534F50

/-- `HTTP_PUT`. -/
def httpPut : UInt32 := 0x20545550

/-- `HTTP_DEL`. -/
def httpDel : UInt32 := 0x454C4544

/-- `HTTP_PAT`. -/
def httpPat : UInt32 := 0x43544150

/-- `HTTP_HEA`. -/
def httpHea : UInt32 := 0x44414548

/-- `HTTP_OPT`. -/
def httpOpt : UInt32 := 0x4954504F

/-- `detect_method`. -/
def detectMethod (firstWord : UInt32) : UInt8 :=
  if firstWord = httpGet then 1
  else if firstWord = httpPost then 2
  else if firstWord = httpPut then 3
  else if firstWord = httpDel then 4
  else if firstWord = httpPat then 5
  else if firstWord = httpHea then 6
  else if firstWord = httpOpt then 7
  else 0

/-- The bytes at which `parse_path` stops: space, `?`, CR, LF and NUL. -/
def isPathEnd (c : UInt8) : Bool := c == 32 || c == 63 || c == 13 || c == 10 || c == 0

/-- The loop of `parse_path` from index `j` with `fuel` iterations of its bound left, then the
closing `dst[j] = 0`. -/
def parsePathLoop (payload : List UInt8) (i : Nat) : Nat → Nat → List UInt8 → List UInt8
  | j, 0, dst => dst.set j 0
  | j, fuel + 1, dst =>
    let c := payload.getD (i + j) 0
    if isPathEnd c then dst.set j 0 else parsePathLoop payload i (j + 1) fuel (dst.set j c)

/-- `parse_path(payload, offset, dst, max_len)`: the array `dst` after the call (the caller drops
the returned length).  The loop runs while `j < 127 && j < max_len`. -/
def parsePath (payload : List UInt8) (offset : Nat) (dst : List UInt8) (maxLen : Nat) :
    List UInt8 :=
  parsePathLoop payload offset 0 (min 127 maxLen) dst

@[simp] theorem length_parsePathLoop (payload : List UInt8) (i j fuel : Nat) (dst : List UInt8) :
    (parsePathLoop payload i j fuel dst).length = dst.length := by
  induction fuel generalizing j dst with
  | zero => simp [parsePathLoop]
  | succ fuel ih =>
    simp only [parsePathLoop]
    split <;> simp [ih]

@[simp] theorem length_parsePath (payload : List UInt8) (offset : Nat) (dst : List UInt8)
    (maxLen : Nat) : (parsePath payload offset dst maxLen).length = dst.length :=
  length_parsePathLoop ..

/-- The switch of `trace_tcp_sendmsg` that skips the method and its space. -/
def pathOffset (method : UInt8) : Nat :=
  if method = 1 then 4
  else if method = 2 then 5
  else if method = 3 then 4
  else if method = 4 then 7
  else if method = 5 then 6
  else if method = 6 then 5
  else if method = 7 then 8
  else 0

/-- The path `parse_path` extracts from the bytes after the method: the run before the first
delimiter, at most `n` bytes. -/
def pathRun (n : Nat) (rest : List UInt8) : List UInt8 :=
  (rest.takeWhile fun c => !isPathEnd c).take n

theorem set_length_replicate_zero (pre : List UInt8) (n : Nat) :
    (pre ++ List.replicate (n + 1) 0).set pre.length 0 = pre ++ List.replicate (n + 1) 0 := by
  rw [List.set_append_right _ _ (le_refl _), Nat.sub_self, List.replicate_succ, List.set_cons_zero]

/-- The loop on a zeroed array whose first `j` bytes are copied: it appends the path run. -/
theorem parsePathLoop_zeros (payload : List UInt8) (i fuel : Nat) (pre : List UInt8)
    (h : pre.length + fuel < 128) :
    parsePathLoop payload i pre.length fuel (pre ++ List.replicate (128 - pre.length) 0) =
      pre ++ pathRun fuel (payload.drop (i + pre.length)) ++
        List.replicate (128 - pre.length - (pathRun fuel (payload.drop (i + pre.length))).length)
          0 := by
  obtain ⟨n, hn⟩ : ∃ n, 128 - pre.length = n + 1 := ⟨127 - pre.length, by omega⟩
  induction fuel generalizing pre n with
  | zero => simp [parsePathLoop, pathRun, hn, set_length_replicate_zero]
  | succ fuel ih =>
    rw [parsePathLoop, getD_eq_headD_drop]
    rcases hd : payload.drop (i + pre.length) with _ | ⟨c, rest⟩
    · simp [pathRun, hn, set_length_replicate_zero, isPathEnd]
    by_cases hc : isPathEnd c
    · simp [pathRun, hc, hn, set_length_replicate_zero]
    -- a path byte: copy it and continue with one more byte copied
    have hrest : payload.drop (i + (pre ++ [c]).length) = rest := by
      rw [List.length_append, List.length_singleton, ← Nat.add_assoc, ← List.drop_drop, hd]
      rfl
    have hnext := ih (pre ++ [c]) (by simp; omega) (n - 1) (by simp; omega)
    rw [hrest, List.length_append, List.length_singleton,
      show 128 - (pre.length + 1) = n by omega] at hnext
    have hrun : pathRun (fuel + 1) (c :: rest) = c :: pathRun fuel rest := by simp [pathRun, hc]
    simp only [List.headD_cons, hc, Bool.false_eq_true, if_false]
    rw [List.set_append_right _ _ (le_refl _), Nat.sub_self, hn, List.replicate_succ,
      List.set_cons_zero, hrun, List.length_cons, Nat.add_sub_add_right]
    simpa only [List.append_assoc, List.singleton_append, List.cons_append] using hnext

/-- **What `parse_path` copies.**  Into the zeroed `path` array of a record, `parse_path` writes
the bytes from `offset` up to the first space, `?`, CR, LF or NUL, at most 127 of them, and leaves
the rest zero. -/
theorem parsePath_zeros (payload : List UInt8) (offset : Nat) :
    parsePath payload offset (List.replicate 128 0) 127 =
      pathRun 127 (payload.drop offset) ++
        List.replicate (128 - (pathRun 127 (payload.drop offset)).length) 0 := by
  simpa using parsePathLoop_zeros payload offset 127 [] (by decide)

/-- The seven request methods: the first word of `NAME SP` is recognised as the code Go names
`NAME`, and the path starts right after the space. -/
theorem detectMethod_httpMethods :
    ∀ m ∈ httpMethods, m.1 ≠ 0 →
      detectMethod (uint32LE (m.2 ++ [32])) = m.1 ∧ pathOffset m.1 = m.2.length + 1 ∧
        4 ≤ m.2.length + 1 := by
  decide

theorem uint32LE_append {l : List UInt8} (rest : List UInt8) (h : 4 ≤ l.length) :
    uint32LE (l ++ rest) = uint32LE l := by
  rw [uint32LE, uint32LE, List.take_append_of_le_length h]

/-! ## The programs -/

/-- The maps `http_req_start` and `active_recv`, and the records written to `http_events`. -/
structure Probes where
  httpReqStart : HashMap ConnKey UInt64 maxConnections
  activeRecv : HashMap UInt64 ConnKey 1024
  httpEvents : List HttpEvent

/-- The probes as the loader creates them. -/
def Probes.init : Probes := ⟨.empty, .empty, []⟩

/-- The record `trace_tcp_sendmsg` fills for a request from `key` with `method`. -/
def requestRecord (key : ConnKey) (payload : Payload) (method : UInt8) (ts : UInt64) :
    HttpEvent where
  timestampNs := ts
  srcIP := key.srcIP
  dstIP := key.dstIP
  srcPort := key.srcPort
  dstPort := key.dstPort
  method := method
  statusCode := 0
  latencyNs := 0
  path := parsePath payload.bytes (pathOffset method) (List.replicate 128 0) 127
  path_length := by simp

/-- `trace_tcp_sendmsg`, with `msgIter` the 8 bytes it reads at `msg + 16` (`none` for a NULL
`msg`), `payload` the 256 bytes it then reads from the address they hold (`none` when that read
fails), and `now` the value of `bpf_ktime_get_ns()` in this run. -/
def traceTcpSendmsg (s : Probes) (sk : Option Sock) (msgIter : Option UInt64)
    (payload : Option Payload) (now : UInt64) : Probes :=
  match sk with
  | none => s
  | some sk =>
    if sk.skcFamily ≠ afInet then s
    else
      match msgIter with
      | none => s
      | some iter =>
        if iter = 0 then s
        else
          match payload with
          | none => s
          | some payload =>
            let method := detectMethod (uint32LE payload.bytes)
            if method = 0 then s
            else
              let key := sk.connKey
              let ts := now
              { s with
                httpReqStart := s.httpReqStart.update key ts .any
                httpEvents := s.httpEvents ++ [requestRecord key payload method ts] }

/-- `trace_tcp_recvmsg_enter`: the socket's tuple, swapped, under the task's `pid_tgid`. -/
def traceTcpRecvmsgEnter (s : Probes) (pidTgid : UInt64) (sk : Option Sock) : Probes :=
  match sk with
  | none => s
  | some sk =>
    if sk.skcFamily ≠ afInet then s
    else
      let key := makeKey sk.skcDaddr sk.skcRcvSaddr (bpfNtohs sk.skcDport) sk.skcNum
      { s with activeRecv := s.activeRecv.update pidTgid key .any }

/-- The record `trace_tcp_recvmsg_exit` fills for tuple `k` answered at `now`. -/
def responseRecord (k : ConnKey) (latency now : UInt64) : HttpEvent where
  timestampNs := now
  srcIP := k.srcIP
  dstIP := k.dstIP
  srcPort := k.srcPort
  dstPort := k.dstPort
  method := 0
  statusCode := 0
  latencyNs := latency
  path := List.replicate 128 0
  path_length := List.length_replicate 128 0

/-- `trace_tcp_recvmsg_exit`, with `now` the value of `bpf_ktime_get_ns()` in this run. -/
def traceTcpRecvmsgExit (s : Probes) (pidTgid now : UInt64) : Probes :=
  match s.activeRecv.lookupElem pidTgid with
  | none => s
  | some k =>
    let activeRecv := s.activeRecv.deleteElem pidTgid
    match s.httpReqStart.lookupElem k with
    | none => { s with activeRecv }
    | some startNs =>
      let latency := now - startNs
      { httpReqStart := s.httpReqStart.deleteElem k
        activeRecv
        httpEvents := s.httpEvents ++ [responseRecord k latency now] }

/-- A run of one of the three programs. -/
inductive ProbeEvent where
  | sendmsg (sk : Option Sock) (msgIter : Option UInt64) (payload : Option Payload) (now : UInt64)
  | recvmsgEnter (pidTgid : UInt64) (sk : Option Sock)
  | recvmsgExit (pidTgid now : UInt64)
  deriving DecidableEq

namespace Probes

/-- The probes after one program run. -/
def step (s : Probes) : ProbeEvent → Probes
  | .sendmsg sk msgIter payload now => traceTcpSendmsg s sk msgIter payload now
  | .recvmsgEnter pidTgid sk => traceTcpRecvmsgEnter s pidTgid sk
  | .recvmsgExit pidTgid now => traceTcpRecvmsgExit s pidTgid now

/-- The probes after a sequence of program runs, in any interleaving of tasks. -/
def run (s : Probes) (evs : List ProbeEvent) : Probes := evs.foldl step s

@[simp] theorem run_nil (s : Probes) : s.run [] = s := rfl

theorem run_append (s : Probes) (evs : List ProbeEvent) (e : ProbeEvent) :
    s.run (evs ++ [e]) = (s.run evs).step e := List.foldl_concat ..

end Probes

/-! ## The request record -/

/-- The tuple of a record: its addresses and ports. -/
def recordKey (e : HttpEvent) : ConnKey := makeKey e.srcIP e.dstIP e.srcPort e.dstPort

/-- **Bytes that start with a request line give a request record.**  When an IPv4 socket sends and
the 256 bytes the probe reads from the address held in the first word of `msg_iter` start with one
of the seven method names Go knows and a space, `trace_tcp_sendmsg` records the send time under the
socket's tuple and writes one record: the method's code, the socket's tuple, and as path the bytes
after the space up to the first space, `?`, CR, LF or NUL, at most 127 of them, NUL-padded to
128. -/
theorem sendmsg_request_record (s : Probes) {sk : Sock} (hsk : sk.skcFamily = afInet)
    {iter : UInt64} (hiter : iter ≠ 0) {code : UInt8} {name : GoString}
    (hm : (code, name) ∈ httpMethods) (hcode : code ≠ 0) {payload : Payload} {rest : List UInt8}
    (hp : payload.bytes = name ++ 32 :: rest) (now : UInt64) :
    ∃ e, traceTcpSendmsg s (some sk) (some iter) (some payload) now =
        { s with
          httpReqStart := s.httpReqStart.update sk.connKey now .any
          httpEvents := s.httpEvents ++ [e] } ∧
      e.method = code ∧ recordKey e = sk.connKey ∧ e.timestampNs = now ∧
      e.path = pathRun 127 rest ++ List.replicate (128 - (pathRun 127 rest).length) 0 := by
  obtain ⟨hword, hoff, h4⟩ := detectMethod_httpMethods (code, name) hm hcode
  have hdetect : detectMethod (uint32LE payload.bytes) = code := by
    rw [hp, ← List.singleton_append, ← List.append_assoc, uint32LE_append _ (by simpa using h4)]
    exact hword
  refine ⟨requestRecord sk.connKey payload code now, ?_, rfl, rfl, rfl, ?_⟩
  · simp only [traceTcpSendmsg, hsk, ne_eq, not_true_eq_false, if_false, hiter, hdetect, hcode]
  · simp only [requestRecord, hoff, parsePath_zeros, hp]
    rw [← List.singleton_append, ← List.append_assoc, List.drop_left' (by simp)]

/-- The first word of the `iov_iter` of a `send` from user space on Linux 6: `iter_type`
`ITER_UBUF` (0), `nofault` false, `data_source` `ITER_SOURCE` (1), zero padding. -/
def ubufSourceIterHead : UInt64 := 0x10000

/-- The bytes of `GET /index.html HTTP/1.1`, as if they lay at `ubufSourceIterHead`. -/
def getIndexPayload : Payload :=
  ⟨("GET" : GoString) ++ 32 :: (("/index.html HTTP/1.1" : GoString) ++ List.replicate 232 0), by
    rw [List.length_append, List.length_cons, List.length_append, List.length_replicate,
      show ("GET" : GoString).length = 3 by decide,
      show ("/index.html HTTP/1.1" : GoString).length = 20 by decide]
    rfl⟩

/-- A socket `10.0.0.1:40000 → 10.0.0.2:80`. -/
def clientSock : Sock := ⟨2, 167772161, 167772162, 40000, 20480⟩

/-- `GET /index.html HTTP/1.1` read from `ubufSourceIterHead` on a socket to port 80. -/
theorem sendmsg_request_record_get :
    clientSock.skcFamily = afInet ∧ ubufSourceIterHead ≠ 0 ∧
      ((1 : UInt8), ("GET" : GoString)) ∈ httpMethods ∧ (1 : UInt8) ≠ 0 ∧
      getIndexPayload.bytes = ("GET" : GoString) ++ 32 :: (("/index.html HTTP/1.1" : GoString) ++
        List.replicate 232 0) ∧
      ∃ e, traceTcpSendmsg Probes.init (some clientSock) (some ubufSourceIterHead)
          (some getIndexPayload) 5 =
        { Probes.init with
          httpReqStart := Probes.init.httpReqStart.update clientSock.connKey 5 .any
          httpEvents := Probes.init.httpEvents ++ [e] } ∧
        e.method = 1 ∧ recordKey e = clientSock.connKey ∧ e.timestampNs = 5 ∧
        e.path = pathRun 127 (("/index.html HTTP/1.1" : GoString) ++ List.replicate 232 0) ++
          List.replicate (128 - (pathRun 127 (("/index.html HTTP/1.1" : GoString) ++
            List.replicate 232 0)).length) 0 :=
  ⟨by decide, by decide, by decide, by decide, rfl,
    sendmsg_request_record Probes.init (by decide) (by decide) (by decide) (by decide) rfl 5⟩

/-! ## What the Go decoder reads -/

/-- The bytes of `struct http_event` as clang lays it out: natural alignment puts a pad byte after
`method`, `status_code` at offset 22 and `latency_ns` at 24, `path` at 32, then `_pad` and seven
bytes of tail padding, 168 in all.  The `= {}` initializer zeroes the padding. -/
def httpEventBytes (he : HttpEvent) : List UInt8 :=
  toLE 8 he.timestampNs.toNat ++ toLE 4 he.srcIP.toNat ++ toLE 4 he.dstIP.toNat ++
    toLE 2 he.srcPort.toNat ++ toLE 2 he.dstPort.toNat ++ [he.method, 0] ++
    toLE 2 he.statusCode.toNat ++ toLE 8 he.latencyNs.toNat ++ he.path ++ List.replicate 8 0

/-- The record the Go decoder reads from the C layout of `he`: the fields up to `method` right,
the later ones one byte early. -/
def shiftedRecord (he : HttpEvent) : HttpEvent where
  timestampNs := he.timestampNs
  srcIP := he.srcIP
  dstIP := he.dstIP
  srcPort := he.srcPort
  dstPort := he.dstPort
  method := he.method
  statusCode := UInt16.ofNat (256 * (he.statusCode.toNat % 256))
  latencyNs := UInt64.ofNat (he.statusCode.toNat / 256 + 256 * (he.latencyNs.toNat % 2 ^ 56))
  path := UInt8.ofNat (he.latencyNs.toNat / 2 ^ 56) :: he.path.take 127
  path_length := by simp [he.path_length]

theorem toLE_succ_eq_append (w n : Nat) :
    toLE (w + 1) n = toLE w n ++ [UInt8.ofNat (n / 256 ^ w)] := by
  induction w generalizing n with
  | zero => simp [toLE]
  | succ w ih => rw [toLE, ih, toLE, List.cons_append, Nat.div_div_eq_div_mul, ← pow_succ']

theorem uint8_ofNat_mod (n : Nat) : UInt8.ofNat (n % 256) = UInt8.ofNat n :=
  UInt8.toNat.inj (by show n % 256 % 256 = n % 256; omega)

/-- The `w` bytes of a number depend only on it modulo `256 ^ w`. -/
theorem toLE_mod (w n : Nat) : toLE w (n % 256 ^ w) = toLE w n := by
  induction w generalizing n with
  | zero => rfl
  | succ w ih =>
    rw [toLE, toLE, pow_succ', Nat.mod_mul_right_div_self, ih, ← uint8_ofNat_mod,
      Nat.mod_mul_right_mod, uint8_ofNat_mod]

/-- **The C record is the packed record of the shifted one.**  Laid out by clang, a record is,
byte for byte, the specification's packed layout of `shiftedRecord`, followed by nine bytes. -/
theorem httpEventBytes_eq (he : HttpEvent) :
    httpEventBytes he =
      Ebpf.encodeHttpRecord (shiftedRecord he) ++ (he.path.drop 127 ++ List.replicate 8 0) := by
  have hs : he.statusCode.toNat < 65536 := he.statusCode.toNat_lt_size
  have hl : he.latencyNs.toNat % 2 ^ 56 < 2 ^ 56 := Nat.mod_lt _ (by decide)
  -- the status word now straddles the pad byte
  have hstatus : toLE 2 (shiftedRecord he).statusCode.toNat =
      [0, UInt8.ofNat he.statusCode.toNat] := by
    rw [shiftedRecord, UInt16.toNat_ofNat_of_lt (by simp [UInt16.size]; omega)]
    show [UInt8.ofNat _, UInt8.ofNat (256 * (he.statusCode.toNat % 256) / 256)] = _
    rw [← uint8_ofNat_mod (256 * _), Nat.mul_mod_right, Nat.mul_div_cancel_left _ (by decide),
      uint8_ofNat_mod]
    rfl
  -- and the latency word starts with the status's high byte
  have hlatency : toLE 8 (shiftedRecord he).latencyNs.toNat =
      UInt8.ofNat (he.statusCode.toNat / 256) :: toLE 7 he.latencyNs.toNat := by
    have h56 : (2 : Nat) ^ 56 = 256 ^ 7 := rfl
    have hlow : (he.statusCode.toNat / 256 + 256 * (he.latencyNs.toNat % 2 ^ 56)) % 256 =
        he.statusCode.toNat / 256 := by omega
    have hhigh : (he.statusCode.toNat / 256 + 256 * (he.latencyNs.toNat % 2 ^ 56)) / 256 =
        he.latencyNs.toNat % 256 ^ 7 := by omega
    rw [shiftedRecord, UInt64.toNat_ofNat_of_lt (by simp [UInt64.size]; omega), toLE,
      ← uint8_ofNat_mod, hlow, hhigh, toLE_mod]
  rw [httpEventBytes, Ebpf.encodeHttpRecord, hstatus, hlatency,
    toLE_succ_eq_append 7 he.latencyNs.toNat]
  conv_lhs => rw [← List.take_append_drop 127 he.path]
  simp only [shiftedRecord, List.append_assoc, List.cons_append, List.singleton_append,
    List.nil_append, show (256 : Nat) ^ 7 = 2 ^ 56 by rfl]
  rfl

/-- What `readHTTPEvents` makes of a record the probes wrote. -/
theorem httpSample_httpEventBytes (he : HttpEvent) (extra : List UInt8) :
    Ebpf.httpSample ⟨httpEventBytes he ++ extra, 0⟩ =
      some (Ebpf.httpEventToModel (shiftedRecord he)) := by
  rw [httpEventBytes_eq, List.append_assoc]
  exact Ebpf.httpSample_append _ (by simp [he.path_length]; omega)

/-! ## Requests and responses over every run -/

/-- The latest record of tuple `k` in `out`. -/
def lastRecordOf (k : ConnKey) (out : List HttpEvent) : Option HttpEvent :=
  (out.filter fun e => recordKey e = k).getLast?

theorem lastRecordOf_append (k : ConnKey) (out : List HttpEvent) (e : HttpEvent) :
    lastRecordOf k (out ++ [e]) = if recordKey e = k then some e else lastRecordOf k out := by
  by_cases h : recordKey e = k <;> simp [lastRecordOf, h]

/-- Every response record answers a request: among the records of its tuple, the one just
before it is a request record, and the response's latency is the time since that request. -/
def Paired (out : List HttpEvent) : Prop :=
  ∀ pre e post, out = pre ++ e :: post → e.method = 0 →
    ∃ r, lastRecordOf (recordKey e) pre = some r ∧ r.method ≠ 0 ∧
      e.latencyNs = e.timestampNs - r.timestampNs

theorem Paired.append {out : List HttpEvent} (h : Paired out) {e : HttpEvent}
    (he : e.method = 0 → ∃ r, lastRecordOf (recordKey e) out = some r ∧ r.method ≠ 0 ∧
      e.latencyNs = e.timestampNs - r.timestampNs) :
    Paired (out ++ [e]) := by
  intro pre x post hsplit hx
  rcases List.eq_nil_or_concat post with rfl | ⟨post, y, rfl⟩
  · obtain ⟨rfl, hxe⟩ := List.append_inj' hsplit rfl
    cases hxe
    exact he hx
  · rw [List.concat_eq_append, ← List.cons_append, ← List.append_assoc] at hsplit
    exact h pre x post (List.append_inj' hsplit rfl).1 hx

/-- The socket of task `p`'s receive in progress after `hist`: that of its latest IPv4 entry into
`tcp_recvmsg` since its latest return. -/
def receivingSock (p : UInt64) (hist : List ProbeEvent) : Option Sock :=
  hist.foldl (fun r e =>
    match e with
    | .recvmsgEnter q (some sk) => if q = p ∧ sk.skcFamily = afInet then some sk else r
    | .recvmsgExit q _ => if q = p then none else r
    | _ => r) none

/-- What holds after every run `hist`: a recorded request start is the time of the latest record
of its tuple, a request; the records are paired; every record has status 0, and a request record
latency 0; a task's `active_recv` entry is the swapped tuple of the socket it is receiving on. -/
structure Probes.Inv (s : Probes) (hist : List ProbeEvent) : Prop where
  started : ∀ k t, s.httpReqStart.lookupElem k = some t →
    ∃ r, lastRecordOf k s.httpEvents = some r ∧ r.method ≠ 0 ∧ r.timestampNs = t
  paired : Paired s.httpEvents
  status : ∀ e ∈ s.httpEvents, e.statusCode = 0 ∧ (e.method ≠ 0 → e.latencyNs = 0)
  receiving : ∀ p k, s.activeRecv.lookupElem p = some k →
    ∃ sk, receivingSock p hist = some sk ∧ k = swapKey sk.connKey

section Invariant

variable {s : Probes} {hist : List ProbeEvent}

theorem receivingSock_append (p : UInt64) (hist : List ProbeEvent) (e : ProbeEvent) :
    receivingSock p (hist ++ [e]) =
      match e with
      | .recvmsgEnter q (some sk) =>
        if q = p ∧ sk.skcFamily = afInet then some sk else receivingSock p hist
      | .recvmsgExit q _ => if q = p then none else receivingSock p hist
      | _ => receivingSock p hist :=
  List.foldl_concat ..

/-- A refused `BPF_ANY` update was of an absent key. -/
theorem lookupElem_update_any {K V : Type} [DecidableEq K] {n : Nat} (m : HashMap K V n)
    (k k' : K) (v : V) :
    (m.update k v .any).lookupElem k' = if k' = k then
      (if m.accepts k .any then some v else none) else m.lookupElem k' := by
  rw [HashMap.lookupElem_update]
  by_cases hk : k' = k
  · subst hk
    by_cases ha : m.accepts k' .any = true
    · simp [ha]
    · simp only [ha, and_false, if_false, if_true, Bool.false_eq_true]
      rcases hl : m.lookupElem k' with _ | v'
      · rfl
      · exact absurd (HashMap.accepts_of_lookupElem hl (by decide)) ha
  · simp [hk]

theorem Probes.Inv.sendmsg (h : s.Inv hist) (sk : Option Sock) (msgIter : Option UInt64)
    (payload : Option Payload) (now : UInt64) :
    (s.step (.sendmsg sk msgIter payload now)).Inv (hist ++ [.sendmsg sk msgIter payload now]) := by
  -- no task's receive changes, and neither does `active_recv`
  have hR : ∀ p k, s.activeRecv.lookupElem p = some k →
      ∃ sk', receivingSock p (hist ++ [.sendmsg sk msgIter payload now]) = some sk' ∧
        k = swapKey sk'.connKey := fun p k hk => by
    rw [receivingSock_append]
    exact h.receiving p k hk
  have hs : s.Inv (hist ++ [.sendmsg sk msgIter payload now]) :=
    ⟨h.started, h.paired, h.status, hR⟩
  -- the only change is a request record and its start time
  rcases sk with _ | sk
  · exact hs
  rcases msgIter with _ | iter
  · simp only [Probes.step, traceTcpSendmsg]
    split_ifs <;> exact hs
  rcases payload with _ | payload
  · simp only [Probes.step, traceTcpSendmsg]
    split_ifs <;> exact hs
  simp only [Probes.step, traceTcpSendmsg]
  split_ifs with hfam hiter hm
  · exact hs
  · exact hs
  · exact hs
  set r := requestRecord sk.connKey payload (detectMethod (uint32LE payload.bytes)) now
  have hrk : recordKey r = sk.connKey := rfl
  refine ⟨fun k t hkt => ?_, h.paired.append fun h0 => absurd h0 hm, fun e he => ?_, hR⟩
  · simp only [lookupElem_update_any] at hkt
    rw [lastRecordOf_append]
    by_cases hk : k = sk.connKey
    · subst hk
      simp only [if_true] at hkt
      split_ifs at hkt
      cases hkt
      exact ⟨r, by rw [if_pos hrk], hm, rfl⟩
    · rw [if_neg hk] at hkt
      rw [if_neg (by rw [hrk]; exact Ne.symm hk)]
      exact h.started k t hkt
  · rcases List.mem_append.mp he with he | he
    · exact h.status e he
    · rw [List.mem_singleton.mp he]
      exact ⟨rfl, fun _ => rfl⟩

theorem Probes.Inv.recvmsgEnter (h : s.Inv hist) (p : UInt64) (sk : Option Sock) :
    (s.step (.recvmsgEnter p sk)).Inv (hist ++ [.recvmsgEnter p sk]) := by
  rcases sk with _ | sk
  · exact ⟨h.started, h.paired, h.status,
      by simpa [receivingSock_append] using h.receiving⟩
  simp only [Probes.step, traceTcpRecvmsgEnter]
  split_ifs with hfam
  · refine ⟨h.started, h.paired, h.status, fun q k hk => ?_⟩
    have hne : ¬ (p = q ∧ sk.skcFamily = afInet) := fun hc => hfam hc.2
    simpa [receivingSock_append, hne] using h.receiving q k hk
  · refine ⟨h.started, h.paired, h.status, fun q k hk => ?_⟩
    simp only [lookupElem_update_any] at hk
    rw [receivingSock_append]
    by_cases hq : q = p
    · subst hq
      simp only [if_true] at hk
      split_ifs at hk
      cases hk
      exact ⟨sk, by simp [not_not.mp hfam], rfl⟩
    · rw [if_neg hq] at hk
      simpa [Ne.symm hq] using h.receiving q k hk

theorem Probes.Inv.recvmsgExit (h : s.Inv hist) (p now : UInt64) :
    (s.step (.recvmsgExit p now)).Inv (hist ++ [.recvmsgExit p now]) := by
  have hrecv : ∀ q k, (s.activeRecv.deleteElem p).lookupElem q = some k →
      ∃ sk, receivingSock q (hist ++ [.recvmsgExit p now]) = some sk ∧ k = swapKey sk.connKey := by
    intro q k hk
    by_cases hq : q = p
    · simp [hq] at hk
    · rw [HashMap.lookupElem_deleteElem, if_neg hq] at hk
      simpa [receivingSock_append, Ne.symm hq] using h.receiving q k hk
  simp only [Probes.step, traceTcpRecvmsgExit]
  rcases hp : s.activeRecv.lookupElem p with _ | k
  · refine ⟨h.started, h.paired, h.status, fun q k hk => ?_⟩
    by_cases hq : q = p
    · subst hq; rw [hp] at hk; cases hk
    · simpa [receivingSock_append, Ne.symm hq] using h.receiving q k hk
  dsimp only
  rcases ht : s.httpReqStart.lookupElem k with _ | t
  · exact ⟨h.started, h.paired, h.status, hrecv⟩
  -- a response to the latest request of the tuple
  obtain ⟨r, hr, hrm, hrt⟩ := h.started k t ht
  have hek : recordKey (responseRecord k (now - t) now) = k := rfl
  refine ⟨fun k' t' hkt => ?_, h.paired.append fun _ => ⟨r, by rw [hek]; exact hr, hrm,
    by rw [← hrt]; rfl⟩, fun e he => ?_, hrecv⟩
  · by_cases hk : k' = k
    · simp [hk] at hkt
    · rw [HashMap.lookupElem_deleteElem, if_neg hk] at hkt
      rw [lastRecordOf_append, if_neg (by rw [hek]; exact Ne.symm hk)]
      exact h.started k' t' hkt
  · rcases List.mem_append.mp he with he | he
    · exact h.status e he
    · rw [List.mem_singleton.mp he]
      exact ⟨rfl, fun h0 => absurd rfl h0⟩

theorem Probes.Inv.step (h : s.Inv hist) (e : ProbeEvent) : (s.step e).Inv (hist ++ [e]) := by
  cases e with
  | sendmsg sk msgIter payload now => exact h.sendmsg sk msgIter payload now
  | recvmsgEnter p sk => exact h.recvmsgEnter p sk
  | recvmsgExit p now => exact h.recvmsgExit p now

/-- **The invariant of every run.** -/
theorem Probes.run_inv (hist : List ProbeEvent) : (Probes.init.run hist).Inv hist := by
  induction hist using List.reverseRecOn with
  | nil =>
    refine ⟨fun k t h => ?_, fun pre e post h _ => ?_, fun e he => ?_, fun p k h => ?_⟩
    · simp [Probes.init] at h
    · simp [Probes.init] at h
    · simp [Probes.init] at he
    · simp [Probes.init] at h
  | append_singleton hist e ih =>
    rw [Probes.run_append]
    exact ih.step e

end Invariant

/-- **Responses come from the peer socket.**  The return of task `p` from `tcp_recvmsg` writes no
record, or one response record whose tuple is the swap of the tuple of the socket `p` entered
`tcp_recvmsg` with.  A request record carries the tuple of the socket that sent it
(`sendmsg_request_record`), so the request answered was sent from the receiving socket's peer,
and never from the receiving socket itself unless both ends have the same address and port
(`swapKey_eq_self`). -/
theorem recvmsgExit_peer (hist : List ProbeEvent) (p now : UInt64) :
    ((Probes.init.run hist).step (.recvmsgExit p now)).httpEvents =
        (Probes.init.run hist).httpEvents ∨
      ∃ sk latency, receivingSock p hist = some sk ∧
        ((Probes.init.run hist).step (.recvmsgExit p now)).httpEvents =
          (Probes.init.run hist).httpEvents ++ [responseRecord (swapKey sk.connKey) latency now] := by
  have hinv := Probes.run_inv hist
  simp only [Probes.step, traceTcpRecvmsgExit]
  rcases hp : (Probes.init.run hist).activeRecv.lookupElem p with _ | k
  · exact .inl rfl
  obtain ⟨sk, hsk, rfl⟩ := hinv.receiving p k hp
  dsimp only
  rcases (Probes.init.run hist).httpReqStart.lookupElem (swapKey sk.connKey) with _ | t
  · exact .inl rfl
  · exact .inr ⟨sk, now - t, hsk, rfl⟩

/-- **What the server receives from the probes.**  Over every run, every record the probes write,
laid out by clang and followed by any padding, passes `readHTTPEvents`' length check and decodes
with status 0 and its latency multiplied by 256 (modulo `2^64`); a request record decodes with an
empty path, whatever path the kernel copied. -/
theorem records_decode_shifted (hist : List ProbeEvent) :
    ∀ e ∈ (Probes.init.run hist).httpEvents, ∀ extra : List UInt8, ∃ ev,
      Ebpf.httpSample ⟨httpEventBytes e ++ extra, 0⟩ = some ev ∧ ev.statusCode = 0 ∧
        ev.latencyNs = e.latencyNs * 256 ∧ (e.method ≠ 0 → ev.path = []) := by
  intro e he extra
  obtain ⟨hs, hl⟩ := (Probes.run_inv hist).status e he
  refine ⟨_, httpSample_httpEventBytes e extra, ?_, ?_, fun hm => ?_⟩
  · simp [Ebpf.httpEventToModel, shiftedRecord, hs]
  · apply UInt64.toNat.inj
    show (e.statusCode.toNat / 256 + 256 * (e.latencyNs.toNat % 2 ^ 56)) % 2 ^ 64 =
      e.latencyNs.toNat * 256 % 2 ^ 64
    simp only [hs, UInt16.toNat_zero, Nat.zero_div, Nat.zero_add, Nat.reducePow]
    omega
  · simp [Ebpf.httpEventToModel, shiftedRecord, hl hm, Ebpf.pathLenLoop]

/-- The request record of `GET /index.html HTTP/1.1` decodes with status 0 and the latency shifted. -/
theorem records_decode_shifted_get :
    requestRecord clientSock.connKey getIndexPayload 1 5 ∈
        (Probes.init.run
          [.sendmsg (some clientSock) (some ubufSourceIterHead) (some getIndexPayload) 5]).httpEvents ∧
      ∀ extra : List UInt8, ∃ ev,
        Ebpf.httpSample ⟨httpEventBytes (requestRecord clientSock.connKey getIndexPayload 1 5) ++
            extra, 0⟩ = some ev ∧ ev.statusCode = 0 ∧
        ev.latencyNs = (requestRecord clientSock.connKey getIndexPayload 1 5).latencyNs * 256 ∧
        ((requestRecord clientSock.connKey getIndexPayload 1 5).method ≠ 0 → ev.path = []) := by
  have he : requestRecord clientSock.connKey getIndexPayload 1 5 ∈
      (Probes.init.run
        [.sendmsg (some clientSock) (some ubufSourceIterHead) (some getIndexPayload) 5]).httpEvents := by
    have hm : detectMethod (uint32LE getIndexPayload.bytes) = 1 := by
      show detectMethod (uint32LE (("GET" : GoString) ++ [32] ++
        (("/index.html HTTP/1.1" : GoString) ++ List.replicate 232 0))) = 1
      rw [uint32LE_append _ (by decide)]
      decide
    have hf : ¬(clientSock.skcFamily ≠ afInet) := by decide
    have hi : ¬(ubufSourceIterHead = 0) := by decide
    rw [Probes.run, List.foldl_cons, List.foldl_nil, Probes.step, traceTcpSendmsg]
    simp only [hf, if_false, hi, hm]
    rw [if_neg (show (1 : UInt8) ≠ 0 by decide)]
    exact List.mem_append_right _ (List.mem_singleton_self _)
  exact ⟨he, records_decode_shifted _ _ he⟩

end Bpf
end Nefi
