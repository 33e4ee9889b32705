import Nefi.Bpf.Maps
import Nefi.Agent.Ebpf.Record

/-!
# The DNS probe: `bpf/dns_tracker.c`

`trace_udp_sendmsg` runs on every UDP send.  For an IPv4 socket whose destination port is 53 it
reads 256 bytes, turns the question's name from wire format (length-prefixed labels) into dotted
form with `parse_dns_name`, reads the query type from the two bytes it expects after the name, and
writes a `dns_event` to `dns_events`.  The loader never opens a reader on `dns_events`, so nothing
in userspace sees these records.

The 256 bytes are read as by the HTTP probe: from the address held in the first 8 bytes of
`msg_iter`, which are the `iov_iter`'s type and flags, not a pointer to the datagram.  So the probe
parses whatever memory lies at that small address, never the query being sent.

## What is modelled

`parse_dns_name` is two nested loops over the buffer, modelled with their bounds as fuel:
`dnsLabelsLoop` runs at most 16 times, once per label, and `copyLabelLoop` copies at most 63 bytes
of a label while the output has room (`j < max_len - 1`).  Its reads are `bpf_probe_read`s at
`payload + i`, and `i` can run up to 1036, past the 256-byte buffer into the stack above it.  The
value read at `msg + 16`, the 256 bytes read from the address it holds, and the stack bytes after
the buffer are inputs (`none` for a NULL `msg` or a failed read); a read past the stack bytes given
faults, and `bpf_probe_read` then leaves 0.  The program's state is the list of records written.

## Results

* `parseDnsName_wireName`: for a name of labels of 1 to 63 bytes in wire format, the parser writes
  the dotted form of the first 16 labels cut at 126 bytes, NUL-padded, and returns its length.
* `udpSendmsg_name_padded`: whatever the bytes read, a record's name is 1 to 126 bytes followed by
  zeros to the end of `query_name`.
* `udpSendmsg_query`: when the bytes read hold a DNS header and a name of at most 16 labels whose
  dotted form fits in 126 bytes, the record holds that name and the two bytes after it (where a
  question keeps its `QTYPE`) in network byte order.
* `udpSendmsg_long_name`: for a name of more than 16 labels or more than 127 dotted bytes, the type
  is read from inside the name, and the record does not depend on what follows the name, in the
  buffer or on the stack.
-/

namespace Nefi
namespace Bpf

open Ebpf (uint16LE)

/-- `DNS_PORT`. -/
def dnsPort : UInt16 := 53

/-- `DNS_HEADER_SIZE`. -/
def dnsHeaderSize : Nat := 12

/-! ## `parse_dns_name` -/

/-- The inner loop of `parse_dns_name` at label byte `k` with `fuel` iterations of its bound
`k < 63 && k < label_len` left: it stops when the output index reaches `max_len - 1`. -/
def copyLabelLoop (payload : List UInt8) (i maxLen : Nat) :
    Nat → Nat → Nat → List UInt8 → Nat × List UInt8
  | _, 0, j, dst => (j, dst)
  | k, fuel + 1, j, dst =>
    if maxLen - 1 ≤ j then (j, dst)
    else copyLabelLoop payload i maxLen (k + 1) fuel (j + 1) (dst.set j (payload.getD (i + k) 0))

/-- The outer loop of `parse_dns_name` with `fuel` of its 16 iterations left, at payload index `i`
and output index `j`: a zero or over-long length byte ends the name; otherwise a `'.'` goes before
every label but the first while there is room, and the label's bytes are copied. -/
def dnsLabelsLoop (payload : List UInt8) (maxLen : Nat) :
    Nat → Nat → Nat → List UInt8 → Nat × List UInt8
  | 0, _, j, dst => (j, dst)
  | fuel + 1, i, j, dst =>
    let labelLen := (payload.getD i 0).toNat
    if labelLen = 0 ∨ 63 < labelLen then (j, dst)
    else
      let dotted : Nat × List UInt8 :=
        if 0 < j ∧ j < maxLen - 1 then (j + 1, dst.set j 46) else (j, dst)
      let copied := copyLabelLoop payload (i + 1) maxLen 0 (min 63 labelLen) dotted.1 dotted.2
      dnsLabelsLoop payload maxLen fuel (i + 1 + labelLen) copied.1 copied.2

/-- `parse_dns_name(payload, offset, dst, max_len)`: the length it returns and the array `dst`. -/
def parseDnsName (payload : List UInt8) (offset : Nat) (dst : List UInt8) (maxLen : Nat) :
    Nat × List UInt8 :=
  let parsed := dnsLabelsLoop payload maxLen 16 offset 0 dst
  (parsed.1, if parsed.1 < maxLen then parsed.2.set parsed.1 0 else parsed.2)

theorem length_copyLabelLoop (payload : List UInt8) (i maxLen k fuel j : Nat) (dst : List UInt8) :
    (copyLabelLoop payload i maxLen k fuel j dst).2.length = dst.length := by
  induction fuel generalizing k j dst with
  | zero => rfl
  | succ fuel ih =>
    simp only [copyLabelLoop]
    split
    · rfl
    · rw [ih, List.length_set]

theorem length_dnsLabelsLoop (payload : List UInt8) (maxLen fuel i j : Nat) (dst : List UInt8) :
    (dnsLabelsLoop payload maxLen fuel i j dst).2.length = dst.length := by
  induction fuel generalizing i j dst with
  | zero => rfl
  | succ fuel ih =>
    simp only [dnsLabelsLoop]
    split
    · rfl
    · rw [ih, length_copyLabelLoop]
      split <;> simp

@[simp] theorem length_parseDnsName (payload : List UInt8) (offset : Nat) (dst : List UInt8)
    (maxLen : Nat) : (parseDnsName payload offset dst maxLen).2.length = dst.length := by
  simp only [parseDnsName]
  split <;> simp [length_dnsLabelsLoop]

/-! ## The wire format -/

/-- The labels of a name in wire format, without the terminating zero. -/
def labelsWire (labels : List (List UInt8)) : List UInt8 :=
  labels.flatMap fun l => UInt8.ofNat l.length :: l

/-- A question name in wire format: the labels, then a zero byte. -/
def wireName (labels : List (List UInt8)) : List UInt8 := labelsWire labels ++ [0]

/-- The dotted form of a name. -/
def dottedName : List (List UInt8) → List UInt8
  | [] => []
  | l :: ls => l ++ ls.flatMap fun l => 46 :: l

/-- The labels the parser accepts: at most 16, each of 1 to 63 bytes. -/
def ValidLabels (labels : List (List UInt8)) : Prop :=
  labels.length ≤ 16 ∧ ∀ l ∈ labels, 0 < l.length ∧ l.length ≤ 63

instance (labels : List (List UInt8)) : Decidable (ValidLabels labels) :=
  inferInstanceAs (Decidable (_ ∧ _))

/-- The output after one more label: a `'.'` unless it is the first, then the label, all cut at
126 bytes. -/
def appendLabel (acc l : List UInt8) : List UInt8 :=
  (acc ++ (if acc = [] then [] else [46]) ++ l).take 126

theorem set_append_replicate (acc : List UInt8) (n : Nat) (c : UInt8) :
    (acc ++ List.replicate (n + 1) 0).set acc.length c = (acc ++ [c]) ++ List.replicate n 0 := by
  rw [List.set_append_right _ _ (le_refl _), Nat.sub_self, List.replicate_succ, List.set_cons_zero,
    List.append_assoc, List.singleton_append]

theorem getD_of_cons_prefix_drop {payload bytes : List UInt8} {i : Nat} {b : UInt8}
    (h : b :: bytes <+: payload.drop i) : payload.getD i 0 = b := by
  obtain ⟨t, ht⟩ := h
  rw [getD_eq_headD_drop, ← ht]
  rfl

/-- The inner loop copies a label's bytes after the output so far, up to the 126th byte. -/
theorem copyLabelLoop_spec (payload : List UInt8) (i : Nat) (bytes : List UInt8) (k : Nat)
    (acc : List UInt8) (hacc : acc.length ≤ 126) (hpre : bytes <+: payload.drop (i + k)) :
    copyLabelLoop payload i 127 k bytes.length acc.length
        (acc ++ List.replicate (128 - acc.length) 0) =
      (((acc ++ bytes).take 126).length,
        (acc ++ bytes).take 126 ++ List.replicate (128 - ((acc ++ bytes).take 126).length) 0) := by
  induction bytes generalizing k acc with
  | nil => simp [copyLabelLoop, List.take_of_length_le hacc]
  | cons b bytes ih =>
    rw [List.length_cons, copyLabelLoop]
    by_cases hfull : 127 - 1 ≤ acc.length
    · rw [if_pos hfull, List.take_append_of_le_length (by omega),
        List.take_of_length_le (by omega)]
    -- room left: copy `b` and go on
    rw [if_neg hfull]
    have hrest : bytes <+: payload.drop (i + (k + 1)) := by
      obtain ⟨t, ht⟩ := hpre
      refine ⟨t, ?_⟩
      rw [← Nat.add_assoc, ← List.drop_drop, ← ht]
      rfl
    obtain ⟨n, hn⟩ : ∃ n, 128 - acc.length = n + 1 + 1 := ⟨126 - acc.length, by omega⟩
    rw [getD_of_cons_prefix_drop hpre, hn, set_append_replicate]
    have hnext := ih (k + 1) (acc ++ [b]) (by simp; omega) hrest
    simp only [List.length_append, List.length_singleton,
      show 128 - (acc.length + 1) = n + 1 by omega] at hnext
    rwa [List.append_cons acc b bytes]

/-- The length byte of a label of at most 63 bytes reads back as its length. -/
theorem toNat_ofNat_length {l : List UInt8} (h : l.length ≤ 63) :
    (UInt8.ofNat l.length).toNat = l.length :=
  UInt8.toNat_ofNat_of_lt (by simp [UInt8.size]; omega)

/-- A full output keeps nothing more. -/
theorem take_append_of_length_eq {acc : List UInt8} (t : List UInt8) (h : acc.length = 126) :
    (acc ++ t).take 126 = acc := by
  rw [List.take_append_of_le_length (by omega), List.take_of_length_le (by omega)]

/-- The separator step of the outer loop, then the copy, is `appendLabel`. -/
theorem dotThenCopy (payload : List UInt8) (i : Nat) (acc l : List UInt8) (hacc : acc.length ≤ 126)
    (hpre : l <+: payload.drop (i + 0)) :
    let dotted : Nat × List UInt8 :=
      if 0 < acc.length ∧ acc.length < 127 - 1 then
        (acc.length + 1, (acc ++ List.replicate (128 - acc.length) 0).set acc.length 46)
      else (acc.length, acc ++ List.replicate (128 - acc.length) 0)
    copyLabelLoop payload i 127 0 l.length dotted.1 dotted.2 =
      ((appendLabel acc l).length,
        appendLabel acc l ++ List.replicate (128 - (appendLabel acc l).length) 0) := by
  intro dotted
  by_cases hsep : 0 < acc.length ∧ acc.length < 127 - 1
  · -- a dot, then the label
    obtain ⟨n, hn⟩ : ∃ n, 128 - acc.length = n + 1 := ⟨127 - acc.length, by omega⟩
    have hne : acc ≠ [] := by rintro rfl; simp at hsep
    have hlen : (acc ++ [46]).length = acc.length + 1 := List.length_append _ _
    have hd : dotted = ((acc ++ [46]).length,
        (acc ++ [46]) ++ List.replicate (128 - (acc ++ [46]).length) 0) := by
      simp only [dotted, if_pos hsep, hn, set_append_replicate, hlen]
      congr 3
      omega
    rw [hd, copyLabelLoop_spec payload i l 0 (acc ++ [46]) (by omega) hpre, appendLabel,
      if_neg hne]
  · have hd : dotted = (acc.length, acc ++ List.replicate (128 - acc.length) 0) := by
      simp only [dotted, if_neg hsep]
    rw [hd, copyLabelLoop_spec payload i l 0 acc hacc hpre, appendLabel]
    by_cases hnil : acc = []
    · subst hnil; rfl
    · -- the output is full: neither the dot nor the label fits
      have h126 : acc.length = 126 := by
        have : 0 < acc.length := List.length_pos.mpr hnil
        omega
      rw [if_neg hnil, List.append_assoc, take_append_of_length_eq _ h126,
        take_append_of_length_eq _ h126]

/-- **The outer loop over a name in wire format.**  From output `acc`, a wire name of labels of 1
to 63 bytes leaves the output `labels.foldl appendLabel acc` over the first `fuel` labels. -/
theorem dnsLabelsLoop_wireName (payload : List UInt8) (labels : List (List UInt8))
    (hvalid : ∀ l ∈ labels, 0 < l.length ∧ l.length ≤ 63) (fuel i : Nat) (acc rest : List UInt8)
    (hacc : acc.length ≤ 126) (hwire : payload.drop i = wireName labels ++ rest) :
    dnsLabelsLoop payload 127 fuel i acc.length (acc ++ List.replicate (128 - acc.length) 0) =
      (((labels.take fuel).foldl appendLabel acc).length,
        (labels.take fuel).foldl appendLabel acc ++
          List.replicate (128 - ((labels.take fuel).foldl appendLabel acc).length) 0) := by
  induction labels generalizing fuel i acc with
  | nil =>
    cases fuel with
    | zero => rfl
    | succ fuel =>
      have h0 : payload.getD i 0 = 0 := by
        rw [getD_eq_headD_drop, hwire]
        rfl
      simp only [dnsLabelsLoop, h0]
      simp
  | cons l ls ih =>
    cases fuel with
    | zero => rfl
    | succ fuel =>
      obtain ⟨hl0, hl63⟩ := hvalid l (.head _)
      have hlen : payload.getD i 0 = UInt8.ofNat l.length := by
        rw [getD_eq_headD_drop, hwire]
        rfl
      have hpre : l <+: payload.drop (i + 1 + 0) := by
        refine ⟨wireName ls ++ rest, ?_⟩
        rw [Nat.add_zero, ← List.drop_drop, hwire]
        simp [wireName, labelsWire]
      have hnext : payload.drop (i + 1 + l.length) = wireName ls ++ rest := by
        rw [← List.drop_drop, ← List.drop_drop, hwire]
        simp [wireName, labelsWire]
      simp only [dnsLabelsLoop, hlen, toNat_ofNat_length hl63, Nat.min_eq_right hl63]
      rw [if_neg (by omega), dotThenCopy payload (i + 1) acc l hacc hpre, List.take_succ_cons,
        List.foldl_cons]
      exact ih (fun l' h' => hvalid l' (.tail _ h')) fuel _ _ (by simp [appendLabel]) hnext

theorem take_append_take (l₁ l₂ : List UInt8) (n : Nat) :
    (l₁.take n ++ l₂).take n = (l₁ ++ l₂).take n := by
  simp only [List.take_append_eq_append_take, List.take_take, Nat.min_self, List.length_take]
  congr 2
  omega

/-- After a first label, each label adds a `'.'` and its bytes, all cut at 126 bytes. -/
theorem foldl_appendLabel (ls : List (List UInt8)) (acc : List UInt8) (hne : acc ≠ []) :
    ls.foldl appendLabel (acc.take 126) = (acc ++ ls.flatMap fun l => 46 :: l).take 126 := by
  induction ls generalizing acc with
  | nil => simp
  | cons l ls ih =>
    have hne' : acc.take 126 ≠ [] := by simp [hne]
    rw [List.foldl_cons, appendLabel, if_neg hne', List.append_assoc, take_append_take,
      ← List.append_assoc, ih _ (by simp), List.flatMap_cons]
    simp

/-- The output of all the labels is the dotted name cut at 126 bytes. -/
theorem foldl_appendLabel_nil (labels : List (List UInt8))
    (hvalid : ∀ l ∈ labels, 0 < l.length ∧ l.length ≤ 63) :
    labels.foldl appendLabel [] = (dottedName labels).take 126 := by
  cases labels with
  | nil => rfl
  | cons l ls =>
    have hl := hvalid l (.head _)
    have hfirst : appendLabel [] l = l.take 126 := by simp [appendLabel]
    rw [List.foldl_cons, hfirst, foldl_appendLabel ls l (List.ne_nil_of_length_pos hl.1), dottedName]

/-- Writing the terminating zero over the first zero of the padding changes nothing. -/
theorem set_length_append_replicate (pre : List UInt8) (n : Nat) :
    (pre ++ List.replicate (n + 1) 0).set pre.length 0 = pre ++ List.replicate (n + 1) 0 := by
  rw [set_append_replicate, List.append_assoc, List.singleton_append, List.replicate_succ]

/-- **`parse_dns_name` decodes a name in wire format.**  For a question whose labels have 1 to 63
bytes, the parser writes the dotted form of the first 16 labels, cut at 126 bytes, then zeros, and
returns its length. -/
theorem parseDnsName_wireName (hdr rest : List UInt8) (labels : List (List UInt8))
    (hhdr : hdr.length = dnsHeaderSize) (hvalid : ∀ l ∈ labels, 0 < l.length ∧ l.length ≤ 63) :
    let name := (dottedName (labels.take 16)).take 126
    parseDnsName (hdr ++ wireName labels ++ rest) dnsHeaderSize (List.replicate 128 0) 127 =
      (name.length, name ++ List.replicate (128 - name.length) 0) := by
  intro name
  have hwire : (hdr ++ wireName labels ++ rest).drop dnsHeaderSize = wireName labels ++ rest := by
    rw [List.append_assoc, ← hhdr, List.drop_left]
  have hloop : dnsLabelsLoop (hdr ++ wireName labels ++ rest) 127 16 dnsHeaderSize 0
      (List.replicate 128 0) = (name.length, name ++ List.replicate (128 - name.length) 0) := by
    have h := dnsLabelsLoop_wireName _ labels hvalid 16 _ [] rest (by simp) hwire
    rwa [foldl_appendLabel_nil _ (fun l h => hvalid l (List.mem_of_mem_take h))] at h
  have hle : name.length ≤ 126 := List.length_take_le _ _
  obtain ⟨n, hn⟩ : ∃ n, 128 - name.length = n + 1 := ⟨127 - name.length, by omega⟩
  simp only [parseDnsName, hloop]
  rw [if_pos (by omega), hn, set_length_append_replicate]

/-! ## The output is a NUL-padded string

Every write of the parser is at the output index `j`, which then grows by one and never passes
`max_len - 1`; so whatever the payload, the output is the bytes written, then only zeros. -/

/-- The parser's output so far: `j ≤ 126` bytes written, then zeros to 128 bytes. -/
def NulPadded (j : Nat) (dst : List UInt8) : Prop :=
  j ≤ 126 ∧ ∃ pre, pre.length = j ∧ dst = pre ++ List.replicate (128 - j) 0

theorem NulPadded.set {j : Nat} {dst : List UInt8} (h : NulPadded j dst) (hj : j < 126)
    (c : UInt8) : NulPadded (j + 1) (dst.set j c) := by
  obtain ⟨-, pre, rfl, rfl⟩ := h
  obtain ⟨n, hn⟩ : ∃ n, 128 - pre.length = n + 1 := ⟨127 - pre.length, by omega⟩
  refine ⟨by omega, pre ++ [c], by simp, ?_⟩
  rw [hn, set_append_replicate]
  congr 2
  omega

theorem NulPadded.copyLabelLoop {j : Nat} {dst : List UInt8} (h : NulPadded j dst)
    (payload : List UInt8) (i k fuel : Nat) :
    NulPadded (copyLabelLoop payload i 127 k fuel j dst).1
      (copyLabelLoop payload i 127 k fuel j dst).2 := by
  induction fuel generalizing k j dst with
  | zero => exact h
  | succ fuel ih =>
    rw [Bpf.copyLabelLoop]
    split
    · exact h
    · exact ih (h.set (by omega) _) _

theorem NulPadded.dnsLabelsLoop {j : Nat} {dst : List UInt8} (h : NulPadded j dst)
    (payload : List UInt8) (fuel i : Nat) :
    NulPadded (dnsLabelsLoop payload 127 fuel i j dst).1
      (dnsLabelsLoop payload 127 fuel i j dst).2 := by
  induction fuel generalizing i j dst with
  | zero => exact h
  | succ fuel ih =>
    rw [Bpf.dnsLabelsLoop]
    split
    · exact h
    · apply ih
      apply NulPadded.copyLabelLoop
      split
      · exact h.set (by omega) _
      · exact h

/-- Whatever the payload, `parse_dns_name` returns at most 126 and leaves zeros from there on. -/
theorem parseDnsName_nulPadded (payload : List UInt8) :
    let r := parseDnsName payload dnsHeaderSize (List.replicate 128 0) 127
    r.1 ≤ 126 ∧ r.2.drop r.1 = List.replicate (128 - r.1) 0 := by
  have hloop := (show NulPadded 0 (List.replicate 128 0) from ⟨by omega, [], rfl, rfl⟩).dnsLabelsLoop
    payload 16 dnsHeaderSize
  simp only [parseDnsName]
  generalize dnsLabelsLoop payload 127 16 dnsHeaderSize 0 (List.replicate 128 0) = r at hloop ⊢
  obtain ⟨hj, pre, hpre, hdst⟩ := hloop
  obtain ⟨n, hn⟩ : ∃ n, 128 - r.1 = n + 1 := ⟨127 - r.1, by omega⟩
  rw [if_pos (by omega), hdst, hn, ← hpre, set_length_append_replicate, List.drop_left]
  exact ⟨by omega, rfl⟩

/-! ## `trace_udp_sendmsg` -/

/-- `struct dns_event`: `query_name` is a 128-byte array. -/
@[ext]
structure DnsEvent where
  timestampNs : UInt64
  srcIP : UInt32
  dstIP : UInt32
  srcPort : UInt16
  queryType : UInt16
  queryName : List UInt8
  queryName_length : queryName.length = 128
  deriving DecidableEq

/-- `trace_udp_sendmsg` on socket `sk`, appending to the records of `dns_events`.  `msgIter` is the
8 bytes read at `msg + 16` (`none` for a NULL `msg`), `payload` the 256 bytes then read from the
address they hold (`none` when that read fails), and `stack` the bytes above the buffer that the
parser's reads reach.  The parser's result is never negative, so `name_len <= 0` is
`name_len = 0`; the query type is read at `DNS_HEADER_SIZE + name_len + 2`, at most 140, inside
the buffer. -/
def traceUdpSendmsg (events : List DnsEvent) (sk : Option Sock) (msgIter : Option UInt64)
    (payload : Option Payload) (stack : List UInt8) (now : UInt64) : List DnsEvent :=
  match sk with
  | none => events
  | some sk =>
    if sk.skcFamily ≠ afInet then events
    else if bpfNtohs sk.skcDport ≠ dnsPort then events
    else
      match msgIter with
      | none => events
      | some iter =>
        if iter = 0 then events
        else
          match payload with
          | none => events
          | some payload =>
            let mem := payload.bytes ++ stack
            let parsed := parseDnsName mem dnsHeaderSize (List.replicate 128 0) 127
            let nameLen := parsed.1
            if nameLen = 0 then events
            else
              let qtypeOffset := dnsHeaderSize + nameLen + 2
              let qtype := uint16LE (mem.drop qtypeOffset)
              let event : DnsEvent :=
                { timestampNs := now
                  srcIP := sk.skcRcvSaddr
                  dstIP := sk.skcDaddr
                  srcPort := sk.skcNum
                  queryType := bpfNtohs qtype
                  queryName := parsed.2
                  queryName_length :=
                    (length_parseDnsName _ _ _ _).trans (List.length_replicate _ _) }
              events ++ [event]

/-- **Every name recorded is NUL-padded.**  Whatever the socket, the value read at `msg + 16`, the
256 bytes read from it and the stack above them, the probe either writes nothing or one record
whose name has 1 to 126 bytes followed by zeros to the end of `query_name`. -/
theorem udpSendmsg_name_padded (events : List DnsEvent) (sk : Option Sock)
    (msgIter : Option UInt64) (payload : Option Payload) (stack : List UInt8) (now : UInt64) :
    traceUdpSendmsg events sk msgIter payload stack now = events ∨
      ∃ e n, traceUdpSendmsg events sk msgIter payload stack now = events ++ [e] ∧ 0 < n ∧
        n ≤ 126 ∧ e.queryName.drop n = List.replicate (128 - n) 0 := by
  rcases sk with _ | sk
  · exact .inl rfl
  simp only [traceUdpSendmsg]
  by_cases hfam : sk.skcFamily ≠ afInet
  · exact .inl (if_pos hfam)
  by_cases hport : bpfNtohs sk.skcDport ≠ dnsPort
  · exact .inl ((if_neg hfam).trans (if_pos hport))
  rw [if_neg hfam, if_neg hport]
  rcases msgIter with _ | iter
  · exact .inl rfl
  dsimp only
  by_cases hiter : iter = 0
  · exact .inl (if_pos hiter)
  rw [if_neg hiter]
  rcases payload with _ | p
  · exact .inl rfl
  dsimp only
  by_cases hlen : (parseDnsName (p.bytes ++ stack) dnsHeaderSize (List.replicate 128 0) 127).1 = 0
  · exact .inl (if_pos hlen)
  obtain ⟨hle, hdrop⟩ := parseDnsName_nulPadded (p.bytes ++ stack)
  exact .inr ⟨_, _, if_neg hlen, Nat.pos_of_ne_zero hlen, hle, hdrop⟩

/-! ## The record of a question -/

theorem length_labelsWire (labels : List (List UInt8)) (hne : labels ≠ []) :
    (labelsWire labels).length = (dottedName labels).length + 1 := by
  obtain ⟨l, ls, rfl⟩ := List.exists_cons_of_ne_nil hne
  simp [labelsWire, dottedName, List.length_flatMap, Function.comp_def]

theorem length_dottedName_pos (labels : List (List UInt8)) (hne : labels ≠ [])
    (hvalid : ∀ l ∈ labels, 0 < l.length ∧ l.length ≤ 63) : 0 < (dottedName labels).length := by
  obtain ⟨l, ls, rfl⟩ := List.exists_cons_of_ne_nil hne
  simp only [dottedName, List.length_append]
  have := (hvalid l (.head _)).1
  omega

/-- `binary.LittleEndian`-order bytes `b₀ b₁`, swapped by `bpf_ntohs`, give `b₀` as the high byte:
the value in network byte order. -/
theorem toNat_bpfNtohs_uint16LE (b₀ b₁ : UInt8) (rest : List UInt8) :
    (bpfNtohs (uint16LE (b₀ :: b₁ :: rest))).toNat = b₀.toNat * 256 + b₁.toNat := by
  have h₀ : b₀.toNat < 256 := b₀.toNat_lt_size
  have h₁ : b₁.toNat < 256 := b₁.toNat_lt_size
  have hle : (uint16LE (b₀ :: b₁ :: rest)).toNat = b₀.toNat + 256 * b₁.toNat := by
    simp only [uint16LE, List.take, Ebpf.leNat]
    exact UInt16.toNat_ofNat_of_lt (by simp [UInt16.size]; omega)
  rw [toNat_bpfNtohs, hle]
  omega

/-- The type read at `m` from a name followed by anything is read from the name when both its
bytes lie inside it. -/
theorem uint16LE_drop_append (w rest : List UInt8) (m : Nat) (h : m + 2 ≤ w.length) :
    uint16LE ((w ++ rest).drop m) = uint16LE (w.drop m) := by
  rw [uint16LE, uint16LE, List.drop_append_of_le_length (by omega),
    List.take_append_of_le_length (by simp; omega)]

/-- The record the probe writes for a question in wire format: the dotted name of its first 16
labels cut at 126 bytes, and the type read two bytes past that many name bytes. -/
theorem traceUdpSendmsg_wireName (events : List DnsEvent) (sk : Sock)
    (hfam : sk.skcFamily = afInet) (hport : bpfNtohs sk.skcDport = dnsPort) {iter : UInt64}
    (hiter : iter ≠ 0) (p : Payload) (stack hdr rest : List UInt8) (labels : List (List UInt8))
    (hhdr : hdr.length = dnsHeaderSize) (hvalid : ∀ l ∈ labels, 0 < l.length ∧ l.length ≤ 63)
    (hne : labels ≠ []) (hp : p.bytes ++ stack = hdr ++ wireName labels ++ rest) (now : UInt64) :
    let name := (dottedName (labels.take 16)).take 126
    ∃ e : DnsEvent, traceUdpSendmsg events (some sk) (some iter) (some p) stack now = events ++ [e] ∧
      e.queryName = name ++ List.replicate (128 - name.length) 0 ∧
      e.queryType = bpfNtohs (uint16LE ((wireName labels ++ rest).drop (name.length + 2))) ∧
      e.timestampNs = now ∧ e.srcIP = sk.skcRcvSaddr ∧ e.dstIP = sk.skcDaddr ∧
      e.srcPort = sk.skcNum := by
  intro name
  have hparse : parseDnsName (hdr ++ wireName labels ++ rest) dnsHeaderSize (List.replicate 128 0)
      127 = (name.length, name ++ List.replicate (128 - name.length) 0) :=
    parseDnsName_wireName hdr rest labels hhdr hvalid
  have hlen : (parseDnsName (hdr ++ wireName labels ++ rest) dnsHeaderSize (List.replicate 128 0)
      127).1 = name.length := by rw [hparse]
  have hpos : 0 < name.length := by
    have h16 : labels.take 16 ≠ [] := by simp [hne]
    have := length_dottedName_pos _ h16 fun l h => hvalid l (List.mem_of_mem_take h)
    simp only [name, List.length_take]
    omega
  have hdrop : (hdr ++ wireName labels ++ rest).drop (dnsHeaderSize + name.length + 2) =
      (wireName labels ++ rest).drop (name.length + 2) := by
    rw [List.append_assoc, ← hhdr, Nat.add_assoc, List.drop_append]
  simp only [traceUdpSendmsg, hfam, hport, ne_eq, not_true_eq_false, if_false, hiter, hp]
  split_ifs with h0
  · omega
  refine ⟨_, rfl, congrArg Prod.snd hparse, ?_, rfl, rfl, rfl, rfl⟩
  simp only [hlen, hdrop]

theorem length_wireName (labels : List (List UInt8)) (hne : labels ≠ []) :
    (wireName labels).length = (dottedName labels).length + 2 := by
  simp [wireName, length_labelsWire labels hne]

/-- **A name that fits is recorded.**  When an IPv4 socket sends to port 53 and the 256 bytes the
probe reads from the address held in the first word of `msg_iter` hold a DNS header and a name of
at most 16 labels of 1 to 63 bytes, at most 126 bytes in dotted form, the probe writes one record
with the socket's addresses and port, the dotted name NUL-padded to 128 bytes, and as type the two
bytes after the name in network byte order, where a question holds its `QTYPE`. -/
theorem udpSendmsg_query (events : List DnsEvent) (sk : Sock) (hfam : sk.skcFamily = afInet)
    (hport : bpfNtohs sk.skcDport = dnsPort) {iter : UInt64} (hiter : iter ≠ 0) (p : Payload)
    (stack hdr : List UInt8) (labels : List (List UInt8)) (b₀ b₁ : UInt8) (rest : List UInt8)
    (hhdr : hdr.length = dnsHeaderSize) (hvalid : ValidLabels labels) (hne : labels ≠ [])
    (hfit : (dottedName labels).length ≤ 126)
    (hp : p.bytes = hdr ++ wireName labels ++ b₀ :: b₁ :: rest) (now : UInt64) :
    ∃ e : DnsEvent, traceUdpSendmsg events (some sk) (some iter) (some p) stack now = events ++ [e] ∧
      e.queryName = dottedName labels ++ List.replicate (128 - (dottedName labels).length) 0 ∧
      e.queryType.toNat = b₀.toNat * 256 + b₁.toNat ∧
      e.timestampNs = now ∧ e.srcIP = sk.skcRcvSaddr ∧ e.dstIP = sk.skcDaddr ∧
      e.srcPort = sk.skcNum := by
  obtain ⟨e, he, hname, htype, hrest⟩ :=
    traceUdpSendmsg_wireName events sk hfam hport hiter p stack hdr _ labels hhdr hvalid.2 hne
      (by rw [hp, List.append_assoc, List.cons_append, List.cons_append]) now
  have hall : (dottedName (labels.take 16)).take 126 = dottedName labels := by
    rw [List.take_of_length_le hvalid.1, List.take_of_length_le hfit]
  have hqtype : (wireName labels ++ b₀ :: b₁ :: (rest ++ stack)).drop
      ((dottedName labels).length + 2) = b₀ :: b₁ :: (rest ++ stack) := by
    rw [← length_wireName labels hne, List.drop_left]
  rw [hall] at hname htype
  refine ⟨e, he, hname, ?_, hrest⟩
  rw [htype, hqtype, toNat_bpfNtohs_uint16LE]

/-- `www.google.com`, type `A`, in a query header. -/
def googlePayload : Payload :=
  ⟨[18, 52, 1, 0, 0, 1, 0, 0, 0, 0, 0, 0] ++
      wireName [("www" : GoString), ("google" : GoString), ("com" : GoString)] ++
      0 :: 1 :: List.replicate 226 0, by
    simp only [List.length_append, List.length_cons, List.length_replicate,
      show (wireName [("www" : GoString), ("google" : GoString), ("com" : GoString)]).length = 16
        by decide]
    rfl⟩

/-- A socket `10.0.0.1:53000 → 8.8.8.8:53`. -/
def resolverSock : Sock := ⟨2, 167772161, 134744072, 53000, 13568⟩

/-- `www.google.com`, type `A`, read from address `0x10000` on a socket to `8.8.8.8:53`. -/
theorem udpSendmsg_query_google :
    resolverSock.skcFamily = afInet ∧ bpfNtohs resolverSock.skcDport = dnsPort ∧
      (0x10000 : UInt64) ≠ 0 ∧ [18, 52, 1, 0, 0, 1, 0, 0, 0, 0, 0, 0].length = dnsHeaderSize ∧
      ValidLabels [("www" : GoString), ("google" : GoString), ("com" : GoString)] ∧
      [("www" : GoString), ("google" : GoString), ("com" : GoString)] ≠ [] ∧
      (dottedName [("www" : GoString), ("google" : GoString), ("com" : GoString)]).length ≤ 126 ∧
      googlePayload.bytes = [18, 52, 1, 0, 0, 1, 0, 0, 0, 0, 0, 0] ++
        wireName [("www" : GoString), ("google" : GoString), ("com" : GoString)] ++
        0 :: 1 :: List.replicate 226 0 ∧
      ∃ e : DnsEvent, traceUdpSendmsg [] (some resolverSock) (some 0x10000) (some googlePayload) []
          5 = [] ++ [e] ∧
        e.queryName =
          dottedName [("www" : GoString), ("google" : GoString), ("com" : GoString)] ++
            List.replicate (128 - (dottedName
              [("www" : GoString), ("google" : GoString), ("com" : GoString)]).length) 0 ∧
        e.queryType.toNat = (0 : UInt8).toNat * 256 + (1 : UInt8).toNat ∧
        e.timestampNs = 5 ∧ e.srcIP = resolverSock.skcRcvSaddr ∧
        e.dstIP = resolverSock.skcDaddr ∧ e.srcPort = resolverSock.skcNum :=
  ⟨by decide, by decide, by decide, rfl, by decide, by decide, by decide, rfl,
    udpSendmsg_query [] resolverSock (by decide) (by decide) (by decide) googlePayload []
      [18, 52, 1, 0, 0, 1, 0, 0, 0, 0, 0, 0] _ 0 1 _ rfl (by decide) (by decide) (by decide) rfl 5⟩

/-- A name with more than 16 labels, or more than 127 bytes in dotted form, reaches at least four
bytes past the part the parser returns. -/
theorem length_name_add_four_le (labels : List (List UInt8))
    (hvalid : ∀ l ∈ labels, 0 < l.length ∧ l.length ≤ 63)
    (hlong : 16 < labels.length ∨ 128 ≤ (dottedName labels).length) :
    ((dottedName (labels.take 16)).take 126).length + 4 ≤ (wireName labels).length := by
  have hne : labels ≠ [] := by rintro rfl; simp [dottedName] at hlong
  have hname : ((dottedName (labels.take 16)).take 126).length ≤ 126 ∧
      ((dottedName (labels.take 16)).take 126).length ≤ (dottedName (labels.take 16)).length := by
    simp
  rcases hlong with h16 | h128
  · -- the 17th label lies between the parsed part and the terminating zero
    obtain ⟨l, ls, hdrop⟩ := List.exists_cons_of_ne_nil (show labels.drop 16 ≠ [] by simp; omega)
    have hl : 0 < l.length := (hvalid l (List.mem_of_mem_drop (by rw [hdrop]; exact .head _))).1
    have hfirst := length_labelsWire (labels.take 16) (by simp [hne])
    have hsplit : (wireName labels).length =
        (labelsWire (labels.take 16)).length + (labelsWire (labels.drop 16)).length + 1 := by
      conv_lhs => rw [← List.take_append_drop 16 labels]
      simp [wireName, labelsWire]
    have hrest : l.length + 1 ≤ (labelsWire (labels.drop 16)).length := by
      simp [hdrop, labelsWire]
    omega
  · rw [length_wireName labels hne]
    omega

/-- **A long name hides the query type.**  When the bytes read hold a name of more than 16 labels,
or more than 127 bytes in dotted form, the record the probe writes does not depend on the bytes
after the name, in the buffer or on the stack: its type is read from inside the name, never from
the two bytes after it. -/
theorem udpSendmsg_long_name (events : List DnsEvent) (sk : Option Sock)
    (msgIter : Option UInt64) (p₁ p₂ : Payload) (stack₁ stack₂ hdr rest₁ rest₂ : List UInt8)
    (labels : List (List UInt8)) (hhdr : hdr.length = dnsHeaderSize)
    (hvalid : ∀ l ∈ labels, 0 < l.length ∧ l.length ≤ 63)
    (hlong : 16 < labels.length ∨ 128 ≤ (dottedName labels).length)
    (h₁ : p₁.bytes = hdr ++ wireName labels ++ rest₁)
    (h₂ : p₂.bytes = hdr ++ wireName labels ++ rest₂) (now : UInt64) :
    traceUdpSendmsg events sk msgIter (some p₁) stack₁ now =
      traceUdpSendmsg events sk msgIter (some p₂) stack₂ now := by
  rcases sk with _ | sk
  · rfl
  rcases msgIter with _ | iter
  · simp only [traceUdpSendmsg]
  by_cases hdns : sk.skcFamily = afInet ∧ bpfNtohs sk.skcDport = dnsPort ∧ iter ≠ 0
  · obtain ⟨hfam, hport, hiter⟩ := hdns
    have hne : labels ≠ [] := by rintro rfl; simp [dottedName] at hlong
    have hinside := length_name_add_four_le labels hvalid hlong
    obtain ⟨e₁, he₁, hn₁, ht₁, hr₁⟩ :=
      traceUdpSendmsg_wireName events sk hfam hport hiter p₁ stack₁ hdr (rest₁ ++ stack₁) labels
        hhdr hvalid hne (by rw [h₁, List.append_assoc]) now
    obtain ⟨e₂, he₂, hn₂, ht₂, hr₂⟩ :=
      traceUdpSendmsg_wireName events sk hfam hport hiter p₂ stack₂ hdr (rest₂ ++ stack₂) labels
        hhdr hvalid hne (by rw [h₂, List.append_assoc]) now
    rw [uint16LE_drop_append _ _ _ (by omega)] at ht₁ ht₂
    rw [he₁, he₂]
    congr 2
    ext <;> simp only [hn₁, hn₂, ht₁, ht₂, hr₁, hr₂]
  · -- not a DNS socket, or a NULL pointer: nothing is written either way
    simp only [not_and_or, ne_eq, not_not] at hdns
    rcases hdns with h | h | h <;> simp [traceUdpSendmsg, h]

/-- Seventeen one-byte labels: the records for type `A` and type `AAAA` are the same. -/
theorem udpSendmsg_long_name_seventeen_labels :
    let labels : List (List UInt8) := List.replicate 17 [97]
    let hdr : List UInt8 := [18, 52, 1, 0, 0, 1, 0, 0, 0, 0, 0, 0]
    let payload (qtype : UInt8) : Payload :=
      ⟨hdr ++ wireName labels ++ 0 :: qtype :: List.replicate 207 0, by
        simp only [List.length_append, List.length_cons, List.length_replicate,
          show (wireName labels).length = 35 by decide]
        rfl⟩
    hdr.length = dnsHeaderSize ∧ (∀ l ∈ labels, 0 < l.length ∧ l.length ≤ 63) ∧
      (16 < labels.length ∨ 128 ≤ (dottedName labels).length) ∧
      (payload 1).bytes = hdr ++ wireName labels ++ 0 :: 1 :: List.replicate 207 0 ∧
      (payload 28).bytes = hdr ++ wireName labels ++ 0 :: 28 :: List.replicate 207 0 ∧
      traceUdpSendmsg [] (some resolverSock) (some 0x10000) (some (payload 1)) [] 5 =
        traceUdpSendmsg [] (some resolverSock) (some 0x10000) (some (payload 28)) [7] 5 := by
  intro labels hdr payload
  exact ⟨rfl, by decide, .inl (by decide), rfl, rfl,
    udpSendmsg_long_name [] _ _ (payload 1) (payload 28) [] [7] hdr _ _ labels rfl (by decide)
      (.inl (by decide)) rfl rfl 5⟩

end Bpf
end Nefi
