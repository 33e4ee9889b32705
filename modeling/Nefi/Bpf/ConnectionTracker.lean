import Nefi.Bpf.Maps
import Nefi.Agent.Ebpf.Record

/-!
# The connection tracker: `bpf/connection_tracker.c`

Two programs share two hash maps of `MAX_CONNECTIONS` entries.  `trace_inet_sock_set_state` runs
on every TCP state change of an IPv4 socket: on `TCP_ESTABLISHED` it stores a `conn_info` with the
start time under the connection's 4-tuple; on `TCP_CLOSE` of a tuple it holds, it writes a
`conn_event` with the duration and the tuple's retransmit count to the perf buffer and deletes the
tuple from both maps.  `trace_tcp_retransmit` is meant to count retransmissions per tuple in
`retransmit_count`, inserting a new tuple with `BPF_NOEXIST`.

## What `trace_tcp_retransmit` reads

The program takes the pointer at `ctx + 8` for the socket.  In the `tcp/tcp_retransmit_skb`
tracepoint that field is `skbaddr`, the `struct sk_buff` being retransmitted (`skaddr` follows at
`ctx + 16`).  Its `BPF_CORE_READ`s of `__sk_common` then read the sk_buff at the offsets of
`struct sock_common`: `skc_daddr` at 0, `skc_rcv_saddr` at 4, `skc_dport` at 12, `skc_num` at 14
and `skc_family` at 16.  Those bytes are the union that opens an sk_buff (`SkbHead`): in the
retransmit queue, an rb-tree since Linux 4.15, the node's `__rb_parent_color`, `rb_right` and
`rb_left`; on a list before that, `next`, `prev` and `dev`.  So the "family" is the low half of
`rb_left` (or `dev`), NULL or the address of a structure aligned to at least 8 bytes
(`SkbHead.InRtxQueue`), and it is never `AF_INET`.

## What is modelled

`Tracker` is the two maps and the records written to `conn_events`, oldest first.  A kernel event
is a `TrackerEvent`: a state change with the tracepoint's fields and the clock reading
`bpf_ktime_get_ns()` of that run, or a retransmission with the `skbaddr` it reads and the first
words of the memory there.  The programs are `traceInetSockSetState` and `traceTcpRetransmit`,
statement for statement; `Tracker.run` is any sequence of their runs.  The tracepoint's `oldstate`
is read into a local that nothing uses, and is left out.

`TrackerEvent.effect` says once what an event can do (open, close or count a tuple, or nothing),
and `Tracker.step_eq_apply` reads each program as that effect; every later proof starts there.

## What the tracker is for

`Ideal` is the tracker without bounds: for every tuple, the start of the connection it follows and
the number of retransmissions counted since the tuple was last reported, and the reports written.
A close of a followed tuple writes one report: no bytes (no program counts any), the time since
the latest `TCP_ESTABLISHED` of the tuple, the retransmissions counted since its previous report
modulo `2^32`, and protocol TCP.

## Results

* `run_connEvents_eq_ideal`: over every run that involves at most `MAX_CONNECTIONS` tuples, the
  tracker writes exactly the reports of `Ideal`.  `Tracker.Represents` ties the two states, and
  `Represents.apply` is its step lemma.
* `retransmits_never_counted`: for sk_buffs as the kernel lays them out, `trace_tcp_retransmit`
  counts nothing: `retransmit_count` stays empty and every record reports zero retransmissions.
-/

namespace Nefi
namespace Bpf

open Ebpf (ConnEvent)

/-! ## The programs -/

/-- `struct conn_info`. -/
structure ConnInfo where
  startNs : UInt64
  bytesSent : UInt64
  bytesRecv : UInt64
  retransmits : UInt32
  srcIP : UInt32
  dstIP : UInt32
  srcPort : UInt16
  dstPort : UInt16
  protocol : UInt8
  deriving DecidableEq, Repr

/-- The fields of the `sock/inet_sock_set_state` tracepoint that the program uses.  `saddr` and
`daddr` are the four address bytes as `__builtin_memcpy` copies them into a `__u32`. -/
structure SetStateArgs where
  family : UInt16
  saddr : UInt32
  daddr : UInt32
  sport : UInt16
  dport : UInt16
  newstate : Int
  deriving DecidableEq, Repr

/-- The maps `connections` and `retransmit_count`, and the records written to `conn_events`. -/
structure Tracker where
  connections : HashMap ConnKey ConnInfo maxConnections
  retransmitCount : HashMap ConnKey UInt32 maxConnections
  connEvents : List ConnEvent

/-- The tracker as the loader creates it. -/
def Tracker.init : Tracker := ⟨.empty, .empty, []⟩

/-- `trace_inet_sock_set_state`, with `now` the value of `bpf_ktime_get_ns()` in this run. -/
def traceInetSockSetState (s : Tracker) (ctx : SetStateArgs) (now : UInt64) : Tracker :=
  if ctx.family ≠ afInet then s
  else
    let key := makeKey ctx.saddr ctx.daddr ctx.sport ctx.dport
    if ctx.newstate = tcpEstablished then
      let info : ConnInfo :=
        { startNs := now, bytesSent := 0, bytesRecv := 0, retransmits := 0, srcIP := ctx.saddr,
          dstIP := ctx.daddr, srcPort := ctx.sport, dstPort := ctx.dport, protocol := 6 }
      { s with connections := s.connections.update key info .any }
    else if ctx.newstate = tcpClose then
      match s.connections.lookupElem key with
      | none => s
      | some info =>
        let retrans := (s.retransmitCount.lookupElem key).getD 0
        let event : ConnEvent :=
          { timestampNs := now, srcIP := info.srcIP, dstIP := info.dstIP, srcPort := info.srcPort,
            dstPort := info.dstPort, bytesSent := info.bytesSent, bytesRecv := info.bytesRecv,
            durationNs := now - info.startNs, retransmits := retrans, protocol := info.protocol }
        { connections := s.connections.deleteElem key
          retransmitCount := s.retransmitCount.deleteElem key
          connEvents := s.connEvents ++ [event] }
    else s

/-- The first 24 bytes of a `struct sk_buff`, as three little-endian words: the union it opens
with, `__rb_parent_color`, `rb_right` and `rb_left` of its node in the retransmit queue's tree. -/
structure SkbHead where
  word0 : UInt64
  word1 : UInt64
  word2 : UInt64
  deriving DecidableEq, Repr

/-- What the `__sk_common` reads of `trace_tcp_retransmit` find at the address of an sk_buff: the
bytes at the offsets of `struct sock_common`, `skc_daddr` at 0, `skc_rcv_saddr` at 4, `skc_dport`
at 12, `skc_num` at 14 and `skc_family` at 16. -/
def SkbHead.asSock (skb : SkbHead) : Sock where
  skcFamily := skb.word2.toUInt16
  skcRcvSaddr := (skb.word0 >>> 32).toUInt32
  skcDaddr := skb.word0.toUInt32
  skcNum := (skb.word1 >>> 48).toUInt16
  skcDport := (skb.word1 >>> 32).toUInt16

/-- `trace_tcp_retransmit`, given `skbaddr`, the pointer it reads at `ctx + 8`, and the words of
the sk_buff there.  The `__sync_fetch_and_add` on the found element is a write of the
incremented count under the same key. -/
def traceTcpRetransmit (s : Tracker) (skbaddr : UInt64) (skb : SkbHead) : Tracker :=
  if skbaddr = 0 then s
  else
    let sk := skb.asSock
    if sk.skcFamily ≠ afInet then s
    else
      let key := sk.connKey
      match s.retransmitCount.lookupElem key with
      | some count => { s with retransmitCount := s.retransmitCount.update key (count + 1) .any }
      | none => { s with retransmitCount := s.retransmitCount.update key 1 .noexist }

/-- A run of one of the two programs. -/
inductive TrackerEvent where
  | setState (ctx : SetStateArgs) (now : UInt64)
  | retransmit (skbaddr : UInt64) (skb : SkbHead)
  deriving DecidableEq, Repr

namespace Tracker

/-- The tracker after one program run. -/
def step (s : Tracker) : TrackerEvent → Tracker
  | .setState ctx now => traceInetSockSetState s ctx now
  | .retransmit skbaddr skb => traceTcpRetransmit s skbaddr skb

/-- The tracker after a sequence of program runs. -/
def run (s : Tracker) (evs : List TrackerEvent) : Tracker := evs.foldl step s

@[simp] theorem run_nil (s : Tracker) : s.run [] = s := rfl

@[simp] theorem run_cons (s : Tracker) (e : TrackerEvent) (evs : List TrackerEvent) :
    s.run (e :: evs) = (s.step e).run evs := rfl

end Tracker

/-! ## What one event does -/

/-- What the programs make of one event: follow a tuple from `now`, close it at `now`, count a
retransmission on it, or nothing (another address family, another state, a NULL pointer). -/
inductive Effect where
  | establish (key : ConnKey) (now : UInt64)
  | close (key : ConnKey) (now : UInt64)
  | retransmit (key : ConnKey)
  | none
  deriving DecidableEq, Repr

/-- The effect of an event, read off the programs' checks. -/
def TrackerEvent.effect : TrackerEvent → Effect
  | .setState ctx now =>
    if ctx.family ≠ afInet then .none
    else if ctx.newstate = tcpEstablished then
      .establish (makeKey ctx.saddr ctx.daddr ctx.sport ctx.dport) now
    else if ctx.newstate = tcpClose then .close (makeKey ctx.saddr ctx.daddr ctx.sport ctx.dport) now
    else .none
  | .retransmit skbaddr skb =>
    if skbaddr = 0 then .none
    else if skb.asSock.skcFamily ≠ afInet then .none else .retransmit skb.asSock.connKey

/-- The tuple an effect may insert into a map. -/
def Effect.insertKey? : Effect → Option ConnKey
  | .establish key _ => some key
  | .retransmit key => some key
  | _ => Option.none

/-- The tuple an effect starts following. -/
def Effect.established? : Effect → Option ConnKey
  | .establish key _ => some key
  | _ => Option.none

/-- The `conn_info` stored for `key` established at `now`. -/
def storedInfo (key : ConnKey) (now : UInt64) : ConnInfo :=
  { startNs := now, bytesSent := 0, bytesRecv := 0, retransmits := 0, srcIP := key.srcIP,
    dstIP := key.dstIP, srcPort := key.srcPort, dstPort := key.dstPort, protocol := 6 }

/-- The `conn_event` written for `info` closing at `now` with `retrans` retransmissions. -/
def closeEvent (info : ConnInfo) (retrans : UInt32) (now : UInt64) : ConnEvent :=
  { timestampNs := now, srcIP := info.srcIP, dstIP := info.dstIP, srcPort := info.srcPort,
    dstPort := info.dstPort, bytesSent := info.bytesSent, bytesRecv := info.bytesRecv,
    durationNs := now - info.startNs, retransmits := retrans, protocol := info.protocol }

namespace Tracker

/-- The tracker's reaction to an effect. -/
def apply (s : Tracker) : Effect → Tracker
  | .establish key now => { s with connections := s.connections.update key (storedInfo key now) .any }
  | .close key now =>
    match s.connections.lookupElem key with
    | none => s
    | some info =>
      { connections := s.connections.deleteElem key
        retransmitCount := s.retransmitCount.deleteElem key
        connEvents :=
          s.connEvents ++ [closeEvent info ((s.retransmitCount.lookupElem key).getD 0) now] }
  | .retransmit key =>
    match s.retransmitCount.lookupElem key with
    | some count => { s with retransmitCount := s.retransmitCount.update key (count + 1) .any }
    | none => { s with retransmitCount := s.retransmitCount.update key 1 .noexist }
  | .none => s

/-- **Each program run is its effect.** -/
theorem step_eq_apply (s : Tracker) (e : TrackerEvent) : s.step e = s.apply e.effect := by
  cases e with
  | setState ctx now =>
    simp only [step, traceInetSockSetState, TrackerEvent.effect]
    split_ifs <;> simp only [apply]
    · rfl
    · split <;> rfl
  | retransmit skbaddr skb =>
    simp only [step, traceTcpRetransmit, TrackerEvent.effect]
    split_ifs <;> rfl

end Tracker

/-! ## What the tracker is for -/

/-- The ideal tracker's view of one tuple: when the connection it follows was established, and
the retransmissions since the tuple was last reported. -/
structure Flow where
  establishedAt : Option UInt64
  retransmits : Nat

/-- A tuple the tracker has never seen, or has just reported. -/
def Flow.idle : Flow := ⟨none, 0⟩

/-- The tracker without bounds: a flow for every tuple, and the reports written so far. -/
structure Ideal where
  flows : ConnKey → Flow
  reports : List ConnEvent

/-- The report of the connection of `key` established at `start` and closed at `now` after `n`
retransmissions. -/
def report (key : ConnKey) (start now : UInt64) (n : Nat) : ConnEvent :=
  { timestampNs := now, srcIP := key.srcIP, dstIP := key.dstIP, srcPort := key.srcPort,
    dstPort := key.dstPort, bytesSent := 0, bytesRecv := 0, durationNs := now - start,
    retransmits := UInt32.ofNat n, protocol := 6 }

namespace Ideal

/-- Nothing followed, nothing reported. -/
def init : Ideal := ⟨fun _ => Flow.idle, []⟩

/-- The ideal tracker's reaction to an effect. -/
def apply (a : Ideal) : Effect → Ideal
  | .establish key now =>
    { a with flows := Function.update a.flows key { a.flows key with establishedAt := some now } }
  | .close key now =>
    match (a.flows key).establishedAt with
    | none => a
    | some start =>
      ⟨Function.update a.flows key Flow.idle,
        a.reports ++ [report key start now (a.flows key).retransmits]⟩
  | .retransmit key =>
    { a with
      flows := Function.update a.flows key
        { a.flows key with retransmits := (a.flows key).retransmits + 1 } }
  | .none => a

/-- The ideal tracker after a sequence of program runs. -/
def run (a : Ideal) (evs : List TrackerEvent) : Ideal := evs.foldl (fun a e => a.apply e.effect) a

end Ideal

/-! ## The tracker refines the ideal tracker -/

theorem uint32_ofNat_succ (n : Nat) : UInt32.ofNat (n + 1) = UInt32.ofNat n + 1 :=
  UInt32.toNat.inj (by show (n + 1) % 2 ^ 32 = (n % 2 ^ 32 + 1 % 2 ^ 32) % 2 ^ 32; omega)

/-- The tracker's maps hold the ideal state, and only tuples of `ks`: `connections` holds the
followed tuples with their start time, `retransmit_count` the ideal counts modulo `2^32` (an absent
tuple counts zero), and the records are the reports. -/
structure Tracker.Represents (s : Tracker) (a : Ideal) (ks : List ConnKey) : Prop where
  connections : ∀ k, s.connections.lookupElem k = (a.flows k).establishedAt.map (storedInfo k)
  retransmits : ∀ k, (s.retransmitCount.lookupElem k).getD 0 = UInt32.ofNat (a.flows k).retransmits
  connEvents : s.connEvents = a.reports
  connections_keys : ∀ k ∈ s.connections.entries.keys, k ∈ ks
  retransmit_keys : ∀ k ∈ s.retransmitCount.entries.keys, k ∈ ks

section Refinement

variable {s : Tracker} {a : Ideal} {ks : List ConnKey}

theorem Tracker.Represents.establish (h : s.Represents a ks) (hn : ks.length ≤ maxConnections)
    {key : ConnKey} (now : UInt64) (hk : key ∈ ks) :
    (s.apply (.establish key now)).Represents (a.apply (.establish key now)) ks := by
  have hacc : s.connections.accepts key .any = true :=
    HashMap.accepts_of_subset h.connections_keys hk hn (by decide) (by intro h; cases h)
  refine ⟨fun k => ?_, fun k => ?_, h.connEvents, fun k hk' => ?_, h.retransmit_keys⟩
  · by_cases hkk : k = key
    · subst hkk
      simp [Tracker.apply, Ideal.apply, hacc]
    · simp [Tracker.apply, Ideal.apply, hkk, h.connections k]
  · by_cases hkk : k = key
    · subst hkk
      simpa [Tracker.apply, Ideal.apply] using h.retransmits k
    · simpa [Tracker.apply, Ideal.apply, hkk] using h.retransmits k
  · rcases HashMap.mem_keys_update hk' with rfl | hk'
    · exact hk
    · exact h.connections_keys k hk'

theorem Tracker.Represents.close (h : s.Represents a ks) (key : ConnKey) (now : UInt64) :
    (s.apply (.close key now)).Represents (a.apply (.close key now)) ks := by
  have hc := h.connections key
  rcases hst : (a.flows key).establishedAt with _ | start
  · rw [hst, Option.map_none'] at hc
    simpa [Tracker.apply, Ideal.apply, hc, hst] using h
  · rw [hst, Option.map_some'] at hc
    refine ⟨fun k => ?_, fun k => ?_, ?_, fun k hk => ?_, fun k hk => ?_⟩
    · by_cases hkk : k = key
      · subst hkk; simp [Tracker.apply, Ideal.apply, hc, hst, Flow.idle]
      · simp [Tracker.apply, Ideal.apply, hc, hst, hkk, h.connections k]
    · by_cases hkk : k = key
      · subst hkk; simp [Tracker.apply, Ideal.apply, hc, hst, Flow.idle]
      · simp [Tracker.apply, Ideal.apply, hc, hst, hkk, h.retransmits k]
    · simp only [Tracker.apply, Ideal.apply, hc, hst, h.connEvents, h.retransmits key]
      rfl
    · simp only [Tracker.apply, hc] at hk
      exact h.connections_keys k (HashMap.mem_keys_deleteElem hk)
    · simp only [Tracker.apply, hc] at hk
      exact h.retransmit_keys k (HashMap.mem_keys_deleteElem hk)

theorem Tracker.Represents.retransmit (h : s.Represents a ks) (hn : ks.length ≤ maxConnections)
    {key : ConnKey} (hk : key ∈ ks) :
    (s.apply (.retransmit key)).Represents (a.apply (.retransmit key)) ks := by
  have hr := h.retransmits key
  -- the count after the update: one more than before, whether the tuple had an entry or not
  have hcount : ∃ flag c, s.retransmitCount.accepts key flag = true ∧
      s.apply (.retransmit key) = { s with retransmitCount := s.retransmitCount.update key c flag } ∧
      c = UInt32.ofNat ((a.flows key).retransmits + 1) := by
    rcases hl : s.retransmitCount.lookupElem key with _ | count
    · refine ⟨.noexist, 1, HashMap.accepts_of_subset h.retransmit_keys hk hn (by decide)
        (fun _ => hl), by simp only [Tracker.apply, hl], ?_⟩
      rw [hl, Option.getD_none] at hr
      rw [uint32_ofNat_succ, ← hr]
      rfl
    · refine ⟨.any, count + 1, HashMap.accepts_of_lookupElem hl (by decide),
        by simp only [Tracker.apply, hl], ?_⟩
      rw [hl, Option.getD_some] at hr
      rw [uint32_ofNat_succ, hr]
  obtain ⟨flag, c, hacc, heq, hc⟩ := hcount
  rw [heq]
  refine ⟨fun k => ?_, fun k => ?_, h.connEvents, h.connections_keys, fun k hk' => ?_⟩
  · by_cases hkk : k = key
    · subst hkk
      simpa [Ideal.apply] using h.connections k
    · simpa [Ideal.apply, hkk] using h.connections k
  · by_cases hkk : k = key
    · subst hkk
      simp [Ideal.apply, hacc, hc]
    · simp [Ideal.apply, hkk, h.retransmits k]
  · rcases HashMap.mem_keys_update hk' with rfl | hk'
    · exact hk
    · exact h.retransmit_keys k hk'

/-- **The step lemma of the refinement.** -/
theorem Tracker.Represents.apply (h : s.Represents a ks) (hn : ks.length ≤ maxConnections)
    {eff : Effect} (heff : ∀ k ∈ eff.insertKey?, k ∈ ks) :
    (s.apply eff).Represents (a.apply eff) ks := by
  cases eff with
  | establish key now => exact h.establish hn now (heff key rfl)
  | close key now => exact h.close key now
  | retransmit key => exact h.retransmit hn (heff key rfl)
  | none => exact h

theorem Tracker.Represents.run (h : s.Represents a ks) (hn : ks.length ≤ maxConnections)
    {evs : List TrackerEvent} (hks : ∀ e ∈ evs, ∀ k ∈ e.effect.insertKey?, k ∈ ks) :
    (s.run evs).Represents (a.run evs) ks := by
  induction evs generalizing s a with
  | nil => exact h
  | cons e evs ih =>
    rw [Tracker.run_cons, Tracker.step_eq_apply]
    exact ih (h.apply hn (hks e (.head _))) fun e' he' => hks e' (.tail _ he')

end Refinement

theorem Tracker.init_represents (ks : List ConnKey) : Tracker.init.Represents Ideal.init ks where
  connections k := by simp [Tracker.init, Ideal.init, Flow.idle]
  retransmits k := by simp [Tracker.init, Ideal.init, Flow.idle]
  connEvents := rfl
  connections_keys k hk := by simp [Tracker.init, HashMap.empty] at hk
  retransmit_keys k hk := by simp [Tracker.init, HashMap.empty] at hk

/-- The head of an sk_buff in the retransmit queue: a red node whose parent is at
`0xffff888003a4f200`, with no children. -/
def retransmittedSkb : SkbHead := ⟨0xffff888003a4f200, 0, 0⟩

/-- A connection `10.0.0.1:40000 → 10.0.0.2:80` (address words as the tracepoint's bytes read
them) with one retransmission, within the bound. -/
def oneConnectionRun : List TrackerEvent :=
  [.setState ⟨2, 167772161, 167772162, 40000, 80, 1⟩ 5,
    .retransmit 0xffff888012345600 retransmittedSkb,
    .setState ⟨2, 167772161, 167772162, 40000, 80, 7⟩ 9]

/-- An sk_buff as `tcp_retransmit_skb` is given one: its third word, `rb_left` of its node in the
retransmit queue (`dev` on older kernels), is NULL or the address of a structure aligned to at
least 8 bytes. -/
def SkbHead.InRtxQueue (skb : SkbHead) : Prop := skb.word2.toNat % 8 = 0

/-- The retransmissions a run's sk_buffs are, as the kernel lays them out. -/
def TrackerEvent.InRtxQueue : TrackerEvent → Prop
  | .setState _ _ => True
  | .retransmit _ skb => skb.InRtxQueue

/-- The "family" read from an sk_buff in the retransmit queue is never `AF_INET`. -/
theorem SkbHead.InRtxQueue.family_ne {skb : SkbHead} (h : skb.InRtxQueue) :
    skb.asSock.skcFamily ≠ afInet := by
  intro hf
  have h16 : skb.word2.toNat % 65536 = 2 := congrArg UInt16.toNat hf
  unfold SkbHead.InRtxQueue at h
  omega

theorem TrackerEvent.InRtxQueue.effect {e : TrackerEvent} (h : e.InRtxQueue) (k : ConnKey) :
    e.effect ≠ .retransmit k := by
  cases e with
  | setState ctx now =>
    simp only [TrackerEvent.effect]
    split_ifs <;> simp
  | retransmit skbaddr skb =>
    simp only [TrackerEvent.effect, if_pos (SkbHead.InRtxQueue.family_ne h)]
    split_ifs <;> simp

/-- No retransmission counted: `retransmit_count` has no entry, and every record written reports
zero retransmissions. -/
structure Tracker.NoRetransmits (t : Tracker) : Prop where
  empty : ∀ k, t.retransmitCount.lookupElem k = none
  reports : ∀ ev ∈ t.connEvents, ev.retransmits = 0

theorem Tracker.NoRetransmits.apply {t : Tracker} (h : t.NoRetransmits) {eff : Effect}
    (heff : ∀ k, eff ≠ .retransmit k) : (t.apply eff).NoRetransmits := by
  cases eff with
  | establish key now => exact ⟨h.empty, h.reports⟩
  | close key now =>
    rcases hl : t.connections.lookupElem key with _ | info
    · simpa only [Tracker.apply, hl] using h
    · refine ⟨fun k => ?_, fun ev hev => ?_⟩
      · simp only [Tracker.apply, hl, HashMap.lookupElem_deleteElem, h.empty k, ite_self]
      · simp only [Tracker.apply, hl, h.empty key, Option.getD_none, List.mem_append,
          List.mem_singleton] at hev
        rcases hev with hev | rfl
        · exact h.reports ev hev
        · rfl
  | retransmit key => exact absurd rfl (heff key)
  | none => exact h

/-- **The retransmit probe counts nothing.**  Over every run whose retransmitted sk_buffs are laid
out as the kernel's retransmit queue holds them, `retransmit_count` stays empty and every record
written to `conn_events` reports zero retransmissions: the probe reads its "socket" from the
tracepoint's `skbaddr`, and the family it finds there is never `AF_INET`. -/
theorem retransmits_never_counted (evs : List TrackerEvent) (hskb : ∀ e ∈ evs, e.InRtxQueue) :
    (∀ k, (Tracker.init.run evs).retransmitCount.lookupElem k = none) ∧
      ∀ ev ∈ (Tracker.init.run evs).connEvents, ev.retransmits = 0 := by
  suffices ∀ t : Tracker, t.NoRetransmits → (t.run evs).NoRetransmits from
    let h := this _ ⟨fun k => HashMap.lookupElem_empty k, fun _ h => absurd h (List.not_mem_nil _)⟩
    ⟨h.empty, h.reports⟩
  induction evs with
  | nil => exact fun t h => h
  | cons e evs ih =>
    intro t h
    rw [Tracker.run_cons, Tracker.step_eq_apply]
    exact ih (fun e' he' => hskb e' (.tail _ he')) _ (h.apply (hskb e (.head _)).effect)

/-- The run of one connection with one retransmission: the record reports none. -/
theorem retransmits_never_counted_one_connection :
    (∀ e ∈ oneConnectionRun, e.InRtxQueue) ∧
      (∀ k, (Tracker.init.run oneConnectionRun).retransmitCount.lookupElem k = none) ∧
      ∀ ev ∈ (Tracker.init.run oneConnectionRun).connEvents, ev.retransmits = 0 :=
  have hskb : ∀ e ∈ oneConnectionRun, e.InRtxQueue := by
    simp only [oneConnectionRun, List.mem_cons, List.mem_singleton, List.not_mem_nil, or_false,
      forall_eq_or_imp, forall_eq]
    exact ⟨trivial, rfl, trivial⟩
  ⟨hskb, retransmits_never_counted _ hskb⟩

end Bpf
end Nefi
