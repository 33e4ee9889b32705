import Mathlib.Data.List.AList
import Mathlib.Data.List.Perm.Subperm

/-!
# The kernel side: hash maps and `common.h`

The three probe programs of `bpf/` keep their state in `BPF_MAP_TYPE_HASH` maps and read the same
few fields of a `struct sock`.  This file fixes both once: the kernel's semantics of a bounded hash
map, and the definitions of `headers/common.h`.

## What is modelled

* `HashMap K V n` is a hash map created with `max_entries = n`.  Its entries are an `AList` (one
  value per key) that carries the bound as a field, so a map with more than `n` keys cannot be
  built.
* `bpf_map_lookup_elem` and `bpf_map_delete_elem` are `lookupElem` and `deleteElem`.
  `bpf_map_update_elem` is `updateElem`: the kernel refuses an update with `BPF_NOEXIST` of a
  present key (`-EEXIST`), with `BPF_EXIST` of an absent key (`-ENOENT`), and of an absent key when
  the map already holds `max_entries` keys (`-E2BIG`); replacing the value of a present key always
  succeeds.  No program here reads the return code, so `update` is the map after the call.
* A program reads or writes a map element in one piece: the programs run to completion one after
  another, and the window between `bpf_map_lookup_elem` and a write through the returned pointer
  is not modelled.
* `common.h`: the constants the programs compare with, `struct conn_key` and `make_key`, and the
  `__sk_common` fields of a socket.  `make_key` copies its arguments in order and normalises
  nothing, so the key of a socket and the key of its peer are each other's swap (`swapKey`).

## Results

* `lookupElem_update`, `lookupElem_deleteElem`: what one call does to every key.
* `card_lt_of_subset`: a map whose keys are drawn from a list of at most `max_entries` keys has room
  for any other key of the list, so updates of keys of that list are never refused for space.
* `swapKey_swapKey`, `swapKey_eq_self`: a key is its own swap only when both ends of the
  connection have the same address and port.
-/

namespace Nefi
namespace Bpf

/-! ## Hash maps -/

/-- The flags of `bpf_map_update_elem`: `BPF_ANY`, `BPF_NOEXIST` and `BPF_EXIST`. -/
inductive UpdateFlag where
  | any
  | noexist
  | exist
  deriving DecidableEq, Repr

/-- A `BPF_MAP_TYPE_HASH` map created with `max_entries = n`. -/
structure HashMap (K V : Type) [DecidableEq K] (n : Nat) where
  entries : AList fun _ : K => V
  card_le : entries.keys.length ≤ n

namespace HashMap

variable {K V : Type} [DecidableEq K] {n : Nat}

/-- The number of keys in the map. -/
def card (m : HashMap K V n) : Nat := m.entries.keys.length

/-- A map as the loader creates it: empty. -/
def empty : HashMap K V n := ⟨∅, Nat.zero_le n⟩

/-- `bpf_map_lookup_elem`. -/
def lookupElem (m : HashMap K V n) (k : K) : Option V := m.entries.lookup k

/-- `bpf_map_delete_elem`. -/
def deleteElem (m : HashMap K V n) (k : K) : HashMap K V n :=
  ⟨m.entries.erase k, by
    rw [AList.keys_erase]
    exact (List.length_erase_le _ _).trans m.card_le⟩

/-- Whether the kernel accepts `bpf_map_update_elem` of `k` with `flag`: `BPF_NOEXIST` needs an
absent key, `BPF_EXIST` a present one, and an absent key needs a free slot. -/
def accepts (m : HashMap K V n) (k : K) (flag : UpdateFlag) : Bool :=
  match m.lookupElem k with
  | some _ => flag != .noexist
  | none => flag != .exist && decide (m.card < n)

theorem card_insert_le {m : HashMap K V n} {k : K} {flag : UpdateFlag} (v : V)
    (h : m.accepts k flag = true) : (m.entries.insert k v).keys.length ≤ n := by
  have hb := m.card_le
  rw [AList.keys_insert, List.length_cons]
  unfold accepts lookupElem card at h
  split at h
  · rename_i hk
    have hmem : k ∈ m.entries.keys := AList.mem_keys.mp (AList.lookup_isSome.mp (by simp [hk]))
    have := List.length_pos_of_mem hmem
    rw [List.length_erase_of_mem hmem]
    omega
  · simp only [Bool.and_eq_true, decide_eq_true_eq] at h
    have := List.length_erase_le k m.entries.keys
    omega

/-- `bpf_map_update_elem`: the new map, or `none` when the kernel refuses the update. -/
def updateElem (m : HashMap K V n) (k : K) (v : V) (flag : UpdateFlag) :
    Option (HashMap K V n) :=
  if h : m.accepts k flag = true then some ⟨m.entries.insert k v, card_insert_le v h⟩ else none

/-- The map after a `bpf_map_update_elem` whose return code the program ignores. -/
def update (m : HashMap K V n) (k : K) (v : V) (flag : UpdateFlag) : HashMap K V n :=
  (m.updateElem k v flag).getD m

@[simp] theorem lookupElem_empty (k : K) : (empty : HashMap K V n).lookupElem k = none :=
  AList.lookup_empty k

@[simp] theorem lookupElem_deleteElem (m : HashMap K V n) (k k' : K) :
    (m.deleteElem k).lookupElem k' = if k' = k then none else m.lookupElem k' := by
  unfold deleteElem lookupElem
  split_ifs with h
  · rw [h, AList.lookup_erase]
  · exact AList.lookup_erase_ne h

/-- **One update, every key.**  The updated key holds the new value when the kernel accepts the
update; every other key keeps its value. -/
theorem lookupElem_update (m : HashMap K V n) (k k' : K) (v : V) (flag : UpdateFlag) :
    (m.update k v flag).lookupElem k' =
      if k' = k ∧ m.accepts k flag = true then some v else m.lookupElem k' := by
  unfold update updateElem
  by_cases ha : m.accepts k flag = true
  · rw [dif_pos ha, Option.getD_some]
    by_cases hk : k' = k
    · subst hk
      simp only [ha, and_self, if_true, lookupElem, AList.lookup_insert]
    · simp only [hk, false_and, if_false, lookupElem, AList.lookup_insert_ne hk]
  · rw [dif_neg ha, Option.getD_none, if_neg (fun h => ha h.2)]

@[simp] theorem lookupElem_update_self (m : HashMap K V n) (k : K) (v : V) (flag : UpdateFlag)
    (h : m.accepts k flag = true) : (m.update k v flag).lookupElem k = some v := by
  simp [lookupElem_update, h]

@[simp] theorem lookupElem_update_ne (m : HashMap K V n) {k k' : K} (v : V) (flag : UpdateFlag)
    (h : k' ≠ k) : (m.update k v flag).lookupElem k' = m.lookupElem k' := by
  simp [lookupElem_update, h]

/-- A present key is always replaced, with any flag but `BPF_NOEXIST`. -/
theorem accepts_of_lookupElem {m : HashMap K V n} {k : K} {v : V} {flag : UpdateFlag}
    (h : m.lookupElem k = some v) (hf : flag ≠ .noexist) : m.accepts k flag = true := by
  simp [accepts, h, hf]

theorem lookupElem_eq_none_iff {m : HashMap K V n} {k : K} :
    m.lookupElem k = none ↔ k ∉ m.entries.keys := by
  rw [lookupElem, AList.lookup_eq_none, AList.mem_keys]

/-- A key of the updated map is the updated key or a key of the map. -/
theorem mem_keys_update {m : HashMap K V n} {k k' : K} {v : V} {flag : UpdateFlag}
    (h : k' ∈ (m.update k v flag).entries.keys) : k' = k ∨ k' ∈ m.entries.keys := by
  by_contra hc
  push_neg at hc
  have hn : (m.update k v flag).lookupElem k' = none := by
    rw [lookupElem_update_ne _ _ _ hc.1, lookupElem_eq_none_iff]
    exact hc.2
  exact lookupElem_eq_none_iff.mp hn h

theorem mem_keys_deleteElem {m : HashMap K V n} {k k' : K}
    (h : k' ∈ (m.deleteElem k).entries.keys) : k' ∈ m.entries.keys :=
  List.mem_of_mem_erase (by simpa [deleteElem] using h)

/-- **Room for every key of a small enough universe.**  If the map's keys are drawn from `ks`,
which has at most `max_entries` elements, the map has a free slot for any key of `ks` it lacks. -/
theorem card_lt_of_subset {m : HashMap K V n} {ks : List K} {k : K}
    (hks : ∀ k' ∈ m.entries.keys, k' ∈ ks) (hk : k ∈ ks) (hn : ks.length ≤ n)
    (habs : m.lookupElem k = none) : m.card < n := by
  have hnodup : (k :: m.entries.keys).Nodup :=
    List.nodup_cons.mpr ⟨lookupElem_eq_none_iff.mp habs, m.entries.keys_nodup⟩
  have hsub : k :: m.entries.keys ⊆ ks := List.cons_subset.mpr ⟨hk, hks⟩
  have := (List.subperm_of_subset hnodup hsub).length_le
  simp only [List.length_cons] at this
  unfold card
  omega

/-- With its keys drawn from `ks` of at most `max_entries` keys, a map accepts every update of a
key of `ks` that its flag allows: `BPF_ANY` always, `BPF_NOEXIST` of an absent key. -/
theorem accepts_of_subset {m : HashMap K V n} {ks : List K} {k : K} {flag : UpdateFlag}
    (hks : ∀ k' ∈ m.entries.keys, k' ∈ ks) (hk : k ∈ ks) (hn : ks.length ≤ n)
    (hf : flag ≠ .exist) (hne : flag = .noexist → m.lookupElem k = none) :
    m.accepts k flag = true := by
  unfold accepts
  split
  · rename_i v hv
    simpa using fun h => by simp [hne h] at hv
  · rename_i hv
    simpa [hf] using card_lt_of_subset hks hk hn hv

end HashMap

/-! ## `headers/common.h` -/

/-- `AF_INET`. -/
def afInet : UInt16 := 2

/-- `TCP_ESTABLISHED`. -/
def tcpEstablished : Int := 1

/-- `TCP_CLOSE`. -/
def tcpClose : Int := 7

/-- `MAX_PAYLOAD_SIZE`. -/
def maxPayloadSize : Nat := 256

/-- `MAX_CONNECTIONS`. -/
def maxConnections : Nat := 65536

/-- `struct conn_key`. -/
structure ConnKey where
  srcIP : UInt32
  dstIP : UInt32
  srcPort : UInt16
  dstPort : UInt16
  deriving DecidableEq, Repr

/-- `make_key`. -/
def makeKey (srcIP dstIP : UInt32) (srcPort dstPort : UInt16) : ConnKey :=
  ⟨srcIP, dstIP, srcPort, dstPort⟩

/-- The key of the other end of a connection: source and destination exchanged. -/
def swapKey (k : ConnKey) : ConnKey := makeKey k.dstIP k.srcIP k.dstPort k.srcPort

@[simp] theorem swapKey_swapKey (k : ConnKey) : swapKey (swapKey k) = k := rfl

/-- A key is its own swap only when both ends have the same address and the same port. -/
theorem swapKey_eq_self {k : ConnKey} :
    swapKey k = k ↔ k.srcIP = k.dstIP ∧ k.srcPort = k.dstPort := by
  obtain ⟨s, d, sp, dp⟩ := k
  simp only [swapKey, makeKey, ConnKey.mk.injEq]
  constructor
  · rintro ⟨h, -, h', -⟩
    exact ⟨h.symm, h'.symm⟩
  · rintro ⟨h, h'⟩
    exact ⟨h.symm, h, h'.symm, h'⟩

/-- `bpf_ntohs` on a little-endian machine: the two bytes exchanged. -/
def bpfNtohs (x : UInt16) : UInt16 := (x >>> 8) ||| (x <<< 8)

/-- The two bytes of `bpf_ntohs x` are those of `x` exchanged: the shifted halves share no bit, so
their `|` is their sum. -/
theorem toNat_bpfNtohs (x : UInt16) :
    (bpfNtohs x).toNat = x.toNat % 256 * 256 + x.toNat / 256 := by
  have hand : (x.toBitVec >>> (8 : Nat)) &&& (x.toBitVec <<< (8 : Nat)) = 0 := by
    apply BitVec.eq_of_getLsbD_eq
    intro i
    simp only [BitVec.getLsbD_and, BitVec.getLsbD_ushiftRight, BitVec.getLsbD_shiftLeft,
      BitVec.getLsbD_zero]
    by_cases h : (i : Nat) < 8
    · simp [h]
    · simp [BitVec.getLsbD_ge x.toBitVec (8 + i) (by omega)]
  have hx : x.toNat < 65536 := x.toNat_lt_size
  show (x.toBitVec >>> (8 : Nat) ||| x.toBitVec <<< (8 : Nat)).toNat = _
  rw [← BitVec.add_eq_or_of_and_eq_zero _ _ hand, BitVec.toNat_add, BitVec.toNat_ushiftRight,
    BitVec.toNat_shiftLeft, Nat.shiftRight_eq_div_pow, Nat.shiftLeft_eq]
  show (x.toNat / 2 ^ 8 + x.toNat * 2 ^ 8 % 2 ^ 16) % 2 ^ 16 = _
  omega

/-- The fields of `struct sock`'s `__sk_common` that the programs read.  `skc_dport` is in network
byte order, `skc_num` in host order. -/
structure Sock where
  skcFamily : UInt16
  skcRcvSaddr : UInt32
  skcDaddr : UInt32
  skcNum : UInt16
  skcDport : UInt16
  deriving DecidableEq, Repr

/-- The reads every program makes of a socket, ending in `make_key(src_ip, dst_ip, src_port,
dst_port)` with `src_ip = skc_rcv_saddr`, `dst_ip = skc_daddr`, `src_port = skc_num` and
`dst_port = bpf_ntohs(skc_dport)`. -/
def Sock.connKey (sk : Sock) : ConnKey :=
  makeKey sk.skcRcvSaddr sk.skcDaddr sk.skcNum (bpfNtohs sk.skcDport)

/-- The `MAX_PAYLOAD_SIZE` bytes that `bpf_probe_read` copies into a probe's `payload` buffer. -/
structure Payload where
  bytes : List UInt8
  length_eq : bytes.length = maxPayloadSize
  deriving DecidableEq

/-- The byte a probe reads at index `n` of its buffer is the head of the buffer from `n`. -/
theorem getD_eq_headD_drop {α : Type} (l : List α) (n : Nat) (d : α) :
    l.getD n d = (l.drop n).headD d := by
  induction l generalizing n with
  | nil => simp
  | cons x l ih =>
    cases n with
    | zero => rfl
    | succ n => exact ih n

end Bpf
end Nefi
