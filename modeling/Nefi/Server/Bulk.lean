import Nefi.Model.Event
import Mathlib.Data.List.Perm.Basic
import Mathlib.Data.Multiset.Basic
import Mathlib.Tactic.Abel

/-!
# The bulk buffer of the Elasticsearch client

Every write of the server's storage goes through `addBulkAction`, which marshals the document,
appends its action line and its source line to `c.buf` and increments `c.pending` under `c.mu`,
and, when `pending` has reached `batchSize`, calls `flush` and returns what it returns; otherwise
it returns nil.  `flush` is also called by `flushLoop` on every tick, and by `Close` once the loop
has stopped.  It takes `c.mu`, returns nil if nothing is pending, and otherwise takes the whole
buffer as the request body, **resets `buf` and `pending`**, releases the lock, and sends the body
with `Bulk`.  A failed `Bulk` returns an error, and the body is not put back.

So between the two critical sections of `flush` anything can happen: more documents are added,
other flushes take them, and several `Bulk` requests are in flight at once.  The model is the
client's state under every interleaving.

## What is modelled

A document is its index and the bytes `json.Marshal` made of it; neither holds a newline, since
index names are a prefix and a date and JSON escapes control characters (`Doc`).  `buf` is the
byte buffer, with the action line `{"index":{"_index":"..."}}` and the source line of each
document (`bulkLines`).  A `flush` call is a `Flusher`, between its call and its first critical
section (`flushing`) and then as a `Request` in flight.  `step` is one critical section or one
return of `Bulk` (`Action`), with the outcome of `Marshal` and of `Bulk` as parameters.  Beside the
client's fields, ghost fields number the `addBulkAction` calls and record the documents added, the
documents of the requests that succeeded and of those that failed, and what each call returned.
The logger, the ticker's period and the HTTP response are left out; a `Bulk` whose response is an
error counts as failed.

## Results

* `Inv.step`, `Reachable.inv`: in every reachable state `buf` is the lines of the documents the
  ghost `docs` holds, and `pending` is their number; so `pending_eq_docCount`: `pending` is half
  the newlines of `buf`, the number of documents in it.
* `added_perm`: every added document is in exactly one place: pending, in flight, in a request
  that succeeded, or in one that failed.
* `failed_bulk_drops`: a failed `Bulk` loses its documents: none of them is pending or stored.
* `acked_doc_lost`: with `NewClient`'s defaults, a call that returned nil and a periodic flush
  whose `Bulk` fails leave the document nowhere.
-/

namespace Nefi
namespace Elasticsearch

open List

/-- `'\n'`. -/
def newline : UInt8 := 10

/-- A document given to `addBulkAction`: its index name and what `json.Marshal` returned, neither
with a newline. -/
structure Doc where
  index : GoString
  data : GoString
  index_ok : newline ∉ index
  data_ok : newline ∉ data

instance : DecidableEq Doc := fun a b =>
  decidable_of_iff (a.index = b.index ∧ a.data = b.data) (by
    cases a; cases b; simp)

/-- `fmt.Sprintf(`{"index":{"_index":"%s"}}`, index)`. -/
def bulkMeta (index : GoString) : GoString :=
  ("\x7b\"index\":\x7b\"_index\":\"" : GoString) ++ index ++ ("\"\x7d\x7d" : GoString)

/-- What `addBulkAction` writes to `buf`: the action line and the source line. -/
def bulkLines (d : Doc) : GoString := bulkMeta d.index ++ [newline] ++ d.data ++ [newline]

/-- The number of documents in a buffer of bulk lines: two lines each. -/
def docCount (buf : GoString) : Nat := buf.count newline / 2

theorem count_bulkLines (d : Doc) : (bulkLines d).count newline = 2 := by
  have hm : (bulkMeta d.index).count newline = 0 := by
    simp only [bulkMeta, count_append, count_eq_zero_of_not_mem d.index_ok]
    decide
  simp [bulkLines, count_append, hm, count_eq_zero_of_not_mem d.data_ok]

theorem count_flatMap_bulkLines (ds : List Doc) :
    (ds.flatMap bulkLines).count newline = 2 * ds.length := by
  induction ds with
  | nil => rfl
  | cons d ds ih => simp only [flatMap_cons, count_append, count_bulkLines, ih, length_cons]; omega

/-- `Config.BatchSize` after `NewClient` has replaced a non-positive one by `DefaultBatchSize`. -/
structure Config where
  batchSize : Nat
  batchSize_pos : 0 < batchSize

/-- `DefaultBatchSize`. -/
def defaultConfig : Config := ⟨1000, by decide⟩

/-- Who runs a `flush`: `flushLoop`, `Close`, or the `addBulkAction` call of the given number
that reached the batch size. -/
inductive Flusher where
  | loop
  | close
  | call (n : Nat)
  deriving DecidableEq, Repr

/-- A `Bulk` request in flight: who sent it, its body, and the documents of the body with the
numbers of the calls that added them. -/
structure Request where
  flusher : Flusher
  body : GoString
  docs : List (Nat × Doc)

/-- The client's buffer, the `flush` calls on their way, the requests in flight, whether `Close`
has stopped `flushLoop`, and the ghost fields. -/
structure Client where
  buf : GoString
  pending : Nat
  flushing : List Flusher
  inFlight : List Request
  stopped : Bool
  /-- The number the next `addBulkAction` call gets. -/
  nextCall : Nat
  /-- The documents in `buf`, in order. -/
  docs : List (Nat × Doc)
  added : List (Nat × Doc)
  stored : List (Nat × Doc)
  dropped : List (Nat × Doc)
  /-- The `addBulkAction` calls that returned, with `true` for a nil error. -/
  returned : List (Nat × Bool)

namespace Client

variable (cfg : Config)

/-- `NewClient`: an empty buffer, `flushLoop` started. -/
def init : Client := ⟨[], 0, [], [], false, 0, [], [], [], [], []⟩

/-- `flushLoop` waits at its `select`: no flush of its own is under way. -/
def loopIdle (c : Client) : Prop :=
  Flusher.loop ∉ c.flushing ∧ ∀ r ∈ c.inFlight, r.flusher ≠ .loop

instance (c : Client) : Decidable c.loopIdle := inferInstanceAs (Decidable (_ ∧ _))

/-- A `flush` returns `ok` to whoever called it; only an `addBulkAction` call passes it on. -/
def finish (c : Client) : Flusher → Bool → Client
  | .call n, ok => { c with returned := c.returned ++ [(n, ok)] }
  | _, _ => c

/-- One action. -/
inductive Action where
  /-- An `addBulkAction` call whose `Marshal` succeeds runs its critical section. -/
  | add (d : Doc)
  /-- An `addBulkAction` call whose `Marshal` fails returns the error. -/
  | marshalFailed
  /-- `flushLoop`'s ticker fires and the loop calls `flush`. -/
  | tick
  /-- `Close` closes `stopCh`, `flushLoop` returns, and `Close` calls `flush`. -/
  | stop
  /-- The `i`-th `flush` call on its way runs its critical section. -/
  | take (i : Nat)
  /-- The `i`-th request in flight returns, `ok` when neither `Bulk` nor its response failed. -/
  | bulk (i : Nat) (ok : Bool)

/-- The critical section of `addBulkAction` for the call numbered `c.nextCall`. -/
def addStep (c : Client) (d : Doc) : Client :=
  let n := c.nextCall
  let c' := { c with
    buf := c.buf ++ bulkLines d, pending := c.pending + 1, nextCall := n + 1
    docs := c.docs ++ [(n, d)], added := c.added ++ [(n, d)] }
  if cfg.batchSize ≤ c'.pending then { c' with flushing := c.flushing ++ [.call n] }
  else { c' with returned := c.returned ++ [(n, true)] }

/-- The first critical section of `flush`: nothing pending returns nil; otherwise the whole
buffer becomes the body of a request, and `buf` and `pending` are reset. -/
def takeStep (c : Client) (f : Flusher) (rest : List Flusher) : Client :=
  if c.pending = 0 then { c with flushing := rest }.finish f true
  else
    { c with
      flushing := rest, inFlight := c.inFlight ++ [⟨f, c.buf, c.docs⟩]
      buf := [], pending := 0, docs := [] }

/-- `Bulk` returns for a request: on success its documents are stored, on failure they are
dropped; the `flush` returns accordingly. -/
def bulkStep (c : Client) (r : Request) (rest : List Request) (ok : Bool) : Client :=
  if ok then { c with inFlight := rest, stored := c.stored ++ r.docs }.finish r.flusher true
  else { c with inFlight := rest, dropped := c.dropped ++ r.docs }.finish r.flusher false

/-- One step, `none` when the action cannot run. -/
def step (c : Client) : Action → Option Client
  | .add d => some (c.addStep cfg d)
  | .marshalFailed =>
    some { c with nextCall := c.nextCall + 1, returned := c.returned ++ [(c.nextCall, false)] }
  | .tick => if !c.stopped ∧ c.loopIdle then some { c with flushing := c.flushing ++ [.loop] } else none
  | .stop =>
    if !c.stopped ∧ c.loopIdle then some { c with stopped := true, flushing := c.flushing ++ [.close] }
    else none
  | .take i => (c.flushing[i]?).map fun f => c.takeStep f (c.flushing.eraseIdx i)
  | .bulk i ok => (c.inFlight[i]?).map fun r => c.bulkStep r (c.inFlight.eraseIdx i) ok

/-- The states some interleaving reaches from `NewClient`. -/
inductive Reachable : Client → Prop where
  | init : Reachable init
  | step {c c' : Client} {a : Action} : Reachable c → step cfg c a = some c' → Reachable c'

/-- A run of actions, `none` when one of them cannot run. -/
def runActions : Client → List Action → Option Client
  | c, [] => some c
  | c, a :: as => (step cfg c a).bind (runActions · as)

theorem reachable_of_runActions {c c' : Client} {acts : List Action} (hc : Reachable cfg c)
    (h : runActions cfg c acts = some c') : Reachable cfg c' := by
  induction acts generalizing c with
  | nil => cases h; exact hc
  | cons a as ih =>
    obtain ⟨c₁, h₁, h₂⟩ := Option.bind_eq_some.mp h
    exact ih (hc.step h₁) h₂

/-! ## The invariant -/

/-- The documents of the requests in flight. -/
def inFlightDocs (c : Client) : List (Nat × Doc) := c.inFlight.flatMap Request.docs

@[simp] theorem docs_finish (c : Client) (f : Flusher) (ok : Bool) : (c.finish f ok).docs = c.docs := by
  cases f <;> rfl

@[simp] theorem buf_finish (c : Client) (f : Flusher) (ok : Bool) : (c.finish f ok).buf = c.buf := by
  cases f <;> rfl

@[simp] theorem pending_finish (c : Client) (f : Flusher) (ok : Bool) :
    (c.finish f ok).pending = c.pending := by
  cases f <;> rfl

@[simp] theorem added_finish (c : Client) (f : Flusher) (ok : Bool) :
    (c.finish f ok).added = c.added := by
  cases f <;> rfl

@[simp] theorem stored_finish (c : Client) (f : Flusher) (ok : Bool) :
    (c.finish f ok).stored = c.stored := by
  cases f <;> rfl

@[simp] theorem dropped_finish (c : Client) (f : Flusher) (ok : Bool) :
    (c.finish f ok).dropped = c.dropped := by
  cases f <;> rfl

@[simp] theorem inFlight_finish (c : Client) (f : Flusher) (ok : Bool) :
    (c.finish f ok).inFlight = c.inFlight := by
  cases f <;> rfl

@[simp] theorem nextCall_finish (c : Client) (f : Flusher) (ok : Bool) :
    (c.finish f ok).nextCall = c.nextCall := by
  cases f <;> rfl

/-- What every reachable state keeps: `buf` holds the lines of the pending documents and
`pending` counts them; every added document is in exactly one place; calls are numbered
afresh. -/
structure Inv (c : Client) : Prop where
  buf_eq : c.buf = (c.docs.map Prod.snd).flatMap bulkLines
  pending_eq : c.pending = c.docs.length
  added_perm : c.added ~ c.docs ++ c.inFlightDocs ++ c.stored ++ c.dropped
  added_nodup : (c.added.map Prod.fst).Nodup
  added_lt : ∀ p ∈ c.added, p.1 < c.nextCall

theorem inv_init : Inv init := ⟨rfl, rfl, Perm.refl _, nodup_nil, nofun⟩

variable {cfg}

theorem perm_cons_eraseIdx {l : List Request} {i : Nat} {r : Request} (h : l[i]? = some r) :
    l ~ r :: l.eraseIdx i := by
  obtain ⟨hi, rfl⟩ := getElem?_eq_some_iff.mp h
  rw [eraseIdx_eq_take_drop_succ]
  calc l = l.take i ++ l[i] :: l.drop (i + 1) := by rw [← drop_eq_getElem_cons hi, take_append_drop]
    _ ~ l[i] :: (l.take i ++ l.drop (i + 1)) := perm_middle

theorem Inv.finish {c : Client} (hi : Inv c) (f : Flusher) (ok : Bool) : Inv (c.finish f ok) := by
  cases f <;> exact ⟨hi.buf_eq, hi.pending_eq, hi.added_perm, hi.added_nodup, hi.added_lt⟩

theorem Inv.addStep {c : Client} (hi : Inv c) (d : Doc) : Inv (c.addStep cfg d) := by
  have h : Inv { c with
      buf := c.buf ++ bulkLines d, pending := c.pending + 1, nextCall := c.nextCall + 1
      docs := c.docs ++ [(c.nextCall, d)], added := c.added ++ [(c.nextCall, d)] } := by
    refine ⟨by simp [hi.buf_eq], by simp [hi.pending_eq], ?_, ?_, ?_⟩
    · have := Multiset.coe_eq_coe.mpr hi.added_perm
      rw [← Multiset.coe_eq_coe]
      simp only [inFlightDocs, ← Multiset.coe_add] at this ⊢
      rw [this]
      abel
    · simp only [map_append, map_cons, map_nil]
      refine hi.added_nodup.append (nodup_singleton _) fun a ha hb => ?_
      obtain ⟨p, hp, rfl⟩ := mem_map.mp ha
      have := hi.added_lt p hp
      simp only [mem_singleton] at hb
      omega
    · simp only [mem_append, mem_singleton]
      rintro p (hp | rfl)
      · exact Nat.lt_succ_of_lt (hi.added_lt p hp)
      · exact Nat.lt_succ_self _
  unfold Client.addStep
  dsimp only
  split_ifs <;> exact ⟨h.buf_eq, h.pending_eq, h.added_perm, h.added_nodup, h.added_lt⟩

theorem Inv.takeStep {c : Client} (hi : Inv c) (f : Flusher) (rest : List Flusher) :
    Inv (c.takeStep f rest) := by
  unfold Client.takeStep
  split_ifs
  · exact (show Inv { c with flushing := rest } from
      ⟨hi.buf_eq, hi.pending_eq, hi.added_perm, hi.added_nodup, hi.added_lt⟩).finish f true
  · refine ⟨rfl, rfl, ?_, hi.added_nodup, hi.added_lt⟩
    have := Multiset.coe_eq_coe.mpr hi.added_perm
    rw [← Multiset.coe_eq_coe]
    simp only [inFlightDocs, flatMap_append, flatMap_cons, flatMap_nil, append_nil,
      ← Multiset.coe_add] at this ⊢
    rw [this]
    simp only [Multiset.coe_nil, zero_add]
    abel

theorem Inv.bulkStep {c : Client} (hi : Inv c) {i : Nat} {r : Request}
    (h : c.inFlight[i]? = some r) (ok : Bool) : Inv (c.bulkStep r (c.inFlight.eraseIdx i) ok) := by
  have hF : (c.inFlightDocs : Multiset (Nat × Doc)) =
      r.docs + (c.inFlight.eraseIdx i).flatMap Request.docs := by
    rw [Multiset.coe_add, Multiset.coe_eq_coe, inFlightDocs]
    simpa using (perm_cons_eraseIdx h).flatMap_right Request.docs
  have hA := Multiset.coe_eq_coe.mpr hi.added_perm
  simp only [← Multiset.coe_add, hF] at hA
  have hinner (stored dropped : List (Nat × Doc))
      (hp : (c.added : Multiset (Nat × Doc)) =
        c.docs + (c.inFlight.eraseIdx i).flatMap Request.docs + stored + dropped) :
      Inv { c with inFlight := c.inFlight.eraseIdx i, stored := stored, dropped := dropped } := by
    refine ⟨hi.buf_eq, hi.pending_eq, ?_, hi.added_nodup, hi.added_lt⟩
    rw [← Multiset.coe_eq_coe]
    simpa only [inFlightDocs, ← Multiset.coe_add] using hp
  unfold Client.bulkStep
  split_ifs <;> exact (hinner _ _ (by rw [hA, ← Multiset.coe_add]; abel)).finish _ _

/-- **Every step keeps the invariant.** -/
theorem Inv.step {c c' : Client} {a : Action} (hi : Inv c) (h : step cfg c a = some c') : Inv c' := by
  cases a with
  | add d => cases h; exact hi.addStep d
  | marshalFailed =>
    cases h
    exact ⟨hi.buf_eq, hi.pending_eq, hi.added_perm, hi.added_nodup,
      fun p hp => Nat.lt_succ_of_lt (hi.added_lt p hp)⟩
  | tick | stop =>
    simp only [Client.step] at h
    split_ifs at h
    cases h
    exact ⟨hi.buf_eq, hi.pending_eq, hi.added_perm, hi.added_nodup, hi.added_lt⟩
  | take i =>
    obtain ⟨f, -, rfl⟩ := Option.map_eq_some'.mp h
    exact hi.takeStep f _
  | bulk i ok =>
    obtain ⟨r, hr, rfl⟩ := Option.map_eq_some'.mp h
    exact hi.bulkStep hr ok

theorem Reachable.inv {c : Client} (h : Reachable cfg c) : Inv c := by
  induction h with
  | init => exact inv_init
  | step _ hs ih => exact ih.step hs

/-- A dropped document is nowhere else: the call numbers of the four places are disjoint. -/
theorem Inv.not_mem_of_mem_dropped {c : Client} (hi : Inv c) {p : Nat × Doc} (hp : p ∈ c.dropped) :
    p ∉ c.docs ∧ p ∉ c.inFlightDocs ∧ p ∉ c.stored := by
  have hnd := (hi.added_perm.map Prod.fst).nodup_iff.mp hi.added_nodup
  rw [map_append, map_append, map_append, nodup_append] at hnd
  have hdisj := hnd.2.2
  have hq := mem_map_of_mem Prod.fst hp
  refine ⟨fun h => hdisj ?_ hq, fun h => hdisj ?_ hq, fun h => hdisj ?_ hq⟩ <;>
    simp only [mem_append, mem_map_of_mem Prod.fst h, true_or, or_true]

/-- **`pending` is the number of documents in `buf`**, in every reachable state. -/
theorem pending_eq_docCount {c : Client} (h : Reachable cfg c) : c.pending = docCount c.buf := by
  have hi := h.inv
  rw [docCount, hi.buf_eq, count_flatMap_bulkLines, length_map, hi.pending_eq]
  omega

/-- **Every added document is in exactly one place**: pending, in flight, in a request that
succeeded, or in one that failed. -/
theorem added_perm {c : Client} (h : Reachable cfg c) :
    c.added ~ c.docs ++ c.inFlightDocs ++ c.stored ++ c.dropped :=
  h.inv.added_perm

/-- **A failed `Bulk` loses its documents**: after it returns, each of them is in `dropped`, and
none is pending, in flight or stored. -/
theorem failed_bulk_drops {c c' : Client} (h : Reachable cfg c) {i : Nat}
    (hs : step cfg c (.bulk i false) = some c') :
    ∃ r, c.inFlight[i]? = some r ∧ ∀ p ∈ r.docs,
      p ∈ c'.dropped ∧ p ∉ c'.docs ∧ p ∉ c'.inFlightDocs ∧ p ∉ c'.stored := by
  obtain ⟨r, hr, rfl⟩ := Option.map_eq_some'.mp hs
  refine ⟨r, hr, fun p hp => ?_⟩
  have hd : p ∈ (c.bulkStep r (c.inFlight.eraseIdx i) false).dropped := by
    simp [bulkStep, hp]
  exact ⟨hd, (h.inv.bulkStep hr false).not_mem_of_mem_dropped hd⟩

end Client

/-! ## A document acknowledged and lost -/

namespace Client

/-- A connection event's document, as `WriteConnectionEvents` gives it. -/
def connDoc : Doc := ⟨"nefi-connections-2026-11-09", "\x7b\x7d", by decide, by decide⟩

/-- A write whose call returns nil, then a tick of `flushLoop` whose `Bulk` fails. -/
def lostRun : List Action := [.add connDoc, .tick, .take 0, .bulk 0 false]

theorem acked_doc_lost :
    ∃ c, runActions defaultConfig init lostRun = some c ∧
      (0, true) ∈ c.returned ∧ (0, connDoc) ∈ c.added ∧
      (0, connDoc) ∉ c.docs ∧ (0, connDoc) ∉ c.inFlightDocs ∧ (0, connDoc) ∉ c.stored := by
  refine ⟨_, rfl, ?_⟩
  decide

end Client

end Elasticsearch
end Nefi
