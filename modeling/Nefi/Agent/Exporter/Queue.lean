import Nefi.Agent.Exporter.Proto
import Mathlib.Data.Multiset.Basic
import Mathlib.Tactic.Abel

/-!
# The export queue: `Enqueue` and `flush` under every interleaving

The exporter buffers events in `e.queue` and ships them in batches.  Two goroutines touch the
queue, each only under `e.mu`:

* `processEvents` calls `Enqueue`, which drops the head when the queue is at `queueLimit` and
  appends the new event;
* the single flusher (`Start` → `flushLoop` → `flush`) takes up to `batchSize` events in a first
  critical section, builds and sends the batch with the lock released, and, when `Send` fails,
  takes the lock again to put the batch back at the head, cutting the oldest events to fit.

So an `Enqueue` may land between the two halves of a flush, and the laws have to hold over every
interleaving.  A `Run` is the queue and the batch in flight, with the run's history beside them;
`step` is one critical section (`Action`), and `Reachable` is every state that some interleaving
reaches from `NewExporter`'s empty queue.

## The branch with no stream

`connect` dials and then leaves `e.stream` nil ("The stream is set to nil; flushLoop handles this
gracefully"), and `flush`, finding no stream, logs the batch and returns nil:

> If we have no stream yet (proto not generated), log and discard.

In this revision every flush therefore takes that branch.  The model lets each flush end in any
of the three ways (`SendResult`), so that the laws below hold for the code as it is and for the
code once `connect` opens a stream.

## Results

* `queue_length_le`: the queue never exceeds `queueLimit`.
* `sent_sublist`: the events of the batches whose `Send` returned nil, in send order, are a
  subsequence of the events passed to `Enqueue`, in enqueue order, for each kind of event.
* `enqueued_perm`: every enqueued event is in exactly one of five places: the queue, the batch in
  flight, a sent batch, the evicted events, or a batch discarded for lack of a stream.  Without
  the fifth place the accounting fails (`discarded_event_lost`).
* `enqueues_keep_newest`: `Enqueue`s with no flush in between leave in the queue the newest
  `queueLimit` events of the queue and the new events, and evict the others, oldest first
  (`runActions_map_enqueue`).
* `requeue_keeps_newest`: a failed `Send` puts the batch back cut from its oldest end, so every
  event enqueued during the flight is kept and the head of the batch can be lost
  (`requeue_drops_batch_head`).
-/

namespace Nefi
namespace Exporter

open List

/-- The two fields of `Exporter` that the queue reads.  `NewExporter` sets them to 100 and 10000
and nothing changes them; the model keeps them general, with a positive bound (with a zero bound
the first `Enqueue` would slice an empty queue and panic). -/
structure Config where
  batchSize : Nat
  queueLimit : Nat
  queueLimit_pos : 0 < queueLimit

/-- `defaultBatchSize` and `defaultQueueLimit`, as `NewExporter` sets them. -/
def defaultConfig : Config := ⟨100, 10000, by decide⟩

section Queue

variable (cfg : Config)

/-! ## The three critical sections -/

/-- `Enqueue`: at the bound, drop the oldest event (`e.queue[1:]`), then append. -/
def enqueue (queue : List Event) (evt : Event) : List Event :=
  (if cfg.queueLimit ≤ queue.length then queue.tail else queue) ++ [evt]

/-- The first critical section of `flush`: nothing when the queue is empty, otherwise the first
`min batchSize (len queue)` events as the batch and the rest as the queue. -/
def takeBatch (queue : List Event) : Option (List Event × List Event) :=
  if queue.length = 0 then none else some (queue.take cfg.batchSize, queue.drop cfg.batchSize)

/-- The critical section after a failed `Send`: `remaining = batch ++ queue`, cut to
`remaining[len(remaining)-queueLimit:]` when it is longer than the bound. -/
def requeue (batch queue : List Event) : List Event :=
  let remaining := batch ++ queue
  if cfg.queueLimit < remaining.length then remaining.drop (remaining.length - cfg.queueLimit)
  else remaining

/-- The cut of `requeue` is the drop of the excess, which is zero below the bound. -/
theorem requeue_eq (batch queue : List Event) :
    requeue cfg batch queue =
      (batch ++ queue).drop ((batch ++ queue).length - cfg.queueLimit) := by
  simp only [requeue]
  split
  · rfl
  · rw [Nat.sub_eq_zero_of_le (by omega), List.drop_zero]

/-- The body of the loop that builds the batch message: the event's message appended to the list
of its kind. -/
def addToBatch (pb : EventBatchProto) : Event → EventBatchProto
  | .connection v => { pb with connections := pb.connections ++ [connectionEventToProto v] }
  | .httpRequest v => { pb with httpRequests := pb.httpRequests ++ [httpRequestEventToProto v] }

/-- The batch message `flush` builds with the lock released: one pass over the batch. -/
def buildBatch (nodeName : GoString) (batch : List Event) : EventBatchProto :=
  batch.foldl addToBatch { node := nodeName }

theorem foldl_addToBatch (b : List Event) (pb : EventBatchProto) :
    b.foldl addToBatch pb =
      { pb with
        connections := pb.connections ++ (b.filterMap Event.connection?).map connectionEventToProto
        httpRequests :=
          pb.httpRequests ++ (b.filterMap Event.httpRequest?).map httpRequestEventToProto } := by
  induction b generalizing pb with
  | nil => simp
  | cons e b ih => cases e <;> simp [addToBatch, ih, Event.connection?, Event.httpRequest?]

/-- **The batch message holds the batch's connections and its requests**, each in batch order. -/
theorem buildBatch_eq (nodeName : GoString) (b : List Event) :
    buildBatch nodeName b =
      { node := nodeName
        connections := (b.filterMap Event.connection?).map connectionEventToProto
        httpRequests := (b.filterMap Event.httpRequest?).map httpRequestEventToProto } := by
  rw [buildBatch, foldl_addToBatch]
  rfl

/-! ## Runs -/

/-- How the rest of a flush goes once its batch is taken. -/
inductive SendResult where
  /-- `e.stream == nil`: the batch is logged and dropped, and `flush` returns nil. -/
  | noStream
  /-- `Send` returned nil. -/
  | ok
  /-- `Send` returned an error: the batch goes back to the queue. -/
  | failed

/-- One critical section of one of the two goroutines. -/
inductive Action where
  | enqueue (evt : Event)
  | take
  | finish (result : SendResult)

/-- The queue and the flusher's batch in flight, with the history of the run: the events passed
to `Enqueue`, the batches whose `Send` returned nil, the events cut at the bound, and the batches
dropped with no stream.  Only `queue` and `inFlight` are program state. -/
structure Run where
  queue : List Event
  inFlight : Option (List Event)
  enqueued : List Event
  sent : List (List Event)
  evicted : List Event
  discarded : List Event
  deriving DecidableEq

/-- `NewExporter`: an empty queue and no flush in progress. -/
def Run.init : Run := ⟨[], none, [], [], [], []⟩

/-- One critical section.  The flusher runs one flush at a time, so `take` needs no batch in
flight and `finish` needs one; an `Enqueue` may come at any point. -/
def step : Run → Action → Option Run
  | r, .enqueue evt =>
    some { r with
      queue := enqueue cfg r.queue evt
      enqueued := r.enqueued ++ [evt]
      evicted := r.evicted ++ r.queue.take (if cfg.queueLimit ≤ r.queue.length then 1 else 0) }
  | r, .take =>
    match r.inFlight, takeBatch cfg r.queue with
    | some _, _ => none
    | none, none => some r
    | none, some (b, q) => some { r with queue := q, inFlight := some b }
  | r, .finish res =>
    match r.inFlight, res with
    | none, _ => none
    | some b, .noStream => some { r with inFlight := none, discarded := r.discarded ++ b }
    | some b, .ok => some { r with inFlight := none, sent := r.sent ++ [b] }
    | some b, .failed =>
      some { r with
        inFlight := none
        queue := requeue cfg b r.queue
        evicted := r.evicted ++ (b ++ r.queue).take ((b ++ r.queue).length - cfg.queueLimit) }

/-- The states some interleaving of critical sections reaches from `NewExporter`. -/
inductive Reachable : Run → Prop where
  | init : Reachable Run.init
  | step {r r' : Run} {a : Action} : Reachable r → step cfg r a = some r' → Reachable r'

/-- The critical sections of a list of actions, in order; `none` when one of them cannot run. -/
def runActions : Run → List Action → Option Run
  | r, [] => some r
  | r, a :: as => (step cfg r a).bind fun r' => runActions r' as

theorem reachable_of_runActions {r r' : Run} {acts : List Action} (hr : Reachable cfg r)
    (h : runActions cfg r acts = some r') : Reachable cfg r' := by
  induction acts generalizing r with
  | nil => exact (Option.some.inj h) ▸ hr
  | cons a as ih =>
    obtain ⟨r₁, h₁, h₂⟩ := Option.bind_eq_some.mp h
    exact ih (hr.step h₁) h₂

/-- Everything a critical section can do, guards included. -/
theorem step_cases {r r' : Run} {a : Action} (h : step cfg r a = some r') :
    (∃ evt, r' = { r with
        queue := enqueue cfg r.queue evt
        enqueued := r.enqueued ++ [evt]
        evicted := r.evicted ++
          r.queue.take (if cfg.queueLimit ≤ r.queue.length then 1 else 0) }) ∨
    (r.inFlight = none ∧ r.queue = [] ∧ r' = r) ∨
    (r.inFlight = none ∧ r.queue ≠ [] ∧
      r' = { r with queue := r.queue.drop cfg.batchSize,
                    inFlight := some (r.queue.take cfg.batchSize) }) ∨
    (∃ b, r.inFlight = some b ∧ r' = { r with inFlight := none, discarded := r.discarded ++ b }) ∨
    (∃ b, r.inFlight = some b ∧ r' = { r with inFlight := none, sent := r.sent ++ [b] }) ∨
    (∃ b, r.inFlight = some b ∧ r' = { r with
        inFlight := none
        queue := requeue cfg b r.queue
        evicted := r.evicted ++ (b ++ r.queue).take ((b ++ r.queue).length - cfg.queueLimit) }) := by
  cases a with
  | enqueue evt => exact .inl ⟨evt, (Option.some.inj h).symm⟩
  | take =>
    cases hf : r.inFlight with
    | some b => simp [step, hf] at h
    | none =>
      by_cases hq : r.queue = []
      · simp only [step, hf, takeBatch, hq, List.length_nil, if_pos, Option.some.injEq] at h
        exact .inr (.inl ⟨rfl, hq, h.symm⟩)
      · simp only [step, hf, takeBatch, List.length_eq_zero, hq, if_false,
          Option.some.injEq] at h
        exact .inr (.inr (.inl ⟨rfl, hq, h.symm⟩))
  | finish res =>
    cases hb : r.inFlight with
    | none => simp [step, hb] at h
    | some b =>
      cases res <;> simp only [step, hb, Option.some.injEq] at h <;> subst h
      · exact .inr (.inr (.inr (.inl ⟨b, rfl, rfl⟩)))
      · exact .inr (.inr (.inr (.inr (.inl ⟨b, rfl, rfl⟩))))
      · exact .inr (.inr (.inr (.inr (.inr ⟨b, rfl, rfl⟩))))

/-! ## The invariant -/

/-- What every reachable run satisfies. -/
structure Inv (r : Run) : Prop where
  /-- The queue is within its bound. -/
  bound : r.queue.length ≤ cfg.queueLimit
  /-- The sent events, the batch in flight and the queue, in this order, are a subsequence of the
  enqueued events. -/
  order : r.sent.flatten ++ r.inFlight.getD [] ++ r.queue <+ r.enqueued
  /-- Every enqueued event is in exactly one place. -/
  custody : r.enqueued ~ r.sent.flatten ++ r.inFlight.getD [] ++ r.queue ++ r.evicted ++ r.discarded

theorem inv_init : Inv cfg Run.init :=
  ⟨Nat.zero_le _, List.nil_sublist _, List.Perm.refl _⟩

/-- `Enqueue` keeps the bound: at the bound it drops one event before appending one. -/
theorem length_enqueue_le {queue : List Event} (h : queue.length ≤ cfg.queueLimit) (evt : Event) :
    (enqueue cfg queue evt).length ≤ cfg.queueLimit := by
  have := cfg.queueLimit_pos
  unfold enqueue
  split <;> simp only [List.length_append, List.length_tail, List.length_singleton] <;> omega

theorem length_requeue_le (batch queue : List Event) :
    (requeue cfg batch queue).length ≤ cfg.queueLimit := by
  rw [requeue_eq, List.length_drop]
  omega

/-- An enqueue splits the old queue into what is evicted and what stays. -/
theorem enqueue_eq_drop (queue : List Event) (evt : Event) :
    enqueue cfg queue evt =
      queue.drop (if cfg.queueLimit ≤ queue.length then 1 else 0) ++ [evt] := by
  unfold enqueue
  split <;> simp [List.drop_one]

/-- Custody as an equation of multisets, where rearranging is `abel`'s work. -/
theorem perm_iff_coe {l₁ l₂ : List Event} : l₁ ~ l₂ ↔ (l₁ : Multiset Event) = l₂ :=
  Multiset.coe_eq_coe.symm

theorem inv_step {r r' : Run} {a : Action} (hi : Inv cfg r) (h : step cfg r a = some r') :
    Inv cfg r' := by
  obtain ⟨bound, order, custody⟩ := hi
  rw [perm_iff_coe] at custody
  simp only [← Multiset.coe_add] at custody
  rcases step_cases cfg h with
    ⟨evt, rfl⟩ | ⟨hf, -, rfl⟩ | ⟨hf, -, rfl⟩ | ⟨b, hf, rfl⟩ | ⟨b, hf, rfl⟩ | ⟨b, hf, rfl⟩
  · -- `Enqueue`: the head is evicted when the queue is full
    set k := if cfg.queueLimit ≤ r.queue.length then 1 else 0
    have hq : (r.queue : Multiset Event) = ↑(r.queue.take k) + ↑(r.queue.drop k) := by
      rw [Multiset.coe_add, take_append_drop]
    refine ⟨length_enqueue_le cfg bound evt, ?_, ?_⟩ <;> dsimp only <;> rw [enqueue_eq_drop]
    · rw [← append_assoc]
      exact (((Sublist.refl _).append (drop_sublist _ _)).trans order).append (Sublist.refl _)
    · rw [perm_iff_coe]
      simp only [← Multiset.coe_add]
      rw [custody, hq]
      abel
  · -- `flush` on an empty queue
    exact ⟨bound, order, by rwa [perm_iff_coe, ← Multiset.coe_add, ← Multiset.coe_add,
      ← Multiset.coe_add, ← Multiset.coe_add]⟩
  · -- the first half of `flush`: the batch is taken from the head
    simp only [hf, Option.getD_none, append_nil, Multiset.coe_nil, add_zero] at order custody
    refine ⟨(length_drop _ _).trans_le (by omega), ?_, ?_⟩ <;> dsimp only <;>
      simp only [Option.getD_some]
    · rwa [append_assoc, take_append_drop]
    · rw [perm_iff_coe]
      simp only [← Multiset.coe_add] at custody ⊢
      rw [custody, ← take_append_drop cfg.batchSize r.queue, ← Multiset.coe_add, take_append_drop]
      abel
  · -- no stream: the batch is dropped
    simp only [hf, Option.getD_some] at order custody
    refine ⟨bound, ?_, ?_⟩ <;> dsimp only <;> simp only [Option.getD_none, append_nil]
    · exact ((Sublist.refl _).append (sublist_append_right _ _)).trans (by rwa [append_assoc] at order)
    · rw [perm_iff_coe]
      simp only [← Multiset.coe_add] at custody ⊢
      rw [custody]
      abel
  · -- `Send` returned nil: the batch joins the sent events
    simp only [hf, Option.getD_some] at order custody
    refine ⟨bound, ?_, ?_⟩ <;> dsimp only <;>
      simp only [Option.getD_none, append_nil, flatten_append, flatten_singleton]
    · exact order
    · rw [perm_iff_coe]
      simp only [← Multiset.coe_add] at custody ⊢
      rw [custody]
  · -- `Send` failed: the batch goes back, and the oldest events are cut
    simp only [hf, Option.getD_some] at order custody
    refine ⟨length_requeue_le cfg b r.queue, ?_, ?_⟩ <;> dsimp only <;>
      simp only [Option.getD_none, append_nil, requeue_eq]
    · exact ((Sublist.refl _).append (drop_sublist _ _)).trans (by rwa [append_assoc] at order)
    · rw [perm_iff_coe]
      generalize hk : (b ++ r.queue).length - cfg.queueLimit = k
      have hbq : (b : Multiset Event) + r.queue =
          ↑((b ++ r.queue).take k) + ↑((b ++ r.queue).drop k) := by
        rw [Multiset.coe_add, Multiset.coe_add, take_append_drop]
      simp only [← Multiset.coe_add] at custody ⊢
      calc (r.enqueued : Multiset Event)
          = ↑r.sent.flatten + (↑b + ↑r.queue) + ↑r.evicted + ↑r.discarded := by
            rw [custody]; abel
        _ = _ := by rw [hbq]; abel

/-- **Every reachable run satisfies the invariant.** -/
theorem Reachable.inv {r : Run} (h : Reachable cfg r) : Inv cfg r := by
  induction h with
  | init => exact inv_init cfg
  | step _ hs ih => exact inv_step cfg ih hs

/-! ## The laws -/

variable {cfg}

/-- **The queue never exceeds its bound**, in every state that any interleaving of `Enqueue`
with flushes reaches, whatever each `Send` returns. -/
theorem queue_length_le {r : Run} (h : Reachable cfg r) : r.queue.length ≤ cfg.queueLimit :=
  (h.inv cfg).bound

/-- **No event is delivered twice or out of order.**  The connection events of the batches whose
`Send` returned nil, concatenated in send order, are a subsequence of the connection events passed
to `Enqueue`, in enqueue order; and likewise for request events. -/
theorem sent_sublist {r : Run} (h : Reachable cfg r) :
    r.sent.flatten.filterMap Event.connection? <+ r.enqueued.filterMap Event.connection? ∧
      r.sent.flatten.filterMap Event.httpRequest? <+ r.enqueued.filterMap Event.httpRequest? := by
  have hs : r.sent.flatten <+ r.enqueued :=
    ((sublist_append_left _ _).trans (sublist_append_left _ _)).trans (h.inv cfg).order
  exact ⟨hs.filterMap _, hs.filterMap _⟩

/-- **Custody.**  Every event passed to `Enqueue` is, at every moment, in exactly one of five
places: a batch whose `Send` returned nil, the batch in flight, the queue, the events evicted at
the bound, or a batch that `flush` dropped because no stream was open. -/
theorem enqueued_perm {r : Run} (h : Reachable cfg r) :
    r.enqueued ~ r.sent.flatten ++ r.inFlight.getD [] ++ r.queue ++ r.evicted ++ r.discarded :=
  (h.inv cfg).custody

/-! ## `Enqueue` runs and the requeue -/

theorem runActions_append (r : Run) (as bs : List Action) :
    runActions cfg r (as ++ bs) = (runActions cfg r as).bind fun r' => runActions cfg r' bs := by
  induction as generalizing r with
  | nil => rfl
  | cons a as ih => simp only [cons_append, runActions, append_eq, ih, Option.bind_assoc]

/-- **A run of `Enqueue`s keeps the newest events.**  From a queue within its bound, the events
`es` enqueued one after another leave in the queue the last `queueLimit` events of `queue ++ es`,
and evict the ones before them, oldest first. -/
theorem runActions_map_enqueue {r : Run} (hq : r.queue.length ≤ cfg.queueLimit) (es : List Event) :
    runActions cfg r (es.map .enqueue) =
      some { r with
        queue := (r.queue ++ es).drop ((r.queue ++ es).length - cfg.queueLimit)
        enqueued := r.enqueued ++ es
        evicted := r.evicted ++ (r.queue ++ es).take ((r.queue ++ es).length - cfg.queueLimit) } := by
  induction es generalizing r with
  | nil => simp [runActions, Nat.sub_eq_zero_of_le hq]
  | cons e es ih =>
    have hpos := cfg.queueLimit_pos
    simp only [map_cons, runActions, step, Option.some_bind]
    refine (ih (length_enqueue_le cfg hq e)).trans ?_
    -- the first `Enqueue` evicts the events `t`, and the rest of the run the others
    set t := r.queue.take (if cfg.queueLimit ≤ r.queue.length then 1 else 0) with ht
    have hL : r.queue ++ e :: es = t ++ (enqueue cfg r.queue e ++ es) := by
      rw [enqueue_eq_drop, append_assoc, ← append_assoc t, take_append_drop, singleton_append]
    have hn : (r.queue ++ e :: es).length - cfg.queueLimit =
        t.length + ((enqueue cfg r.queue e ++ es).length - cfg.queueLimit) := by
      simp only [ht, enqueue_eq_drop, length_append, length_drop, length_take, length_cons,
        length_singleton, length_nil]
      split_ifs <;> omega
    rw [hn, hL, drop_append, take_append, ← append_assoc, append_assoc r.enqueued]
    rfl

/-- **`Enqueue`s with no flush in between keep the newest events.**  From any queue within its
bound, the queue after the events `es` are enqueued is the last `min queueLimit (len (queue ++ es))`
events of `queue ++ es`, in order, and the events evicted are the ones before them. -/
theorem enqueues_keep_newest {r : Run} (hq : r.queue.length ≤ cfg.queueLimit) (es : List Event) :
    ∃ r', runActions cfg r (es.map .enqueue) = some r' ∧
      r'.queue = (r.queue ++ es).drop
        ((r.queue ++ es).length - min cfg.queueLimit (r.queue ++ es).length) ∧
      r'.evicted = r.evicted ++ (r.queue ++ es).take ((r.queue ++ es).length - cfg.queueLimit) := by
  refine ⟨_, runActions_map_enqueue hq es, ?_, rfl⟩
  dsimp only
  congr 1
  omega

/-- **A failed `Send` puts the batch back, cut from its oldest end.**  In every reachable state,
when the `Send` of the batch `b` in flight fails, the queue becomes the last `queueLimit` events of
`b ++ queue`.  The queue was within its bound, so every event enqueued during the flight is kept
and the cut falls on the oldest events of the batch. -/
theorem requeue_keeps_newest {r : Run} (h : Reachable cfg r) {b : List Event}
    (hb : r.inFlight = some b) :
    ∃ r', step cfg r (.finish .failed) = some r' ∧
      r'.queue = (b ++ r.queue).drop ((b ++ r.queue).length - cfg.queueLimit) ∧
      r'.queue = b.drop (b.length + r.queue.length - cfg.queueLimit) ++ r.queue := by
  have hq := queue_length_le h
  simp only [step, hb, Option.some.injEq, exists_eq_left', requeue_eq, true_and]
  rw [length_append, drop_append_of_le_length (by omega)]

end Queue

/-! ## Runs on the default configuration -/

/-- A connection event stamped at the epoch. -/
def epochEvent : Event := .connection { timestamp := Time.unix 0 }

/-- One event enqueued and flushed with no stream open, as every flush of this revision is. -/
def lostRun : Run := ⟨[], none, [epochEvent], [], [], [epochEvent]⟩

theorem runActions_lostRun :
    runActions defaultConfig Run.init [.enqueue epochEvent, .take, .finish .noStream] =
      some lostRun := by
  decide

/-- Two events enqueued, the first sent in a batch of its own before the second arrives. -/
def sentRun : Run := ⟨[epochEvent], none, [epochEvent, epochEvent], [[epochEvent]], [], []⟩

theorem runActions_sentRun :
    runActions ⟨1, 10000, by decide⟩ Run.init
        [.enqueue epochEvent, .take, .enqueue epochEvent, .finish .ok] = some sentRun := by
  decide

/-- The queue of `sentRun` is within the bound. -/
theorem queue_length_le_sentRun :
    Reachable ⟨1, 10000, by decide⟩ sentRun ∧ sentRun.queue.length ≤ 10000 :=
  have h := reachable_of_runActions _ .init runActions_sentRun
  ⟨h, queue_length_le h⟩

/-- The sent events of `sentRun` are a subsequence of its enqueued events. -/
theorem sent_sublist_sentRun :
    Reachable ⟨1, 10000, by decide⟩ sentRun ∧
      (sentRun.sent.flatten.filterMap Event.connection? <+
          sentRun.enqueued.filterMap Event.connection? ∧
        sentRun.sent.flatten.filterMap Event.httpRequest? <+
          sentRun.enqueued.filterMap Event.httpRequest?) :=
  have h := reachable_of_runActions _ .init runActions_sentRun
  ⟨h, sent_sublist h⟩

/-- The custody of the discarded run: the event is in the fifth place. -/
theorem enqueued_perm_lostRun :
    Reachable defaultConfig lostRun ∧
      lostRun.enqueued ~ lostRun.sent.flatten ++ lostRun.inFlight.getD [] ++ lostRun.queue ++
        lostRun.evicted ++ lostRun.discarded :=
  have h := reachable_of_runActions defaultConfig .init runActions_lostRun
  ⟨h, enqueued_perm h⟩

/-- **An enqueued event can leave the queue, the flight, the sent batches and the evictions.**
After one `Enqueue` and one flush that finds no stream, the event is neither queued, nor in flight,
nor sent, nor evicted. -/
theorem discarded_event_lost :
    Reachable defaultConfig lostRun ∧ epochEvent ∈ lostRun.enqueued ∧
      epochEvent ∉ lostRun.queue ∧ lostRun.inFlight = none ∧
      epochEvent ∉ lostRun.sent.flatten ∧ epochEvent ∉ lostRun.evicted :=
  ⟨reachable_of_runActions defaultConfig .init runActions_lostRun, by decide, by decide, rfl,
    by decide, by decide⟩

/-- A request stamped at the epoch. -/
def epochRequest : Event := .httpRequest { timestamp := Time.unix 0 }

/-- One event enqueued and taken by a flush, whose `Send` is in flight. -/
def inFlightRun : Run := ⟨[], some [epochEvent], [epochEvent], [], [], []⟩

theorem runActions_inFlightRun :
    runActions defaultConfig Run.init [.enqueue epochEvent, .take] = some inFlightRun := by
  decide

/-- The `Send` of `inFlightRun` fails, and the batch goes back whole. -/
theorem requeue_keeps_newest_inFlightRun :
    Reachable defaultConfig inFlightRun ∧ inFlightRun.inFlight = some [epochEvent] ∧
      ∃ r', step defaultConfig inFlightRun (.finish .failed) = some r' ∧
        r'.queue = ([epochEvent] ++ inFlightRun.queue).drop
          (([epochEvent] ++ inFlightRun.queue).length - defaultConfig.queueLimit) ∧
        r'.queue = [epochEvent].drop ([epochEvent].length + inFlightRun.queue.length -
          defaultConfig.queueLimit) ++ inFlightRun.queue :=
  have h := reachable_of_runActions defaultConfig .init runActions_inFlightRun
  ⟨h, rfl, requeue_keeps_newest h rfl⟩

/-- **A failed `Send` can cut the batch it puts back.**  A flush takes `epochEvent`, `10000`
requests are enqueued while its `Send` is in flight, and the `Send` fails: the queue keeps the
requests and loses `epochEvent`, where the first `queueLimit` events of the batch and the queue
would start with it. -/
theorem requeue_drops_batch_head :
    ∃ r r', runActions defaultConfig Run.init
        ([.enqueue epochEvent, .take] ++ (List.replicate 10000 epochRequest).map .enqueue) = some r ∧
      r.inFlight = some [epochEvent] ∧ step defaultConfig r (.finish .failed) = some r' ∧
      r'.queue ≠ ([epochEvent] ++ r.queue).take defaultConfig.queueLimit := by
  rw [runActions_append, runActions_inFlightRun, Option.some_bind,
    runActions_map_enqueue (by decide)]
  refine ⟨_, _, rfl, rfl, rfl, ?_⟩
  dsimp only
  -- no event was evicted while the batch was in flight, and one is cut when it comes back
  rw [requeue_eq, show inFlightRun.queue ++ replicate 10000 epochRequest =
      replicate 10000 epochRequest from rfl, length_replicate,
    show defaultConfig.queueLimit = 10000 from rfl, Nat.sub_self, drop_zero, singleton_append,
    length_cons, length_replicate, show 10000 + 1 - 10000 = 1 from rfl, drop_one, tail_cons]
  intro h
  have hd := congrArg head? h
  rw [show (10000 : Nat) = 9999 + 1 from rfl, replicate_succ, take_succ_cons, head?_cons,
    head?_cons] at hd
  exact absurd (Option.some.inj hd) (by decide)

/-- `enqueues_keep_newest` from the empty queue, for a connection and a request. -/
theorem enqueues_keep_newest_init :
    Run.init.queue.length ≤ defaultConfig.queueLimit ∧
      ∃ r', runActions defaultConfig Run.init ([epochEvent, epochRequest].map .enqueue) = some r' ∧
        r'.queue = (Run.init.queue ++ [epochEvent, epochRequest]).drop
          ((Run.init.queue ++ [epochEvent, epochRequest]).length -
            min defaultConfig.queueLimit (Run.init.queue ++ [epochEvent, epochRequest]).length) ∧
        r'.evicted = Run.init.evicted ++ (Run.init.queue ++ [epochEvent, epochRequest]).take
          ((Run.init.queue ++ [epochEvent, epochRequest]).length - defaultConfig.queueLimit) :=
  ⟨by decide, enqueues_keep_newest (by decide) _⟩

end Exporter
end Nefi
