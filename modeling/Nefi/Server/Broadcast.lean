import Mathlib.Data.List.Perm.Basic

/-!
# The WebSocket topology broadcast

`handleWSTopology` upgrades a request to a WebSocket connection, registers it in `h.wsClients`
under `h.wsMu`, and starts a reader goroutine that reads until `ReadMessage` fails; its deferred
function then deletes the connection from the map under the lock and, after the lock, closes it.
`topologyBroadcastLoop` waits at a `select` on its ticker and on `h.wsStopCh`.  On a tick,
`broadcastTopology` copies the map's keys under the lock, builds and marshals the topology without
it (returning early when the copy is empty or either fails), and writes the data to every copied
connection in turn; a failed write deletes the connection under the lock and closes it.  When the
loop takes `wsStopCh` it returns and closes `h.wsDoneCh`.  `StopTopologyBroadcast` closes
`wsStopCh`, waits on `wsDoneCh`, and then, under the lock, closes every registered connection and
replaces the map by an empty one.

Go's `select` picks at random among ready cases, so once `wsStopCh` is closed the loop may still
broadcast any number of times before it returns; and the copy a broadcast writes to is taken
before the writes, so a connection can leave the map while the broadcast still holds it.

## What is modelled

`Handler` holds the map (as the list of its keys), whether the two channels are closed, the
connections the running broadcast has still to write, the readers still reading and those that
have deleted their connection but not yet closed it, and where `StopTopologyBroadcast` is.  A
connection is the number of the `Upgrade` that made it, so every connection is new.  Ghost fields
count the upgrades and record every `Close` and every `WriteMessage`, in order.  `step` is one
critical section or one call that touches a connection (`Action`); the map's iteration order at a
tick, the outcome of `buildTopology` and `Marshal`, and the outcome of each `WriteMessage` are
parameters.  A failed write's delete and close are one step: between them only the connection's
own reader can touch it, and a `Close` changes no state that any step reads.

Failed upgrades change nothing and are left out, as are the logger, the ticker's period and the
topology's content.  `StopTopologyBroadcast` is called once, after `StartTopologyBroadcast`, as
`main` calls them; a second call would close `wsStopCh` twice and panic.

## Results

* `Inv.step`, `Reachable.inv`: the invariant every interleaving keeps.
* `conn_registered_or_closed`: every accepted connection is registered, closed, or about to be
  closed by its reader; none leaves the map without a `Close`.
* `stop_closes_and_silences`: when `StopTopologyBroadcast` returns, every connection accepted
  before is closed or about to be closed by its reader, and no later step writes to any
  connection, also to one accepted after.
* `closes_at_most_twice`: a connection is closed at most twice, and twice happens: a reader can
  close its connection after a broadcast copied it, and the broadcast then writes to the closed
  connection and closes it again.
-/

namespace Nefi
namespace Api

open List

/-- Where `StopTopologyBroadcast` is. -/
inductive StopPc where
  | notCalled
  /-- `wsStopCh` is closed, and the call waits on `wsDoneCh`. -/
  | waiting
  | returned
  deriving DecidableEq, Repr

/-- The WebSocket fields of `Handler`, the goroutines that use them, and ghost fields. -/
structure Handler where
  /-- The keys of `h.wsClients`. -/
  wsClients : List Nat
  wsStopClosed : Bool
  wsDoneClosed : Bool
  /-- The connections the running `broadcastTopology` has still to write, in its copy's order. -/
  broadcasting : List Nat
  /-- The connections whose reader is still in its `ReadMessage` loop. -/
  reading : List Nat
  /-- The connections whose reader has deleted them and is about to close them. -/
  exiting : List Nat
  stop : StopPc
  /-- The number of upgrades so far; the connection `n` is the one the `n`-th made. -/
  nextConn : Nat
  /-- Every `conn.Close()`, in order. -/
  closed : List Nat
  /-- Every `conn.WriteMessage`, in order. -/
  writes : List Nat
  deriving DecidableEq, Repr

namespace Handler

/-- `NewHandler` followed by `StartTopologyBroadcast`: no connection, the loop at its `select`. -/
def init : Handler := ⟨[], false, false, [], [], [], .notCalled, 0, [], []⟩

/-- One action. -/
inductive Action where
  /-- `handleWSTopology` upgrades a request, registers the connection and starts its reader. -/
  | connect
  /-- `ReadMessage` fails for the reader of `c`, which deletes `c` from the map. -/
  | readFailed (c : Nat)
  /-- The reader of `c`, past the lock, closes `c`. -/
  | readerClose (c : Nat)
  /-- The ticker fires: `broadcastTopology` copies the map's keys in the iteration order `order`;
  `ok` is whether `buildTopology` and `Marshal` succeed. -/
  | tick (order : List Nat) (ok : Bool)
  /-- `WriteMessage` to the broadcast's next connection, which fails unless `ok`. -/
  | write (ok : Bool)
  /-- `StopTopologyBroadcast` closes `wsStopCh`. -/
  | stopCalled
  /-- The loop's `select` takes `wsStopCh`; the loop returns and closes `wsDoneCh`. -/
  | loopExit
  /-- `StopTopologyBroadcast` receives from `wsDoneCh`, closes every registered connection and
  empties the map. -/
  | stopFinish

/-- The write of the broadcast to `c`, with `rest` still to write: a failed one deletes `c` from
the map and closes it. -/
def writeStep (h : Handler) (c : Nat) (rest : List Nat) : Bool → Handler
  | true => { h with broadcasting := rest, writes := h.writes ++ [c] }
  | false =>
    { h with
      broadcasting := rest, writes := h.writes ++ [c]
      wsClients := h.wsClients.erase c, closed := h.closed ++ [c] }

/-- One step, `none` when the action cannot run. -/
def step (h : Handler) : Action → Option Handler
  | .connect =>
    some { h with
      wsClients := h.wsClients ++ [h.nextConn], reading := h.reading ++ [h.nextConn]
      nextConn := h.nextConn + 1 }
  | .readFailed c =>
    if c ∈ h.reading then
      some { h with
        wsClients := h.wsClients.erase c, reading := h.reading.erase c, exiting := h.exiting ++ [c] }
    else none
  | .readerClose c =>
    if c ∈ h.exiting then some { h with exiting := h.exiting.erase c, closed := h.closed ++ [c] }
    else none
  | .tick order ok =>
    if h.broadcasting = [] ∧ h.wsDoneClosed = false ∧ order.Perm h.wsClients then
      some (if ok then { h with broadcasting := order } else h)
    else none
  | .write ok =>
    match h.broadcasting with
    | [] => none
    | c :: rest => some (h.writeStep c rest ok)
  | .stopCalled =>
    if h.stop = .notCalled then some { h with stop := .waiting, wsStopClosed := true } else none
  | .loopExit =>
    if h.broadcasting = [] ∧ h.wsDoneClosed = false ∧ h.wsStopClosed = true then
      some { h with wsDoneClosed := true }
    else none
  | .stopFinish =>
    if h.stop = .waiting ∧ h.wsDoneClosed = true then
      some { h with stop := .returned, closed := h.closed ++ h.wsClients, wsClients := [] }
    else none

/-- The states some interleaving reaches from `init`. -/
inductive Reachable : Handler → Prop where
  | init : Reachable init
  | step {h h' : Handler} {a : Action} : Reachable h → step h a = some h' → Reachable h'

/-- A run of actions, `none` when one of them cannot run. -/
def runActions : Handler → List Action → Option Handler
  | h, [] => some h
  | h, a :: as => (step h a).bind (runActions · as)

theorem reachable_of_runActions {h h' : Handler} {acts : List Action} (hh : Reachable h)
    (hrun : runActions h acts = some h') : Reachable h' := by
  induction acts generalizing h with
  | nil => cases hrun; exact hh
  | cons a as ih =>
    obtain ⟨h₁, h₁_eq, hrest⟩ := Option.bind_eq_some.mp hrun
    exact ih (hh.step h₁_eq) hrest

/-! ## The invariant

A connection sees the state as the number of times it occurs in each list (`view`).  Every step
changes the view of at most one connection, except a tick, which copies the map into the
broadcast, and the end of `StopTopologyBroadcast`, which closes the whole map; so the invariant is
stated for one connection at a time (`ConnOk`), and each step is checked by arithmetic on the
counts. -/

/-- How often the connection `c` occurs in each list of `h`. -/
structure ConnView where
  clients : Nat
  broadcasting : Nat
  reading : Nat
  exiting : Nat
  closes : Nat

/-- The state as the connection `c` sees it. -/
def view (h : Handler) (c : Nat) : ConnView :=
  ⟨h.wsClients.count c, h.broadcasting.count c, h.reading.count c, h.exiting.count c,
    h.closed.count c⟩

/-- What every reachable state keeps of the connection `c`, with `n` upgrades made: it occurs at
most once in the map, the broadcast, and its reader's lists; its closes so far, plus one still to
come from its reader and one from the broadcast or `StopTopologyBroadcast` while it is in the map
or the broadcast, are at most two; an accepted connection is registered, exiting or closed; and
one not yet accepted is nowhere. -/
def ConnOk (n c : Nat) (v : ConnView) : Prop :=
  v.clients ≤ 1 ∧ v.broadcasting ≤ 1 ∧ v.reading + v.exiting ≤ 1 ∧
    v.closes + v.reading + v.exiting + v.clients ≤ 2 ∧
    v.closes + v.reading + v.exiting + v.broadcasting ≤ 2 ∧
    (c < n → 0 < v.clients + v.exiting + v.closes) ∧
    (n ≤ c → v.clients + v.broadcasting + v.reading + v.exiting + v.closes = 0)

/-- What every reachable state keeps: `ConnOk` for every connection, and the order of the
shutdown. -/
structure Inv (h : Handler) : Prop where
  conn : ∀ c, ConnOk h.nextConn c (h.view c)
  done_idle : h.wsDoneClosed = true → h.broadcasting = []
  returned_done : h.stop = .returned → h.wsDoneClosed = true

theorem inv_init : Inv init :=
  ⟨fun c => by simp [ConnOk, view, init], nofun, nofun⟩

theorem count_singleton_of_ne {c d : Nat} (e : c ≠ d) : count c [d] = 0 := by simp [e]

variable {h : Handler}

theorem Inv.connect (hi : Inv h) :
    Inv { h with
      wsClients := h.wsClients ++ [h.nextConn], reading := h.reading ++ [h.nextConn]
      nextConn := h.nextConn + 1 } := by
  refine ⟨fun c => ?_, hi.done_idle, hi.returned_done⟩
  have hc := hi.conn c
  by_cases e : c = h.nextConn
  · subst e
    simp only [ConnOk, view, count_append, count_singleton_self] at hc ⊢
    omega
  · simp only [ConnOk, view, count_append, count_singleton_of_ne e] at hc ⊢
    omega

theorem Inv.readFailed (hi : Inv h) {c₀ : Nat} (hr : c₀ ∈ h.reading) :
    Inv { h with
      wsClients := h.wsClients.erase c₀, reading := h.reading.erase c₀
      exiting := h.exiting ++ [c₀] } := by
  refine ⟨fun c => ?_, hi.done_idle, hi.returned_done⟩
  have hc := hi.conn c
  by_cases e : c = c₀
  · subst e
    have hpos := count_pos_iff.2 hr
    simp only [ConnOk, view, count_append, count_erase_self, count_singleton_self] at hc ⊢
    omega
  · simpa only [ConnOk, view, count_append, count_erase_of_ne e, count_singleton_of_ne e,
      Nat.add_zero] using hc

theorem Inv.readerClose (hi : Inv h) {c₀ : Nat} (hx : c₀ ∈ h.exiting) :
    Inv { h with exiting := h.exiting.erase c₀, closed := h.closed ++ [c₀] } := by
  refine ⟨fun c => ?_, hi.done_idle, hi.returned_done⟩
  have hc := hi.conn c
  by_cases e : c = c₀
  · subst e
    have hpos := count_pos_iff.2 hx
    simp only [ConnOk, view, count_append, count_erase_self, count_singleton_self] at hc ⊢
    omega
  · simpa only [ConnOk, view, count_append, count_erase_of_ne e, count_singleton_of_ne e,
      Nat.add_zero] using hc

theorem Inv.tick (hi : Inv h) {order : List Nat} (hb : h.broadcasting = [])
    (hd : h.wsDoneClosed = false) (hp : order.Perm h.wsClients) :
    Inv { h with broadcasting := order } := by
  refine ⟨fun c => ?_, fun hd' => absurd hd' (by simp [hd]), hi.returned_done⟩
  have hc := hi.conn c
  simp only [ConnOk, view, hb, count_nil, hp.count_eq] at hc ⊢
  omega

theorem Inv.writeStep (hi : Inv h) {c₀ : Nat} {rest : List Nat}
    (hb : h.broadcasting = c₀ :: rest) (ok : Bool) : Inv (h.writeStep c₀ rest ok) := by
  have hd : h.wsDoneClosed = false := by
    cases hd : h.wsDoneClosed
    · rfl
    · simp [hi.done_idle hd] at hb
  have hidle : (h.writeStep c₀ rest ok).wsDoneClosed = false := by cases ok <;> exact hd
  refine ⟨fun c => ?_, fun hd' => absurd hd' (by simp [hidle]), ?_⟩
  · have hc := hi.conn c
    rw [view, hb] at hc
    by_cases e : c = c₀
    · subst e
      cases ok <;>
        simp only [Handler.writeStep, ConnOk, view, count_append,
          count_erase_self, count_singleton_self, count_cons_self, count_nil] at hc ⊢ <;>
        omega
    · cases ok <;>
        simpa only [Handler.writeStep, ConnOk, view, count_append,
          count_erase_of_ne e, count_singleton_of_ne e, count_cons_of_ne e, Nat.add_zero] using hc
  · cases ok <;> exact hi.returned_done

theorem Inv.stopFinish (hi : Inv h) (hd : h.wsDoneClosed = true) :
    Inv { h with stop := .returned, closed := h.closed ++ h.wsClients, wsClients := [] } := by
  have hb := hi.done_idle hd
  refine ⟨fun c => ?_, fun _ => hb, fun _ => hd⟩
  have hc := hi.conn c
  simp only [ConnOk, view, hb, count_nil, count_append] at hc ⊢
  omega

/-- **Every step keeps the invariant.** -/
theorem Inv.step {h' : Handler} {a : Action} (hi : Inv h) (hs : step h a = some h') : Inv h' := by
  cases a with
  | connect => cases hs; exact hi.connect
  | readFailed c =>
    simp only [Handler.step] at hs
    split_ifs at hs with hr
    cases hs
    exact hi.readFailed hr
  | readerClose c =>
    simp only [Handler.step] at hs
    split_ifs at hs with hx
    cases hs
    exact hi.readerClose hx
  | tick order ok =>
    simp only [Handler.step] at hs
    split_ifs at hs with hg
    · cases hs
      exact hi.tick hg.1 hg.2.1 hg.2.2
    · cases hs
      exact hi
  | write ok =>
    simp only [Handler.step] at hs
    split at hs
    · cases hs
    · cases hs
      exact hi.writeStep ‹_› ok
  | stopCalled =>
    simp only [Handler.step] at hs
    split_ifs at hs
    cases hs
    exact ⟨hi.conn, hi.done_idle, nofun⟩
  | loopExit =>
    simp only [Handler.step] at hs
    split_ifs at hs with hg
    cases hs
    exact ⟨hi.conn, fun _ => hg.1, fun _ => rfl⟩
  | stopFinish =>
    simp only [Handler.step] at hs
    split_ifs at hs with hg
    cases hs
    exact hi.stopFinish hg.2

theorem Reachable.inv (hr : Reachable h) : Inv h := by
  induction hr with
  | init => exact inv_init
  | step _ hs ih => exact ih.step hs

theorem Inv.accounted (hi : Inv h) {c : Nat} (hc : c < h.nextConn) :
    c ∈ h.wsClients ∨ c ∈ h.exiting ∨ c ∈ h.closed := by
  have := (hi.conn c).2.2.2.2.2.1 hc
  simp only [view] at this
  simp only [← count_pos_iff]
  omega

theorem Inv.count_closed_le (hi : Inv h) (c : Nat) : h.closed.count c ≤ 2 := by
  have := (hi.conn c).2.2.2.1
  simp only [view] at this
  omega

/-! ## Shutdown -/

/-- Once `StopTopologyBroadcast` has returned, the loop has returned too, so a step writes to no
connection; and the call stays returned. -/
theorem Inv.step_of_returned {h' : Handler} {a : Action} (hi : Inv h) (hs₀ : h.stop = .returned)
    (hs : Handler.step h a = some h') : h'.writes = h.writes ∧ h'.stop = .returned := by
  have hd := hi.returned_done hs₀
  cases a with
  | connect => cases hs; exact ⟨rfl, hs₀⟩
  | readFailed c =>
    simp only [Handler.step] at hs
    split_ifs at hs
    cases hs
    exact ⟨rfl, hs₀⟩
  | readerClose c =>
    simp only [Handler.step] at hs
    split_ifs at hs
    cases hs
    exact ⟨rfl, hs₀⟩
  | tick order ok => simp [Handler.step, hd] at hs
  | write ok => simp [Handler.step, hi.done_idle hd] at hs
  | stopCalled => simp [Handler.step, hs₀] at hs
  | loopExit => simp [Handler.step, hd] at hs
  | stopFinish => simp [Handler.step, hs₀] at hs

theorem Inv.writes_runActions_of_returned {h' : Handler} {acts : List Action} (hi : Inv h)
    (hs₀ : h.stop = .returned) (hrun : runActions h acts = some h') : h'.writes = h.writes := by
  induction acts generalizing h with
  | nil => cases hrun; rfl
  | cons a as ih =>
    obtain ⟨h₁, h₁_eq, hrest⟩ := Option.bind_eq_some.mp hrun
    obtain ⟨hw, hs₁⟩ := hi.step_of_returned hs₀ h₁_eq
    rw [ih (hi.step h₁_eq) hs₁ hrest, hw]

/-! ## Results -/

/-- **No connection is lost.**  In every reachable state, under every interleaving of upgrades,
failed reads, broadcasts and the shutdown, every connection accepted so far is registered in
`wsClients`, has been closed, or is about to be closed by its reader. -/
theorem conn_registered_or_closed (hr : Reachable h) {c : Nat} (hc : c < h.nextConn) :
    c ∈ h.wsClients ∨ c ∈ h.exiting ∨ c ∈ h.closed :=
  hr.inv.accounted hc

/-- Two connections; the broadcast writes the second and fails on the first, which it closes,
and the first's reader then fails too. -/
def failedWriteRun : List Action :=
  [.connect, .connect, .tick [1, 0] true, .write true, .write false, .readFailed 0]

theorem conn_registered_or_closed_failedWriteRun :
    let h := (runActions init failedWriteRun).getD init
    Reachable h ∧ 1 < h.nextConn ∧ (0 ∈ h.wsClients ∨ 0 ∈ h.exiting ∨ 0 ∈ h.closed) ∧
      (1 ∈ h.wsClients ∨ 1 ∈ h.exiting ∨ 1 ∈ h.closed) :=
  have hr : Reachable ((runActions init failedWriteRun).getD init) :=
    @reachable_of_runActions init _ failedWriteRun .init (by decide)
  ⟨hr, by decide, conn_registered_or_closed hr (by decide), conn_registered_or_closed hr (by decide)⟩

/-- **After `StopTopologyBroadcast` returns, nothing is left open and nothing is written.**  When
the call returns, every connection accepted before is closed or about to be closed by its reader;
and from then on no interleaving writes to any connection, not even to one accepted later. -/
theorem stop_closes_and_silences {h' : Handler} (hr : Reachable h)
    (hs : step h .stopFinish = some h') :
    (∀ c < h'.nextConn, c ∈ h'.exiting ∨ c ∈ h'.closed) ∧
      ∀ (acts : List Action) (h'' : Handler), runActions h' acts = some h'' →
        h''.writes = h'.writes := by
  have hi' := hr.inv.step hs
  have hret : h'.stop = .returned ∧ h'.wsClients = [] := by
    simp only [Handler.step] at hs
    split_ifs at hs
    cases hs
    exact ⟨rfl, rfl⟩
  refine ⟨fun c hc => ?_, fun acts h'' hrun => hi'.writes_runActions_of_returned hret.1 hrun⟩
  simpa [hret.2] using hi'.accounted hc

/-- Two connections, the reader of the second failing while `StopTopologyBroadcast` waits for the
loop. -/
def stopRun : List Action := [.connect, .connect, .stopCalled, .readFailed 1, .loopExit]

theorem stop_closes_and_silences_stopRun :
    let h := (runActions init stopRun).getD init
    let h' := (step h .stopFinish).getD init
    Reachable h ∧ step h .stopFinish = some h' ∧
      (∀ c < h'.nextConn, c ∈ h'.exiting ∨ c ∈ h'.closed) ∧
      ∀ (acts : List Action) (h'' : Handler), runActions h' acts = some h'' →
        h''.writes = h'.writes :=
  have hr : Reachable ((runActions init stopRun).getD init) :=
    @reachable_of_runActions init _ stopRun .init (by decide)
  have hs : step ((runActions init stopRun).getD init) .stopFinish =
      some ((step ((runActions init stopRun).getD init) .stopFinish).getD init) := by decide
  ⟨hr, hs, stop_closes_and_silences hr hs⟩

/-- **A connection is closed at most twice, and twice happens.**  In every reachable state each
connection has been closed at most twice: once by its reader, and at most once by a failed write
or by `StopTopologyBroadcast`.  And whenever the broadcast is about to write a connection whose
reader is still reading, the reader can fail and close it first; the broadcast then writes to the
closed connection, fails, and closes it again. -/
theorem closes_at_most_twice :
    (∀ h : Handler, Reachable h → ∀ c, h.closed.count c ≤ 2) ∧
      ∀ (h : Handler) (c : Nat) (rest : List Nat), h.broadcasting = c :: rest → c ∈ h.reading →
        ∃ h₂ h₃, runActions h [.readFailed c, .readerClose c] = some h₂ ∧ c ∈ h₂.closed ∧
          step h₂ (.write false) = some h₃ ∧ h₃.writes = h₂.writes ++ [c] ∧
          h₃.closed.count c = h.closed.count c + 2 := by
  refine ⟨fun h hr c => hr.inv.count_closed_le c, fun h c rest hb hc => ?_⟩
  have hx : c ∈ h.exiting ++ [c] := mem_append_right _ (mem_singleton_self c)
  let h₂ : Handler :=
    { h with
      wsClients := h.wsClients.erase c, reading := h.reading.erase c
      exiting := (h.exiting ++ [c]).erase c, closed := h.closed ++ [c] }
  refine ⟨h₂, h₂.writeStep c rest false, ?_, mem_append_right _ (mem_singleton_self c), ?_, rfl, ?_⟩
  · simp only [runActions, Handler.step, if_pos hc, Option.some_bind]
    rw [if_pos hx]
    rfl
  · simp only [Handler.step, h₂, hb]
  · simp [Handler.writeStep, h₂]

/-- One connection and a broadcast that has copied it. -/
def raceRun : List Action := [.connect, .tick [0] true]

theorem closes_at_most_twice_raceRun :
    let h := (runActions init raceRun).getD init
    Reachable h ∧ h.closed.count 0 ≤ 2 ∧
      ∃ h₂ h₃, runActions h [.readFailed 0, .readerClose 0] = some h₂ ∧ 0 ∈ h₂.closed ∧
        step h₂ (.write false) = some h₃ ∧ h₃.writes = h₂.writes ++ [0] ∧
        h₃.closed.count 0 = h.closed.count 0 + 2 :=
  have hr : Reachable ((runActions init raceRun).getD init) :=
    @reachable_of_runActions init _ raceRun .init (by decide)
  ⟨hr, closes_at_most_twice.1 _ hr 0, closes_at_most_twice.2 _ 0 [] (by decide) (by decide)⟩

end Handler

end Api
end Nefi
