import Nefi.Agent.Ebpf.Record
import Mathlib.Logic.Relation

/-!
# The loader's shutdown: `Start`, `Close` and the two decode loops

Once `Loader.Start` has opened its perf readers it launches `readConnEvents` and
`readHTTPEvents` as goroutines, blocks on `<-ctx.Done()`, and then calls `Close`, which closes the
links, the two perf readers and the collections, and last `close(l.events)`.  It does not wait for
the decode loops.

Each decode loop goes round the same cycle: a `select` on `ctx.Done()` with a `default` case, a
blocking `Read` on its perf reader, the decoding of `Record`, and a second `select` that either
sends the event on `l.events` or returns on `ctx.Done()`.  Go's `select` picks uniformly among the
cases that can proceed, and a send on a closed channel can proceed: it panics.  So once `ctx` is
done and `Close` has closed the channel, a loop that was holding a decoded event may take the
send case.

## What is modelled

A `Loader` is the state the three goroutines share: whether `ctx` is done, which perf readers and
whether the channel are closed, the events buffered in the channel (capacity 4096), and where each
goroutine is.  `Loader.step` is one atomic action of one goroutine (`Loader.Action`), with Go's
choices (what `Read` returns, which ready `select` case runs) as parameters of the action.  A
closed perf reader interrupts `Read`, which then returns an error that is not an unknown event.
Closing the links and the collections is left out: the decode loops do not read either.  The model
starts once both loops are launched (`Loader.init`).

## Results

* `Loader.Reachable.inv`: in every reachable state the channel is closed only after `ctx` is done
  and both perf readers are closed, and only a closed channel makes a loop panic.
* `Loader.never_panics_of_quiet`: a decode loop that holds no decoded event when the channel is
  closed never sends on it.
* `send_on_closed_events`: a loop that holds one can: the run that decodes a record, cancels,
  closes everything, and lets the `select` choose the send ends in a panic.
-/

namespace Nefi
namespace Ebpf

/-- The two decode loops. -/
inductive Reader where
  | conn
  | http
  deriving DecidableEq, Repr

/-- The event a decode loop makes of a record: `connSample` or `httpSample`, tagged for
`l.events`. -/
def Reader.sample : Reader → PerfRecord → Option Event
  | .conn, rec => (connSample rec).map .connection
  | .http, rec => (httpSample rec).map .httpRequest

/-- Where a decode loop is. -/
inductive ReaderPc where
  /-- At the top of the loop: the `select` on `ctx.Done()` with a `default` case. -/
  | top
  /-- Blocked in `Read` on its perf reader. -/
  | reading
  /-- Holding a decoded event, at the `select` that sends it or returns on `ctx.Done()`. -/
  | sending (evt : Event)
  /-- Returned. -/
  | returned
  /-- The `select` sent on the closed channel: the goroutine panics, and with it the agent. -/
  | panicked
  deriving DecidableEq, Repr

/-- Where `Start` is once it has launched the decode loops: blocked on `<-ctx.Done()`, then at the
steps of `Close` that the decode loops can observe, then returned. -/
inductive StartPc where
  | waiting
  | closeConnPerf
  | closeHttpPerf
  | closeEvents
  | returned
  deriving DecidableEq, Repr

/-- How far `Start` has gone. -/
def StartPc.rank : StartPc → Nat
  | waiting => 0
  | closeConnPerf => 1
  | closeHttpPerf => 2
  | closeEvents => 3
  | returned => 4

/-- `make(chan interface{}, 4096)`. -/
def eventsCapacity : Nat := 4096

/-- What the goroutines of a started `Loader` share, and where each of them is. -/
structure Loader where
  ctxDone : Bool
  connPerfClosed : Bool
  httpPerfClosed : Bool
  eventsClosed : Bool
  events : List Event
  start : StartPc
  conn : ReaderPc
  http : ReaderPc
  deriving DecidableEq

namespace Loader

/-- Where a decode loop is. -/
def pc (s : Loader) : Reader → ReaderPc
  | .conn => s.conn
  | .http => s.http

/-- A decode loop moves on. -/
def setPc (s : Loader) : Reader → ReaderPc → Loader
  | .conn, p => { s with conn := p }
  | .http, p => { s with http := p }

/-- Whether a decode loop's perf reader is closed. -/
def perfClosed (s : Loader) : Reader → Bool
  | .conn => s.connPerfClosed
  | .http => s.httpPerfClosed

@[simp] theorem pc_setPc (s : Loader) (r r' : Reader) (p : ReaderPc) :
    (s.setPc r p).pc r' = if r' = r then p else s.pc r' := by
  cases r <;> cases r' <;> rfl

@[simp] theorem perfClosed_setPc (s : Loader) (r r' : Reader) (p : ReaderPc) :
    (s.setPc r p).perfClosed r' = s.perfClosed r' := by
  cases r <;> cases r' <;> rfl

@[simp] theorem connPerfClosed_setPc (s : Loader) (r : Reader) (p : ReaderPc) :
    (s.setPc r p).connPerfClosed = s.connPerfClosed := by
  cases r <;> rfl

@[simp] theorem httpPerfClosed_setPc (s : Loader) (r : Reader) (p : ReaderPc) :
    (s.setPc r p).httpPerfClosed = s.httpPerfClosed := by
  cases r <;> rfl

@[simp] theorem ctxDone_setPc (s : Loader) (r : Reader) (p : ReaderPc) :
    (s.setPc r p).ctxDone = s.ctxDone := by
  cases r <;> rfl

@[simp] theorem eventsClosed_setPc (s : Loader) (r : Reader) (p : ReaderPc) :
    (s.setPc r p).eventsClosed = s.eventsClosed := by
  cases r <;> rfl

@[simp] theorem events_setPc (s : Loader) (r : Reader) (p : ReaderPc) :
    (s.setPc r p).events = s.events := by
  cases r <;> rfl

@[simp] theorem start_setPc (s : Loader) (r : Reader) (p : ReaderPc) :
    (s.setPc r p).start = s.start := by
  cases r <;> rfl

/-- Both decode loops launched, nothing cancelled or closed. -/
def init : Loader := ⟨false, false, false, false, [], .waiting, .top, .top⟩

/-- One atomic action of one of the three goroutines. -/
inductive Action where
  /-- The agent's context is cancelled. -/
  | cancel
  /-- `Start` takes its next step. -/
  | start
  /-- A decode loop runs the `select` at the top of its loop. -/
  | check (r : Reader)
  /-- A decode loop's `Read` returns. -/
  | read (r : Reader) (res : PerfRead)
  /-- A decode loop's second `select` runs its send case. -/
  | send (r : Reader)
  /-- A decode loop's second `select` runs its `ctx.Done()` case. -/
  | done (r : Reader)
  /-- The consumer of `Events()` receives a buffered event. -/
  | receive

/-- The next step of `Start`: return from `<-ctx.Done()` once `ctx` is done, then `Close`. -/
def startStep (s : Loader) : Option Loader :=
  match s.start with
  | .waiting => if s.ctxDone then some { s with start := .closeConnPerf } else none
  | .closeConnPerf => some { s with connPerfClosed := true, start := .closeHttpPerf }
  | .closeHttpPerf => some { s with httpPerfClosed := true, start := .closeEvents }
  | .closeEvents => some { s with eventsClosed := true, start := .returned }
  | .returned => none

/-- `Read` returns `res` to a decode loop blocked in it: a decoded record is held for the send, a
skipped one or an unknown event goes back to the top, and any other error returns.  A closed perf
reader only returns an error of the last kind. -/
def readStep (s : Loader) (r : Reader) : PerfRead → Option Loader
  | .record rec =>
    if s.perfClosed r then none
    else
      match r.sample rec with
      | some evt => some (s.setPc r (.sending evt))
      | none => some (s.setPc r .top)
  | .unknownEvent => if s.perfClosed r then none else some (s.setPc r .top)
  | .failed => some (s.setPc r .returned)

/-- One atomic action, `none` when it cannot run. -/
def step (s : Loader) : Action → Option Loader
  | .cancel => some { s with ctxDone := true }
  | .start => s.startStep
  | .check r =>
    match s.pc r with
    | .top => some (s.setPc r (if s.ctxDone then .returned else .reading))
    | _ => none
  | .read r res =>
    match s.pc r with
    | .reading => s.readStep r res
    | _ => none
  | .send r =>
    match s.pc r with
    | .sending evt =>
      if s.eventsClosed then some (s.setPc r .panicked)
      else if s.events.length < eventsCapacity then
        some { s.setPc r .top with events := s.events ++ [evt] }
      else none
    | _ => none
  | .done r =>
    match s.pc r with
    | .sending _ => if s.ctxDone then some (s.setPc r .returned) else none
    | _ => none
  | .receive =>
    match s.events with
    | _ :: rest => some { s with events := rest }
    | [] => none

/-- The actions of a list, in order; `none` when one of them cannot run. -/
def runActions : Loader → List Action → Option Loader
  | s, [] => some s
  | s, a :: as => (s.step a).bind fun s' => runActions s' as

/-- The states some interleaving of the three goroutines reaches. -/
inductive Reachable : Loader → Prop where
  | init : Reachable init
  | step {s s' : Loader} {a : Action} : Reachable s → s.step a = some s' → Reachable s'

theorem reachable_of_runActions {s s' : Loader} {acts : List Action} (hs : Reachable s)
    (h : runActions s acts = some s') : Reachable s' := by
  induction acts generalizing s with
  | nil => exact (Option.some.inj h) ▸ hs
  | cons a as ih =>
    obtain ⟨s₁, h₁, h₂⟩ := Option.bind_eq_some.mp h
    exact ih (hs.step h₁) h₂

/-! ## What a step can do -/

/-- What one action can do, guards included: the transition relation that `step` refines. -/
inductive Transition (s : Loader) : Loader → Prop where
  | cancel : Transition s { s with ctxDone := true }
  | wake : s.start = .waiting → s.ctxDone = true → Transition s { s with start := .closeConnPerf }
  | closeConnPerf : s.start = .closeConnPerf →
      Transition s { s with connPerfClosed := true, start := .closeHttpPerf }
  | closeHttpPerf : s.start = .closeHttpPerf →
      Transition s { s with httpPerfClosed := true, start := .closeEvents }
  | closeEvents : s.start = .closeEvents →
      Transition s { s with eventsClosed := true, start := .returned }
  | check (r : Reader) : s.pc r = .top →
      Transition s (s.setPc r (if s.ctxDone then .returned else .reading))
  | readFailed (r : Reader) : s.pc r = .reading → Transition s (s.setPc r .returned)
  | readSkipped (r : Reader) : s.pc r = .reading → s.perfClosed r = false →
      Transition s (s.setPc r .top)
  | readDecoded (r : Reader) (evt : Event) : s.pc r = .reading → s.perfClosed r = false →
      Transition s (s.setPc r (.sending evt))
  | sendClosed (r : Reader) (evt : Event) : s.pc r = .sending evt → s.eventsClosed = true →
      Transition s (s.setPc r .panicked)
  | deliver (r : Reader) (evt : Event) : s.pc r = .sending evt → s.eventsClosed = false →
      s.events.length < eventsCapacity →
      Transition s { s.setPc r .top with events := s.events ++ [evt] }
  | done (r : Reader) (evt : Event) : s.pc r = .sending evt → s.ctxDone = true →
      Transition s (s.setPc r .returned)
  | receive (evt : Event) (rest : List Event) : s.events = evt :: rest →
      Transition s { s with events := rest }

theorem readStep_transition {s s' : Loader} {r : Reader} {res : PerfRead}
    (hr : s.pc r = .reading) (h : s.readStep r res = some s') : Transition s s' := by
  cases res with
  | record rec =>
    simp only [readStep] at h
    split_ifs at h with hc
    split at h <;> obtain rfl := Option.some.inj h
    · exact .readDecoded r _ hr (by simpa using hc)
    · exact .readSkipped r hr (by simpa using hc)
  | unknownEvent =>
    simp only [readStep] at h
    split_ifs at h with hc
    obtain rfl := Option.some.inj h
    exact .readSkipped r hr (by simpa using hc)
  | failed =>
    obtain rfl := Option.some.inj h
    exact .readFailed r hr

/-- **Every action is a transition.** -/
theorem step_transition {s s' : Loader} {a : Action} (h : s.step a = some s') :
    Transition s s' := by
  cases a with
  | cancel => exact (Option.some.inj h) ▸ .cancel
  | start =>
    simp only [step, startStep] at h
    split at h <;> rename_i hs
    · split_ifs at h with hc
      exact (Option.some.inj h) ▸ .wake hs hc
    · exact (Option.some.inj h) ▸ .closeConnPerf hs
    · exact (Option.some.inj h) ▸ .closeHttpPerf hs
    · exact (Option.some.inj h) ▸ .closeEvents hs
    · cases h
  | check r =>
    simp only [step] at h
    split at h <;> rename_i hr
    · exact (Option.some.inj h) ▸ .check r hr
    · cases h
  | read r res =>
    simp only [step] at h
    split at h <;> rename_i hr
    · exact readStep_transition hr h
    · cases h
  | send r =>
    simp only [step] at h
    split at h <;> rename_i evt hr
    · split_ifs at h with hc hl
      · exact (Option.some.inj h) ▸ .sendClosed r evt hr hc
      · exact (Option.some.inj h) ▸ .deliver r evt hr (by simpa using hc) hl
    · cases h
  | done r =>
    simp only [step] at h
    split at h <;> rename_i evt hr
    · split_ifs at h with hc
      exact (Option.some.inj h) ▸ .done r evt hr hc
    · cases h
  | receive =>
    simp only [step] at h
    split at h
    · exact (Option.some.inj h) ▸ .receive _ _ ‹_›
    · cases h

/-! ## The invariant -/

/-- What every reachable state satisfies: `Close` has gone as far as `Start` has, and only after
`ctx` was done; the buffer is within its capacity; and only a closed channel has made a loop
panic. -/
structure Inv (s : Loader) : Prop where
  ctxDone : 0 < s.start.rank → s.ctxDone = true
  connPerfClosed : s.connPerfClosed = decide (2 ≤ s.start.rank)
  httpPerfClosed : s.httpPerfClosed = decide (3 ≤ s.start.rank)
  eventsClosed : s.eventsClosed = decide (4 ≤ s.start.rank)
  capacity : s.events.length ≤ eventsCapacity
  panicked : ∀ r, s.pc r = .panicked → s.eventsClosed = true

theorem inv_init : Inv init :=
  ⟨nofun, rfl, rfl, rfl, Nat.zero_le _, fun r h => by cases r <;> cases h⟩

/-- A decode loop's move keeps the invariant, unless it panics on an open channel. -/
theorem Inv.setPc {s : Loader} (hi : Inv s) (r : Reader) {p : ReaderPc}
    (hp : p = .panicked → s.eventsClosed = true) : Inv (s.setPc r p) := by
  refine ⟨by simpa using hi.ctxDone, by simpa using hi.connPerfClosed,
    by simpa using hi.httpPerfClosed, by simpa using hi.eventsClosed, by simpa using hi.capacity,
    fun r' h => ?_⟩
  simp only [pc_setPc, eventsClosed_setPc] at h ⊢
  split_ifs at h
  · exact hp h
  · exact hi.panicked r' h

theorem Inv.transition {s s' : Loader} (hi : Inv s) (ht : Transition s s') : Inv s' := by
  obtain ⟨hctx, hconn, hhttp, hev, hcap, hpan⟩ := hi
  cases ht with
  | cancel => exact ⟨fun _ => rfl, hconn, hhttp, hev, hcap, hpan⟩
  | wake hs hc | closeConnPerf hs | closeHttpPerf hs | closeEvents hs =>
    simp only [hs, StartPc.rank] at hctx hconn hhttp hev
    refine ⟨fun _ => ?_, by simp [StartPc.rank, hconn], by simp [StartPc.rank, hhttp],
      by simp [StartPc.rank, hev], hcap, fun r h => by simp [hpan r h]⟩
    first | exact hc | exact hctx (by decide)
  | check r _ =>
    exact Inv.setPc ⟨hctx, hconn, hhttp, hev, hcap, hpan⟩ r (by split_ifs <;> nofun)
  | readFailed r _ | readSkipped r _ _ | readDecoded r _ _ _ | done r _ _ _ =>
    exact Inv.setPc ⟨hctx, hconn, hhttp, hev, hcap, hpan⟩ r nofun
  | sendClosed r _ _ hc => exact Inv.setPc ⟨hctx, hconn, hhttp, hev, hcap, hpan⟩ r fun _ => hc
  | deliver r evt _ _ hl =>
    have h' := Inv.setPc ⟨hctx, hconn, hhttp, hev, hcap, hpan⟩ r (p := .top) nofun
    refine ⟨h'.1, h'.2, h'.3, h'.4, ?_, h'.6⟩
    simp only [List.length_append, List.length_singleton]
    omega
  | receive evt rest he =>
    exact ⟨hctx, hconn, hhttp, hev, (Nat.le_succ _).trans (by simpa [he] using hcap), hpan⟩

/-- **Every reachable state satisfies the invariant.** -/
theorem Reachable.inv {s : Loader} (h : Reachable s) : Inv s := by
  induction h with
  | init => exact inv_init
  | step _ hs ih => exact ih.transition (step_transition hs)

/-- `Close` closes the channel last: only once `ctx` is done and both perf readers are closed. -/
theorem closed_after_cancel {s : Loader} (h : Reachable s) (hc : s.eventsClosed = true) :
    s.ctxDone = true ∧ ∀ r, s.perfClosed r = true := by
  have hi := h.inv
  have hr : 4 ≤ s.start.rank := by simpa [hi.eventsClosed] using hc
  exact ⟨hi.ctxDone (by omega), fun r => by
    cases r <;> simp [perfClosed, hi.connPerfClosed, hi.httpPerfClosed] <;> omega⟩

/-! ## After the channel is closed -/

/-- A decode loop that holds no event, once the channel, `ctx` and its perf reader are closed. -/
def Quiet (s : Loader) (r : Reader) : Prop :=
  s.eventsClosed = true ∧ s.ctxDone = true ∧ s.perfClosed r = true ∧
    (s.pc r = .top ∨ s.pc r = .reading ∨ s.pc r = .returned)

/-- A quiet loop stays quiet: at the top it sees `ctx` done, in `Read` it gets the error of the
closed reader, and either way it returns. -/
theorem Quiet.transition {s s' : Loader} {r : Reader} (hq : Quiet s r) (ht : Transition s s') :
    Quiet s' r := by
  obtain ⟨hc, hd, hp, hpc⟩ := hq
  cases ht with
  | cancel | wake | closeConnPerf | closeHttpPerf | closeEvents | receive =>
    cases r <;> simp_all [Quiet, pc, perfClosed]
  | check r' h' | readFailed r' h' | readSkipped r' h' _ | readDecoded r' _ h' _
  | sendClosed r' _ h' _ | done r' _ h' _ =>
    refine ⟨by simpa using hc, by simpa using hd, by simpa using hp, ?_⟩
    simp only [pc_setPc]
    split_ifs with hr
    · subst hr
      simp_all
    · exact hpc
  | deliver r' _ h' _ _ =>
    have hr : r ≠ r' := by rintro rfl; simp_all
    cases r <;> cases r' <;> simp_all [Quiet, pc, perfClosed, setPc]

/-- `s'` is reached from `s` by some interleaving of actions. -/
def Steps : Loader → Loader → Prop := Relation.ReflTransGen fun s s' => ∃ a, s.step a = some s'

/-- **A decode loop that holds no event when the channel is closed never sends on it.**  From a
reachable state with the channel closed, where the loop is at the top of its loop, in `Read`, or
returned, no interleaving makes it panic. -/
theorem never_panics_of_quiet {s s' : Loader} {r : Reader} (hs : Reachable s)
    (hc : s.eventsClosed = true) (hr : s.pc r = .top ∨ s.pc r = .reading ∨ s.pc r = .returned)
    (h : Steps s s') : s'.pc r ≠ .panicked := by
  obtain ⟨hd, hp⟩ := closed_after_cancel hs hc
  have hq : Quiet s' r := by
    induction h with
    | refl => exact ⟨hc, hd, hp r, hr⟩
    | tail _ hst ih => exact ih.transition (step_transition hst.choose_spec)
  rcases hq.2.2.2 with h | h | h <;> rw [h] <;> nofun

/-! ## A send after `close(l.events)` -/

/-- From a state in which `Start` still waits and a decode loop holds an event: the cancellation,
the steps of `Close` up to `close(l.events)`, and the `select` choosing its send case. -/
theorem runActions_send_after_close {s : Loader} (hw : s.start = .waiting) {r : Reader}
    {evt : Event} (hr : s.pc r = .sending evt) :
    ∃ s', runActions s [.cancel, .start, .start, .start, .start, .send r] = some s' ∧
      s'.eventsClosed = true ∧ s'.pc r = .panicked := by
  cases r <;> simp only [pc] at hr <;>
    simp only [runActions, step, hw, hr, startStep, pc, setPc, Option.bind_some, Option.some_bind,
      ↓reduceIte, Option.some.injEq, exists_eq_left', and_self]

/-- A zero connection record, padded to the length the check expects. -/
def zeroConnRecord : PerfRecord := ⟨encodeConnRecord ⟨0, 0, 0, 0, 0, 0, 0, 0, 0, 0⟩ ++ [0, 0, 0, 0], 0⟩

/-- **A decode loop can send on the closed channel.**  `readConnEvents` decodes a record; `ctx` is
cancelled; `Start` returns from `<-ctx.Done()` and `Close` closes both perf readers and then
`l.events`; the loop's `select` finds both of its cases ready and picks the send, which panics. -/
theorem send_on_closed_events :
    ∃ s, Reachable s ∧ s.eventsClosed = true ∧ s.pc .conn = .panicked := by
  have hdec : Reader.conn.sample zeroConnRecord = some (.connection (connEventToModel
      ⟨0, 0, 0, 0, 0, 0, 0, 0, 0, 0⟩)) := by
    simp [Reader.sample, zeroConnRecord, connSample_append]
  have h₁ : runActions init [.check .conn, .read .conn (.record zeroConnRecord)] =
      some (init.setPc .conn (.sending (.connection (connEventToModel
        ⟨0, 0, 0, 0, 0, 0, 0, 0, 0, 0⟩)))) := by
    simp [runActions, step, readStep, hdec, init, pc, setPc, perfClosed]
  obtain ⟨s', h₂, hc, hp⟩ := runActions_send_after_close (s := init.setPc .conn _) rfl
    (r := .conn) rfl
  exact ⟨s', reachable_of_runActions (reachable_of_runActions .init h₁) h₂, hc, hp⟩

end Loader

end Ebpf
end Nefi
