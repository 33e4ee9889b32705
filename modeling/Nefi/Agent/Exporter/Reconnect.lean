import Mathlib.Data.Rat.Floor

/-!
# The exporter's reconnect loop: dials, waits and the backoff

`Exporter.Start` loops: it checks `ctx`, dials (`connect`), and on a failed dial waits
`time.After(backoff)` (or returns if `ctx` is done first) and doubles the backoff up to
`maxReconnectBackoff`.  On a successful dial it resets the backoff and runs `flushLoop` until that
returns; then it closes the connection and goes round again, straight to the next dial.

`flushLoop` returns on `ctx.Done()`, after a last flush, with `ctx.Err()`, and on a tick whose
`flush` fails.  `flush` fails only when a stream is open and `Send` fails, and `connect` leaves
`e.stream` nil (the stream is to be opened "when the generated code is available").  So in this
revision `flushLoop` returns only once `ctx` is done, `Start` then returns at the top of its loop,
and the redial after a broken stream, which would not wait, is never taken
(`redial_after_break`).

## What is modelled

`StartState` is `Start`'s program counter and backoff, the two fields it resets (`e.conn`,
`e.stream`), whether `ctx` is done, and a ghost log of what can be observed: each dial and its
outcome, each wait that ran to its end with its duration, and each broken stream.  `step` is one
action (`Action`): a cancellation, a dial with its outcome, the timer, a `select` taking
`ctx.Done()`, or a tick of `flushLoop` with the result `Send` would have.  What a tick does to the
queue is the subject of `Queue` and is left out here.

`time.Duration` is a count of nanoseconds, and the backoff's `float64` arithmetic is rational
arithmetic (`nextBackoff`): every backoff is an integer of at most `2 * 30e9 < 2^53`, exact as a
`float64`, and converting a non-negative integral `float64` to a `Duration` keeps it.

## Results

`Backoff` is the purpose of the backoff as an automaton over the log: after a failed dial or a
broken stream, the next dial must come after a wait, and the `k`-th wait since the last successful
dial lasts `min(initialReconnectBackoff * 2^k, maxReconnectBackoff)`.

* `Inv.step`: one step keeps the invariant tying `Start`'s state to the automaton's (the backoff is
  the scheduled wait, the automaton waits for a wait exactly while `Start` does), with no stream
  ever open; `Reachable.inv` extends it to every run.
* `dials_wait_backoff`: the log of every run is accepted.
* `success_is_last_dial`: after a successful dial `Start` never dials again.
-/

namespace Nefi
namespace Exporter

/-- `initialReconnectBackoff`: 500ms, in nanoseconds. -/
def initialReconnectBackoff : Nat := 500000000

/-- `maxReconnectBackoff`: 30s, in nanoseconds. -/
def maxReconnectBackoff : Nat := 30000000000

/-- `time.Duration(math.Min(float64(backoff)*2, float64(maxReconnectBackoff)))`. -/
def nextBackoff (backoff : Nat) : Nat :=
  ⌊min ((backoff : ℚ) * 2) (maxReconnectBackoff : ℚ)⌋₊

theorem nextBackoff_eq (backoff : Nat) : nextBackoff backoff = min (backoff * 2) maxReconnectBackoff := by
  have h : min ((backoff : ℚ) * 2) (maxReconnectBackoff : ℚ) =
      ((min (backoff * 2) maxReconnectBackoff : ℕ) : ℚ) := by
    push_cast
    rfl
  rw [nextBackoff, h, Nat.floor_natCast]

/-- The wait the schedule prescribes after `k` waits since the last successful dial. -/
def scheduledBackoff (k : Nat) : Nat := min (initialReconnectBackoff * 2 ^ k) maxReconnectBackoff

theorem nextBackoff_scheduledBackoff (k : Nat) :
    nextBackoff (scheduledBackoff k) = scheduledBackoff (k + 1) := by
  rw [nextBackoff_eq, scheduledBackoff, scheduledBackoff, pow_succ, ← Nat.mul_assoc]
  generalize initialReconnectBackoff * 2 ^ k = x
  omega

/-- What can be observed of `Start`. -/
inductive Obs where
  /-- `connect` returned, with a nil error exactly when `ok`. -/
  | dial (ok : Bool)
  /-- `time.After(d)` fired. -/
  | wait (d : Nat)
  /-- `flushLoop` returned a `Send` error. -/
  | streamBroken
  deriving DecidableEq, Repr

/-- Where `Start` is. -/
inductive StartPc where
  /-- At the top of the loop: the `select` on `ctx.Done()` with a `default` case, then the dial. -/
  | top
  /-- In the `select` on `time.After(backoff)` and `ctx.Done()`, after a failed dial. -/
  | waiting
  /-- In `flushLoop`. -/
  | flushing
  /-- Returned. -/
  | returned
  deriving DecidableEq, Repr

/-- `Start`'s state, the two connection fields, whether `ctx` is done, and the log. -/
structure StartState where
  pc : StartPc
  backoff : Nat
  conn : Bool
  stream : Bool
  ctxDone : Bool
  log : List Obs
  deriving DecidableEq, Repr

namespace StartState

/-- `Start` called: `backoff := initialReconnectBackoff`, no connection. -/
def init : StartState := ⟨.top, initialReconnectBackoff, false, false, false, []⟩

/-- `closeConn`. -/
def closeConn (s : StartState) : StartState := { s with conn := false, stream := false }

/-- One action. -/
inductive Action where
  /-- The agent's context is cancelled. -/
  | cancel
  /-- At the top of the loop with `ctx` not done, `connect` dials and returns. -/
  | connect (ok : Bool)
  /-- The `select` after a failed dial takes `time.After(backoff)`. -/
  | timer
  /-- A `select` takes `ctx.Done()`: at the top of the loop, after a failed dial, or in
  `flushLoop`. -/
  | done
  /-- The ticker of `flushLoop` fires; `sendOk` is what `Send` returns if a stream is open. -/
  | tick (sendOk : Bool)

/-- One step of `Start`, `none` when the action cannot run. -/
def step (s : StartState) : Action → Option StartState
  | .cancel => some { s with ctxDone := true }
  | .connect ok =>
    if s.pc = .top ∧ s.ctxDone = false then
      if ok then
        some { s with
          pc := .flushing, conn := true, stream := false
          backoff := initialReconnectBackoff, log := s.log ++ [.dial true] }
      else some { s with pc := .waiting, log := s.log ++ [.dial false] }
    else none
  | .timer =>
    if s.pc = .waiting then
      some { s with pc := .top, backoff := nextBackoff s.backoff, log := s.log ++ [.wait s.backoff] }
    else none
  | .done =>
    if s.ctxDone then
      match s.pc with
      | .top => some { s.closeConn with pc := .returned }
      | .waiting => some { s with pc := .returned }
      | .flushing => some { s.closeConn with pc := .top }
      | .returned => none
    else none
  | .tick sendOk =>
    if s.pc = .flushing then
      if s.stream ∧ !sendOk then some { s.closeConn with pc := .top, log := s.log ++ [.streamBroken] }
      else some s
    else none

/-- The states some run of `Start` reaches. -/
inductive Reachable : StartState → Prop where
  | init : Reachable init
  | step {s s' : StartState} {a : Action} : Reachable s → step s a = some s' → Reachable s'

/-- A run of actions, `none` when one of them cannot run. -/
def runActions : StartState → List Action → Option StartState
  | s, [] => some s
  | s, a :: as => (step s a).bind (runActions · as)

theorem reachable_of_runActions {s s' : StartState} {acts : List Action} (hs : Reachable s)
    (h : runActions s acts = some s') : Reachable s' := by
  induction acts generalizing s with
  | nil => cases h; exact hs
  | cons a as ih =>
    obtain ⟨s₁, h₁, h₂⟩ := Option.bind_eq_some.mp h
    exact ih (hs.step h₁) h₂

/-- Everything one step can do. -/
inductive Transition (s : StartState) : StartState → Prop where
  | cancel : Transition s { s with ctxDone := true }
  | dialOk : s.pc = .top → s.ctxDone = false →
      Transition s { s with
        pc := .flushing, conn := true, stream := false
        backoff := initialReconnectBackoff, log := s.log ++ [.dial true] }
  | dialFailed : s.pc = .top → s.ctxDone = false →
      Transition s { s with pc := .waiting, log := s.log ++ [.dial false] }
  | timer : s.pc = .waiting →
      Transition s
        { s with pc := .top, backoff := nextBackoff s.backoff, log := s.log ++ [.wait s.backoff] }
  | returnTop : s.ctxDone = true → s.pc = .top → Transition s { s.closeConn with pc := .returned }
  | returnWaiting : s.ctxDone = true → s.pc = .waiting → Transition s { s with pc := .returned }
  | flushLoopDone : s.ctxDone = true → s.pc = .flushing →
      Transition s { s.closeConn with pc := .top }
  | streamBroken : s.pc = .flushing → s.stream = true →
      Transition s { s.closeConn with pc := .top, log := s.log ++ [.streamBroken] }
  | tick : s.pc = .flushing → Transition s s

theorem step_transition {s s' : StartState} {a : Action} (h : step s a = some s') :
    Transition s s' := by
  cases a with
  | cancel => cases h; exact .cancel
  | connect ok =>
    simp only [step] at h
    split_ifs at h with hpc hok
    · cases h; exact .dialOk hpc.1 hpc.2
    · cases h; exact .dialFailed hpc.1 hpc.2
  | timer =>
    simp only [step] at h
    split_ifs at h with hpc
    cases h; exact .timer hpc
  | done =>
    simp only [step] at h
    split_ifs at h with hctx
    cases hpc : s.pc <;> simp only [hpc, Option.some.injEq, reduceCtorEq] at h <;> subst h
    · exact .returnTop hctx hpc
    · exact .returnWaiting hctx hpc
    · exact .flushLoopDone hctx hpc
  | tick sendOk =>
    simp only [step] at h
    split_ifs at h with hpc hs
    · cases h; exact .streamBroken hpc hs.1
    · cases h; exact .tick hpc

end StartState

/-! ## What the backoff is for -/

/-- The state of the backoff automaton: whether a wait is due (the last dial failed or the stream
broke, and no wait has followed), and the number of waits since the last successful dial. -/
structure Backoff where
  pending : Bool
  waits : Nat
  deriving DecidableEq, Repr

namespace Backoff

/-- Before the first dial. -/
def init : Backoff := ⟨false, 0⟩

/-- One observation: a dial is refused while a wait is due; a wait must last the scheduled time. -/
def step (q : Backoff) : Obs → Option Backoff
  | .dial ok => if q.pending then none else some (if ok then ⟨false, 0⟩ else ⟨true, q.waits⟩)
  | .wait d => if d = scheduledBackoff q.waits then some ⟨false, q.waits + 1⟩ else none
  | .streamBroken => some ⟨true, q.waits⟩

/-- A log in which every dial after a failure or a break waits first, and every wait lasts the
scheduled time. -/
def accepts (log : List Obs) : Bool := (log.foldlM step init).isSome

theorem foldlM_append_singleton {log : List Obs} {q : Backoff} (h : log.foldlM step init = some q)
    (o : Obs) : (log ++ [o]).foldlM step init = step q o := by
  simp [h]

end Backoff

/-! ## Every run follows the schedule -/

namespace StartState

/-- The invariant of reachable states. -/
structure Inv (s : StartState) : Prop where
  stream_eq : s.stream = false
  spec : ∃ q, s.log.foldlM Backoff.step Backoff.init = some q ∧
    s.backoff = scheduledBackoff q.waits ∧ (q.pending = true → s.pc = .waiting ∨ s.pc = .returned)
  after_success : Obs.dial true ∈ s.log →
    s.pc = .flushing ∨ (s.pc = .top ∧ s.ctxDone = true) ∨ s.pc = .returned

theorem inv_init : Inv init := ⟨rfl, ⟨Backoff.init, rfl, rfl, fun h => absurd h (by decide)⟩, nofun⟩

/-- **One step keeps the invariant.** -/
theorem Inv.step {s s' : StartState} {a : Action} (hi : Inv s) (h : step s a = some s') : Inv s' := by
  obtain ⟨hs, ⟨q, hq, hb, hp⟩, ha⟩ := hi
  have ready (hpc : s.pc = .top) : q.pending = false := by
    cases hqp : q.pending
    · rfl
    · rcases hp hqp with h | h <;> simp [hpc] at h
  have before_success (hm : Obs.dial true ∈ s.log) :
      s.pc ≠ .waiting ∧ (s.pc = .top → s.ctxDone = true) := by
    rcases ha hm with h | h | h <;> simp_all
  cases step_transition h with
  | cancel =>
    exact ⟨hs, ⟨q, hq, hb, hp⟩, fun hm => by rcases ha hm with h | ⟨h, -⟩ | h <;> simp [h]⟩
  | dialOk hpc _ =>
    refine ⟨rfl, ⟨⟨false, 0⟩, ?_, rfl, nofun⟩, fun _ => .inl rfl⟩
    rw [Backoff.foldlM_append_singleton hq]
    simp [Backoff.step, ready hpc]
  | dialFailed hpc hctx =>
    refine ⟨hs, ⟨⟨true, q.waits⟩, ?_, hb, fun _ => .inl rfl⟩, fun hm => ?_⟩
    · rw [Backoff.foldlM_append_singleton hq]
      simp [Backoff.step, ready hpc]
    · simp only [List.mem_append, List.mem_singleton, Obs.dial.injEq, reduceCtorEq, or_false] at hm
      simpa [hctx] using (before_success hm).2 hpc
  | timer hpc =>
    refine ⟨hs, ⟨⟨false, q.waits + 1⟩, ?_, ?_, nofun⟩, fun hm => ?_⟩
    · rw [Backoff.foldlM_append_singleton hq]
      simp [Backoff.step, hb]
    · rw [hb, nextBackoff_scheduledBackoff]
    · simp only [List.mem_append, List.mem_singleton, reduceCtorEq, or_false] at hm
      exact absurd hpc (before_success hm).1
  | returnTop => exact ⟨rfl, ⟨q, hq, hb, fun _ => .inr rfl⟩, fun _ => .inr (.inr rfl)⟩
  | returnWaiting => exact ⟨hs, ⟨q, hq, hb, fun _ => .inr rfl⟩, fun _ => .inr (.inr rfl)⟩
  | flushLoopDone hctx hpc =>
    refine ⟨rfl, ⟨q, hq, hb, fun hqp => ?_⟩, fun _ => .inr (.inl ⟨rfl, hctx⟩)⟩
    rcases hp hqp with h | h <;> simp [hpc] at h
  | streamBroken _ hst => simp [hs] at hst
  | tick => exact ⟨hs, ⟨q, hq, hb, hp⟩, ha⟩

theorem Reachable.inv {s : StartState} (h : Reachable s) : Inv s := by
  induction h with
  | init => exact inv_init
  | step _ hstep ih => exact ih.step hstep

/-- **Every dial after a failed dial or a broken stream waits the current backoff first, and the
successive waits since the last successful dial are `min(500ms * 2^k, 30s)`.** -/
theorem dials_wait_backoff {s : StartState} (h : Reachable s) : Backoff.accepts s.log = true := by
  obtain ⟨q, hq, -, -⟩ := h.inv.spec
  simp [Backoff.accepts, hq]

/-- After a successful dial `Start` never dials again: `flushLoop` returns only once `ctx` is
done, and `Start` then returns. -/
theorem success_is_last_dial {s : StartState} {ok : Bool} (h : Reachable s)
    (hdial : Obs.dial true ∈ s.log) : step s (.connect ok) = none := by
  simp only [step]
  rcases h.inv.after_success hdial with h | ⟨-, h⟩ | h <;> simp [h]

/-- Were a stream open, which no run of this revision reaches (`Inv.stream_eq`), a failed `Send`
would take `Start` straight to the next dial, with no wait: the log would end in a break and a
dial, which the schedule refuses. -/
theorem redial_after_break {s : StartState} (hpc : s.pc = .flushing) (hs : s.stream = true)
    (hctx : s.ctxDone = false) (ok : Bool) :
    ((step s (.tick false)).bind (step · (.connect ok))).map log =
      some (s.log ++ [.streamBroken, .dial ok]) := by
  cases ok <;> simp [step, hpc, hs, hctx, closeConn]

/-- Two failed dials with their waits, a successful dial, and a cancellation. -/
def retryRun : StartState :=
  ⟨.returned, initialReconnectBackoff, false, false, true,
    [.dial false, .wait 500000000, .dial false, .wait 1000000000, .dial true]⟩

theorem runActions_retryRun :
    runActions init [.connect false, .timer, .connect false, .timer, .connect true, .tick true,
      .cancel, .done, .done] = some retryRun := by
  simp only [runActions, step, init, nextBackoff_eq, closeConn, retryRun]
  decide

theorem dials_wait_backoff_retryRun : Reachable retryRun ∧ Backoff.accepts retryRun.log = true :=
  have h := reachable_of_runActions Reachable.init runActions_retryRun
  ⟨h, dials_wait_backoff h⟩

end StartState

end Exporter
end Nefi
