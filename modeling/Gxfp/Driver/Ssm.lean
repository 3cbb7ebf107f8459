/-
The state machines of `libfprint/fpi-ssm.c`.

A machine does not run its handler or its completion callback itself here: each
function returns the machine and what it calls next, as `SsmNext`, and the caller
makes the call.  `BUG_ON` logs a message and goes on; a machine counts how often it has.

The driver's machines have no cleanup states: `fpi_ssm_new` passes the number of
states as the first of them.  Marking such a machine completed, or failed, therefore
always completes it.
-/
import Mathlib.Tactic.Common

namespace Gxfp

/-- `GError`, as far as somebody looks at its domain and code. -/
inductive GError
  | cancelled
  | timedOut
  | io
  | retry
  | general
  deriving DecidableEq, Repr

/-- Which handler a machine was made with. -/
inductive SsmHandler
  | activate
  | wait
  | capture
  deriving DecidableEq, Repr

/-- `struct _FpiSsm`; of a delayed action the state it jumps to. -/
structure FpiSsm where
  handler : SsmHandler
  nrStates : Nat
  startCleanup : Nat
  curState : Nat
  completed : Bool
  timeout : Option Nat
  error : Option GError
  /-- How many times the condition of a `BUG_ON` was true. -/
  bugs : Nat
  deriving DecidableEq, Repr

/-- What a function of a machine calls at its end. -/
inductive SsmNext
  | nothing
  | handler
  | callback (error : Option GError)
  deriving DecidableEq, Repr

namespace FpiSsm

/-- `fpi_ssm_new` -/
def new (handler : SsmHandler) (nrStates : Nat) : FpiSsm where
  handler := handler
  nrStates := nrStates
  startCleanup := nrStates
  curState := 0
  completed := true
  timeout := none
  error := none
  bugs := 0

/-- `BUG_ON` -/
def bugOn (condition : Bool) (m : FpiSsm) : FpiSsm := { m with bugs := m.bugs + condition.toNat }

/-- `fpi_ssm_start` -/
def start (m : FpiSsm) : FpiSsm × SsmNext :=
  let m := m.bugOn (!m.completed)
  ({ m with curState := 0, completed := false, error := none }, .handler)

/-- `fpi_ssm_mark_completed` -/
def markCompleted (m : FpiSsm) : FpiSsm × SsmNext :=
  let m := m.bugOn m.completed
  let m := m.bugOn m.timeout.isSome
  let m := { m with timeout := none }
  let nextState := if m.curState < m.startCleanup then m.startCleanup else m.curState + 1
  if nextState < m.nrStates then ({ m with curState := nextState }, .handler)
  else ({ m with completed := true }, .callback m.error)

/-- `fpi_ssm_mark_failed` -/
def markFailed (m : FpiSsm) (error : GError) : FpiSsm × SsmNext :=
  if m.error.isSome ∧ m.curState < m.startCleanup then (m, .nothing)
  else
    let m := if m.error.isNone then { m with error := some error } else m
    m.markCompleted

/-- How `fpi_ssm_jump_to_state` and `fpi_ssm_next_state` end. -/
def enterState (m : FpiSsm) (state : Nat) : FpiSsm × SsmNext :=
  let m := { m with timeout := none, curState := state }
  if m.curState = m.nrStates then m.markCompleted else (m, .handler)

/-- `fpi_ssm_jump_to_state` -/
def jumpToState (m : FpiSsm) (state : Nat) : FpiSsm × SsmNext :=
  let m := m.bugOn m.completed
  let m := m.bugOn (m.nrStates < state)
  let m := m.bugOn m.timeout.isSome
  m.enterState state

/-- `fpi_ssm_next_state` -/
def nextState (m : FpiSsm) : FpiSsm × SsmNext :=
  let m := m.bugOn m.completed
  let m := m.bugOn m.timeout.isSome
  m.enterState (m.curState + 1)

/-- `fpi_ssm_jump_to_state_delayed`, with `fpi_ssm_set_delayed_action_timeout`. -/
def jumpToStateDelayed (m : FpiSsm) (state : Nat) : FpiSsm × SsmNext :=
  let m := m.bugOn (m.nrStates < state)
  let m := m.bugOn m.completed
  let m := m.bugOn m.timeout.isSome
  ({ m with timeout := some state }, .nothing)

/-- `on_device_timeout_jump_to_state` -/
def onTimeoutJumpToState (m : FpiSsm) (state : Nat) : FpiSsm × SsmNext :=
  { m with timeout := none }.jumpToState state

/-! ### Machines without cleanup states -/

/-- A machine as `fpi_ssm_new` makes it and its own functions leave it.  A delayed action
tries the state again that the machine is in. -/
structure Plain (m : FpiSsm) : Prop where
  cleanup : m.startCleanup = m.nrStates
  error : m.completed = false → m.error = none
  timeout : m.completed = true → m.timeout = none
  retry : ∀ state, m.timeout = some state → state = m.curState

/-- A step of a machine that runs: it runs on, in `state`, or it is complete and calls back. -/
structure Steps (m : FpiSsm) (state : Nat) (r : FpiSsm × SsmNext) : Prop where
  plain : r.1.Plain
  handler : r.1.handler = m.handler
  next : (∃ error, r.2 = .callback error ∧ r.1.completed = true) ∨
    ((r.2 = .handler ∨ r.2 = .nothing) ∧ r.1.completed = false ∧ r.1.curState = state)

variable {m : FpiSsm}

theorem plain_start {handler : SsmHandler} {n : Nat} :
    ((new handler n).start).1.Plain ∧ ((new handler n).start).1.completed = false :=
  ⟨⟨rfl, fun _ => rfl, nofun, nofun⟩, rfl⟩

/-- **Marking a machine completed completes it.** -/
theorem markCompleted_plain (h : m.startCleanup = m.nrStates) :
    m.markCompleted =
      ({ m with
          timeout := none, completed := true
          bugs := m.bugs + m.completed.toNat + m.timeout.isSome.toNat },
        .callback m.error) := by
  have hnext : ¬ (if m.curState < m.startCleanup then m.startCleanup else m.curState + 1) <
      m.nrStates := by
    split <;> omega
  unfold markCompleted bugOn
  dsimp only
  rw [if_neg hnext]

theorem markFailed_plain (h : m.Plain) (hrun : m.completed = false) (error : GError) :
    m.markFailed error =
      ({ m with
          timeout := none, completed := true, error := some error
          bugs := m.bugs + m.timeout.isSome.toNat },
        .callback (some error)) := by
  have hnone : m.error = none := h.error hrun
  rw [markFailed, if_neg (by rw [hnone]; simp)]
  dsimp only
  rw [if_pos (by rw [hnone]; rfl)]
  refine (markCompleted_plain (m := { m with error := some error }) h.cleanup).trans ?_
  rw [hrun]
  rfl

theorem Plain.markCompleted (h : m.Plain) (state : Nat) : m.Steps state m.markCompleted := by
  rw [markCompleted_plain h.cleanup]
  exact ⟨⟨h.cleanup, nofun, fun _ => rfl, nofun⟩, rfl, Or.inl ⟨_, rfl, rfl⟩⟩

theorem Plain.markFailed (h : m.Plain) (hrun : m.completed = false) (error : GError) (state : Nat) :
    m.Steps state (m.markFailed error) := by
  rw [markFailed_plain h hrun]
  exact ⟨⟨h.cleanup, nofun, fun _ => rfl, nofun⟩, rfl, Or.inl ⟨_, rfl, rfl⟩⟩

theorem Plain.bugOn (h : m.Plain) (condition : Bool) : (m.bugOn condition).Plain :=
  ⟨h.cleanup, h.error, h.timeout, h.retry⟩

/-- What a machine does that counted more. -/
theorem Steps.of_bugOn {condition : Bool} {state : Nat} {r : FpiSsm × SsmNext}
    (h : (m.bugOn condition).Steps state r) : m.Steps state r :=
  ⟨h.plain, h.handler, h.next⟩

theorem Plain.enterState (h : m.Plain) (hrun : m.completed = false) (state : Nat) :
    m.Steps state (m.enterState state) := by
  rw [FpiSsm.enterState]
  dsimp only
  split
  · rw [markCompleted_plain (m := { m with timeout := none, curState := state }) h.cleanup]
    exact ⟨⟨h.cleanup, nofun, fun _ => rfl, nofun⟩, rfl, Or.inl ⟨_, rfl, rfl⟩⟩
  · exact ⟨⟨h.cleanup, h.error, fun _ => rfl, nofun⟩, rfl, Or.inr ⟨Or.inl rfl, hrun, rfl⟩⟩

theorem Plain.jumpToState (h : m.Plain) (hrun : m.completed = false) (state : Nat) :
    m.Steps state (m.jumpToState state) :=
  (((h.bugOn _).bugOn _).bugOn _ |>.enterState hrun state).of_bugOn.of_bugOn.of_bugOn

theorem Plain.nextState (h : m.Plain) (hrun : m.completed = false) :
    m.Steps (m.curState + 1) m.nextState :=
  ((h.bugOn _).bugOn _ |>.enterState hrun _).of_bugOn.of_bugOn

/-- The delayed action itself starts without one. -/
theorem Plain.onTimeoutJumpToState (h : m.Plain) (hrun : m.completed = false) (state : Nat) :
    m.Steps state (m.onTimeoutJumpToState state) := by
  have hplain : FpiSsm.Plain { m with timeout := none } :=
    ⟨h.cleanup, h.error, fun _ => rfl, nofun⟩
  have hsteps := hplain.jumpToState hrun state
  exact ⟨hsteps.plain, hsteps.handler, hsteps.next⟩

theorem Plain.delayed (h : m.Plain) (hrun : m.completed = false) :
    m.Steps m.curState ({ m with timeout := some m.curState }, .nothing) := by
  refine ⟨⟨h.cleanup, h.error, fun hcompleted => ?_, fun _ hstate => ?_⟩, rfl,
    Or.inr ⟨Or.inr rfl, hrun, rfl⟩⟩
  · exact absurd (hrun.symm.trans hcompleted) nofun
  · exact (Option.some.inj hstate).symm

theorem Plain.retryState (h : m.Plain) (hrun : m.completed = false) :
    m.Steps m.curState (m.jumpToStateDelayed m.curState) :=
  (((h.bugOn _).bugOn _).bugOn _ |>.delayed hrun).of_bugOn.of_bugOn.of_bugOn

end FpiSsm

end Gxfp
