/-
What holds between any two calls of the driver.

What is reported is judged by a monitor over the log.  `Inv` relates the device and the
pending calls to the monitor's state; there are only six shapes that the pending calls
can have.
-/
import Gxfp.Driver.Machine
import Gxfp.Library.Monitor

namespace Gxfp

open Monitor FpiDeviceGxfp

/-! ### The monitor -/

/-- How far a `gxfp_deactivate` has come. -/
inductive Deactivation
  | idle
  | called
  | answered
  deriving DecidableEq, Repr

structure TaskMonitor where
  /-- The task of an activation that has not been answered. -/
  waiting : Option (Option Nat)
  deactivation : Deactivation
  /-- There has been a deactivation since the last activation. -/
  quiet : Bool
  deriving DecidableEq, Repr

namespace TaskMonitor

def start : TaskMonitor := ⟨none, .idle, false⟩

def see (mon : TaskMonitor) : DriverEvent → Option TaskMonitor
  | .activate task =>
    if mon.waiting = none ∧ mon.deactivation = .idle then
      some { mon with waiting := some task, quiet := false }
    else none
  | .activateComplete _ => if mon.waiting = none then none else some { mon with waiting := none }
  | .deactivate =>
    if mon.deactivation = .idle then some { mon with deactivation := .called, quiet := true }
    else none
  | .deactivateComplete =>
    if mon.deactivation = .called then some { mon with deactivation := .answered } else none
  | .deactivateReturn =>
    if mon.deactivation = .answered then some { mon with deactivation := .idle } else none
  | .fingerStatus _ | .imageCaptured | .sessionError _ => if mon.quiet then none else some mon

end TaskMonitor

/-! ### The invariant -/

/-- What more is known of the state that a running machine is in.  It holds of every state
that a machine starts in. -/
structure Place where
  holds : Nat → SsmHandler → Nat → Prop
  start : ∀ m handler, holds m handler 0

/-- Nothing is known. -/
def Place.anywhere : Place := ⟨fun _ _ _ => True, fun _ _ => trivial⟩

namespace FpiDeviceGxfp

/-- Machine `m` has been started and has not finished. -/
def Runs (dev : FpiDeviceGxfp) (m : Nat) : Prop :=
  ∃ ssm, dev.ssms m = some ssm ∧ ssm.completed = false

/-- Machine `m` has finished and has not been freed. -/
def Stopped (dev : FpiDeviceGxfp) (m : Nat) : Prop :=
  ∃ ssm, dev.ssms m = some ssm ∧ ssm.completed = true

/-- An action that captures images is going on. -/
structure Busy (dev : FpiDeviceGxfp) : Prop where
  capturing : dev.capturing = true
  returning : dev.returning = false

/-- The machines; the only one that runs is the task. -/
structure Heap (dev : FpiDeviceGxfp) (Q : Place) : Prop where
  made : ∀ m ssm, dev.ssms m = some ssm → m < dev.nextSsm ∧ ssm.Plain
  one : ∀ m, dev.Runs m → dev.taskSsm = some m ∧ dev.taskKind ≠ .none
  place : ∀ m ssm, dev.ssms m = some ssm → ssm.completed = false →
    Q.holds m ssm.handler ssm.curState

/-- The device has been activated, and nothing deactivates it. -/
structure Active (dev : FpiDeviceGxfp) (mon : TaskMonitor) : Prop where
  busy : dev.Busy
  deactivating : dev.deactivating = false
  sent : dev.deactivateCompleteSent = false
  state : dev.state ≠ .deactivating
  quiet : mon.quiet = false

/-- The device is being activated. -/
structure Activating (dev : FpiDeviceGxfp) (mon : TaskMonitor) : Prop where
  busy : dev.Busy
  deactivating : dev.deactivating = false
  sent : dev.deactivateCompleteSent = false
  state : dev.state = .activating
  quiet : mon.quiet = false
  active : dev.active = false
  minutiae : dev.minutiaeScanActive = false

/-- The flags, while nothing is being cancelled. -/
structure Flags (dev : FpiDeviceGxfp) (mon : TaskMonitor) : Prop where
  closing : dev.closing = false
  active : dev.active = true → dev.Active mon
  minutiae : dev.minutiaeScanActive = true →
    dev.Busy ∧ (dev.active = true ∨ dev.deactivating = true)
  activating : dev.taskKind = .activate → dev.Activating mon
  task : dev.taskKind ≠ .none → dev.taskKind ≠ .activate → dev.active = true
  waiting : mon.waiting = if dev.taskKind = .activate then some dev.taskSsm else none

/-- No task is tracked. -/
structure NoTask (dev : FpiDeviceGxfp) : Prop where
  ssm : dev.taskSsm = none
  kind : dev.taskKind = .none

/-- The device is being deactivated and its task has been stopped. -/
structure Cancelled (dev : FpiDeviceGxfp) (mon : TaskMonitor) : Prop where
  busy : dev.Busy
  closing : dev.closing = false
  active : dev.active = true
  deactivating : dev.deactivating = true
  sent : dev.deactivateCompleteSent = false
  state : dev.state = .deactivating
  deactivation : mon.deactivation = .called
  waiting : mon.waiting = none

/-- The device is being closed. -/
structure Closing (dev : FpiDeviceGxfp) (mon : TaskMonitor) : Prop where
  noTask : dev.NoTask
  active : dev.active = false
  minutiae : dev.minutiaeScanActive = false
  deactivation : mon.deactivation = .idle
  waiting : mon.waiting = none

/-- All that is left to do is to free machines that have finished. -/
def Frees (dev : FpiDeviceGxfp) (calls : List PendingCall) : Prop :=
  ∀ call ∈ calls, ∃ m, call = .ssmFree m ∧ m < dev.nextSsm ∧ ¬ dev.Runs m

/-- Nothing but the main loop, or a handler of the task, starts anything. -/
structure Settled (dev : FpiDeviceGxfp) (Q : Place) (calls : List PendingCall)
    (mon : TaskMonitor) : Prop where
  heap : dev.Heap Q
  flags : dev.Flags mon
  task : dev.NoTask ∨ ∃ m, dev.taskSsm = some m ∧ dev.Runs m
  idle : mon.deactivation = .idle
  frees : dev.Frees calls

end FpiDeviceGxfp

/-- The shapes of the pending calls, each with what holds in it. -/
inductive Inv (Q : Place) : FpiDeviceGxfp → List PendingCall → TaskMonitor → Prop
  | settled {dev calls mon} (settled : dev.Settled Q calls mon) : Inv Q dev calls mon
  /-- The task's handler is called. -/
  | handler {dev calls mon m} (settled : dev.Settled Q calls mon) (task : dev.taskSsm = some m)
      (runs : dev.Runs m) : Inv Q dev (.handler m :: calls) mon
  /-- The task has finished. -/
  | finished {dev calls mon m error} (heap : dev.Heap Q) (flags : dev.Flags mon)
      (task : dev.taskSsm = some m) (kind : dev.taskKind ≠ .none) (stopped : dev.Stopped m)
      (idle : mon.deactivation = .idle) (frees : dev.Frees calls) :
      Inv Q dev (.taskFinished m error :: .ssmFree m :: calls) mon
  /-- The task has been stopped by `gxfp_deactivate`. -/
  | cancelled {dev calls mon m error} (heap : dev.Heap Q) (state : dev.Cancelled mon)
      (task : dev.taskSsm = some m) (stopped : dev.Stopped m) (frees : dev.Frees calls) :
      Inv Q dev (.taskFinished m error :: .ssmFree m :: .deactivateReturn :: calls) mon
  /-- `gxfp_deactivate` is about to return. -/
  | answered {dev before calls mon} (heap : dev.Heap Q) (flags : dev.Flags mon) (task : dev.NoTask)
      (answered : mon.deactivation = .answered) (first : dev.Frees before)
      (frees : dev.Frees calls) : Inv Q dev (before ++ .deactivateReturn :: calls) mon
  | closing {dev mon} (heap : dev.Heap Q) (state : dev.Closing mon) : Inv Q dev [.imgCloseRest] mon

/-- The effect's reports are accepted, and with its calls ahead of `calls` the invariant holds. -/
def Effect.Leads (e : Effect) (Q : Place) (calls : List PendingCall) (mon : TaskMonitor) : Prop :=
  ∃ mon', watch TaskMonitor.see mon e.log = some mon' ∧ Inv Q e.dev (e.calls ++ calls) mon'

section Effects

variable {Q : Place} {dev : FpiDeviceGxfp} {mon mon' : TaskMonitor} {calls : List PendingCall}
  {e : Effect}

theorem Effect.Leads.of_inv (h : Inv Q dev calls mon) : (Effect.only dev).Leads Q calls mon :=
  ⟨mon, rfl, h⟩

theorem Effect.Leads.seen {event : DriverEvent} (hsee : mon.see event = some mon')
    (h : e.Leads Q calls mon') : (e.seen event).Leads Q calls mon := by
  obtain ⟨mon'', hwatch, hinv⟩ := h
  refine ⟨mon'', ?_, hinv⟩
  show watch _ mon (event :: e.log) = _
  rw [watch_cons, hsee]
  exact hwatch

theorem Effect.Leads.andThen {call : PendingCall} (h : e.Leads Q (call :: calls) mon) :
    (e.andThen call).Leads Q calls mon := by
  obtain ⟨mon', hwatch, hinv⟩ := h
  refine ⟨mon', hwatch, ?_⟩
  show Inv Q e.dev (e.calls ++ [call] ++ calls) mon'
  rw [List.append_assoc]
  exact hinv

end Effects

/-! ### What the parts of the invariant depend on -/

section Frames

variable {Q : Place} {dev dev' : FpiDeviceGxfp} {mon : TaskMonitor} {calls : List PendingCall}
  {m : Nat}
  {ssm : FpiSsm}

theorem FpiDeviceGxfp.Heap.frame (h : dev.Heap Q)
    (hsame : dev' = { dev' with
      ssms := dev.ssms, nextSsm := dev.nextSsm
      taskSsm := dev.taskSsm, taskKind := dev.taskKind }) : dev'.Heap Q := by
  rw [hsame]
  exact ⟨h.made, h.one, h.place⟩

/-- The flags that `Flags` reads are the same. -/
theorem FpiDeviceGxfp.Flags.frame (h : dev.Flags mon)
    (hsame : dev' = { dev with
      ssms := dev'.ssms, nextSsm := dev'.nextSsm, taskDeadline := dev'.taskDeadline
      capturedImage := dev'.capturedImage, fingerPresent := dev'.fingerPresent
      enrollStage := dev'.enrollStage, actionError := dev'.actionError, isOpen := dev'.isOpen
      cancelled := dev'.cancelled, cancelQueued := dev'.cancelQueued }) : dev'.Flags mon := by
  rw [hsame]
  have hbusy : dev.Busy → FpiDeviceGxfp.Busy { dev with
      ssms := dev'.ssms, nextSsm := dev'.nextSsm, taskDeadline := dev'.taskDeadline
      capturedImage := dev'.capturedImage, fingerPresent := dev'.fingerPresent
      enrollStage := dev'.enrollStage, actionError := dev'.actionError, isOpen := dev'.isOpen
      cancelled := dev'.cancelled, cancelQueued := dev'.cancelQueued } :=
    fun hb => ⟨hb.capturing, hb.returning⟩
  refine ⟨h.closing, fun ha => ?_, fun hm => ⟨hbusy (h.minutiae hm).1, (h.minutiae hm).2⟩,
    fun hk => ?_, h.task, h.waiting⟩
  · have hactive := h.active ha
    exact ⟨hbusy hactive.busy, hactive.deactivating, hactive.sent, hactive.state, hactive.quiet⟩
  · have ha := h.activating hk
    exact ⟨hbusy ha.busy, ha.deactivating, ha.sent, ha.state, ha.quiet, ha.active, ha.minutiae⟩

/-- The machines and the task are the same. -/
theorem FpiDeviceGxfp.Settled.withFlags (h : dev.Settled Q calls mon) (hflags : dev'.Flags mon)
    (hsame : dev' = { dev' with
      ssms := dev.ssms, nextSsm := dev.nextSsm
      taskSsm := dev.taskSsm, taskKind := dev.taskKind }) : dev'.Settled Q calls mon := by
  refine ⟨h.heap.frame hsame, hflags, ?_, h.idle, ?_⟩
  · rw [hsame]
    rcases h.task with hnone | htask
    · exact Or.inl ⟨hnone.ssm, hnone.kind⟩
    · exact Or.inr htask
  · rw [hsame]
    exact h.frees

/-- A machine that is not the task, or makes a step, does not change what is freed. -/
theorem FpiDeviceGxfp.Frees.update (h : dev.Frees calls)
    (hruns : ssm.completed = false → dev.Runs m) :
    FpiDeviceGxfp.Frees { dev with ssms := Function.update dev.ssms m (some ssm) } calls := by
  intro call hcall
  obtain ⟨m', rfl, hlt, hnot⟩ := h call hcall
  refine ⟨m', rfl, hlt, ?_⟩
  rintro ⟨ssm', hssm', hrun'⟩
  by_cases hm : m' = m
  · subst hm
    simp only [Function.update_self, Option.some.injEq] at hssm'
    subst hssm'
    exact hnot (hruns hrun')
  · simp only [Function.update_of_ne hm] at hssm'
    exact hnot ⟨ssm', hssm', hrun'⟩

theorem FpiDeviceGxfp.Heap.update (h : dev.Heap Q) (hlt : m < dev.nextSsm) (hplain : ssm.Plain)
    (hruns : ssm.completed = false → dev.taskSsm = some m ∧ dev.taskKind ≠ .none)
    (hplace : ssm.completed = false → Q.holds m ssm.handler ssm.curState) :
    FpiDeviceGxfp.Heap { dev with ssms := Function.update dev.ssms m (some ssm) } Q := by
  constructor
  · intro m' ssm' hssm'
    by_cases hm : m' = m
    · subst hm
      simp only [Function.update_self, Option.some.injEq] at hssm'
      subst hssm'
      exact ⟨hlt, hplain⟩
    · simp only [Function.update_of_ne hm] at hssm'
      exact h.made m' ssm' hssm'
  · rintro m' ⟨ssm', hssm', hrun'⟩
    by_cases hm : m' = m
    · subst hm
      simp only [Function.update_self, Option.some.injEq] at hssm'
      subst hssm'
      exact hruns hrun'
    · simp only [Function.update_of_ne hm] at hssm'
      exact h.one m' ⟨ssm', hssm', hrun'⟩
  · intro m' ssm' hssm' hrun'
    by_cases hm : m' = m
    · subst hm
      simp only [Function.update_self, Option.some.injEq] at hssm'
      subst hssm'
      exact hplace hrun'
    · simp only [Function.update_of_ne hm] at hssm'
      exact h.place m' ssm' hssm' hrun'

/-- Freeing a machine makes none run. -/
theorem FpiDeviceGxfp.runs_ssmFree {m' : Nat} (h : (dev.ssmFree m).Runs m') : dev.Runs m' := by
  obtain ⟨ssm, hssm, hrun⟩ := h
  by_cases hm : m' = m
  · subst hm
    simp [FpiDeviceGxfp.ssmFree] at hssm
  · simp only [FpiDeviceGxfp.ssmFree, Function.update_of_ne hm] at hssm
    exact ⟨ssm, hssm, hrun⟩

theorem FpiDeviceGxfp.Heap.ssmFree (h : dev.Heap Q) : (dev.ssmFree m).Heap Q := by
  constructor
  · intro m' ssm' hssm'
    by_cases hm : m' = m
    · subst hm
      simp [FpiDeviceGxfp.ssmFree] at hssm'
    · simp only [FpiDeviceGxfp.ssmFree, Function.update_of_ne hm] at hssm'
      exact h.made m' ssm' hssm'
  · exact fun m' hruns => h.one m' (runs_ssmFree hruns)
  · intro m' ssm' hssm' hrun'
    by_cases hm : m' = m
    · subst hm
      simp [FpiDeviceGxfp.ssmFree] at hssm'
    · simp only [FpiDeviceGxfp.ssmFree, Function.update_of_ne hm] at hssm'
      exact h.place m' ssm' hssm' hrun'

theorem FpiDeviceGxfp.Frees.ssmFree (h : dev.Frees calls) : (dev.ssmFree m).Frees calls := by
  intro call hcall
  obtain ⟨m', rfl, hlt, hnot⟩ := h call hcall
  exact ⟨m', rfl, hlt, fun hruns => hnot (runs_ssmFree hruns)⟩

theorem FpiDeviceGxfp.Frees.nil : dev.Frees [] := by
  intro call hcall
  cases hcall

theorem FpiDeviceGxfp.Frees.cons (h : dev.Frees calls) (hlt : m < dev.nextSsm)
    (hnot : ¬ dev.Runs m) : dev.Frees (.ssmFree m :: calls) := by
  intro call hcall
  rcases List.mem_cons.mp hcall with rfl | hcall
  · exact ⟨m, rfl, hlt, hnot⟩
  · exact h call hcall

theorem FpiDeviceGxfp.Stopped.not_runs (h : dev.Stopped m) : ¬ dev.Runs m := by
  obtain ⟨ssm, hssm, hstopped⟩ := h
  rintro ⟨ssm', hssm', hruns⟩
  rw [hssm] at hssm'
  cases hssm'
  rw [hstopped] at hruns
  cases hruns

theorem FpiDeviceGxfp.Stopped.lt (h : dev.Stopped m) (heap : dev.Heap Q) : m < dev.nextSsm := by
  obtain ⟨ssm, hssm, -⟩ := h
  exact (heap.made m ssm hssm).1

end Frames

end Gxfp
