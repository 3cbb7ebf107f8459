/-
The driver and what the state machines ask of it.

The functions of `fpi-ssm.c` assert with `BUG_ON` how they are to be called: not on a
machine that is complete, and not while an action of the machine is delayed.  Inside a
task the driver keeps to that.  What it does not look at is a delayed action when the
image device deactivates it from outside: `gxfp_cancel_task` fails the machine at once,
although its retry is still to come.  A run breaks an assertion exactly if that happens.
-/
import Gxfp.Driver.Tasks
import Mathlib.Data.List.Induction

namespace Gxfp

open Monitor FpiDeviceGxfp

/-! ### Machines -/

namespace FpiSsm

variable {m : FpiSsm} {r : FpiSsm × SsmNext}

/-- A machine that may make a step: it runs, and nothing of it is delayed. -/
structure Ready (m : FpiSsm) : Prop where
  plain : m.Plain
  runs : m.completed = false
  timeout : m.timeout = none
  bounded : m.curState < m.nrStates

/-- A step in which no assertion fails. -/
structure Quiet (m : FpiSsm) (r : FpiSsm × SsmNext) : Prop where
  bugs : r.1.bugs = m.bugs
  bounded : r.1.completed = false → r.1.curState < r.1.nrStates
  handler : r.2 = .handler → r.1.timeout = none

theorem Ready.markCompleted (h : m.Ready) : m.Quiet m.markCompleted := by
  rw [markCompleted_plain h.plain.cleanup, h.runs, h.timeout]
  exact ⟨rfl, nofun, nofun⟩

theorem Ready.markFailed (h : m.Ready) (error : GError) : m.Quiet (m.markFailed error) := by
  rw [markFailed_plain h.plain h.runs, h.timeout]
  exact ⟨rfl, nofun, nofun⟩

/-- A state that the machine has, or the end of it. -/
theorem Ready.enterState (h : m.Ready) {state : Nat} (hstate : state ≤ m.nrStates) :
    m.Quiet (m.enterState state) := by
  unfold FpiSsm.enterState
  dsimp only
  by_cases hend : state = m.nrStates
  · rw [if_pos hend, markCompleted_plain (m := { m with timeout := none, curState := state })
      h.plain.cleanup, h.runs]
    exact ⟨rfl, nofun, nofun⟩
  · rw [if_neg hend]
    exact ⟨rfl, fun _ => Nat.lt_of_le_of_ne hstate hend, fun _ => rfl⟩

theorem Ready.nextState (h : m.Ready) : m.Quiet m.nextState := by
  have heq : m.nextState = m.enterState (m.curState + 1) := by
    show ((m.bugOn m.completed).bugOn m.timeout.isSome).enterState (m.curState + 1) = _
    rw [h.runs, h.timeout]
    rfl
  rw [heq]
  exact h.enterState h.bounded

theorem Ready.retryState (h : m.Ready) : m.Quiet (m.jumpToStateDelayed m.curState) := by
  have hbound : decide (m.nrStates < m.curState) = false :=
    decide_eq_false (Nat.not_lt.mpr (Nat.le_of_lt h.bounded))
  have hbugs : (m.jumpToStateDelayed m.curState).1.bugs = m.bugs := by
    show m.bugs + (decide (m.nrStates < m.curState)).toNat + m.completed.toNat +
      m.timeout.isSome.toNat = m.bugs
    rw [hbound, h.runs, h.timeout]
    rfl
  exact ⟨hbugs, fun _ => h.bounded, nofun⟩

/-- The delayed action is no longer delayed when it is done. -/
theorem Plain.onTimeout_quiet (h : m.Plain) (hrun : m.completed = false)
    (hbound : m.curState < m.nrStates) : m.Quiet (m.onTimeoutJumpToState m.curState) := by
  have hready : Ready { m with timeout := none } :=
    ⟨⟨h.cleanup, h.error, fun _ => rfl, nofun⟩, hrun, rfl, hbound⟩
  have hquiet := hready.enterState (Nat.le_of_lt hbound)
  have heq : m.onTimeoutJumpToState m.curState =
      FpiSsm.enterState { m with timeout := none } m.curState := by
    show (FpiSsm.bugOn (decide (m.nrStates < m.curState))
      (FpiSsm.bugOn m.completed { m with timeout := none })).enterState m.curState = _
    rw [hrun, decide_eq_false (Nat.not_lt.mpr (Nat.le_of_lt hbound))]
    rfl
  rw [heq]
  exact ⟨hquiet.bugs, hquiet.bounded, hquiet.handler⟩

/-- A delayed action is lost with the machine, which is what `BUG_ON` is there for. -/
theorem Plain.markFailed_bugs (h : m.Plain) (hrun : m.completed = false)
    (htimeout : m.timeout.isSome = true) (error : GError) :
    (m.markFailed error).1.bugs = m.bugs + 1 := by
  rw [markFailed_plain h hrun, htimeout]
  rfl

end FpiSsm

/-! ### Effects -/

namespace FpiDeviceGxfp

/-- No assertion has failed in a machine. -/
def Unbroken (dev : FpiDeviceGxfp) : Prop := ∀ m ssm, dev.ssms m = some ssm → ssm.bugs = 0

/-- No assertion has failed, and every machine that runs is in one of its states. -/
structure Sane (dev : FpiDeviceGxfp) : Prop where
  bugs : dev.Unbroken
  bounded : ∀ m ssm, dev.ssms m = some ssm → ssm.completed = false → ssm.curState < ssm.nrStates

/-- The task, if there is one, may be stopped. -/
def TaskReady (dev : FpiDeviceGxfp) : Prop :=
  ∀ m ssm, dev.taskSsm = some m → dev.ssms m = some ssm → ssm.Ready

end FpiDeviceGxfp

/-- The device is sane, and a machine whose handler is called has nothing delayed. -/
structure Effect.Sane (e : Effect) : Prop where
  device : e.dev.Sane
  handler : ∀ m ssm, .handler m ∈ e.calls → e.dev.ssms m = some ssm → ssm.timeout = none

namespace FpiDeviceGxfp

variable {dev dev' : FpiDeviceGxfp} {m : Nat}

theorem Sane.frame (h : dev.Sane) (hsame : dev'.ssms = dev.ssms) : dev'.Sane := by
  refine ⟨fun m ssm hssm => ?_, fun m ssm hssm => ?_⟩
  · rw [hsame] at hssm
    exact h.bugs m ssm hssm
  · rw [hsame] at hssm
    exact h.bounded m ssm hssm

theorem Sane.only (h : dev.Sane) : (Effect.only dev).Sane :=
  ⟨h, fun _ _ hcall => absurd hcall List.not_mem_nil⟩

theorem Sane.update (h : dev.Sane) {ssm : FpiSsm} (hbugs : ssm.bugs = 0)
    (hbound : ssm.completed = false → ssm.curState < ssm.nrStates) :
    Sane { dev with ssms := Function.update dev.ssms m (some ssm) } := by
  constructor
  · intro m' ssm' hssm'
    by_cases hm : m' = m
    · subst hm
      simp only [Function.update_self, Option.some.injEq] at hssm'
      exact hssm' ▸ hbugs
    · simp only [Function.update_of_ne hm] at hssm'
      exact h.bugs m' ssm' hssm'
  · intro m' ssm' hssm'
    by_cases hm : m' = m
    · subst hm
      simp only [Function.update_self, Option.some.injEq] at hssm'
      exact hssm' ▸ hbound
    · simp only [Function.update_of_ne hm] at hssm'
      exact h.bounded m' ssm' hssm'

theorem Sane.ssmFree (h : dev.Sane) : (dev.ssmFree m).Sane := by
  have hold : ∀ m' ssm', (dev.ssmFree m).ssms m' = some ssm' → dev.ssms m' = some ssm' := by
    intro m' ssm' hssm'
    by_cases hm : m' = m
    · subst hm
      simp [FpiDeviceGxfp.ssmFree] at hssm'
    · simpa only [FpiDeviceGxfp.ssmFree, Function.update_of_ne hm] using hssm'
  exact ⟨fun m' ssm' hssm' => h.bugs m' ssm' (hold m' ssm' hssm'),
    fun m' ssm' hssm' => h.bounded m' ssm' (hold m' ssm' hssm')⟩

/-- What a machine does in which no assertion fails. -/
theorem Sane.ssmNext (h : dev.Sane) {r : FpiSsm × SsmNext} (hbugs : r.1.bugs = 0)
    (hbound : r.1.completed = false → r.1.curState < r.1.nrStates)
    (hhandler : r.2 = .handler → r.1.timeout = none) : (dev.ssmNext m r).Sane := by
  have hupdate := h.update (m := m) hbugs hbound
  unfold FpiDeviceGxfp.ssmNext
  dsimp only
  split
  · exact hupdate.only
  · rename_i hnext
    refine ⟨hupdate, fun m' ssm' hcall hssm' => ?_⟩
    simp only [List.mem_singleton, PendingCall.handler.injEq] at hcall
    subst hcall
    simp only [Function.update_self, Option.some.injEq] at hssm'
    exact hssm' ▸ hhandler hnext
  · refine ⟨hupdate, fun m' ssm' hcall _ => ?_⟩
    simp at hcall

theorem Sane.ssmDo (h : dev.Sane) {f : FpiSsm → FpiSsm × SsmNext}
    (hstep : ∀ ssm, dev.ssms m = some ssm → ssm.Quiet (f ssm)) : (dev.ssmDo m f).Sane := by
  unfold FpiDeviceGxfp.ssmDo
  cases hssm : dev.ssms m with
  | none => exact h.only
  | some ssm =>
      have hquiet := hstep ssm hssm
      exact h.ssmNext (hquiet.bugs.trans (h.bugs m ssm hssm)) hquiet.bounded hquiet.handler

end FpiDeviceGxfp

theorem Effect.Sane.seen {e : Effect} (h : e.Sane) (event : DriverEvent) : (e.seen event).Sane :=
  ⟨h.device, h.handler⟩

theorem Effect.Sane.andThen {e : Effect} (h : e.Sane) {call : PendingCall}
    (hcall : ∀ m, call ≠ .handler m) : (e.andThen call).Sane := by
  refine ⟨h.device, fun m ssm hmem hssm => ?_⟩
  rcases List.mem_append.mp hmem with hmem | hmem
  · exact h.handler m ssm hmem hssm
  · exact absurd (List.mem_singleton.mp hmem).symm (hcall m)

namespace FpiDeviceGxfp

variable {dev dev' : FpiDeviceGxfp} {m : Nat}

/-! ### The driver's functions -/

/-- A new machine is in its first state. -/
theorem Sane.startTask (h : dev.Sane) (handler : SsmHandler) {nrStates : Nat}
    (hpos : 0 < nrStates) (kind : TaskKind) (deadline : Bool) :
    (dev.startTask handler nrStates kind deadline).Sane := by
  unfold FpiDeviceGxfp.startTask gxfpTrackTask
  have hsame : Sane { dev with
      nextSsm := dev.nextSsm + 1, taskSsm := some dev.nextSsm, taskKind := kind
      taskDeadline := deadline } := h.frame rfl
  exact hsame.ssmNext rfl (fun _ => hpos) fun _ => rfl

theorem Sane.gxfpStartWait (h : dev.Sane) (kind : TaskKind) : (dev.gxfpStartWait kind).Sane := by
  unfold FpiDeviceGxfp.gxfpStartWait
  split
  · exact h.only
  · exact h.startTask .wait (by decide) kind false

theorem Sane.gxfpStartCapture (h : dev.Sane) : dev.gxfpStartCapture.Sane := by
  unfold FpiDeviceGxfp.gxfpStartCapture
  split
  · exact h.only
  · exact h.startTask .capture (by decide) .capture true

theorem Sane.changeState (h : dev.Sane) (state : ImageDeviceState) :
    (dev.changeState state).Sane := by
  have hset : Sane { dev with state } := h.frame rfl
  unfold FpiDeviceGxfp.changeState
  cases state with
  | awaitFingerOn => exact hset.gxfpStartWait .waitDown
  | capture => exact hset.gxfpStartCapture
  | awaitFingerOff => exact hset.gxfpStartWait .waitUp
  | inactive => exact hset.only
  | deactivating => exact hset.only
  | activating => exact hset.only
  | idle => exact hset.only

theorem Sane.actionComplete (h : dev.Sane) : dev.actionComplete.Sane := by
  unfold FpiDeviceGxfp.actionComplete
  split
  · exact h
  · exact h.frame rfl

theorem Sane.maybeCompleteAction (h : dev.Sane) (error : Option GError) :
    (dev.maybeCompleteAction error).Sane := by
  obtain ⟨actionError, returning, cancelQueued, heq, -⟩ := maybeCompleteAction_eq dev error
  rw [heq]
  exact h.frame rfl

theorem Sane.enrollMaybeAwaitFingerOn (h : dev.Sane) : dev.enrollMaybeAwaitFingerOn.Sane := by
  unfold FpiDeviceGxfp.enrollMaybeAwaitFingerOn
  split
  · exact h.only
  · exact h.changeState _

theorem Sane.activateComplete (h : dev.Sane) (error : Option GError) :
    (dev.activateComplete error).Sane := by
  refine Effect.Sane.seen ?_ _
  split
  · exact h.only
  · split
    · exact h.actionComplete.only
    · have hset : Sane { dev with active := true, state := .idle } := h.frame rfl
      exact hset.changeState .awaitFingerOn

theorem Sane.deactivateComplete (h : dev.Sane) : dev.deactivateComplete.Sane := by
  refine Effect.Sane.seen ?_ _
  split
  · exact h.only
  · have hset : Sane { dev with
        active := false, fingerPresent := false, state := .inactive } := h.frame rfl
    exact (hset.maybeCompleteAction none).only

/-- **A task is stopped** without an action of it being delayed. -/
theorem Sane.gxfpCancelTask (h : dev.Sane) (hready : dev.TaskReady) : dev.gxfpCancelTask.Sane := by
  unfold FpiDeviceGxfp.gxfpCancelTask
  split
  · rename_i m htask
    exact h.ssmDo fun ssm hssm => (hready m ssm htask hssm).markFailed .cancelled
  · split
    · exact h.only
    · have hset : Sane { dev with deactivateCompleteSent := true } := h.frame rfl
      exact hset.deactivateComplete

theorem Sane.imageDeviceDeactivate (h : dev.Sane)
    (hready : dev.active = true → dev.TaskReady) : dev.imageDeviceDeactivate.Sane := by
  unfold FpiDeviceGxfp.imageDeviceDeactivate
  split
  · exact h.only
  · rename_i hon
    rw [not_or, not_not] at hon
    have hset : Sane { dev with state := .deactivating, deactivating := true } := h.frame rfl
    have hreturn : ∀ m, PendingCall.deactivateReturn ≠ .handler m := nofun
    exact ((hset.gxfpCancelTask (hready hon.1)).andThen hreturn).seen .deactivate

/-- What is called while no task is tracked. -/
theorem TaskReady.of_none (h : dev.taskSsm = none) : dev.TaskReady := by
  intro m ssm htask
  rw [h] at htask
  cases htask

theorem Sane.reportSessionError (h : dev.Sane) (htask : dev.taskSsm = none) (error : GError) :
    (dev.reportSessionError error).Sane := by
  refine Effect.Sane.seen ?_ _
  split
  · exact h.activateComplete _
  · split
    · exact h.only
    · split
      · exact h.only
      · obtain ⟨actionError, returning, cancelQueued, hdone, -⟩ :=
          maybeCompleteAction_eq dev (some error)
        refine (h.maybeCompleteAction _).imageDeviceDeactivate fun _ => ?_
        rw [hdone]
        exact TaskReady.of_none htask

theorem Sane.reportFingerStatus (h : dev.Sane) (htask : dev.taskSsm = none) (present : Bool) :
    (dev.reportFingerStatus present).Sane := by
  have hset : Sane { dev with fingerPresent := present } := h.frame rfl
  have hidle : Sane { dev with fingerPresent := present, state := .idle } := h.frame rfl
  refine Effect.Sane.seen ?_ _
  split
  · exact h.only
  · dsimp only
    split
    · exact hset.changeState _
    · split
      · show Effect.Sane (if _ then _ else _)
        split
        · exact hidle.imageDeviceDeactivate fun _ => TaskReady.of_none htask
        · exact hidle.enrollMaybeAwaitFingerOn
      · exact hset.only

theorem Sane.reportImageCaptured (h : dev.Sane) : dev.reportImageCaptured.Sane := by
  have hset : Sane { dev with minutiaeScanActive := true } := h.frame rfl
  refine Effect.Sane.seen ?_ _
  split
  · exact h.only
  · exact hset.changeState _

/-- **The callback** finds its task tracked, and starts by letting go of it. -/
theorem Sane.gxfpTaskFinished (h : dev.Sane) (htask : dev.taskSsm = some m)
    (error : Option GError) : (dev.gxfpTaskFinished m error).Sane := by
  have hset : Sane { dev with taskSsm := none, taskKind := .none, taskDeadline := false } :=
    h.frame rfl
  have hsent : Sane { dev with
      taskSsm := none, taskKind := .none, taskDeadline := false
      deactivateCompleteSent := true } := h.frame rfl
  have htaken : Sane { dev with
      taskSsm := none, taskKind := .none, taskDeadline := false
      capturedImage := false } := h.frame rfl
  unfold FpiDeviceGxfp.gxfpTaskFinished
  dsimp only
  rw [if_pos htask]
  split
  · exact hset.only
  · split
    · split
      · exact hset.only
      · exact hsent.deactivateComplete
    · split
      · split
        · exact hset.activateComplete _
        · exact hset.reportSessionError rfl _
      · split
        · exact hset.activateComplete none
        · exact hset.reportFingerStatus rfl true
        · exact hset.reportFingerStatus rfl false
        · split
          · exact htaken.reportImageCaptured
          · exact hset.only
        · exact hset.only

/-! ### Handlers -/

/-- The machine whose handler is called. -/
def HandlerReady (dev : FpiDeviceGxfp) (m : Nat) : Prop :=
  ∀ ssm, dev.ssms m = some ssm → ssm.Ready

theorem HandlerReady.markFailed (h : dev.HandlerReady m) (hsane : dev.Sane) (error : GError) :
    (dev.ssmDo m fun ssm => ssm.markFailed error).Sane :=
  hsane.ssmDo fun ssm hssm => (h ssm hssm).markFailed error

theorem HandlerReady.markCompleted (h : dev.HandlerReady m) (hsane : dev.Sane) :
    (dev.ssmDo m FpiSsm.markCompleted).Sane :=
  hsane.ssmDo fun ssm hssm => (h ssm hssm).markCompleted

theorem HandlerReady.nextOrFail (h : dev.HandlerReady m) (hsane : dev.Sane) (io : IoResult) :
    (dev.nextOrFail m io).Sane := by
  cases io with
  | done => exact hsane.ssmDo fun ssm hssm => (h ssm hssm).nextState
  | again => exact h.markFailed hsane .io
  | failed error => exact h.markFailed hsane error

theorem HandlerReady.nextOrRetry (h : dev.HandlerReady m) (hsane : dev.Sane) (io : IoResult) :
    (dev.nextOrRetry m io).Sane := by
  cases io with
  | done => exact hsane.ssmDo fun ssm hssm => (h ssm hssm).nextState
  | again => exact hsane.ssmDo fun ssm hssm => (h ssm hssm).retryState
  | failed error => exact h.markFailed hsane error

/-- **A handler** that finds its machine ready breaks no assertion. -/
theorem HandlerReady.callHandler (h : dev.HandlerReady m) (hsane : dev.Sane) (io : IoOutcome) :
    (dev.callHandler m io).Sane := by
  have himage : Sane { dev with capturedImage := true } := hsane.frame rfl
  have hready : HandlerReady { dev with capturedImage := true } m := h
  unfold FpiDeviceGxfp.callHandler
  split
  · exact hsane.only
  · rename_i ssm _
    split
    · unfold gxfpActivateSsmHandler
      split
      · exact h.markFailed hsane _
      · split
        · exact h.nextOrRetry hsane _
        · exact h.nextOrFail hsane _
        · exact h.nextOrRetry hsane _
        · exact h.nextOrFail hsane _
        · exact h.nextOrRetry hsane _
        · exact h.nextOrFail hsane _
        · exact h.markCompleted hsane
        · exact hsane.only
    · unfold gxfpWaitSsmHandler
      split
      · exact h.markFailed hsane _
      · split
        · exact h.nextOrFail hsane _
        · exact h.nextOrRetry hsane _
        · exact h.markCompleted hsane
        · exact hsane.only
    · unfold gxfpCaptureSsmHandler
      split
      · exact h.markFailed hsane _
      · split
        · split
          · exact h.markCompleted hsane
          · exact h.nextOrFail hsane _
        · exact h.nextOrRetry hsane _
        · split
          · exact h.markCompleted hsane
          · split
            · exact hready.markCompleted himage
            · exact h.markFailed hsane _
            · exact h.markFailed hsane _
        · exact hsane.only

/-! ### The main loop -/

theorem Sane.gxfpActivate (h : dev.Sane) (rearm : Option GError) :
    (dev.gxfpActivate rearm).Sane := by
  have hset : Sane { dev with
      deactivating := false, deactivateCompleteSent := false, capturedImage := false } :=
    h.frame rfl
  unfold FpiDeviceGxfp.gxfpActivate
  split
  · exact h.only.seen _
  · cases rearm with
    | some error => exact (hset.activateComplete (some error)).seen _
    | none => exact (hset.startTask .activate (by decide) .activate true).seen _

theorem Sane.startCaptureAction (h : dev.Sane) (waitForFinger : Bool) (rearm : Option GError) :
    (dev.startCaptureAction waitForFinger rearm).Sane := by
  have hset : Sane { dev with enrollStage := 0, state := .activating } := h.frame rfl
  unfold FpiDeviceGxfp.startCaptureAction
  split
  · exact h.actionComplete.only
  · exact hset.gxfpActivate rearm

/-- There is no task to be cancelled when the device is closed. -/
theorem Sane.gxfpImgClose (h : dev.Sane) (htask : dev.taskSsm = none) : dev.gxfpImgClose.Sane := by
  have hset : Sane { dev with closing := true } := h.frame rfl
  have hrest : ∀ m, PendingCall.imgCloseRest ≠ .handler m := nofun
  unfold FpiDeviceGxfp.gxfpImgClose
  dsimp only
  split
  · exact hset.only.andThen hrest
  · rename_i m hsome
    exact absurd (htask.symm.trans hsome) nofun

theorem Sane.gxfpImgCloseRest (h : dev.Sane) : dev.gxfpImgCloseRest.Sane := by
  have hset : Sane { dev with
      capturedImage := false, deactivating := false, deactivateCompleteSent := false
      closing := false } := h.frame rfl
  have hclosed : Sane { dev with
      capturedImage := false, deactivating := false, deactivateCompleteSent := false
      closing := false, state := .inactive } := h.frame rfl
  refine Sane.only ?_
  split
  · exact hset
  · exact hclosed.actionComplete

/-- The image device's part of the action is over with this result of a minutiae scan. -/
def endsAction (dev : FpiDeviceGxfp) : MinutiaeResult → Bool
  | .cancelled => true
  | .unreadable => dev.currentAction = some .enroll ∧ dev.enrollStage = enrollStages
  | .noPrint error =>
    dev.currentAction ≠ some .capture ∧
      (error ≠ .retry ∨ dev.currentAction = some .enroll ∧ dev.enrollStage = enrollStages)
  | .print _ => dev.currentAction = some .enroll ∧ dev.enrollStage + 1 = enrollStages

theorem minutiaeDetected_ends {result : MinutiaeResult} (h : dev.endsAction result = true) :
    ∃ enrollStage error, dev.minutiaeDetected result =
      (maybeCompleteAction { dev with minutiaeScanActive := false, enrollStage }
        error).imageDeviceDeactivate := by
  unfold minutiaeDetected
  dsimp only
  cases result with
  | cancelled => exact ⟨dev.enrollStage, some .cancelled, rfl⟩
  | unreadable =>
      obtain ⟨henroll, hstage⟩ := of_decide_eq_true h
      have hcapture : ¬ dev.currentAction = some .capture := by
        rw [henroll]
        nofun
      refine ⟨dev.enrollStage, some .retry, ?_⟩
      dsimp only
      rw [if_neg hcapture, if_pos henroll]
      exact if_pos hstage
  | noPrint error =>
      obtain ⟨hcapture, hends⟩ := of_decide_eq_true h
      dsimp only
      rw [if_neg hcapture]
      by_cases herror : error = .retry
      · obtain ⟨henroll, hstage⟩ := hends.resolve_left fun hne => hne herror
        refine ⟨dev.enrollStage, some .retry, ?_⟩
        rw [if_neg fun hne => hne herror, if_pos henroll]
        exact if_pos hstage
      · exact ⟨dev.enrollStage, some error, if_pos herror⟩
  | print error =>
      obtain ⟨henroll, hstage⟩ := of_decide_eq_true h
      have hcapture : ¬ dev.currentAction = some .capture := by
        rw [henroll]
        nofun
      refine ⟨dev.enrollStage + 1, none, ?_⟩
      dsimp only
      rw [if_neg hcapture, if_pos henroll]
      exact if_pos hstage

/-- With a stage still to come the enrolment goes on. -/
theorem Sane.enrollDetected (h : dev.Sane) {print : Bool} (error : Option GError)
    (hnot : ¬ dev.enrollStage + print.toNat = enrollStages) :
    (dev.enrollDetected print error).Sane := by
  rw [FpiDeviceGxfp.enrollDetected]
  cases print with
  | false =>
      have hmore : ¬ dev.enrollStage = enrollStages := hnot
      rw [if_neg Bool.false_ne_true, if_neg hmore]
      exact h.enrollMaybeAwaitFingerOn
  | true =>
      have hstage : Sane { dev with enrollStage := dev.enrollStage + 1 } := h.frame rfl
      have hmore : ¬ dev.enrollStage + 1 = enrollStages := hnot
      rw [if_pos rfl]
      dsimp only
      rw [if_neg hmore]
      exact hstage.enrollMaybeAwaitFingerOn

/-- **The minutiae scan is done**, and the task may be stopped if the action is over. -/
theorem Sane.minutiaeDetected (h : dev.Sane) (result : MinutiaeResult)
    (hready : dev.active = true → dev.endsAction result = true → dev.TaskReady) :
    (dev.minutiaeDetected result).Sane := by
  by_cases hends : dev.endsAction result = true
  · obtain ⟨enrollStage, error, heq⟩ := minutiaeDetected_ends hends
    have hset : Sane { dev with minutiaeScanActive := false, enrollStage } := h.frame rfl
    obtain ⟨actionError, returning, cancelQueued, hdone, -⟩ := maybeCompleteAction_eq
      { dev with minutiaeScanActive := false, enrollStage } error
    rw [heq]
    refine (hset.maybeCompleteAction error).imageDeviceDeactivate fun hactive => ?_
    rw [hdone] at hactive ⊢
    exact hready hactive hends
  · have hset : Sane { dev with minutiaeScanActive := false } := h.frame rfl
    have hdone : ∀ error, (Effect.only
        (FpiDeviceGxfp.maybeCompleteAction { dev with minutiaeScanActive := false } error)).Sane :=
      fun error => (hset.maybeCompleteAction error).only
    unfold FpiDeviceGxfp.minutiaeDetected
    dsimp only
    cases result with
    | cancelled => exact absurd rfl hends
    | unreadable =>
        dsimp only
        split
        · exact hdone _
        · split
          · rename_i henroll
            have hnot : ¬ dev.enrollStage = enrollStages := fun hstage =>
              hends (decide_eq_true ⟨henroll, hstage⟩)
            exact hset.enrollDetected _ hnot
          · exact hdone _
    | noPrint error =>
        dsimp only
        split
        · exact hdone _
        · rename_i hcapture
          split
          · rename_i herror
            exact absurd (decide_eq_true ⟨hcapture, Or.inl herror⟩) hends
          · split
            · rename_i henroll
              have hnot : ¬ dev.enrollStage = enrollStages := fun hstage =>
                hends (decide_eq_true ⟨hcapture, Or.inr ⟨henroll, hstage⟩⟩)
              exact hset.enrollDetected _ hnot
            · exact hdone _
    | print error =>
        dsimp only
        split
        · exact hdone _
        · split
          · rename_i henroll
            have hnot : ¬ dev.enrollStage + 1 = enrollStages := fun hstage =>
              hends (decide_eq_true ⟨henroll, hstage⟩)
            exact hset.enrollDetected _ hnot
          · exact hdone _

/-- The image device is deactivated at this event, if it is active. -/
def deactivates (dev : FpiDeviceGxfp) : MainEvent → Bool
  | .cancelInIdle => dev.cancelQueued && dev.capturing
  | .minutiaeDetected result => dev.minutiaeScanActive && dev.endsAction result
  | _ => false

/-- A retry of the task is still to come. -/
def retryPending (dev : FpiDeviceGxfp) : Bool :=
  (dev.taskSsm.bind dev.ssms).any fun ssm => ssm.timeout.isSome

variable {Q : Place} {mon : TaskMonitor} {calls : List PendingCall}

/-- The task may be stopped unless a retry of it is still to come. -/
theorem Settled.taskReady (h : dev.Settled Q calls mon) (hsane : dev.Sane)
    (hretry : ¬ dev.retryPending = true) : dev.TaskReady := by
  intro m ssm htask hssm
  have hruns : ssm.completed = false := by
    rcases h.task with hnone | ⟨m', htask', ssm', hssm', hrun⟩
    · exact absurd (hnone.ssm.symm.trans htask) nofun
    · obtain rfl : m' = m := Option.some.inj (htask'.symm.trans htask)
      obtain rfl : ssm' = ssm := Option.some.inj (hssm'.symm.trans hssm)
      exact hrun
  refine ⟨(h.heap.made m ssm hssm).2, hruns, ?_, hsane.bounded m ssm hssm hruns⟩
  unfold retryPending at hretry
  rw [htask, Option.bind_some, hssm, Option.any_some] at hretry
  exact Option.not_isSome_iff_eq_none.mp hretry

/-- **What the main loop starts** breaks no assertion, unless it stops a task whose retry is
still to come. -/
theorem Settled.dispatch_sane (h : dev.Settled Q [] mon) (hsane : dev.Sane) {event : MainEvent}
    (hcalm : ¬ (dev.active = true ∧ dev.retryPending = true ∧ dev.deactivates event = true))
    {e : Effect} (he : dev.dispatch event = some e) : e.Sane := by
  have hready : dev.deactivates event = true → dev.active = true → dev.TaskReady :=
    fun hdeactivates hactive => h.taskReady hsane fun hretry =>
      hcalm ⟨hactive, hretry, hdeactivates⟩
  cases event with
  | openDevice error =>
      simp only [dispatch, fpDeviceOpen] at he
      split at he
      · cases he
      · cases he
        have hset : Sane { dev.setupTask .openDevice with
            state := .inactive, isOpen := error.isNone } := hsane.frame rfl
        exact hset.actionComplete.only
  | closeDevice =>
      simp only [dispatch, fpDeviceClose] at he
      split at he
      · cases he
      · rename_i hfree
        rw [not_or] at hfree
        cases he
        have hset : (dev.setupTask .closeDevice).Sane := hsane.frame rfl
        exact hset.gxfpImgClose (h.off (not_busy_of_isNone hfree.2)).noTask.ssm
  | startAction action waitForFinger rearm =>
      simp only [dispatch, fpDeviceStart] at he
      split at he
      · cases he
      · cases he
        have hset : (dev.setupTask action).Sane := hsane.frame rfl
        exact hset.startCaptureAction waitForFinger rearm
  | cancelInIdle =>
      simp only [dispatch, cancelInIdle] at he
      split at he
      · cases he
      · rename_i hqueued
        rw [not_not] at hqueued
        cases he
        have hset : Sane { dev with cancelQueued := false } := hsane.frame rfl
        split
        · rename_i hcapturing
          have hdeactivates : dev.deactivates .cancelInIdle = true := by
            rw [deactivates, hqueued]
            exact hcapturing
          exact hset.imageDeviceDeactivate (hready hdeactivates)
        · exact hset.only
  | timeout m =>
      simp only [dispatch, timeout] at he
      obtain ⟨ssm, hssm, hmap⟩ := Option.bind_eq_some_iff.mp he
      obtain ⟨state, hstate, rfl⟩ := Option.map_eq_some_iff.mp hmap
      have hplain := (h.heap.made m ssm hssm).2
      have hrun : ssm.completed = false := by
        rw [Bool.eq_false_iff]
        intro hcompleted
        rw [hplain.timeout hcompleted] at hstate
        cases hstate
      refine hsane.ssmDo fun ssm' hssm' => ?_
      obtain rfl : ssm = ssm' := Option.some.inj (hssm.symm.trans hssm')
      rw [hplain.retry state hstate]
      exact hplain.onTimeout_quiet hrun (hsane.bounded m ssm hssm hrun)
  | minutiaeDetected result =>
      simp only [dispatch] at he
      split at he
      · rename_i hscan
        cases he
        refine hsane.minutiaeDetected result fun hactive hends => hready ?_ hactive
        rw [deactivates, hscan]
        exact hends
      · cases he
  | returnInIdle =>
      simp only [dispatch, returnInIdle] at he
      split at he
      · cases he
      · cases he
        exact Sane.only (hsane.frame rfl)

/-! ### A task that is stopped too early -/

/-- The device is active and a retry of its task, machine `m`, is still to come. -/
structure Retrying (dev : FpiDeviceGxfp) (m : Nat) (ssm : FpiSsm) : Prop where
  active : dev.active = true
  state : dev.state ≠ .deactivating
  task : dev.taskSsm = some m
  made : dev.ssms m = some ssm
  plain : ssm.Plain
  runs : ssm.completed = false
  timeout : ssm.timeout.isSome = true

theorem Settled.retrying (h : dev.Settled Q calls mon) (hactive : dev.active = true)
    (hretry : dev.retryPending = true) : ∃ m ssm, dev.Retrying m ssm := by
  unfold retryPending at hretry
  obtain ⟨ssm, hssm, htimeout⟩ := (Option.any_eq_true _ _).mp hretry
  obtain ⟨m, htask, hssm⟩ := Option.bind_eq_some_iff.mp hssm
  have hplain := (h.heap.made m ssm hssm).2
  refine ⟨m, ssm, hactive, (h.flags.active hactive).state, htask, hssm, hplain, ?_, htimeout⟩
  rw [Bool.eq_false_iff]
  intro hcompleted
  rw [hplain.timeout hcompleted] at htimeout
  cases htimeout

/-- **An assertion fails** when the device is deactivated then. -/
theorem Retrying.imageDeviceDeactivate_breaks {ssm : FpiSsm} (h : dev.Retrying m ssm) :
    ¬ dev.imageDeviceDeactivate.dev.Unbroken := by
  intro hunbroken
  have hon : ¬ (¬ dev.active = true ∨ dev.state = .deactivating) := by
    rw [h.active]
    simpa using h.state
  have hssm : dev.imageDeviceDeactivate.dev.ssms m = some (ssm.markFailed .cancelled).1 := by
    unfold imageDeviceDeactivate
    rw [if_neg hon]
    show (gxfpCancelTask { dev with state := .deactivating, deactivating := true }).dev.ssms m = _
    unfold FpiDeviceGxfp.gxfpCancelTask
    dsimp only
    rw [h.task]
    unfold FpiDeviceGxfp.ssmDo
    dsimp only
    rw [h.made]
    unfold FpiDeviceGxfp.ssmNext
    dsimp only
    rw [FpiSsm.markFailed_plain h.plain h.runs]
    exact Function.update_self ..
  have hbugs := hunbroken m _ hssm
  rw [h.plain.markFailed_bugs h.runs h.timeout] at hbugs
  cases hbugs

theorem Retrying.dispatch_breaks {ssm : FpiSsm} (h : dev.Retrying m ssm) {event : MainEvent}
    (hdeactivates : dev.deactivates event = true) :
    ∃ e, dev.dispatch event = some e ∧ ¬ e.dev.Unbroken := by
  cases event with
  | cancelInIdle =>
      obtain ⟨hqueued, hcapturing⟩ := Bool.and_eq_true_iff.mp hdeactivates
      have hretrying : Retrying { dev with cancelQueued := false } m ssm :=
        ⟨h.active, h.state, h.task, h.made, h.plain, h.runs, h.timeout⟩
      refine ⟨_, if_neg (not_not_intro hqueued), ?_⟩
      show ¬ Unbroken (if dev.capturing = true then _ else _ : Effect).dev
      rw [if_pos hcapturing]
      exact hretrying.imageDeviceDeactivate_breaks
  | minutiaeDetected result =>
      obtain ⟨hscan, hends⟩ := Bool.and_eq_true_iff.mp hdeactivates
      obtain ⟨enrollStage, error, heq⟩ := minutiaeDetected_ends hends
      obtain ⟨actionError, returning, cancelQueued, hdone, -⟩ := maybeCompleteAction_eq
        { dev with minutiaeScanActive := false, enrollStage } error
      have hretrying : Retrying { dev with
          minutiaeScanActive := false, enrollStage, actionError, returning, cancelQueued } m ssm :=
        ⟨h.active, h.state, h.task, h.made, h.plain, h.runs, h.timeout⟩
      refine ⟨_, if_pos hscan, ?_⟩
      rw [heq, hdone]
      exact hretrying.imageDeviceDeactivate_breaks
  | openDevice error => cases hdeactivates
  | closeDevice => cases hdeactivates
  | startAction action waitForFinger rearm => cases hdeactivates
  | timeout m => cases hdeactivates
  | returnInIdle => cases hdeactivates

end FpiDeviceGxfp

/-! ### Steps and runs -/

variable {Q : Place} {dev : FpiDeviceGxfp} {mon : TaskMonitor} {calls : List PendingCall}
  {call : PendingCall} {s s' : Driver}

/-- Only the innermost call can be a handler's. -/
theorem Inv.handler_not_mem (h : Inv Q dev (call :: calls) mon) (m : Nat) :
    .handler m ∉ calls := by
  have hfrees : ∀ {calls}, dev.Frees calls → PendingCall.handler m ∉ calls := by
    intro calls frees hmem
    obtain ⟨m', hcall, -⟩ := frees _ hmem
    cases hcall
  generalize hall : call :: calls = all at h
  cases h with
  | settled settled =>
      subst hall
      exact fun hmem => hfrees settled.frees (List.mem_cons_of_mem _ hmem)
  | handler settled task runs =>
      cases hall
      exact hfrees settled.frees
  | finished heap flags task kind stopped idle frees =>
      cases hall
      simpa using hfrees frees
  | cancelled heap state task stopped frees =>
      cases hall
      simpa using hfrees frees
  | answered heap flags task answered first frees =>
      rename_i before rest
      cases before with
      | nil =>
          cases hall
          exact hfrees frees
      | cons free before =>
          cases hall
          intro hmem
          rcases List.mem_append.mp hmem with hmem | hmem
          · exact hfrees first (List.mem_cons_of_mem _ hmem)
          · exact hfrees frees (by simpa using hmem)
  | closing heap state =>
      cases hall
      exact List.not_mem_nil

/-- A task that has finished is still tracked when it calls back. -/
theorem Inv.task_of_finished {m : Nat} {error : Option GError}
    (h : Inv Q dev (.taskFinished m error :: calls) mon) : dev.taskSsm = some m := by
  have hfrees : ∀ {calls}, dev.Frees calls → PendingCall.taskFinished m error ∉ calls := by
    intro calls frees hmem
    obtain ⟨m', hcall, -⟩ := frees _ hmem
    cases hcall
  generalize hall : PendingCall.taskFinished m error :: calls = all at h
  cases h with
  | settled settled => exact absurd (hall ▸ List.mem_cons_self) (hfrees settled.frees)
  | handler => cases hall
  | finished heap flags task kind stopped idle frees =>
      cases hall
      exact task
  | cancelled heap state task stopped frees =>
      cases hall
      exact task
  | answered heap flags task answered first frees =>
      rename_i before rest
      cases before with
      | nil => cases hall
      | cons free before =>
          cases hall
          exact absurd List.mem_cons_self (hfrees first)
  | closing => cases hall

/-- A machine that is freed has nothing delayed. -/
theorem Inv.timeout_of_ssmFree {m : Nat} {ssm : FpiSsm} (h : Inv Q dev (.ssmFree m :: calls) mon)
    (hssm : dev.ssms m = some ssm) : ssm.timeout = none := by
  have hfree : dev.Heap Q → ¬ dev.Runs m → ssm.timeout = none := by
    intro heap hnot
    refine (heap.made m ssm hssm).2.timeout ?_
    rw [← Bool.not_eq_false]
    exact fun hrun => hnot ⟨ssm, hssm, hrun⟩
  have hfrees : ∀ {calls}, dev.Frees calls → PendingCall.ssmFree m ∈ calls → ¬ dev.Runs m := by
    intro calls frees hmem
    obtain ⟨m', hcall, -, hnot⟩ := frees _ hmem
    cases hcall
    exact hnot
  generalize hall : PendingCall.ssmFree m :: calls = all at h
  cases h with
  | settled settled =>
      exact hfree settled.heap (hfrees settled.frees (hall ▸ List.mem_cons_self))
  | handler => cases hall
  | finished => cases hall
  | cancelled => cases hall
  | answered heap flags task answered first frees =>
      rename_i before rest
      cases before with
      | nil => cases hall
      | cons free before =>
          cases hall
          exact hfree heap (hfrees first List.mem_cons_self)
  | closing => cases hall

/-- No assertion has failed, and if a handler is called next its machine has nothing delayed. -/
structure Driver.Sane (s : Driver) : Prop where
  device : s.dev.Sane
  handler : ∀ m calls ssm, s.calls = .handler m :: calls → s.dev.ssms m = some ssm →
    ssm.timeout = none

theorem Driver.Sane.add {e : Effect} (h : e.Sane) (hcalls : ∀ m, .handler m ∉ calls) :
    (s.add e calls).Sane := by
  refine ⟨h.device, fun m rest ssm hhead hssm => ?_⟩
  have hmem : PendingCall.handler m ∈ e.calls ++ calls := by
    have hhead' : e.calls ++ calls = .handler m :: rest := hhead
    rw [hhead']
    exact List.mem_cons_self
  rcases List.mem_append.mp hmem with hmem | hmem
  · exact h.handler m ssm hmem hssm
  · exact absurd hmem (hcalls m)

/-- The device is deactivated at this step while a retry of its task is still to come. -/
def Driver.interrupted (s : Driver) : DriverInput → Bool
  | .main event =>
    s.calls.isEmpty && s.dev.active && s.dev.retryPending && s.dev.deactivates event
  | .call _ | .cancel => false

theorem Inv.perform_sane (h : Inv Q s.dev (call :: calls) mon) (hsane : s.Sane)
    (hcalls : s.calls = call :: calls) (io : IoOutcome) : (s.dev.perform io call).Sane := by
  cases call with
  | handler m =>
      obtain ⟨settled, htask, hruns⟩ := h.handler_settled
      refine HandlerReady.callHandler (fun ssm hssm => ?_) hsane.device io
      obtain ⟨ssm', hssm', hrun⟩ := hruns
      obtain rfl : ssm' = ssm := Option.some.inj (hssm'.symm.trans hssm)
      exact ⟨(settled.heap.made m _ hssm).2, hrun, hsane.handler m calls _ hcalls hssm,
        hsane.device.bounded m _ hssm hrun⟩
  | taskFinished m error => exact hsane.device.gxfpTaskFinished h.task_of_finished error
  | ssmFree m => exact hsane.device.ssmFree.only
  | deactivateReturn => exact hsane.device.only.seen _
  | imgCloseRest => exact hsane.device.gxfpImgCloseRest

theorem driverStep_sane {input : DriverInput} (hok : s.Ok Q) (hsane : s.Sane)
    (hcalm : ¬ s.interrupted input = true) (hstep : driverStep s input = some s') : s'.Sane := by
  obtain ⟨mon, -, hinv⟩ := hok
  cases input with
  | call io =>
      rw [driverStep] at hstep
      cases hcalls : s.calls with
      | nil =>
          rw [hcalls] at hstep
          cases hstep
      | cons call calls =>
          rw [hcalls] at hstep hinv
          cases hstep
          exact .add (hinv.perform_sane hsane hcalls io) hinv.handler_not_mem
  | main event =>
      rw [driverStep] at hstep
      cases hcalls : s.calls with
      | nil =>
          rw [hcalls] at hstep hinv
          obtain ⟨e, he, rfl⟩ := Option.map_eq_some_iff.mp hstep
          refine .add (hinv.settled_of_nil.dispatch_sane hsane.device (fun hstop => hcalm ?_) he)
            fun m => List.not_mem_nil
          rw [Driver.interrupted, hcalls, hstop.1, hstop.2.1, hstop.2.2]
          rfl
      | cons call calls =>
          rw [hcalls] at hstep
          cases hstep
  | cancel =>
      rw [driverStep] at hstep
      split at hstep
      · cases hstep
        have hsame : s.dev.cancel.ssms = s.dev.ssms := by
          unfold FpiDeviceGxfp.cancel
          split
          · rfl
          · rfl
        refine ⟨hsane.device.frame hsame, fun m calls ssm hhead hssm => ?_⟩
        rw [hsame] at hssm
        exact hsane.handler m calls ssm hhead hssm
      · cases hstep

/-- **A device that is deactivated too early breaks an assertion.** -/
theorem driverStep_breaks {input : DriverInput} (hok : s.Ok Q)
    (hinterrupted : s.interrupted input = true) :
    ∃ s', driverStep s input = some s' ∧ ¬ s'.dev.Unbroken := by
  obtain ⟨mon, -, hinv⟩ := hok
  cases input with
  | call io => cases hinterrupted
  | cancel => cases hinterrupted
  | main event =>
      rw [Driver.interrupted, Bool.and_eq_true_iff, Bool.and_eq_true_iff, Bool.and_eq_true_iff]
        at hinterrupted
      obtain ⟨⟨⟨hempty, hactive⟩, hretry⟩, hdeactivates⟩ := hinterrupted
      have hcalls : s.calls = [] := List.isEmpty_iff.mp hempty
      rw [hcalls] at hinv
      obtain ⟨m, ssm, hretrying⟩ := hinv.settled_of_nil.retrying hactive hretry
      obtain ⟨e, he, hbreaks⟩ := hretrying.dispatch_breaks hdeactivates
      refine ⟨s.add e [], ?_, hbreaks⟩
      rw [driverStep, hcalls]
      dsimp only
      rw [he]
      rfl

/-! ### The result -/

/-- What `fpi-ssm.c` asserts: of the machines at their steps so far, and of the one that is
freed next. -/
structure Driver.KeepsContract (s : Driver) : Prop where
  bugs : s.dev.Unbroken
  free : ∀ m calls ssm, s.calls = .ssmFree m :: calls → s.dev.ssms m = some ssm →
    ssm.timeout = none

theorem Driver.Sane.keepsContract (h : s.Sane) (hok : s.Ok Q) : s.KeepsContract := by
  obtain ⟨mon, -, hinv⟩ := hok
  refine ⟨h.device.bugs, fun m calls ssm hcalls hssm => ?_⟩
  rw [hcalls] at hinv
  exact hinv.timeout_of_ssmFree hssm

theorem driverRun_snoc (inputs : List DriverInput) (input : DriverInput) :
    driverRun (inputs ++ [input]) = (driverRun inputs).bind fun s => driverStep s input := by
  refine (watch_append ..).trans ?_
  refine congrArg _ (funext fun s => ?_)
  rw [watch_cons]
  exact Option.bind_fun_some _

/-- **Nothing is broken** in a run that the device is not deactivated too early in. -/
theorem driverRun_sane (inputs : List DriverInput)
    (hcalm : ∀ before input s, before ++ [input] <+: inputs → driverRun before = some s →
      ¬ s.interrupted input = true) (hrun : driverRun inputs = some s) : s.Sane := by
  induction inputs using List.reverseRecOn generalizing s with
  | nil =>
      cases hrun
      exact ⟨⟨nofun, nofun⟩, nofun⟩
  | append_singleton inputs input ih =>
      rw [driverRun_snoc] at hrun
      obtain ⟨before, hbefore, hstep⟩ := Option.bind_eq_some_iff.mp hrun
      refine driverStep_sane (driverRun_ok hbefore) (ih ?_ hbefore) ?_ hstep
      · exact fun before input s hbefore => hcalm before input s
          (hbefore.trans (List.prefix_append ..))
      · exact hcalm inputs input before List.prefix_rfl hbefore

/--
**When the driver keeps the contract of its state machines.**

Whatever the main loop, the user and the input and output do, no assertion of `fpi-ssm.c`
fails on the way if and only if no step deactivates the device, which is what a
cancellation and a minutiae scan that ends the action do, while a retry of its task is
still to come.
-/
theorem driverRun_keepsContract_iff (inputs : List DriverInput) :
    (∀ before s, before <+: inputs → driverRun before = some s → s.KeepsContract) ↔
      ∀ before input s, before ++ [input] <+: inputs → driverRun before = some s →
        ¬ s.interrupted input = true := by
  constructor
  · intro hkeeps before input s hbefore hrun hinterrupted
    obtain ⟨s', hstep, hbreaks⟩ := driverStep_breaks (driverRun_ok hrun) hinterrupted
    have hrun' : driverRun (before ++ [input]) = some s' := by
      rw [driverRun_snoc, hrun]
      exact hstep
    exact hbreaks (hkeeps _ s' hbefore hrun').bugs
  · intro hcalm before s hbefore hrun
    have hsane : s.Sane := driverRun_sane before
      (fun before input s hinner => hcalm before input s (hinner.trans hbefore)) hrun
    exact hsane.keepsContract (driverRun_ok hrun)

/-- A verification that is cancelled between two looks for the finger. -/
def cancelledWait : List DriverInput :=
  let io (result : IoResult) : DriverInput := .call ⟨false, result⟩
  [.main (.openDevice none), .main .returnInIdle, .main (.startAction .verify true none)] ++
    -- the activation
    List.replicate 8 (io .done) ++
    -- the finger is not there yet
    [io .done, io .again, io .done, .cancel, .main .cancelInIdle]

/-- `gxfp_cancel_task` fails a machine of which an action is delayed. -/
theorem driverRun_breaks_cancelledWait :
    ∃ s, driverRun cancelledWait = some s ∧ ¬ s.KeepsContract := by
  have hbugs : ((driverRun cancelledWait).bind fun s => s.dev.ssms 1).map FpiSsm.bugs = some 1 := by
    decide +kernel
  obtain ⟨ssm, hssm, hone⟩ := Option.map_eq_some_iff.mp hbugs
  obtain ⟨s, hrun, hssm⟩ := Option.bind_eq_some_iff.mp hssm
  refine ⟨s, hrun, fun hkeeps => ?_⟩
  rw [hkeeps.bugs 1 ssm hssm] at hone
  cases hone

end Gxfp
