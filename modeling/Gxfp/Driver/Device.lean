/-
The libfprint driver's tasks: `libfprint/drivers/gxfp.c`, under `fpi-image-device.c`.

The driver and the image device call each other, and a state machine's completion
callback calls back into both before `fpi_ssm_mark_completed` returns.  A function here
returns an `Effect`: the device, the calls that are still to be made before its caller
goes on, and what it reported on the way.  Where a function's last act is to call
another, it is the other's effect; only what has to wait for a nested call is a
`PendingCall`, namely a handler, a completion callback, and what three functions do
after one.

Input and output happen in the handlers.  What came of it is an `IoOutcome`, of which
nothing is assumed; a deadline that has passed is part of it.  Setting the sensor's
finger detection mode has no bearing on the tasks where the sources ignore its result,
and is left out there.
-/
import Gxfp.Driver.Ssm
import Mathlib.Logic.Function.Basic

namespace Gxfp

/-! ### The device -/

/-- `enum gxfp_task_kind` -/
inductive TaskKind
  | none
  | activate
  | waitDown
  | waitUp
  | capture
  deriving DecidableEq, Repr

/-- `FpiImageDeviceState` -/
inductive ImageDeviceState
  | inactive
  | activating
  | idle
  | awaitFingerOn
  | capture
  | awaitFingerOff
  | deactivating
  deriving DecidableEq, Repr

/-- `FpiDeviceAction`; `FPI_DEVICE_ACTION_NONE` is the absence of one. -/
inductive DeviceAction
  | openDevice
  | closeDevice
  | enroll
  | verify
  | identify
  | capture
  deriving DecidableEq, Repr

/-- The actions that capture images. -/
def DeviceAction.captures : DeviceAction → Bool
  | .openDevice | .closeDevice => false
  | _ => true

/-- `FpiDeviceGxfp` with what it inherits, and the machines that have been made. -/
structure FpiDeviceGxfp where
  ssms : Nat → Option FpiSsm
  nextSsm : Nat
  taskSsm : Option Nat
  taskKind : TaskKind
  /-- Whether `task_deadline_ms` is set. -/
  taskDeadline : Bool
  deactivating : Bool
  deactivateCompleteSent : Bool
  closing : Bool
  /-- Whether `captured_image` is set. -/
  capturedImage : Bool
  -- `FpImageDevicePrivate`
  active : Bool
  state : ImageDeviceState
  minutiaeScanActive : Bool
  fingerPresent : Bool
  enrollStage : Nat
  actionError : Option GError
  -- `FpDevicePrivate`
  isOpen : Bool
  currentAction : Option DeviceAction
  /-- The action has been completed, and will be returned from the main loop. -/
  returning : Bool
  cancelled : Bool
  /-- The main loop will call the class's `cancel`. -/
  cancelQueued : Bool

/-- What the driver is asked and what it answers. -/
inductive DriverEvent
  /-- `gxfp_activate`, with the task it starts. -/
  | activate (task : Option Nat)
  | activateComplete (error : Option GError)
  | deactivate
  | deactivateComplete
  /-- The return of `gxfp_deactivate`. -/
  | deactivateReturn
  | fingerStatus (present : Bool)
  | imageCaptured
  | sessionError (error : GError)
  deriving DecidableEq, Repr

/-- What is left to do in functions that wait for a nested call. -/
inductive PendingCall
  /-- `__ssm_call_handler` -/
  | handler (ssm : Nat)
  /-- The machine's callback, which is `gxfp_task_finished`. -/
  | taskFinished (ssm : Nat) (error : Option GError)
  /-- `fpi_ssm_mark_completed` behind the callback. -/
  | ssmFree (ssm : Nat)
  /-- `gxfp_deactivate` behind `gxfp_cancel_task`. -/
  | deactivateReturn
  /-- `gxfp_img_close` behind `fpi_ssm_mark_failed`. -/
  | imgCloseRest
  deriving DecidableEq, Repr

structure Effect where
  dev : FpiDeviceGxfp
  calls : List PendingCall
  log : List DriverEvent

namespace Effect

/-- Nothing but a change of the device. -/
def only (dev : FpiDeviceGxfp) : Effect := ⟨dev, [], []⟩

/-- First `e`, which leaves nothing pending that `f` would have to wait for. -/
def bind (e : Effect) (f : FpiDeviceGxfp → Effect) : Effect where
  dev := (f e.dev).dev
  calls := e.calls ++ (f e.dev).calls
  log := e.log ++ (f e.dev).log

/-- First `e`, and `call` once everything that it leaves pending is done. -/
def andThen (e : Effect) (call : PendingCall) : Effect := { e with calls := e.calls ++ [call] }

/-- The call that has the effect `e` is seen as `event`. -/
def seen (event : DriverEvent) (e : Effect) : Effect := { e with log := event :: e.log }

end Effect

namespace FpiDeviceGxfp

variable (dev : FpiDeviceGxfp)

/-! ### Machines -/

/-- Machine `m` is now `r.1`, and makes the call `r.2`. -/
def ssmNext (m : Nat) (r : FpiSsm × SsmNext) : Effect :=
  let dev := { dev with ssms := Function.update dev.ssms m (some r.1) }
  match r.2 with
  | .nothing => .only dev
  | .handler => ⟨dev, [.handler m], []⟩
  | .callback error => ⟨dev, [.taskFinished m error, .ssmFree m], []⟩

/-- A function of `fpi-ssm.c` on machine `m`. -/
def ssmDo (m : Nat) (f : FpiSsm → FpiSsm × SsmNext) : Effect :=
  match dev.ssms m with
  | none => .only dev
  | some ssm => dev.ssmNext m (f ssm)

/-- `fpi_ssm_free` -/
def ssmFree (m : Nat) : FpiDeviceGxfp := { dev with ssms := Function.update dev.ssms m none }

/-- `gxfp_track_task` -/
def gxfpTrackTask (m : Nat) (kind : TaskKind) (deadline : Bool) : FpiDeviceGxfp :=
  { dev with taskSsm := some m, taskKind := kind, taskDeadline := deadline }

/-- `fpi_ssm_new`, `gxfp_track_task` and `fpi_ssm_start`. -/
def startTask (handler : SsmHandler) (nrStates : Nat) (kind : TaskKind) (deadline : Bool) :
    Effect :=
  let m := dev.nextSsm
  let dev := { dev with nextSsm := m + 1 }
  (dev.gxfpTrackTask m kind deadline).ssmNext m (FpiSsm.new handler nrStates).start

/-! ### Changes of state -/

@[match_pattern] abbrev waitFdtSetup : Nat := 0
@[match_pattern] abbrev waitFdtEvent : Nat := 1
@[match_pattern] abbrev waitFdtDone : Nat := 2
def waitNumStates : Nat := 3

@[match_pattern] abbrev captureStart : Nat := 0
@[match_pattern] abbrev captureWait : Nat := 1
@[match_pattern] abbrev captureStore : Nat := 2
def captureNumStates : Nat := 3

/-- `gxfp_start_wait` -/
def gxfpStartWait (kind : TaskKind) : Effect :=
  if dev.taskSsm.isSome ∨ dev.deactivating then .only dev
  else dev.startTask .wait waitNumStates kind false

/-- `gxfp_start_capture` -/
def gxfpStartCapture : Effect :=
  if dev.taskSsm.isSome ∨ dev.deactivating then .only dev
  else dev.startTask .capture captureNumStates .capture true

/-- `gxfp_change_state` -/
def gxfpChangeState : ImageDeviceState → Effect
  | .awaitFingerOn => dev.gxfpStartWait .waitDown
  | .capture => dev.gxfpStartCapture
  | .awaitFingerOff => dev.gxfpStartWait .waitUp
  | .inactive | .deactivating | .activating | .idle => .only dev

/-- `fp_image_device_change_state`; a transition that is not valid is only warned about. -/
def changeState (state : ImageDeviceState) : Effect := { dev with state }.gxfpChangeState state

/-- `fpi_device_action_error` and the functions that complete an action. -/
def actionComplete : FpiDeviceGxfp :=
  if dev.currentAction.isNone then dev else { dev with returning := true, cancelQueued := false }

/-- `fp_image_device_maybe_complete_action` -/
def maybeCompleteAction (error : Option GError) : FpiDeviceGxfp :=
  let dev :=
    if error.isSome ∧ ¬ (dev.actionError.isSome ∧ dev.actionError ≠ some .retry) then
      { dev with actionError := error }
    else dev
  if dev.active ∨ dev.minutiaeScanActive then dev
  else { dev with actionError := none }.actionComplete

/-- `fp_image_device_enroll_maybe_await_finger_on` -/
def enrollMaybeAwaitFingerOn : Effect :=
  if dev.minutiaeScanActive ∨ dev.fingerPresent then .only dev else dev.changeState .awaitFingerOn

/-- The current action is one that captures images. -/
def capturing : Bool := dev.currentAction.any DeviceAction.captures

/-! ### Activating and deactivating -/

/-- `fpi_image_device_activate_complete` -/
def activateComplete (error : Option GError) : Effect :=
  .seen (.activateComplete error) <|
    if dev.active ∨ dev.state ≠ .activating ∨ ¬ dev.capturing then .only dev
    else if error.isSome then .only dev.actionComplete
    else (({ dev with active := true }).changeState .idle).bind fun dev =>
      dev.changeState .awaitFingerOn

/-- `fpi_image_device_deactivate_complete` -/
def deactivateComplete : Effect :=
  .seen .deactivateComplete <|
    if ¬ dev.active ∨ dev.state ≠ .deactivating then .only dev
    else (({ dev with active := false, fingerPresent := false }).changeState .inactive).bind
      fun dev => .only (dev.maybeCompleteAction none)

/-- `gxfp_cancel_task` -/
def gxfpCancelTask : Effect :=
  match dev.taskSsm with
  | some m => dev.ssmDo m fun ssm => ssm.markFailed .cancelled
  | none =>
    if dev.deactivateCompleteSent then .only dev
    else { dev with deactivateCompleteSent := true }.deactivateComplete

/-- `gxfp_deactivate` -/
def gxfpDeactivate : Effect :=
  .seen .deactivate ({ dev with deactivating := true }.gxfpCancelTask.andThen .deactivateReturn)

/-- `fpi_image_device_deactivate` -/
def imageDeviceDeactivate : Effect :=
  if ¬ dev.active ∨ dev.state = .deactivating then .only dev
  else (dev.changeState .deactivating).bind gxfpDeactivate

/-! ### Reports -/

/-- `fpi_image_device_session_error` -/
def reportSessionError (error : GError) : Effect :=
  .seen (.sessionError error) <|
    if ¬ dev.active ∧ dev.currentAction.isSome then dev.activateComplete (some error)
    else if dev.active ∧ error = .cancelled ∧ dev.cancelled then .only dev
    else if dev.active ∧ dev.state = .inactive then .only dev
    else (dev.maybeCompleteAction (some error)).imageDeviceDeactivate

/-- `fpi_image_device_report_finger_status` -/
def reportFingerStatus (present : Bool) : Effect :=
  .seen (.fingerStatus present) <|
    if dev.state = .inactive then .only dev
    else
      let dev := { dev with fingerPresent := present }
      if present ∧ dev.state = .awaitFingerOn then dev.changeState .capture
      else if ¬ present ∧ dev.state = .awaitFingerOff then
        (dev.changeState .idle).bind fun dev =>
          if dev.currentAction ≠ some .enroll then dev.imageDeviceDeactivate
          else dev.enrollMaybeAwaitFingerOn
      else .only dev

/-- `fpi_image_device_image_captured` -/
def reportImageCaptured : Effect :=
  .seen .imageCaptured <|
    if dev.state ≠ .capture ∨ ¬ dev.capturing then .only dev
    else { dev with minutiaeScanActive := true }.changeState .awaitFingerOff

/-- `gxfp_task_finished` -/
def gxfpTaskFinished (m : Nat) (error : Option GError) : Effect :=
  let kind := dev.taskKind
  let dev :=
    if dev.taskSsm = some m then
      { dev with taskSsm := none, taskKind := .none, taskDeadline := false }
    else dev
  if dev.closing then .only dev
  else if dev.deactivating then
    if dev.deactivateCompleteSent then .only dev
    else { dev with deactivateCompleteSent := true }.deactivateComplete
  else
    match error with
    | some error =>
      if kind = .activate then dev.activateComplete (some error) else dev.reportSessionError error
    | none =>
      match kind with
      | .activate => dev.activateComplete none
      | .waitDown => dev.reportFingerStatus true
      | .waitUp => dev.reportFingerStatus false
      | .capture =>
        if dev.capturedImage then { dev with capturedImage := false }.reportImageCaptured
        else .only dev
      | .none => .only dev

/-! ### Handlers -/

/-- What came of the input and output of a state: done, nothing there yet, or an error. -/
inductive IoResult
  | done
  | again
  | failed (error : GError)
  deriving DecidableEq, Repr

structure IoOutcome where
  /-- The deadline has passed, if there is one. -/
  expired : Bool
  result : IoResult
  deriving DecidableEq, Repr

@[match_pattern] abbrev activateTls : Nat := 0
@[match_pattern] abbrev activateFdtUpSetup : Nat := 1
@[match_pattern] abbrev activateFdtUpWait : Nat := 2
@[match_pattern] abbrev activateReferenceStart : Nat := 3
@[match_pattern] abbrev activateReferenceWait : Nat := 4
@[match_pattern] abbrev activateReferenceStore : Nat := 5
@[match_pattern] abbrev activateDone : Nat := 6
def activateNumStates : Nat := 7

/-- A state that goes on when it is done, and fails otherwise. -/
def nextOrFail (m : Nat) : IoResult → Effect
  | .done => dev.ssmDo m FpiSsm.nextState
  | .again => dev.ssmDo m fun ssm => ssm.markFailed .io
  | .failed error => dev.ssmDo m fun ssm => ssm.markFailed error

/-- A state that is tried again, with `gxfp_schedule_retry`, while nothing is there. -/
def nextOrRetry (m : Nat) : IoResult → Effect
  | .done => dev.ssmDo m FpiSsm.nextState
  | .again => dev.ssmDo m fun ssm => ssm.jumpToStateDelayed ssm.curState
  | .failed error => dev.ssmDo m fun ssm => ssm.markFailed error

/-- `gxfp_activate_ssm_handler` -/
def gxfpActivateSsmHandler (m curState : Nat) (io : IoOutcome) : Effect :=
  if dev.taskDeadline ∧ io.expired then dev.ssmDo m fun ssm => ssm.markFailed .timedOut
  else
    match curState with
    | activateTls => dev.nextOrRetry m io.result
    | activateFdtUpSetup => dev.nextOrFail m io.result
    | activateFdtUpWait => dev.nextOrRetry m io.result
    | activateReferenceStart => dev.nextOrFail m io.result
    | activateReferenceWait => dev.nextOrRetry m io.result
    | activateReferenceStore => dev.nextOrFail m io.result
    | activateDone => dev.ssmDo m FpiSsm.markCompleted
    | _ => .only dev

/-- `gxfp_wait_ssm_handler` -/
def gxfpWaitSsmHandler (m curState : Nat) (io : IoOutcome) : Effect :=
  if dev.taskDeadline ∧ io.expired then dev.ssmDo m fun ssm => ssm.markFailed .timedOut
  else
    match curState with
    | waitFdtSetup => dev.nextOrFail m io.result
    | waitFdtEvent => dev.nextOrRetry m io.result
    | waitFdtDone => dev.ssmDo m FpiSsm.markCompleted
    | _ => .only dev

/-- `gxfp_capture_ssm_handler` -/
def gxfpCaptureSsmHandler (m curState : Nat) (io : IoOutcome) : Effect :=
  if dev.taskDeadline ∧ io.expired then dev.ssmDo m fun ssm => ssm.markFailed .timedOut
  else
    match curState with
    | captureStart =>
      if dev.deactivating then dev.ssmDo m FpiSsm.markCompleted else dev.nextOrFail m io.result
    | captureWait => dev.nextOrRetry m io.result
    | captureStore =>
      if dev.deactivating then dev.ssmDo m FpiSsm.markCompleted
      else
        match io.result with
        | .done => { dev with capturedImage := true }.ssmDo m FpiSsm.markCompleted
        | .again => dev.ssmDo m fun ssm => ssm.markFailed .io
        | .failed error => dev.ssmDo m fun ssm => ssm.markFailed error
    | _ => .only dev

/-- `machine->handler` -/
def callHandler (m : Nat) (io : IoOutcome) : Effect :=
  match dev.ssms m with
  | none => .only dev
  | some ssm =>
    match ssm.handler with
    | .activate => dev.gxfpActivateSsmHandler m ssm.curState io
    | .wait => dev.gxfpWaitSsmHandler m ssm.curState io
    | .capture => dev.gxfpCaptureSsmHandler m ssm.curState io

/-! ### Opening, closing and actions -/

/-- `gxfp_activate`; `rearm` is the error of `gxfp_rearm_tls`, if there is one. -/
def gxfpActivate (rearm : Option GError) : Effect :=
  if dev.taskSsm.isSome then .seen (.activate none) (.only dev)
  else
    let dev :=
      { dev with deactivating := false, deactivateCompleteSent := false, capturedImage := false }
    match rearm with
    | some error => .seen (.activate none) (dev.activateComplete (some error))
    | none =>
      .seen (.activate (some dev.nextSsm))
        (dev.startTask .activate activateNumStates .activate true)

/-- `gxfp_img_close` behind the cancelled task, and `fpi_image_device_close_complete`. -/
def gxfpImgCloseRest : Effect :=
  let dev :=
    { dev with
      capturedImage := false, deactivating := false, deactivateCompleteSent := false
      closing := false }
  .only (if dev.active then dev else { dev with state := .inactive }.actionComplete)

/-- `gxfp_img_close` -/
def gxfpImgClose : Effect :=
  let dev := { dev with closing := true }
  match dev.taskSsm with
  | none => Effect.andThen (.only dev) .imgCloseRest
  | some m =>
    ({ dev with taskSsm := none }.ssmDo m fun ssm =>
      ssm.markFailed .cancelled).andThen .imgCloseRest

/-- `fp_image_device_start_capture_action` with `fpi_image_device_activate`. -/
def startCaptureAction (waitForFinger : Bool) (rearm : Option GError) : Effect :=
  if dev.currentAction = some .capture ∧ ¬ waitForFinger then .only dev.actionComplete
  else
    ({ dev with enrollStage := 0 }.changeState .activating).bind fun dev =>
      dev.gxfpActivate rearm

/-- What became of a minutiae scan, and of the comparison or the print it is for. -/
inductive MinutiaeResult
  | cancelled
  /-- The detection failed, which is turned into a retry. -/
  | unreadable
  /-- No print could be made of the image. -/
  | noPrint (error : GError)
  /-- A print, and the error of the comparison, if there is one. -/
  | print (error : Option GError)
  deriving DecidableEq, Repr

/-- `fp_device_get_nr_enroll_stages` -/
def enrollStages : Nat := 16

/-- The error that an action is completed with: a retry has been reported already. -/
def notRetry : Option GError → Option GError
  | some .retry => none
  | error => error

/-- The end of `fpi_image_device_minutiae_detected` for an enrolment. -/
def enrollDetected (print : Bool) (error : Option GError) : Effect :=
  let dev := if print then { dev with enrollStage := dev.enrollStage + 1 } else dev
  if dev.enrollStage = enrollStages then (dev.maybeCompleteAction error).imageDeviceDeactivate
  else dev.enrollMaybeAwaitFingerOn

/-- `fpi_image_device_minutiae_detected` -/
def minutiaeDetected (result : MinutiaeResult) : Effect :=
  let dev := { dev with minutiaeScanActive := false }
  match result with
  | .cancelled => (dev.maybeCompleteAction (some .cancelled)).imageDeviceDeactivate
  | .unreadable =>
    if dev.currentAction = some .capture then .only (dev.maybeCompleteAction (some .retry))
    else if dev.currentAction = some .enroll then dev.enrollDetected false (some .retry)
    else .only (dev.maybeCompleteAction none)
  | .noPrint error =>
    if dev.currentAction = some .capture then .only (dev.maybeCompleteAction none)
    else if error ≠ .retry then (dev.maybeCompleteAction (some error)).imageDeviceDeactivate
    else if dev.currentAction = some .enroll then dev.enrollDetected false (some .retry)
    else .only (dev.maybeCompleteAction none)
  | .print error =>
    if dev.currentAction = some .capture then .only (dev.maybeCompleteAction none)
    else if dev.currentAction = some .enroll then dev.enrollDetected true none
    else .only (dev.maybeCompleteAction (notRetry error))

end FpiDeviceGxfp

end Gxfp
