/-
Runs of the driver.

Everything happens in the one thread that runs the main loop.  The main loop only
starts something once all calls have returned; until then a step makes the innermost
pending call.  A user may cancel at any time, also from a callback; what that does is
left to the main loop.
-/
import Gxfp.Driver.Device

namespace Gxfp

namespace FpiDeviceGxfp

variable (dev : FpiDeviceGxfp)

/-- Behind `fp_device_constructed`. -/
def constructed : FpiDeviceGxfp where
  ssms := fun _ => none
  nextSsm := 0
  taskSsm := none
  taskKind := .none
  taskDeadline := false
  deactivating := false
  deactivateCompleteSent := false
  closing := false
  capturedImage := false
  active := false
  state := .inactive
  minutiaeScanActive := false
  fingerPresent := false
  enrollStage := 0
  actionError := none
  isOpen := false
  currentAction := none
  returning := false
  cancelled := false
  cancelQueued := false

/-- A pending call is made; `io` is what comes of its input and output. -/
def perform (io : IoOutcome) : PendingCall → Effect
  | .handler m => dev.callHandler m io
  | .taskFinished m error => dev.gxfpTaskFinished m error
  | .ssmFree m => .only (dev.ssmFree m)
  | .deactivateReturn => .seen .deactivateReturn (.only dev)
  | .imgCloseRest => dev.gxfpImgCloseRest

/-! ### The main loop -/

inductive MainEvent
  /-- `fp_device_open`, with the result of `gxfp_img_open`. -/
  | openDevice (error : Option GError)
  /-- `fp_device_close` -/
  | closeDevice
  /-- `fp_device_enroll` and the like; `rearm` is the result of `gxfp_rearm_tls`. -/
  | startAction (action : DeviceAction) (waitForFinger : Bool) (rearm : Option GError)
  /-- `fp_device_cancel_in_idle_cb` -/
  | cancelInIdle
  /-- `on_device_timeout_jump_to_state` -/
  | timeout (ssm : Nat)
  /-- The minutiae scan is done. -/
  | minutiaeDetected (result : MinutiaeResult)
  /-- `fp_device_task_return_in_idle_cb` -/
  | returnInIdle
  deriving DecidableEq, Repr

/-- A new action, with `setup_task_cancellable`; it has not been completed. -/
def setupTask (action : DeviceAction) : FpiDeviceGxfp :=
  { dev with currentAction := some action, returning := false, cancelled := false }

/-- `fp_device_open`; whether the device is open is only asked between actions. -/
def fpDeviceOpen (error : Option GError) : Option Effect :=
  if dev.isOpen ∨ dev.currentAction.isSome then none
  else
    let dev := dev.setupTask .openDevice
    some (.only { dev with state := .inactive, isOpen := error.isNone }.actionComplete)

/-- `fp_device_close` -/
def fpDeviceClose : Option Effect :=
  if ¬ dev.isOpen ∨ dev.currentAction.isSome then none
  else some (dev.setupTask .closeDevice).gxfpImgClose

/-- `fp_device_enroll`, `fp_device_verify`, `fp_device_identify` and `fp_device_capture`. -/
def fpDeviceStart (action : DeviceAction) (waitForFinger : Bool) (rearm : Option GError) :
    Option Effect :=
  if ¬ dev.isOpen ∨ dev.currentAction.isSome ∨ ¬ action.captures then none
  else some ((dev.setupTask action).startCaptureAction waitForFinger rearm)

/-- `fp_device_cancel_in_idle_cb` with `fp_image_device_cancel_action`. -/
def cancelInIdle : Option Effect :=
  if ¬ dev.cancelQueued then none
  else
    let dev := { dev with cancelQueued := false }
    some (if dev.capturing then dev.imageDeviceDeactivate else .only dev)

/-- `on_device_timeout_jump_to_state` -/
def timeout (m : Nat) : Option Effect :=
  (dev.ssms m).bind fun ssm => ssm.timeout.map fun state =>
    dev.ssmDo m fun ssm => ssm.onTimeoutJumpToState state

/-- `fp_device_task_return_in_idle_cb` -/
def returnInIdle : Option Effect :=
  if ¬ dev.returning then none
  else
    some (.only
      { dev with
        currentAction := none, returning := false, cancelled := false, cancelQueued := false
        isOpen := dev.isOpen && dev.currentAction ≠ some .closeDevice })

/-- What the main loop does at an event, if it can occur. -/
def dispatch : MainEvent → Option Effect
  | .openDevice error => dev.fpDeviceOpen error
  | .closeDevice => dev.fpDeviceClose
  | .startAction action waitForFinger rearm => dev.fpDeviceStart action waitForFinger rearm
  | .cancelInIdle => dev.cancelInIdle
  | .timeout m => dev.timeout m
  | .minutiaeDetected result =>
    if dev.minutiaeScanActive then some (dev.minutiaeDetected result) else none
  | .returnInIdle => dev.returnInIdle

/-- `g_cancellable_cancel`, the first time on an action: `fp_device_cancelled_cb`. -/
def cancel : FpiDeviceGxfp :=
  if dev.cancelled then dev
  else { dev with cancelled := true, cancelQueued := dev.cancelQueued || !dev.returning }

end FpiDeviceGxfp

/-! ### Runs -/

open FpiDeviceGxfp

/-- The device, the calls that have not returned, innermost first, and the reports so far. -/
structure Driver where
  dev : FpiDeviceGxfp
  calls : List PendingCall
  log : List DriverEvent

def Driver.constructed : Driver := ⟨FpiDeviceGxfp.constructed, [], []⟩

/-- The effect of a call comes before what the other calls still do. -/
def Driver.add (s : Driver) (e : Effect) (calls : List PendingCall) : Driver :=
  ⟨e.dev, e.calls ++ calls, s.log ++ e.log⟩

inductive DriverInput
  /-- The innermost call goes on. -/
  | call (io : IoOutcome)
  | main (event : MainEvent)
  /-- The user cancels the action. -/
  | cancel
  deriving DecidableEq, Repr

def driverStep (s : Driver) : DriverInput → Option Driver
  | .call io =>
    match s.calls with
    | [] => none
    | call :: calls => some (s.add (s.dev.perform io call) calls)
  | .main event =>
    match s.calls with
    | [] => (s.dev.dispatch event).map fun e => s.add e []
    | _ :: _ => none
  | .cancel => if s.dev.currentAction.isSome then some { s with dev := s.dev.cancel } else none

def driverRun (inputs : List DriverInput) : Option Driver :=
  inputs.foldlM driverStep Driver.constructed

end Gxfp
