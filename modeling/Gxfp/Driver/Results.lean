/-
What the user of an action is told, and what with.

Above the driver's tasks an action has its data: the print that is being enrolled, or the
prints that the next scan is compared with, and what has been reported of it.  A scan that
comes is judged by its key points, added or compared, and reported at once; the result is
returned when the device has stopped.  Between the two the device may fail, be cancelled or
be cut off, and what is returned then is for `fp_image_device_maybe_complete_action` to say.

Each function of the device that may complete an action has its part for the action here,
with the device as it is called.  What else it does is in `Driver/Device`.
-/
import Gxfp.Driver.Tasks
import Gxfp.Sigfm.Print

namespace Gxfp

open FpiDeviceGxfp

/-! ### The data of an action -/

/-- What the callbacks of an action are given. -/
inductive ActionReport
  /-- `enroll_progress_cb` -/
  | progress (completedStages : Nat) (print : Option FpPrint) (error : Option GError)
  /-- `match_cb` -/
  | matched (found print : Option FpPrint) (error : Option GError)
  deriving DecidableEq, Repr

/-- What is returned of an action. -/
inductive ActionResult
  | error (error : GError)
  | enrolled (print : FpPrint)
  | verified (success : Bool) (print : Option FpPrint)
  | identified (found print : Option FpPrint)
  | captured
  /-- An error, and a warning that the driver has not reported as it should. -/
  | misreported
  deriving DecidableEq, Repr

/-- `FpMatchData`; `found` is its `match`. -/
structure FpMatchData where
  resultReported : Bool
  found : Option FpPrint
  print : Option FpPrint
  error : Option GError
  deriving DecidableEq, Repr

/-- `g_new0` -/
def FpMatchData.new : FpMatchData := ⟨false, none, none, none⟩

/-- `FpEnrollData` and `FpMatchData`, with the prints that are to be compared. -/
inductive TaskData
  | none
  | enroll (print : FpPrint)
  | verify (enrolledPrint : FpPrint) (data : FpMatchData)
  | identify (gallery : List FpPrint) (data : FpMatchData)
  /-- Whether there is a `capture_image`. -/
  | capture (captureImage : Bool)
  deriving DecidableEq, Repr

/-- `current_task`, with the callbacks that have been made and the results that the main loop
is to return. -/
structure FpTask where
  data : TaskData
  reports : List ActionReport
  results : List ActionResult
  deriving DecidableEq, Repr

/-- An action that captures images, with its arguments. -/
inductive ActionRequest
  | enroll (templatePrint : FpPrint)
  | verify (enrolledPrint : FpPrint)
  | identify (prints : List FpPrint)
  | capture (waitForFinger : Bool)
  deriving DecidableEq, Repr

/-- What prints are made for, and the score of two templates, unless an `int` overflows. -/
structure Matcher where
  driver : String
  deviceId : String
  score : SigfmImgInfo → SigfmImgInfo → Option Int

def ActionRequest.action : ActionRequest → DeviceAction
  | .enroll _ => .enroll
  | .verify _ => .verify
  | .identify _ => .identify
  | .capture _ => .capture

def ActionRequest.waitForFinger : ActionRequest → Bool
  | .capture waitForFinger => waitForFinger
  | _ => true

/-- A print that is enrolled further has to be of this device. -/
def ActionRequest.compatible (mt : Matcher) : ActionRequest → Bool
  | .enroll print =>
    print.data.type = .undefined ∨ print.driver = mt.driver ∧ print.deviceId = mt.deviceId
  | _ => true

/-- A new action; of an enrolment `fp_image_device_start_capture_action` sets the type. -/
def FpTask.new (request : ActionRequest) : FpTask where
  data :=
    match request with
    | .enroll print => .enroll (fpiPrintSetSigfm print)
    | .verify print => .verify print .new
    | .identify prints => .identify prints .new
    | .capture _ => .capture false
  reports := []
  results := []

def FpTask.idle : FpTask := ⟨.none, [], []⟩

/-! ### Completing an action -/

/-- What is completed without an error, but for a report of one. -/
def FpMatchData.result (data : FpMatchData) (success : ActionResult) : ActionResult :=
  if ¬ data.resultReported then .misreported
  else
    match data.error with
    | some error => .error error
    | none => success

/-- `fpi_device_enroll_complete`, `fpi_device_verify_complete`, `fpi_device_identify_complete`
and `fpi_device_capture_complete`. -/
def TaskData.result (data : TaskData) (error : Option GError) : Option ActionResult :=
  match data, error with
  | .none, _ => Option.none
  | .enroll _, some error | .capture _, some error => some (.error error)
  | .verify _ _, some error | .identify _ _, some error =>
    some (.error (if error = .retry then .general else error))
  | .enroll print, Option.none =>
    some (if print.data.type = .undefined then .misreported else .enrolled print)
  | .verify _ data, Option.none => some (data.result (.verified data.found.isSome data.print))
  | .identify _ data, Option.none => some (data.result (.identified data.found data.print))
  | .capture captureImage, Option.none => some (if captureImage then .captured else .misreported)

/-- `action_error`, once `fp_image_device_maybe_complete_action` has looked at another error. -/
def FpiDeviceGxfp.actionErrorWith (dev : FpiDeviceGxfp) (error : Option GError) : Option GError :=
  if error.isSome ∧ ¬ (dev.actionError.isSome ∧ dev.actionError ≠ some .retry) then error
  else dev.actionError

namespace FpTask

variable (dev : FpiDeviceGxfp) (task : FpTask)

/-- `fpi_device_action_error` and the functions that complete an action. -/
def complete (error : Option GError) : FpTask :=
  if dev.currentAction.isNone then task
  else { task with results := task.results ++ (task.data.result error).toList }

/-- `fp_image_device_maybe_complete_action` -/
def maybeCompleteAction (error : Option GError) : FpTask :=
  if dev.active ∨ dev.minutiaeScanActive then task
  else
    task.complete dev
      ((dev.actionErrorWith error).or (if dev.cancelled then some .cancelled else none))

/-- `fpi_image_device_activate_complete` -/
def activateComplete (error : Option GError) : FpTask :=
  if dev.active ∨ dev.state ≠ .activating ∨ ¬ dev.capturing then task
  else if error.isSome then task.complete dev error
  else task

/-- `fpi_image_device_deactivate_complete` -/
def deactivateComplete : FpTask :=
  if ¬ dev.active ∨ dev.state ≠ .deactivating then task
  else
    task.maybeCompleteAction
      { dev with active := false, fingerPresent := false, state := .inactive } none

/-- `gxfp_cancel_task` -/
def gxfpCancelTask : FpTask :=
  match dev.taskSsm with
  | some _ => task
  | none =>
    if dev.deactivateCompleteSent then task
    else task.deactivateComplete { dev with deactivateCompleteSent := true }

/-- `gxfp_deactivate` -/
def gxfpDeactivate : FpTask := task.gxfpCancelTask { dev with deactivating := true }

/-- `fpi_image_device_deactivate` -/
def imageDeviceDeactivate : FpTask :=
  if ¬ dev.active ∨ dev.state = .deactivating then task
  else task.gxfpDeactivate { dev with state := .deactivating }

/-- `fpi_image_device_session_error` -/
def reportSessionError (error : GError) : FpTask :=
  if ¬ dev.active ∧ dev.currentAction.isSome then task.activateComplete dev (some error)
  else if dev.active ∧ error = .cancelled ∧ dev.cancelled then task
  else if dev.active ∧ dev.state = .inactive then task
  else
    (task.maybeCompleteAction dev (some error)).imageDeviceDeactivate
      (dev.maybeCompleteAction (some error))

/-- `fpi_image_device_report_finger_status` -/
def reportFingerStatus (present : Bool) : FpTask :=
  if dev.state = .inactive then task
  else if present ∧ dev.state = .awaitFingerOn then task
  else if ¬ present ∧ dev.state = .awaitFingerOff ∧ dev.currentAction ≠ some .enroll then
    task.imageDeviceDeactivate { dev with fingerPresent := present, state := .idle }
  else task

/-- `gxfp_task_finished` -/
def gxfpTaskFinished (m : Nat) (error : Option GError) : FpTask :=
  let kind := dev.taskKind
  let dev :=
    if dev.taskSsm = some m then
      { dev with taskSsm := none, taskKind := .none, taskDeadline := false }
    else dev
  if dev.closing then task
  else if dev.deactivating then
    if dev.deactivateCompleteSent then task
    else task.deactivateComplete { dev with deactivateCompleteSent := true }
  else
    match error with
    | some error =>
      if kind = .activate then task.activateComplete dev (some error)
      else task.reportSessionError dev error
    | none =>
      match kind with
      | .waitDown => task.reportFingerStatus dev true
      | .waitUp => task.reportFingerStatus dev false
      | _ => task

/-- `gxfp_activate` -/
def gxfpActivate (rearm : Option GError) : FpTask :=
  if dev.taskSsm.isSome then task
  else
    match rearm with
    | some error => task.activateComplete dev (some error)
    | none => task

/-- `fp_image_device_start_capture_action` with `fpi_image_device_activate`. -/
def startCaptureAction (waitForFinger : Bool) (rearm : Option GError) : FpTask :=
  if dev.currentAction = some .capture ∧ ¬ waitForFinger then task.complete dev (some .general)
  else task.gxfpActivate { dev with enrollStage := 0, state := .activating } rearm

/-- `fp_device_cancel_in_idle_cb` with `fp_image_device_cancel_action`. -/
def cancelInIdle : FpTask :=
  if dev.capturing then task.imageDeviceDeactivate { dev with cancelQueued := false } else task

/-- What a pending call does to the action. -/
def perform : PendingCall → FpTask
  | .taskFinished m error => task.gxfpTaskFinished dev m error
  | _ => task

end FpTask

/-! ### Scans -/

/-- What `fp_image_sigfm_extract_thread_func` has to say. -/
inductive Scan
  | cancelled
  | extracted (info : SigfmImgInfo)
  deriving DecidableEq, Repr

/-- `BOZORTH3_DEFAULT_THRESHOLD`, which the driver does not change. -/
def bz3Threshold : Int := 40

/-- `sigfm_keypoints_count` -/
def sigfmKeypointsCount (info : SigfmImgInfo) : Int32 := Int32.ofNat info.keypoints.length

/-- There are enough key points. -/
def Readable (info : SigfmImgInfo) : Prop := 25 ≤ sigfmKeypointsCount info

instance : DecidablePred Readable := fun info =>
  inferInstanceAs (Decidable (25 ≤ sigfmKeypointsCount info))

/-- `fp_print_new`, `fpi_print_set_type` and `fpi_print_add_from_image`. -/
def scanPrint (mt : Matcher) (info : SigfmImgInfo) : Option FpPrint :=
  fpiPrintAddFromImage (fpiPrintSetSigfm (fpPrintNew mt.driver mt.deviceId)) info

namespace FpMatchData

/-- The end of the functions that report an error of a comparison. -/
def reportError (data : FpMatchData) (error : GError) : FpMatchData × List ActionReport :=
  ({ data with error := some error },
    if error = .retry then [.matched data.found data.print (some error)] else [])

/-- `fpi_device_verify_report`, where `result` is none for `FPI_MATCH_ERROR`. -/
def verifyReport (data : FpMatchData) (template : FpPrint) (result : Option Bool)
    (print : Option FpPrint) (error : Option GError) : FpMatchData × List ActionReport :=
  if data.resultReported then (data, [])
  else
    let data := { data with resultReported := true }
    match error, result with
    | some error, _ => data.reportError error
    | none, none => data.reportError .retry
    | none, some success =>
      let data := { data with found := if success then some template else data.found, print }
      (data, [.matched data.found data.print data.error])

/-- `fpi_device_identify_report`, of a print of the gallery. -/
def identifyReport (data : FpMatchData) (found print : Option FpPrint) (error : Option GError) :
    FpMatchData × List ActionReport :=
  if data.resultReported then (data, [])
  else
    let data := { data with resultReported := true }
    match error with
    | some error => data.reportError error
    | none =>
      let data := { data with found := found.or data.found, print := print.or data.print }
      (data, [.matched data.found data.print data.error])

end FpMatchData

/-- The loop over the templates: the first that matches, or an error. -/
def identifyLoop (mt : Matcher) (print : FpPrint) :
    List FpPrint → Option (Except MatchError (Option FpPrint))
  | [] => some (.ok none)
  | template :: templates => do
    match ← fpiPrintSigfmMatch mt.score bz3Threshold template print with
    | .error error => return .error error
    | .success => return .ok (some template)
    | .fail => identifyLoop mt print templates

namespace FpTask

variable (mt : Matcher) (dev : FpiDeviceGxfp) (task : FpTask)

/-- The action behind a report of a comparison. -/
def reported (task : FpTask) (make : FpMatchData → TaskData)
    (r : FpMatchData × List ActionReport) : FpTask :=
  { task with data := make r.1, reports := task.reports ++ r.2 }

/-- A print of the scan, as far as `fpi_image_device_minutiae_detected` is about the action;
`none` is a comparison without a result. -/
def detectedPrint (print : FpPrint) : Option (MinutiaeResult × FpTask) :=
  match task.data with
  | .none => some (.print none, task)
  | .capture _ => some (.print none, { task with data := .capture true })
  | .enroll enrollPrint => do
    let enrollPrint ← fpiPrintAddPrint enrollPrint print
    return (.print none,
      { task with
        data := .enroll enrollPrint
        reports := task.reports ++ [.progress (dev.enrollStage + 1) (some print) none] })
  | .verify template data => do
    match ← fpiPrintSigfmMatch mt.score bz3Threshold template print with
    | .error _ => return (.print (some .general), task)
    | .fail =>
      return (.print none,
        task.reported (.verify template)
          (data.verifyReport template (some false) (some print) none))
    | .success =>
      return (.print none,
        task.reported (.verify template)
          (data.verifyReport template (some true) (some print) none))
  | .identify templates data => do
    match ← identifyLoop mt print templates with
    | .error _ => return (.print (some .general), task)
    | .ok found =>
      return (.print none,
        task.reported (.identify templates) (data.identifyReport found (some print) none))

/-- No print of the scan, which is a retry. -/
def unreadable : FpTask :=
  match task.data with
  | .none => task
  | .capture _ => { task with data := .capture true }
  | .enroll _ =>
    { task with reports := task.reports ++ [.progress dev.enrollStage none (some .retry)] }
  | .verify template data =>
    task.reported (.verify template) (data.verifyReport template none none (some .retry))
  | .identify templates data =>
    task.reported (.identify templates) (data.identifyReport none none (some .retry))

/-- What becomes of a scan, and the action with what is reported of it. -/
def detected : Scan → Option (MinutiaeResult × FpTask)
  | .cancelled => some (.cancelled, task)
  | .extracted info =>
    if Readable info then
      match scanPrint mt info with
      | some print => task.detectedPrint mt dev print
      | none => some (.noPrint .general, task)
    else some (.unreadable, task.unreadable dev)

/-- The end of `fpi_image_device_minutiae_detected` for an enrolment. -/
def enrollDetected (print : Bool) (error : Option GError) : FpTask :=
  let dev := if print then { dev with enrollStage := dev.enrollStage + 1 } else dev
  if dev.enrollStage = FpiDeviceGxfp.enrollStages then
    (task.maybeCompleteAction dev error).imageDeviceDeactivate (dev.maybeCompleteAction error)
  else task

/-- The end of `fpi_image_device_minutiae_detected`. -/
def minutiaeDetected (result : MinutiaeResult) : FpTask :=
  let dev := { dev with minutiaeScanActive := false }
  match result with
  | .cancelled =>
    (task.maybeCompleteAction dev (some .cancelled)).imageDeviceDeactivate
      (dev.maybeCompleteAction (some .cancelled))
  | .unreadable =>
    if dev.currentAction = some .capture then task.maybeCompleteAction dev (some .retry)
    else if dev.currentAction = some .enroll then task.enrollDetected dev false (some .retry)
    else task.maybeCompleteAction dev none
  | .noPrint error =>
    if dev.currentAction = some .capture then task.maybeCompleteAction dev none
    else if error ≠ .retry then
      (task.maybeCompleteAction dev (some error)).imageDeviceDeactivate
        (dev.maybeCompleteAction (some error))
    else if dev.currentAction = some .enroll then task.enrollDetected dev false (some .retry)
    else task.maybeCompleteAction dev none
  | .print error =>
    if dev.currentAction = some .capture then task.maybeCompleteAction dev none
    else if dev.currentAction = some .enroll then task.enrollDetected dev true none
    else task.maybeCompleteAction dev (FpiDeviceGxfp.notRetry error)

end FpTask

/-! ### Runs -/

/-- The driver, and the action that it is used for. -/
structure ActionDriver where
  driver : Driver
  task : FpTask

def ActionDriver.constructed : ActionDriver := ⟨.constructed, .idle⟩

inductive ActionInput
  /-- The innermost call goes on. -/
  | call (io : IoOutcome)
  | openDevice (error : Option GError)
  | closeDevice
  /-- `fp_device_enroll` and the like; `rearm` is the result of `gxfp_rearm_tls`. -/
  | start (request : ActionRequest) (rearm : Option GError)
  /-- `fp_device_cancel_in_idle_cb` -/
  | cancelInIdle
  | timeout (ssm : Nat)
  /-- The scan of an image is done. -/
  | scanned (scan : Scan)
  /-- `fp_device_task_return_in_idle_cb` -/
  | returnInIdle
  /-- The user cancels the action. -/
  | cancel
  deriving DecidableEq, Repr

section Runs

variable (mt : Matcher)

def actionStep (s : ActionDriver) : ActionInput → Option ActionDriver
  | .call io => do
    let call ← s.driver.calls.head?
    return ⟨← driverStep s.driver (.call io), s.task.perform s.driver.dev call⟩
  | .openDevice error => do return ⟨← driverStep s.driver (.main (.openDevice error)), s.task⟩
  | .closeDevice => do return ⟨← driverStep s.driver (.main .closeDevice), s.task⟩
  | .start request rearm =>
    if request.compatible mt then do
      let event := .startAction request.action request.waitForFinger rearm
      return ⟨← driverStep s.driver (.main event),
        (FpTask.new request).startCaptureAction (s.driver.dev.setupTask request.action)
          request.waitForFinger rearm⟩
    else none
  | .cancelInIdle => do
    return ⟨← driverStep s.driver (.main .cancelInIdle), s.task.cancelInIdle s.driver.dev⟩
  | .timeout m => do return ⟨← driverStep s.driver (.main (.timeout m)), s.task⟩
  | .scanned scan => do
    let (result, task) ← s.task.detected mt s.driver.dev scan
    return ⟨← driverStep s.driver (.main (.minutiaeDetected result)),
      task.minutiaeDetected s.driver.dev result⟩
  | .returnInIdle => do return ⟨← driverStep s.driver (.main .returnInIdle), .idle⟩
  | .cancel => do return ⟨← driverStep s.driver .cancel, s.task⟩

def actionRun (inputs : List ActionInput) : Option ActionDriver :=
  inputs.foldlM (actionStep mt) ActionDriver.constructed

end Runs

/-- The last action that was asked for, and what has been extracted since. -/
structure ActionHistory where
  request : Option ActionRequest
  scans : List SigfmImgInfo

def ActionHistory.see (history : ActionHistory) : ActionInput → ActionHistory
  | .start request _ => ⟨some request, []⟩
  | .scanned (.extracted info) => { history with scans := history.scans ++ [info] }
  | _ => history

def historyOf (inputs : List ActionInput) : ActionHistory :=
  inputs.foldl ActionHistory.see ⟨none, []⟩

end Gxfp
