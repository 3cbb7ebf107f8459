/-
What is returned of an action is what came of its scans.

Between the scan of a finger and the return of the result lie the device's deactivation and
whatever else happens to it, so that a result is made long after what it is about.  Two
things are carried from one to the other.  The data of the action is what the scans made of
it, of a comparison one scan at the most; and a device is only stopped for a reason, which is
an error, a cancellation, the last stage of an enrolment, or a scan.  With neither an error
nor a cancellation at the end it is one of the last two.
-/
import Gxfp.Driver.Results

namespace Gxfp

open FpiDeviceGxfp

/-! ### What an action sees of the device -/

/-- The part of the device that what is returned depends on. -/
structure ActionView where
  currentAction : Option DeviceAction
  returning : Bool
  cancelled : Bool
  cancelQueued : Bool
  active : Bool
  minutiaeScanActive : Bool
  state : ImageDeviceState
  enrollStage : Nat
  actionError : Option GError
  deriving DecidableEq

namespace FpiDeviceGxfp

variable (dev : FpiDeviceGxfp)

def view : ActionView where
  currentAction := dev.currentAction
  returning := dev.returning
  cancelled := dev.cancelled
  cancelQueued := dev.cancelQueued
  active := dev.active
  minutiaeScanActive := dev.minutiaeScanActive
  state := dev.state
  enrollStage := dev.enrollStage
  actionError := dev.actionError

theorem view_ssmNext (m : Nat) (r : FpiSsm × SsmNext) : (dev.ssmNext m r).dev.view = dev.view := by
  unfold ssmNext
  dsimp only
  cases r.2 <;> rfl

@[simp] theorem view_ssmDo (m : Nat) (f : FpiSsm → FpiSsm × SsmNext) :
    (dev.ssmDo m f).dev.view = dev.view := by
  unfold ssmDo
  cases dev.ssms m with
  | none => rfl
  | some ssm => exact dev.view_ssmNext m _

theorem view_startTask (handler : SsmHandler) (nrStates : Nat) (kind : TaskKind)
    (deadline : Bool) : (dev.startTask handler nrStates kind deadline).dev.view = dev.view :=
  view_ssmNext _ _ _

theorem view_gxfpStartWait (kind : TaskKind) : (dev.gxfpStartWait kind).dev.view = dev.view := by
  unfold gxfpStartWait
  split
  · rfl
  · exact dev.view_startTask _ _ _ _

theorem view_gxfpStartCapture : dev.gxfpStartCapture.dev.view = dev.view := by
  unfold gxfpStartCapture
  split
  · rfl
  · exact dev.view_startTask _ _ _ _

@[simp] theorem view_changeState (state : ImageDeviceState) :
    (dev.changeState state).dev.view = { dev.view with state } := by
  unfold changeState gxfpChangeState
  cases state with
  | awaitFingerOn | awaitFingerOff => exact view_gxfpStartWait _ _
  | capture => exact view_gxfpStartCapture _
  | inactive | deactivating | activating | idle => rfl

/-- **Handlers** do nothing but to make the machine go on. -/
theorem callHandler_cases (m : Nat) (io : IoOutcome) :
    dev.callHandler m io = .only dev ∨
      ∃ dev' f, view dev' = dev.view ∧ dev.callHandler m io = ssmDo dev' m f := by
  have hfail : ∀ io : IoResult, ∃ f, dev.nextOrFail m io = dev.ssmDo m f := by
    intro io
    cases io <;> exact ⟨_, rfl⟩
  have hretry : ∀ io : IoResult, ∃ f, dev.nextOrRetry m io = dev.ssmDo m f := by
    intro io
    cases io <;> exact ⟨_, rfl⟩
  have hgo : ∀ {e : Effect}, (∃ f, e = dev.ssmDo m f) → e = .only dev ∨
      ∃ dev' f, view dev' = dev.view ∧ e = ssmDo dev' m f := by
    rintro e ⟨f, rfl⟩
    exact Or.inr ⟨dev, f, rfl, rfl⟩
  unfold callHandler
  cases dev.ssms m with
  | none => exact Or.inl rfl
  | some ssm =>
      dsimp only
      cases ssm.handler with
      | activate =>
          dsimp only
          unfold gxfpActivateSsmHandler
          split
          · exact hgo ⟨_, rfl⟩
          · split
            all_goals first
              | exact hgo (hfail _)
              | exact hgo (hretry _)
              | exact hgo ⟨_, rfl⟩
              | exact Or.inl rfl
      | wait =>
          dsimp only
          unfold gxfpWaitSsmHandler
          split
          · exact hgo ⟨_, rfl⟩
          · split
            all_goals first
              | exact hgo (hfail _)
              | exact hgo (hretry _)
              | exact hgo ⟨_, rfl⟩
              | exact Or.inl rfl
      | capture =>
          dsimp only
          unfold gxfpCaptureSsmHandler
          split
          · exact hgo ⟨_, rfl⟩
          · split
            · split
              · exact hgo ⟨_, rfl⟩
              · exact hgo (hfail _)
            · exact hgo (hretry _)
            · split
              · exact hgo ⟨_, rfl⟩
              · split
                · exact Or.inr ⟨{ dev with capturedImage := true }, _, rfl, rfl⟩
                · exact hgo ⟨_, rfl⟩
                · exact hgo ⟨_, rfl⟩
            · exact Or.inl rfl

theorem view_callHandler (m : Nat) (io : IoOutcome) :
    (dev.callHandler m io).dev.view = dev.view := by
  rcases dev.callHandler_cases m io with heq | ⟨dev', f, hview, heq⟩
  · rw [heq]
    rfl
  · rw [heq, view_ssmDo, hview]

variable {dev} {error : Option GError}

/-- What `fp_image_device_maybe_complete_action` does, with the error that it keeps. -/
theorem maybeCompleteAction_with : dev.maybeCompleteAction error =
    if dev.active ∨ dev.minutiaeScanActive then
      { dev with actionError := dev.actionErrorWith error }
    else { dev with actionError := none }.actionComplete := by
  unfold maybeCompleteAction actionErrorWith
  by_cases hset : error.isSome ∧ ¬ (dev.actionError.isSome ∧ dev.actionError ≠ some .retry)
  · rw [if_pos hset, if_pos hset]
  · rw [if_neg hset, if_neg hset]

/-- The action is not completed while the device is active or a scan is running. -/
theorem view_maybeCompleteAction (error : Option GError)
    (h : dev.active = true ∨ dev.minutiaeScanActive = true) :
    (dev.maybeCompleteAction error).view =
      { dev.view with actionError := dev.actionErrorWith error } := by
  rw [maybeCompleteAction_with, if_pos h]
  rfl

/-- Otherwise it is. -/
theorem view_maybeCompleteAction_done (hactive : dev.active = false)
    (hscan : dev.minutiaeScanActive = false) (haction : dev.currentAction.isNone = false) :
    (dev.maybeCompleteAction error).view =
      { dev.view with actionError := none, returning := true, cancelQueued := false } := by
  have hnot : ¬ (dev.active = true ∨ dev.minutiaeScanActive = true) := by
    rw [hactive, hscan]
    decide
  have hsome : ¬ dev.currentAction.isNone = true := by
    rw [haction]
    decide
  rw [maybeCompleteAction_with, if_neg hnot, actionComplete, if_neg hsome]
  rfl

end FpiDeviceGxfp

/-! ### What scans come to -/

/-- The scans with enough key points. -/
def readable (scans : List SigfmImgInfo) : List SigfmImgInfo := scans.filter (Readable ·)

/-- The print of an enrolment, with what it has been given. -/
def FpPrint.enrolledWith (template : FpPrint) (infos : List SigfmImgInfo) : FpPrint :=
  match (fpiPrintSetSigfm template).data with
  | .sigfm prints => { template with data := .sigfm (prints ++ infos) }
  | _ => template

/-- The print of a scan. -/
def printOf (mt : Matcher) (info : SigfmImgInfo) : FpPrint :=
  { fpPrintNew mt.driver mt.deviceId with data := .sigfm [info] }

/-- The progress of an enrolment, behind `n` stages. -/
def progressOf (mt : Matcher) (n : Nat) : List SigfmImgInfo → List ActionReport
  | [] => []
  | info :: scans =>
    if Readable info then
      .progress (n + 1) (some (printOf mt info)) none :: progressOf mt (n + 1) scans
    else .progress n none (some .retry) :: progressOf mt n scans

theorem scanPrint_eq (mt : Matcher) (info : SigfmImgInfo) :
    scanPrint mt info = some (printOf mt info) := rfl

theorem readable_snoc (scans : List SigfmImgInfo) (info : SigfmImgInfo) :
    readable (scans ++ [info]) = readable scans ++ if Readable info then [info] else [] := by
  unfold readable
  rw [List.filter_append]
  by_cases h : Readable info
  · simp [h]
  · simp [h]

/-- The report on one more scan. -/
theorem progressOf_snoc (mt : Matcher) (n : Nat) (scans : List SigfmImgInfo)
    (info : SigfmImgInfo) :
    progressOf mt n (scans ++ [info]) = progressOf mt n scans ++
      [if Readable info then
          .progress (n + (readable scans).length + 1) (some (printOf mt info)) none
        else .progress (n + (readable scans).length) none (some .retry)] := by
  induction scans generalizing n with
  | nil =>
      by_cases h : Readable info
      · simp [progressOf, readable, h]
      · simp [progressOf, readable, h]
  | cons first scans ih =>
      rw [List.cons_append, progressOf, progressOf]
      by_cases h : Readable first
      · have hlen : (readable (first :: scans)).length = (readable scans).length + 1 := by
          simp [readable, h]
        rw [if_pos h, if_pos h, ih, hlen, List.cons_append]
        simp only [Nat.add_assoc, Nat.add_comm 1]
      · have hlen : (readable (first :: scans)).length = (readable scans).length := by
          simp [readable, h]
        rw [if_neg h, if_neg h, ih, hlen, List.cons_append]

namespace FpPrint

variable (template : FpPrint)

theorem enrolledWith_nil : template.enrolledWith [] = fpiPrintSetSigfm template := by
  unfold enrolledWith fpiPrintSetSigfm
  cases hdata : template.data with
  | sigfm prints =>
      simp only [hdata, List.append_nil]
      rw [← hdata]
  | undefined | raw _ | nbis _ => simp [hdata]

/-- **A scan is added** behind the others, if the print is of its type. -/
theorem enrolledWith_add (mt : Matcher) (infos : List SigfmImgInfo) (info : SigfmImgInfo) :
    fpiPrintAddPrint (template.enrolledWith infos) (printOf mt info) =
      some (template.enrolledWith (infos ++ [info])) := by
  unfold enrolledWith fpiPrintSetSigfm
  cases hdata : template.data with
  | sigfm prints => simp [hdata, fpiPrintAddPrint, printOf]
  | undefined => simp [fpiPrintAddPrint, printOf]
  | raw _ | nbis _ => simp [hdata, fpiPrintAddPrint, printOf]

theorem enrolledWith_type (infos : List SigfmImgInfo) :
    (template.enrolledWith infos).data.type ≠ .undefined := by
  unfold enrolledWith fpiPrintSetSigfm
  cases hdata : template.data with
  | sigfm prints => simp [hdata, PrintData.type]
  | undefined => simp [PrintData.type]
  | raw _ | nbis _ => simp [hdata, PrintData.type]

end FpPrint

/-! ### While an action goes on -/

section Ongoing

variable (mt : Matcher) (request : ActionRequest) (scans : List SigfmImgInfo)

namespace ActionView

/-- What an action without an error is over with. -/
def Finished (v : ActionView) : Prop :=
  match request with
  | .enroll _ => v.enrollStage = enrollStages
  | _ => v.minutiaeScanActive = true ∨ scans ≠ []

/-- Why a device is stopped. -/
def Over (v : ActionView) : Prop :=
  v.actionError.isSome = true ∨ v.cancelled = true ∨ v.Finished request scans

end ActionView

/-- Of an enrolment: each scan that can be read is a stage, and in the print. -/
structure Enrolling (template : FpPrint) (v : ActionView) (task : FpTask) : Prop where
  data : task.data = .enroll (template.enrolledWith (readable scans))
  stage : v.enrollStage = (readable scans).length
  reports : task.reports = progressOf mt 0 scans
  last : v.enrollStage = enrollStages → v.minutiaeScanActive = false

/-- Of the other actions: there is one scan at most, and the action is what has become of it. -/
structure Judging (v : ActionView) (task : FpTask) : Prop where
  judged : scans = [] ∧ task = .new request ∨
    ∃ info dev result, scans = [info] ∧ v.minutiaeScanActive = false ∧
      (FpTask.new request).detected mt dev (.extracted info) = some (result, task) ∧
      ∀ error, result = .print (some error) → v.actionError.isSome = true
  looking : v.state = .awaitFingerOn ∨ v.state = .capture →
    scans = [] ∧ v.minutiaeScanActive = false
  lifted : v.state = .awaitFingerOff → v.Over request scans

/-- An action has been started and has no result yet. -/
structure Started (v : ActionView) (task : FpTask) : Prop where
  action : v.currentAction = some request.action
  returning : v.returning = false
  results : task.results = []
  queued : v.cancelQueued = true → v.cancelled = true
  fresh : v.state = .activating → scans = [] ∧ v.minutiaeScanActive = false
  stopped : v.state = .deactivating ∨ v.active = false ∧ v.state ≠ .activating →
    v.Over request scans
  shape :
    match request with
    | .enroll template => Enrolling mt scans template v task
    | _ => Judging mt request scans v task

/-- And behind the last stage of an enrolment the device is stopped. -/
structure Ongoing (v : ActionView) (task : FpTask) : Prop extends
    Started mt request scans v task where
  still : request.action = .enroll → v.enrollStage = enrollStages →
    v.state = .deactivating ∨ v.state = .inactive

/-- What the result of an action says of its scans. -/
def Right (reports : List ActionReport) : ActionResult → Prop
  | .error _ => True
  | .enrolled print =>
    ∃ template, request = .enroll template ∧ (readable scans).length = enrollStages ∧
      print = template.enrolledWith (readable scans) ∧ reports = progressOf mt 0 scans
  | .verified success print =>
    ∃ template info, request = .verify template ∧ scans = [info] ∧ Readable info ∧
      print = some (printOf mt info) ∧
      fpiPrintSigfmMatch mt.score bz3Threshold template (printOf mt info) =
        some (if success then .success else .fail) ∧
      reports = [.matched (if success then some template else none) print none]
  | .identified found print =>
    ∃ gallery info, request = .identify gallery ∧ scans = [info] ∧ Readable info ∧
      print = some (printOf mt info) ∧
      identifyLoop mt (printOf mt info) gallery = some (.ok found) ∧
      reports = [.matched found print none]
  | .captured => request.action = .capture ∧ ∃ info, scans = [info]
  | .misreported => False

/-- An action has its result. -/
structure Returned (v : ActionView) (task : FpTask) : Prop where
  action : v.currentAction = some request.action
  returning : v.returning = true
  active : v.active = false
  scan : v.minutiaeScanActive = false
  result : ∃ result, task.results = [result] ∧ Right mt request scans task.reports result

/-- One or the other. -/
def Stands (v : ActionView) (task : FpTask) : Prop :=
  Ongoing mt request scans v task ∨ Returned mt request scans v task

end Ongoing

/-! ### Results -/

section Results

variable {mt : Matcher} {request : ActionRequest} {scans : List SigfmImgInfo}
  {v : ActionView} {task : FpTask} {dev : FpiDeviceGxfp} {info : SigfmImgInfo}
  {result : MinutiaeResult}

/-- What a scan that can be read comes to is what its print comes to. -/
theorem detected_readable (h : Readable info) :
    task.detected mt dev (.extracted info) = task.detectedPrint mt dev (printOf mt info) := by
  unfold FpTask.detected
  dsimp only
  rw [if_pos h, scanPrint_eq]

theorem detected_unreadable (h : ¬ Readable info) :
    task.detected mt dev (.extracted info) = some (.unreadable, task.unreadable dev) := by
  unfold FpTask.detected
  dsimp only
  rw [if_neg h]

/-- **A verification** that is over without an error. -/
theorem verified_right {template : FpPrint}
    (h : (FpTask.new (.verify template)).detected mt dev (.extracted info) = some (result, task))
    (hok : ∀ error, result ≠ .print (some error)) :
    ∃ r, task.data.result none = some r ∧ Right mt (.verify template) [info] task.reports r := by
  by_cases hread : Readable info
  · rw [detected_readable hread] at h
    simp only [FpTask.detectedPrint, FpTask.new, Option.bind_eq_bind, Option.bind_eq_some_iff] at h
    obtain ⟨m, hm, h⟩ := h
    cases m with
    | error e =>
        cases h
        exact absurd rfl (hok .general)
    | fail =>
        cases h
        exact ⟨_, rfl, template, info, rfl, rfl, hread, rfl, hm, rfl⟩
    | success =>
        cases h
        exact ⟨_, rfl, template, info, rfl, rfl, hread, rfl, hm, rfl⟩
  · rw [detected_unreadable hread] at h
    cases h
    exact ⟨_, rfl, trivial⟩

/-- **An identification** that is over without an error. -/
theorem identified_right {gallery : List FpPrint}
    (h : (FpTask.new (.identify gallery)).detected mt dev (.extracted info) = some (result, task))
    (hok : ∀ error, result ≠ .print (some error)) :
    ∃ r, task.data.result none = some r ∧ Right mt (.identify gallery) [info] task.reports r := by
  by_cases hread : Readable info
  · rw [detected_readable hread] at h
    simp only [FpTask.detectedPrint, FpTask.new, Option.bind_eq_bind, Option.bind_eq_some_iff] at h
    obtain ⟨m, hm, h⟩ := h
    cases m with
    | error e =>
        cases h
        exact absurd rfl (hok .general)
    | ok found =>
        cases h
        refine ⟨.identified found (some (printOf mt info)), ?_, gallery, info, rfl, rfl, hread, rfl,
          hm, ?_⟩
        · cases found <;> rfl
        · cases found <;> rfl
  · rw [detected_unreadable hread] at h
    cases h
    exact ⟨_, rfl, trivial⟩

theorem captured_right {wait : Bool}
    (h : (FpTask.new (.capture wait)).detected mt dev (.extracted info) = some (result, task)) :
    ∃ r, task.data.result none = some r ∧ Right mt (.capture wait) [info] task.reports r := by
  by_cases hread : Readable info
  · rw [detected_readable hread] at h
    cases h
    exact ⟨_, rfl, rfl, info, rfl⟩
  · rw [detected_unreadable hread] at h
    cases h
    exact ⟨_, rfl, rfl, info, rfl⟩

/-- A scan neither begins an action nor ends it. -/
theorem detected_keeps {task' : FpTask} {scan : Scan}
    (h : task.detected mt dev scan = some (result, task')) :
    task'.results = task.results ∧ (task.data ≠ .none → task'.data ≠ .none) := by
  cases scan with
  | cancelled =>
      cases h
      exact ⟨rfl, id⟩
  | extracted info =>
      by_cases hread : Readable info
      · rw [detected_readable hread] at h
        unfold FpTask.detectedPrint at h
        cases hdata : task.data with
        | none =>
            rw [hdata] at h
            cases h
            exact ⟨rfl, fun hnone => absurd rfl hnone⟩
        | capture _ =>
            rw [hdata] at h
            cases h
            exact ⟨rfl, fun _ => nofun⟩
        | enroll print =>
            rw [hdata] at h
            obtain ⟨added, -, h⟩ := Option.bind_eq_some_iff.mp h
            cases h
            exact ⟨rfl, fun _ => nofun⟩
        | verify template data =>
            rw [hdata] at h
            obtain ⟨m, -, h⟩ := Option.bind_eq_some_iff.mp h
            cases m with
            | error _ =>
                cases h
                exact ⟨rfl, fun _ hnone => nomatch hdata.symm.trans hnone⟩
            | fail | success =>
                cases h
                exact ⟨rfl, fun _ => nofun⟩
        | identify gallery data =>
            rw [hdata] at h
            obtain ⟨m, -, h⟩ := Option.bind_eq_some_iff.mp h
            cases m with
            | error _ =>
                cases h
                exact ⟨rfl, fun _ hnone => nomatch hdata.symm.trans hnone⟩
            | ok _ =>
                cases h
                exact ⟨rfl, fun _ => nofun⟩
      · rw [detected_unreadable hread] at h
        cases h
        unfold FpTask.unreadable
        cases hdata : task.data with
        | none => exact ⟨rfl, fun hnone => absurd rfl hnone⟩
        | capture _ | verify _ _ | identify _ _ => exact ⟨rfl, fun _ => nofun⟩
        | enroll print =>
            refine ⟨rfl, fun _ hnone => ?_⟩
            have henroll : TaskData.enroll print = .none := hnone
            cases henroll

/-- The data is that of an action. -/
theorem Started.data_ne_none (h : Started mt request scans v task) : task.data ≠ .none := by
  have hjudged : Judging mt request scans v task → task.data ≠ .none := by
    intro hjudging
    have hdata : (FpTask.new request).data ≠ .none := by
      cases request <;> exact nofun
    rcases hjudging.judged with ⟨-, rfl⟩ | ⟨info, dev, result, -, -, hdetected, -⟩
    · exact hdata
    · exact (detected_keeps hdetected).2 hdata
  cases request with
  | enroll template =>
      rw [h.shape.data]
      exact nofun
  | verify _ | identify _ | capture _ => exact hjudged h.shape

/-- **With an error** the action is over with it. -/
theorem Started.right_error (h : Started mt request scans v task) (error : GError) :
    ∃ r, task.data.result (some error) = some r ∧ Right mt request scans task.reports r := by
  cases hdata : task.data with
  | none => exact absurd hdata h.data_ne_none
  | enroll _ | verify _ _ | identify _ _ | capture _ => exact ⟨_, rfl, trivial⟩

/-- **Without an error** it is over with what its scans have come to. -/
theorem Started.right_finished (h : Started mt request scans v task)
    (hover : v.Finished request scans) (hscan : v.minutiaeScanActive = false)
    (herror : v.actionError = none) :
    ∃ r, task.data.result none = some r ∧ Right mt request scans task.reports r := by
  cases request with
  | enroll template =>
      have hstage : v.enrollStage = enrollStages := hover
      have hlen : (readable scans).length = enrollStages := h.shape.stage.symm.trans hstage
      refine ⟨.enrolled (template.enrolledWith (readable scans)), ?_, template, rfl, hlen, rfl,
        h.shape.reports⟩
      rw [h.shape.data]
      exact congrArg some (if_neg (template.enrolledWith_type _))
  | verify _ | identify _ | capture _ =>
      rcases h.shape.judged with ⟨hnil, -⟩ | ⟨info, dev, result, rfl, -, hdetected, hfailed⟩
      · rcases hover with hactive | hsome
        · rw [hscan] at hactive
          cases hactive
        · exact absurd hnil hsome
      · have hok : ∀ error, result ≠ .print (some error) := by
          intro error hresult
          have hsome := hfailed error hresult
          rw [herror] at hsome
          cases hsome
        first
          | exact verified_right hdetected hok
          | exact identified_right hdetected hok
          | exact captured_right hdetected

end Results

/-! ### Completing and stopping -/

section Stopping

variable {mt : Matcher} {request : ActionRequest} {scans : List SigfmImgInfo}
  {v : ActionView} {task : FpTask} {dev : FpiDeviceGxfp} {error : Option GError}

/-- A device that is stopped, with a reason. -/
theorem Started.stop (h : Started mt request scans v task) (hover : v.Over request scans)
    {state : ImageDeviceState} (hstate : state = .deactivating ∨ state = .inactive)
    (active : Bool) : Ongoing mt request scans { v with state, active } task where
  action := h.action
  returning := h.returning
  results := h.results
  queued := h.queued
  fresh := fun hactivating => by
    rcases hstate with rfl | rfl <;> cases hactivating
  stopped := fun _ => hover
  shape := by
    cases request with
    | enroll template => exact ⟨h.shape.data, h.shape.stage, h.shape.reports, h.shape.last⟩
    | verify _ | identify _ | capture _ =>
        refine ⟨h.shape.judged, fun hlooking => ?_, fun hlifted => ?_⟩
        · rcases hstate with rfl | rfl <;> rcases hlooking with hon | hon <;> cases hon
        · rcases hstate with rfl | rfl <;> cases hlifted
  still := fun _ _ => hstate

/-- **The end of an action** that nothing goes on for. -/
theorem Started.done
    (h : Started mt request scans { dev.view with actionError := dev.actionErrorWith error } task)
    (hactive : dev.active = false) (hscan : dev.minutiaeScanActive = false)
    (hstate : dev.state ≠ .activating) :
    Returned mt request scans (dev.maybeCompleteAction error).view
      (task.maybeCompleteAction dev error) := by
  have hidle : ¬ (dev.active = true ∨ dev.minutiaeScanActive = true) := by
    rw [hactive, hscan]
    decide
  have haction : dev.currentAction = some request.action := h.action
  have hsome : dev.currentAction.isNone = false := by
    rw [haction]
    rfl
  have hresult : ∃ r, task.data.result ((dev.actionErrorWith error).or
      (if dev.cancelled then some .cancelled else none)) = some r ∧
      Right mt request scans task.reports r := by
    cases herror : dev.actionErrorWith error with
    | some e => exact h.right_error e
    | none =>
        by_cases hcancelled : dev.cancelled = true
        · rw [if_pos hcancelled]
          exact h.right_error .cancelled
        · rw [if_neg hcancelled]
          rcases h.stopped (Or.inr ⟨hactive, hstate⟩) with hsome | hyes | hfinished
          · have hnone : (dev.actionErrorWith error).isSome = true := hsome
            rw [herror] at hnone
            cases hnone
          · exact absurd hyes hcancelled
          · exact h.right_finished hfinished hscan herror
  obtain ⟨r, hr, hright⟩ := hresult
  rw [view_maybeCompleteAction_done hactive hscan hsome, FpTask.maybeCompleteAction,
    if_neg hidle, FpTask.complete, if_neg (by rw [hsome]; decide), hr, h.results]
  exact ⟨haction, rfl, hactive, hscan, r, rfl, hright⟩

variable (dev) in
/-- `fp_image_device_maybe_complete_action`, while something may still be going on. -/
theorem Ongoing.maybeComplete
    (h : Ongoing mt request scans { dev.view with actionError := dev.actionErrorWith error } task)
    (hstate : dev.active = false → dev.state ≠ .activating) :
    Stands mt request scans (dev.maybeCompleteAction error).view
      (task.maybeCompleteAction dev error) := by
  by_cases hbusy : dev.active = true ∨ dev.minutiaeScanActive = true
  · rw [view_maybeCompleteAction error hbusy, FpTask.maybeCompleteAction, if_pos hbusy]
    exact Or.inl h
  · have hactive : dev.active = false := Bool.eq_false_iff.mpr fun hon => hbusy (Or.inl hon)
    have hscan : dev.minutiaeScanActive = false :=
      Bool.eq_false_iff.mpr fun hon => hbusy (Or.inr hon)
    exact Or.inr (h.done hactive hscan (hstate hactive))

theorem actionErrorWith_none (dev : FpiDeviceGxfp) : dev.actionErrorWith none = dev.actionError :=
  if_neg fun h => nomatch h.1

theorem actionErrorWith_some (dev : FpiDeviceGxfp) (e : GError) :
    (dev.actionErrorWith (some e)).isSome = true := by
  unfold actionErrorWith
  split
  · rfl
  · rename_i hkept
    by_contra hnone
    exact hkept ⟨rfl, fun hsome => hnone hsome.1⟩

variable (dev) in
/-- **The device has been deactivated.** -/
theorem Ongoing.deactivateComplete (h : Ongoing mt request scans dev.view task) :
    Stands mt request scans dev.deactivateComplete.dev.view (task.deactivateComplete dev) := by
  by_cases hnot : ¬ dev.active = true ∨ dev.state ≠ .deactivating
  · unfold FpiDeviceGxfp.deactivateComplete FpTask.deactivateComplete
    rw [if_pos hnot, if_pos hnot]
    exact Or.inl h
  · have hstate : dev.state = .deactivating := not_not.mp fun hne => hnot (Or.inr hne)
    unfold FpiDeviceGxfp.deactivateComplete FpTask.deactivateComplete
    rw [if_neg hnot, if_neg hnot]
    refine Ongoing.maybeComplete
      { dev with active := false, fingerPresent := false, state := .inactive } ?_ ?_
    · rw [actionErrorWith_none]
      exact h.stop (h.stopped (Or.inl hstate)) (Or.inr rfl) false
    · exact fun _ => nofun

/-- A device that is being deactivated has been stopped. -/
theorem Started.ongoing (h : Started mt request scans v task) (hstate : v.state = .deactivating) :
    Ongoing mt request scans v task := ⟨h, fun _ _ => Or.inl hstate⟩

/-- **The device is deactivated**, with a reason. -/
theorem Started.imageDeviceDeactivate (h : Started mt request scans dev.view task)
    (hover : dev.view.Over request scans)
    (hoff : dev.active = false → Ongoing mt request scans dev.view task) :
    Stands mt request scans dev.imageDeviceDeactivate.dev.view
      (task.imageDeviceDeactivate dev) := by
  unfold FpiDeviceGxfp.imageDeviceDeactivate FpTask.imageDeviceDeactivate
  by_cases hnot : ¬ dev.active = true ∨ dev.state = .deactivating
  · rw [if_pos hnot, if_pos hnot]
    rcases hnot with hactive | hstate
    · exact Or.inl (hoff (Bool.eq_false_iff.mpr hactive))
    · exact Or.inl (h.ongoing hstate)
  · rw [if_neg hnot, if_neg hnot]
    show Stands mt request scans
      ({ dev with state := .deactivating, deactivating := true }.gxfpCancelTask).dev.view
      (task.gxfpCancelTask { dev with state := .deactivating, deactivating := true })
    have hstop : Ongoing mt request scans { dev.view with state := .deactivating } task :=
      h.stop hover (Or.inl rfl) dev.active
    unfold FpiDeviceGxfp.gxfpCancelTask FpTask.gxfpCancelTask
    dsimp only
    cases dev.taskSsm with
    | some m =>
        rw [view_ssmDo]
        exact Or.inl hstop
    | none =>
        dsimp only
        by_cases hsent : dev.deactivateCompleteSent = true
        · rw [if_pos hsent, if_pos hsent]
          exact Or.inl hstop
        · rw [if_neg hsent, if_neg hsent]
          exact Ongoing.deactivateComplete _ hstop

/-- An action that has its result is not stopped again. -/
theorem Returned.imageDeviceDeactivate (h : Returned mt request scans dev.view task) :
    Returned mt request scans dev.imageDeviceDeactivate.dev.view
      (task.imageDeviceDeactivate dev) := by
  have hnot : ¬ dev.active = true ∨ dev.state = .deactivating :=
    Or.inl (Bool.eq_false_iff.mp h.active)
  unfold FpiDeviceGxfp.imageDeviceDeactivate FpTask.imageDeviceDeactivate
  rw [if_pos hnot, if_pos hnot]
  exact h

variable (dev) in
/-- The two together. -/
theorem Started.completeAndDeactivate
    (h : Started mt request scans { dev.view with actionError := dev.actionErrorWith error } task)
    (hstate : dev.active = false → dev.state ≠ .activating)
    (hover : ActionView.Over request scans
      { dev.view with actionError := dev.actionErrorWith error })
    (hoff : dev.active = false → dev.minutiaeScanActive = true →
      Ongoing mt request scans { dev.view with actionError := dev.actionErrorWith error } task) :
    Stands mt request scans (dev.maybeCompleteAction error).imageDeviceDeactivate.dev.view
      ((task.maybeCompleteAction dev error).imageDeviceDeactivate
        (dev.maybeCompleteAction error)) := by
  by_cases hbusy : dev.active = true ∨ dev.minutiaeScanActive = true
  · have hview := view_maybeCompleteAction error hbusy
    rw [FpTask.maybeCompleteAction, if_pos hbusy]
    refine Started.imageDeviceDeactivate (hview ▸ h) (hview ▸ hover) fun hactive => ?_
    have hoff' : dev.active = false := (congrArg ActionView.active hview).symm.trans hactive
    rw [hview]
    exact hoff hoff' (hbusy.resolve_left (Bool.eq_false_iff.mp hoff'))
  · have hactive : dev.active = false := Bool.eq_false_iff.mpr fun hon => hbusy (Or.inl hon)
    have hscan : dev.minutiaeScanActive = false :=
      Bool.eq_false_iff.mpr fun hon => hbusy (Or.inr hon)
    exact Or.inr (h.done hactive hscan (hstate hactive)).imageDeviceDeactivate

end Stopping

/-! ### What tasks report -/

section Reporting

variable {mt : Matcher} {request : ActionRequest} {scans : List SigfmImgInfo}
  {v : ActionView} {task : FpTask} {dev : FpiDeviceGxfp} {error : Option GError}

/-- An error comes, and the one before it may stay. -/
theorem Ongoing.setError (h : Ongoing mt request scans v task) {actionError : Option GError}
    (herror : v.actionError.isSome = true → actionError.isSome = true) :
    Ongoing mt request scans { v with actionError } task := by
  have hover : v.Over request scans → ActionView.Over request scans { v with actionError } := by
    rintro (hsome | hcancelled | hfinished)
    · exact Or.inl (herror hsome)
    · exact Or.inr (Or.inl hcancelled)
    · exact Or.inr (Or.inr hfinished)
  refine ⟨⟨h.action, h.returning, h.results, h.queued, h.fresh, fun hstopped =>
    hover (h.stopped hstopped), ?_⟩, h.still⟩
  cases request with
  | enroll template => exact ⟨h.shape.data, h.shape.stage, h.shape.reports, h.shape.last⟩
  | verify _ | identify _ | capture _ =>
      refine ⟨?_, h.shape.looking, fun hlifted => hover (h.shape.lifted hlifted)⟩
      rcases h.shape.judged with hnew | ⟨info, dev, result, hscans, hscan, hdetected, hfailed⟩
      · exact Or.inl hnew
      · exact Or.inr ⟨info, dev, result, hscans, hscan, hdetected, fun e he =>
          herror (hfailed e he)⟩

theorem actionErrorWith_isSome (h : dev.actionError.isSome = true) :
    (dev.actionErrorWith error).isSome = true := by
  unfold actionErrorWith
  split
  · rename_i hset
    exact hset.1
  · exact h

/-- The states in which a device looks for a finger, or waits for it to be lifted. -/
def Working (state : ImageDeviceState) : Prop :=
  state ≠ .activating ∧ state ≠ .deactivating ∧ state ≠ .inactive

theorem Ongoing.not_working (h : Ongoing mt request scans v task)
    (henroll : request.action = .enroll) (hlast : v.enrollStage = enrollStages) :
    ¬ Working v.state := by
  intro hworking
  rcases h.still henroll hlast with hstate | hstate
  · exact hworking.2.1 hstate
  · exact hworking.2.2 hstate

/-- Between two of these nothing is over. -/
theorem Ongoing.setState (h : Ongoing mt request scans v task) (hfrom : Working v.state)
    {state : ImageDeviceState} (hto : Working state)
    (hlooking : request.action ≠ .enroll → state = .awaitFingerOn ∨ state = .capture →
      scans = [] ∧ v.minutiaeScanActive = false)
    (hlifted : request.action ≠ .enroll → state = .awaitFingerOff → v.Over request scans) :
    Ongoing mt request scans { v with state } task where
  action := h.action
  returning := h.returning
  results := h.results
  queued := h.queued
  fresh := fun hactivating => absurd hactivating hto.1
  stopped := fun hstopped => h.stopped (Or.inr ⟨(hstopped.resolve_left hto.2.1).1, hfrom.1⟩)
  shape := by
    cases request with
    | enroll template => exact ⟨h.shape.data, h.shape.stage, h.shape.reports, h.shape.last⟩
    | verify _ | identify _ | capture _ => exact ⟨h.shape.judged, hlooking nofun, hlifted nofun⟩
  still := fun henroll hlast => absurd hfrom (h.not_working henroll hlast)

/-- **An error** ends an action that nothing is going on for. -/
theorem Ongoing.complete (h : Ongoing mt request scans dev.view task) (e : GError)
    (hactive : dev.active = false) (hscan : dev.minutiaeScanActive = false) :
    Returned mt request scans dev.actionComplete.view (task.complete dev (some e)) := by
  have haction : dev.currentAction = some request.action := h.action
  have hsome : ¬ dev.currentAction.isNone = true := by
    rw [haction]
    exact Bool.false_ne_true
  obtain ⟨r, hr, hright⟩ := h.right_error e
  rw [actionComplete, if_neg hsome, FpTask.complete, if_neg hsome, hr, h.results]
  exact ⟨haction, rfl, hactive, hscan, r, rfl, hright⟩

variable (dev) in
/-- **The device has been activated**, or has not. -/
theorem Ongoing.activateComplete (h : Ongoing mt request scans dev.view task)
    (error : Option GError) :
    Stands mt request scans (dev.activateComplete error).dev.view
      (task.activateComplete dev error) := by
  unfold FpiDeviceGxfp.activateComplete FpTask.activateComplete
  by_cases hnot : dev.active = true ∨ dev.state ≠ .activating ∨ ¬ dev.capturing = true
  · rw [if_pos hnot, if_pos hnot]
    exact Or.inl h
  have hstate : dev.state = .activating := not_not.mp fun hne => hnot (Or.inr (Or.inl hne))
  have hactive : dev.active = false := Bool.eq_false_iff.mpr fun hon => hnot (Or.inl hon)
  obtain ⟨rfl, hscan⟩ := h.fresh hstate
  rw [if_neg hnot, if_neg hnot]
  cases error with
  | some e => exact Or.inr (h.complete e hactive hscan)
  | none =>
      refine Or.inl ?_
      show Ongoing mt request []
        ((({ dev with active := true }.changeState .idle).dev).changeState .awaitFingerOn).dev.view
        task
      rw [view_changeState, view_changeState]
      refine ⟨⟨h.action, h.returning, h.results, h.queued, nofun, ?_, ?_⟩, ?_⟩
      · rintro (hne | ⟨hon, -⟩)
        · cases hne
        · cases hon
      · cases request with
        | enroll template => exact ⟨h.shape.data, h.shape.stage, h.shape.reports, h.shape.last⟩
        | verify _ | identify _ | capture _ =>
            refine ⟨?_, fun _ => ⟨rfl, hscan⟩, nofun⟩
            rcases h.shape.judged with hnew | ⟨info, dev', result, hnil, -⟩
            · exact Or.inl hnew
            · cases hnil
      · intro henroll hlast
        rcases h.still henroll hlast with hstate' | hstate'
        · cases hstate.symm.trans hstate'
        · cases hstate.symm.trans hstate'

/-- **A task has failed.** -/
theorem Ongoing.reportSessionError (h : Ongoing mt request scans dev.view task) (e : GError) :
    Stands mt request scans (dev.reportSessionError e).dev.view
      (task.reportSessionError dev e) := by
  have haction : dev.currentAction = some request.action := h.action
  unfold FpiDeviceGxfp.reportSessionError FpTask.reportSessionError
  by_cases hoff : ¬ dev.active = true ∧ dev.currentAction.isSome = true
  · rw [if_pos hoff, if_pos hoff]
    exact h.activateComplete _ _
  rw [if_neg hoff, if_neg hoff]
  by_cases hcancelled : dev.active = true ∧ e = .cancelled ∧ dev.cancelled = true
  · rw [if_pos hcancelled, if_pos hcancelled]
    exact Or.inl h
  rw [if_neg hcancelled, if_neg hcancelled]
  by_cases hinactive : dev.active = true ∧ dev.state = .inactive
  · rw [if_pos hinactive, if_pos hinactive]
    exact Or.inl h
  rw [if_neg hinactive, if_neg hinactive]
  have hactive : dev.active = true := by
    by_contra hnot
    exact hoff ⟨hnot, by rw [haction]; rfl⟩
  refine Started.completeAndDeactivate dev (h.setError actionErrorWith_isSome).toStarted ?_
    (Or.inl (actionErrorWith_some dev e)) fun _ _ => h.setError actionErrorWith_isSome
  intro hnot
  rw [hactive] at hnot
  cases hnot

theorem ne_enroll_of_action (haction : dev.currentAction = some request.action) :
    dev.currentAction ≠ some .enroll ↔ request.action ≠ .enroll := by
  rw [haction]
  simp

/-- **A finger** has come, or has gone. -/
theorem Ongoing.reportFingerStatus (h : Ongoing mt request scans dev.view task) (present : Bool) :
    Stands mt request scans (dev.reportFingerStatus present).dev.view
      (task.reportFingerStatus dev present) := by
  have haction : dev.currentAction = some request.action := h.action
  unfold FpiDeviceGxfp.reportFingerStatus FpTask.reportFingerStatus
  by_cases hinactive : dev.state = .inactive
  · rw [if_pos hinactive, if_pos hinactive]
    exact Or.inl h
  rw [if_neg hinactive, if_neg hinactive]
  dsimp only
  by_cases hon : present = true ∧ dev.state = .awaitFingerOn
  · rw [if_pos hon, if_pos hon]
    refine Or.inl ?_
    show Ongoing mt request scans
      (({ dev with fingerPresent := present }.changeState .capture).dev.view) task
    rw [view_changeState]
    refine h.setState ?_ ⟨nofun, nofun, nofun⟩ (fun hne _ => ?_) fun _ hne => nomatch hne
    · show Working dev.state
      rw [hon.2]
      exact ⟨nofun, nofun, nofun⟩
    · cases request with
      | enroll _ => exact absurd rfl hne
      | verify _ | identify _ | capture _ => exact h.shape.looking (Or.inl hon.2)
  rw [if_neg hon, if_neg hon]
  by_cases hoff : ¬ present = true ∧ dev.state = .awaitFingerOff
  swap
  · rw [if_neg hoff, if_neg fun hall => hoff ⟨hall.1, hall.2.1⟩]
    exact Or.inl h
  rw [if_pos hoff]
  have hfrom : Working dev.view.state := by
    show Working dev.state
    rw [hoff.2]
    exact ⟨nofun, nofun, nofun⟩
  have hidle : Ongoing mt request scans { dev.view with state := .idle } task :=
    h.setState hfrom ⟨nofun, nofun, nofun⟩ (fun _ hne => by rcases hne with hne | hne <;> cases hne)
      fun _ hne => nomatch hne
  by_cases henroll : dev.currentAction ≠ some .enroll
  · rw [if_pos ⟨hoff.1, hoff.2, henroll⟩]
    show Stands mt request scans
      (if dev.currentAction ≠ some DeviceAction.enroll then
        { dev with fingerPresent := present, state := .idle }.imageDeviceDeactivate
      else
        { dev with fingerPresent := present, state := .idle }.enrollMaybeAwaitFingerOn).dev.view _
    rw [if_pos henroll]
    refine Started.imageDeviceDeactivate hidle.toStarted ?_ fun _ => hidle
    cases request with
    | enroll _ => exact absurd haction henroll
    | verify _ | identify _ | capture _ => exact h.shape.lifted hoff.2
  · rw [if_neg fun hall => henroll hall.2.2]
    show Stands mt request scans
      (if dev.currentAction ≠ some DeviceAction.enroll then
        { dev with fingerPresent := present, state := .idle }.imageDeviceDeactivate
      else
        { dev with fingerPresent := present, state := .idle }.enrollMaybeAwaitFingerOn).dev.view _
    rw [if_neg henroll]
    refine Or.inl ?_
    unfold enrollMaybeAwaitFingerOn
    split
    · exact hidle
    · rw [view_changeState]
      exact h.setState hfrom ⟨nofun, nofun, nofun⟩
        (fun hne _ => absurd ((ne_enroll_of_action haction).mpr hne) henroll)
        fun _ hne => nomatch hne

variable (dev) in
/-- **An image has been captured.** -/
theorem Ongoing.reportImageCaptured (h : Ongoing mt request scans dev.view task) :
    Ongoing mt request scans dev.reportImageCaptured.dev.view task := by
  unfold FpiDeviceGxfp.reportImageCaptured
  by_cases hnot : dev.state ≠ .capture ∨ ¬ dev.capturing = true
  · rw [if_pos hnot]
    exact h
  have hstate : dev.state = .capture := not_not.mp fun hne => hnot (Or.inl hne)
  rw [if_neg hnot]
  show Ongoing mt request scans
    ({ dev with minutiaeScanActive := true }.changeState .awaitFingerOff).dev.view task
  rw [view_changeState]
  have hover : request.action ≠ .enroll → ActionView.Over request scans
      { dev.view with minutiaeScanActive := true, state := .awaitFingerOff } := by
    intro hne
    cases request with
    | enroll _ => exact absurd rfl hne
    | verify _ | identify _ | capture _ => exact Or.inr (Or.inr (Or.inl rfl))
  have hworking : Working dev.view.state := by
    show Working dev.state
    rw [hstate]
    exact ⟨nofun, nofun, nofun⟩
  refine ⟨⟨h.action, h.returning, h.results, h.queued, nofun, ?_, ?_⟩, fun henroll hlast =>
    absurd hworking (h.not_working henroll hlast)⟩
  · rintro (hne | ⟨hactive, -⟩)
    · cases hne
    · have hwas : dev.view.Over request scans :=
        h.stopped (Or.inr ⟨hactive, fun hne => nomatch hstate.symm.trans hne⟩)
      cases request with
      | enroll _ => exact hwas
      | verify _ | identify _ | capture _ => exact hover nofun
  · cases request with
    | enroll template =>
        exact ⟨h.shape.data, h.shape.stage, h.shape.reports, fun hlast =>
          absurd hworking (h.not_working rfl hlast)⟩
    | verify _ | identify _ | capture _ =>
        obtain ⟨rfl, -⟩ := h.shape.looking (Or.inr hstate)
        refine ⟨?_, (by rintro (hne | hne) <;> cases hne), fun _ => hover nofun⟩
        rcases h.shape.judged with hnew | ⟨info, dev', result, hnil, -⟩
        · exact Or.inl hnew
        · cases hnil

/-- **A task has finished**, whatever has come of it. -/
theorem Ongoing.gxfpTaskFinished (h : Ongoing mt request scans dev.view task) (m : Nat)
    (error : Option GError) :
    Stands mt request scans (dev.gxfpTaskFinished m error).dev.view
      (task.gxfpTaskFinished dev m error) := by
  unfold FpiDeviceGxfp.gxfpTaskFinished FpTask.gxfpTaskFinished
  dsimp only
  generalize hdev : (if dev.taskSsm = some m then
    { dev with taskSsm := none, taskKind := .none, taskDeadline := false } else dev) = dev'
  have hview : dev'.view = dev.view := by
    rw [← hdev]
    split <;> rfl
  rw [← hview] at h
  by_cases hclosing : dev'.closing = true
  · rw [if_pos hclosing, if_pos hclosing]
    exact Or.inl h
  rw [if_neg hclosing, if_neg hclosing]
  by_cases hdeactivating : dev'.deactivating = true
  · rw [if_pos hdeactivating, if_pos hdeactivating]
    by_cases hsent : dev'.deactivateCompleteSent = true
    · rw [if_pos hsent, if_pos hsent]
      exact Or.inl h
    · rw [if_neg hsent, if_neg hsent]
      exact Ongoing.deactivateComplete { dev' with deactivateCompleteSent := true } h
  rw [if_neg hdeactivating, if_neg hdeactivating]
  cases error with
  | some e =>
      dsimp only
      by_cases hkind : dev.taskKind = .activate
      · rw [if_pos hkind, if_pos hkind]
        exact h.activateComplete _ _
      · rw [if_neg hkind, if_neg hkind]
        exact h.reportSessionError e
  | none =>
      dsimp only
      cases dev.taskKind with
      | none => exact Or.inl h
      | activate =>
          have hnone : task.activateComplete dev' none = task := by
            unfold FpTask.activateComplete
            split <;> rfl
          have hstands := h.activateComplete dev' none
          rw [hnone] at hstands
          exact hstands
      | waitDown => exact h.reportFingerStatus true
      | waitUp => exact h.reportFingerStatus false
      | capture =>
          dsimp only
          split
          · refine Or.inl ?_
            exact Ongoing.reportImageCaptured { dev' with capturedImage := false } h
          · exact Or.inl h

end Reporting

/-! ### What closing the device leaves pending -/

/-- No part of `gxfp_img_close` is among the calls that the effect leaves. -/
def Effect.Open (e : Effect) : Prop := .imgCloseRest ∉ e.calls

namespace FpiDeviceGxfp

variable (dev : FpiDeviceGxfp)

theorem open_only : (Effect.only dev).Open := List.not_mem_nil

variable {dev}

theorem open_seen {e : Effect} (h : e.Open) (event : DriverEvent) : (Effect.seen event e).Open := h

theorem open_bind {e : Effect} {f : FpiDeviceGxfp → Effect} (h : e.Open) (hf : (f e.dev).Open) :
    (e.bind f).Open := by
  intro hmem
  rcases List.mem_append.mp hmem with hmem | hmem
  · exact h hmem
  · exact hf hmem

theorem open_ssmNext (m : Nat) (r : FpiSsm × SsmNext) : (dev.ssmNext m r).Open := by
  unfold ssmNext Effect.Open
  dsimp only
  cases r.2 <;> simp [Effect.only]

theorem open_ssmDo (m : Nat) (f : FpiSsm → FpiSsm × SsmNext) : (dev.ssmDo m f).Open := by
  unfold ssmDo
  split
  · exact open_only dev
  · exact open_ssmNext m _

theorem open_changeState (state : ImageDeviceState) : (dev.changeState state).Open := by
  unfold changeState gxfpChangeState
  cases state with
  | awaitFingerOn | awaitFingerOff =>
      dsimp only
      unfold gxfpStartWait
      split
      · exact open_only _
      · exact open_ssmNext _ _
  | capture =>
      dsimp only
      unfold gxfpStartCapture
      split
      · exact open_only _
      · exact open_ssmNext _ _
  | inactive | deactivating | activating | idle => exact open_only _

theorem open_callHandler (m : Nat) (io : IoOutcome) : (dev.callHandler m io).Open := by
  rcases dev.callHandler_cases m io with heq | ⟨dev', f, -, heq⟩
  · rw [heq]
    exact open_only dev
  · rw [heq]
    exact open_ssmDo m f

theorem open_activateComplete (error : Option GError) : (dev.activateComplete error).Open := by
  unfold activateComplete
  refine open_seen ?_ _
  split
  · exact open_only _
  · split
    · exact open_only _
    · exact open_bind (open_changeState _) (open_changeState _)

theorem open_deactivateComplete : dev.deactivateComplete.Open := by
  unfold deactivateComplete
  refine open_seen ?_ _
  split
  · exact open_only _
  · exact open_bind (open_changeState _) (open_only _)

theorem open_gxfpDeactivate : dev.gxfpDeactivate.Open := by
  have hcancel : ({ dev with deactivating := true }.gxfpCancelTask).Open := by
    unfold gxfpCancelTask
    split
    · exact open_ssmDo _ _
    · split
      · exact open_only _
      · exact open_deactivateComplete
  unfold gxfpDeactivate
  refine open_seen ?_ _
  intro hmem
  rcases List.mem_append.mp hmem with hmem | hmem
  · exact hcancel hmem
  · cases List.mem_singleton.mp hmem

theorem open_imageDeviceDeactivate : dev.imageDeviceDeactivate.Open := by
  unfold imageDeviceDeactivate
  split
  · exact open_only _
  · exact open_bind (open_changeState _) open_gxfpDeactivate

theorem open_enrollMaybeAwaitFingerOn : dev.enrollMaybeAwaitFingerOn.Open := by
  unfold enrollMaybeAwaitFingerOn
  split
  · exact open_only _
  · exact open_changeState _

theorem open_reportSessionError (error : GError) : (dev.reportSessionError error).Open := by
  unfold reportSessionError
  refine open_seen ?_ _
  split
  · exact open_activateComplete _
  · split
    · exact open_only _
    · split
      · exact open_only _
      · exact open_imageDeviceDeactivate

theorem open_reportFingerStatus (present : Bool) : (dev.reportFingerStatus present).Open := by
  unfold reportFingerStatus
  refine open_seen ?_ _
  split
  · exact open_only _
  · dsimp only
    split
    · exact open_changeState _
    · split
      · refine open_bind (open_changeState _) ?_
        split
        · exact open_imageDeviceDeactivate
        · exact open_enrollMaybeAwaitFingerOn
      · exact open_only _

theorem open_reportImageCaptured : dev.reportImageCaptured.Open := by
  unfold reportImageCaptured
  refine open_seen ?_ _
  split
  · exact open_only _
  · exact open_changeState _

/-- **The end of a task** leaves none of it. -/
theorem open_gxfpTaskFinished (m : Nat) (error : Option GError) :
    (dev.gxfpTaskFinished m error).Open := by
  unfold gxfpTaskFinished
  dsimp only
  generalize (if dev.taskSsm = some m then
    { dev with taskSsm := none, taskKind := .none, taskDeadline := false } else dev) = dev'
  split
  · exact open_only _
  · split
    · split
      · exact open_only _
      · exact open_deactivateComplete
    · cases error with
      | some e =>
          dsimp only
          split
          · exact open_activateComplete _
          · exact open_reportSessionError e
      | none =>
          dsimp only
          cases dev.taskKind with
          | none => exact open_only _
          | activate => exact open_activateComplete _
          | waitDown | waitUp => exact open_reportFingerStatus _
          | capture =>
              dsimp only
              split
              · exact open_reportImageCaptured
              · exact open_only _

theorem open_enrollDetected (print : Bool) (error : Option GError) :
    (dev.enrollDetected print error).Open := by
  unfold enrollDetected
  generalize (if print = true then { dev with enrollStage := dev.enrollStage + 1 } else dev) = dev'
  dsimp only
  split
  · exact open_imageDeviceDeactivate
  · exact open_enrollMaybeAwaitFingerOn

theorem open_minutiaeDetected (result : MinutiaeResult) : (dev.minutiaeDetected result).Open := by
  unfold minutiaeDetected
  dsimp only
  cases result with
  | cancelled => exact open_imageDeviceDeactivate
  | unreadable =>
      dsimp only
      split
      · exact open_only _
      · split
        · exact open_enrollDetected _ _
        · exact open_only _
  | noPrint error =>
      dsimp only
      split
      · exact open_only _
      · split
        · exact open_imageDeviceDeactivate
        · split
          · exact open_enrollDetected _ _
          · exact open_only _
  | print error =>
      dsimp only
      split
      · exact open_only _
      · split
        · exact open_enrollDetected _ _
        · exact open_only _

theorem open_startCaptureAction (waitForFinger : Bool) (rearm : Option GError) :
    (dev.startCaptureAction waitForFinger rearm).Open := by
  unfold startCaptureAction
  split
  · exact open_only _
  · refine open_bind (open_changeState _) ?_
    unfold gxfpActivate
    split
    · exact open_seen (open_only _) _
    · dsimp only
      cases rearm with
      | some error => exact open_seen (open_activateComplete _) _
      | none => exact open_seen (open_ssmNext _ _) _

end FpiDeviceGxfp

/-! ### Scans -/

/-- While a scan is running the device has been activated, and the last stage is not over. -/
structure ScanRuns (request : ActionRequest) (scans : List SigfmImgInfo) (v : ActionView)
    (task : FpTask) : Prop where
  state : v.state ≠ .activating
  looking : request.action ≠ .enroll → ¬ (v.state = .awaitFingerOn ∨ v.state = .capture)
  stage : request.action = .enroll → v.enrollStage ≠ enrollStages
  first : request.action ≠ .enroll → scans = [] ∧ task = .new request

section Scanning

variable {mt : Matcher} {request : ActionRequest} {scans : List SigfmImgInfo}
  {v : ActionView} {task task' : FpTask} {dev : FpiDeviceGxfp} {info : SigfmImgInfo}
  {result : MinutiaeResult}

theorem Ongoing.scanRuns (h : Ongoing mt request scans v task)
    (hscan : v.minutiaeScanActive = true) : ScanRuns request scans v task := by
  have hne : v.minutiaeScanActive ≠ false := by
    rw [hscan]
    decide
  refine ⟨fun hstate => hne (h.fresh hstate).2, ?_, ?_, ?_⟩
  · intro henroll hlooking
    cases request with
    | enroll _ => exact henroll rfl
    | verify _ | identify _ | capture _ => exact hne (h.shape.looking hlooking).2
  · intro henroll hlast
    cases request with
    | enroll _ => exact hne (h.shape.last hlast)
    | verify _ | identify _ | capture _ => cases henroll
  · intro henroll
    cases request with
    | enroll _ => exact absurd rfl henroll
    | verify _ | identify _ | capture _ =>
        rcases h.shape.judged with hnew | ⟨_, _, _, -, hoff, -⟩
        · exact hnew
        · exact absurd hoff hne

/-- **A scan that was cancelled** leaves the action with an error. -/
theorem Ongoing.scanCancelled (h : Ongoing mt request scans dev.view task)
    (hscan : dev.minutiaeScanActive = true) (e : GError) :
    Stands mt request scans
      (({ dev with minutiaeScanActive := false }.maybeCompleteAction
        (some e)).imageDeviceDeactivate).dev.view
      ((task.maybeCompleteAction { dev with minutiaeScanActive := false }
        (some e)).imageDeviceDeactivate
          ({ dev with minutiaeScanActive := false }.maybeCompleteAction (some e))) := by
  have hruns := h.scanRuns hscan
  have hsome := actionErrorWith_some { dev with minutiaeScanActive := false } e
  refine Started.completeAndDeactivate _ ?_ (fun _ => hruns.state) (Or.inl hsome)
    fun _ hon => nomatch hon
  refine ⟨h.action, h.returning, h.results, h.queued, fun hstate => absurd hstate hruns.state,
    fun _ => Or.inl hsome, ?_⟩
  cases request with
  | enroll template =>
      exact ⟨h.shape.data, h.shape.stage, h.shape.reports, fun _ => rfl⟩
  | verify _ | identify _ | capture _ =>
      exact ⟨Or.inl (hruns.first nofun), fun hlooking => absurd hlooking (hruns.looking nofun),
        fun _ => Or.inl hsome⟩

variable (dev) in
/-- **The end of a scan** for an enrolment. -/
theorem Started.enrollDetected {print : Bool} {error : Option GError}
    (h : Started mt request scans
      { dev.view with enrollStage := dev.enrollStage + print.toNat } task)
    (henroll : request.action = .enroll) (hscan : dev.minutiaeScanActive = false)
    (hstate : dev.state ≠ .activating) :
    Stands mt request scans (dev.enrollDetected print error).dev.view
      (task.enrollDetected dev print error) := by
  have hdev : (if print = true then { dev with enrollStage := dev.enrollStage + 1 } else dev) =
      { dev with enrollStage := dev.enrollStage + print.toNat } := by
    cases print <;> rfl
  unfold FpiDeviceGxfp.enrollDetected FpTask.enrollDetected
  rw [hdev]
  dsimp only
  by_cases hlast : dev.enrollStage + print.toNat = enrollStages
  · rw [if_pos hlast, if_pos hlast]
    refine Started.completeAndDeactivate
      { dev with enrollStage := dev.enrollStage + print.toNat } ?_ (fun _ => hstate) ?_ ?_
    · cases request with
      | enroll template =>
          refine ⟨h.action, h.returning, h.results, h.queued, fun hne => absurd hne hstate, fun _ =>
            Or.inr (Or.inr hlast), h.shape.data, h.shape.stage, h.shape.reports, fun _ => hscan⟩
      | verify _ | identify _ | capture _ => cases henroll
    · cases request with
      | enroll template => exact Or.inr (Or.inr hlast)
      | verify _ | identify _ | capture _ => cases henroll
    · intro _ hon
      rw [show dev.minutiaeScanActive = true from hon] at hscan
      cases hscan
  · rw [if_neg hlast, if_neg hlast]
    refine Or.inl ?_
    unfold enrollMaybeAwaitFingerOn
    split
    · exact ⟨h, fun _ hstage => absurd hstage hlast⟩
    · rw [view_changeState]
      refine ⟨⟨h.action, h.returning, h.results, h.queued, nofun, ?_, ?_⟩, fun _ hstage =>
        absurd hstage hlast⟩
      · rintro (hne | ⟨hactive, -⟩)
        · cases hne
        · exact h.stopped (Or.inr ⟨hactive, hstate⟩)
      · cases request with
        | enroll template =>
            exact ⟨h.shape.data, h.shape.stage, h.shape.reports, h.shape.last⟩
        | verify _ | identify _ | capture _ => cases henroll

/-- **A scan for an enrolment** is a stage, or is to be tried again. -/
theorem Ongoing.enrollScanned {template : FpPrint}
    (h : Ongoing mt (.enroll template) scans dev.view task) (hscan : dev.minutiaeScanActive = true)
    (hdetected : task.detected mt dev (.extracted info) = some (result, task')) :
    Stands mt (.enroll template) (scans ++ [info]) (dev.minutiaeDetected result).dev.view
      (task'.minutiaeDetected dev result) := by
  have hruns := h.scanRuns hscan
  have haction : dev.currentAction = some .enroll := h.action
  have hcapture : ¬ dev.currentAction = some .capture := by
    rw [haction]
    decide
  have hstage : dev.enrollStage = (readable scans).length := h.shape.stage
  have hover : dev.state = .deactivating ∨ dev.active = false ∧ dev.state ≠ .activating →
      dev.actionError.isSome = true ∨ dev.cancelled = true := by
    intro hstopped
    rcases h.stopped hstopped with hsome | hcancelled | hlast
    · exact Or.inl hsome
    · exact Or.inr hcancelled
    · exact absurd hlast (hruns.stage rfl)
  by_cases hread : Readable info
  · rw [detected_readable hread, FpTask.detectedPrint, h.shape.data] at hdetected
    simp only [FpPrint.enrolledWith_add, Option.bind_eq_bind, Option.bind_some] at hdetected
    cases hdetected
    show Stands mt (.enroll template) (scans ++ [info])
      (if dev.currentAction = some DeviceAction.capture then _
        else if dev.currentAction = some DeviceAction.enroll then
          { dev with minutiaeScanActive := false }.enrollDetected true none
        else _).dev.view
      (if dev.currentAction = some DeviceAction.capture then _
        else if dev.currentAction = some DeviceAction.enroll then
          FpTask.enrollDetected { dev with minutiaeScanActive := false } _ true none
        else _)
    rw [if_neg hcapture, if_pos haction, if_neg hcapture, if_pos haction]
    refine Started.enrollDetected { dev with minutiaeScanActive := false } ?_ rfl rfl
      hruns.state
    have hsnoc : readable (scans ++ [info]) = readable scans ++ [info] := by
      rw [readable_snoc, if_pos hread]
    refine ⟨haction, h.returning, h.results, h.queued, fun hne => absurd hne hruns.state,
      fun hstopped => (hover hstopped).imp_right Or.inl, ?_, ?_, ?_, fun _ => rfl⟩
    · rw [hsnoc]
    · rw [hsnoc, List.length_append, ← hstage]
      rfl
    · rw [progressOf_snoc, if_pos hread, Nat.zero_add, ← hstage, h.shape.reports]
  · rw [detected_unreadable hread] at hdetected
    cases hdetected
    show Stands mt (.enroll template) (scans ++ [info])
      (if dev.currentAction = some DeviceAction.capture then _
        else if dev.currentAction = some DeviceAction.enroll then
          { dev with minutiaeScanActive := false }.enrollDetected false (some .retry)
        else _).dev.view
      (if dev.currentAction = some DeviceAction.capture then _
        else if dev.currentAction = some DeviceAction.enroll then
          FpTask.enrollDetected { dev with minutiaeScanActive := false } _ false (some .retry)
        else _)
    rw [if_neg hcapture, if_pos haction, if_neg hcapture, if_pos haction]
    refine Started.enrollDetected { dev with minutiaeScanActive := false } ?_ rfl rfl
      hruns.state
    have hsnoc : readable (scans ++ [info]) = readable scans := by
      rw [readable_snoc, if_neg hread, List.append_nil]
    have htask : task.unreadable dev = { task with
        reports := task.reports ++ [.progress dev.enrollStage none (some .retry)] } := by
      unfold FpTask.unreadable
      rw [h.shape.data]
    rw [htask]
    refine ⟨haction, h.returning, h.results, h.queued, fun hne => absurd hne hruns.state,
      fun hstopped => (hover hstopped).imp_right Or.inl, ?_, ?_, ?_, fun _ => rfl⟩
    · rw [hsnoc]
      exact h.shape.data
    · rw [hsnoc]
      exact hstage
    · rw [progressOf_snoc, if_neg hread, Nat.zero_add, ← hstage]
      exact congrArg (· ++ _) h.shape.reports

/-- A comparison is all that can fail of a scan. -/
theorem detected_result
    (hdetected : task.detected mt dev (.extracted info) = some (result, task')) :
    result = .unreadable ∨ result = .print none ∨
      result = .print (some .general) ∧ ∀ image, task.data ≠ .capture image := by
  by_cases hread : Readable info
  · rw [detected_readable hread] at hdetected
    unfold FpTask.detectedPrint at hdetected
    cases hdata : task.data with
    | none | capture _ =>
        rw [hdata] at hdetected
        cases hdetected
        exact Or.inr (Or.inl rfl)
    | enroll print =>
        rw [hdata] at hdetected
        obtain ⟨added, -, h⟩ := Option.bind_eq_some_iff.mp hdetected
        cases h
        exact Or.inr (Or.inl rfl)
    | verify template data =>
        rw [hdata] at hdetected
        obtain ⟨m, -, h⟩ := Option.bind_eq_some_iff.mp hdetected
        cases m with
        | error _ =>
            cases h
            exact Or.inr (Or.inr ⟨rfl, fun _ => nofun⟩)
        | fail | success =>
            cases h
            exact Or.inr (Or.inl rfl)
    | identify gallery data =>
        rw [hdata] at hdetected
        obtain ⟨m, -, h⟩ := Option.bind_eq_some_iff.mp hdetected
        cases m with
        | error _ =>
            cases h
            exact Or.inr (Or.inr ⟨rfl, fun _ => nofun⟩)
        | ok _ =>
            cases h
            exact Or.inr (Or.inl rfl)
  · rw [detected_unreadable hread] at hdetected
    cases hdetected
    exact Or.inl rfl

/-- What `fpi_image_device_minutiae_detected` ends with for an action that is no enrolment. -/
theorem minutiaeDetected_ends_with (task : FpTask)
    (haction : dev.currentAction = some request.action)
    (henroll : request.action ≠ .enroll)
    (hresult : result = .unreadable ∨ result = .print none ∨
      result = .print (some .general) ∧ request.action ≠ .capture) :
    ∃ error, (∀ e, result = .print (some e) → error = some .general) ∧
      dev.minutiaeDetected result =
        .only ({ dev with minutiaeScanActive := false }.maybeCompleteAction error) ∧
      task.minutiaeDetected dev result =
        task.maybeCompleteAction { dev with minutiaeScanActive := false } error := by
  have hnot : ¬ dev.currentAction = some .enroll := (ne_enroll_of_action haction).mpr henroll
  unfold FpiDeviceGxfp.minutiaeDetected FpTask.minutiaeDetected
  dsimp only
  by_cases hcapture : dev.currentAction = some .capture
  · rcases hresult with rfl | rfl | ⟨-, hne⟩
    · exact ⟨some .retry, fun _ => nofun, if_pos hcapture, if_pos hcapture⟩
    · exact ⟨none, fun _ => nofun, if_pos hcapture, if_pos hcapture⟩
    · exact absurd (Option.some.inj (haction.symm.trans hcapture)) hne
  · rcases hresult with rfl | rfl | ⟨rfl, -⟩
    · refine ⟨none, fun _ => nofun, ?_, ?_⟩
      · dsimp only
        rw [if_neg hcapture, if_neg hnot]
      · dsimp only
        rw [if_neg hcapture, if_neg hnot]
    · refine ⟨none, fun _ => nofun, ?_, ?_⟩
      · dsimp only
        rw [if_neg hcapture, if_neg hnot]
        rfl
      · dsimp only
        rw [if_neg hcapture, if_neg hnot]
        rfl
    · refine ⟨some .general, fun _ _ => rfl, ?_, ?_⟩
      · dsimp only
        rw [if_neg hcapture, if_neg hnot]
        rfl
      · dsimp only
        rw [if_neg hcapture, if_neg hnot]
        rfl

/-- **A scan for another action** is what it is judged by. -/
theorem Ongoing.judgeScanned (h : Ongoing mt request scans dev.view task)
    (henroll : request.action ≠ .enroll) (hscan : dev.minutiaeScanActive = true)
    (hdetected : task.detected mt dev (.extracted info) = some (result, task')) :
    Stands mt request (scans ++ [info]) (dev.minutiaeDetected result).dev.view
      (task'.minutiaeDetected dev result) := by
  have hruns := h.scanRuns hscan
  obtain ⟨rfl, rfl⟩ := hruns.first henroll
  have haction : dev.currentAction = some request.action := h.action
  have hresult : result = .unreadable ∨ result = .print none ∨
      result = .print (some .general) ∧ request.action ≠ .capture := by
    refine (detected_result hdetected).imp_right (Or.imp_right (And.imp_right ?_))
    intro hdata hcapture
    cases request with
    | capture wait => exact hdata false rfl
    | enroll _ | verify _ | identify _ => cases hcapture
  obtain ⟨error, herror, hdev, htask⟩ :=
    minutiaeDetected_ends_with task' haction henroll hresult
  rw [hdev, htask]
  have hover : ∀ v : ActionView, v.Over request ([] ++ [info]) := by
    intro v
    refine Or.inr (Or.inr ?_)
    cases request with
    | enroll _ => exact absurd rfl henroll
    | verify _ | identify _ | capture _ => exact Or.inr (List.cons_ne_nil _ _)
  have hfailed : ∀ e, result = .print (some e) →
      (actionErrorWith { dev with minutiaeScanActive := false } error).isSome = true := by
    intro e he
    rw [herror e he]
    exact actionErrorWith_some _ _
  refine Ongoing.maybeComplete { dev with minutiaeScanActive := false }
    ⟨⟨haction, h.returning, (detected_keeps hdetected).1, h.queued, fun hne =>
      absurd hne hruns.state, fun _ => hover _, ?_⟩, fun hne => absurd hne henroll⟩
    fun _ => hruns.state
  cases request with
  | enroll _ => exact absurd rfl henroll
  | verify _ | identify _ | capture _ =>
      exact ⟨Or.inr ⟨info, dev, result, rfl, rfl, hdetected, hfailed⟩,
        fun hlooking => absurd hlooking (hruns.looking nofun), fun _ => hover _⟩

/-- What has been extracted by a scan. -/
def Scan.infos : Scan → List SigfmImgInfo
  | .cancelled => []
  | .extracted info => [info]

/-- **A scan is done.** -/
theorem Ongoing.minutiaeDetected {scan : Scan} (h : Ongoing mt request scans dev.view task)
    (hscan : dev.minutiaeScanActive = true)
    (hdetected : task.detected mt dev scan = some (result, task')) :
    Stands mt request (scans ++ scan.infos) (dev.minutiaeDetected result).dev.view
      (task'.minutiaeDetected dev result) := by
  cases scan with
  | cancelled =>
      cases hdetected
      show Stands mt request (scans ++ []) _ _
      rw [List.append_nil]
      exact h.scanCancelled hscan .cancelled
  | extracted info =>
      by_cases henroll : request.action = .enroll
      · cases request with
        | enroll template => exact h.enrollScanned hscan hdetected
        | verify _ | identify _ | capture _ => cases henroll
      · exact h.judgeScanned henroll hscan hdetected

end Scanning

/-! ### The beginning of an action -/

section Start

variable {mt : Matcher} {request : ActionRequest} {dev : FpiDeviceGxfp}

/-- **An action begins** with nothing going on. -/
theorem stands_startCaptureAction (haction : dev.currentAction = some request.action)
    (hreturning : dev.returning = false) (hactive : dev.active = false)
    (hscan : dev.minutiaeScanActive = false)
    (hqueued : dev.cancelQueued = true → dev.cancelled = true) (rearm : Option GError) :
    Stands mt request [] (dev.startCaptureAction request.waitForFinger rearm).dev.view
      ((FpTask.new request).startCaptureAction dev request.waitForFinger rearm) := by
  unfold FpiDeviceGxfp.startCaptureAction FpTask.startCaptureAction
  by_cases hcapture : dev.currentAction = some .capture ∧ ¬ request.waitForFinger = true
  · have hsome : ¬ dev.currentAction.isNone = true := by
      rw [haction]
      exact Bool.false_ne_true
    rw [if_pos hcapture, if_pos hcapture, FpTask.complete, if_neg hsome]
    show Stands mt request [] dev.actionComplete.view _
    rw [actionComplete, if_neg hsome]
    refine Or.inr ⟨haction, rfl, hactive, hscan, .error .general, ?_, trivial⟩
    cases request with
    | capture _ => rfl
    | enroll _ | verify _ | identify _ => exact absurd rfl hcapture.2
  · rw [if_neg hcapture, if_neg hcapture]
    have hnew : Ongoing mt request []
        { dev.view with enrollStage := 0, state := .activating } (.new request) := by
      refine ⟨⟨haction, hreturning, rfl, hqueued, fun _ => ⟨rfl, hscan⟩, ?_, ?_⟩,
        fun _ hlast => nomatch hlast⟩
      · rintro (hne | ⟨-, hne⟩)
        · cases hne
        · exact absurd rfl hne
      · cases request with
        | enroll template =>
            refine ⟨?_, rfl, rfl, fun hlast => nomatch hlast⟩
            exact congrArg TaskData.enroll template.enrolledWith_nil.symm
        | verify _ | identify _ | capture _ =>
            exact ⟨Or.inl ⟨rfl, rfl⟩, (by rintro (hne | hne) <;> cases hne), nofun⟩
    show Stands mt request []
      ({ dev with enrollStage := 0, state := .activating }.gxfpActivate rearm).dev.view
      ((FpTask.new request).gxfpActivate { dev with enrollStage := 0, state := .activating } rearm)
    unfold FpiDeviceGxfp.gxfpActivate FpTask.gxfpActivate
    split
    · exact Or.inl hnew
    · cases rearm with
      | some e =>
          exact Ongoing.activateComplete
            { dev with
              enrollStage := 0, state := .activating, deactivating := false
              deactivateCompleteSent := false, capturedImage := false } hnew (some e)
      | none =>
          refine Or.inl ?_
          show Ongoing mt request [] (FpiDeviceGxfp.startTask _ _ _ _ _).dev.view _
          rw [view_startTask]
          exact hnew

end Start

end Gxfp
