/-
What an action under way is waiting for.

Between two events of the main loop an action goes on because its completion is queued,
because a minutiae scan is running, or because the driver's task will be tried again.
That there is always one of the three follows from what the image device's state says of
the task: while the device is active each state but one has its task, and in that one,
between two stages of an enrolment, the scan of the last image is still running.

There is one way out.  A task may fail while the scan of an enrolment's image is running.
The device is deactivated then, and when the scan ends with stages left, the enrolment
waits for the next finger on a device that no longer looks for one.
-/
import Gxfp.Driver.Contract

namespace Gxfp

open Monitor FpiDeviceGxfp

/-! ### The invariant -/

/-- The handler that a task's machine is made with. -/
def TaskKind.handler : TaskKind → Option SsmHandler
  | .none => Option.none
  | .activate => some .activate
  | .waitDown | .waitUp => some .wait
  | .capture => some .capture

/-- How many states a machine with this handler has. -/
def SsmHandler.numStates : SsmHandler → Nat
  | .activate => activateNumStates
  | .wait => waitNumStates
  | .capture => captureNumStates

/-- A machine in one of the states that its handler knows. -/
structure FpiSsm.Within (m : FpiSsm) : Prop where
  numStates : m.nrStates = m.handler.numStates
  bounded : m.curState < m.nrStates

namespace FpiDeviceGxfp

/-- The task of an active device, by the state that it is in. -/
def InStep (dev : FpiDeviceGxfp) : Prop :=
  match dev.taskKind with
  | .none =>
    dev.state = .idle ∧ dev.currentAction = some .enroll ∧ dev.minutiaeScanActive = true ∧
      dev.fingerPresent = false
  | .activate => False
  | .waitDown => dev.state = .awaitFingerOn ∧ dev.minutiaeScanActive = false
  | .capture =>
    dev.state = .capture ∧ dev.minutiaeScanActive = false ∧ dev.fingerPresent = true
  | .waitUp => dev.state = .awaitFingerOff ∧ dev.fingerPresent = true

/-- With `calls` pending the action, if there is one, is not forgotten. -/
structure Attended (dev : FpiDeviceGxfp) (calls : List PendingCall) : Prop where
  inStep : dev.active = true → dev.deactivating = false → dev.InStep
  /-- With nothing going on any more the action has been completed. -/
  ended : dev.currentAction.isSome = true → dev.active = false → dev.minutiaeScanActive = false →
    dev.taskKind = .none → dev.closing = false → dev.returning = true
  machine : ∀ m ssm, dev.ssms m = some ssm → ssm.completed = false →
    dev.taskKind.handler = some ssm.handler ∧ ssm.Within
  waits : ∀ m ssm, dev.ssms m = some ssm → ssm.completed = false → .handler m ∉ calls →
    ssm.timeout.isSome = true
  outcome : ∀ m error, .taskFinished m error ∈ calls → dev.deactivating = false →
    error ≠ some .cancelled ∧
      (error = none → dev.taskKind = .capture → dev.capturedImage = true)

/-- No machine is running. -/
def Still (dev : FpiDeviceGxfp) : Prop := ∀ m, ¬ dev.Runs m

end FpiDeviceGxfp

/-- Behind the effect the action is not forgotten. -/
def Effect.Attended (e : Effect) : Prop := e.dev.Attended e.calls

/-- Neither a handler nor a task's callback is among the calls. -/
def Past (calls : List PendingCall) : Prop :=
  ∀ call ∈ calls, (∀ m, call ≠ .handler m) ∧ ∀ m error, call ≠ .taskFinished m error

namespace FpiDeviceGxfp

variable {dev dev' : FpiDeviceGxfp} {calls rest : List PendingCall} {m : Nat}

theorem Frees.past (h : dev.Frees calls) : Past calls := by
  intro call hcall
  obtain ⟨m, rfl, -⟩ := h call hcall
  exact ⟨nofun, nofun⟩

theorem Attended.append (h : dev.Attended calls) (hpast : Past rest) :
    dev.Attended (calls ++ rest) where
  inStep := h.inStep
  ended := h.ended
  machine := h.machine
  waits := fun m ssm hssm hrun hnot =>
    h.waits m ssm hssm hrun fun hmem => hnot (List.mem_append_left _ hmem)
  outcome := fun m error hmem =>
    h.outcome m error ((List.mem_append.mp hmem).resolve_right fun hrest =>
      (hpast _ hrest).2 m error rfl)

/-- What is attended to if no machine runs and no callback is pending. -/
theorem Still.attended (h : dev.Still) (hpast : Past calls)
    (hstep : dev.active = true → dev.deactivating = false → dev.InStep)
    (hended : dev.currentAction.isSome = true → dev.active = false →
      dev.minutiaeScanActive = false → dev.taskKind = .none → dev.closing = false →
      dev.returning = true) : dev.Attended calls where
  inStep := hstep
  ended := hended
  machine := fun m ssm hssm hrun => absurd ⟨ssm, hssm, hrun⟩ (h m)
  waits := fun m ssm hssm hrun _ => absurd ⟨ssm, hssm, hrun⟩ (h m)
  outcome := fun m error hmem => absurd rfl ((hpast _ hmem).2 m error)

theorem past_nil : Past [] := fun _ hmem => absurd hmem List.not_mem_nil

/-- Without a tracked task no machine runs. -/
theorem Heap.still {Q : Place} (h : dev.Heap Q) (hkind : dev.taskKind = .none) : dev.Still :=
  fun m hruns => (h.one m hruns).2 hkind

/-! ### Tasks -/

/-- **A task starts**, of the kind that the device's state asks for. -/
theorem Still.startTask (h : dev.Still) {handler : SsmHandler} {kind : TaskKind}
    {deadline : Bool} (hmachine : kind.handler = some handler)
    (hstep : dev.active = true → dev.deactivating = false →
      (dev.gxfpTrackTask dev.nextSsm kind deadline).InStep) :
    (dev.startTask handler handler.numStates kind deadline).Attended := by
  have hpos : 0 < handler.numStates := by
    cases handler <;> exact Nat.succ_pos _
  have hkind : kind ≠ .none := by
    rintro rfl
    cases hmachine
  have hssms : (dev.startTask handler handler.numStates kind deadline).dev.ssms =
      Function.update dev.ssms dev.nextSsm
        (some (FpiSsm.new handler handler.numStates).start.1) := rfl
  constructor
  case inStep => exact hstep
  case ended => exact fun _ _ _ hnone => absurd hnone hkind
  case machine =>
    intro m ssm hssm hrun
    rw [hssms] at hssm
    by_cases hm : m = dev.nextSsm
    · subst hm
      rw [Function.update_self] at hssm
      obtain rfl := Option.some.inj hssm
      exact ⟨hmachine, rfl, hpos⟩
    · rw [Function.update_of_ne hm] at hssm
      exact absurd ⟨ssm, hssm, hrun⟩ (h m)
  case waits =>
    intro m ssm hssm hrun hnot
    have hm : m ≠ dev.nextSsm := by
      rintro rfl
      exact hnot (List.mem_singleton.mpr rfl)
    rw [hssms, Function.update_of_ne hm] at hssm
    exact absurd ⟨ssm, hssm, hrun⟩ (h m)
  case outcome =>
    intro m error hmem
    exact absurd (List.mem_singleton.mp hmem) nofun

/-- A wait starts if nothing else goes on. -/
theorem Still.gxfpStartWait (h : dev.Still) (htask : dev.taskSsm = none)
    (hdeactivating : dev.deactivating = false) {kind : TaskKind}
    (hmachine : kind.handler = some .wait)
    (hstep : (dev.gxfpTrackTask dev.nextSsm kind false).InStep) :
    (dev.gxfpStartWait kind).Attended := by
  have hfree : ¬ (dev.taskSsm.isSome = true ∨ dev.deactivating = true) := by
    rw [htask, hdeactivating]
    simp
  rw [FpiDeviceGxfp.gxfpStartWait, if_neg hfree]
  exact h.startTask hmachine fun _ _ => hstep

theorem Still.gxfpStartCapture (h : dev.Still) (htask : dev.taskSsm = none)
    (hdeactivating : dev.deactivating = false)
    (hstep : (dev.gxfpTrackTask dev.nextSsm .capture true).InStep) :
    dev.gxfpStartCapture.Attended := by
  have hfree : ¬ (dev.taskSsm.isSome = true ∨ dev.deactivating = true) := by
    rw [htask, hdeactivating]
    simp
  rw [FpiDeviceGxfp.gxfpStartCapture, if_neg hfree]
  exact h.startTask (show TaskKind.handler .capture = some .capture from rfl) fun _ _ => hstep

/-! ### The end of an action -/

/-- **The action is completed** on a device that is not active. -/
theorem Still.actionComplete (h : dev.Still) (hactive : dev.active = false)
    (hpast : Past calls) : dev.actionComplete.Attended calls := by
  have hoff : ∀ {p : Prop}, dev.active = true → p := fun ha =>
    absurd (hactive.symm.trans ha) nofun
  unfold FpiDeviceGxfp.actionComplete
  split
  · rename_i hnone
    refine h.attended hpast hoff fun haction => ?_
    rw [Option.isNone_iff_eq_none.mp hnone] at haction
    cases haction
  · have hstill : Still { dev with returning := true, cancelQueued := false } := h
    exact hstill.attended hpast hoff fun _ _ _ _ _ => rfl

/-- With nothing going on any more the action is completed. -/
theorem Still.maybeCompleteAction (h : dev.Still) (hactive : dev.active = false)
    (hpast : Past calls) (error : Option GError) :
    (dev.maybeCompleteAction error).Attended calls := by
  by_cases hscan : dev.minutiaeScanActive = true
  · obtain ⟨actionError, returning, cancelQueued, heq, -⟩ := maybeCompleteAction_eq dev error
    rw [heq]
    refine Still.attended h hpast (fun ha => absurd (hactive.symm.trans ha) nofun) ?_
    exact fun _ _ hnot => absurd (hnot.symm.trans hscan) nofun
  · have hgoing : ¬ (dev.active = true ∨ dev.minutiaeScanActive = true) := by
      rw [hactive]
      simpa using hscan
    have hdone : dev.maybeCompleteAction error =
        { dev with actionError := none }.actionComplete := by
      unfold FpiDeviceGxfp.maybeCompleteAction
      split <;> exact if_neg hgoing
    rw [hdone]
    have hstill : Still { dev with actionError := none } := h
    exact hstill.actionComplete hactive hpast

/-- A deactivated device is inactive, and without a scan its action is completed. -/
theorem Still.deactivateComplete (h : dev.Still) (hactive : dev.active = true)
    (hstate : dev.state = .deactivating) : dev.deactivateComplete.Attended := by
  have hguard : ¬ (¬ dev.active = true ∨ dev.state ≠ .deactivating) := by
    rw [hactive, hstate]
    simp
  unfold FpiDeviceGxfp.deactivateComplete
  rw [if_neg hguard]
  have hstill : Still { dev with
      active := false, fingerPresent := false, state := .inactive } := h
  exact hstill.maybeCompleteAction rfl past_nil none

/-- **The device is deactivated**, with its task if it has one. -/
theorem Settled.imageDeviceDeactivate_attended {Q : Place} {mon : TaskMonitor}
    (h : dev.Settled Q calls mon) (hactive : dev.active = true) :
    dev.imageDeviceDeactivate.Attended := by
  have ha := h.flags.active hactive
  have hguard : ¬ (¬ dev.active = true ∨ dev.state = .deactivating) := by
    rw [hactive]
    simpa using ha.state
  have hreturn : Past [.deactivateReturn] := by
    simp [Past]
  unfold FpiDeviceGxfp.imageDeviceDeactivate
  rw [if_neg hguard]
  have hcancel : (gxfpCancelTask { dev with
      state := .deactivating, deactivating := true }).Attended → _ :=
    fun h => Attended.append h hreturn
  refine hcancel ?_
  unfold gxfpCancelTask
  rcases h.task with hnone | ⟨m, htask, ssm, hssm, hrun⟩
  · split
    · rename_i m htask
      exact absurd (hnone.ssm.symm.trans htask) (by simp)
    · rw [if_neg (ne_true_of_eq_false ha.sent)]
      have hstill : Still { dev with
          state := .deactivating, deactivating := true, deactivateCompleteSent := true } :=
        h.heap.still hnone.kind
      exact hstill.deactivateComplete hactive rfl
  · split
    · rename_i m' htask'
      obtain rfl : m = m' := Option.some.inj (htask.symm.trans htask')
      have hdone := FpiSsm.markFailed_plain (h.heap.made m ssm hssm).2 hrun .cancelled
      rw [ssmDo, hssm]
      dsimp only [ssmNext]
      rw [hdone]
      -- the task's machine was the only one that ran
      have hstill : Still { dev with
          state := .deactivating, deactivating := true
          ssms := Function.update dev.ssms m (some (ssm.markFailed .cancelled).1) } := by
        rintro m' ⟨ssm', hssm', hrun'⟩
        by_cases hm : m' = m
        · subst hm
          simp only [Function.update_self, hdone, Option.some.injEq] at hssm'
          subst hssm'
          cases hrun'
        · simp only [Function.update_of_ne hm] at hssm'
          have hone := (h.heap.one m' ⟨ssm', hssm', hrun'⟩).1
          exact hm (Option.some.inj (hone.symm.trans htask))
      rw [hdone] at hstill
      constructor
      case inStep => exact fun _ hnot => absurd hnot (by simp)
      case ended => exact fun _ hnot => absurd hactive (ne_true_of_eq_false hnot)
      case machine => exact fun m ssm hssm hrun => absurd ⟨ssm, hssm, hrun⟩ (hstill m)
      case waits => exact fun m ssm hssm hrun => absurd ⟨ssm, hssm, hrun⟩ (hstill m)
      case outcome => exact fun _ _ _ hnot => absurd hnot (by simp)
    · rename_i htask'
      exact absurd (htask.symm.trans htask') (by simp)

/-! ### Reports -/

/-- What holds of an active device as its task calls back. -/
structure CallsBack (dev : FpiDeviceGxfp) : Prop where
  still : dev.Still
  noTask : dev.NoTask
  active : dev.active = true
  deactivating : dev.deactivating = false
  capturing : dev.capturing = true

/-- **The device is activated** and looks for a finger, or the action is over. -/
theorem Still.activateComplete (h : dev.Still) (htask : dev.taskSsm = none)
    (hstate : dev.state = .activating) (hactive : dev.active = false)
    (hcapturing : dev.capturing = true) (hdeactivating : dev.deactivating = false)
    (hscan : dev.minutiaeScanActive = false) (error : Option GError) :
    (dev.activateComplete error).Attended := by
  have hguard : ¬ (dev.active = true ∨ dev.state ≠ .activating ∨ ¬ dev.capturing = true) := by
    rw [hactive, hstate, hcapturing]
    simp
  unfold FpiDeviceGxfp.activateComplete
  rw [if_neg hguard]
  split
  · exact h.actionComplete hactive past_nil
  · have hstill : Still { dev with active := true, state := .awaitFingerOn } := h
    exact hstill.gxfpStartWait htask hdeactivating rfl ⟨rfl, hscan⟩

/-- A finger is there that the device has been waiting for. -/
theorem CallsBack.fingerOn (h : dev.CallsBack) (hstate : dev.state = .awaitFingerOn)
    (hscan : dev.minutiaeScanActive = false) : (dev.reportFingerStatus true).Attended := by
  unfold reportFingerStatus
  rw [if_neg (by rw [hstate]; nofun)]
  dsimp only
  rw [if_pos ⟨rfl, hstate⟩]
  have hstill : Still { dev with fingerPresent := true, state := .capture } := h.still
  exact hstill.gxfpStartCapture h.noTask.ssm h.deactivating ⟨rfl, hscan, rfl⟩

/-- An image has been captured: it is scanned, and the finger may go. -/
theorem CallsBack.imageCaptured (h : dev.CallsBack) (hstate : dev.state = .capture)
    (hfinger : dev.fingerPresent = true) : dev.reportImageCaptured.Attended := by
  unfold reportImageCaptured
  rw [if_neg (by rw [hstate, h.capturing]; simp)]
  have hstill : Still { dev with
      minutiaeScanActive := true, state := .awaitFingerOff } := h.still
  exact hstill.gxfpStartWait h.noTask.ssm h.deactivating rfl ⟨rfl, hfinger⟩

/-- With the finger gone and the image scanned an enrolment waits for the next finger. -/
theorem CallsBack.enrollMaybeAwaitFingerOn (h : dev.CallsBack)
    (hfinger : dev.fingerPresent = false)
    (hscan : dev.minutiaeScanActive = true → dev.state = .idle ∧ dev.currentAction = some .enroll) :
    dev.enrollMaybeAwaitFingerOn.Attended := by
  unfold FpiDeviceGxfp.enrollMaybeAwaitFingerOn
  by_cases hactive : dev.minutiaeScanActive = true
  · rw [if_pos (Or.inl hactive)]
    refine h.still.attended past_nil (fun _ _ => ?_) fun _ hnot =>
      absurd (h.active.symm.trans hnot) nofun
    unfold InStep
    rw [h.noTask.kind]
    exact ⟨(hscan hactive).1, (hscan hactive).2, hactive, hfinger⟩
  · have hquiet : dev.minutiaeScanActive = false := by simpa using hactive
    rw [if_neg (by rw [hquiet, hfinger]; simp)]
    have hstill : Still { dev with state := .awaitFingerOn } := h.still
    exact hstill.gxfpStartWait h.noTask.ssm h.deactivating rfl ⟨rfl, hquiet⟩

/-- **The finger is gone**, and only an enrolment goes on. -/
theorem Settled.fingerOff {Q : Place} {mon : TaskMonitor} (hsettled : dev.Settled Q calls mon)
    (h : dev.CallsBack) (hstate : dev.state = .awaitFingerOff) :
    (dev.reportFingerStatus false).Attended := by
  have hkind : dev.taskKind ≠ .activate := by
    rw [h.noTask.kind]
    nofun
  have hset : Settled { dev with fingerPresent := false } Q calls mon :=
    hsettled.withFlags (hsettled.flags.frame rfl) rfl
  have hidle : Settled { dev with fingerPresent := false, state := .idle } Q calls mon :=
    hset.setState nofun hkind
  unfold reportFingerStatus
  rw [if_neg (by rw [hstate]; nofun)]
  dsimp only
  rw [if_neg (by rintro ⟨hfalse, -⟩; cases hfalse), if_pos ⟨nofun, hstate⟩]
  show Effect.Attended (if _ then _ else _)
  split
  · exact hidle.imageDeviceDeactivate_attended h.active
  · rename_i henroll
    rw [not_not] at henroll
    have hback : CallsBack { dev with
        fingerPresent := false, state := .idle } :=
      ⟨h.still, ⟨h.noTask.ssm, h.noTask.kind⟩, h.active, h.deactivating, h.capturing⟩
    exact hback.enrollMaybeAwaitFingerOn rfl fun _ => ⟨rfl, henroll⟩

/-- **A task's error** ends the action. -/
theorem Settled.sessionError {Q : Place} {mon : TaskMonitor} (hsettled : dev.Settled Q calls mon)
    (h : dev.CallsBack) (hstate : dev.state ≠ .inactive) {error : GError}
    (herror : error ≠ .cancelled) : (dev.reportSessionError error).Attended := by
  have hkind : dev.taskKind ≠ .activate := by
    rw [h.noTask.kind]
    nofun
  have hdone := hsettled.maybeCompleteAction hkind (some error)
  obtain ⟨actionError, returning, cancelQueued, heq, -⟩ := maybeCompleteAction_eq dev (some error)
  unfold reportSessionError
  rw [if_neg (by rw [h.active]; simp), if_neg (fun hcancel => herror hcancel.2.1),
    if_neg (fun hinactive => hstate hinactive.2)]
  refine hdone.imageDeviceDeactivate_attended ?_
  rw [heq]
  exact h.active

/-! ### The completion callback -/

variable {Q : Place} {mon : TaskMonitor}

/-- **The task has finished**, and what it has come to sees to what comes next. -/
theorem attended_taskFinished (heap : dev.Heap Q) (flags : dev.Flags mon)
    (htask : dev.taskSsm = some m) (hkind : dev.taskKind ≠ .none) (hstopped : dev.Stopped m)
    (idle : mon.deactivation = .idle) {error : Option GError}
    (h : dev.Attended (.taskFinished m error :: calls)) :
    (dev.gxfpTaskFinished m error).Attended := by
  have hheap := heap.untrack htask hstopped
  have hstill : Still { dev with taskSsm := none, taskKind := .none, taskDeadline := false } :=
    hheap.still rfl
  unfold gxfpTaskFinished
  dsimp only
  rw [if_pos htask, if_neg (by rw [flags.closing]; nofun)]
  by_cases hactivate : dev.taskKind = .activate
  · have ha := flags.activating hactivate
    have hanswer : ∀ error, (activateComplete { dev with
        taskSsm := none, taskKind := .none, taskDeadline := false } error).Attended := fun error =>
      hstill.activateComplete rfl ha.state ha.active ha.busy.capturing ha.deactivating ha.minutiae
        error
    rw [if_neg (by rw [ha.deactivating]; nofun), hactivate]
    cases error with
    | some error => exact hanswer (some error)
    | none => exact hanswer none
  · have hactive := flags.task hkind hactivate
    have ha := flags.active hactive
    have hstep := h.inStep hactive ha.deactivating
    obtain ⟨herror, himage⟩ := h.outcome m error List.mem_cons_self ha.deactivating
    have hflags :
        Flags { dev with taskSsm := none, taskKind := .none, taskDeadline := false } mon :=
      ⟨flags.closing,
        fun _ =>
          ⟨⟨ha.busy.capturing, ha.busy.returning⟩, ha.deactivating, ha.sent, ha.state, ha.quiet⟩,
        fun hm => ⟨⟨ha.busy.capturing, ha.busy.returning⟩, (flags.minutiae hm).2⟩, nofun,
        fun hk => absurd rfl hk, flags.waiting.trans (if_neg hactivate)⟩
    have hsettled := Settled.of_noTask hheap hflags ⟨rfl, rfl⟩ idle
      (@Frees.nil { dev with taskSsm := none, taskKind := .none, taskDeadline := false })
    have hback : CallsBack { dev with
        taskSsm := none, taskKind := .none, taskDeadline := false } :=
      ⟨hstill, ⟨rfl, rfl⟩, hactive, ha.deactivating, ha.busy.capturing⟩
    rw [if_neg (by rw [ha.deactivating]; nofun)]
    unfold InStep at hstep
    cases error with
    | some error =>
        dsimp only
        rw [if_neg hactivate]
        refine hsettled.sessionError hback ?_ fun hcancelled => herror (congrArg some hcancelled)
        show dev.state ≠ .inactive
        cases hk : dev.taskKind with
        | none => exact absurd hk hkind
        | activate => exact absurd hk hactivate
        | waitDown => simp only [hk] at hstep; rw [hstep.1]; nofun
        | waitUp => simp only [hk] at hstep; rw [hstep.1]; nofun
        | capture => simp only [hk] at hstep; rw [hstep.1]; nofun
    | none =>
        dsimp only
        cases hk : dev.taskKind with
        | none => exact absurd hk hkind
        | activate => exact absurd hk hactivate
        | waitDown =>
            simp only [hk] at hstep
            exact hback.fingerOn hstep.1 hstep.2
        | waitUp =>
            simp only [hk] at hstep
            exact hsettled.fingerOff hback hstep.1
        | capture =>
            simp only [hk] at hstep
            dsimp only
            rw [if_pos (himage rfl hk)]
            have hback : CallsBack { dev with
                taskSsm := none, taskKind := .none, taskDeadline := false
                capturedImage := false } :=
              ⟨hstill, ⟨rfl, rfl⟩, hactive, ha.deactivating, ha.busy.capturing⟩
            exact hback.imageCaptured hstep.1 hstep.2.2

end FpiDeviceGxfp

/-! ### Handlers -/

namespace FpiSsm

variable {m : FpiSsm} {r : FpiSsm × SsmNext} {image : Prop}

/-- A step that a machine goes on behind, or that ends it with an image if it captures one. -/
structure Goes (m : FpiSsm) (image : Prop) (r : FpiSsm × SsmNext) : Prop where
  handler : r.1.handler = m.handler
  nrStates : r.1.nrStates = m.nrStates
  bounded : r.1.completed = false → r.1.curState < r.1.nrStates
  delayed : r.2 = .nothing → r.1.timeout.isSome = true
  ends : ∀ error, r.2 = .callback error → r.1.completed = true ∧ error ≠ some .cancelled ∧
    (error = none → m.handler = .capture → image)

theorem Plain.goes_markFailed (h : m.Plain) (hrun : m.completed = false) {error : GError}
    (herror : error ≠ .cancelled) : m.Goes image (m.markFailed error) := by
  rw [markFailed_plain h hrun]
  refine ⟨rfl, rfl, nofun, nofun, fun error' hends => ?_⟩
  cases hends
  exact ⟨rfl, fun hcancelled => herror (Option.some.inj hcancelled), nofun⟩

theorem Plain.goes_markCompleted (h : m.Plain) (hrun : m.completed = false)
    (himage : m.handler = .capture → image) : m.Goes image m.markCompleted := by
  rw [markCompleted_plain h.cleanup]
  refine ⟨rfl, rfl, nofun, nofun, fun error' hends => ?_⟩
  cases hends
  rw [h.error hrun]
  exact ⟨rfl, nofun, fun _ => himage⟩

theorem Plain.goes_enterState (h : m.Plain) (hrun : m.completed = false) (state : Nat)
    (hstate : state ≤ m.nrStates) (himage : state = m.nrStates → m.handler = .capture → image) :
    m.Goes image (m.enterState state) := by
  unfold FpiSsm.enterState
  dsimp only
  by_cases hend : state = m.nrStates
  · rw [if_pos hend, markCompleted_plain (m := { m with timeout := none, curState := state })
      h.cleanup]
    refine ⟨rfl, rfl, nofun, nofun, fun error' hends => ?_⟩
    cases hends
    rw [h.error hrun]
    exact ⟨rfl, nofun, fun _ => himage hend⟩
  · rw [if_neg hend]
    exact ⟨rfl, rfl, fun _ => Nat.lt_of_le_of_ne hstate hend, nofun, nofun⟩

theorem Plain.goes_nextState (h : m.Plain) (hrun : m.completed = false)
    (hbound : m.curState < m.nrStates)
    (himage : m.curState + 1 = m.nrStates → m.handler = .capture → image) :
    m.Goes image m.nextState := by
  have hgoes := ((h.bugOn m.completed).bugOn m.timeout.isSome).goes_enterState hrun
    (m.curState + 1) hbound himage
  exact ⟨hgoes.handler, hgoes.nrStates, hgoes.bounded, hgoes.delayed, hgoes.ends⟩

theorem goes_retryState (hbound : m.curState < m.nrStates) :
    m.Goes image (m.jumpToStateDelayed m.curState) :=
  ⟨rfl, rfl, fun _ => hbound, fun _ => rfl, nofun⟩

theorem Plain.goes_onTimeout (h : m.Plain) (hrun : m.completed = false)
    (hbound : m.curState < m.nrStates) : m.Goes image (m.onTimeoutJumpToState m.curState) := by
  have hplain : FpiSsm.Plain { m with timeout := none } :=
    ⟨h.cleanup, h.error, fun _ => rfl, nofun⟩
  have himage : m.curState = m.nrStates → m.handler = .capture → image := fun hend =>
    absurd hend (Nat.ne_of_lt hbound)
  have hgoes := ((hplain.bugOn m.completed).bugOn (decide (m.nrStates < m.curState)))
    |>.goes_enterState hrun m.curState (Nat.le_of_lt hbound) himage
  exact ⟨hgoes.handler, hgoes.nrStates, hgoes.bounded, hgoes.delayed, hgoes.ends⟩

end FpiSsm

namespace FpiDeviceGxfp

variable {dev : FpiDeviceGxfp} {calls rest : List PendingCall} {m : Nat} {ssm : FpiSsm}
  {Q : Place} {mon : TaskMonitor}

/-- What the device is attended to by depends on these fields. -/
theorem Attended.frame {dev' : FpiDeviceGxfp} (h : dev.Attended calls)
    (himage : dev.capturedImage = true → dev'.capturedImage = true)
    (hsame : dev' = { dev with
      nextSsm := dev'.nextSsm, taskDeadline := dev'.taskDeadline
      capturedImage := dev'.capturedImage, enrollStage := dev'.enrollStage
      actionError := dev'.actionError, isOpen := dev'.isOpen, cancelled := dev'.cancelled
      cancelQueued := dev'.cancelQueued }) : dev'.Attended calls := by
  rw [hsame]
  exact ⟨h.inStep, h.ended, h.machine, h.waits, fun m error hmem hnot =>
    ⟨(h.outcome m error hmem hnot).1, fun hnone hkind =>
      himage ((h.outcome m error hmem hnot).2 hnone hkind)⟩⟩

/-- The machine of the task, which is the only one that runs. -/
structure TaskRuns (dev : FpiDeviceGxfp) (m : Nat) (ssm : FpiSsm) : Prop where
  made : dev.ssms m = some ssm
  runs : ssm.completed = false
  plain : ssm.Plain
  machine : dev.taskKind.handler = some ssm.handler
  within : ssm.Within
  only : ∀ m', m' ≠ m → ¬ dev.Runs m'

theorem Settled.taskRuns (h : dev.Settled Q calls mon) (hattended : dev.Attended rest)
    (hssm : dev.ssms m = some ssm) (hrun : ssm.completed = false) : dev.TaskRuns m ssm := by
  have hmachine := hattended.machine m ssm hssm hrun
  refine ⟨hssm, hrun, (h.heap.made m ssm hssm).2, hmachine.1, hmachine.2, fun m' hne hruns => ?_⟩
  have hone := (h.heap.one m ⟨ssm, hssm, hrun⟩).1
  exact hne (Option.some.inj ((h.heap.one m' hruns).1.symm.trans hone))

/-- **The task's machine makes a step**, behind which the action is not forgotten. -/
theorem TaskRuns.ssmDo (htask : dev.TaskRuns m ssm) (h : dev.Attended rest)
    {f : FpiSsm → FpiSsm × SsmNext} (hgoes : ssm.Goes (dev.capturedImage = true) (f ssm)) :
    (dev.ssmDo m f).Attended := by
  have hold : ∀ m' ssm', m' ≠ m → dev.ssms m' = some ssm' → ssm'.completed ≠ false :=
    fun m' ssm' hne hssm' hrun' => htask.only m' hne ⟨ssm', hssm', hrun'⟩
  have hkind : dev.taskKind ≠ .none := by
    intro hnone
    have hmachine := htask.machine
    rw [hnone] at hmachine
    cases hmachine
  rw [FpiDeviceGxfp.ssmDo, htask.made]
  -- with these calls the task's machine is all there is to look at
  have hattended : ∀ calls, ((f ssm).1.completed = false → .handler m ∉ calls →
        (f ssm).1.timeout.isSome = true) →
      (∀ m error, .taskFinished m error ∈ calls → error ≠ some .cancelled ∧
        (error = none → ssm.handler = .capture → dev.capturedImage = true)) →
      Attended { dev with ssms := Function.update dev.ssms m (some (f ssm).1) } calls := by
    intro calls hwaits houtcome
    constructor
    case inStep => exact h.inStep
    case ended => exact fun _ _ _ hnone => absurd hnone hkind
    case machine =>
      intro m' ssm' hssm' hrun'
      by_cases hm : m' = m
      · subst hm
        simp only [Function.update_self, Option.some.injEq] at hssm'
        subst hssm'
        refine ⟨hgoes.handler.symm ▸ htask.machine, ?_, hgoes.bounded hrun'⟩
        rw [hgoes.nrStates, hgoes.handler]
        exact htask.within.numStates
      · simp only [Function.update_of_ne hm] at hssm'
        exact absurd hrun' (hold m' ssm' hm hssm')
    case waits =>
      intro m' ssm' hssm' hrun' hnot
      by_cases hm : m' = m
      · subst hm
        simp only [Function.update_self, Option.some.injEq] at hssm'
        subst hssm'
        exact hwaits hrun' hnot
      · simp only [Function.update_of_ne hm] at hssm'
        exact absurd hrun' (hold m' ssm' hm hssm')
    case outcome =>
      intro m' error hmem _
      refine ⟨(houtcome m' error hmem).1, fun hnone hcapture => ?_⟩
      have hmachine := htask.machine
      rw [show dev.taskKind = .capture from hcapture] at hmachine
      exact (houtcome m' error hmem).2 hnone (Option.some.inj hmachine).symm
  dsimp only [ssmNext]
  split
  · rename_i hnext
    exact hattended [] (fun _ _ => hgoes.delayed hnext) fun _ _ hmem =>
      absurd hmem List.not_mem_nil
  · exact hattended [.handler m] (fun _ hnot => absurd (List.mem_singleton.mpr rfl) hnot)
      fun _ _ hmem => absurd (List.mem_singleton.mp hmem) (by simp)
  · rename_i error hnext
    obtain ⟨hcompleted, herror, himage⟩ := hgoes.ends error hnext
    refine hattended [.taskFinished m error, .ssmFree m]
      (fun hrun' _ => absurd hcompleted (ne_true_of_eq_false hrun')) fun m' error' hmem => ?_
    rcases List.mem_cons.mp hmem with hfinished | hfree
    · cases hfinished
      exact ⟨herror, himage⟩
    · exact absurd (List.mem_singleton.mp hfree) (by simp)

theorem TaskRuns.markFailed (htask : dev.TaskRuns m ssm) (h : dev.Attended rest) {error : GError}
    (herror : error ≠ .cancelled) : (dev.ssmDo m fun ssm => ssm.markFailed error).Attended :=
  htask.ssmDo h (htask.plain.goes_markFailed htask.runs herror)

theorem TaskRuns.markCompleted (htask : dev.TaskRuns m ssm) (h : dev.Attended rest)
    (himage : ssm.handler = .capture → dev.capturedImage = true) :
    (dev.ssmDo m FpiSsm.markCompleted).Attended :=
  htask.ssmDo h (htask.plain.goes_markCompleted htask.runs himage)

variable {io : IoOutcome}

theorem TaskRuns.nextOrFail (htask : dev.TaskRuns m ssm) (h : dev.Attended rest)
    (hio : io.result ≠ .failed .cancelled)
    (hcapture : ssm.handler = .capture → ssm.curState + 1 ≠ ssm.nrStates) :
    (dev.nextOrFail m io.result).Attended := by
  cases hresult : io.result with
  | done =>
      exact htask.ssmDo h (htask.plain.goes_nextState htask.runs htask.within.bounded
        fun hend hhandler => absurd hend (hcapture hhandler))
  | again => exact htask.markFailed h nofun
  | failed error =>
      exact htask.markFailed h fun herror => hio (by rw [hresult, herror])

theorem TaskRuns.nextOrRetry (htask : dev.TaskRuns m ssm) (h : dev.Attended rest)
    (hio : io.result ≠ .failed .cancelled)
    (hcapture : ssm.handler = .capture → ssm.curState + 1 ≠ ssm.nrStates) :
    (dev.nextOrRetry m io.result).Attended := by
  cases hresult : io.result with
  | done =>
      exact htask.ssmDo h (htask.plain.goes_nextState htask.runs htask.within.bounded
        fun hend hhandler => absurd hend (hcapture hhandler))
  | again => exact htask.ssmDo h (FpiSsm.goes_retryState htask.within.bounded)
  | failed error =>
      exact htask.markFailed h fun herror => hio (by rw [hresult, herror])

/-- **The task's handler is called**, and every state that a machine has is one of its. -/
theorem TaskRuns.callHandler (htask : dev.TaskRuns m ssm) (h : dev.Attended rest)
    (hdeactivating : dev.deactivating = false) (hio : io.result ≠ .failed .cancelled) :
    (dev.callHandler m io).Attended := by
  have hcur := htask.within.bounded
  have hnr := htask.within.numStates
  unfold FpiDeviceGxfp.callHandler
  rw [htask.made]
  dsimp only
  cases hhandler : ssm.handler with
  | activate =>
      have hother : ssm.handler = .capture → ssm.curState + 1 ≠ ssm.nrStates := by
        rw [hhandler]
        nofun
      have hstates : ssm.curState = 0 ∨ ssm.curState = 1 ∨ ssm.curState = 2 ∨ ssm.curState = 3 ∨
          ssm.curState = 4 ∨ ssm.curState = 5 ∨ ssm.curState = 6 := by
        rw [hhandler] at hnr
        change ssm.nrStates = 7 at hnr
        omega
      dsimp only
      unfold gxfpActivateSsmHandler
      split
      · exact htask.markFailed h nofun
      · rcases hstates with hs | hs | hs | hs | hs | hs | hs <;> rw [hs]
        · exact htask.nextOrRetry h hio hother
        · exact htask.nextOrFail h hio hother
        · exact htask.nextOrRetry h hio hother
        · exact htask.nextOrFail h hio hother
        · exact htask.nextOrRetry h hio hother
        · exact htask.nextOrFail h hio hother
        · exact htask.markCompleted h (by rw [hhandler]; nofun)
  | wait =>
      have hother : ssm.handler = .capture → ssm.curState + 1 ≠ ssm.nrStates := by
        rw [hhandler]
        nofun
      have hstates : ssm.curState = 0 ∨ ssm.curState = 1 ∨ ssm.curState = 2 := by
        rw [hhandler] at hnr
        change ssm.nrStates = 3 at hnr
        omega
      dsimp only
      unfold gxfpWaitSsmHandler
      split
      · exact htask.markFailed h nofun
      · rcases hstates with hs | hs | hs <;> rw [hs]
        · exact htask.nextOrFail h hio hother
        · exact htask.nextOrRetry h hio hother
        · exact htask.markCompleted h (by rw [hhandler]; nofun)
  | capture =>
      rw [hhandler] at hnr
      change ssm.nrStates = 3 at hnr
      have hstates : ssm.curState = 0 ∨ ssm.curState = 1 ∨ ssm.curState = 2 := by omega
      have hnot : ¬ dev.deactivating = true := by
        rw [hdeactivating]
        nofun
      dsimp only
      unfold gxfpCaptureSsmHandler
      by_cases hexpired : dev.taskDeadline = true ∧ io.expired = true
      · rw [if_pos hexpired]
        exact htask.markFailed h nofun
      · rw [if_neg hexpired]
        rcases hstates with hs | hs | hs <;> rw [hs]
        · show Effect.Attended (if _ then _ else _)
          rw [if_neg hnot]
          exact htask.nextOrFail h hio fun _ => by omega
        · exact htask.nextOrRetry h hio fun _ => by omega
        · show Effect.Attended (if _ then _ else _)
          rw [if_neg hnot]
          cases hresult : io.result with
          | done =>
              have hstored : TaskRuns { dev with capturedImage := true } m ssm :=
                ⟨htask.made, htask.runs, htask.plain, htask.machine, htask.within, htask.only⟩
              exact hstored.markCompleted (h.frame (fun _ => rfl) rfl) fun _ => rfl
          | again => exact htask.markFailed h nofun
          | failed error =>
              exact htask.markFailed h fun herror => hio (by rw [hresult, herror])

/-! ### The end of a minutiae scan -/

variable {result : MinutiaeResult}

/-- Behind a scan that does not end the action an enrolment waits for the next finger. -/
theorem minutiaeDetected_enroll (henroll : dev.currentAction = some .enroll)
    (hends : ¬ dev.endsAction result = true) :
    ∃ enrollStage, dev.minutiaeDetected result = enrollMaybeAwaitFingerOn
      { dev with minutiaeScanActive := false, enrollStage } := by
  have hcapture : ¬ dev.currentAction = some .capture := by
    rw [henroll]
    nofun
  unfold minutiaeDetected
  dsimp only
  cases result with
  | cancelled => exact absurd rfl hends
  | unreadable =>
      have hmore : ¬ dev.enrollStage = enrollStages := fun hstage =>
        hends (decide_eq_true ⟨henroll, hstage⟩)
      refine ⟨dev.enrollStage, ?_⟩
      dsimp only
      rw [if_neg hcapture, if_pos henroll]
      exact if_neg hmore
  | noPrint error =>
      have herror : error = .retry := by
        by_contra hne
        exact hends (decide_eq_true ⟨hcapture, Or.inl hne⟩)
      have hmore : ¬ dev.enrollStage = enrollStages := fun hstage =>
        hends (decide_eq_true ⟨hcapture, Or.inr ⟨henroll, hstage⟩⟩)
      refine ⟨dev.enrollStage, ?_⟩
      dsimp only
      rw [if_neg hcapture, if_neg (not_not.mpr herror), if_pos henroll]
      exact if_neg hmore
  | print error =>
      have hmore : ¬ dev.enrollStage + 1 = enrollStages := fun hstage =>
        hends (decide_eq_true ⟨henroll, hstage⟩)
      refine ⟨dev.enrollStage + 1, ?_⟩
      dsimp only
      rw [if_neg hcapture, if_pos henroll]
      exact if_neg hmore

/-- Any other action is over once the device is no longer active. -/
theorem minutiaeDetected_other (henroll : dev.currentAction ≠ some .enroll)
    (hends : ¬ dev.endsAction result = true) :
    ∃ error, dev.minutiaeDetected result =
      .only (maybeCompleteAction { dev with minutiaeScanActive := false } error) := by
  unfold minutiaeDetected
  dsimp only
  by_cases hcapture : dev.currentAction = some .capture
  · cases result with
    | cancelled => exact absurd rfl hends
    | unreadable => exact ⟨_, if_pos hcapture⟩
    | noPrint error => exact ⟨_, if_pos hcapture⟩
    | print error => exact ⟨_, if_pos hcapture⟩
  · cases result with
    | cancelled => exact absurd rfl hends
    | unreadable =>
        refine ⟨none, ?_⟩
        dsimp only
        rw [if_neg hcapture, if_neg henroll]
    | noPrint error =>
        have herror : error = .retry := by
          by_contra hne
          exact hends (decide_eq_true ⟨hcapture, Or.inl hne⟩)
        refine ⟨none, ?_⟩
        dsimp only
        rw [if_neg hcapture, if_neg (not_not.mpr herror), if_neg henroll]
    | print error =>
        refine ⟨notRetry error, ?_⟩
        dsimp only
        rw [if_neg hcapture, if_neg henroll]

/-- A device whose scan has ended has the task that it had. -/
theorem Settled.scanned (h : dev.Settled Q calls mon) (hscan : dev.minutiaeScanActive = true)
    (enrollStage : Nat) :
    Settled { dev with minutiaeScanActive := false, enrollStage } Q calls mon := by
  have hkind : dev.taskKind ≠ .activate := fun hk =>
    absurd ((h.flags.activating hk).minutiae.symm.trans hscan) nofun
  refine h.withFlags ⟨h.flags.closing, fun ha => ?_, nofun, fun hk => absurd hk hkind,
    h.flags.task, h.flags.waiting⟩ rfl
  have hactive := h.flags.active ha
  exact ⟨⟨hactive.busy.capturing, hactive.busy.returning⟩, hactive.deactivating, hactive.sent,
    hactive.state, hactive.quiet⟩

/-- A device that is not active has no task while a scan is running. -/
theorem Settled.kind_of_scan (h : dev.Settled Q calls mon)
    (hscan : dev.minutiaeScanActive = true) (hactive : dev.active = false) :
    dev.taskKind = .none := by
  by_contra hkind
  by_cases hactivate : dev.taskKind = .activate
  · exact absurd ((h.flags.activating hactivate).minutiae.symm.trans hscan) nofun
  · exact absurd (hactive.symm.trans (h.flags.task hkind hactivate)) nofun

/-- An active device that captures goes on to the end of its finger when the scan is done. -/
theorem Attended.scanned (h : dev.Attended calls) (hactive : dev.active = true)
    (hdeactivating : dev.deactivating = false) (hkind : dev.taskKind ≠ .none)
    (enrollStage : Nat) :
    Attended { dev with minutiaeScanActive := false, enrollStage } calls := by
  have hstep := h.inStep hactive hdeactivating
  refine ⟨fun _ _ => ?_, fun _ hoff => absurd (hactive.symm.trans hoff) nofun, h.machine,
    h.waits, h.outcome⟩
  unfold InStep at hstep ⊢
  cases hk : dev.taskKind with
  | none => exact absurd hk hkind
  | activate => simp only [hk] at hstep
  | waitDown => simp only [hk] at hstep; exact ⟨hstep.1, rfl⟩
  | capture => simp only [hk] at hstep; exact ⟨hstep.1, rfl, hstep.2.2⟩
  | waitUp => simp only [hk] at hstep; exact hstep

/-- **The end of a scan** is attended to, unless an enrolment goes on without its device. -/
theorem Settled.minutiaeDetected_attended (h : dev.Settled Q [] mon) (hattended : dev.Attended [])
    (hscan : dev.minutiaeScanActive = true)
    (hgoes : dev.active = true ∨ dev.currentAction ≠ some .enroll ∨
      dev.endsAction result = true) : (dev.minutiaeDetected result).Attended := by
  have hsettled := h.scanned hscan
  by_cases hactive : dev.active = true
  · have ha := h.flags.active hactive
    by_cases hends : dev.endsAction result = true
    · obtain ⟨enrollStage, error, heq⟩ := minutiaeDetected_ends hends
      have hkind : dev.taskKind ≠ .activate := h.kind_of_active hactive
      have hdone := (hsettled enrollStage).maybeCompleteAction hkind error
      obtain ⟨actionError, returning, cancelQueued, hcomplete, -⟩ := maybeCompleteAction_eq
        { dev with minutiaeScanActive := false, enrollStage } error
      rw [heq]
      refine hdone.imageDeviceDeactivate_attended ?_
      rw [hcomplete]
      exact hactive
    · by_cases hkind : dev.taskKind = .none
      · -- only an enrolment is without a task, between two fingers
        have hstep := hattended.inStep hactive ha.deactivating
        unfold InStep at hstep
        rw [hkind] at hstep
        obtain ⟨enrollStage, heq⟩ := minutiaeDetected_enroll hstep.2.1 hends
        rw [heq]
        have hssm : dev.taskSsm = none := by
          rcases h.task with hnone | ⟨m, -, hruns⟩
          · exact hnone.ssm
          · exact absurd hkind (h.heap.one m hruns).2
        have hback : CallsBack { dev with minutiaeScanActive := false, enrollStage } :=
          ⟨h.heap.still hkind, ⟨hssm, hkind⟩, hactive, ha.deactivating, ha.busy.capturing⟩
        exact hback.enrollMaybeAwaitFingerOn hstep.2.2.2 nofun
      · have hscanned := hattended.scanned hactive ha.deactivating hkind
        by_cases henroll : dev.currentAction = some .enroll
        · obtain ⟨enrollStage, heq⟩ := minutiaeDetected_enroll henroll hends
          have hfinger : dev.fingerPresent = true := by
            have hstep := hattended.inStep hactive ha.deactivating
            unfold InStep at hstep
            cases hk : dev.taskKind with
            | none => exact absurd hk hkind
            | activate => simp only [hk] at hstep
            | waitDown =>
                simp only [hk] at hstep
                exact absurd (hscan.symm.trans hstep.2) nofun
            | capture => simp only [hk] at hstep; exact hstep.2.2
            | waitUp => simp only [hk] at hstep; exact hstep.2
          rw [heq, FpiDeviceGxfp.enrollMaybeAwaitFingerOn, if_pos (Or.inr hfinger)]
          exact hscanned enrollStage
        · obtain ⟨error, heq⟩ := minutiaeDetected_other henroll hends
          obtain ⟨actionError, returning, cancelQueued, hcomplete, -⟩ := maybeCompleteAction_eq
            { dev with minutiaeScanActive := false } error
          rw [heq, hcomplete]
          have hs := hscanned dev.enrollStage
          exact ⟨hs.inStep, fun _ hoff => absurd (hactive.symm.trans hoff) nofun, hs.machine,
            hs.waits, hs.outcome⟩
  · have hoff : dev.active = false := by simpa using hactive
    have hstill := h.heap.still (h.kind_of_scan hscan hoff)
    have hdone : ∀ enrollStage error, (FpiDeviceGxfp.maybeCompleteAction { dev with
        minutiaeScanActive := false, enrollStage } error).Attended [] := fun enrollStage error =>
      (show Still { dev with minutiaeScanActive := false, enrollStage } from hstill)
        |>.maybeCompleteAction hoff past_nil error
    by_cases hends : dev.endsAction result = true
    · obtain ⟨enrollStage, error, heq⟩ := minutiaeDetected_ends hends
      have hattended := hdone enrollStage error
      obtain ⟨actionError, returning, cancelQueued, hcomplete, -⟩ := maybeCompleteAction_eq
        { dev with minutiaeScanActive := false, enrollStage } error
      rw [hcomplete] at hattended
      rw [heq, hcomplete, imageDeviceDeactivate, if_pos (Or.inl hactive)]
      exact hattended
    · have henroll : dev.currentAction ≠ some .enroll :=
        (hgoes.resolve_left hactive).resolve_right hends
      obtain ⟨error, heq⟩ := minutiaeDetected_other henroll hends
      rw [heq]
      exact hdone dev.enrollStage error

/-! ### The main loop -/

theorem Off.still (h : dev.Off mon) (heap : dev.Heap Q) : dev.Still := heap.still h.noTask.kind

/-- The activation of a device on which nothing is going on. -/
theorem Still.gxfpActivate (h : dev.Still) (htask : dev.taskSsm = none)
    (hstate : dev.state = .activating) (hactive : dev.active = false)
    (hcapturing : dev.capturing = true) (hscan : dev.minutiaeScanActive = false)
    (rearm : Option GError) : (dev.gxfpActivate rearm).Attended := by
  unfold FpiDeviceGxfp.gxfpActivate
  rw [if_neg (by rw [htask]; nofun)]
  cases rearm with
  | some error =>
      have hstill : Still { dev with
          deactivating := false, deactivateCompleteSent := false, capturedImage := false } := h
      exact hstill.activateComplete htask hstate hactive hcapturing rfl hscan (some error)
  | none =>
      have hstill : Still { dev with
          deactivating := false, deactivateCompleteSent := false, capturedImage := false } := h
      exact hstill.startTask (show TaskKind.handler .activate = some .activate from rfl)
        fun hon => absurd (hactive.symm.trans hon) nofun

theorem Still.startCaptureAction (h : dev.Still) (htask : dev.taskSsm = none)
    (hactive : dev.active = false) (hcapturing : dev.capturing = true)
    (hscan : dev.minutiaeScanActive = false) (waitForFinger : Bool) (rearm : Option GError) :
    (dev.startCaptureAction waitForFinger rearm).Attended := by
  unfold FpiDeviceGxfp.startCaptureAction
  split
  · exact h.actionComplete hactive past_nil
  · have hstill : Still { dev with enrollStage := 0, state := .activating } := h
    exact hstill.gxfpActivate htask rfl hactive hcapturing hscan rearm

/-- An enrolment goes on, at this event, on a device that is not active any more. -/
def abandons (dev : FpiDeviceGxfp) : MainEvent → Bool
  | .minutiaeDetected result =>
    dev.minutiaeScanActive && !dev.active && dev.currentAction == some .enroll &&
      !dev.endsAction result
  | _ => false

/-- **What the main loop starts** is attended to, unless it abandons an enrolment. -/
theorem Settled.dispatch_attended (h : dev.Settled Q [] mon) (hattended : dev.Attended [])
    {event : MainEvent} (hgoes : dev.abandons event = false) {e : Effect}
    (he : dev.dispatch event = some e) : e.Attended := by
  cases event with
  | openDevice error =>
      simp only [dispatch, fpDeviceOpen] at he
      split at he
      · cases he
      · rename_i hfree
        rw [not_or] at hfree
        cases he
        have hoff := h.off (not_busy_of_isNone hfree.2)
        have hstill : Still { dev.setupTask .openDevice with
            state := .inactive, isOpen := error.isNone } := hoff.still h.heap
        exact hstill.actionComplete hoff.active past_nil
  | closeDevice =>
      simp only [dispatch, fpDeviceClose] at he
      split at he
      · cases he
      · rename_i hfree
        rw [not_or] at hfree
        cases he
        have hoff := h.off (not_busy_of_isNone hfree.2)
        have heq : (dev.setupTask .closeDevice).gxfpImgClose =
            (Effect.only { dev.setupTask .closeDevice with closing := true }).andThen
              .imgCloseRest := by
          unfold gxfpImgClose
          dsimp only
          split
          · rfl
          · rename_i m htask
            exact absurd (hoff.noTask.ssm.symm.trans htask) (by simp)
        have hrest : Past [.imgCloseRest] := by
          simp [Past]
        rw [heq]
        have hstill : Still { dev.setupTask .closeDevice with
            closing := true } := hoff.still h.heap
        exact hstill.attended hrest (fun ha => absurd ha (ne_true_of_eq_false hoff.active))
          fun _ _ _ _ hnot => absurd hnot (by simp)
  | startAction action waitForFinger rearm =>
      simp only [dispatch, fpDeviceStart] at he
      split at he
      · cases he
      · rename_i hfree
        rw [not_or, not_or, not_not, not_not] at hfree
        cases he
        have hoff := h.off (not_busy_of_isNone hfree.2.1)
        have hstill : Still (dev.setupTask action) := hoff.still h.heap
        exact hstill.startCaptureAction hoff.noTask.ssm hoff.active hfree.2.2 hoff.minutiae
          waitForFinger rearm
  | cancelInIdle =>
      simp only [dispatch, cancelInIdle] at he
      split at he
      · cases he
      · cases he
        have hset : Settled { dev with cancelQueued := false } Q [] mon :=
          h.withFlags (h.flags.frame rfl) rfl
        have hsame : Attended { dev with cancelQueued := false } [] := hattended.frame id rfl
        split
        · by_cases hactive : dev.active = true
          · exact hset.imageDeviceDeactivate_attended hactive
          · rw [imageDeviceDeactivate, if_pos (Or.inl hactive)]
            exact hsame
        · exact hsame
  | timeout m =>
      simp only [dispatch, timeout] at he
      obtain ⟨ssm, hssm, hmap⟩ := Option.bind_eq_some_iff.mp he
      obtain ⟨state, hstate, rfl⟩ := Option.map_eq_some_iff.mp hmap
      have hplain := (h.heap.made m ssm hssm).2
      have hrun : ssm.completed = false := by
        rw [Bool.eq_false_iff]
        intro hcompleted
        rw [hplain.timeout hcompleted] at hstate
        cases hstate
      have htask := h.taskRuns hattended hssm hrun
      obtain rfl := hplain.retry state hstate
      exact htask.ssmDo hattended (hplain.goes_onTimeout hrun htask.within.bounded)
  | minutiaeDetected result =>
      simp only [dispatch] at he
      split at he
      · rename_i hscan
        cases he
        refine h.minutiaeDetected_attended hattended hscan ?_
        by_contra hnot
        rw [not_or, not_or, not_not] at hnot
        have habandons : dev.abandons (.minutiaeDetected result) = true := by
          simp only [abandons, hscan, hnot.2.1, Bool.eq_false_iff.mpr hnot.1,
            Bool.eq_false_iff.mpr hnot.2.2]
          rfl
        exact absurd habandons (ne_true_of_eq_false hgoes)
      · cases he
  | returnInIdle =>
      simp only [dispatch, returnInIdle] at he
      split at he
      · cases he
      · rename_i hreturning
        rw [not_not] at hreturning
        cases he
        have hoff := h.off (not_busy_of_returning hreturning)
        have hstill : Still { dev with
            currentAction := none, returning := false, cancelled := false, cancelQueued := false
            isOpen := dev.isOpen && dev.currentAction ≠ some .closeDevice } :=
          hoff.still h.heap
        exact hstill.attended past_nil (fun ha => absurd ha (ne_true_of_eq_false hoff.active))
          fun hnone => absurd hnone (by simp)

/-! ### Calls -/

theorem Attended.tail {call : PendingCall} (h : dev.Attended (call :: calls))
    (hcall : ∀ m, call ≠ .handler m) : dev.Attended calls where
  inStep := h.inStep
  ended := h.ended
  machine := h.machine
  waits := fun m ssm hssm hrun hnot => h.waits m ssm hssm hrun fun hmem =>
    hnot ((List.mem_cons.mp hmem).resolve_left fun heq => hcall m heq.symm)
  outcome := fun m error hmem => h.outcome m error (List.mem_cons_of_mem _ hmem)

theorem Attended.ssmFree (h : dev.Attended calls) : (dev.ssmFree m).Attended calls := by
  have hold : ∀ m' ssm', (dev.ssmFree m).ssms m' = some ssm' → dev.ssms m' = some ssm' := by
    intro m' ssm' hssm'
    by_cases hm : m' = m
    · subst hm
      simp [FpiDeviceGxfp.ssmFree] at hssm'
    · simpa only [FpiDeviceGxfp.ssmFree, Function.update_of_ne hm] using hssm'
  exact ⟨h.inStep, h.ended, fun m' ssm' hssm' => h.machine m' ssm' (hold m' ssm' hssm'),
    fun m' ssm' hssm' => h.waits m' ssm' (hold m' ssm' hssm'), h.outcome⟩

/-- Nothing deactivates a device whose task is running. -/
theorem Settled.deactivating_of_runs (h : dev.Settled Q calls mon) (hruns : dev.Runs m) :
    dev.deactivating = false := by
  have hkind := (h.heap.one m hruns).2
  by_cases hactivate : dev.taskKind = .activate
  · exact (h.flags.activating hactivate).deactivating
  · exact (h.flags.active (h.flags.task hkind hactivate)).deactivating

end FpiDeviceGxfp

section Steps

variable {Q : Place} {dev : FpiDeviceGxfp} {mon : TaskMonitor} {calls : List PendingCall}
  {call : PendingCall} {s s' : Driver}

/-- **The innermost call is made.** -/
theorem Inv.perform_attended (h : Inv Q dev (call :: calls) mon)
    (hattended : dev.Attended (call :: calls)) {io : IoOutcome}
    (hio : io.result ≠ .failed .cancelled) :
    (dev.perform io call).dev.Attended ((dev.perform io call).calls ++ calls) := by
  have hfree : ∀ m, call = .ssmFree m → (dev.perform io call).dev.Attended
      ((dev.perform io call).calls ++ calls) := by
    rintro m rfl
    exact (hattended.tail nofun).ssmFree
  generalize hall : call :: calls = all at h
  cases h with
  | settled settled =>
      subst hall
      obtain ⟨m, rfl, -⟩ := settled.frees call List.mem_cons_self
      exact hfree m rfl
  | handler settled task runs =>
      cases hall
      obtain ⟨ssm, hssm, hrun⟩ := runs
      have htask := settled.taskRuns hattended hssm hrun
      exact (htask.callHandler hattended (settled.deactivating_of_runs ⟨ssm, hssm, hrun⟩)
        hio).append settled.frees.past
  | finished heap flags task kind stopped idle frees =>
      cases hall
      exact (attended_taskFinished heap flags task kind stopped idle hattended).append
        (frees.cons (stopped.lt heap) stopped.not_runs).past
  | cancelled heap state task stopped frees =>
      rename_i rest m error
      cases hall
      have hpast : Past (.ssmFree m :: .deactivateReturn :: rest) := by
        intro call hcall
        rcases List.mem_cons.mp hcall with rfl | hcall
        · exact ⟨nofun, nofun⟩
        · rcases List.mem_cons.mp hcall with rfl | hcall
          · exact ⟨nofun, nofun⟩
          · exact frees.past call hcall
      refine Attended.append ?_ hpast
      show (dev.gxfpTaskFinished m error).Attended
      unfold gxfpTaskFinished
      dsimp only
      rw [if_pos task, if_neg (by rw [state.closing]; nofun), if_pos state.deactivating,
        if_neg (by rw [state.sent]; nofun)]
      have hstill : Still { dev with
          taskSsm := none, taskKind := .none, taskDeadline := false
          deactivateCompleteSent := true } :=
        (heap.untrack task stopped).still rfl
      exact hstill.deactivateComplete state.active state.state
  | answered heap flags task answered first frees =>
      rename_i before rest
      cases before with
      | nil =>
          cases hall
          exact hattended.tail nofun
      | cons free before =>
          cases hall
          obtain ⟨m, rfl, -⟩ := first _ List.mem_cons_self
          exact hfree m rfl
  | closing heap state =>
      cases hall
      show (dev.gxfpImgCloseRest).dev.Attended []
      unfold gxfpImgCloseRest
      dsimp only
      rw [if_neg (by rw [state.active]; nofun)]
      have hstill : Still { dev with
          capturedImage := false, deactivating := false, deactivateCompleteSent := false
          closing := false, state := .inactive } :=
        heap.still state.noTask.kind
      exact hstill.actionComplete state.active past_nil

/-- Nothing comes back from the input and output of a state that says it was cancelled. -/
def DriverInput.Uncancelled : DriverInput → Prop
  | .call io => io.result ≠ .failed .cancelled
  | _ => True

instance : DecidablePred DriverInput.Uncancelled := fun input =>
  match input with
  | .call io => inferInstanceAs (Decidable (io.result ≠ .failed .cancelled))
  | .main _ => isTrue trivial
  | .cancel => isTrue trivial

/-- The step leaves an enrolment behind that nothing goes on with. -/
def Driver.abandons (s : Driver) : DriverInput → Bool
  | .main event => s.calls.isEmpty && s.dev.abandons event
  | _ => false

theorem FpiDeviceGxfp.Attended.cancel (h : dev.Attended calls) : dev.cancel.Attended calls := by
  unfold FpiDeviceGxfp.cancel
  split
  · exact h
  · exact h.frame id rfl

/-- **One step** leaves the action attended to, unless it abandons an enrolment. -/
theorem driverStep_attended {input : DriverInput} (hok : s.Ok Q)
    (h : s.dev.Attended s.calls) (hinput : input.Uncancelled)
    (hgoes : ¬ s.abandons input = true) (hstep : driverStep s input = some s') :
    s'.dev.Attended s'.calls := by
  obtain ⟨mon, -, hinv⟩ := hok
  cases input with
  | call io =>
      rw [driverStep] at hstep
      cases hcalls : s.calls with
      | nil =>
          rw [hcalls] at hstep
          cases hstep
      | cons call calls =>
          rw [hcalls] at hstep hinv h
          cases hstep
          exact hinv.perform_attended h hinput
  | main event =>
      rw [driverStep] at hstep
      cases hcalls : s.calls with
      | nil =>
          rw [hcalls] at hstep hinv h
          obtain ⟨e, he, rfl⟩ := Option.map_eq_some_iff.mp hstep
          have hgoes' : s.dev.abandons event = false := by
            rw [Driver.abandons, hcalls] at hgoes
            simpa using hgoes
          have hattended := hinv.settled_of_nil.dispatch_attended h hgoes' he
          show Attended e.dev (e.calls ++ [])
          rw [List.append_nil]
          exact hattended
      | cons call calls =>
          rw [hcalls] at hstep
          cases hstep
  | cancel =>
      rw [driverStep] at hstep
      split at hstep
      · cases hstep
        exact h.cancel
      · cases hstep

end Steps

/-! ### Runs -/

/-- The action will be completed, or a scan or a retry of the task will end. -/
def FpiDeviceGxfp.WaitsOn (dev : FpiDeviceGxfp) : Prop :=
  dev.returning = true ∨ dev.minutiaeScanActive = true ∨ ∃ m, (dev.timeout m).isSome = true

/-- An action that the main loop has under way is waited on. -/
def Driver.Waited (s : Driver) : Prop :=
  s.calls = [] → s.dev.currentAction.isSome = true → s.dev.WaitsOn

section Runs

variable {Q : Place} {s s' : Driver} {dev : FpiDeviceGxfp}

/-- **What is attended to is waited on.** -/
theorem Driver.Ok.waited (hok : s.Ok Q) (h : s.dev.Attended s.calls) : s.Waited := by
  intro hcalls haction
  obtain ⟨mon, -, hinv⟩ := hok
  rw [hcalls] at hinv h
  have hsettled := hinv.settled_of_nil
  rcases hsettled.task with hnone | ⟨m, htask, ssm, hssm, hrun⟩
  · by_cases hactive : s.dev.active = true
    · have hstep := h.inStep hactive (hsettled.flags.active hactive).deactivating
      unfold InStep at hstep
      rw [hnone.kind] at hstep
      exact Or.inr (Or.inl hstep.2.2.1)
    · by_cases hscan : s.dev.minutiaeScanActive = true
      · exact Or.inr (Or.inl hscan)
      · exact Or.inl (h.ended haction (by simpa using hactive) (by simpa using hscan) hnone.kind
          hsettled.flags.closing)
  · obtain ⟨state, hstate⟩ :=
      Option.isSome_iff_exists.mp (h.waits m ssm hssm hrun List.not_mem_nil)
    refine Or.inr (Or.inr ⟨m, ?_⟩)
    rw [FpiDeviceGxfp.timeout, hssm, Option.bind_some, hstate]
    rfl

/-- An enrolment that nothing goes on with. -/
structure FpiDeviceGxfp.Abandoned (dev : FpiDeviceGxfp) : Prop where
  enroll : dev.currentAction = some .enroll
  returning : dev.returning = false
  active : dev.active = false
  minutiae : dev.minutiaeScanActive = false
  noTask : dev.NoTask

/-- **A scan that ends on a deactivated device abandons its enrolment.** -/
theorem Driver.Ok.abandoned {input : DriverInput} (hok : s.Ok Q)
    (habandons : s.abandons input = true) :
    ∃ s', driverStep s input = some s' ∧ s'.calls = [] ∧ s'.dev.Abandoned ∧ s'.log = s.log := by
  cases input with
  | call io => cases habandons
  | cancel => cases habandons
  | main event =>
      obtain ⟨mon, -, hinv⟩ := hok
      cases event with
      | minutiaeDetected result =>
          simp only [Driver.abandons, FpiDeviceGxfp.abandons, Bool.and_eq_true, List.isEmpty_iff,
            beq_iff_eq, Bool.not_eq_true'] at habandons
          obtain ⟨hcalls, ⟨⟨hscan, hactive⟩, henroll⟩, hends⟩ := habandons
          rw [hcalls] at hinv
          have h := hinv.settled_of_nil
          have hkind := h.kind_of_scan hscan hactive
          have htask : s.dev.NoTask := by
            rcases h.task with hnone | ⟨m, -, hruns⟩
            · exact hnone
            · exact absurd hkind (h.heap.one m hruns).2
          obtain ⟨hbusy, hdeactivating⟩ := h.flags.minutiae hscan
          have hdeactivating := hdeactivating.resolve_left (by rw [hactive]; nofun)
          obtain ⟨enrollStage, heq⟩ := minutiaeDetected_enroll henroll (by rw [hends]; nofun)
          -- no task is started on a device that is being deactivated
          have hnothing : ∃ state, s.dev.minutiaeDetected result = .only { s.dev with
              minutiaeScanActive := false, enrollStage, state } := by
            rw [heq]
            unfold enrollMaybeAwaitFingerOn
            split
            · exact ⟨s.dev.state, rfl⟩
            · exact ⟨.awaitFingerOn, if_pos (Or.inr hdeactivating)⟩
          obtain ⟨state, hstate⟩ := hnothing
          refine ⟨s.add (s.dev.minutiaeDetected result) [], ?_, ?_, ?_, ?_⟩
          · rw [driverStep, hcalls]
            show Option.map _ (if _ then _ else _) = _
            rw [if_pos hscan]
            rfl
          · show (s.dev.minutiaeDetected result).calls ++ [] = []
            rw [hstate]
            rfl
          · show (s.dev.minutiaeDetected result).dev.Abandoned
            rw [hstate]
            exact ⟨henroll, hbusy.returning, hactive, rfl, ⟨htask.ssm, htask.kind⟩⟩
          · show s.log ++ (s.dev.minutiaeDetected result).log = s.log
            rw [hstate]
            exact List.append_nil _
      | _ => simp [Driver.abandons, FpiDeviceGxfp.abandons] at habandons

/-- Nothing waits on an abandoned enrolment. -/
theorem FpiDeviceGxfp.Abandoned.not_waitsOn {mon : TaskMonitor} (h : dev.Abandoned)
    (hsettled : dev.Settled Q [] mon) : ¬ dev.WaitsOn := by
  rintro (hreturning | hscan | ⟨m, htimeout⟩)
  · exact absurd (h.returning.symm.trans hreturning) nofun
  · exact absurd (h.minutiae.symm.trans hscan) nofun
  · obtain ⟨e, he⟩ := Option.isSome_iff_exists.mp htimeout
    obtain ⟨ssm, hssm, hmap⟩ := Option.bind_eq_some_iff.mp he
    obtain ⟨state, hstate, -⟩ := Option.map_eq_some_iff.mp hmap
    have hplain := (hsettled.heap.made m ssm hssm).2
    have hrun : ssm.completed = false := by
      rw [Bool.eq_false_iff]
      intro hcompleted
      rw [hplain.timeout hcompleted] at hstate
      cases hstate
    exact (hsettled.heap.one m ⟨ssm, hssm, hrun⟩).2 h.noTask.kind

/-- **An action is attended to** in a run that abandons no enrolment. -/
theorem driverRun_attended (inputs : List DriverInput)
    (hinputs : ∀ input ∈ inputs, input.Uncancelled)
    (hgoes : ∀ before input s, before ++ [input] <+: inputs → driverRun before = some s →
      ¬ s.abandons input = true) (hrun : driverRun inputs = some s) :
    s.dev.Attended s.calls := by
  induction inputs using List.reverseRecOn generalizing s with
  | nil =>
      cases hrun
      refine Still.attended ?_ past_nil nofun nofun
      rintro m ⟨ssm, hssm, -⟩
      cases hssm
  | append_singleton inputs input ih =>
      rw [driverRun_snoc] at hrun
      obtain ⟨before, hbefore, hstep⟩ := Option.bind_eq_some_iff.mp hrun
      have hattended := ih (fun i hi => hinputs i (List.mem_append_left _ hi))
        (fun before input s hinner => hgoes before input s
          (hinner.trans (List.prefix_append ..))) hbefore
      exact driverStep_attended (driverRun_ok hbefore) hattended
        (hinputs input (List.mem_append_right _ (List.mem_singleton.mpr rfl)))
        (hgoes inputs input before List.prefix_rfl hbefore) hstep

/--
**When an action that is under way is always waited on.**

Whatever the main loop, the user and the input and output do, the main loop always has a
completion, a scan or a retry of the task to wait for while an action is under way, if and
only if at no step the scan of an enrolment's image ends on a device that has been
deactivated, with stages left.
-/
theorem driverRun_waited_iff (inputs : List DriverInput)
    (hinputs : ∀ input ∈ inputs, input.Uncancelled) :
    (∀ before s, before <+: inputs → driverRun before = some s → s.Waited) ↔
      ∀ before input s, before ++ [input] <+: inputs → driverRun before = some s →
        ¬ s.abandons input = true := by
  constructor
  · intro hwaited before input s hbefore hrun habandons
    obtain ⟨s', hstep, hcalls, habandoned, -⟩ := (driverRun_ok hrun).abandoned habandons
    have hrun' : driverRun (before ++ [input]) = some s' := by
      rw [driverRun_snoc, hrun]
      exact hstep
    obtain ⟨mon, -, hinv⟩ := driverRun_ok hrun'
    rw [hcalls] at hinv
    refine habandoned.not_waitsOn hinv.settled_of_nil (hwaited _ s' hbefore hrun' hcalls ?_)
    rw [habandoned.enroll]
    rfl
  · intro hgoes before s hbefore hrun
    have hattended : s.dev.Attended s.calls := driverRun_attended before
      (fun input hinput => hinputs input (hbefore.subset hinput))
      (fun before input s hinner => hgoes before input s (hinner.trans hbefore)) hrun
    exact (driverRun_ok hrun).waited hattended

/-! ### An abandoned enrolment -/

/-- **Nothing changes about an abandoned enrolment any more.** -/
theorem driverStep_abandoned {input : DriverInput} (hok : s.Ok Q) (hcalls : s.calls = [])
    (h : s.dev.Abandoned) (hstep : driverStep s input = some s') :
    s'.calls = [] ∧ s'.dev.Abandoned ∧ s'.log = s.log := by
  obtain ⟨mon, -, hinv⟩ := hok
  rw [hcalls] at hinv
  have hsettled := hinv.settled_of_nil
  have haction : s.dev.currentAction.isSome = true := by
    rw [h.enroll]
    rfl
  cases input with
  | call io =>
      rw [driverStep, hcalls] at hstep
      cases hstep
  | cancel =>
      rw [driverStep, if_pos haction] at hstep
      cases hstep
      refine ⟨hcalls, ?_, rfl⟩
      show s.dev.cancel.Abandoned
      unfold FpiDeviceGxfp.cancel
      split
      · exact h
      · exact ⟨h.enroll, h.returning, h.active, h.minutiae, ⟨h.noTask.ssm, h.noTask.kind⟩⟩
  | main event =>
      rw [driverStep, hcalls] at hstep
      obtain ⟨e, he, rfl⟩ := Option.map_eq_some_iff.mp hstep
      cases event with
      | openDevice error =>
          rw [dispatch, fpDeviceOpen, if_pos (Or.inr haction)] at he
          cases he
      | closeDevice =>
          rw [dispatch, fpDeviceClose, if_pos (Or.inr haction)] at he
          cases he
      | startAction action waitForFinger rearm =>
          rw [dispatch, fpDeviceStart, if_pos (Or.inr (Or.inl haction))] at he
          cases he
      | cancelInIdle =>
          simp only [dispatch, FpiDeviceGxfp.cancelInIdle] at he
          split at he
          · cases he
          · cases he
            have hoff := ne_true_of_eq_false h.active
            have hsame : (if FpiDeviceGxfp.capturing { s.dev with cancelQueued := false } then
                FpiDeviceGxfp.imageDeviceDeactivate { s.dev with cancelQueued := false }
              else .only { s.dev with cancelQueued := false }) =
                .only { s.dev with cancelQueued := false } := by
              split
              · exact if_pos (Or.inl hoff)
              · rfl
            rw [hsame]
            exact ⟨rfl,
              ⟨h.enroll, h.returning, h.active, h.minutiae, ⟨h.noTask.ssm, h.noTask.kind⟩⟩,
              List.append_nil _⟩
      | timeout m =>
          exact absurd (Or.inr (Or.inr ⟨m, Option.isSome_iff_exists.mpr ⟨e, he⟩⟩))
            (h.not_waitsOn hsettled)
      | minutiaeDetected result =>
          rw [dispatch, if_neg (ne_true_of_eq_false h.minutiae)] at he
          cases he
      | returnInIdle =>
          rw [dispatch, FpiDeviceGxfp.returnInIdle, if_pos (ne_true_of_eq_false h.returning)] at he
          cases he

/--
**An abandoned enrolment stays so.**

Whatever comes after the step that abandons it, a cancellation included, the enrolment is
still the current action, is not going to be completed, and the driver has reported
nothing since the device was deactivated.
-/
theorem driverRun_abandoned {inputs more : List DriverInput} {input : DriverInput}
    (hrun : driverRun inputs = some s) (habandons : s.abandons input = true)
    (hmore : driverRun (inputs ++ input :: more) = some s') :
    s'.dev.currentAction = some .enroll ∧ ¬ s'.dev.WaitsOn ∧ s'.log = s.log := by
  have hkeeps : ∀ more s', driverRun (inputs ++ input :: more) = some s' →
      s'.calls = [] ∧ s'.dev.Abandoned ∧ s'.log = s.log := by
    intro more
    induction more using List.reverseRecOn with
    | nil =>
        intro s' hmore
        obtain ⟨s₁, hstep, habandoned⟩ := (driverRun_ok hrun).abandoned habandons
        rw [driverRun_snoc, hrun] at hmore
        obtain rfl := Option.some.inj (hstep.symm.trans hmore)
        exact habandoned
    | append_singleton more input' ih =>
        intro s' hmore
        rw [← List.cons_append, ← List.append_assoc, driverRun_snoc] at hmore
        obtain ⟨before, hbefore, hstep⟩ := Option.bind_eq_some_iff.mp hmore
        obtain ⟨hcalls, habandoned, hlog⟩ := ih before hbefore
        obtain ⟨hcalls', habandoned', hlog'⟩ :=
          driverStep_abandoned (driverRun_ok hbefore) hcalls habandoned hstep
        exact ⟨hcalls', habandoned', hlog'.trans hlog⟩
  obtain ⟨hcalls, habandoned, hlog⟩ := hkeeps more s' hmore
  obtain ⟨mon, -, hinv⟩ := driverRun_ok hmore
  rw [hcalls] at hinv
  exact ⟨habandoned.enroll, habandoned.not_waitsOn hinv.settled_of_nil, hlog⟩

/--
**The state of an active device names its task.**

Whatever the main loop, the user and the input and output do, between two events of the
main loop an active device waits for a finger, captures, or waits for the finger to go
just as its state says, and in the state between two fingers an enrolment's image is being
scanned.
-/
theorem driverRun_inStep {inputs : List DriverInput}
    (hinputs : ∀ input ∈ inputs, input.Uncancelled) (hrun : driverRun inputs = some s)
    (hcalls : s.calls = []) (hactive : s.dev.active = true) : s.dev.InStep := by
  have hkeeps : s.dev.Attended s.calls ∨ (s.calls = [] ∧ s.dev.Abandoned) := by
    clear hcalls hactive
    induction inputs using List.reverseRecOn generalizing s with
    | nil => exact Or.inl (driverRun_attended [] hinputs (fun _ _ _ hnil =>
        absurd hnil (by simp)) hrun)
    | append_singleton inputs input ih =>
        rw [driverRun_snoc] at hrun
        obtain ⟨before, hbefore, hstep⟩ := Option.bind_eq_some_iff.mp hrun
        have hok := driverRun_ok hbefore
        rcases ih (fun i hi => hinputs i (List.mem_append_left _ hi)) hbefore with
          hattended | ⟨hcalls, habandoned⟩
        · by_cases habandons : before.abandons input = true
          · obtain ⟨s₁, hstep₁, hcalls, habandoned, -⟩ := hok.abandoned habandons
            obtain rfl := Option.some.inj (hstep₁.symm.trans hstep)
            exact Or.inr ⟨hcalls, habandoned⟩
          · exact Or.inl (driverStep_attended hok hattended
              (hinputs input (List.mem_append_right _ (List.mem_singleton.mpr rfl))) habandons
              hstep)
        · obtain ⟨hcalls', habandoned', -⟩ := driverStep_abandoned hok hcalls habandoned hstep
          exact Or.inr ⟨hcalls', habandoned'⟩
  rcases hkeeps with hattended | ⟨-, habandoned⟩
  · obtain ⟨mon, -, hinv⟩ := driverRun_ok hrun
    rw [hcalls] at hinv
    exact hattended.inStep hactive (hinv.settled_of_nil.flags.active hactive).deactivating
  · exact absurd (habandoned.active.symm.trans hactive) nofun

end Runs

/-- An enrolment whose wait for the finger to go fails while the first image is scanned. -/
def failedEnrollment : List DriverInput :=
  let io (result : IoResult) : DriverInput := .call ⟨false, result⟩
  [.main (.openDevice none), .main .returnInIdle, .main (.startAction .enroll true none)] ++
    -- the activation, the wait for the finger and the capture
    List.replicate 16 (io .done) ++
    -- the wait for the finger to go, and what is called back when it has failed
    [io .done, io (.failed .io)] ++ List.replicate 6 (io .done)

/-- The scan of the image ends well, and the enrolment is cancelled behind it. -/
def scannedTooLate : List DriverInput :=
  [.main (.minutiaeDetected (.print none)), .cancel, .main .cancelInIdle]

theorem driverRun_waited_iff_failedEnrollment :
    (∀ before s, before <+: failedEnrollment ++ scannedTooLate → driverRun before = some s →
        s.Waited) ↔
      ∀ before input s, before ++ [input] <+: failedEnrollment ++ scannedTooLate →
        driverRun before = some s → ¬ s.abandons input = true :=
  driverRun_waited_iff _ (by decide)

/-- Cancelling it does not end it. -/
theorem driverRun_abandoned_failedEnrollment :
    ∃ s, driverRun (failedEnrollment ++ scannedTooLate) = some s ∧
      s.dev.currentAction = some .enroll ∧ ¬ s.dev.WaitsOn := by
  have habandons : (driverRun failedEnrollment).map (fun s =>
      s.abandons (.main (.minutiaeDetected (.print none)))) = some true := by
    decide +kernel
  have hmore : (driverRun (failedEnrollment ++ scannedTooLate)).isSome = true := by
    decide +kernel
  obtain ⟨s, hrun, hinput⟩ := Option.map_eq_some_iff.mp habandons
  obtain ⟨s', hrun'⟩ := Option.isSome_iff_exists.mp hmore
  obtain ⟨henroll, hwaits, -⟩ := driverRun_abandoned hrun hinput hrun'
  exact ⟨s', hrun', henroll, hwaits⟩

/-- The same enrolment while the finger is still there. -/
def enrollmentWaiting : List DriverInput :=
  failedEnrollment.take 20 ++ List.replicate 4 (.call ⟨false, .again⟩)

theorem driverRun_inStep_waiting :
    ∃ s, driverRun enrollmentWaiting = some s ∧ s.dev.active = true ∧ s.dev.InStep := by
  have hstate : (driverRun enrollmentWaiting).map (fun s => (s.calls.isEmpty, s.dev.active)) =
      some (true, true) := by
    decide +kernel
  obtain ⟨s, hrun, hpair⟩ := Option.map_eq_some_iff.mp hstate
  obtain ⟨hcalls, hactive⟩ := Prod.mk.inj hpair
  exact ⟨s, hrun, hactive,
    driverRun_inStep (by decide) hrun (List.isEmpty_iff.mp hcalls) hactive⟩

end Gxfp
