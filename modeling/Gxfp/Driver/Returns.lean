/-
Runs of actions, and what is returned in them.

The user asks for one action after another, and in between everything comes in any order.
Of a run it is remembered what was asked for last and what has been scanned since.  What is
returned is about these, and there is one result to each action.
-/
import Gxfp.Driver.Outcomes

namespace Gxfp

open FpiDeviceGxfp Monitor

/-! ### Steps -/

/-- What holds between any two steps. -/
structure ActionDriver.Good (mt : Matcher) (history : ActionHistory) (s : ActionDriver) : Prop where
  ok : s.driver.Ok .anywhere
  closing : .imgCloseRest ∈ s.driver.calls → s.driver.dev.capturing = false
  queued : s.driver.dev.currentAction = none → s.driver.dev.cancelQueued = false
  idle : s.driver.dev.capturing = false → s.task.results = []
  stands : s.driver.dev.capturing = true → ∃ request, history.request = some request ∧
    Stands mt request history.scans s.driver.dev.view s.task

section Steps

variable {mt : Matcher} {request : ActionRequest} {scans : List SigfmImgInfo} {task : FpTask}
  {dev dev' : FpiDeviceGxfp} {call : PendingCall} {calls : List PendingCall} {mon : TaskMonitor}
  {Q : Place}

theorem Driver.Ok.step {driver driver' : Driver} {input : DriverInput} (h : driver.Ok .anywhere)
    (hstep : driverStep driver input = some driver') : driver'.Ok .anywhere :=
  driverStep_ok h hstep fun _ _ _ _ _ _ _ _ => trivial

theorem capturing_of_view (h : dev'.view = dev.view) : dev'.capturing = dev.capturing := by
  have haction : dev'.currentAction = dev.currentAction := congrArg ActionView.currentAction h
  unfold FpiDeviceGxfp.capturing
  rw [haction]

/-- Without an action that goes on, all that is left to do is to free machines, or to return. -/
theorem Inv.idle_call (h : Inv Q dev (call :: calls) mon) (hbusy : ¬ dev.Busy) :
    (∃ m, call = .ssmFree m) ∨ call = .deactivateReturn ∨ call = .imgCloseRest := by
  generalize hall : call :: calls = all at h
  cases h with
  | settled settled =>
      subst hall
      obtain ⟨m, rfl, -⟩ := settled.frees call List.mem_cons_self
      exact Or.inl ⟨m, rfl⟩
  | handler settled task runs =>
      have hnone := (settled.off hbusy).noTask.ssm
      rw [task] at hnone
      cases hnone
  | finished heap flags task kind stopped idle frees =>
      by_cases hactivate : dev.taskKind = .activate
      · exact absurd (flags.activating hactivate).busy hbusy
      · exact absurd (flags.active (flags.task kind hactivate)).busy hbusy
  | cancelled heap state task stopped frees => exact absurd state.busy hbusy
  | answered heap flags task answered first frees =>
      rename_i before rest
      cases before with
      | nil =>
          cases hall
          exact Or.inr (Or.inl rfl)
      | cons free before =>
          cases hall
          obtain ⟨m, rfl, -⟩ := first _ List.mem_cons_self
          exact Or.inl ⟨m, rfl⟩
  | closing heap state =>
      cases hall
      exact Or.inr (Or.inr rfl)

theorem open_perform (io : IoOutcome) (call : PendingCall) : (dev.perform io call).Open := by
  cases call with
  | handler m => exact open_callHandler m io
  | taskFinished m error => exact open_gxfpTaskFinished m error
  | ssmFree m => exact open_only _
  | deactivateReturn => exact open_seen (open_only _) _
  | imgCloseRest => exact open_only _

/-- The innermost call, while the action goes on. -/
theorem Ongoing.perform (h : Ongoing mt request scans dev.view task)
    (hcall : call ≠ .imgCloseRest) (io : IoOutcome) :
    Stands mt request scans (dev.perform io call).dev.view (task.perform dev call) := by
  cases call with
  | handler m =>
      refine Or.inl ?_
      show Ongoing mt request scans (dev.callHandler m io).dev.view task
      rw [view_callHandler]
      exact h
  | taskFinished m error => exact h.gxfpTaskFinished m error
  | ssmFree m => exact Or.inl h
  | deactivateReturn => exact Or.inl h
  | imgCloseRest => exact absurd rfl hcall

variable {history : ActionHistory} {s s' : ActionDriver} {driver : Driver}

/-- Nothing happens that an action sees. -/
theorem ActionDriver.Good.same (h : s.Good mt history) (hok : driver.Ok .anywhere)
    (hview : driver.dev.view = s.driver.dev.view)
    (hcalls : .imgCloseRest ∈ driver.calls → .imgCloseRest ∈ s.driver.calls) :
    ActionDriver.Good mt history ⟨driver, s.task⟩ where
  ok := hok
  closing := fun hmem => (capturing_of_view hview).trans (h.closing (hcalls hmem))
  queued := fun hnone =>
    (congrArg ActionView.cancelQueued hview).trans
      (h.queued ((congrArg ActionView.currentAction hview).symm.trans hnone))
  idle := fun hnot => h.idle ((capturing_of_view hview).symm.trans hnot)
  stands := fun hcapturing => by
    rw [hview]
    exact h.stands ((capturing_of_view hview).symm.trans hcapturing)

theorem capturing_of_action (h : dev.currentAction = some request.action) :
    dev.capturing = true := by
  unfold FpiDeviceGxfp.capturing
  rw [h]
  cases request <;> rfl

/-- The action goes on, or has its result now. -/
theorem ActionDriver.Good.of_stands (hok : driver.Ok .anywhere)
    (hcalls : .imgCloseRest ∉ driver.calls) (hrequest : history.request = some request)
    (hstands : Stands mt request history.scans driver.dev.view task) :
    ActionDriver.Good mt history ⟨driver, task⟩ := by
  have haction : driver.dev.currentAction = some request.action :=
    hstands.elim (fun h => h.action) fun h => h.action
  refine ⟨hok, fun hmem => absurd hmem hcalls, fun hnone => ?_, fun hnot => ?_,
    fun _ => ⟨request, hrequest, hstands⟩⟩
  · rw [show driver.dev.currentAction = none from hnone] at haction
    cases haction
  · rw [capturing_of_action haction] at hnot
    cases hnot

/-- There is no action that captures images. -/
theorem ActionDriver.Good.of_not_capturing (hok : driver.Ok .anywhere)
    (hnot : driver.dev.capturing = false)
    (hqueued : driver.dev.currentAction = none → driver.dev.cancelQueued = false)
    (hidle : task.results = []) :
    ActionDriver.Good mt history ⟨driver, task⟩ where
  ok := hok
  closing := fun _ => hnot
  queued := hqueued
  idle := fun _ => hidle
  stands := fun hcapturing => by
    rw [show driver.dev.capturing = false from hnot] at hcapturing
    cases hcapturing

theorem Returned.not_busy (h : Returned mt request scans dev.view task) : ¬ dev.Busy := by
  intro hbusy
  have hreturning : dev.returning = true := h.returning
  rw [hbusy.returning] at hreturning
  cases hreturning

theorem Ongoing.busy (h : Ongoing mt request scans dev.view task) : dev.Busy :=
  ⟨capturing_of_action h.action, h.returning⟩

/-- **The innermost call.** -/
theorem ActionDriver.Good.innermost (h : s.Good mt history) {io : IoOutcome}
    (hstep : actionStep mt s (.call io) = some s') : s'.Good mt history := by
  have hstep : (s.driver.calls.head?.bind fun call =>
      (driverStep s.driver (.call io)).bind fun driver =>
        some ⟨driver, s.task.perform s.driver.dev call⟩) = some s' := hstep
  cases hcalls : s.driver.calls with
  | nil =>
      rw [hcalls] at hstep
      cases hstep
  | cons call calls =>
      have hdriver : driverStep s.driver (.call io) =
          some (s.driver.add (s.driver.dev.perform io call) calls) := by
        rw [driverStep, hcalls]
      rw [hdriver, hcalls] at hstep
      cases hstep
      have hok := Driver.Ok.step h.ok hdriver
      have hrest : .imgCloseRest ∈ (s.driver.dev.perform io call).calls ++ calls →
          .imgCloseRest ∈ s.driver.calls := by
        intro hmem
        rcases List.mem_append.mp hmem with hmem | hmem
        · exact absurd hmem (open_perform io call)
        · exact hcalls ▸ List.mem_cons_of_mem _ hmem
      have hidle : ¬ s.driver.dev.Busy →
          (∃ m, call = .ssmFree m) ∨ call = .deactivateReturn ∨ call = .imgCloseRest := by
        intro hbusy
        obtain ⟨mon, -, hinv⟩ := h.ok
        rw [hcalls] at hinv
        exact hinv.idle_call hbusy
      by_cases hclose : call = .imgCloseRest
      · subst hclose
        have hnot := h.closing (hcalls ▸ List.mem_cons_self)
        have haction : (s.driver.dev.perform io .imgCloseRest).dev.currentAction =
            s.driver.dev.currentAction := by
          show (gxfpImgCloseRest _).dev.currentAction = _
          unfold gxfpImgCloseRest actionComplete
          dsimp only
          split
          · rfl
          · dsimp only [Effect.only]
            split <;> rfl
        have hqueued : s.driver.dev.currentAction = none →
            (s.driver.dev.perform io .imgCloseRest).dev.cancelQueued = false := by
          intro hnone
          have hold := h.queued hnone
          show (gxfpImgCloseRest _).dev.cancelQueued = _
          unfold gxfpImgCloseRest actionComplete
          dsimp only
          split
          · exact hold
          · dsimp only [Effect.only]
            split
            · exact hold
            · rfl
        refine .of_not_capturing hok ?_ (fun hnone => hqueued (haction.symm.trans hnone))
          (h.idle hnot)
        unfold FpiDeviceGxfp.capturing
        show Option.any _ (s.driver.dev.perform io .imgCloseRest).dev.currentAction = false
        rw [haction]
        exact hnot
      · have hsame : ¬ s.driver.dev.Busy → ActionDriver.Good mt history
            ⟨s.driver.add (s.driver.dev.perform io call) calls,
              s.task.perform s.driver.dev call⟩ := by
          intro hbusy
          rcases hidle hbusy with ⟨m, rfl⟩ | rfl | rfl
          · exact h.same hok rfl hrest
          · exact h.same hok rfl hrest
          · exact absurd rfl hclose
        by_cases hcapturing : s.driver.dev.capturing = true
        · obtain ⟨request, hrequest, hongoing | hreturned⟩ := h.stands hcapturing
          · refine .of_stands hok (fun hmem => ?_) hrequest (hongoing.perform hclose io)
            have hnot := h.closing (hrest hmem)
            rw [hcapturing] at hnot
            cases hnot
          · exact hsame hreturned.not_busy
        · exact hsame fun hbusy => hcapturing hbusy.capturing

/-- A cancellation is something to stop for. -/
theorem Stands.cancel (h : Stands mt request scans dev.view task) :
    Stands mt request scans dev.cancel.view task := by
  unfold FpiDeviceGxfp.cancel
  by_cases hcancelled : dev.cancelled = true
  · rw [if_pos hcancelled]
    exact h
  · rw [if_neg hcancelled]
    rcases h with hongoing | hreturned
    · refine Or.inl ⟨⟨hongoing.action, hongoing.returning, hongoing.results, fun _ => rfl,
        hongoing.fresh, fun _ => Or.inr (Or.inl rfl), ?_⟩, hongoing.still⟩
      cases request with
      | enroll template =>
          exact ⟨hongoing.shape.data, hongoing.shape.stage, hongoing.shape.reports,
            hongoing.shape.last⟩
      | verify _ | identify _ | capture _ =>
          exact ⟨hongoing.shape.judged, hongoing.shape.looking, fun _ => Or.inr (Or.inl rfl)⟩
    · exact Or.inr ⟨hreturned.action, hreturned.returning, hreturned.active, hreturned.scan,
        hreturned.result⟩

/-- What `driverStep` does at an event of the main loop. -/
theorem driverStep_main {driver driver' : Driver} {event : MainEvent}
    (h : driverStep driver (.main event) = some driver') :
    driver.calls = [] ∧ ∃ e, driver.dev.dispatch event = some e ∧ driver' = driver.add e [] := by
  unfold driverStep at h
  cases hcalls : driver.calls with
  | cons call calls =>
      rw [hcalls] at h
      cases h
  | nil =>
      rw [hcalls] at h
      obtain ⟨e, he, rfl⟩ := Option.map_eq_some_iff.mp h
      exact ⟨rfl, e, he, rfl⟩

/-- A step of an action at an event of the main loop. -/
theorem bind_main {β : Type} {driver : Driver} {event : MainEvent} {f : Driver → β} {b : β}
    (h : ((driverStep driver (.main event)).bind fun driver => some (f driver)) = some b) :
    driver.calls = [] ∧ ∃ e, driver.dev.dispatch event = some e ∧
      driverStep driver (.main event) = some (driver.add e []) ∧ b = f (driver.add e []) := by
  obtain ⟨driver', hdriver, hb⟩ := Option.bind_eq_some_iff.mp h
  obtain ⟨hcalls, e, he, rfl⟩ := driverStep_main hdriver
  exact ⟨hcalls, e, he, hdriver, (Option.some.inj hb).symm⟩

/-- **An action is begun.** -/
theorem ActionDriver.Good.begin (h : s.Good mt history) {rearm : Option GError}
    (hstep : actionStep mt s (.start request rearm) = some s') :
    s'.Good mt ⟨some request, []⟩ := by
  have hstep : (if request.compatible mt = true then
      (driverStep s.driver
        (.main (.startAction request.action request.waitForFinger rearm))).bind fun driver =>
          some (ActionDriver.mk driver ((FpTask.new request).startCaptureAction
            (s.driver.dev.setupTask request.action) request.waitForFinger rearm))
      else none) = some s' := hstep
  split at hstep
  swap
  · cases hstep
  obtain ⟨hcalls, e, he, hdriver, rfl⟩ := bind_main hstep
  have he : (if ¬ s.driver.dev.isOpen ∨ s.driver.dev.currentAction.isSome ∨
      ¬ request.action.captures then none
    else some ((s.driver.dev.setupTask request.action).startCaptureAction request.waitForFinger
      rearm)) = some e := he
  split at he
  · cases he
  rename_i hready
  cases he
  have hnone : s.driver.dev.currentAction = none := by
    by_contra hsome
    exact hready (Or.inr (Or.inl (Option.isSome_iff_ne_none.mpr hsome)))
  have hoff : s.driver.dev.active = false ∧ s.driver.dev.minutiaeScanActive = false := by
    obtain ⟨mon, -, hinv⟩ := h.ok
    rw [hcalls] at hinv
    have hoff := hinv.settled_of_nil.off (not_busy_of_isNone (by rw [hnone]; nofun))
    exact ⟨hoff.active, hoff.minutiae⟩
  have hqueued := h.queued hnone
  refine .of_stands (h.ok.step hdriver) ?_ rfl ?_
  · intro hmem
    rcases List.mem_append.mp hmem with hmem | hmem
    · exact open_startCaptureAction _ _ hmem
    · exact absurd hmem List.not_mem_nil
  · have haction : (s.driver.dev.setupTask request.action).currentAction = some request.action :=
      rfl
    refine stands_startCaptureAction haction rfl hoff.1 hoff.2 (fun hon => ?_) rearm
    rw [show s.driver.dev.cancelQueued = true from hon] at hqueued
    cases hqueued

/-- The device, with the cancellation that was queued. -/
def FpiDeviceGxfp.unqueued (dev : FpiDeviceGxfp) : FpiDeviceGxfp :=
  { dev with cancelQueued := false }

theorem cancelInIdle_some {e : Effect} (h : dev.cancelInIdle = some e) :
    dev.cancelQueued = true ∧
      e = if dev.capturing then dev.unqueued.imageDeviceDeactivate else .only dev.unqueued := by
  unfold FpiDeviceGxfp.cancelInIdle at h
  split at h
  · cases h
  · rename_i hqueued
    cases h
    exact ⟨not_not.mp hqueued, rfl⟩

/-- What is queued is not what makes an action go on. -/
theorem Ongoing.unqueued (h : Ongoing mt request scans dev.view task) :
    Ongoing mt request scans dev.unqueued.view task := by
  refine ⟨⟨h.action, h.returning, h.results, nofun, h.fresh, h.stopped, ?_⟩, h.still⟩
  cases request with
  | enroll template => exact ⟨h.shape.data, h.shape.stage, h.shape.reports, h.shape.last⟩
  | verify _ | identify _ | capture _ =>
      exact ⟨h.shape.judged, h.shape.looking, h.shape.lifted⟩

theorem Returned.unqueued (h : Returned mt request scans dev.view task) :
    Returned mt request scans dev.unqueued.view task :=
  ⟨h.action, h.returning, h.active, h.scan, h.result⟩

/-- **The cancellation** gets to the device. -/
theorem ActionDriver.Good.stopped (h : s.Good mt history)
    (hstep : actionStep mt s .cancelInIdle = some s') : s'.Good mt history := by
  obtain ⟨-, e, he, hdriver, rfl⟩ := bind_main hstep
  have hok := h.ok.step hdriver
  obtain ⟨hqueued, rfl⟩ := cancelInIdle_some he
  by_cases hcapturing : s.driver.dev.capturing = true
  · have htask : s.task.cancelInIdle s.driver.dev =
        s.task.imageDeviceDeactivate s.driver.dev.unqueued := if_pos hcapturing
    rw [if_pos hcapturing] at hok ⊢
    rw [htask]
    obtain ⟨request, hrequest, hstands⟩ := h.stands hcapturing
    refine .of_stands hok (fun hmem => ?_) hrequest ?_
    · rcases List.mem_append.mp hmem with hmem | hmem
      · exact open_imageDeviceDeactivate hmem
      · exact absurd hmem List.not_mem_nil
    · rcases hstands with hongoing | hreturned
      · have hcancelled : s.driver.dev.cancelled = true := hongoing.queued hqueued
        exact hongoing.unqueued.imageDeviceDeactivate (Or.inr (Or.inl hcancelled)) fun _ =>
          hongoing.unqueued
      · exact Or.inr hreturned.unqueued.imageDeviceDeactivate
  · rw [if_neg hcapturing] at hok ⊢
    have hnot := Bool.eq_false_iff.mpr hcapturing
    have htask : s.task.cancelInIdle s.driver.dev = s.task := if_neg hcapturing
    rw [htask]
    exact .of_not_capturing hok hnot (fun _ => rfl) (h.idle hnot)

/-- **A scan is done.** -/
theorem ActionDriver.Good.scanned (h : s.Good mt history) {scan : Scan}
    (hstep : actionStep mt s (.scanned scan) = some s') :
    s'.Good mt { history with scans := history.scans ++ scan.infos } := by
  have hstep : ((s.task.detected mt s.driver.dev scan).bind fun r =>
      (driverStep s.driver (.main (.minutiaeDetected r.1))).bind fun driver =>
        some (ActionDriver.mk driver (r.2.minutiaeDetected s.driver.dev r.1))) = some s' := hstep
  obtain ⟨⟨result, task'⟩, hdetected, hstep⟩ := Option.bind_eq_some_iff.mp hstep
  obtain ⟨hcalls, e, he, hdriver, rfl⟩ := bind_main hstep
  have he : (if s.driver.dev.minutiaeScanActive = true then
    some (s.driver.dev.minutiaeDetected result) else none) = some e := he
  split at he
  swap
  · cases he
  rename_i hscan
  cases he
  have hbusy : s.driver.dev.Busy := by
    obtain ⟨mon, -, hinv⟩ := h.ok
    rw [hcalls] at hinv
    exact (hinv.settled_of_nil.flags.minutiae hscan).1
  obtain ⟨request, hrequest, hongoing | hreturned⟩ := h.stands hbusy.capturing
  · refine .of_stands (h.ok.step hdriver) ?_ hrequest (hongoing.minutiaeDetected hscan hdetected)
    intro hmem
    rcases List.mem_append.mp hmem with hmem | hmem
    · exact open_minutiaeDetected _ hmem
    · exact absurd hmem List.not_mem_nil
  · exact absurd hbusy hreturned.not_busy

theorem not_capturing (h : ¬ dev.currentAction.isSome = true) : dev.capturing = false := by
  unfold FpiDeviceGxfp.capturing
  cases haction : dev.currentAction with
  | none => rfl
  | some action =>
      rw [haction] at h
      exact absurd rfl h

/-- Opening completes its own action. -/
theorem ActionDriver.Good.opened (h : s.Good mt history) {error : Option GError}
    (hstep : actionStep mt s (.openDevice error) = some s') : s'.Good mt history := by
  obtain ⟨-, e, he, hdriver, rfl⟩ := bind_main hstep
  have he : s.driver.dev.fpDeviceOpen error = some e := he
  unfold fpDeviceOpen at he
  split at he
  · cases he
  · rename_i hready
    cases he
    exact .of_not_capturing (h.ok.step hdriver) rfl nofun
      (h.idle (not_capturing fun hsome => hready (Or.inr hsome)))

theorem view_gxfpImgClose (dev : FpiDeviceGxfp) : dev.gxfpImgClose.dev.view = dev.view := by
  unfold gxfpImgClose
  dsimp only
  split
  · rfl
  · exact view_ssmDo _ _ _

/-- Closing is an action too. -/
theorem ActionDriver.Good.closed (h : s.Good mt history)
    (hstep : actionStep mt s .closeDevice = some s') : s'.Good mt history := by
  obtain ⟨-, e, he, hdriver, rfl⟩ := bind_main hstep
  have he : s.driver.dev.fpDeviceClose = some e := he
  unfold fpDeviceClose at he
  split at he
  · cases he
  · rename_i hready
    cases he
    have hview := view_gxfpImgClose (s.driver.dev.setupTask .closeDevice)
    refine .of_not_capturing (h.ok.step hdriver) (capturing_of_view hview) (fun hnone => ?_)
      (h.idle (not_capturing fun hsome => hready (Or.inr hsome)))
    have haction : some DeviceAction.closeDevice = none :=
      (congrArg ActionView.currentAction hview).symm.trans hnone
    cases haction

/-- A timer goes off. -/
theorem ActionDriver.Good.timedOut (h : s.Good mt history) {m : Nat}
    (hstep : actionStep mt s (.timeout m) = some s') : s'.Good mt history := by
  obtain ⟨-, e, he, hdriver, rfl⟩ := bind_main hstep
  have he : s.driver.dev.timeout m = some e := he
  obtain ⟨ssm, -, he⟩ := Option.bind_eq_some_iff.mp he
  obtain ⟨state, -, rfl⟩ := Option.map_eq_some_iff.mp he
  refine h.same (h.ok.step hdriver) (view_ssmDo _ _ _) fun hmem => ?_
  rcases List.mem_append.mp hmem with hmem | hmem
  · exact absurd hmem (open_ssmDo _ _)
  · exact absurd hmem List.not_mem_nil

/-- The result is returned, and there is no action any more. -/
theorem ActionDriver.Good.returned (h : s.Good mt history)
    (hstep : actionStep mt s .returnInIdle = some s') : s'.Good mt history := by
  obtain ⟨-, e, he, hdriver, rfl⟩ := bind_main hstep
  have he : s.driver.dev.returnInIdle = some e := he
  unfold FpiDeviceGxfp.returnInIdle at he
  split at he
  · cases he
  · cases he
    exact .of_not_capturing (h.ok.step hdriver) rfl (fun _ => rfl) rfl

/-- The user cancels the action. -/
theorem ActionDriver.Good.cancelled (h : s.Good mt history)
    (hstep : actionStep mt s .cancel = some s') : s'.Good mt history := by
  obtain ⟨driver', hdriver, hs'⟩ := Option.bind_eq_some_iff.mp hstep
  cases hs'
  have hok := h.ok.step hdriver
  unfold driverStep at hdriver
  dsimp only at hdriver
  split at hdriver
  swap
  · cases hdriver
  rename_i hsome
  cases hdriver
  have haction : s.driver.dev.cancel.currentAction = s.driver.dev.currentAction := by
    unfold FpiDeviceGxfp.cancel
    split <;> rfl
  have hsame : s.driver.dev.cancel.capturing = s.driver.dev.capturing := by
    unfold FpiDeviceGxfp.capturing
    rw [haction]
  exact
    { ok := hok
      closing := fun hmem => hsame.trans (h.closing hmem)
      queued := fun hnone => by
        rw [show s.driver.dev.currentAction = none from haction.symm.trans hnone] at hsome
        cases hsome
      idle := fun hnot => h.idle (hsame.symm.trans hnot)
      stands := fun hcapturing => by
        obtain ⟨request, hrequest, hstands⟩ := h.stands (hsame.symm.trans hcapturing)
        exact ⟨request, hrequest, hstands.cancel⟩ }

theorem ActionHistory.see_scanned (history : ActionHistory) (scan : Scan) :
    history.see (.scanned scan) = { history with scans := history.scans ++ scan.infos } := by
  cases scan with
  | cancelled =>
      rw [Scan.infos, List.append_nil]
      rfl
  | extracted info => rfl

/-- **A step** keeps what holds, of what was asked for last and has been scanned since. -/
theorem ActionDriver.Good.step (h : s.Good mt history) {input : ActionInput}
    (hstep : actionStep mt s input = some s') : s'.Good mt (history.see input) := by
  cases input with
  | call io => exact h.innermost hstep
  | openDevice error => exact h.opened hstep
  | closeDevice => exact h.closed hstep
  | start request rearm => exact h.begin hstep
  | cancelInIdle => exact h.stopped hstep
  | timeout m => exact h.timedOut hstep
  | returnInIdle => exact h.returned hstep
  | cancel => exact h.cancelled hstep
  | scanned scan =>
      rw [ActionHistory.see_scanned]
      exact h.scanned hstep

end Steps

/-! ### Prints and scans -/

section Comparing

variable {mt : Matcher} {template : FpPrint} {info : SigfmImgInfo}

/-- A print matches a scan: one of its templates reaches the threshold, and the ones ahead of it
stay below. -/
def FpPrint.Matches (mt : Matcher) (info : SigfmImgInfo) (template : FpPrint) : Prop :=
  ∃ prints, template.data = .sigfm prints ∧ Found mt.score bz3Threshold info prints

/-- A print differs from a scan: all its templates stay below the threshold. -/
def FpPrint.Differs (mt : Matcher) (info : SigfmImgInfo) (template : FpPrint) : Prop :=
  ∃ prints, template.data = .sigfm prints ∧
    ∀ pinfo ∈ prints, Below mt.score bz3Threshold info pinfo

theorem fpiPrintSigfmMatch_eq_success :
    fpiPrintSigfmMatch mt.score bz3Threshold template (printOf mt info) = some .success ↔
      template.Matches mt info := by
  unfold fpiPrintSigfmMatch FpPrint.Matches printOf
  cases hdata : template.data with
  | sigfm prints =>
      dsimp only
      rw [sigfmMatchLoop_eq_success]
      simp
  | undefined | raw _ | nbis _ => simp

theorem fpiPrintSigfmMatch_eq_fail :
    fpiPrintSigfmMatch mt.score bz3Threshold template (printOf mt info) = some .fail ↔
      template.Differs mt info := by
  unfold fpiPrintSigfmMatch FpPrint.Differs printOf
  cases hdata : template.data with
  | sigfm prints =>
      dsimp only
      rw [sigfmMatchLoop_eq_fail]
      simp
  | undefined | raw _ | nbis _ => simp

/-- A print of a gallery that matches, behind others that differ. -/
def FoundIn (mt : Matcher) (info : SigfmImgInfo) (gallery : List FpPrint) :
    Option FpPrint → Prop
  | none => ∀ template ∈ gallery, template.Differs mt info
  | some template =>
    ∃ before after, gallery = before ++ template :: after ∧
      (∀ t ∈ before, t.Differs mt info) ∧ template.Matches mt info

/-- **The search** ends at the first print that matches. -/
theorem FoundIn.of_identifyLoop {gallery : List FpPrint} {found : Option FpPrint}
    (h : identifyLoop mt (printOf mt info) gallery = some (.ok found)) :
    FoundIn mt info gallery found := by
  induction gallery with
  | nil =>
      cases h
      exact nofun
  | cons first gallery ih =>
      obtain ⟨result, hresult, h⟩ := Option.bind_eq_some_iff.mp h
      cases result with
      | error _ => cases h
      | success =>
          cases h
          exact ⟨[], gallery, rfl, nofun, fpiPrintSigfmMatch_eq_success.mp hresult⟩
      | fail =>
          have hdiffers := fpiPrintSigfmMatch_eq_fail.mp hresult
          cases found with
          | none => exact List.forall_mem_cons.mpr ⟨hdiffers, ih h⟩
          | some template =>
              obtain ⟨before, after, rfl, hbefore, hmatches⟩ := ih h
              exact ⟨first :: before, after, rfl, List.forall_mem_cons.mpr ⟨hdiffers, hbefore⟩,
                hmatches⟩

end Comparing

/-! ### Runs -/

section Runs

variable {mt : Matcher} {inputs : List ActionInput} {s s' : ActionDriver}

theorem constructed_good (mt : Matcher) : ActionDriver.constructed.Good mt ⟨none, []⟩ :=
  ⟨constructed_ok, nofun, fun _ => rfl, fun _ => rfl, nofun⟩

/-- **Runs** keep what holds, of what was asked for last and has been scanned since. -/
theorem actionRun_good (hrun : actionRun mt inputs = some s) : s.Good mt (historyOf inputs) :=
  watch_remembers ActionHistory.see (fun history s => s.Good mt history) hrun
    (constructed_good mt) fun _ _ _ _ hgood hstep => hgood.step hstep

/-- A step of an action is one of the driver. -/
theorem driverStep_of_actionStep {input : ActionInput}
    (hstep : actionStep mt s input = some s') :
    ∃ i, driverStep s.driver i = some s'.driver := by
  have hlast : ∀ {i : DriverInput} {task : FpTask},
      ((driverStep s.driver i).bind fun driver => some (ActionDriver.mk driver task)) = some s' →
      ∃ i, driverStep s.driver i = some s'.driver := by
    intro i task h
    obtain ⟨driver, hdriver, hs'⟩ := Option.bind_eq_some_iff.mp h
    cases hs'
    exact ⟨i, hdriver⟩
  cases input with
  | call io =>
      obtain ⟨call, -, hstep⟩ := Option.bind_eq_some_iff.mp hstep
      exact hlast hstep
  | start request rearm =>
      unfold actionStep at hstep
      dsimp only at hstep
      split at hstep
      · exact hlast hstep
      · cases hstep
  | scanned scan =>
      obtain ⟨result, -, hstep⟩ := Option.bind_eq_some_iff.mp hstep
      exact hlast hstep
  | openDevice _ | closeDevice | cancelInIdle | timeout _ | returnInIdle | cancel =>
      exact hlast hstep

/-- **Actions run on the driver**: what holds in all runs of it holds below an action. -/
theorem driverRun_of_actionRun (hrun : actionRun mt inputs = some s) :
    ∃ events, driverRun events = some s.driver := by
  refine watch_keeps (fun s : ActionDriver => ∃ events, driverRun events = some s.driver) hrun
    ⟨[], rfl⟩ fun input _ s s' => ?_
  rintro ⟨events, hevents⟩ hstep
  obtain ⟨i, hi⟩ := driverStep_of_actionStep hstep
  have hrun' : watch driverStep Driver.constructed events = some s.driver := hevents
  refine ⟨events ++ [i], ?_⟩
  show watch driverStep Driver.constructed (events ++ [i]) = some s'.driver
  rw [watch_append, hrun', Option.bind_some, watch_cons, hi]
  rfl

end Runs

/-- Key points enough, in one place. -/
def fullScan : SigfmImgInfo where
  keypoints := List.replicate 25 ⟨-1, 0, 0, 0, 0, ⟨0, 0⟩⟩
  descriptors := ⟨5, 0, 0, []⟩

/-- All templates match. -/
def sameMatcher : Matcher := ⟨"gxfp", "0", fun _ _ => some 40⟩

/-- An action that nothing goes wrong with, up to `n` calls from its start. -/
def actionUpTo (request : ActionRequest) (n : Nat) : List ActionInput :=
  [.openDevice none, .returnInIdle, .start request none] ++
    List.replicate n (.call ⟨false, .done⟩)

/-- A scan, and the device is stopped before it is done. -/
def scannedAction (request : ActionRequest) (info : SigfmImgInfo) : List ActionInput :=
  actionUpTo request 25 ++ [.scanned (.extracted info)]

/-- Sixteen scans, each done behind the finger's going. -/
def scannedEnrollment (print : FpPrint) (info : SigfmImgInfo) : List ActionInput :=
  actionUpTo (.enroll print) 9 ++
    (List.replicate 16
      (List.replicate 15 (.call ⟨false, .done⟩) ++ [.scanned (.extracted info)])).flatten

section Runs

variable {mt : Matcher} {inputs : List ActionInput} {s : ActionDriver}
  {history : ActionHistory}

/-- An action that is returned is returned with one result, which is right. -/
theorem ActionDriver.Good.right (h : s.Good mt history) {result : ActionResult}
    (hmem : result ∈ s.task.results) :
    s.task.results = [result] ∧ ∃ request, history.request = some request ∧
      Right mt request history.scans s.task.reports result := by
  by_cases hcapturing : s.driver.dev.capturing = true
  · obtain ⟨request, hrequest, hongoing | hreturned⟩ := h.stands hcapturing
    · rw [hongoing.results] at hmem
      cases hmem
    · obtain ⟨result', hresults, hright⟩ := hreturned.result
      rw [hresults] at hmem ⊢
      obtain rfl := List.mem_singleton.mp hmem
      exact ⟨rfl, request, hrequest, hright⟩
  · rw [h.idle (Bool.eq_false_iff.mpr hcapturing)] at hmem
    cases hmem

/--
**Each action has one result.**

Until an action is completed there is none, and from then on until it is returned there is
one.  It is never the one of an action that has completed without having been reported.
-/
theorem actionRun_oneResult (hrun : actionRun mt inputs = some s) :
    .misreported ∉ s.task.results ∧
      s.task.results.length =
        if s.driver.dev.capturing ∧ s.driver.dev.returning then 1 else 0 := by
  have hgood := actionRun_good hrun
  constructor
  · intro hmem
    obtain ⟨-, request, -, hright⟩ := hgood.right hmem
    exact hright
  by_cases hcapturing : s.driver.dev.capturing = true
  · obtain ⟨request, -, hongoing | hreturned⟩ := hgood.stands hcapturing
    · have hreturning : s.driver.dev.returning = false := hongoing.returning
      rw [hongoing.results, hreturning]
      exact (if_neg fun h => nomatch h.2).symm
    · obtain ⟨result, hresults, -⟩ := hreturned.result
      rw [hresults, if_pos ⟨hcapturing, hreturned.returning⟩]
      rfl
  · rw [hgood.idle (Bool.eq_false_iff.mpr hcapturing), if_neg fun h => hcapturing h.1]
    rfl

theorem actionRun_oneResult_verification :
    ∃ s, actionRun sameMatcher (scannedAction (.verify (printOf sameMatcher fullScan)) fullScan) =
        some s ∧
      .misreported ∉ s.task.results ∧
      s.task.results.length =
        if s.driver.dev.capturing ∧ s.driver.dev.returning then 1 else 0 := by
  have hrun : (actionRun sameMatcher
      (scannedAction (.verify (printOf sameMatcher fullScan)) fullScan)).isSome = true := by
    decide +kernel
  obtain ⟨s, hs⟩ := Option.isSome_iff_exists.mp hrun
  exact ⟨s, hs, actionRun_oneResult hs⟩

/--
**An enrolment** is over after sixteen scans that could be read.

The print that is returned is the one that was given, with these scans behind what it had, and
each scan has been reported, with the stages that were complete by then.
-/
theorem actionRun_enrolled (hrun : actionRun mt inputs = some s) {print : FpPrint}
    (hresult : .enrolled print ∈ s.task.results) :
    ∃ template scans, historyOf inputs = ⟨some (.enroll template), scans⟩ ∧
      (readable scans).length = enrollStages ∧
      print = template.enrolledWith (readable scans) ∧
      s.task.reports = progressOf mt 0 scans := by
  obtain ⟨-, request, hrequest, template, rfl, hright⟩ := (actionRun_good hrun).right hresult
  refine ⟨template, (historyOf inputs).scans, ?_, hright⟩
  rw [← hrequest]

theorem actionRun_enrolled_scans :
    ∃ s print, actionRun sameMatcher (scannedEnrollment (fpPrintNew "gxfp" "0") fullScan) = some s ∧
      .enrolled print ∈ s.task.results ∧ ∃ template scans,
        historyOf (scannedEnrollment (fpPrintNew "gxfp" "0") fullScan) =
          ⟨some (.enroll template), scans⟩ ∧
        (readable scans).length = enrollStages ∧
        print = template.enrolledWith (readable scans) ∧
        s.task.reports = progressOf sameMatcher 0 scans := by
  have hresults : (actionRun sameMatcher
      (scannedEnrollment (fpPrintNew "gxfp" "0") fullScan)).map (·.task.results) =
        some [.enrolled ((fpPrintNew "gxfp" "0").enrolledWith (List.replicate 16 fullScan))] := by
    decide +kernel
  obtain ⟨s, hs, hresult⟩ := Option.map_eq_some_iff.mp hresults
  have hmem : .enrolled ((fpPrintNew "gxfp" "0").enrolledWith (List.replicate 16 fullScan)) ∈
      s.task.results := hresult ▸ List.mem_singleton_self _
  exact ⟨s, _, hs, hmem, actionRun_enrolled hs hmem⟩

/--
**A verification** is of one scan.

It is returned that the finger is the one that was enrolled just if the print matches the
scan, and that it is not just if the print differs from it.  What has been reported is the
same.
-/
theorem actionRun_verified (hrun : actionRun mt inputs = some s) {success : Bool}
    {print : Option FpPrint} (hresult : .verified success print ∈ s.task.results) :
    ∃ template info, historyOf inputs = ⟨some (.verify template), [info]⟩ ∧ Readable info ∧
      (if success then template.Matches mt info else template.Differs mt info) ∧
      print = some (printOf mt info) ∧
      s.task.reports = [.matched (if success then some template else none) print none] := by
  obtain ⟨-, request, hrequest, template, info, rfl, hscans, hreadable, hprint, hmatch, hreports⟩ :=
    (actionRun_good hrun).right hresult
  refine ⟨template, info, ?_, hreadable, ?_, hprint, hreports⟩
  · rw [← hrequest, ← hscans]
  · cases success with
    | true => exact fpiPrintSigfmMatch_eq_success.mp hmatch
    | false => exact fpiPrintSigfmMatch_eq_fail.mp hmatch

theorem actionRun_verified_scan :
    ∃ s print, actionRun sameMatcher
        (scannedAction (.verify (printOf sameMatcher fullScan)) fullScan) = some s ∧
      .verified true print ∈ s.task.results ∧ ∃ template info,
        historyOf (scannedAction (.verify (printOf sameMatcher fullScan)) fullScan) =
          ⟨some (.verify template), [info]⟩ ∧ Readable info ∧
        (if true then template.Matches sameMatcher info
          else template.Differs sameMatcher info) ∧
        print = some (printOf sameMatcher info) ∧
        s.task.reports = [.matched (if true then some template else none) print none] := by
  have hresults : (actionRun sameMatcher
      (scannedAction (.verify (printOf sameMatcher fullScan)) fullScan)).map (·.task.results) =
        some [.verified true (some (printOf sameMatcher fullScan))] := by
    decide +kernel
  obtain ⟨s, hs, hresult⟩ := Option.map_eq_some_iff.mp hresults
  have hmem : .verified true (some (printOf sameMatcher fullScan)) ∈ s.task.results :=
    hresult ▸ List.mem_singleton_self _
  exact ⟨s, _, hs, hmem, actionRun_verified hs hmem⟩

/--
**An identification** is of one scan.

It finds the first print of the gallery that matches the scan, behind others that differ, and
none just if all of them differ.  What has been reported is the same.
-/
theorem actionRun_identified (hrun : actionRun mt inputs = some s)
    {found print : Option FpPrint} (hresult : .identified found print ∈ s.task.results) :
    ∃ gallery info, historyOf inputs = ⟨some (.identify gallery), [info]⟩ ∧ Readable info ∧
      FoundIn mt info gallery found ∧ print = some (printOf mt info) ∧
      s.task.reports = [.matched found print none] := by
  obtain ⟨-, request, hrequest, gallery, info, rfl, hscans, hreadable, hprint, hfound, hreports⟩ :=
    (actionRun_good hrun).right hresult
  refine ⟨gallery, info, ?_, hreadable, .of_identifyLoop hfound, hprint, hreports⟩
  rw [← hrequest, ← hscans]

theorem actionRun_identified_scan :
    ∃ s found print, actionRun sameMatcher
        (scannedAction (.identify [printOf sameMatcher fullScan]) fullScan) = some s ∧
      .identified found print ∈ s.task.results ∧ ∃ gallery info,
        historyOf (scannedAction (.identify [printOf sameMatcher fullScan]) fullScan) =
          ⟨some (.identify gallery), [info]⟩ ∧ Readable info ∧
        FoundIn sameMatcher info gallery found ∧ print = some (printOf sameMatcher info) ∧
        s.task.reports = [.matched found print none] := by
  have hresults : (actionRun sameMatcher
      (scannedAction (.identify [printOf sameMatcher fullScan]) fullScan)).map (·.task.results) =
        some [.identified (some (printOf sameMatcher fullScan))
          (some (printOf sameMatcher fullScan))] := by
    decide +kernel
  obtain ⟨s, hs, hresult⟩ := Option.map_eq_some_iff.mp hresults
  have hmem : .identified (some (printOf sameMatcher fullScan))
      (some (printOf sameMatcher fullScan)) ∈ s.task.results :=
    hresult ▸ List.mem_singleton_self _
  exact ⟨s, _, _, hs, hmem, actionRun_identified hs hmem⟩

end Runs

end Gxfp
