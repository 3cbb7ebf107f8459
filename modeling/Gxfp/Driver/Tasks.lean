/-
The driver runs one task at a time and reports each outcome once.

Each function of the driver gets one lemma: from a device that meets the function's own
condition its effect `Leads` back to the invariant.  Calls that nest need no induction,
because what a nested call starts is pending when the function's effect ends, and the
invariant says of the pending calls what the next step needs.
-/
import Gxfp.Driver.Invariant

namespace Gxfp

open Monitor FpiDeviceGxfp

namespace FpiDeviceGxfp

variable {Q : Place} {dev : FpiDeviceGxfp} {mon : TaskMonitor} {calls before : List PendingCall}
  {m : Nat}
  {ssm : FpiSsm}

/-! ### Flags -/

theorem Settled.of_noTask (heap : dev.Heap Q) (flags : dev.Flags mon) (task : dev.NoTask)
    (idle : mon.deactivation = .idle) (frees : dev.Frees calls) : dev.Settled Q calls mon :=
  ⟨heap, flags, Or.inl task, idle, frees⟩

/-- The device's state changes, but not to `deactivating`. -/
theorem Flags.setState (h : dev.Flags mon) {state : ImageDeviceState}
    (hstate : state ≠ .deactivating)
    (hkind : dev.taskKind ≠ .activate) : Flags { dev with state } mon where
  closing := h.closing
  active := fun ha =>
    have hactive := h.active ha
    ⟨⟨hactive.busy.capturing, hactive.busy.returning⟩, hactive.deactivating, hactive.sent, hstate,
      hactive.quiet⟩
  minutiae := fun hm => ⟨⟨(h.minutiae hm).1.capturing, (h.minutiae hm).1.returning⟩,
    (h.minutiae hm).2⟩
  activating := fun hk => absurd hk hkind
  task := h.task
  waiting := h.waiting

/-- `maybeCompleteAction` completes the action only if nothing is going on any more. -/
theorem maybeCompleteAction_eq (dev : FpiDeviceGxfp) (error : Option GError) :
    ∃ actionError returning cancelQueued, dev.maybeCompleteAction error =
        { dev with actionError, returning, cancelQueued } ∧
      (dev.active = true ∨ dev.minutiaeScanActive = true → returning = dev.returning) := by
  unfold maybeCompleteAction
  by_cases hgoing : dev.active = true ∨ dev.minutiaeScanActive = true
  · refine ⟨if error.isSome ∧ ¬ (dev.actionError.isSome ∧ dev.actionError ≠ some .retry) then error
      else dev.actionError, dev.returning, dev.cancelQueued, ?_, fun _ => rfl⟩
    split
    · exact if_pos hgoing
    · exact if_pos hgoing
  · refine ⟨none, dev.actionComplete.returning, dev.actionComplete.cancelQueued, ?_,
      fun h => absurd h hgoing⟩
    unfold actionComplete
    split
    · by_cases hnone : dev.currentAction.isNone = true
      · simp [hgoing, hnone]
      · simp [hgoing, hnone]
    · by_cases hnone : dev.currentAction.isNone = true
      · simp [hgoing, hnone]
      · simp [hgoing, hnone]

theorem Flags.maybeCompleteAction (h : dev.Flags mon) (hkind : dev.taskKind ≠ .activate)
    (error : Option GError) : (dev.maybeCompleteAction error).Flags mon := by
  obtain ⟨actionError, returning, cancelQueued, heq, hreturning⟩ := maybeCompleteAction_eq dev error
  rw [heq]
  refine ⟨h.closing, fun ha => ?_, fun hm => ?_, fun hk => absurd hk hkind, h.task, h.waiting⟩
  · have hactive := h.active ha
    exact ⟨⟨hactive.busy.capturing, (hreturning (Or.inl ha)).trans hactive.busy.returning⟩,
      hactive.deactivating, hactive.sent, hactive.state, hactive.quiet⟩
  · have hscan := h.minutiae hm
    exact ⟨⟨hscan.1.capturing, (hreturning (Or.inr hm)).trans hscan.1.returning⟩, hscan.2⟩

theorem Settled.maybeCompleteAction (h : dev.Settled Q calls mon) (hkind : dev.taskKind ≠ .activate)
    (error : Option GError) : (dev.maybeCompleteAction error).Settled Q calls mon := by
  have hflags := h.flags.maybeCompleteAction hkind error
  obtain ⟨actionError, returning, cancelQueued, heq, -⟩ := maybeCompleteAction_eq dev error
  rw [heq] at hflags ⊢
  exact h.withFlags hflags rfl

/-- Nothing is going on. -/
structure Off (dev : FpiDeviceGxfp) (mon : TaskMonitor) : Prop where
  closing : dev.closing = false
  active : dev.active = false
  minutiae : dev.minutiaeScanActive = false
  noTask : dev.NoTask
  waiting : mon.waiting = none

theorem Off.flags (h : dev.Off mon) : dev.Flags mon where
  closing := h.closing
  active := fun ha => absurd (h.active.symm.trans ha) nofun
  minutiae := fun hm => absurd (h.minutiae.symm.trans hm) nofun
  activating := fun hk => absurd (h.noTask.kind.symm.trans hk) nofun
  task := fun hk => absurd h.noTask.kind hk
  waiting := by
    rw [h.waiting, h.noTask.kind]
    rfl

theorem Off.actionComplete (h : dev.Off mon) : dev.actionComplete.Off mon := by
  unfold FpiDeviceGxfp.actionComplete
  split
  · exact h
  · exact ⟨h.closing, h.active, h.minutiae, ⟨h.noTask.ssm, h.noTask.kind⟩, h.waiting⟩

theorem Heap.actionComplete (h : dev.Heap Q) : dev.actionComplete.Heap Q := by
  unfold FpiDeviceGxfp.actionComplete
  split
  · exact h
  · exact h.frame rfl

theorem Frees.actionComplete (h : dev.Frees calls) : dev.actionComplete.Frees calls := by
  unfold FpiDeviceGxfp.actionComplete
  split
  · exact h
  · exact h

theorem Off.settled (h : dev.Off mon) (heap : dev.Heap Q) (idle : mon.deactivation = .idle)
    (frees : dev.Frees calls) : dev.Settled Q calls mon :=
  .of_noTask heap h.flags h.noTask idle frees

/-- Without an action that goes on nothing is going on. -/
theorem Settled.off (h : dev.Settled Q calls mon) (hbusy : ¬ dev.Busy) : dev.Off mon := by
  have hactive : dev.active = false := by
    rw [Bool.eq_false_iff]
    exact fun ha => hbusy (h.flags.active ha).busy
  have hkind : dev.taskKind = .none := by
    by_contra hkind
    by_cases hactivate : dev.taskKind = .activate
    · exact hbusy (h.flags.activating hactivate).busy
    · exact absurd (hactive.symm.trans (h.flags.task hkind hactivate)) nofun
  refine ⟨h.flags.closing, hactive, ?_, ?_, ?_⟩
  · rw [Bool.eq_false_iff]
    exact fun hm => hbusy (h.flags.minutiae hm).1
  · rcases h.task with hnone | ⟨m, -, hruns⟩
    · exact hnone
    · exact absurd hkind (h.heap.one m hruns).2
  · rw [h.flags.waiting, if_neg (by rw [hkind]; nofun)]

/-! ### Machines -/

/-- **A running task's machine makes a step.** -/
theorem Settled.leads_ssmDo (h : dev.Settled Q calls mon) (htask : dev.taskSsm = some m)
    (hruns : dev.Runs m) {f : FpiSsm → FpiSsm × SsmNext}
    (hstep : ∀ ssm, dev.ssms m = some ssm → ssm.Plain → ssm.completed = false →
      ∃ state, ssm.Steps state (f ssm) ∧ Q.holds m ssm.handler state) :
    (dev.ssmDo m f).Leads Q calls mon := by
  obtain ⟨ssm, hssm, hrun⟩ := hruns
  have hmade := h.heap.made m ssm hssm
  have hone := h.heap.one m ⟨ssm, hssm, hrun⟩
  obtain ⟨state, hs, hplace⟩ := hstep ssm hssm hmade.2 hrun
  have hheap : Heap { dev with ssms := Function.update dev.ssms m (some (f ssm).1) } Q :=
    h.heap.update hmade.1 hs.plain (fun _ => hone) fun hrun' => by
      rcases hs.next with ⟨error, -, hcompleted⟩ | ⟨-, -, hstate⟩
      · exact absurd (hrun'.symm.trans hcompleted) nofun
      · rw [hs.handler, hstate]
        exact hplace
  have hfrees : Frees { dev with ssms := Function.update dev.ssms m (some (f ssm).1) } calls :=
    h.frees.update fun _ => ⟨ssm, hssm, hrun⟩
  have hflags : Flags { dev with ssms := Function.update dev.ssms m (some (f ssm).1) } mon :=
    h.flags.frame rfl
  refine ⟨mon, ?_⟩
  rw [ssmDo, hssm]
  dsimp only [ssmNext]
  rcases hs.next with ⟨error, hnext, hcompleted⟩ | ⟨hnext, hcompleted, -⟩
  · rw [hnext]
    exact ⟨rfl, .finished hheap hflags htask hone.2
      ⟨(f ssm).1, Function.update_self .., hcompleted⟩ h.idle hfrees⟩
  · have hruns : Runs { dev with ssms := Function.update dev.ssms m (some (f ssm).1) } m :=
      ⟨(f ssm).1, Function.update_self .., hcompleted⟩
    have hsettled : Settled { dev with ssms := Function.update dev.ssms m (some (f ssm).1) } Q
        calls mon := ⟨hheap, hflags, Or.inr ⟨m, htask, hruns⟩, h.idle, hfrees⟩
    rcases hnext with hnext | hnext
    · rw [hnext]
      exact ⟨rfl, .handler hsettled htask hruns⟩
    · rw [hnext]
      exact ⟨rfl, .settled hsettled⟩

/-- **A task starts**, if with it tracked the flags are as they should be. -/
theorem leads_startTask (heap : dev.Heap Q) (htask : dev.NoTask) (idle : mon.deactivation = .idle)
    (frees : dev.Frees calls) {handler : SsmHandler} {nrStates : Nat} {kind : TaskKind}
    {deadline : Bool} (hkind : kind ≠ .none)
    (flags : (dev.gxfpTrackTask dev.nextSsm kind deadline).Flags mon) :
    (dev.startTask handler nrStates kind deadline).Leads Q calls mon := by
  obtain ⟨hplain, hrun⟩ := @FpiSsm.plain_start handler nrStates
  have hnone : ∀ m, ¬ dev.Runs m := fun m hruns => (heap.one m hruns).2 htask.kind
  have htracked : Heap (gxfpTrackTask { dev with nextSsm := dev.nextSsm + 1 } dev.nextSsm kind
      deadline) Q :=
    ⟨fun m ssm hssm => ⟨Nat.lt_succ_of_lt (heap.made m ssm hssm).1, (heap.made m ssm hssm).2⟩,
      fun m hruns => absurd hruns (hnone m), heap.place⟩
  have hheap := htracked.update (Nat.lt_succ_self _) hplain (fun _ => ⟨rfl, hkind⟩)
    fun _ => Q.start dev.nextSsm handler
  have hruns : (dev.startTask handler nrStates kind deadline).dev.Runs dev.nextSsm :=
    ⟨_, Function.update_self .., hrun⟩
  -- what is to be freed is older than the new machine
  have hfrees : (dev.startTask handler nrStates kind deadline).dev.Frees calls := by
    intro call hcall
    obtain ⟨m, rfl, hlt, hnot⟩ := frees call hcall
    refine ⟨m, rfl, Nat.lt_succ_of_lt hlt, ?_⟩
    rintro ⟨ssm, hssm, hrun⟩
    exact hnot ⟨ssm, (Function.update_of_ne (Nat.ne_of_lt hlt) _ _).symm.trans hssm, hrun⟩
  exact ⟨mon, rfl,
    .handler ⟨hheap, flags.frame rfl, Or.inr ⟨_, rfl, hruns⟩, idle, hfrees⟩ rfl hruns⟩

/-! ### Changes of state -/

theorem Settled.noTask_of_isNone (h : dev.Settled Q calls mon)
    (htask : ¬ dev.taskSsm.isSome = true) :
    dev.NoTask := by
  rcases h.task with hnone | ⟨m, hm, -⟩
  · exact hnone
  · rw [hm] at htask
    exact absurd rfl htask

/-- A task of a kind that only an activated device has. -/
theorem Settled.leads_startTask (h : dev.Settled Q calls mon) (htask : dev.NoTask)
    (hactive : dev.active = true) {handler : SsmHandler} {nrStates : Nat} {kind : TaskKind}
    {deadline : Bool} (hkind : kind ≠ .none) (hother : kind ≠ .activate) :
    (dev.startTask handler nrStates kind deadline).Leads Q calls mon := by
  refine FpiDeviceGxfp.leads_startTask h.heap htask h.idle h.frees hkind ?_
  have hwaiting := h.flags.waiting
  rw [htask.kind, if_neg nofun] at hwaiting
  have ha := h.flags.active hactive
  refine ⟨h.flags.closing, fun _ => ?_, fun hm => ?_, fun hk => absurd hk hother,
    fun _ _ => hactive, by rw [hwaiting]; exact (if_neg hother).symm⟩
  · exact ⟨⟨ha.busy.capturing, ha.busy.returning⟩, ha.deactivating, ha.sent, ha.state, ha.quiet⟩
  · exact ⟨⟨ha.busy.capturing, ha.busy.returning⟩, (h.flags.minutiae hm).2⟩

theorem Settled.leads_gxfpStartWait (h : dev.Settled Q calls mon)
    (hon : dev.active = true ∨ dev.deactivating = true) {kind : TaskKind} (hkind : kind ≠ .none)
    (hother : kind ≠ .activate) : (dev.gxfpStartWait kind).Leads Q calls mon := by
  unfold gxfpStartWait
  split
  · exact .of_inv (.settled h)
  · rename_i hfree
    rw [not_or] at hfree
    exact h.leads_startTask (h.noTask_of_isNone hfree.1) (hon.resolve_right hfree.2) hkind hother

theorem Settled.leads_gxfpStartCapture (h : dev.Settled Q calls mon)
    (hon : dev.active = true ∨ dev.deactivating = true) :
    dev.gxfpStartCapture.Leads Q calls mon := by
  unfold gxfpStartCapture
  split
  · exact .of_inv (.settled h)
  · rename_i hfree
    rw [not_or] at hfree
    exact h.leads_startTask (h.noTask_of_isNone hfree.1) (hon.resolve_right hfree.2) nofun nofun

theorem Settled.setState (h : dev.Settled Q calls mon) {state : ImageDeviceState}
    (hstate : state ≠ .deactivating) (hkind : dev.taskKind ≠ .activate) :
    Settled { dev with state } Q calls mon :=
  h.withFlags (h.flags.setState hstate hkind) rfl

/-- **The device's state changes**, other than in order to deactivate it. -/
theorem Settled.leads_changeState (h : dev.Settled Q calls mon)
    (hon : dev.active = true ∨ dev.deactivating = true) (hkind : dev.taskKind ≠ .activate)
    {state : ImageDeviceState} (hstate : state ≠ .deactivating) :
    (dev.changeState state).Leads Q calls mon := by
  have hset := h.setState hstate hkind
  unfold changeState
  cases state with
  | awaitFingerOn => exact hset.leads_gxfpStartWait hon nofun nofun
  | capture => exact hset.leads_gxfpStartCapture hon
  | awaitFingerOff => exact hset.leads_gxfpStartWait hon nofun nofun
  | inactive => exact .of_inv (.settled hset)
  | activating => exact .of_inv (.settled hset)
  | idle => exact .of_inv (.settled hset)
  | deactivating => exact absurd rfl hstate

theorem Settled.leads_enrollMaybeAwaitFingerOn (h : dev.Settled Q calls mon)
    (hon : dev.active = true ∨ dev.deactivating = true) (hkind : dev.taskKind ≠ .activate) :
    dev.enrollMaybeAwaitFingerOn.Leads Q calls mon := by
  unfold enrollMaybeAwaitFingerOn
  split
  · exact .of_inv (.settled h)
  · exact h.leads_changeState hon hkind nofun

/-! ### Deactivating -/

/-- The device is being deactivated and has no task any more. -/
theorem Cancelled.leads_deactivateComplete (h : dev.Cancelled mon) (heap : dev.Heap Q)
    (htask : dev.NoTask) (first : dev.Frees before) (frees : dev.Frees calls) :
    (deactivateComplete { dev with deactivateCompleteSent := true }).Leads Q
      (before ++ .deactivateReturn :: calls) mon := by
  have hsee : mon.see .deactivateComplete = some { mon with deactivation := .answered } :=
    if_pos h.deactivation
  refine Effect.Leads.seen hsee ?_
  have hguard : ¬ (¬ dev.active = true ∨ dev.state ≠ .deactivating) := by
    rw [h.active, h.state]
    simp
  dsimp only
  rw [if_neg hguard]
  show (Effect.only (FpiDeviceGxfp.maybeCompleteAction { dev with
    deactivateCompleteSent := true, active := false, fingerPresent := false
    state := .inactive } none)).Leads Q _ _
  have hflags : Flags { dev with
      deactivateCompleteSent := true, active := false, fingerPresent := false
      state := .inactive } { mon with deactivation := .answered } := by
    refine ⟨h.closing, nofun,
      fun _ => ⟨⟨h.busy.capturing, h.busy.returning⟩, Or.inr h.deactivating⟩,
      fun hk => ?_, fun hk => absurd htask.kind hk, ?_⟩
    · exact absurd (htask.kind.symm.trans hk) nofun
    · show mon.waiting = if dev.taskKind = .activate then some dev.taskSsm else none
      rw [htask.kind, h.waiting]
      rfl
  have hkind : dev.taskKind ≠ .activate := by
    rw [htask.kind]
    nofun
  have hcompleted := hflags.maybeCompleteAction hkind none
  obtain ⟨actionError, returning, cancelQueued, heq, -⟩ := maybeCompleteAction_eq { dev with
    deactivateCompleteSent := true, active := false, fingerPresent := false
    state := .inactive } none
  rw [heq] at hcompleted ⊢
  exact .of_inv (.answered (heap.frame rfl) hcompleted ⟨htask.ssm, htask.kind⟩ rfl first frees)

/-- The device is being deactivated and its task is stopped. -/
theorem Cancelled.leads_markFailed (h : dev.Cancelled mon) (heap : dev.Heap Q)
    (htask : dev.taskSsm = some m) (hruns : dev.Runs m) (frees : dev.Frees calls) :
    (dev.ssmDo m fun ssm => ssm.markFailed .cancelled).Leads Q (.deactivateReturn :: calls)
      mon := by
  obtain ⟨ssm, hssm, hrun⟩ := hruns
  have hmade := heap.made m ssm hssm
  have hstep := hmade.2.markFailed hrun .cancelled ssm.curState
  have hdone := FpiSsm.markFailed_plain hmade.2 hrun .cancelled
  have hheap := heap.update hmade.1 hstep.plain (fun _ => heap.one m ⟨ssm, hssm, hrun⟩)
    fun hrun' => absurd (hrun'.symm.trans (congrArg (fun r => r.1.completed) hdone)) nofun
  have hfrees : Frees { dev with
      ssms := Function.update dev.ssms m (some (ssm.markFailed .cancelled).1) } calls :=
    frees.update fun _ => ⟨ssm, hssm, hrun⟩
  refine ⟨mon, ?_⟩
  rw [ssmDo, hssm]
  dsimp only [ssmNext]
  rw [hdone] at hheap hfrees ⊢
  exact ⟨rfl, .cancelled hheap
    ⟨⟨h.busy.capturing, h.busy.returning⟩, h.closing, h.active, h.deactivating, h.sent, h.state,
      h.deactivation, h.waiting⟩
    htask ⟨_, Function.update_self .., rfl⟩ hfrees⟩

/-- **`gxfp_deactivate` on an activated device.** -/
theorem Settled.leads_gxfpDeactivate (h : dev.Settled Q calls mon) (hactive : dev.active = true) :
    (gxfpDeactivate { dev with state := .deactivating }).Leads Q calls mon := by
  have ha := h.flags.active hactive
  have hkind : dev.taskKind ≠ .activate := fun hk => by
    rw [(h.flags.activating hk).active] at hactive
    cases hactive
  have hwaiting : mon.waiting = none := by
    rw [h.flags.waiting, if_neg hkind]
  have hsee : mon.see .deactivate = some { mon with deactivation := .called, quiet := true } :=
    if_pos h.idle
  refine Effect.Leads.seen hsee (Effect.Leads.andThen ?_)
  have hcancelled : Cancelled { dev with state := .deactivating, deactivating := true }
      { mon with deactivation := .called, quiet := true } :=
    ⟨⟨ha.busy.capturing, ha.busy.returning⟩, h.flags.closing, hactive, rfl, ha.sent, rfl, rfl,
      hwaiting⟩
  unfold gxfpCancelTask
  rcases h.task with hnone | ⟨m, htask, ssm, hssm, hrun⟩
  · split
    · rename_i m htask
      exact absurd (hnone.ssm.symm.trans htask) nofun
    · rw [if_neg (by rw [ha.sent]; nofun)]
      have hfirst : Frees { dev with state := .deactivating, deactivating := true } [] := .nil
      exact hcancelled.leads_deactivateComplete (h.heap.frame rfl) ⟨hnone.ssm, hnone.kind⟩ hfirst
        h.frees
  · split
    · rename_i m' htask'
      obtain rfl : m = m' := Option.some.inj (htask.symm.trans htask')
      exact hcancelled.leads_markFailed (h.heap.frame rfl) htask ⟨ssm, hssm, hrun⟩ h.frees
    · rename_i htask'
      exact absurd (htask.symm.trans htask') nofun

theorem Settled.leads_imageDeviceDeactivate (h : dev.Settled Q calls mon) :
    dev.imageDeviceDeactivate.Leads Q calls mon := by
  unfold imageDeviceDeactivate
  split
  · exact .of_inv (.settled h)
  · rename_i hactive
    rw [not_or, not_not] at hactive
    exact h.leads_gxfpDeactivate hactive.1

/-! ### Reports -/

/-- The activation is answered. -/
theorem Activating.leads_activateComplete (h : dev.Activating mon) (heap : dev.Heap Q)
    (htask : dev.NoTask) (hclosing : dev.closing = false) {task : Option Nat}
    (hwaiting : mon.waiting = some task) (idle : mon.deactivation = .idle)
    (frees : dev.Frees calls) (error : Option GError) :
    (dev.activateComplete error).Leads Q calls mon := by
  have hsee : mon.see (.activateComplete error) = some { mon with waiting := none } :=
    if_neg (by rw [hwaiting]; nofun)
  refine Effect.Leads.seen hsee ?_
  have hguard : ¬ (dev.active = true ∨ dev.state ≠ .activating ∨ ¬ dev.capturing = true) := by
    rw [h.active, h.state, h.busy.capturing]
    simp
  have hkind : dev.taskKind ≠ .activate := by
    rw [htask.kind]
    nofun
  rw [if_neg hguard]
  split
  · -- the action is over, and the device has not been activated
    have hoff : dev.Off { mon with waiting := none } :=
      ⟨hclosing, h.active, h.minutiae, htask, rfl⟩
    exact .of_inv (.settled (hoff.actionComplete.settled heap.actionComplete idle
      frees.actionComplete))
  · have hflags : Flags { dev with active := true, state := .idle } { mon with waiting := none } :=
      ⟨hclosing,
        fun _ => ⟨⟨h.busy.capturing, h.busy.returning⟩, h.deactivating, h.sent, nofun, h.quiet⟩,
        fun hm => absurd (h.minutiae.symm.trans hm) nofun, fun hk => absurd hk hkind,
        fun hk => absurd htask.kind hk, (if_neg hkind).symm⟩
    have hsettled : Settled { dev with active := true, state := .idle } Q calls
        { mon with waiting := none } :=
      .of_noTask (heap.frame rfl) hflags ⟨htask.ssm, htask.kind⟩ idle frees
    exact hsettled.leads_changeState (Or.inl rfl) hkind nofun

/-- A report is accepted while the device is active. -/
theorem Settled.see_report (h : dev.Settled Q calls mon) (hactive : dev.active = true) :
    (if mon.quiet then none else some mon) = some mon := by
  rw [(h.flags.active hactive).quiet]
  rfl

theorem Settled.kind_of_active (h : dev.Settled Q calls mon) (hactive : dev.active = true) :
    dev.taskKind ≠ .activate := fun hk =>
  absurd ((h.flags.activating hk).active.symm.trans hactive) nofun

theorem Settled.leads_reportSessionError (h : dev.Settled Q calls mon) (hactive : dev.active = true)
    (error : GError) : (dev.reportSessionError error).Leads Q calls mon := by
  refine Effect.Leads.seen (h.see_report hactive) ?_
  rw [if_neg (by rw [hactive]; simp)]
  split
  · exact .of_inv (.settled h)
  · split
    · exact .of_inv (.settled h)
    · exact (h.maybeCompleteAction (h.kind_of_active hactive) _).leads_imageDeviceDeactivate

theorem Settled.leads_reportFingerStatus (h : dev.Settled Q calls mon) (hactive : dev.active = true)
    (present : Bool) : (dev.reportFingerStatus present).Leads Q calls mon := by
  refine Effect.Leads.seen (h.see_report hactive) ?_
  have hkind := h.kind_of_active hactive
  have hset : Settled { dev with fingerPresent := present } Q calls mon :=
    h.withFlags (h.flags.frame rfl) rfl
  split
  · exact .of_inv (.settled h)
  · dsimp only
    split
    · exact hset.leads_changeState (Or.inl hactive) hkind nofun
    · split
      · have hidle : Settled { dev with fingerPresent := present, state := .idle } Q calls mon :=
          hset.setState nofun hkind
        show Effect.Leads (if _ then _ else _) _ _ _
        split
        · exact hidle.leads_imageDeviceDeactivate
        · exact hidle.leads_enrollMaybeAwaitFingerOn (Or.inl hactive) hkind
      · exact .of_inv (.settled hset)

theorem Settled.leads_reportImageCaptured (h : dev.Settled Q calls mon)
    (hactive : dev.active = true) : dev.reportImageCaptured.Leads Q calls mon := by
  refine Effect.Leads.seen (h.see_report hactive) ?_
  have hkind := h.kind_of_active hactive
  split
  · exact .of_inv (.settled h)
  · have ha := h.flags.active hactive
    have hflags : Flags { dev with minutiaeScanActive := true } mon := by
      refine ⟨h.flags.closing, fun _ => ?_, fun _ => ?_, fun hk => absurd hk hkind, h.flags.task,
        h.flags.waiting⟩
      · exact ⟨⟨ha.busy.capturing, ha.busy.returning⟩, ha.deactivating, ha.sent, ha.state, ha.quiet⟩
      · exact ⟨⟨ha.busy.capturing, ha.busy.returning⟩, Or.inl hactive⟩
    exact (h.withFlags hflags rfl).leads_changeState (Or.inl hactive) hkind nofun

/-! ### The completion callback -/

/-- The tracked machine has stopped, so none runs. -/
theorem Heap.untrack (h : dev.Heap Q) (htask : dev.taskSsm = some m) (hstopped : dev.Stopped m) :
    Heap { dev with taskSsm := none, taskKind := .none, taskDeadline := false } Q := by
  refine ⟨h.made, fun m' hruns => ?_, h.place⟩
  obtain rfl : m = m' := Option.some.inj (htask.symm.trans (h.one m' hruns).1)
  exact absurd hruns hstopped.not_runs

/-- **The task has finished.** -/
theorem leads_taskFinished (heap : dev.Heap Q) (flags : dev.Flags mon)
    (htask : dev.taskSsm = some m)
    (hkind : dev.taskKind ≠ .none) (hstopped : dev.Stopped m) (idle : mon.deactivation = .idle)
    (frees : dev.Frees calls) (error : Option GError) :
    (dev.gxfpTaskFinished m error).Leads Q (.ssmFree m :: calls) mon := by
  have hheap := heap.untrack htask hstopped
  have hfrees : Frees { dev with taskSsm := none, taskKind := .none, taskDeadline := false }
      (.ssmFree m :: calls) := frees.cons (hstopped.lt heap) hstopped.not_runs
  unfold gxfpTaskFinished
  dsimp only
  rw [if_pos htask, if_neg (by rw [flags.closing]; nofun)]
  by_cases hactivate : dev.taskKind = .activate
  · have ha := flags.activating hactivate
    have hactivating : Activating { dev with
        taskSsm := none, taskKind := .none, taskDeadline := false } mon :=
      ⟨⟨ha.busy.capturing, ha.busy.returning⟩, ha.deactivating, ha.sent, ha.state, ha.quiet,
        ha.active,
        ha.minutiae⟩
    have hleads := hactivating.leads_activateComplete hheap ⟨rfl, rfl⟩ flags.closing
      (flags.waiting.trans (if_pos hactivate)) idle hfrees
    rw [if_neg (by rw [ha.deactivating]; nofun), hactivate]
    cases error with
    | some error => exact hleads (some error)
    | none => exact hleads none
  · have hactive := flags.task hkind hactivate
    have ha := flags.active hactive
    have hflags :
        Flags { dev with taskSsm := none, taskKind := .none, taskDeadline := false } mon :=
      ⟨flags.closing,
        fun _ =>
          ⟨⟨ha.busy.capturing, ha.busy.returning⟩, ha.deactivating, ha.sent, ha.state, ha.quiet⟩,
        fun hm => ⟨⟨ha.busy.capturing, ha.busy.returning⟩, (flags.minutiae hm).2⟩, nofun,
        fun hk => absurd rfl hk, flags.waiting.trans (if_neg hactivate)⟩
    have hsettled := Settled.of_noTask hheap hflags ⟨rfl, rfl⟩ idle hfrees
    rw [if_neg (by rw [ha.deactivating]; nofun)]
    cases error with
    | some error =>
      dsimp only
      rw [if_neg hactivate]
      exact hsettled.leads_reportSessionError hactive error
    | none =>
      dsimp only
      split
      · exact absurd ‹_› hactivate
      · exact hsettled.leads_reportFingerStatus hactive true
      · exact hsettled.leads_reportFingerStatus hactive false
      · split
        · exact (hsettled.withFlags (hsettled.flags.frame rfl) rfl).leads_reportImageCaptured
            hactive
        · exact .of_inv (.settled hsettled)
      · exact absurd ‹_› hkind

/-- **The task has been stopped.** -/
theorem Cancelled.leads_taskFinished (h : dev.Cancelled mon) (heap : dev.Heap Q)
    (htask : dev.taskSsm = some m) (hstopped : dev.Stopped m) (frees : dev.Frees calls)
    (error : Option GError) :
    (dev.gxfpTaskFinished m error).Leads Q (.ssmFree m :: .deactivateReturn :: calls) mon := by
  have hheap := heap.untrack htask hstopped
  have hfirst : Frees { dev with taskSsm := none, taskKind := .none, taskDeadline := false }
      [.ssmFree m] := Frees.nil.cons (hstopped.lt heap) hstopped.not_runs
  have hcancelled : Cancelled { dev with
      taskSsm := none, taskKind := .none, taskDeadline := false } mon :=
    ⟨⟨h.busy.capturing, h.busy.returning⟩, h.closing, h.active, h.deactivating, h.sent, h.state,
      h.deactivation, h.waiting⟩
  unfold gxfpTaskFinished
  dsimp only
  rw [if_pos htask, if_neg (by rw [h.closing]; nofun), if_pos h.deactivating,
    if_neg (by rw [h.sent]; nofun)]
  exact hcancelled.leads_deactivateComplete hheap ⟨rfl, rfl⟩ hfirst frees

/-! ### Handlers -/

theorem Settled.leads_markFailed (h : dev.Settled Q calls mon) (htask : dev.taskSsm = some m)
    (hruns : dev.Runs m) (error : GError) :
    (dev.ssmDo m fun ssm => ssm.markFailed error).Leads Q calls mon :=
  h.leads_ssmDo htask hruns fun ssm hssm hplain hrun =>
    ⟨ssm.curState, hplain.markFailed hrun error _, h.heap.place m ssm hssm hrun⟩

theorem Settled.leads_markCompleted (h : dev.Settled Q calls mon) (htask : dev.taskSsm = some m)
    (hruns : dev.Runs m) : (dev.ssmDo m FpiSsm.markCompleted).Leads Q calls mon :=
  h.leads_ssmDo htask hruns fun ssm hssm hplain hrun =>
    ⟨ssm.curState, hplain.markCompleted _, h.heap.place m ssm hssm hrun⟩

/-- What is known of the state that the handler's machine goes on to. -/
def KnowsNext (dev : FpiDeviceGxfp) (Q : Place) (m : Nat) (io : IoResult) : Prop :=
  ∀ ssm, dev.ssms m = some ssm → io = .done → Q.holds m ssm.handler (ssm.curState + 1)

theorem Settled.leads_nextOrFail (h : dev.Settled Q calls mon) (htask : dev.taskSsm = some m)
    (hruns : dev.Runs m) {io : IoResult} (hnext : dev.KnowsNext Q m io) :
    (dev.nextOrFail m io).Leads Q calls mon := by
  cases io with
  | done =>
      exact h.leads_ssmDo htask hruns fun ssm hssm hplain hrun =>
        ⟨_, hplain.nextState hrun, hnext ssm hssm rfl⟩
  | again => exact h.leads_markFailed htask hruns .io
  | failed error => exact h.leads_markFailed htask hruns error

theorem Settled.leads_nextOrRetry (h : dev.Settled Q calls mon) (htask : dev.taskSsm = some m)
    (hruns : dev.Runs m) {io : IoResult} (hnext : dev.KnowsNext Q m io) :
    (dev.nextOrRetry m io).Leads Q calls mon := by
  cases io with
  | done =>
      exact h.leads_ssmDo htask hruns fun ssm hssm hplain hrun =>
        ⟨_, hplain.nextState hrun, hnext ssm hssm rfl⟩
  | again =>
      exact h.leads_ssmDo htask hruns fun ssm hssm hplain hrun =>
        ⟨_, hplain.retryState hrun, h.heap.place m ssm hssm hrun⟩
  | failed error => exact h.leads_markFailed htask hruns error

/-- **The task's handler is called.** -/
theorem Settled.leads_callHandler (h : dev.Settled Q calls mon) (htask : dev.taskSsm = some m)
    (hruns : dev.Runs m) {io : IoOutcome} (hnext : dev.KnowsNext Q m io.result) :
    (dev.callHandler m io).Leads Q calls mon := by
  unfold callHandler
  split
  · exact .of_inv (.settled h)
  · rename_i ssm _
    split
    · unfold gxfpActivateSsmHandler
      split
      · exact h.leads_markFailed htask hruns _
      · split
        · exact h.leads_nextOrRetry htask hruns hnext
        · exact h.leads_nextOrFail htask hruns hnext
        · exact h.leads_nextOrRetry htask hruns hnext
        · exact h.leads_nextOrFail htask hruns hnext
        · exact h.leads_nextOrRetry htask hruns hnext
        · exact h.leads_nextOrFail htask hruns hnext
        · exact h.leads_markCompleted htask hruns
        · exact .of_inv (.settled h)
    · unfold gxfpWaitSsmHandler
      split
      · exact h.leads_markFailed htask hruns _
      · split
        · exact h.leads_nextOrFail htask hruns hnext
        · exact h.leads_nextOrRetry htask hruns hnext
        · exact h.leads_markCompleted htask hruns
        · exact .of_inv (.settled h)
    · unfold gxfpCaptureSsmHandler
      split
      · exact h.leads_markFailed htask hruns _
      · split
        · split
          · exact h.leads_markCompleted htask hruns
          · exact h.leads_nextOrFail htask hruns hnext
        · exact h.leads_nextOrRetry htask hruns hnext
        · split
          · exact h.leads_markCompleted htask hruns
          · split
            · exact (h.withFlags (h.flags.frame rfl) rfl).leads_markCompleted htask hruns
            · exact h.leads_markFailed htask hruns _
            · exact h.leads_markFailed htask hruns _
        · exact .of_inv (.settled h)

/-! ### The main loop -/

theorem not_busy_of_isNone (h : ¬ dev.currentAction.isSome = true) : ¬ dev.Busy := by
  intro hbusy
  have hcapturing := hbusy.capturing
  rw [Option.not_isSome_iff_eq_none] at h
  rw [capturing, h] at hcapturing
  cases hcapturing

theorem not_busy_of_returning (h : dev.returning = true) : ¬ dev.Busy := fun hbusy =>
  absurd (h.symm.trans hbusy.returning) nofun

theorem Off.setupTask (h : dev.Off mon) (action : DeviceAction) : (dev.setupTask action).Off mon :=
  ⟨h.closing, h.active, h.minutiae, ⟨h.noTask.ssm, h.noTask.kind⟩, h.waiting⟩

theorem Off.leads_actionComplete (h : dev.Off mon) (heap : dev.Heap Q)
    (idle : mon.deactivation = .idle) :
    (Effect.only dev.actionComplete).Leads Q [] mon :=
  .of_inv (.settled (h.actionComplete.settled heap.actionComplete idle .nil))

/-- **`gxfp_activate`.** -/
theorem Off.leads_gxfpActivate (h : dev.Off mon) (heap : dev.Heap Q)
    (idle : mon.deactivation = .idle)
    (hbusy : dev.Busy) (hstate : dev.state = .activating) (rearm : Option GError) :
    (dev.gxfpActivate rearm).Leads Q [] mon := by
  unfold gxfpActivate
  rw [if_neg (by rw [h.noTask.ssm]; nofun)]
  have hsee : ∀ task, mon.see (.activate task) =
      some { mon with waiting := some task, quiet := false } := fun _ => if_pos ⟨h.waiting, idle⟩
  cases rearm with
  | some error =>
      have hactivating : Activating { dev with
          deactivating := false, deactivateCompleteSent := false, capturedImage := false }
          { mon with waiting := some none, quiet := false } :=
        ⟨⟨hbusy.capturing, hbusy.returning⟩, rfl, rfl, hstate, rfl, h.active, h.minutiae⟩
      exact Effect.Leads.seen (hsee none) (hactivating.leads_activateComplete (heap.frame rfl)
        ⟨h.noTask.ssm, h.noTask.kind⟩ h.closing rfl idle .nil _)
  | none =>
      refine Effect.Leads.seen (hsee _) ?_
      have htask : NoTask { dev with
          deactivating := false, deactivateCompleteSent := false, capturedImage := false } :=
        ⟨h.noTask.ssm, h.noTask.kind⟩
      refine leads_startTask (heap.frame rfl) htask ?_ .nil ?_ ?_
      · exact idle
      · nofun
      refine ⟨h.closing, fun ha => absurd (h.active.symm.trans ha) nofun,
        fun hm => absurd (h.minutiae.symm.trans hm) nofun, fun _ => ?_,
        fun _ hk => absurd rfl hk, rfl⟩
      exact ⟨⟨hbusy.capturing, hbusy.returning⟩, rfl, rfl, hstate, rfl, h.active, h.minutiae⟩

theorem Off.leads_startCaptureAction (h : dev.Off mon) (heap : dev.Heap Q)
    (idle : mon.deactivation = .idle) (hbusy : dev.Busy) (waitForFinger : Bool)
    (rearm : Option GError) : (dev.startCaptureAction waitForFinger rearm).Leads Q [] mon := by
  unfold startCaptureAction
  split
  · exact h.leads_actionComplete heap idle
  · have hoff : Off { dev with enrollStage := 0, state := .activating } mon :=
      ⟨h.closing, h.active, h.minutiae, ⟨h.noTask.ssm, h.noTask.kind⟩, h.waiting⟩
    exact hoff.leads_gxfpActivate (heap.frame rfl) idle ⟨hbusy.capturing, hbusy.returning⟩ rfl rearm

/-- **`gxfp_img_close`**: there is no task to cancel. -/
theorem Off.leads_gxfpImgClose (h : dev.Off mon) (heap : dev.Heap Q)
    (idle : mon.deactivation = .idle) :
    dev.gxfpImgClose.Leads Q [] mon := by
  have heq : dev.gxfpImgClose =
      (Effect.only { dev with closing := true }).andThen .imgCloseRest := by
    unfold gxfpImgClose
    dsimp only
    split
    · rfl
    · rename_i m htask
      exact absurd (h.noTask.ssm.symm.trans htask) nofun
  rw [heq]
  exact Effect.Leads.andThen (.of_inv (.closing (heap.frame rfl)
    ⟨⟨h.noTask.ssm, h.noTask.kind⟩, h.active, h.minutiae, idle, h.waiting⟩))

theorem Closing.leads_gxfpImgCloseRest (h : dev.Closing mon) (heap : dev.Heap Q) :
    dev.gxfpImgCloseRest.Leads Q [] mon := by
  unfold gxfpImgCloseRest
  dsimp only
  rw [if_neg (by rw [h.active]; nofun)]
  have hoff : Off { dev with
      capturedImage := false, deactivating := false, deactivateCompleteSent := false
      closing := false, state := .inactive } mon :=
    ⟨rfl, h.active, h.minutiae, ⟨h.noTask.ssm, h.noTask.kind⟩, h.waiting⟩
  exact hoff.leads_actionComplete (heap.frame rfl) h.deactivation

/-- **The minutiae scan is done.** -/
theorem Settled.leads_minutiaeDetected (h : dev.Settled Q calls mon)
    (hscan : dev.minutiaeScanActive = true) (result : MinutiaeResult) :
    (dev.minutiaeDetected result).Leads Q calls mon := by
  have hon := (h.flags.minutiae hscan).2
  have hkind : dev.taskKind ≠ .activate := fun hk =>
    absurd ((h.flags.activating hk).minutiae.symm.trans hscan) nofun
  have hflags : Flags { dev with minutiaeScanActive := false } mon := by
    refine ⟨h.flags.closing, fun ha => ?_, nofun, fun hk => absurd hk hkind, h.flags.task,
      h.flags.waiting⟩
    have hactive := h.flags.active ha
    exact ⟨⟨hactive.busy.capturing, hactive.busy.returning⟩, hactive.deactivating, hactive.sent,
      hactive.state, hactive.quiet⟩
  have hset : Settled { dev with minutiaeScanActive := false } Q calls mon := h.withFlags hflags rfl
  have hdone : ∀ error, (Effect.only
      (FpiDeviceGxfp.maybeCompleteAction { dev with minutiaeScanActive := false } error)).Leads Q
      calls mon := fun error => .of_inv (.settled (hset.maybeCompleteAction hkind error))
  have hend : ∀ error, (FpiDeviceGxfp.maybeCompleteAction
      { dev with minutiaeScanActive := false } error).imageDeviceDeactivate.Leads Q calls mon :=
    fun error => (hset.maybeCompleteAction hkind error).leads_imageDeviceDeactivate
  have henroll : ∀ print error,
      (enrollDetected { dev with minutiaeScanActive := false } print error).Leads Q calls mon := by
    intro print error
    cases print with
    | false =>
      rw [enrollDetected, if_neg Bool.false_ne_true]
      dsimp only
      split
      · exact hend error
      · exact hset.leads_enrollMaybeAwaitFingerOn hon hkind
    | true =>
      have hstage : Settled { dev with
          minutiaeScanActive := false, enrollStage := dev.enrollStage + 1 } Q calls mon :=
        hset.withFlags (hflags.frame rfl) rfl
      rw [enrollDetected, if_pos rfl]
      dsimp only
      split
      · exact (hstage.maybeCompleteAction hkind error).leads_imageDeviceDeactivate
      · exact hstage.leads_enrollMaybeAwaitFingerOn hon hkind
  unfold minutiaeDetected
  cases result with
  | cancelled => exact hend _
  | unreadable =>
    dsimp only
    split
    · exact hdone _
    · split
      · exact henroll _ _
      · exact hdone _
  | noPrint error =>
    dsimp only
    split
    · exact hdone _
    · split
      · exact hend _
      · split
        · exact henroll _ _
        · exact hdone _
  | print error =>
    dsimp only
    split
    · exact hdone _
    · split
      · exact henroll _ _
      · exact hdone _

/-- **What the main loop starts** leads back to the invariant. -/
theorem Settled.leads_dispatch (h : dev.Settled Q [] mon) (event : MainEvent) {e : Effect}
    (he : dev.dispatch event = some e) : e.Leads Q [] mon := by
  cases event with
  | openDevice error =>
      simp only [dispatch, fpDeviceOpen] at he
      split at he
      · cases he
      · rename_i hfree
        rw [not_or] at hfree
        cases he
        have hoff := (h.off (not_busy_of_isNone hfree.2)).setupTask .openDevice
        have hset : Off { dev.setupTask .openDevice with
            state := .inactive, isOpen := error.isNone } mon :=
          ⟨hoff.closing, hoff.active, hoff.minutiae, ⟨hoff.noTask.ssm, hoff.noTask.kind⟩,
            hoff.waiting⟩
        exact hset.leads_actionComplete (h.heap.frame rfl) h.idle
  | closeDevice =>
      simp only [dispatch, fpDeviceClose] at he
      split at he
      · cases he
      · rename_i hfree
        rw [not_or] at hfree
        cases he
        exact ((h.off (not_busy_of_isNone hfree.2)).setupTask .closeDevice).leads_gxfpImgClose
          (h.heap.frame rfl) h.idle
  | startAction action waitForFinger rearm =>
      simp only [dispatch, fpDeviceStart] at he
      split at he
      · cases he
      · rename_i hfree
        rw [not_or, not_or, not_not, not_not] at hfree
        cases he
        have hoff := h.off (not_busy_of_isNone hfree.2.1)
        have hbusy : (dev.setupTask action).Busy := ⟨hfree.2.2, rfl⟩
        exact (hoff.setupTask action).leads_startCaptureAction (h.heap.frame rfl) h.idle hbusy
          waitForFinger rearm
  | cancelInIdle =>
      simp only [dispatch, cancelInIdle] at he
      split at he
      · cases he
      · cases he
        have hset : Settled { dev with cancelQueued := false } Q [] mon :=
          h.withFlags (h.flags.frame rfl) rfl
        split
        · exact hset.leads_imageDeviceDeactivate
        · exact .of_inv (.settled hset)
  | timeout m =>
      simp only [dispatch, timeout] at he
      obtain ⟨ssm, hssm, hmap⟩ := Option.bind_eq_some_iff.mp he
      obtain ⟨state, hstate, rfl⟩ := Option.map_eq_some_iff.mp hmap
      have hplain := (h.heap.made m ssm hssm).2
      have hruns : dev.Runs m := by
        refine ⟨ssm, hssm, ?_⟩
        rw [Bool.eq_false_iff]
        intro hcompleted
        rw [hplain.timeout hcompleted] at hstate
        cases hstate
      -- the machine is in the state already
      refine h.leads_ssmDo (h.heap.one m hruns).1 hruns fun ssm' hssm' hplain' hrun => ?_
      obtain rfl : ssm = ssm' := Option.some.inj (hssm.symm.trans hssm')
      refine ⟨state, hplain'.onTimeoutJumpToState hrun state, ?_⟩
      rw [hplain.retry state hstate]
      exact h.heap.place m ssm hssm hrun
  | minutiaeDetected result =>
      simp only [dispatch] at he
      split at he
      · rename_i hscan
        cases he
        exact h.leads_minutiaeDetected hscan result
      · cases he
  | returnInIdle =>
      simp only [dispatch, returnInIdle] at he
      split at he
      · cases he
      · rename_i hreturning
        rw [not_not] at hreturning
        cases he
        have hoff := h.off (not_busy_of_returning hreturning)
        refine .of_inv (.settled (Off.settled ?_ (h.heap.frame rfl) h.idle .nil))
        exact ⟨hoff.closing, hoff.active, hoff.minutiae, ⟨hoff.noTask.ssm, hoff.noTask.kind⟩,
          hoff.waiting⟩

/-! ### One step -/

theorem Settled.ssmFree (h : dev.Settled Q calls mon) (hnot : ¬ dev.Runs m) :
    (dev.ssmFree m).Settled Q calls mon := by
  refine ⟨h.heap.ssmFree, h.flags.frame rfl, ?_, h.idle, h.frees.ssmFree⟩
  rcases h.task with hnone | ⟨m', htask, ssm, hssm, hrun⟩
  · exact Or.inl ⟨hnone.ssm, hnone.kind⟩
  · have hne : m' ≠ m := by
      rintro rfl
      exact hnot ⟨ssm, hssm, hrun⟩
    exact Or.inr ⟨m', htask, ssm, (Function.update_of_ne hne ..).trans hssm, hrun⟩

end FpiDeviceGxfp

variable {Q : Place} {dev : FpiDeviceGxfp} {mon : TaskMonitor} {calls : List PendingCall}
  {call : PendingCall}
  {s s' : Driver}

/-- **The innermost call is made.** -/
theorem Inv.leads_perform (h : Inv Q dev (call :: calls) mon) {io : IoOutcome}
    (hnext : ∀ m, call = .handler m → dev.KnowsNext Q m io.result) :
    (dev.perform io call).Leads Q calls mon := by
  generalize hall : call :: calls = all at h
  cases h with
  | settled settled =>
      subst hall
      obtain ⟨m, rfl, -, hnot⟩ := settled.frees call List.mem_cons_self
      have htail : dev.Settled Q calls mon :=
        ⟨settled.heap, settled.flags, settled.task, settled.idle, fun c hc =>
          settled.frees c (List.mem_cons_of_mem _ hc)⟩
      exact .of_inv (.settled (htail.ssmFree hnot))
  | handler settled task runs =>
      cases hall
      exact settled.leads_callHandler task runs (hnext _ rfl)
  | finished heap flags task kind stopped idle frees =>
      cases hall
      exact leads_taskFinished heap flags task kind stopped idle frees _
  | cancelled heap state task stopped frees =>
      cases hall
      exact state.leads_taskFinished heap task stopped frees _
  | answered heap flags task answered first frees =>
      rename_i before rest
      cases before with
      | nil =>
          cases hall
          have hsee : mon.see .deactivateReturn = some { mon with deactivation := .idle } :=
            if_pos answered
          have hflags : dev.Flags { mon with deactivation := .idle } :=
            ⟨flags.closing, fun ha =>
                have hactive := flags.active ha
                ⟨hactive.busy, hactive.deactivating, hactive.sent, hactive.state, hactive.quiet⟩,
              flags.minutiae, fun hk => absurd (task.kind.symm.trans hk) nofun, flags.task,
              flags.waiting⟩
          exact Effect.Leads.seen hsee (.of_inv (.settled (.of_noTask heap hflags task rfl frees)))
      | cons free before =>
          cases hall
          obtain ⟨m, rfl, -, -⟩ := first _ List.mem_cons_self
          have hfirst : dev.Frees before := fun c hc => first c (List.mem_cons_of_mem _ hc)
          exact .of_inv (.answered heap.ssmFree (flags.frame rfl) ⟨task.ssm, task.kind⟩ answered
            hfirst.ssmFree frees.ssmFree)
  | closing heap state =>
      cases hall
      exact state.leads_gxfpImgCloseRest heap

theorem Inv.cancel (h : Inv Q dev calls mon) : Inv Q dev.cancel calls mon := by
  unfold FpiDeviceGxfp.cancel
  split
  · exact h
  · cases h with
    | settled settled => exact .settled (settled.withFlags (settled.flags.frame rfl) rfl)
    | handler settled task runs =>
        exact .handler (settled.withFlags (settled.flags.frame rfl) rfl) task runs
    | finished heap flags task kind stopped idle frees =>
        exact .finished (heap.frame rfl) (flags.frame rfl) task kind stopped idle frees
    | cancelled heap state task stopped frees =>
        exact .cancelled (heap.frame rfl)
          ⟨⟨state.busy.capturing, state.busy.returning⟩, state.closing, state.active,
            state.deactivating, state.sent, state.state, state.deactivation, state.waiting⟩
          task stopped frees
    | answered heap flags task answered first frees =>
        exact .answered (heap.frame rfl) (flags.frame rfl) ⟨task.ssm, task.kind⟩ answered first
          frees
    | closing heap state =>
        exact .closing (heap.frame rfl)
          ⟨⟨state.noTask.ssm, state.noTask.kind⟩, state.active, state.minutiae, state.deactivation,
            state.waiting⟩

/-- With no call pending nothing but the main loop starts anything. -/
theorem Inv.settled_of_nil (h : Inv Q dev [] mon) : dev.Settled Q [] mon := by
  generalize hall : [] = all at h
  cases h with
  | settled settled => exact hall ▸ settled
  | handler => cases hall
  | finished => cases hall
  | cancelled => cases hall
  | answered =>
      rename_i before rest _ _ _ _ _ _
      cases before with
      | nil => cases hall
      | cons => cases hall
  | closing => cases hall

/-- The log is accepted and the invariant holds. -/
def Driver.Ok (s : Driver) (Q : Place) : Prop :=
  ∃ mon, watch TaskMonitor.see .start s.log = some mon ∧ Inv Q s.dev s.calls mon

theorem Driver.Ok.add {e : Effect} (hwatch : watch TaskMonitor.see .start s.log = some mon)
    (h : e.Leads Q calls mon) : (s.add e calls).Ok Q := by
  obtain ⟨mon', hlog, hinv⟩ := h
  refine ⟨mon', ?_, hinv⟩
  show watch _ _ (s.log ++ e.log) = _
  rw [watch_append, hwatch]
  exact hlog

theorem Inv.handler_settled {m : Nat} (h : Inv Q dev (.handler m :: calls) mon) :
    dev.Settled Q calls mon ∧ dev.taskSsm = some m ∧ dev.Runs m := by
  generalize hall : PendingCall.handler m :: calls = all at h
  cases h with
  | settled settled =>
      obtain ⟨m', hcall, -⟩ := settled.frees (.handler m) (hall ▸ List.mem_cons_self)
      cases hcall
  | handler settled task runs =>
      cases hall
      exact ⟨settled, task, runs⟩
  | finished => cases hall
  | cancelled => cases hall
  | answered heap flags task answered first frees =>
      rename_i before rest
      cases before with
      | nil => cases hall
      | cons =>
          cases hall
          obtain ⟨m', hcall, -⟩ := first (.handler m) List.mem_cons_self
          cases hcall
  | closing => cases hall

/-- When a handler is called only its machine runs, so only of that need anything be known. -/
theorem Driver.Ok.handler {m : Nat} (h : s.Ok Q) (hcalls : s.calls = .handler m :: calls) :
    ∃ ssm, s.dev.ssms m = some ssm ∧ Q.holds m ssm.handler ssm.curState ∧
      ∀ Q' : Place, Q'.holds m ssm.handler ssm.curState → s.Ok Q' := by
  obtain ⟨mon, hwatch, hinv⟩ := h
  rw [hcalls] at hinv
  obtain ⟨settled, htask, ssm, hssm, hrun⟩ := hinv.handler_settled
  refine ⟨ssm, hssm, settled.heap.place m ssm hssm hrun, fun Q' hplace => ⟨mon, hwatch, ?_⟩⟩
  have hheap : s.dev.Heap Q' := by
    refine ⟨settled.heap.made, settled.heap.one, fun m' ssm' hssm' hrun' => ?_⟩
    have hone := (settled.heap.one m' ⟨ssm', hssm', hrun'⟩).1
    obtain rfl : m = m' := Option.some.inj (htask.symm.trans hone)
    rw [hssm] at hssm'
    cases hssm'
    exact hplace
  rw [hcalls]
  exact .handler ⟨hheap, settled.flags, settled.task, settled.idle, settled.frees⟩ htask
    ⟨ssm, hssm, hrun⟩

/-- **One step.**  Of a handler's machine what is known must hold of the next state. -/
theorem driverStep_ok {input : DriverInput} (h : s.Ok Q) (hstep : driverStep s input = some s')
    (hnext : ∀ io m calls, input = .call io → s.calls = .handler m :: calls →
      s.dev.KnowsNext Q m io.result) : s'.Ok Q := by
  obtain ⟨mon, hwatch, hinv⟩ := h
  cases input with
  | call io =>
      rw [driverStep] at hstep
      cases hcalls : s.calls with
      | nil =>
          rw [hcalls] at hstep
          cases hstep
      | cons call calls =>
          rw [hcalls] at hstep hinv
          cases hstep
          refine .add hwatch (hinv.leads_perform fun m hcall => hnext io m calls rfl ?_)
          rw [hcalls, hcall]
  | main event =>
      rw [driverStep] at hstep
      cases hcalls : s.calls with
      | nil =>
          rw [hcalls] at hstep hinv
          obtain ⟨e, he, rfl⟩ := Option.map_eq_some_iff.mp hstep
          exact .add hwatch (hinv.settled_of_nil.leads_dispatch event he)
      | cons call calls =>
          rw [hcalls] at hstep
          cases hstep
  | cancel =>
      rw [driverStep] at hstep
      split at hstep
      · cases hstep
        exact ⟨mon, hwatch, hinv.cancel⟩
      · cases hstep

theorem constructed_ok : Driver.constructed.Ok Q := by
  refine ⟨.start, rfl, .settled (Off.settled ?_ ⟨nofun, ?_, nofun⟩ rfl .nil)⟩
  · exact ⟨rfl, rfl, rfl, ⟨rfl, rfl⟩, rfl⟩
  · rintro m ⟨ssm, hssm, -⟩
    cases hssm

theorem driverRun_ok {inputs : List DriverInput} (h : driverRun inputs = some s) :
    s.Ok .anywhere :=
  watch_keeps (fun s => s.Ok .anywhere) h constructed_ok fun _ _ _ _ hok hstep =>
    driverStep_ok hok hstep fun _ _ _ _ _ _ _ _ => trivial

end Gxfp
