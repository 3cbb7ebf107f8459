/-
What the log of a run says about activations, deactivations and reports.

That the log is accepted says all of it.  An unanswered activation and a deactivation
without its answer are measures that an answer brings down to zero, so the answers are
counted; what the monitor rejects while it is quiet comes after an activation.
-/
import Gxfp.Driver.Tasks

namespace Gxfp

open Monitor FpiDeviceGxfp

def DriverEvent.isActivate : DriverEvent → Bool
  | .activate _ => true
  | _ => false

def DriverEvent.isActivateComplete : DriverEvent → Bool
  | .activateComplete _ => true
  | _ => false

/-- A finger status, a captured image or a session error. -/
def DriverEvent.isReport : DriverEvent → Bool
  | .fingerStatus _ | .imageCaptured | .sessionError _ => true
  | _ => false

/-- The driver has at most one task, and each outcome is reported once. -/
structure Driver.ReportsOnce (s : Driver) : Prop where
  /-- A machine that has been started and has not finished is the task. -/
  one : ∀ m ssm, s.dev.ssms m = some ssm → ssm.completed = false →
    s.dev.taskSsm = some m ∧ s.dev.taskKind ≠ .none
  /-- Until the next activation there is at most one answer. -/
  activation : ∀ before task mid after, s.log = before ++ .activate task :: (mid ++ after) →
    (∀ e ∈ mid, e.isActivate = false) → mid.countP DriverEvent.isActivateComplete ≤ 1
  /-- There is one if the task, if there has been one, is done. -/
  finished : ∀ before task mid, s.log = before ++ .activate task :: mid →
    (∀ e ∈ mid, e.isActivate = false) → (∀ m, task = some m → s.dev.ssms m = none) →
    mid.countP DriverEvent.isActivateComplete = 1
  /-- There is one when the next activation comes. -/
  next : ∀ before task mid task' after,
    s.log = before ++ .activate task :: (mid ++ .activate task' :: after) →
    (∀ e ∈ mid, e.isActivate = false) → mid.countP DriverEvent.isActivateComplete = 1
  /-- When `gxfp_deactivate` returns it has been answered once. -/
  deactivation : ∀ before mid after,
    s.log = before ++ .deactivate :: (mid ++ .deactivateReturn :: after) →
    .deactivateReturn ∉ mid → mid.count .deactivateComplete = 1
  /-- There is no second answer before the next one. -/
  answered : ∀ before mid after, s.log = before ++ .deactivate :: (mid ++ after) →
    .deactivate ∉ mid → mid.count .deactivateComplete ≤ 1
  /-- In the main loop every `gxfp_deactivate` has returned. -/
  returned : s.calls = [] → ∀ before after, s.log = before ++ .deactivate :: after →
    .deactivateReturn ∈ after
  /-- Behind a deactivation an activation comes before any report. -/
  quiet : ∀ before mid e after, s.log = before ++ .deactivate :: (mid ++ e :: after) →
    e.isReport = true → ∃ task, .activate task ∈ mid

namespace TaskMonitor

variable {mon mon' : TaskMonitor} {e : DriverEvent}

/-- Whether an activation waits for its answer. -/
def unanswered (mon : TaskMonitor) : Nat := if mon.waiting = none then 0 else 1

/-- Whether a deactivation waits for its answer. -/
def undeactivated (mon : TaskMonitor) : Nat := if mon.deactivation = .called then 1 else 0

/-- An answer, and only that, ends the waiting. -/
theorem unanswered_see (hsee : mon.see e = some mon') (hactivate : e.isActivate = false) :
    mon.unanswered = mon'.unanswered + if e.isActivateComplete then 1 else 0 := by
  cases e with
  | activate task => cases hactivate
  | activateComplete error =>
      rw [see] at hsee
      split at hsee
      · cases hsee
      · rename_i hwaiting
        cases hsee
        exact if_neg hwaiting
  | deactivate | deactivateComplete | deactivateReturn =>
      rw [see] at hsee
      split at hsee
      · cases hsee
        rfl
      · cases hsee
  | fingerStatus present | imageCaptured | sessionError error =>
      rw [see] at hsee
      split at hsee
      · cases hsee
      · cases hsee
        rfl

/-- No other event changes what is waited for. -/
theorem waiting_see (hsee : mon.see e = some mon') (hactivate : e.isActivate = false) :
    mon'.waiting = none ∨ mon'.waiting = mon.waiting := by
  cases e with
  | activate task => cases hactivate
  | activateComplete error =>
      rw [see] at hsee
      split at hsee
      · cases hsee
      · cases hsee
        exact Or.inl rfl
  | deactivate | deactivateComplete | deactivateReturn =>
      rw [see] at hsee
      split at hsee
      · cases hsee
        exact Or.inr rfl
      · cases hsee
  | fingerStatus present | imageCaptured | sessionError error =>
      rw [see] at hsee
      split at hsee
      · cases hsee
      · cases hsee
        exact Or.inr rfl

theorem undeactivated_see (hsee : mon.see e = some mon') (hdeactivate : e ≠ .deactivate) :
    mon.undeactivated = mon'.undeactivated + if e == .deactivateComplete then 1 else 0 := by
  cases e with
  | deactivate => exact absurd rfl hdeactivate
  | deactivateComplete =>
      rw [see] at hsee
      split at hsee
      · rename_i hcalled
        cases hsee
        exact if_pos hcalled
      · cases hsee
  | deactivateReturn =>
      rw [see] at hsee
      split at hsee
      · rename_i hanswered
        cases hsee
        rw [undeactivated, hanswered]
        rfl
      · cases hsee
  | activate task =>
      rw [see] at hsee
      split at hsee
      · cases hsee
        rfl
      · cases hsee
  | activateComplete error | fingerStatus present | imageCaptured | sessionError error =>
      rw [see] at hsee
      split at hsee
      · cases hsee
      · cases hsee
        rfl

/-- A deactivation goes on until it returns. -/
theorem deactivating_see (hsee : mon.see e = some mon') (hreturn : e ≠ .deactivateReturn)
    (hgoing : mon.deactivation ≠ .idle) : e ≠ .deactivate ∧ mon'.deactivation ≠ .idle := by
  cases e with
  | deactivate =>
      rw [see, if_neg hgoing] at hsee
      cases hsee
  | deactivateReturn => exact absurd rfl hreturn
  | deactivateComplete =>
      rw [see] at hsee
      split at hsee
      · cases hsee
        exact ⟨nofun, nofun⟩
      · cases hsee
  | activate task =>
      rw [see] at hsee
      split at hsee
      · cases hsee
        exact ⟨nofun, hgoing⟩
      · cases hsee
  | activateComplete error | fingerStatus present | imageCaptured | sessionError error =>
      rw [see] at hsee
      split at hsee
      · cases hsee
      · cases hsee
        exact ⟨nofun, hgoing⟩

/-- Only an activation ends the quiet. -/
theorem quiet_see (hsee : mon.see e = some mon') (hactivate : ¬ ∃ task, e = .activate task)
    (hquiet : mon.quiet = true) : mon'.quiet = true := by
  cases e with
  | activate task => exact absurd ⟨task, rfl⟩ hactivate
  | deactivate =>
      rw [see] at hsee
      split at hsee
      · cases hsee
        rfl
      · cases hsee
  | deactivateComplete | deactivateReturn =>
      rw [see] at hsee
      split at hsee
      · cases hsee
        exact hquiet
      · cases hsee
  | activateComplete error =>
      rw [see] at hsee
      split at hsee
      · cases hsee
      · cases hsee
        exact hquiet
  | fingerStatus present | imageCaptured | sessionError error =>
      rw [see, if_pos hquiet] at hsee
      cases hsee

theorem see_report (he : e.isReport = true) (hquiet : mon.quiet = true) : mon.see e = none := by
  cases e with
  | fingerStatus present | imageCaptured | sessionError error => exact if_pos hquiet
  | _ => cases he

end TaskMonitor

section Log

open TaskMonitor

variable {Q : Place} {dev : FpiDeviceGxfp} {calls : List PendingCall} {mon mon₁ mon₂ : TaskMonitor}
  {before mid after : List DriverEvent} {e : DriverEvent}

/-- The monitor ahead of an event of the log and behind it. -/
theorem watch_at (hwatch : watch see mon (before ++ e :: after) = some mon₂) :
    ∃ mon₀ mon₁ : TaskMonitor, mon₀.see e = some mon₁ ∧ watch see mon₁ after = some mon₂ := by
  obtain ⟨mon₀, -, hrest⟩ := watch_append_eq_some hwatch
  obtain ⟨mon₁, hsee, hafter⟩ := watch_cons_eq_some hrest
  exact ⟨mon₀, mon₁, hsee, hafter⟩

theorem unanswered_of_activate {task : Option Nat} (hsee : mon.see (.activate task) = some mon₁) :
    mon₁.unanswered = 1 := by
  rw [see] at hsee
  split at hsee
  · cases hsee
    rfl
  · cases hsee

/-- An activation is not made before the last one is answered. -/
theorem unanswered_ahead_of_activate {task : Option Nat}
    (hsee : mon.see (.activate task) = some mon₁) : mon.unanswered = 0 := by
  rw [see] at hsee
  split at hsee
  · rename_i hfree
    exact if_pos hfree.1
  · cases hsee

/-- The answers to an activation, up to the next one. -/
theorem count_activateComplete {task : Option Nat}
    (hwatch : watch see mon (before ++ .activate task :: (mid ++ after)) = some mon₂)
    (hmid : ∀ e ∈ mid, e.isActivate = false) :
    ∃ mon₁, watch see mon₁ after = some mon₂ ∧
      1 = mon₁.unanswered + mid.countP DriverEvent.isActivateComplete := by
  obtain ⟨mon₀, mon₁, hsee, hrest⟩ := watch_at hwatch
  obtain ⟨mon', hwatchMid, hafter⟩ := watch_append_eq_some hrest
  refine ⟨mon', hafter, ?_⟩
  rw [← unanswered_of_activate hsee]
  exact count_of_measure unanswered _ hwatchMid fun e he _ _ hs => unanswered_see hs (hmid e he)

/-- While it is not answered, and no other is made, it is the one that is waited for. -/
theorem waiting_of_unanswered {task : Option Nat} (hsee : mon.see (.activate task) = some mon₁)
    (hwatch : watch see mon₁ mid = some mon₂) (hmid : ∀ e ∈ mid, e.isActivate = false)
    (hwaits : mon₂.unanswered ≠ 0) : mon₂.waiting = some task := by
  have hstart : mon₁.waiting = none ∨ mon₁.waiting = some task := by
    rw [see] at hsee
    split at hsee
    · cases hsee
      exact Or.inr rfl
    · cases hsee
  have hend : mon₂.waiting = none ∨ mon₂.waiting = some task :=
    watch_keeps (fun mon => mon.waiting = none ∨ mon.waiting = some task) hwatch hstart
      fun e he mon mon' hor hs => by
      rcases waiting_see hs (hmid e he) with hnone | hsame
      · exact Or.inl hnone
      · rw [hsame]
        exact hor
  exact hend.resolve_left fun hnone => hwaits (if_pos hnone)

/-- Behind a deactivation it is being made, and it is quiet. -/
theorem see_deactivate (hsee : mon.see .deactivate = some mon₁) :
    mon₁.deactivation = .called ∧ mon₁.quiet = true := by
  rw [see] at hsee
  split at hsee
  · cases hsee
    exact ⟨rfl, rfl⟩
  · cases hsee

theorem going_of_deactivate (hsee : mon.see .deactivate = some mon₁) :
    mon₁.deactivation ≠ .idle := by
  rw [(see_deactivate hsee).1]
  nofun

/-- A deactivation is answered when it returns. -/
theorem undeactivated_ahead_of_return (hsee : mon.see .deactivateReturn = some mon₁) :
    mon.undeactivated = 0 := by
  rw [see] at hsee
  split at hsee
  · rename_i hanswered
    rw [undeactivated, hanswered]
    rfl
  · cases hsee

/-- While a deactivation goes on no other is made. -/
theorem deactivating_keeps (hwatch : watch see mon mid = some mon₁)
    (hgoing : mon.deactivation ≠ .idle) (hmid : .deactivateReturn ∉ mid) :
    .deactivate ∉ mid ∧ mon₁.deactivation ≠ .idle := by
  induction mid generalizing mon with
  | nil =>
      cases hwatch
      exact ⟨List.not_mem_nil, hgoing⟩
  | cons e mid ih =>
      obtain ⟨mon', hsee, hrest⟩ := watch_cons_eq_some hwatch
      rw [List.mem_cons, not_or] at hmid
      obtain ⟨he, hgoing'⟩ := deactivating_see hsee (Ne.symm hmid.1) hgoing
      obtain ⟨hmem, hend⟩ := ih hrest hgoing' hmid.2
      refine ⟨?_, hend⟩
      rw [List.mem_cons, not_or]
      exact ⟨Ne.symm he, hmem⟩

/-- The answers to a deactivation, up to the next one. -/
theorem count_deactivateComplete (hsee : mon.see .deactivate = some mon₁)
    (hwatch : watch see mon₁ mid = some mon₂) (hmid : .deactivate ∉ mid) :
    1 = mon₂.undeactivated + mid.count .deactivateComplete := by
  have hcalled : mon₁.undeactivated = 1 := by
    rw [undeactivated, (see_deactivate hsee).1]
    rfl
  rw [← hcalled]
  refine count_of_measure undeactivated _ hwatch fun e he _ _ hs => undeactivated_see hs ?_
  rintro rfl
  exact hmid he

theorem flags_waiting (flags : dev.Flags mon) {task : Option Nat}
    (hwaiting : mon.waiting = some task) :
    dev.taskKind = .activate ∧ dev.taskSsm = task := by
  rw [flags.waiting] at hwaiting
  split at hwaiting
  · rename_i hkind
    exact ⟨hkind, Option.some.inj hwaiting⟩
  · cases hwaiting

theorem settled_waiting (settled : dev.Settled Q calls mon) {task : Option Nat}
    (hwaiting : mon.waiting = some task) : ∃ m, task = some m ∧ dev.ssms m ≠ none := by
  obtain ⟨hkind, rfl⟩ := flags_waiting settled.flags hwaiting
  rcases settled.task with hnone | ⟨m, htask, ssm, hssm, -⟩
  · exact absurd (hnone.kind.symm.trans hkind) nofun
  · refine ⟨m, htask, ?_⟩
    rw [hssm]
    nofun

/-- An activation that waits for its answer waits for a machine that is there. -/
theorem inv_waiting (h : Inv Q dev calls mon) {task : Option Nat}
    (hwaiting : mon.waiting = some task) :
    ∃ m, task = some m ∧ dev.ssms m ≠ none := by
  cases h with
  | settled settled => exact settled_waiting settled hwaiting
  | handler settled => exact settled_waiting settled hwaiting
  | finished heap flags htask kind stopped =>
      obtain ⟨ssm, hssm, -⟩ := stopped
      obtain ⟨-, rfl⟩ := flags_waiting flags hwaiting
      refine ⟨_, htask, ?_⟩
      rw [hssm]
      nofun
  | cancelled heap state => exact absurd (state.waiting.symm.trans hwaiting) nofun
  | answered heap flags task =>
      exact absurd (task.kind.symm.trans (flags_waiting flags hwaiting).1) nofun
  | closing heap state => exact absurd (state.waiting.symm.trans hwaiting) nofun

/-- The machines of a device on which the invariant holds. -/
theorem inv_heap (h : Inv Q dev calls mon) : dev.Heap Q := by
  cases h with
  | settled settled => exact settled.heap
  | handler settled => exact settled.heap
  | finished heap => exact heap
  | cancelled heap => exact heap
  | answered heap => exact heap
  | closing heap => exact heap

end Log

/-! ### The result -/

open TaskMonitor

/--
**One task at a time, and each outcome reported once.**

In every run of the driver under the image device, whatever comes of its input and
output and whenever the user cancels: a machine that runs is the task; an activation is
answered at most once, and once its task is done exactly once; a deactivation has been
answered exactly once when it returns; and behind it nothing is reported before the
next activation.
-/
theorem driverRun_reportsOnce (inputs : List DriverInput) {s : Driver}
    (h : driverRun inputs = some s) : s.ReportsOnce := by
  obtain ⟨mon, hwatch, hinv⟩ := driverRun_ok h
  constructor
  case one =>
    intro m ssm hssm hrun
    exact (inv_heap hinv).one m ⟨ssm, hssm, hrun⟩
  case activation =>
    intro before task mid after hlog hmid
    rw [hlog] at hwatch
    obtain ⟨mon₁, -, hcount⟩ := count_activateComplete hwatch hmid
    omega
  case finished =>
    intro before task mid hlog hmid hdone
    rw [hlog] at hwatch
    obtain ⟨mon₀, mon₁, hsee, hrest⟩ := watch_at hwatch
    have hcount : mon₁.unanswered = mon.unanswered + mid.countP DriverEvent.isActivateComplete :=
      count_of_measure unanswered _ hrest fun e he _ _ hs => unanswered_see hs (hmid e he)
    rw [unanswered_of_activate hsee] at hcount
    suffices mon.unanswered = 0 by omega
    by_contra hwaits
    have hwaiting : mon.waiting = some task := waiting_of_unanswered hsee hrest hmid hwaits
    obtain ⟨m, rfl, hthere⟩ := inv_waiting hinv hwaiting
    exact hthere (hdone m rfl)
  case next =>
    intro before task mid task' after hlog hmid
    rw [hlog] at hwatch
    obtain ⟨mon₁, hafter, hcount⟩ := count_activateComplete hwatch hmid
    obtain ⟨mon₂, hsee, -⟩ := watch_cons_eq_some hafter
    have hanswered : mon₁.unanswered = 0 := unanswered_ahead_of_activate hsee
    omega
  case deactivation =>
    intro before mid after hlog hmid
    rw [hlog] at hwatch
    obtain ⟨mon₀, mon₁, hsee, hrest⟩ := watch_at hwatch
    obtain ⟨mon₂, hwatchMid, hafter⟩ := watch_append_eq_some hrest
    obtain ⟨mon₃, hreturn, -⟩ := watch_cons_eq_some hafter
    have hcount := count_deactivateComplete hsee hwatchMid
      (deactivating_keeps hwatchMid (going_of_deactivate hsee) hmid).1
    have hanswered : mon₂.undeactivated = 0 := undeactivated_ahead_of_return hreturn
    omega
  case answered =>
    intro before mid after hlog hmid
    rw [hlog] at hwatch
    obtain ⟨mon₀, mon₁, hsee, hrest⟩ := watch_at hwatch
    obtain ⟨mon₂, hwatchMid, -⟩ := watch_append_eq_some hrest
    have hcount := count_deactivateComplete hsee hwatchMid hmid
    omega
  case returned =>
    intro hcalls before after hlog
    rw [hlog] at hwatch
    rw [hcalls] at hinv
    obtain ⟨mon₀, mon₁, hsee, hrest⟩ := watch_at hwatch
    by_contra hmem
    exact (deactivating_keeps hrest (going_of_deactivate hsee) hmem).2 hinv.settled_of_nil.idle
  case quiet =>
    intro before mid e after hlog he
    rw [hlog] at hwatch
    obtain ⟨mon₀, mon₁, hsee, hrest⟩ := watch_at hwatch
    obtain ⟨a, ha, task, rfl⟩ := happens_between (fun mon => mon.quiet = true)
      (fun e => ∃ task, e = .activate task) hrest (see_deactivate hsee).2
      (fun _ _ _ hends hquiet hs => quiet_see hs hends hquiet)
      (fun _ hquiet => see_report he hquiet)
    exact ⟨task, ha⟩

/-- A verification that is cancelled while it waits for the image. -/
def cancelledVerify : List DriverInput :=
  let io (result : IoResult) : DriverInput := .call ⟨false, result⟩
  -- the activation
  [.main (.openDevice none), .main .returnInIdle, .main (.startAction .verify true none)] ++
    List.replicate 8 (io .done) ++
  -- the finger is there
    List.replicate 4 (io .done) ++
  -- the capture
    [io .done, io .again, io .done, io .done, .cancel, .main .cancelInIdle] ++
    List.replicate 3 (io .done)

theorem driverRun_reportsOnce_cancelled :
    ∃ s, driverRun cancelledVerify = some s ∧ s.ReportsOnce := by
  have hrun : (driverRun cancelledVerify).isSome = true := by decide +kernel
  obtain ⟨s, h⟩ := Option.isSome_iff_exists.mp hrun
  exact ⟨s, h, driverRun_reportsOnce cancelledVerify h⟩

end Gxfp
