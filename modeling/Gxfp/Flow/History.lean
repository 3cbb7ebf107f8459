/-
What the finger-detection flow makes of any history of records.

The state is always what the last deciding frame says, whatever came between and
whether or not a command went out.  An invalid base costs the state and nothing else,
unless arming the sensor again fails.
-/
import Mathlib.Data.List.Induction
import Gxfp.Flow.Fdt

namespace Gxfp

open Bytes

section Feed

variable {σ : Type} (sys : Sys σ) (dev : Dev) {tapHdr : TapHdr} {payload : List UInt8}
  {frame : FrameParsed} {flow : FdtFlow}

/-! ### Feeding one record -/

/-- A record without a finger-detection frame changes nothing. -/
theorem fdtFlowFeedRecord_none (h : fdtFrame tapHdr payload = none) (flow : FdtFlow) (s : σ) :
    fdtFlowFeedRecord sys dev flow tapHdr payload s =
      (.error .again, fdtEventNone, flow, dev, s) := by
  rw [fdtFlowFeedRecord, fdtUpdateStateFromRecord_none h]
  rfl

theorem fdtStatusToEvents_other (h : ¬ frame.FdtDecides) :
    fdtStatusToEvents frame.fdtStatus = fdtEventNone := by
  unfold fdtStatusToEvents
  split
  · rename_i hdown
    exact absurd (Or.inl hdown) h
  · split
    · rename_i hup
      exact absurd (Or.inr (Or.inl hup)) h
    · split
      · rename_i hreverse
        exact absurd (Or.inr (Or.inr hreverse)) h
      · rfl

/-- What a deciding status stands for. -/
theorem fdtStatusToEvents_cases (h : frame.FdtDecides) :
    (frame.fdtStatus = 0x0002 ∧ fdtStatusToEvents frame.fdtStatus = fdtEventDown) ∨
    (frame.fdtStatus = 0x0200 ∧ fdtStatusToEvents frame.fdtStatus = fdtEventUp) ∨
    ((frame.fdtStatus = 0x0080 ∨ frame.fdtStatus = 0x0082) ∧
      fdtStatusToEvents frame.fdtStatus = fdtEventReverse) := by
  rcases h with hstatus | hstatus | hstatus | hstatus
  · exact Or.inl ⟨hstatus, by rw [hstatus]; rfl⟩
  · exact Or.inr (Or.inl ⟨hstatus, by rw [hstatus]; rfl⟩)
  · exact Or.inr (Or.inr ⟨Or.inl hstatus, by rw [hstatus]; rfl⟩)
  · exact Or.inr (Or.inr ⟨Or.inr hstatus, by rw [hstatus]; rfl⟩)

/-- A frame that says nothing of the finger is noted, and no more. -/
theorem fdtFlowFeedRecord_other (h : fdtFrame tapHdr payload = some frame)
    (hcmd : flow.cmd.Padded) (hother : ¬ frame.FdtDecides) (s : σ) :
    fdtFlowFeedRecord sys dev flow tapHdr payload s =
      (.error .again, fdtEventNone, { flow with lastStatus := frame.fdtStatus }, dev, s) := by
  have hupdate : fdtBaseTableUpdateFromFrame flow.cmd frame = (true, flow.cmd) := by
    rcases fdtBaseTableUpdateFromFrame_cases flow.cmd frame with ⟨-, heq⟩ | ⟨hd, -⟩ | ⟨hd, -⟩
    · exact heq
    · exact absurd hd hother
    · exact absurd hd hother
  rw [fdtFlowFeedRecord, fdtUpdateStateFromRecord_some h hcmd.inited, hupdate]
  simp only [fdtStatusToEvents_other hother]
  rfl

/-- The state a deciding frame leads to, by its events. -/
theorem fdtStateAfter_valid (hdecides : frame.FdtDecides) (hbase : frame.FdtBase)
    (state : FdtState) :
    fdtStateAfter true (fdtStatusToEvents frame.fdtStatus) state = frame.fdtState := by
  have hstate : frame.fdtState = if frame.fdtStatus = 0x0002 then .down else .up :=
    if_neg (not_not.mpr hbase)
  rw [hstate]
  rcases fdtStatusToEvents_cases hdecides with
    ⟨hstatus, hevents⟩ | ⟨hstatus, hevents⟩ | ⟨hstatus | hstatus, hevents⟩ <;>
    rw [hevents, hstatus] <;> rfl

/-- Arming after a REVERSE touches the manual table at most. -/
theorem fdtFlowReverse_flow (events : UInt32) (flow : FdtFlow) (s : σ) :
    ∃ cmd, (cmd = flow.cmd ∨ cmd = flow.cmd.armed) ∧
      (fdtFlowReverse sys dev events flow s).2.1 = { flow with cmd } := by
  unfold fdtFlowReverse
  split
  · exact ⟨flow.cmd.armed, Or.inr rfl, fdtFlowArm_flow sys dev _ flow s⟩
  · exact ⟨flow.cmd, Or.inl rfl, rfl⟩

/-- **A deciding frame with a good base** sets the state and may fail to arm the sensor again. -/
theorem fdtFlowFeedRecord_valid (h : fdtFrame tapHdr payload = some frame)
    (hcmd : flow.cmd.Padded) (hdecides : frame.FdtDecides) (hbase : frame.FdtBase) (s : σ) :
    ∃ cmd, cmd.Padded ∧
      (fdtFlowFeedRecord sys dev flow tapHdr payload s).2.2.1 =
        { flow with cmd, state := frame.fdtState, lastStatus := frame.fdtStatus } ∧
      ((fdtFlowFeedRecord sys dev flow tapHdr payload s).2.1 = fdtEventNone ∨
        (fdtFlowFeedRecord sys dev flow tapHdr payload s).2.1 =
          fdtStatusToEvents frame.fdtStatus) := by
  have hpadded := fdtBaseTableUpdateFromFrame_padded hcmd frame
  obtain ⟨cmd, hupdate⟩ : ∃ cmd, fdtBaseTableUpdateFromFrame flow.cmd frame = (true, cmd) := by
    rcases fdtBaseTableUpdateFromFrame_cases flow.cmd frame with
      ⟨hd, -⟩ | ⟨-, hb, -⟩ | ⟨-, -, _, _, _, heq, -⟩
    · exact absurd hdecides hd
    · exact absurd hbase hb
    · exact ⟨_, heq⟩
  have hquiet : ¬ fdtStatusToEvents frame.fdtStatus &&& fdtEventBaseInvalid ≠ 0 := by
    rcases fdtStatusToEvents_cases hdecides with ⟨-, heq⟩ | ⟨-, heq⟩ | ⟨-, heq⟩ <;>
      rw [heq] <;> decide
  have hsome : ¬ fdtStatusToEvents frame.fdtStatus = fdtEventNone := by
    rcases fdtStatusToEvents_cases hdecides with ⟨-, heq⟩ | ⟨-, heq⟩ | ⟨-, heq⟩ <;>
      rw [heq] <;> decide
  rw [hupdate] at hpadded
  rw [fdtFlowFeedRecord, fdtUpdateStateFromRecord_some h hcmd.inited, hupdate]
  simp only [if_true, fdtStateAfter_valid hdecides hbase, fdtFlowBaseInvalid, if_neg hquiet,
    if_neg hsome]
  obtain ⟨cmd', hcmd', hflow⟩ := fdtFlowReverse_flow sys dev
    (fdtStatusToEvents frame.fdtStatus)
    { flow with cmd, state := frame.fdtState, lastStatus := frame.fdtStatus } s
  refine ⟨cmd', ?_, ?_⟩
  · rcases hcmd' with rfl | rfl
    · exact hpadded
    · exact hpadded.armed
  · rcases hout : fdtFlowReverse sys dev (fdtStatusToEvents frame.fdtStatus)
      { flow with cmd, state := frame.fdtState, lastStatus := frame.fdtStatus } s with
      ⟨e | ⟨⟩, flow', dev', s'⟩
    · rw [hout] at hflow
      exact ⟨hflow, Or.inl rfl⟩
    · rw [hout] at hflow
      exact ⟨hflow, Or.inr rfl⟩

/-- The flow that is armed again after an invalid base. -/
def FdtFlow.unarmed (flow : FdtFlow) (status : UInt16) : FdtFlow :=
  { flow with state := .unknown, lastStatus := status, mode := .idle }

/-- **A deciding frame with a bad base** costs the state, and the mode if arming fails. -/
theorem fdtFlowFeedRecord_invalid (h : fdtFrame tapHdr payload = some frame)
    (hcmd : flow.cmd.Padded) (hdecides : frame.FdtDecides) (hbase : ¬ frame.FdtBase) (s : σ) :
    ∃ cmd, (cmd = flow.cmd ∨ cmd = flow.cmd.armed) ∧
      ((flow.mode = .idle ∨ (fdtFlowSetMode sys dev (flow.unarmed frame.fdtStatus) flow.mode s).1 =
            .ok ()) ∧
          (fdtFlowFeedRecord sys dev flow tapHdr payload s).1 = .ok () ∧
          (fdtFlowFeedRecord sys dev flow tapHdr payload s).2.1 = fdtEventBaseInvalid ∧
          (fdtFlowFeedRecord sys dev flow tapHdr payload s).2.2.1 =
            { flow.unarmed frame.fdtStatus with cmd, mode := flow.mode } ∨
        ∃ e, (fdtFlowSetMode sys dev (flow.unarmed frame.fdtStatus) flow.mode s).1 = .error e ∧
          (fdtFlowFeedRecord sys dev flow tapHdr payload s).1 = .error e ∧
          (fdtFlowFeedRecord sys dev flow tapHdr payload s).2.1 = fdtEventNone ∧
          (fdtFlowFeedRecord sys dev flow tapHdr payload s).2.2.1 =
            { flow.unarmed frame.fdtStatus with cmd }) := by
  have hupdate : fdtBaseTableUpdateFromFrame flow.cmd frame = (false, flow.cmd) := by
    rcases fdtBaseTableUpdateFromFrame_cases flow.cmd frame with ⟨hd, -⟩ | ⟨-, -, heq⟩ | ⟨-, hb, -⟩
    · exact absurd hdecides hd
    · exact heq
    · exact absurd hb hbase
  have hreverse : ¬ (fdtEventBaseInvalid &&& fdtEventReverse ≠ 0 ∧ flow.mode = .waitDown) := by
    intro hboth
    exact hboth.1 (by decide)
  have hinvalid : fdtEventBaseInvalid &&& fdtEventBaseInvalid ≠ 0 := by decide
  have hsome : ¬ fdtEventBaseInvalid = fdtEventNone := by decide
  rw [fdtFlowFeedRecord, fdtUpdateStateFromRecord_some h hcmd.inited, hupdate]
  simp only [Bool.false_eq_true, if_false, fdtStateAfter, fdtFlowReverse, fdtFlowBaseInvalid,
    if_neg hreverse, if_pos hinvalid, if_neg hsome]
  by_cases hidle : flow.mode = .idle
  · refine ⟨flow.cmd, Or.inl rfl, Or.inl ⟨Or.inl hidle, ?_⟩⟩
    rw [if_neg (not_not.mpr hidle), hidle]
    exact ⟨rfl, rfl, rfl⟩
  · obtain ⟨cmd, hcmd', hset⟩ := fdtFlowSetMode_cases sys dev
      (flow.unarmed frame.fdtStatus) flow.mode s
    refine ⟨cmd, hcmd', ?_⟩
    rw [if_pos hidle]
    have hunarmed : ({ flow with
        state := .unknown, lastStatus := frame.fdtStatus, mode := .idle } : FdtFlow) =
          flow.unarmed frame.fdtStatus := rfl
    rw [hunarmed]
    rcases hout : fdtFlowSetMode sys dev (flow.unarmed frame.fdtStatus) flow.mode s with
      ⟨e | ⟨⟩, flow', dev', s'⟩
    · rw [hout] at hset
      rcases hset with ⟨hok, -⟩ | ⟨e', herror, hflow⟩
      · cases hok
      · exact Or.inr ⟨e, rfl, rfl, rfl, hflow⟩
    · rw [hout] at hset
      rcases hset with ⟨-, hflow⟩ | ⟨e', herror, -⟩
      · exact Or.inl ⟨Or.inr rfl, rfl, rfl, hflow⟩
      · cases herror

/-- What a record does to the flow, whatever it carries. -/
theorem fdtFlowFeedRecord_flow (hcmd : flow.cmd.Padded) (tapHdr : TapHdr) (payload : List UInt8)
    (s : σ) :
    (fdtFlowFeedRecord sys dev flow tapHdr payload s).2.2.1.cmd.Padded ∧
      (fdtFlowFeedRecord sys dev flow tapHdr payload s).2.2.1.state =
        (((fdtFrame tapHdr payload).filter fun frame => decide frame.FdtDecides).map
          FrameParsed.fdtState).getD flow.state := by
  cases hframe : fdtFrame tapHdr payload with
  | none =>
      rw [fdtFlowFeedRecord_none sys dev hframe]
      exact ⟨hcmd, rfl⟩
  | some frame =>
      by_cases hdecides : frame.FdtDecides
      · have hfilter : (some frame).filter (fun frame => decide frame.FdtDecides) = some frame := by
          rw [Option.filter_some, if_pos (decide_eq_true hdecides)]
        rw [hfilter]
        by_cases hbase : frame.FdtBase
        · obtain ⟨cmd, hpadded, hflow, -⟩ :=
            fdtFlowFeedRecord_valid sys dev hframe hcmd hdecides hbase s
          rw [hflow]
          exact ⟨hpadded, rfl⟩
        · have hunknown : frame.fdtState = .unknown := if_pos hbase
          obtain ⟨cmd, hcmd', hout⟩ :=
            fdtFlowFeedRecord_invalid sys dev hframe hcmd hdecides hbase s
          have hpadded : cmd.Padded := by
            rcases hcmd' with rfl | rfl
            · exact hcmd
            · exact hcmd.armed
          rcases hout with ⟨-, -, -, hflow⟩ | ⟨e, -, -, -, hflow⟩
          · rw [hflow]
            exact ⟨hpadded, hunknown.symm⟩
          · rw [hflow]
            exact ⟨hpadded, hunknown.symm⟩
      · rw [fdtFlowFeedRecord_other sys dev hframe hcmd hdecides, Option.filter_some,
          if_neg (by simpa using hdecides)]
        exact ⟨hcmd, rfl⟩

/-! ### Histories -/

/-- What is done with a flow. -/
inductive FdtOp
  | feed (tapHdr : TapHdr) (payload : List UInt8)
  | setMode (mode : FdtMode)
  /-- Callers that want the sensor armed anew set the mode to idle themselves. -/
  | idle
  | setRuntime (secondFlag needFdtUpTwice diffUse : Bool) (dacOffset : Int16)

/-- A call, with the device and the other side as they are when it is made. -/
structure FdtCall (σ : Type) where
  op : FdtOp
  dev : Dev
  other : σ

def FdtFlow.call (flow : FdtFlow) (c : FdtCall σ) : FdtFlow :=
  match c.op with
  | .feed tapHdr payload => (fdtFlowFeedRecord sys c.dev flow tapHdr payload c.other).2.2.1
  | .setMode mode => (fdtFlowSetMode sys c.dev flow mode c.other).2.1
  | .idle => { flow with mode := .idle }
  | .setRuntime secondFlag needFdtUpTwice diffUse dacOffset =>
    { flow with cmd := cmdFdtStateSetRuntime flow.cmd secondFlag needFdtUpTwice diffUse dacOffset }

/-- The calls one after the other, on a new flow. -/
def fdtRun (calls : List (FdtCall σ)) : FdtFlow :=
  calls.foldl (FdtFlow.call sys) fdtFlowInit

/-- The frame of a call that decides the state, if it is one. -/
def FdtOp.decides : FdtOp → Option FrameParsed
  | .feed tapHdr payload => (fdtFrame tapHdr payload).filter fun frame => decide frame.FdtDecides
  | _ => none

/-- What the last deciding frame of a history says. -/
def fdtLastState (calls : List (FdtCall σ)) : FdtState :=
  match (calls.filterMap fun c => c.op.decides).getLast? with
  | none => .unknown
  | some frame => frame.fdtState

/-- One call keeps the tables, and changes the state only with a deciding frame. -/
theorem FdtFlow.call_flow (hcmd : flow.cmd.Padded) (c : FdtCall σ) :
    (FdtFlow.call sys flow c).cmd.Padded ∧
      (FdtFlow.call sys flow c).state =
        (c.op.decides.map FrameParsed.fdtState).getD flow.state := by
  obtain ⟨op, dev, s⟩ := c
  cases op with
  | feed tapHdr payload => exact fdtFlowFeedRecord_flow sys dev hcmd tapHdr payload s
  | setMode mode =>
      have hset := fdtFlowSetMode_cases sys dev flow mode s
      obtain ⟨cmd, hcmd', hflow⟩ := hset
      have hpadded : cmd.Padded := by
        rcases hcmd' with rfl | rfl
        · exact hcmd
        · exact hcmd.armed
      show (fdtFlowSetMode sys dev flow mode s).2.1.cmd.Padded ∧
        (fdtFlowSetMode sys dev flow mode s).2.1.state = flow.state
      rcases hflow with ⟨-, hflow⟩ | ⟨e, -, hflow⟩
      · rw [hflow]
        exact ⟨hpadded, rfl⟩
      · rw [hflow]
        exact ⟨hpadded, rfl⟩
  | idle => exact ⟨hcmd, rfl⟩
  | setRuntime secondFlag needFdtUpTwice diffUse dacOffset => exact ⟨{ hcmd with }, rfl⟩

theorem fdtRun_flow (calls : List (FdtCall σ)) :
    (fdtRun sys calls).cmd.Padded ∧ (fdtRun sys calls).state = fdtLastState calls := by
  induction calls using List.reverseRecOn with
  | nil => exact ⟨cmdFdtStateInit_padded, rfl⟩
  | append_singleton calls c ih =>
      have happend : fdtRun sys (calls ++ [c]) = FdtFlow.call sys (fdtRun sys calls) c := by
        rw [fdtRun, List.foldl_append]
        rfl
      obtain ⟨hpadded, hstate⟩ := FdtFlow.call_flow sys ih.1 c
      rw [happend]
      refine ⟨hpadded, hstate.trans ?_⟩
      rw [ih.2, fdtLastState, fdtLastState, List.filterMap_append]
      cases hdecides : c.op.decides with
      | none =>
          have hnone : [c].filterMap (fun c => c.op.decides) = [] := by simp [hdecides]
          rw [hnone, List.append_nil]
          rfl
      | some frame =>
          have hsome : [c].filterMap (fun c => c.op.decides) = [frame] := by simp [hdecides]
          rw [hsome, List.getLast?_concat]
          rfl

/-- The events are those of a good frame of their status. -/
theorem fdtFlowFeedRecord_events (hcmd : flow.cmd.Padded) (tapHdr : TapHdr)
    (payload : List UInt8) (s : σ) {event : UInt32} {P : FrameParsed → Prop}
    (hevent : ¬ fdtEventBaseInvalid &&& event ≠ 0)
    (hstatus : ∀ frame : FrameParsed, frame.FdtDecides →
      fdtStatusToEvents frame.fdtStatus &&& event ≠ 0 → P frame)
    (h : (fdtFlowFeedRecord sys dev flow tapHdr payload s).2.1 &&& event ≠ 0) :
    ∃ frame, fdtFrame tapHdr payload = some frame ∧ frame.FdtBase ∧ P frame := by
  have hnone : ¬ fdtEventNone &&& event ≠ 0 := not_not.mpr UInt32.zero_and
  cases hframe : fdtFrame tapHdr payload with
  | none =>
      rw [fdtFlowFeedRecord_none sys dev hframe] at h
      exact absurd h hnone
  | some frame =>
      by_cases hdecides : frame.FdtDecides
      · by_cases hbase : frame.FdtBase
        · refine ⟨frame, rfl, hbase, hstatus frame hdecides ?_⟩
          obtain ⟨cmd, -, -, hevents | hevents⟩ :=
            fdtFlowFeedRecord_valid sys dev hframe hcmd hdecides hbase s
          · rw [hevents] at h
            exact absurd h hnone
          · rw [hevents] at h
            exact h
        · obtain ⟨cmd, -, ⟨-, -, hevents, -⟩ | ⟨e, -, -, hevents, -⟩⟩ :=
            fdtFlowFeedRecord_invalid sys dev hframe hcmd hdecides hbase s
          · rw [hevents] at h
            exact absurd h hevent
          · rw [hevents] at h
            exact absurd h hnone
      · rw [fdtFlowFeedRecord_other sys dev hframe hcmd hdecides] at h
        exact absurd h hnone

end Feed

/-! ### The result -/

/--
**The finger-detection flow follows the frames.**

After any calls the state is what the last deciding frame says, and the tables are empty
behind their ten entries.  A record fed then, with any outcome of what it sends: without a
finger-detection frame it changes nothing; events for a touch, its end or a reversal come
from good frames of that status; and a bad base leaves the up and down tables and the
settings, is the only event, and costs the mode exactly if arming the sensor again fails.
-/
theorem fdtRun_follows {σ : Type} (sys : Sys σ) (calls : List (FdtCall σ)) :
    (fdtRun sys calls).state = fdtLastState calls ∧
    (fdtRun sys calls).cmd.Padded ∧
    ∀ (tapHdr : TapHdr) (payload : List UInt8) (dev : Dev) (s : σ),
      let before := fdtRun sys calls
      let out := fdtFlowFeedRecord sys dev before tapHdr payload s
      (fdtFrame tapHdr payload = none → out = (.error .again, fdtEventNone, before, dev, s)) ∧
      (out.2.1 &&& fdtEventDown ≠ 0 → ∃ frame, fdtFrame tapHdr payload = some frame ∧
        frame.FdtBase ∧ frame.fdtStatus = 0x0002) ∧
      (out.2.1 &&& fdtEventUp ≠ 0 → ∃ frame, fdtFrame tapHdr payload = some frame ∧
        frame.FdtBase ∧ frame.fdtStatus = 0x0200) ∧
      (out.2.1 &&& fdtEventReverse ≠ 0 → ∃ frame, fdtFrame tapHdr payload = some frame ∧
        frame.FdtBase ∧ (frame.fdtStatus = 0x0080 ∨ frame.fdtStatus = 0x0082)) ∧
      ∀ frame, fdtFrame tapHdr payload = some frame → frame.FdtDecides → ¬ frame.FdtBase →
        (∃ manualTable, out.2.2.1.cmd = { before.cmd with manualTable }) ∧
        (((before.mode = .idle ∨
              (fdtFlowSetMode sys dev (before.unarmed frame.fdtStatus) before.mode s).1 = .ok ()) ∧
            out.1 = .ok () ∧ out.2.1 = fdtEventBaseInvalid ∧ out.2.2.1.mode = before.mode) ∨
          ∃ e, (fdtFlowSetMode sys dev (before.unarmed frame.fdtStatus) before.mode s).1 =
              .error e ∧
            out.1 = .error e ∧ out.2.1 = fdtEventNone ∧ out.2.2.1.mode = .idle) := by
  obtain ⟨hpadded, hstate⟩ := fdtRun_flow sys calls
  refine ⟨hstate, hpadded, fun tapHdr payload dev s => ?_⟩
  dsimp only
  refine ⟨fun hnone => fdtFlowFeedRecord_none sys dev hnone _ s, ?_, ?_, ?_, ?_⟩
  · refine fdtFlowFeedRecord_events sys dev hpadded tapHdr payload s (by decide)
      fun frame hd he => ?_
    rcases fdtStatusToEvents_cases hd with ⟨hstatus, -⟩ | ⟨-, heq⟩ | ⟨-, heq⟩
    · exact hstatus
    · exact absurd (heq ▸ he) (by decide)
    · exact absurd (heq ▸ he) (by decide)
  · refine fdtFlowFeedRecord_events sys dev hpadded tapHdr payload s (by decide)
      fun frame hd he => ?_
    rcases fdtStatusToEvents_cases hd with ⟨-, heq⟩ | ⟨hstatus, -⟩ | ⟨-, heq⟩
    · exact absurd (heq ▸ he) (by decide)
    · exact hstatus
    · exact absurd (heq ▸ he) (by decide)
  · refine fdtFlowFeedRecord_events sys dev hpadded tapHdr payload s (by decide)
      fun frame hd he => ?_
    rcases fdtStatusToEvents_cases hd with ⟨-, heq⟩ | ⟨-, heq⟩ | ⟨hstatus, -⟩
    · exact absurd (heq ▸ he) (by decide)
    · exact absurd (heq ▸ he) (by decide)
    · exact hstatus
  · intro frame hframe hdecides hbase
    obtain ⟨cmd, hcmd, hout⟩ :=
      fdtFlowFeedRecord_invalid sys dev hframe hpadded hdecides hbase s
    have hmanual : ∃ manualTable, cmd = { (fdtRun sys calls).cmd with manualTable } := by
      rcases hcmd with rfl | rfl
      · exact ⟨_, rfl⟩
      · exact ⟨_, rfl⟩
    rcases hout with ⟨harmed, hok, hevents, hflow⟩ | ⟨e, hfails, herror, hevents, hflow⟩
    · rw [hflow]
      exact ⟨hmanual, Or.inl ⟨harmed, hok, hevents, rfl⟩⟩
    · rw [hflow]
      exact ⟨hmanual, Or.inr ⟨e, hfails, herror, hevents, rfl⟩⟩

section Examples

/-- A touch with a base of zero, in a notice. -/
def badTouch : TapHdr × List UInt8 :=
  (⟨10, 0x0C, 0, zeros 16⟩, [0xDA, 0x07, 0x00, 0x02, 0x00, 0x01, 0x00, 0x00, 0x00, 0xC5])

/-- The sensor is to wait for a finger. -/
def armed : List (FdtCall Unit) := [⟨.setMode .waitDown, ⟨3, 0, 0, true⟩, ()⟩]

/-- The base is bad, and arming again works. -/
theorem fdtRun_follows_badTouch :
    let out := fdtFlowFeedRecord silentSys ⟨3, 1, 0, true⟩ (fdtRun silentSys armed)
      badTouch.1 badTouch.2 ()
    out.2.1 = fdtEventBaseInvalid ∧ out.2.2.1.mode = .waitDown := by
  obtain ⟨-, -, hfeed⟩ := fdtRun_follows silentSys armed
  obtain ⟨-, -, -, -, hbad⟩ := hfeed badTouch.1 badTouch.2 ⟨3, 1, 0, true⟩ ()
  obtain ⟨-, ⟨-, -, hevents, hmode⟩ | ⟨e, hfails, -⟩⟩ := hbad _ rfl (by decide) (by decide)
  · exact ⟨hevents, hmode⟩
  · cases hfails

end Examples

end Gxfp
