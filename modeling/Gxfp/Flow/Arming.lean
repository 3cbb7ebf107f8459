/-
The finger-detection flow while every transmission succeeds.

What a record carries cannot make feeding it fail then: a record that is of no use is an
`-EAGAIN`, which the callers pass over, and the events are those of the frame in it.  The
flow must be one that its own functions have made, so that the tables fit a command and
the mode is one of the three.
-/
import Gxfp.Flow.History

namespace Gxfp

open Bytes

/-! ### Flows -/

/-- A flow as its own functions leave it. -/
structure FdtFlow.Live (flow : FdtFlow) : Prop where
  padded : flow.cmd.Padded
  mode : ∀ value, flow.mode ≠ .other value

theorem fdtFlowInit_live : fdtFlowInit.Live where
  padded := cmdFdtStateInit_padded
  mode := nofun

/-- In another mode a flow is live still. -/
theorem FdtFlow.Live.of_mode {flow : FdtFlow} (h : flow.Live) {mode : FdtMode}
    (hmode : ∀ value, mode ≠ .other value) : FdtFlow.Live { flow with mode } :=
  ⟨h.padded, hmode⟩

section History

variable {σ : Type} (sys : Sys σ) (dev : Dev) {flow : FdtFlow}

/-- A mode that is none is not taken over. -/
theorem fdtFlowSetMode_mode (hmode : ∀ value, flow.mode ≠ .other value) (mode : FdtMode) (s : σ) :
    ∀ value, (fdtFlowSetMode sys dev flow mode s).2.1.mode ≠ .other value := by
  obtain ⟨cmd, -, ⟨hok, hflow⟩ | ⟨e, -, hflow⟩⟩ := fdtFlowSetMode_cases sys dev flow mode s
  · rw [hflow]
    intro value h
    have hother : mode = .other value := h
    rw [hother] at hok
    unfold fdtFlowSetMode at hok
    rw [if_neg (hmode value).symm] at hok
    cases hok
  · rw [hflow]
    exact hmode

/-- Feeding a record leaves a mode that is one. -/
theorem fdtFlowFeedRecord_mode (hflow : flow.Live) (tapHdr : TapHdr) (payload : List UInt8)
    (s : σ) :
    ∀ value, (fdtFlowFeedRecord sys dev flow tapHdr payload s).2.2.1.mode ≠ .other value := by
  rcases hframe : fdtFrame tapHdr payload with _ | frame
  · rw [fdtFlowFeedRecord_none sys dev hframe]
    exact hflow.mode
  by_cases hdecides : frame.FdtDecides
  · by_cases hbase : frame.FdtBase
    · obtain ⟨cmd, -, hout, -⟩ :=
        fdtFlowFeedRecord_valid sys dev hframe hflow.padded hdecides hbase s
      rw [hout]
      exact hflow.mode
    · obtain ⟨cmd, -, ⟨-, -, -, hout⟩ | ⟨e, -, -, -, hout⟩⟩ :=
        fdtFlowFeedRecord_invalid sys dev hframe hflow.padded hdecides hbase s
      · rw [hout]
        exact hflow.mode
      · rw [hout]
        exact nofun
  · rw [fdtFlowFeedRecord_other sys dev hframe hflow.padded hdecides]
    exact hflow.mode

/-- **A call leaves a live flow live.** -/
theorem FdtFlow.Live.call (hflow : flow.Live) (c : FdtCall σ) : (FdtFlow.call sys flow c).Live := by
  refine ⟨(FdtFlow.call_flow sys hflow.padded c).1, ?_⟩
  obtain ⟨op, dev, s⟩ := c
  cases op with
  | feed tapHdr payload => exact fdtFlowFeedRecord_mode sys dev hflow tapHdr payload s
  | setMode mode => exact fdtFlowSetMode_mode sys dev hflow.mode mode s
  | idle => exact fdtFlowInit_live.mode
  | setRuntime secondFlag needFdtUpTwice diffUse dacOffset => exact hflow.mode

/-- **Every flow that calls lead to is live.** -/
theorem fdtRun_live (calls : List (FdtCall σ)) : (fdtRun sys calls).Live := by
  induction calls using List.reverseRecOn with
  | nil => exact fdtFlowInit_live
  | append_singleton calls c ih =>
      have happend : fdtRun sys (calls ++ [c]) = FdtFlow.call sys (fdtRun sys calls) c := by
        rw [fdtRun, List.foldl_append]
        rfl
      rw [happend]
      exact ih.call sys c

end History

/-! ### The events of a record -/

/-- What a finger-detection frame reports. -/
def FrameParsed.fdtEvents (frame : FrameParsed) : UInt32 :=
  if frame.FdtDecides ∧ ¬ frame.FdtBase then fdtEventBaseInvalid
  else fdtStatusToEvents frame.fdtStatus

/-- What a record reports, if it carries such a frame. -/
def fdtRecordEvents (tapHdr : TapHdr) (payload : List UInt8) : UInt32 :=
  match fdtFrame tapHdr payload with
  | none => fdtEventNone
  | some frame => frame.fdtEvents

/-- The flow's own view of a frame comes to the same events. -/
theorem FrameParsed.fdtEvents_eq (frame : FrameParsed) (state : FdtCmdState) :
    (if (fdtBaseTableUpdateFromFrame state frame).1 then fdtStatusToEvents frame.fdtStatus
      else fdtEventBaseInvalid) = frame.fdtEvents := by
  unfold FrameParsed.fdtEvents
  rcases fdtBaseTableUpdateFromFrame_cases state frame with
    ⟨hother, heq⟩ | ⟨hdecides, hbase, heq⟩ | ⟨-, hbase, _, _, _, heq, -⟩
  · rw [heq, if_pos rfl, if_neg fun h => hother h.1]
  · rw [heq, if_neg Bool.false_ne_true, if_pos ⟨hdecides, hbase⟩]
  · rw [heq, if_pos rfl, if_neg fun h => h.2 hbase]

/-! ### Commands that go out -/

theorem FdtCmdState.Padded.length_table {table : List UInt8} (h : table.drop 20 = zeros 4) :
    table.length = 24 := by
  have hlen : (table.drop 20).length = 4 := by
    rw [h]
    rfl
  rw [List.length_drop] at hlen
  omega

/-- A command with a table fits. -/
theorem length_fdtPayload {table : List UInt8} (h : table.drop 20 = zeros 4)
    (magic0 magic1 : UInt8) : (fdtPayload magic0 magic1 table).length ≤ cmdPayloadMax := by
  have htable := FdtCmdState.Padded.length_table h
  have hlen : (fdtPayload magic0 magic1 table).length = 34 := by
    simp only [fdtPayload, List.length_append, List.length_cons, List.length_nil, htable,
      length_zeros, fdtWireTrailerLen]
  rw [hlen]
  decide

section Sent

variable {σ : Type} {sys : Sys σ} {dev : Dev} {flow : FdtFlow}
  (hwrite : ∀ b s, sys.write b s = (.ok b.length, s))

/-- The two commands that arm the sensor. -/
def FdtSend (sys : Sys σ) (send : Dev → FdtCmdState → σ → Except Errno Unit × Dev × σ) : Prop :=
  send = cmdFdtSendDown sys ∨ send = cmdFdtSendUp sys

include hwrite

theorem FdtSend.sent {send : Dev → FdtCmdState → σ → Except Errno Unit × Dev × σ}
    (h : FdtSend sys send) (hd : dev.Opened) {state : FdtCmdState} (hstate : state.Padded) (s : σ) :
    ∃ dev', send dev state s = (.ok (), dev', s) ∧ dev'.Opened := by
  rcases h with rfl | rfl
  · exact ⟨_, goodixSendAsync_sent hd hwrite _ (length_fdtPayload hstate.down _ _) s,
      ⟨hd.fd, hd.rxChunk⟩⟩
  · exact ⟨_, goodixSendAsync_sent hd hwrite _ (length_fdtPayload hstate.up _ _) s,
      ⟨hd.fd, hd.rxChunk⟩⟩

/-- **Arming the sensor works**, and leaves what has been there. -/
theorem fdtFlowArm_sent (hd : dev.Opened) (hflow : flow.Live)
    {send : Dev → FdtCmdState → σ → Except Errno Unit × Dev × σ} (hsend : FdtSend sys send)
    (s : σ) :
    ∃ flow' dev', fdtFlowArm sys dev send flow s = (.ok (), flow', dev', s) ∧
      flow'.Live ∧ flow'.mode = flow.mode ∧ dev'.Opened := by
  have harmed : flow.cmd.armed.Padded := hflow.padded.armed
  have hfits : (fdtModePayload flow.cmd.armed).length ≤ cmdPayloadMax :=
    length_fdtPayload harmed.manual _ _
  have hset : cmdFdtSetMode sys dev flow.cmd s =
      (.ok (), flow.cmd.armed, { dev with seq16 := dev.seq16 + 1 }, s) := by
    unfold cmdFdtSetMode
    rw [goodixSendAsync_sent hd hwrite cmdFdtMode hfits]
  have hd' : Dev.Opened { dev with seq16 := dev.seq16 + 1 } := ⟨hd.fd, hd.rxChunk⟩
  obtain ⟨dev', hsent, hopen⟩ := hsend.sent hwrite hd' harmed s
  refine ⟨{ flow with cmd := flow.cmd.armed }, dev', ?_, ⟨harmed, hflow.mode⟩, rfl, hopen⟩
  unfold fdtFlowArm
  rw [hset]
  dsimp only
  rw [hsent]

theorem fdtFlowSetMode_sent (hd : dev.Opened) (hflow : flow.Live) {mode : FdtMode}
    (hmode : ∀ value, mode ≠ .other value) (s : σ) :
    ∃ flow' dev', fdtFlowSetMode sys dev flow mode s = (.ok (), flow', dev', s) ∧
      flow'.Live ∧ dev'.Opened := by
  unfold fdtFlowSetMode
  by_cases hsame : mode = flow.mode
  · rw [if_pos hsame]
    exact ⟨flow, dev, rfl, hflow, hd⟩
  rw [if_neg hsame]
  cases mode with
  | idle => exact ⟨_, dev, rfl, hflow.of_mode nofun, hd⟩
  | waitDown =>
      obtain ⟨flow', dev', harm, hlive, -, hopen⟩ :=
        fdtFlowArm_sent hwrite hd hflow (Or.inl rfl) s
      dsimp only
      rw [harm]
      exact ⟨_, dev', rfl, hlive.of_mode nofun, hopen⟩
  | waitUp =>
      obtain ⟨flow', dev', harm, hlive, -, hopen⟩ :=
        fdtFlowArm_sent hwrite hd hflow (Or.inr rfl) s
      dsimp only
      rw [harm]
      exact ⟨_, dev', rfl, hlive.of_mode nofun, hopen⟩
  | other value => exact absurd rfl (hmode value)

theorem fdtFlowReverse_sent (hd : dev.Opened) (hflow : flow.Live) (events : UInt32) (s : σ) :
    ∃ flow' dev', fdtFlowReverse sys dev events flow s = (.ok (), flow', dev', s) ∧
      flow'.Live ∧ dev'.Opened := by
  unfold fdtFlowReverse
  split
  · obtain ⟨flow', dev', harm, hlive, -, hopen⟩ := fdtFlowArm_sent hwrite hd hflow (Or.inl rfl) s
    exact ⟨flow', dev', harm, hlive, hopen⟩
  · exact ⟨flow, dev, rfl, hflow, hd⟩

theorem fdtFlowBaseInvalid_sent (hd : dev.Opened) (hflow : flow.Live) (events : UInt32) (s : σ) :
    ∃ flow' dev', fdtFlowBaseInvalid sys dev events flow s = (.ok (), flow', dev', s) ∧
      flow'.Live ∧ dev'.Opened := by
  have hidle : FdtFlow.Live { flow with mode := .idle } := hflow.of_mode nofun
  unfold fdtFlowBaseInvalid
  split
  · dsimp only
    split
    · exact fdtFlowSetMode_sent hwrite hd hidle hflow.mode s
    · exact ⟨_, dev, rfl, hidle, hd⟩
  · exact ⟨flow, dev, rfl, hflow, hd⟩

/--
**Whatever a record carries, feeding it does not fail.**  The result is success or the
`-EAGAIN` that is passed over, and the events are those of the frame.
-/
theorem fdtFlowFeedRecord_sent (hd : dev.Opened) (hflow : flow.Live) (tapHdr : TapHdr)
    (payload : List UInt8) (s : σ) :
    ∃ r flow' dev', fdtFlowFeedRecord sys dev flow tapHdr payload s =
        (r, fdtRecordEvents tapHdr payload, flow', dev', s) ∧
      (r = .ok () ∨ r = .error .again) ∧ flow'.Live ∧ dev'.Opened := by
  unfold fdtRecordEvents
  rcases hframe : fdtFrame tapHdr payload with _ | frame
  · exact ⟨_, flow, dev, fdtFlowFeedRecord_none sys dev hframe flow s, Or.inr rfl, hflow, hd⟩
  have hupdate := fdtUpdateStateFromRecord_some hframe hflow.padded.inited
  have hpadded := fdtBaseTableUpdateFromFrame_padded hflow.padded frame
  have hevents := frame.fdtEvents_eq flow.cmd
  rcases hout : fdtBaseTableUpdateFromFrame flow.cmd frame with ⟨baseValid, cmd⟩
  rw [hout] at hupdate hpadded hevents
  unfold fdtFlowFeedRecord
  rw [hupdate]
  dsimp only at hpadded hevents ⊢
  rw [hevents]
  have hnoted : FdtFlow.Live
      { flow with
        cmd
        state := fdtStateAfter baseValid frame.fdtEvents flow.state
        lastStatus := frame.fdtStatus } := ⟨hpadded, hflow.mode⟩
  obtain ⟨flow₁, dev₁, hreverse, hlive₁, hopen₁⟩ :=
    fdtFlowReverse_sent hwrite hd hnoted frame.fdtEvents s
  obtain ⟨flow₂, dev₂, hinvalid, hlive₂, hopen₂⟩ :=
    fdtFlowBaseInvalid_sent hwrite hopen₁ hlive₁ frame.fdtEvents s
  rw [hreverse]
  dsimp only
  rw [hinvalid]
  dsimp only
  by_cases hnone : frame.fdtEvents = fdtEventNone
  · rw [if_pos hnone]
    exact ⟨_, flow₂, dev₂, rfl, Or.inr rfl, hlive₂, hopen₂⟩
  · rw [if_neg hnone]
    exact ⟨_, flow₂, dev₂, rfl, Or.inl rfl, hlive₂, hopen₂⟩

end Sent

end Gxfp
