/-
The finger-detection flow of `src/flow/fdt.c`.

The sensor reports a touch or its end in a frame with a status and fresh base values.
`gxfp_fdt_flow_feed_record` computes a base table from them, takes over what the frame
says about the finger and arms the sensor again where that is needed, which may fail
half way.  Base values that cannot be right spoil the whole frame.
-/
import Gxfp.Cmd.Fdt

namespace Gxfp

open Bytes

/-! ### Base tables -/

def fdtBaseUpdateEntries : Nat := 10

def fdtStatusDownGetUpBase : UInt16 := 0x0002
def fdtStatusUp : UInt16 := 0x0200
def fdtStatusIrqDownGetUpBase : UInt16 := 0x0002
def fdtStatusIrqUpGetDownBase : UInt16 := 0x0200
def fdtStatusIrqReverse0 : UInt16 := 0x0080
def fdtStatusIrqReverse2 : UInt16 := 0x0082

def fdtUpDefaultOffset : UInt16 := 0x15
def fdtUpNotouchFallback : UInt16 := 0x1300

/-- The loop of `fdt_base_valid`. -/
def fdtEntriesValid : List UInt8 → Bool
  | lo :: hi :: rest =>
    let half := (le16 lo hi >>> 1).toUInt8
    if half = 0x00 ∨ half = 0xFF then false else fdtEntriesValid rest
  | _ => true

/-- `fdt_base_valid` -/
def fdtBaseValid (raw : List UInt8) : Bool :=
  if raw.length < 2 then false else fdtEntriesValid raw

/-- Entry `i` of a table becomes `w`. -/
def setLe16 (table : List UInt8) (i : Nat) (w : UInt16) : List UInt8 :=
  (table.set (i * 2) (loByte w.toNat)).set (i * 2 + 1) (hiByte w.toNat)

/-- How many entries the raw values fill. -/
def fdtEntries (raw : List UInt8) : Nat := min (raw.length / 2) fdtBaseUpdateEntries

/-- `fdt_downbase_from_raw` -/
def fdtDownbaseFromRaw (raw table : List UInt8) : List UInt8 :=
  if raw.length < 2 then table
  else
    (List.range (fdtEntries raw)).foldl
      (fun table i => setLe16 table i (((le16At raw (i * 2) >>> 1) <<< 8) ||| 0x80)) table

/-- What `fdt_upbase_from_raw` makes of one raw value. -/
def fdtUpEncoded (touchflag : UInt16) (secondFlag : Bool) (dacOffset : Int16) (raw : UInt16)
    (i : Nat) : UInt16 :=
  let half := raw >>> 1
  let offset := if dacOffset = 0 then fdtUpDefaultOffset else dacOffset.toUInt16
  let encoded := ((half + offset) <<< 8) ||| (half + offset)
  if secondFlag = false ∧ (touchflag >>> i.toUInt16) &&& 0x1 = 0 then
    if dacOffset = 0 then (encoded >>> 8) ||| fdtUpNotouchFallback
    else ((dacOffset - 2).toUInt16 <<< 8) ||| (encoded >>> 8)
  else encoded

/-- `fdt_upbase_from_raw` -/
def fdtUpbaseFromRaw (touchflag : UInt16) (secondFlag diffUse : Bool) (dacOffset : Int16)
    (raw table : List UInt8) : List UInt8 :=
  if raw.length < 2 then table
  else
    (List.range (fdtEntries raw)).foldl
      (fun merged i =>
        let encoded := fdtUpEncoded touchflag secondFlag dacOffset (le16At raw (i * 2)) i
        let prev := le16At merged (i * 2)
        setLe16 merged i (if diffUse ∧ prev < encoded then prev else encoded)) table

/-- `fdt_base_table_update_from_frame` -/
def fdtBaseTableUpdateFromFrame (state : FdtCmdState) (frame : FrameParsed) : Bool × FdtCmdState :=
  let irqStatus := le16At frame.payload 0
  if irqStatus = fdtStatusIrqDownGetUpBase then
    if frame.payload.length < 4 then (false, state)
    else
      let touchflag := le16At frame.payload 2
      let rawBase := (frame.payload.drop 4).take (fdtBaseUpdateEntries * 2)
      if ¬ fdtBaseValid rawBase then (false, state)
      else
        let secondFlag := if state.upNeedTwice then state.upRound else state.upSecondFlag
        let upRound := if state.upNeedTwice then !state.upRound else state.upRound
        let upTable := fdtUpbaseFromRaw touchflag secondFlag state.upDiffUse state.upDacOffset
          rawBase state.upTable
        (true, { state with upTable, upRound })
  else if irqStatus = fdtStatusIrqUpGetDownBase ∨ irqStatus = fdtStatusIrqReverse0 ∨
      irqStatus = fdtStatusIrqReverse2 then
    if frame.payload.length < 4 then (false, state)
    else
      let rawBase := (frame.payload.drop 4).take (fdtBaseUpdateEntries * 2)
      if ¬ fdtBaseValid rawBase then (false, state)
      else (true, { state with downTable := fdtDownbaseFromRaw rawBase state.downTable })
  else (true, state)

/-- `fdt_update_state_from_record`: the status and whether the base is valid. -/
def fdtUpdateStateFromRecord (state : FdtCmdState) (tapHdr : TapHdr) (payload : List UInt8) :
    Except Errno (UInt16 × Bool) × FdtCmdState :=
  if tapHdr.type ≠ mpTypeCmd.toUInt32 ∧ tapHdr.type ≠ mpTypeNotice.toUInt32 then
    (.error .noent, state)
  else
    match parseGoodixBody payload with
    | none => (.error .noent, state)
    | some frame =>
      if ¬ frame.valid then (.error .noent, state)
      else if frame.payload.length < 2 then (.error .noent, state)
      else if frame.cmd ≠ cmdFdtStatus ∧ frame.cmd ≠ cmdFdtDown ∧ frame.cmd ≠ cmdFdtMode ∧
          frame.cmd ≠ cmdFdtUp then (.error .noent, state)
      else
        let state := if state.baseTableInited then state else cmdFdtStateInit
        let (baseValid, state) := fdtBaseTableUpdateFromFrame state frame
        (.ok (le16At frame.payload 0, baseValid), state)

/-! ### The flow -/

/-- `enum gxfp_fdt_mode`, with the values that are not in it. -/
inductive FdtMode
  | idle
  | waitDown
  | waitUp
  | other (value : UInt32)
  deriving DecidableEq, Repr

/-- `enum gxfp_fdt_state` -/
inductive FdtState
  | unknown
  | up
  | down
  deriving DecidableEq, Repr

def fdtEventNone : UInt32 := 0
def fdtEventDown : UInt32 := (1 : UInt32) <<< 0
def fdtEventUp : UInt32 := (1 : UInt32) <<< 1
def fdtEventReverse : UInt32 := (1 : UInt32) <<< 2
def fdtEventBaseInvalid : UInt32 := (1 : UInt32) <<< 3

/-- `struct gxfp_fdt_flow` -/
structure FdtFlow where
  cmd : FdtCmdState
  mode : FdtMode
  state : FdtState
  lastStatus : UInt16
  deriving DecidableEq, Repr

/-- `gxfp_fdt_flow_init` -/
def fdtFlowInit : FdtFlow where
  cmd := cmdFdtStateInit
  mode := .idle
  state := .unknown
  lastStatus := 0

/-- `fdt_status_to_events` -/
def fdtStatusToEvents (status : UInt16) : UInt32 :=
  if status = fdtStatusDownGetUpBase then fdtEventDown
  else if status = fdtStatusUp then fdtEventUp
  else if status = fdtStatusIrqReverse0 ∨ status = fdtStatusIrqReverse2 then fdtEventReverse
  else fdtEventNone

/-- What the flow knows of the finger after a frame. -/
def fdtStateAfter (baseValid : Bool) (events : UInt32) (state : FdtState) : FdtState :=
  if baseValid then
    if events &&& fdtEventDown ≠ 0 then .down
    else if events &&& (fdtEventUp ||| fdtEventReverse) ≠ 0 then .up
    else state
  else .unknown

section Flow

variable {σ : Type} (sys : Sys σ) (dev : Dev)

/-- `gxfp_cmd_fdt_set_mode`, and then the command `send`. -/
def fdtFlowArm (send : Dev → FdtCmdState → σ → Except Errno Unit × Dev × σ) (flow : FdtFlow)
    (s : σ) : Except Errno Unit × FdtFlow × Dev × σ :=
  match cmdFdtSetMode sys dev flow.cmd s with
  | (.error e, cmd, dev, s) => (.error e, { flow with cmd }, dev, s)
  | (.ok (), cmd, dev, s) =>
    let (r, dev, s) := send dev cmd s
    (r, { flow with cmd }, dev, s)

/-- `gxfp_fdt_flow_set_mode` -/
def fdtFlowSetMode (flow : FdtFlow) (mode : FdtMode) (s : σ) :
    Except Errno Unit × FdtFlow × Dev × σ :=
  if mode = flow.mode then (.ok (), flow, dev, s)
  else
    match mode with
    | .idle => (.ok (), { flow with mode := .idle }, dev, s)
    | .waitDown =>
      match fdtFlowArm sys dev (cmdFdtSendDown sys) flow s with
      | (.error e, flow, dev, s) => (.error e, flow, dev, s)
      | (.ok (), flow, dev, s) => (.ok (), { flow with mode := .waitDown }, dev, s)
    | .waitUp =>
      match fdtFlowArm sys dev (cmdFdtSendUp sys) flow s with
      | (.error e, flow, dev, s) => (.error e, flow, dev, s)
      | (.ok (), flow, dev, s) => (.ok (), { flow with mode := .waitUp }, dev, s)
    | .other _ => (.error .inval, flow, dev, s)

/-- Arming again after a REVERSE, in `gxfp_fdt_flow_feed_record`. -/
def fdtFlowReverse (events : UInt32) (flow : FdtFlow) (s : σ) :
    Except Errno Unit × FdtFlow × Dev × σ :=
  if events &&& fdtEventReverse ≠ 0 ∧ flow.mode = .waitDown then
    fdtFlowArm sys dev (cmdFdtSendDown sys) flow s
  else (.ok (), flow, dev, s)

/-- Arming again after an invalid base, in `gxfp_fdt_flow_feed_record`. -/
def fdtFlowBaseInvalid (events : UInt32) (flow : FdtFlow) (s : σ) :
    Except Errno Unit × FdtFlow × Dev × σ :=
  if events &&& fdtEventBaseInvalid ≠ 0 then
    let mode := flow.mode
    let flow := { flow with mode := .idle }
    if mode ≠ .idle then fdtFlowSetMode sys dev flow mode s else (.ok (), flow, dev, s)
  else (.ok (), flow, dev, s)

/-- `gxfp_fdt_flow_feed_record`: its result, the events, and what it leaves. -/
def fdtFlowFeedRecord (flow : FdtFlow) (tapHdr : TapHdr) (payload : List UInt8) (s : σ) :
    Except Errno Unit × UInt32 × FdtFlow × Dev × σ :=
  match fdtUpdateStateFromRecord flow.cmd tapHdr payload with
  | (.error e, cmd) =>
    (.error (if e = .again ∨ e = .noent then .again else e), fdtEventNone, { flow with cmd }, dev,
      s)
  | (.ok (status, baseValid), cmd) =>
    let events := if baseValid then fdtStatusToEvents status else fdtEventBaseInvalid
    let state := fdtStateAfter baseValid events flow.state
    match fdtFlowReverse sys dev events { flow with cmd, state, lastStatus := status } s with
    | (.error e, flow, dev, s) => (.error e, fdtEventNone, flow, dev, s)
    | (.ok (), flow, dev, s) =>
      match fdtFlowBaseInvalid sys dev events flow s with
      | (.error e, flow, dev, s) => (.error e, fdtEventNone, flow, dev, s)
      | (.ok (), flow, dev, s) =>
        if events = fdtEventNone then (.error .again, events, flow, dev, s)
        else (.ok (), events, flow, dev, s)

end Flow

/-! ### Frames, read off a record -/

/-- The finger-detection frame in a record, if there is one. -/
def fdtFrame (tapHdr : TapHdr) (payload : List UInt8) : Option FrameParsed :=
  if tapHdr.type = mpTypeCmd.toUInt32 ∨ tapHdr.type = mpTypeNotice.toUInt32 then
    (parseGoodixBody payload).filter fun frame =>
      2 ≤ frame.payload.length && (frame.cmd == cmdFdtStatus || frame.cmd == cmdFdtDown ||
        frame.cmd == cmdFdtMode || frame.cmd == cmdFdtUp)
  else none

namespace FrameParsed

/-- The status a finger-detection frame starts with. -/
def fdtStatus (frame : FrameParsed) : UInt16 := le16At frame.payload 0

/-- The base values behind status and touch flags, as many as a table takes. -/
def fdtRawBase (frame : FrameParsed) : List UInt8 :=
  (frame.payload.drop 4).take (fdtBaseUpdateEntries * 2)

/-- The frame has base values, and none of them is out of range. -/
def FdtBase (frame : FrameParsed) : Prop :=
  4 ≤ frame.payload.length ∧ fdtBaseValid frame.fdtRawBase = true

instance (frame : FrameParsed) : Decidable frame.FdtBase := inferInstanceAs (Decidable (_ ∧ _))

/-- The statuses that say something about the finger. -/
def FdtDecides (frame : FrameParsed) : Prop :=
  frame.fdtStatus = 0x0002 ∨ frame.fdtStatus = 0x0200 ∨ frame.fdtStatus = 0x0080 ∨
    frame.fdtStatus = 0x0082

instance (frame : FrameParsed) : Decidable frame.FdtDecides :=
  inferInstanceAs (Decidable (_ ∨ _ ∨ _ ∨ _))

/-- What such a frame says. -/
def fdtState (frame : FrameParsed) : FdtState :=
  if ¬ frame.FdtBase then .unknown else if frame.fdtStatus = 0x0002 then .down else .up

end FrameParsed

theorem fdtUpdateStateFromRecord_none {tapHdr : TapHdr} {payload : List UInt8}
    (h : fdtFrame tapHdr payload = none) (state : FdtCmdState) :
    fdtUpdateStateFromRecord state tapHdr payload = (.error .noent, state) := by
  unfold fdtFrame at h
  unfold fdtUpdateStateFromRecord
  split
  · rfl
  · rename_i htype
    rw [if_pos (by tauto), Option.filter_eq_none_iff] at h
    split
    · rfl
    · rename_i frame hparse
      have hbad := h frame hparse
      split
      · rfl
      · split
        · rfl
        · rename_i hlen
          rw [if_pos]
          simpa [Nat.not_lt.mp hlen, and_assoc] using hbad

theorem fdtUpdateStateFromRecord_some {tapHdr : TapHdr} {payload : List UInt8}
    {frame : FrameParsed} (h : fdtFrame tapHdr payload = some frame) {state : FdtCmdState}
    (hinited : state.baseTableInited = true) :
    fdtUpdateStateFromRecord state tapHdr payload =
      (.ok (frame.fdtStatus, (fdtBaseTableUpdateFromFrame state frame).1),
        (fdtBaseTableUpdateFromFrame state frame).2) := by
  unfold fdtFrame at h
  split at h
  · rename_i htype
    obtain ⟨hparse, hframe⟩ := Option.filter_eq_some_iff.mp h
    have hvalid := (parseGoodixBody_slice hparse).1
    simp only [Bool.and_eq_true, decide_eq_true_eq, Bool.or_eq_true, beq_iff_eq] at hframe
    unfold fdtUpdateStateFromRecord
    rw [if_neg (by tauto), hparse]
    dsimp only
    rw [if_neg (not_not.mpr hvalid), if_neg (Nat.not_lt.mpr hframe.1), if_neg (by tauto),
      if_pos hinited]
    rfl
  · cases h

/-! ### The tables -/

/-- Tables in use, with nothing behind their ten entries. -/
structure FdtCmdState.Padded (state : FdtCmdState) : Prop where
  inited : state.baseTableInited = true
  down : state.downTable.drop 20 = zeros 4
  up : state.upTable.drop 20 = zeros 4
  manual : state.manualTable.drop 20 = zeros 4

theorem cmdFdtStateInit_padded : cmdFdtStateInit.Padded where
  inited := rfl
  down := rfl
  up := rfl
  manual := rfl

theorem FdtCmdState.Padded.armed {state : FdtCmdState} (h : state.Padded) : state.armed.Padded :=
  { h with manual := h.down }

theorem setLe16_drop {i : Nat} (h : i < fdtBaseUpdateEntries) (table : List UInt8) (w : UInt16) :
    (setLe16 table i w).drop 20 = table.drop 20 := by
  have hlt : i < 10 := h
  rw [setLe16, List.drop_set_of_lt (by omega), List.drop_set_of_lt (by omega)]

/-- Filling entries leaves what is behind the tenth. -/
theorem foldl_entries_drop {f : List UInt8 → Nat → List UInt8}
    (hf : ∀ table i, i < fdtBaseUpdateEntries → (f table i).drop 20 = table.drop 20) {n : Nat}
    (hn : n ≤ fdtBaseUpdateEntries) (table : List UInt8) :
    ((List.range n).foldl f table).drop 20 = table.drop 20 := by
  induction n with
  | zero => rfl
  | succ n ih =>
      rw [List.range_succ, List.foldl_append]
      exact (hf _ n hn).trans (ih (Nat.le_of_succ_le hn))

theorem fdtDownbaseFromRaw_drop (raw table : List UInt8) :
    (fdtDownbaseFromRaw raw table).drop 20 = table.drop 20 := by
  unfold fdtDownbaseFromRaw
  split
  · rfl
  · exact foldl_entries_drop (fun table i hi => setLe16_drop hi table _) (Nat.min_le_right _ _)
      table

theorem fdtUpbaseFromRaw_drop (touchflag : UInt16) (secondFlag diffUse : Bool) (dacOffset : Int16)
    (raw table : List UInt8) :
    (fdtUpbaseFromRaw touchflag secondFlag diffUse dacOffset raw table).drop 20 =
      table.drop 20 := by
  unfold fdtUpbaseFromRaw
  split
  · rfl
  · exact foldl_entries_drop (fun table i hi => setLe16_drop hi table _) (Nat.min_le_right _ _)
      table

/-- What a frame does to the tables: all of it, or nothing. -/
theorem fdtBaseTableUpdateFromFrame_cases (state : FdtCmdState) (frame : FrameParsed) :
    (¬ frame.FdtDecides ∧ fdtBaseTableUpdateFromFrame state frame = (true, state)) ∨
    (frame.FdtDecides ∧ ¬ frame.FdtBase ∧
      fdtBaseTableUpdateFromFrame state frame = (false, state)) ∨
    (frame.FdtDecides ∧ frame.FdtBase ∧ ∃ downTable upTable upRound,
      fdtBaseTableUpdateFromFrame state frame =
        (true, { state with downTable, upTable, upRound }) ∧
      downTable.drop 20 = state.downTable.drop 20 ∧ upTable.drop 20 = state.upTable.drop 20) := by
  unfold fdtBaseTableUpdateFromFrame
  dsimp only
  by_cases hdown : le16At frame.payload 0 = fdtStatusIrqDownGetUpBase
  · have hdecides : frame.FdtDecides := Or.inl hdown
    right
    rw [if_pos hdown]
    split
    · rename_i hshort
      exact Or.inl ⟨hdecides, fun hbase => absurd hbase.1 (Nat.not_le.mpr hshort), rfl⟩
    · rename_i hlong
      split
      · rename_i hbad
        exact Or.inl ⟨hdecides, fun hbase => hbad hbase.2, rfl⟩
      · rename_i hgood
        refine Or.inr ⟨hdecides, ⟨Nat.not_lt.mp hlong, not_not.mp hgood⟩, ?_⟩
        exact ⟨state.downTable, _, _, rfl, rfl, fdtUpbaseFromRaw_drop ..⟩
  · rw [if_neg hdown]
    by_cases hup : le16At frame.payload 0 = fdtStatusIrqUpGetDownBase ∨
        le16At frame.payload 0 = fdtStatusIrqReverse0 ∨
        le16At frame.payload 0 = fdtStatusIrqReverse2
    · have hdecides : frame.FdtDecides := Or.inr hup
      right
      rw [if_pos hup]
      split
      · rename_i hshort
        exact Or.inl ⟨hdecides, fun hbase => absurd hbase.1 (Nat.not_le.mpr hshort), rfl⟩
      · rename_i hlong
        split
        · rename_i hbad
          exact Or.inl ⟨hdecides, fun hbase => hbad hbase.2, rfl⟩
        · rename_i hgood
          refine Or.inr ⟨hdecides, ⟨Nat.not_lt.mp hlong, not_not.mp hgood⟩, ?_⟩
          exact ⟨_, state.upTable, state.upRound, rfl, fdtDownbaseFromRaw_drop .., rfl⟩
    · rw [if_neg hup]
      exact Or.inl ⟨fun hdecides => hdecides.elim hdown hup, rfl⟩

theorem fdtBaseTableUpdateFromFrame_padded {state : FdtCmdState} (h : state.Padded)
    (frame : FrameParsed) : (fdtBaseTableUpdateFromFrame state frame).2.Padded := by
  rcases fdtBaseTableUpdateFromFrame_cases state frame with
    ⟨-, heq⟩ | ⟨-, -, heq⟩ | ⟨-, -, downTable, upTable, upRound, heq, hdown, hup⟩
  · rw [heq]
    exact h
  · rw [heq]
    exact h
  · rw [heq]
    exact { h with down := hdown.trans h.down, up := hup.trans h.up }

/-! ### One call -/

section Calls

variable {σ : Type} (sys : Sys σ) (dev : Dev)

/-- Arming copies the down table, whatever becomes of the commands. -/
theorem fdtFlowArm_flow (send : Dev → FdtCmdState → σ → Except Errno Unit × Dev × σ)
    (flow : FdtFlow) (s : σ) :
    (fdtFlowArm sys dev send flow s).2.1 = { flow with cmd := flow.cmd.armed } := by
  unfold fdtFlowArm
  split
  · rename_i heq
    injection heq with _ heq
    injection heq with hcmd _
    rw [← hcmd]
  · rename_i heq
    injection heq with _ heq
    injection heq with hcmd _
    rw [← hcmd]

/-- Setting a mode gets there, or leaves the mode it found. -/
theorem fdtFlowSetMode_cases (flow : FdtFlow) (mode : FdtMode) (s : σ) :
    ∃ cmd, (cmd = flow.cmd ∨ cmd = flow.cmd.armed) ∧
      ((fdtFlowSetMode sys dev flow mode s).1 = .ok () ∧
          (fdtFlowSetMode sys dev flow mode s).2.1 = { flow with cmd, mode } ∨
        ∃ e, (fdtFlowSetMode sys dev flow mode s).1 = .error e ∧
          (fdtFlowSetMode sys dev flow mode s).2.1 = { flow with cmd }) := by
  have harm : ∀ send, (fdtFlowArm sys dev send flow s).2.1 = { flow with cmd := flow.cmd.armed } :=
    fun send => fdtFlowArm_flow sys dev send flow s
  unfold fdtFlowSetMode
  split
  · rename_i hsame
    refine ⟨flow.cmd, Or.inl rfl, Or.inl ⟨rfl, ?_⟩⟩
    rw [hsame]
  · cases mode with
    | idle => exact ⟨flow.cmd, Or.inl rfl, Or.inl ⟨rfl, rfl⟩⟩
    | waitDown =>
        have hflow := harm (cmdFdtSendDown sys)
        refine ⟨flow.cmd.armed, Or.inr rfl, ?_⟩
        rcases hout : fdtFlowArm sys dev (cmdFdtSendDown sys) flow s with ⟨_ | _, flow', dev', s'⟩
        · rw [hout] at hflow
          exact Or.inr ⟨_, rfl, hflow⟩
        · rw [hout] at hflow
          dsimp only at hflow ⊢
          rw [hflow]
          exact Or.inl ⟨rfl, rfl⟩
    | waitUp =>
        have hflow := harm (cmdFdtSendUp sys)
        refine ⟨flow.cmd.armed, Or.inr rfl, ?_⟩
        rcases hout : fdtFlowArm sys dev (cmdFdtSendUp sys) flow s with ⟨_ | _, flow', dev', s'⟩
        · rw [hout] at hflow
          exact Or.inr ⟨_, rfl, hflow⟩
        · rw [hout] at hflow
          dsimp only at hflow ⊢
          rw [hflow]
          exact Or.inl ⟨rfl, rfl⟩
    | other value => exact ⟨flow.cmd, Or.inl rfl, Or.inr ⟨_, rfl, rfl⟩⟩

end Calls

end Gxfp
