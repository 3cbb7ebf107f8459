/-
The base tables with their array accesses checked.

`fdt_update_state_from_record` reads raw base values behind four bytes of a payload and
writes what it makes of them into tables of 24 bytes.  That the payload has its first two
bytes is checked there, and that it has the next two only where they are needed.  The
raw values are cut to the ten entries that a table takes.
-/
import Gxfp.Bounds.Receive
import Gxfp.Flow.Fdt

namespace Gxfp.Bounds

open Bytes Checked

/-- The tables have the sizes of the arrays that they are. -/
structure SizedTables (state : FdtCmdState) : Prop where
  down : state.downTable.length = fdtBaseTableLen
  up : state.upTable.length = fdtBaseTableLen
  manual : state.manualTable.length = fdtBaseTableLen

/-- `struct gxfp_cmd_fdt_state`, with the sizes of its tables. -/
structure FdtTables extends FdtCmdState where
  sized : SizedTables toFdtCmdState

/-- The loop of `fdt_base_valid`, from `i` on. -/
def fdtEntriesValid (raw : List UInt8) (i : Nat) : Check Bool :=
  if i + 1 < raw.length then do
    let value ← le16At raw i
    let half := (value >>> 1).toUInt8
    if half = 0x00 ∨ half = 0xFF then pure false else fdtEntriesValid raw (i + 2)
  else pure true
termination_by raw.length - i

/-- `fdt_base_valid` -/
def fdtBaseValid (raw : List UInt8) : Check Bool :=
  if raw.length < 2 then pure false else fdtEntriesValid raw 0

/-- The two bytes of entry `i` of a table. -/
def setLe16 (table : List UInt8) (i : Nat) (w : UInt16) : Check (List UInt8) := do
  let table ← store table (i * 2) [loByte w.toNat]
  store table (i * 2 + 1) [hiByte w.toNat]

/-- `fdt_downbase_from_raw` -/
def fdtDownbaseFromRaw (raw table : List UInt8) : Check (List UInt8) :=
  if raw.length < 2 then pure table
  else
    (List.range (fdtEntries raw)).foldlM (fun table i => do
      let value ← le16At raw (i * 2)
      setLe16 table i (((value >>> 1) <<< 8) ||| 0x80)) table

/-- `fdt_upbase_from_raw` -/
def fdtUpbaseFromRaw (touchflag : UInt16) (secondFlag diffUse : Bool) (dacOffset : Int16)
    (raw table : List UInt8) : Check (List UInt8) :=
  if raw.length < 2 then pure table
  else do
    let merged ← slice table 0 fdtBaseTableLen
    let merged ← (List.range (fdtEntries raw)).foldlM (fun merged i => do
      let value ← le16At raw (i * 2)
      let encoded := fdtUpEncoded touchflag secondFlag dacOffset value i
      let prev ← le16At merged (i * 2)
      setLe16 merged i (if diffUse ∧ prev < encoded then prev else encoded)) merged
    store table 0 merged

/-- The raw base values of a frame, in `fdt_base_table_update_from_frame`. -/
def fdtRawBase (payload : List UInt8) : Check (List UInt8) := do
  let rawLen ← diff payload.length 4
  slice payload 4 (min rawLen (fdtBaseUpdateEntries * 2))

/-- `fdt_base_table_update_from_frame` -/
def fdtBaseTableUpdateFromFrame (state : FdtCmdState) (frame : FrameParsed) :
    Check (Bool × FdtCmdState) := do
  let irqStatus ← le16At frame.payload 0
  if irqStatus = fdtStatusIrqDownGetUpBase then
    if frame.payload.length < 4 then pure (false, state)
    else
      let touchflag ← le16At frame.payload 2
      let rawBase ← fdtRawBase frame.payload
      let valid ← fdtBaseValid rawBase
      if ¬ valid then pure (false, state)
      else
        let secondFlag := if state.upNeedTwice then state.upRound else state.upSecondFlag
        let upRound := if state.upNeedTwice then !state.upRound else state.upRound
        let upTable ← fdtUpbaseFromRaw touchflag secondFlag state.upDiffUse state.upDacOffset
          rawBase state.upTable
        pure (true, { state with upTable, upRound })
  else if irqStatus = fdtStatusIrqUpGetDownBase ∨ irqStatus = fdtStatusIrqReverse0 ∨
      irqStatus = fdtStatusIrqReverse2 then
    if frame.payload.length < 4 then pure (false, state)
    else
      let rawBase ← fdtRawBase frame.payload
      let valid ← fdtBaseValid rawBase
      if ¬ valid then pure (false, state)
      else
        let downTable ← fdtDownbaseFromRaw rawBase state.downTable
        pure (true, { state with downTable })
  else pure (true, state)

/-- `fdt_update_state_from_record` -/
def fdtUpdateStateFromRecord (state : FdtCmdState) (tapHdr : TapHdr) (payload : List UInt8) :
    Check (Except Errno (UInt16 × Bool) × FdtCmdState) :=
  if tapHdr.type ≠ mpTypeCmd.toUInt32 ∧ tapHdr.type ≠ mpTypeNotice.toUInt32 then
    pure (.error .noent, state)
  else do
    match ← parseGoodixBody payload with
    | none => pure (.error .noent, state)
    | some frame =>
      if ¬ frame.valid then pure (.error .noent, state)
      else if frame.payload.length < 2 then pure (.error .noent, state)
      else if frame.cmd ≠ cmdFdtStatus ∧ frame.cmd ≠ cmdFdtDown ∧ frame.cmd ≠ cmdFdtMode ∧
          frame.cmd ≠ cmdFdtUp then pure (.error .noent, state)
      else
        let state := if state.baseTableInited then state else cmdFdtStateInit
        let (baseValid, state) ← fdtBaseTableUpdateFromFrame state frame
        let status ← le16At frame.payload 0
        pure (.ok (status, baseValid), state)

/-! ### In bounds -/

theorem fdtEntriesValid_eq (raw : List UInt8) (i : Nat) :
    fdtEntriesValid raw i = .ok (Gxfp.fdtEntriesValid (raw.drop i)) := by
  fun_induction fdtEntriesValid raw i with
  | case1 i hlt ih =>
      have hdrop : raw.drop i = byteAt raw i :: byteAt raw (i + 1) :: raw.drop (i + 2) := by
        rw [List.drop_eq_getElem_cons (Nat.lt_of_succ_lt hlt), List.drop_eq_getElem_cons hlt]
        simp [byteAt, List.getD_eq_getElem?_getD, hlt, Nat.lt_of_succ_lt hlt]
      rw [le16At_eq hlt, ok_bind, ih, hdrop, Gxfp.fdtEntriesValid]
      exact (apply_ite Except.ok _ false _).symm
  | case2 i hge =>
      have hshort : (raw.drop i).length < 2 := by
        rw [List.length_drop]
        omega
      rcases hdrop : raw.drop i with _ | ⟨lo, _ | ⟨hi, rest⟩⟩
      · rfl
      · rfl
      · rw [hdrop, List.length_cons, List.length_cons] at hshort
        omega

theorem fdtBaseValid_eq (raw : List UInt8) : fdtBaseValid raw = .ok (Gxfp.fdtBaseValid raw) := by
  unfold fdtBaseValid Gxfp.fdtBaseValid
  exact ite_eq_ok (fun _ => rfl) fun _ => fdtEntriesValid_eq raw 0

theorem setLe16_eq {table : List UInt8} {i : Nat} (h : i * 2 + 1 < table.length) (w : UInt16) :
    setLe16 table i w = .ok (Gxfp.setLe16 table i w) := by
  have hlo : i * 2 + [loByte w.toNat].length ≤ table.length := Nat.le_of_lt h
  have hhi : i * 2 + 1 + [hiByte w.toNat].length ≤
      (table.set (i * 2) (loByte w.toNat)).length := by
    rw [List.length_set]
    exact h
  rw [setLe16, store_of_le hlo, ok_bind, overwrite_one (by omega), store_of_le hhi,
    overwrite_one (by rw [List.length_set]; exact h)]
  rfl

theorem length_setLe16 (table : List UInt8) (i : Nat) (w : UInt16) :
    (Gxfp.setLe16 table i w).length = table.length := by
  simp [Gxfp.setLe16]

theorem fdtEntries_le (raw : List UInt8) :
    fdtEntries raw ≤ fdtBaseUpdateEntries ∧ fdtEntries raw * 2 ≤ raw.length := by
  unfold fdtEntries
  omega

/-- **Filling the entries of a table stays within it, and keeps its size.** -/
theorem foldlM_setLe16 {raw table : List UInt8} (htable : table.length = fdtBaseTableLen)
    {step : List UInt8 → Nat → Check (List UInt8)} {word : List UInt8 → Nat → UInt16}
    (hstep : ∀ i, i * 2 + 1 < raw.length → ∀ t : List UInt8, i * 2 + 1 < t.length →
      step t i = setLe16 t i (word t i)) :
    (List.range (fdtEntries raw)).foldlM step table =
        .ok ((List.range (fdtEntries raw)).foldl (fun t i => Gxfp.setLe16 t i (word t i)) table) ∧
      ((List.range (fdtEntries raw)).foldl (fun t i => Gxfp.setLe16 t i (word t i)) table).length =
        fdtBaseTableLen := by
  refine foldlM_eq (fun t : List UInt8 => t.length = fdtBaseTableLen) (fun i hi t ht => ?_) htable
  have hlt : i < fdtEntries raw := List.mem_range.mp hi
  obtain ⟨hten, hraw⟩ := fdtEntries_le raw
  have hfit : i * 2 + 1 < t.length := by
    rw [ht]
    have : i < 10 := Nat.lt_of_lt_of_le hlt hten
    show i * 2 + 1 < 24
    omega
  rw [hstep i (by omega) t hfit, setLe16_eq hfit, length_setLe16]
  exact ⟨rfl, ht⟩

theorem fdtDownbaseFromRaw_eq (raw : List UInt8) {table : List UInt8}
    (htable : table.length = fdtBaseTableLen) :
    fdtDownbaseFromRaw raw table = .ok (Gxfp.fdtDownbaseFromRaw raw table) ∧
      (Gxfp.fdtDownbaseFromRaw raw table).length = fdtBaseTableLen := by
  unfold fdtDownbaseFromRaw Gxfp.fdtDownbaseFromRaw
  by_cases hshort : raw.length < 2
  · rw [if_pos hshort, if_pos hshort]
    exact ⟨rfl, htable⟩
  · rw [if_neg hshort, if_neg hshort]
    refine foldlM_setLe16 htable fun i hraw t ht => ?_
    rw [le16At_eq hraw, ok_bind]

/-- What `fdt_upbase_from_raw` puts into entry `i`. -/
def fdtUpMerged (touchflag : UInt16) (secondFlag diffUse : Bool) (dacOffset : Int16)
    (raw merged : List UInt8) (i : Nat) : UInt16 :=
  let encoded := fdtUpEncoded touchflag secondFlag dacOffset (Bytes.le16At raw (i * 2)) i
  let prev := Bytes.le16At merged (i * 2)
  if diffUse ∧ prev < encoded then prev else encoded

theorem fdtUpbaseFromRaw_eq (touchflag : UInt16) (secondFlag diffUse : Bool) (dacOffset : Int16)
    (raw : List UInt8) {table : List UInt8} (htable : table.length = fdtBaseTableLen) :
    fdtUpbaseFromRaw touchflag secondFlag diffUse dacOffset raw table =
        .ok (Gxfp.fdtUpbaseFromRaw touchflag secondFlag diffUse dacOffset raw table) ∧
      (Gxfp.fdtUpbaseFromRaw touchflag secondFlag diffUse dacOffset raw table).length =
        fdtBaseTableLen := by
  unfold fdtUpbaseFromRaw Gxfp.fdtUpbaseFromRaw
  by_cases hshort : raw.length < 2
  · rw [if_pos hshort, if_pos hshort]
    exact ⟨rfl, htable⟩
  · rw [if_neg hshort, if_neg hshort, slice_start (Nat.le_of_eq htable.symm), ok_bind, ← htable,
      List.take_length, htable]
    have hstep : ∀ i, i * 2 + 1 < raw.length → ∀ t : List UInt8, i * 2 + 1 < t.length →
        (do
          let value ← le16At raw (i * 2)
          let encoded := fdtUpEncoded touchflag secondFlag dacOffset value i
          let prev ← le16At t (i * 2)
          setLe16 t i (if diffUse ∧ prev < encoded then prev else encoded)) =
        setLe16 t i (fdtUpMerged touchflag secondFlag diffUse dacOffset raw t i) := by
      intro i hraw t ht
      rw [le16At_eq hraw, ok_bind, le16At_eq ht, ok_bind]
      rfl
    obtain ⟨hmerged, hlen⟩ := foldlM_setLe16 htable hstep
    rw [hmerged, ok_bind, store_of_le (by omega), overwrite_all (by omega)]
    exact ⟨rfl, hlen⟩

theorem fdtRawBase_eq {payload : List UInt8} (h : 4 ≤ payload.length) :
    fdtRawBase payload = .ok ((payload.drop 4).take (fdtBaseUpdateEntries * 2)) := by
  have hrest : (payload.drop 4).length = payload.length - 4 := List.length_drop
  rw [fdtRawBase, diff_of_le h, ok_bind, slice_of_le (by omega), ← hrest, Nat.min_comm,
    ← List.take_take, List.take_length]

theorem fdtBaseTableUpdateFromFrame_eq {state : FdtCmdState} (hstate : SizedTables state)
    {frame : FrameParsed} (htwo : 2 ≤ frame.payload.length) :
    fdtBaseTableUpdateFromFrame state frame =
        .ok (Gxfp.fdtBaseTableUpdateFromFrame state frame) ∧
      SizedTables (Gxfp.fdtBaseTableUpdateFromFrame state frame).2 := by
  unfold fdtBaseTableUpdateFromFrame Gxfp.fdtBaseTableUpdateFromFrame
  rw [le16At_eq (by omega), ok_bind]
  by_cases hdown : Bytes.le16At frame.payload 0 = fdtStatusIrqDownGetUpBase
  · simp only [if_pos hdown]
    by_cases hshort : frame.payload.length < 4
    · simp only [if_pos hshort]
      exact ⟨rfl, hstate⟩
    simp only [if_neg hshort]
    rw [le16At_eq (by omega), ok_bind, fdtRawBase_eq (by omega), ok_bind, fdtBaseValid_eq, ok_bind]
    split
    · exact ⟨rfl, hstate⟩
    · obtain ⟨htable, hlen⟩ := fdtUpbaseFromRaw_eq (Bytes.le16At frame.payload 2)
        (if state.upNeedTwice then state.upRound else state.upSecondFlag) state.upDiffUse
        state.upDacOffset ((frame.payload.drop 4).take (fdtBaseUpdateEntries * 2)) hstate.up
      rw [htable, ok_bind]
      exact ⟨rfl, { hstate with up := hlen }⟩
  simp only [if_neg hdown]
  by_cases hup : Bytes.le16At frame.payload 0 = fdtStatusIrqUpGetDownBase ∨
      Bytes.le16At frame.payload 0 = fdtStatusIrqReverse0 ∨
      Bytes.le16At frame.payload 0 = fdtStatusIrqReverse2
  · simp only [if_pos hup]
    by_cases hshort : frame.payload.length < 4
    · simp only [if_pos hshort]
      exact ⟨rfl, hstate⟩
    simp only [if_neg hshort]
    rw [fdtRawBase_eq (by omega), ok_bind, fdtBaseValid_eq, ok_bind]
    split
    · exact ⟨rfl, hstate⟩
    · obtain ⟨htable, hlen⟩ := fdtDownbaseFromRaw_eq
        ((frame.payload.drop 4).take (fdtBaseUpdateEntries * 2)) hstate.down
      rw [htable, ok_bind]
      exact ⟨rfl, { hstate with down := hlen }⟩
  · simp only [if_neg hup]
    exact ⟨rfl, hstate⟩

/-- A payload of one byte is read past its end: that it has two is for the caller to check. -/
example : fdtBaseTableUpdateFromFrame cmdFdtStateInit
    (GoodixFrame.built cmdFdtStatus [0x02] (by decide)).parsed = .error (.read 1 1 1) := rfl

theorem fdtUpdateStateFromRecord_eq {state : FdtCmdState} (hstate : SizedTables state)
    (tapHdr : TapHdr) (payload : List UInt8) :
    fdtUpdateStateFromRecord state tapHdr payload =
        .ok (Gxfp.fdtUpdateStateFromRecord state tapHdr payload) ∧
      SizedTables (Gxfp.fdtUpdateStateFromRecord state tapHdr payload).2 := by
  unfold fdtUpdateStateFromRecord Gxfp.fdtUpdateStateFromRecord
  split
  · exact ⟨rfl, hstate⟩
  rw [parseGoodixBody_eq, ok_bind]
  rcases Gxfp.parseGoodixBody payload with _ | frame
  · exact ⟨rfl, hstate⟩
  dsimp only
  split
  · exact ⟨rfl, hstate⟩
  split
  · exact ⟨rfl, hstate⟩
  rename_i htwo
  split
  · exact ⟨rfl, hstate⟩
  have hinit : SizedTables (if state.baseTableInited then state else cmdFdtStateInit) := by
    split
    · exact hstate
    · exact ⟨rfl, rfl, rfl⟩
  obtain ⟨hupdate, hsized⟩ := fdtBaseTableUpdateFromFrame_eq hinit (Nat.le_of_not_lt htwo)
  rw [hupdate, ok_bind, le16At_eq (by omega)]
  exact ⟨rfl, hsized⟩

end Gxfp.Bounds
