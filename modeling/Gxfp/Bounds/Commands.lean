/-
The receive path stays in bounds: what the commands take out of an answer.

`presetPskSelector` and `presetPskData` take nine bytes off a length that they compare
with nine before, and the length that the device gives of its blob is compared with
what is left and with the room for it.  The OTP and a register go into the caller's
buffer, the state of the controller into a record of fixed offsets.

`receive_inBounds` puts the whole path together.
-/
import Gxfp.Bounds.Fdt
import Gxfp.Bounds.Plain
import Gxfp.Cmd.Queries
import Gxfp.Cmd.Register
import Gxfp.Algo.Otp

namespace Gxfp.Bounds

open Bytes Checked

/-- `gxfp_le32` of the bytes from an index on. -/
def le32At (p : List UInt8) (i : Nat) : Check UInt32 := do
  let b0 ← fetch p i
  let b1 ← fetch p (i + 1)
  let b2 ← fetch p (i + 2)
  let b3 ← fetch p (i + 3)
  pure (b0.toUInt32 ||| (b1.toUInt32 <<< 8) ||| (b2.toUInt32 <<< 16) ||| (b3.toUInt32 <<< 24))

/-- `preset_psk_selector` -/
def presetPskSelector (wantDataType : Option UInt32) : FrameSelector := fun frame =>
  if frame.payload.length < 9 then pure (.ok false)
  else do
    let first ← fetch frame.payload 0
    if first ≠ 0 then pure (.error .io)
    else
      let dataType ← le32At frame.payload 1
      let dataLen ← le32At frame.payload 5
      let room ← diff frame.payload.length 9
      if room < dataLen.toNat then pure (.error .badmsg)
      else
        match wantDataType with
        | some want => if want ≠ 0 ∧ dataType ≠ want then pure (.ok false) else pure (.ok true)
        | none => pure (.ok true)

/-- `gxfp_cmd_preset_psk_read`, behind the request. -/
def presetPskData (dataType : UInt32) (data rx : List UInt8) :
    Check (Except Errno (List UInt8)) := do
  match ← parseGoodixBody rx with
  | none => pure (.error .badmsg)
  | some frame =>
    if ¬ frame.valid then pure (.error .badmsg)
    else if frame.cmd ≠ presetPskReadCmd then pure (.error .badmsg)
    else if frame.payload.length < 9 then pure (.error .badmsg)
    else
      let first ← fetch frame.payload 0
      if first ≠ 0 then pure (.error .io)
      else
        let type ← le32At frame.payload 1
        if type ≠ dataType then pure (.error .nodata)
        else
          let payloadLen ← le32At frame.payload 5
          let room ← diff frame.payload.length 9
          if room < payloadLen.toNat then pure (.error .badmsg)
          else if data.length < payloadLen.toNat then pure (.error .msgsize)
          else
            let data ← copy data 0 frame.payload 9 payloadLen.toNat
            let out ← slice data 0 payloadLen.toNat
            pure (.ok out)

/-- `gxfp_cmd_read_otp`, behind the request. -/
def otpData (otp rx : List UInt8) : Check (Except Errno (List UInt8)) := do
  match ← parseGoodixBody rx with
  | none => pure (.error .badmsg)
  | some frame =>
    if otp.length < frame.payload.length then pure (.error .msgsize)
    else
      let otp ← (List.range frame.payload.length).foldlM (fun otp i => do
        let b ← fetch frame.payload i
        store otp i [b]) otp
      let out ← slice otp 0 frame.payload.length
      pure (.ok out)

/-- `gxfp_milang_crc8` -/
def milangCrc8 (data : List UInt8) (len : Nat) : Check UInt8 := do
  let crc ← (List.range len).foldlM (fun crc i => do
    let b ← fetch data i
    pure (Nat.repeat crc8Bit 8 (crc ^^^ b))) 0
  pure (~~~ crc)

/-- The bytes that add up to zero. -/
def otpCpSum (otp : List UInt8) : Check UInt8 := do
  let cpSum ← (List.range 8).foldlM (fun cpSum i => do
    let b ← fetch otp i
    pure (cpSum + b)) 0
  let b0 ← fetch otp 0x12
  let b1 ← fetch otp 0x13
  let b2 ← fetch otp 0x1D
  pure (cpSum + b0 + b1 + b2)

/-- The bytes under the CRC. -/
def otpFtBuf (otp : List UInt8) : Check (List UInt8) := do
  let ftBuf ← copy (zeros 0x16) 0 otp 0 0x11
  let ftBuf ← store ftBuf 0x11 [← fetch otp 0x12]
  let ftBuf ← store ftBuf 0x12 [← fetch otp 0x13]
  let ftBuf ← store ftBuf 0x13 [← fetch otp 0x1C]
  let ftBuf ← store ftBuf 0x14 [← fetch otp 0x1D]
  store ftBuf 0x15 [← fetch otp 0x1F]

/-- `gxfp_milang_check_otp` -/
def milangCheckOtp (otp : List UInt8) : Check (Except Errno MilangOtpCheck) :=
  if otp.length < otpMinLen then pure (.error .badmsg)
  else do
    let cpSum ← otpCpSum otp
    if cpSum ≠ 0 then pure (.error .badmsg)
    else
      let ftBuf ← otpFtBuf otp
      let crc ← milangCrc8 ftBuf 0x16
      let ftCrc ← fetch otp otpIdxFtCrc
      if crc ≠ ftCrc then pure (.error .badmsg)
      else
        let tcode ← fetch otp otpIdxTcode
        let tcodeBak ← fetch otp otpIdxTcodeNeg
        let tcodeAlt ← fetch otp otpIdxTcodeAlt
        match otpVote tcode tcodeBak tcodeAlt with
        | none => pure (.error .badmsg)
        | some tcodeRaw =>
          let dac ← fetch otp otpIdxDac
          let dacBak ← fetch otp otpIdxDacBak
          let dacNeg ← fetch otp otpIdxDacNeg
          match otpVote dacNeg dacBak dac with
          | none => pure (.error .badmsg)
          | some dacRaw => pure (.ok { tcodeRaw, dacRaw })

/-- `gxfp_milang_parse_otp` -/
def milangParseOtp (otp : List UInt8) : Check (Except Errno MilangOtpCfg) := do
  match ← milangCheckOtp otp with
  | .error e => pure (.error e)
  | .ok check =>
    if otpTcodeReg check.tcodeRaw = 0 then pure (.error .badmsg)
    else pure (.ok
      { tcode := otpTcodeReg check.tcodeRaw
        fdtDelta := otpFdtDelta check.tcodeRaw
        dac := (check.dacRaw.toUInt16 <<< 4) ||| 0x0008
        hasDac := true
        hasTcodeDelta := true })

/-- `gxfp_mcu_state_parse` -/
def mcuStateParse (buf : List UInt8) : Check (Except Errno McuState) :=
  if buf.length < mcuStateLen then pure (.error .badmsg)
  else do
    let b0 ← fetch buf 0
    let b1 ← fetch buf 1
    let b2 ← fetch buf 2
    let raw3To8 ← copy (zeros 6) 0 buf 3 6
    let b9 ← fetch buf 9
    let raw10To14 ← copy (zeros 5) 0 buf 10 5
    let b15 ← fetch buf 15
    let raw16To19 ← copy (zeros 4) 0 buf 16 4
    pure (.ok {
      version := b0
      b1Raw := b1
      isPovImageValid := (b1 >>> 0) &&& 1
      isTlsConnected := (b1 >>> 1) &&& 1
      isLocked := (b1 >>> 3) &&& 1
      capturedNumHi := (b2 >>> 4) &&& 0x0F
      capturedNumLo := b2 &&& 0x0F
      raw3To8
      byte9Raw := b9
      flags9Pba := (b9 >>> 4) &&& 1
      flags9TlsSession := (b9 >>> 5) &&& 1
      flags9Pov := (b9 >>> 6) &&& 1
      flags9Low := b9 &&& 0x0F
      raw10To14
      byte15Raw := b15
      raw16To19 })

/-- `gxfp_mcu_state_query`, behind the request. -/
def mcuStateData (rx : List UInt8) : Check (Except Errno McuState) := do
  match ← parseGoodixBody rx with
  | none => pure (.error .badmsg)
  | some frame =>
    if ¬ frame.valid ∨ frame.cmd ≠ queryMcuStateCmd ∨ frame.payload.length < mcuStateLen then
      pure (.error .badmsg)
    else mcuStateParse frame.payload

section Commands

variable {σ : Type} (sys : Sys σ) (dev : Dev) (tapBuf : List.Vector UInt8 tapCap) (fuel : Nat)

/-- `gxfp_cmd_preset_psk_read`, with its `rx` and the caller's `data`. -/
def cmdPresetPskRead (rx : List.Vector UInt8 mpFrameMax) (dataType : UInt32)
    (data : List UInt8) (s : σ) : Check (Option (Except Errno (List UInt8) × Dev × σ)) :=
  if data.length = 0 then pure (some (.error .inval, dev, s))
  else do
    match ← goodixRequestSelected sys dev tapBuf fuel presetPskReadCmd presetPskReadCmd
      (le32Bytes dataType ++ zeros 4) rx.toList 4 2000 (presetPskSelector (some dataType)) s with
    | none => pure none
    | some (.error e, dev, s) => pure (some (.error e, dev, s))
    | some (.ok rx, dev, s) =>
      let r ← presetPskData dataType data rx
      pure (some (r, dev, s))

/-- `gxfp_cmd_read_otp`, with its `rx` and the caller's `otp`. -/
def cmdReadOtp (rx : List.Vector UInt8 mpFrameMax) (otp : List UInt8) (s : σ) :
    Check (Option (Except Errno (List UInt8) × Dev × σ)) :=
  if otp.length = 0 then pure (some (.error .inval, dev, s))
  else do
    match ← goodixRequestSelected sys dev tapBuf fuel readOtpCmd readOtpCmd [0x00, 0x00]
      rx.toList 8 500 selectAnyFrame s with
    | none => pure none
    | some (.error e, dev, s) => pure (some (.error e, dev, s))
    | some (.ok rx, dev, s) =>
      let r ← otpData otp rx
      pure (some (r, dev, s))

/-- `gxfp_cmd_read_reg`, with its `rx` and the caller's `out`. -/
def cmdReadReg (rx : List.Vector UInt8 mpFrameMax) (reg outLen : UInt16)
    (out : List.Vector UInt8 outLen.toNat) (s : σ) :
    Check (Option (Except Errno (List UInt8) × Dev × σ)) :=
  if outLen = 0 then pure (some (.error .inval, dev, s))
  else do
    match ← goodixRequestSelected sys dev tapBuf fuel cmdRegRead cmdRegRead
      (regReadPayload reg outLen) rx.toList 3 500 selectAnyFrame s with
    | none => pure none
    | some (.error e, dev, s) => pure (some (.error e, dev, s))
    | some (.ok rx, dev, s) =>
      match ← parseGoodixBody rx with
      | none => pure (some (.error .badmsg, dev, s))
      | some frame =>
        if frame.payload.length < outLen.toNat then pure (some (.error .badmsg, dev, s))
        else
          let out ← copy out.toList 0 frame.payload 0 outLen.toNat
          pure (some (.ok out, dev, s))

/-- `gxfp_mcu_state_query`, with what `malloc` returns. -/
def mcuStateQuery (rx : Option (List.Vector UInt8 4096)) (realtimeNs : Nat) (s : σ) :
    Check (Option (Except Errno McuState × Dev × σ)) :=
  match rx with
  | none => pure (some (.error .nomem, dev, s))
  | some rx => do
    let (_, s) := devFlushRxq sys dev s
    match ← goodixRequestSelected sys dev tapBuf fuel triggerMcuStateCmd queryMcuStateCmd
      (triggerPayload realtimeNs) rx.toList 1 500 selectAnyFrame s with
    | none => pure none
    | some (.error e, dev, s) => pure (some (.error e, dev, s))
    | some (.ok rx, dev, s) =>
      let r ← mcuStateData rx
      pure (some (r, dev, s))

end Commands

/-! ### In bounds -/

theorem le32At_eq {p : List UInt8} {i : Nat} (h : i + 3 < p.length) :
    le32At p i = .ok (Bytes.le32At p i) := by
  rw [le32At, fetch_byteAt (by omega), ok_bind, fetch_byteAt (by omega), ok_bind,
    fetch_byteAt (by omega), ok_bind, fetch_byteAt h]
  rfl

theorem presetPskSelector_eq (wantDataType : Option UInt32) (frame : FrameParsed) :
    presetPskSelector wantDataType frame =
      .ok (Gxfp.presetPskSelector wantDataType frame) := by
  unfold presetPskSelector Gxfp.presetPskSelector
  refine ite_eq_ok (fun _ => rfl) fun hnine => ?_
  rw [fetch_byteAt (by omega), ok_bind]
  refine ite_eq_ok (fun _ => rfl) fun _ => ?_
  rw [le32At_eq (by omega), ok_bind, le32At_eq (by omega), ok_bind, diff_of_le (by omega),
    ok_bind]
  refine ite_eq_ok (fun _ => rfl) fun _ => ?_
  rcases wantDataType with _ | want
  · rfl
  · exact ite_eq_ok (fun _ => rfl) fun _ => rfl

theorem presetPskData_eq (dataType : UInt32) (data rx : List UInt8) :
    presetPskData dataType data rx = .ok (Gxfp.presetPskData dataType data.length rx) := by
  unfold presetPskData Gxfp.presetPskData
  rw [parseGoodixBody_eq, ok_bind]
  rcases Gxfp.parseGoodixBody rx with _ | frame
  · rfl
  refine ite_eq_ok (fun _ => rfl) fun _ => ?_
  refine ite_eq_ok (fun _ => rfl) fun _ => ?_
  refine ite_eq_ok (fun _ => rfl) fun hnine => ?_
  rw [fetch_byteAt (by omega), ok_bind]
  refine ite_eq_ok (fun _ => rfl) fun _ => ?_
  rw [le32At_eq (by omega), ok_bind]
  refine ite_eq_ok (fun _ => rfl) fun _ => ?_
  rw [le32At_eq (by omega), ok_bind, diff_of_le (by omega), ok_bind]
  refine ite_eq_ok (fun _ => rfl) fun hroom => ?_
  refine ite_eq_ok (fun _ => rfl) fun hcap => ?_
  rw [copy_of_le (by omega) (by omega), ok_bind,
    slice_stored (length_drop_take (by omega)) (by omega)]
  rfl

theorem otpData_eq (otp rx : List UInt8) :
    otpData otp rx = .ok (Gxfp.otpData otp.length rx) := by
  unfold otpData Gxfp.otpData
  rw [parseGoodixBody_eq, ok_bind]
  rcases Gxfp.parseGoodixBody rx with _ | frame
  · rfl
  refine ite_eq_ok (fun _ => rfl) fun hcap => ?_
  rw [foldlM_copy otp frame.payload (Nat.le_refl _) (by omega), ok_bind, List.take_length,
    slice_stored rfl (by omega)]
  rfl

theorem milangCrc8_eq {data : List UInt8} {len : Nat} (h : data.length = len) :
    milangCrc8 data len = .ok (Gxfp.milangCrc8 data) := by
  rw [milangCrc8, foldlM_fetch _ _ (Nat.le_of_eq h.symm), ← h, List.take_length]
  rfl

section Otp

variable {otp : List UInt8} (h : otpMinLen ≤ otp.length)

include h

theorem fetch_otp {i : Nat} (hi : i < otpMinLen) : fetch otp i = .ok (byteAt otp i) :=
  fetch_byteAt (Nat.lt_of_lt_of_le hi h)

theorem otpCpSum_eq : otpCpSum otp = .ok (Gxfp.otpCpSum otp) := by
  have height : 8 ≤ otp.length := Nat.le_trans (by decide) h
  have hsum := foldlM_fetch (fun sum b : UInt8 => sum + b) 0 height
  rw [otpCpSum, hsum, ok_bind, fetch_otp h (by decide), ok_bind, fetch_otp h (by decide), ok_bind,
    fetch_otp h (by decide)]
  rfl

theorem length_otpFtBuf : (Gxfp.otpFtBuf otp).length = 0x16 := by
  have hlen : 0x20 ≤ otp.length := h
  rw [Gxfp.otpFtBuf, List.length_append, List.length_take_of_le (by omega)]
  rfl

/-- **The buffer under the CRC is filled to its end.** -/
theorem otpFtBuf_eq : otpFtBuf otp = .ok (Gxfp.otpFtBuf otp) := by
  have hlen : 0x20 ≤ otp.length := h
  have htake : (otp.take 0x11).length = 0x11 := List.length_take_of_le (by omega)
  rw [otpFtBuf, copy_of_le (by omega) (by decide), List.drop_zero, ok_bind,
    fetch_otp h (by decide), ok_bind, store_behind (by rw [htake]) (by simp), ok_bind,
    fetch_otp h (by decide), ok_bind, store_behind (by simp [htake]) (by simp), ok_bind,
    fetch_otp h (by decide), ok_bind, store_behind (by simp [htake]) (by simp), ok_bind,
    fetch_otp h (by decide), ok_bind, store_behind (by simp [htake]) (by simp), ok_bind,
    fetch_otp h (by decide), ok_bind, store_behind (by simp [htake]) (by simp),
    overwrite_all (by simp [htake])]
  simp [Gxfp.otpFtBuf]

end Otp

theorem milangCheckOtp_eq (otp : List UInt8) :
    milangCheckOtp otp = .ok (Gxfp.milangCheckOtp otp) := by
  unfold milangCheckOtp Gxfp.milangCheckOtp
  refine ite_eq_ok (fun _ => rfl) fun hshort => ?_
  have h : otpMinLen ≤ otp.length := Nat.le_of_not_lt hshort
  rw [otpCpSum_eq h, ok_bind]
  refine ite_eq_ok (fun _ => rfl) fun _ => ?_
  rw [otpFtBuf_eq h, ok_bind, milangCrc8_eq (length_otpFtBuf h), ok_bind, fetch_otp h (by decide),
    ok_bind]
  refine ite_eq_ok (fun _ => rfl) fun _ => ?_
  rw [fetch_otp h (by decide), ok_bind, fetch_otp h (by decide), ok_bind,
    fetch_otp h (by decide), ok_bind]
  rcases otpVote (byteAt otp otpIdxTcode) (byteAt otp otpIdxTcodeNeg)
    (byteAt otp otpIdxTcodeAlt) with _ | tcodeRaw
  · rfl
  dsimp only
  rw [fetch_otp h (by decide), ok_bind, fetch_otp h (by decide), ok_bind,
    fetch_otp h (by decide), ok_bind]
  rcases otpVote (byteAt otp otpIdxDacNeg) (byteAt otp otpIdxDacBak)
    (byteAt otp otpIdxDac) with _ | dacRaw
  · rfl
  · rfl

theorem milangParseOtp_eq (otp : List UInt8) :
    milangParseOtp otp = .ok (Gxfp.milangParseOtp otp) := by
  rw [milangParseOtp, milangCheckOtp_eq, ok_bind, Gxfp.milangParseOtp]
  rcases Gxfp.milangCheckOtp otp with e | check
  · rfl
  · exact ite_eq_ok (fun _ => rfl) fun _ => rfl

theorem mcuStateParse_eq (buf : List UInt8) :
    mcuStateParse buf = .ok (Gxfp.mcuStateParse buf) := by
  unfold mcuStateParse Gxfp.mcuStateParse
  refine ite_eq_ok (fun _ => rfl) fun hshort => ?_
  have hlen : 20 ≤ buf.length := Nat.le_of_not_lt hshort
  rw [fetch_byteAt (by omega), ok_bind, fetch_byteAt (by omega), ok_bind,
    fetch_byteAt (by omega), ok_bind, copy_all (by omega) (length_zeros 6), ok_bind,
    fetch_byteAt (by omega), ok_bind, copy_all (by omega) (length_zeros 5), ok_bind,
    fetch_byteAt (by omega), ok_bind, copy_all (by omega) (length_zeros 4)]
  rfl

theorem mcuStateData_eq (rx : List UInt8) : mcuStateData rx = .ok (Gxfp.mcuStateData rx) := by
  rw [mcuStateData, Gxfp.mcuStateData, parseGoodixBody_eq, ok_bind]
  rcases Gxfp.parseGoodixBody rx with _ | frame
  · rfl
  · exact ite_eq_ok (fun _ => rfl) fun _ => mcuStateParse_eq frame.payload

section Commands

variable {σ : Type} {sys : Sys σ} {dev : Dev} {tapBuf : List.Vector UInt8 tapCap} {fuel : Nat}

theorem selectAnyFrame_eq (frame : FrameParsed) :
    selectAnyFrame frame = .ok (Gxfp.selectAnyFrame frame) := rfl

theorem cmdPresetPskRead_eq (rx : List.Vector UInt8 mpFrameMax) (dataType : UInt32)
    (data : List UInt8) (s : σ) :
    cmdPresetPskRead sys dev tapBuf fuel rx dataType data s =
      .ok (Gxfp.cmdPresetPskRead sys dev fuel dataType data.length s) := by
  unfold cmdPresetPskRead Gxfp.cmdPresetPskRead
  refine ite_eq_ok (fun _ => rfl) fun _ => ?_
  rw [goodixRequestSelected_eq (presetPskSelector_eq (some dataType)), ok_bind, rx.toList_length]
  rcases Gxfp.goodixRequestSelected sys dev fuel presetPskReadCmd presetPskReadCmd
    (le32Bytes dataType ++ zeros 4) mpFrameMax 4 2000 (Gxfp.presetPskSelector (some dataType)) s
    with _ | ⟨e | response, dev, s⟩
  · rfl
  · rfl
  · dsimp only
    rw [presetPskData_eq, ok_bind]
    rfl

theorem cmdReadOtp_eq (rx : List.Vector UInt8 mpFrameMax) (otp : List UInt8) (s : σ) :
    cmdReadOtp sys dev tapBuf fuel rx otp s =
      .ok (Gxfp.cmdReadOtp sys dev fuel otp.length s) := by
  unfold cmdReadOtp Gxfp.cmdReadOtp
  refine ite_eq_ok (fun _ => rfl) fun _ => ?_
  rw [goodixRequestSelected_eq selectAnyFrame_eq, ok_bind, rx.toList_length]
  rcases Gxfp.goodixRequestSelected sys dev fuel readOtpCmd readOtpCmd [0x00, 0x00] mpFrameMax 8
    500 Gxfp.selectAnyFrame s with _ | ⟨e | response, dev, s⟩
  · rfl
  · rfl
  · dsimp only
    rw [otpData_eq, ok_bind]
    rfl

theorem cmdReadReg_eq (rx : List.Vector UInt8 mpFrameMax) (reg outLen : UInt16)
    (out : List.Vector UInt8 outLen.toNat) (s : σ) :
    cmdReadReg sys dev tapBuf fuel rx reg outLen out s =
      .ok (Gxfp.cmdReadReg sys dev fuel reg outLen s) := by
  unfold cmdReadReg Gxfp.cmdReadReg
  refine ite_eq_ok (fun _ => rfl) fun _ => ?_
  rw [goodixRequestSelected_eq selectAnyFrame_eq, ok_bind, rx.toList_length]
  rcases Gxfp.goodixRequestSelected sys dev fuel cmdRegRead cmdRegRead
    (regReadPayload reg outLen) mpFrameMax 3 500 Gxfp.selectAnyFrame s
    with _ | ⟨e | response, dev, s⟩
  · rfl
  · rfl
  dsimp only
  rw [parseGoodixBody_eq, ok_bind]
  rcases Gxfp.parseGoodixBody response with _ | frame
  · rfl
  refine ite_eq_ok (fun _ => rfl) fun hshort => ?_
  rw [copy_all (by omega) out.toList_length]
  rfl

theorem mcuStateQuery_eq (rx : Option (List.Vector UInt8 4096)) (realtimeNs : Nat) (s : σ) :
    mcuStateQuery sys dev tapBuf fuel rx realtimeNs s =
      .ok (Gxfp.mcuStateQuery sys dev fuel rx.isSome realtimeNs s) := by
  rcases rx with _ | rx
  · rfl
  unfold mcuStateQuery Gxfp.mcuStateQuery
  rw [if_neg (by simp)]
  dsimp only
  rw [goodixRequestSelected_eq selectAnyFrame_eq, ok_bind, rx.toList_length]
  rcases Gxfp.goodixRequestSelected sys dev fuel triggerMcuStateCmd queryMcuStateCmd
    (triggerPayload realtimeNs) 4096 1 500 Gxfp.selectAnyFrame (devFlushRxq sys dev s).2
    with _ | ⟨e | response, dev, s⟩
  · rfl
  · rfl
  · dsimp only
    rw [mcuStateData_eq, ok_bind]
    rfl

end Commands

/-! ### The receive path -/

/--
The functions of the receive path, each with every access and difference in bounds, and
computing what the unchecked one computes.
-/
structure ReceiveInBounds {σ : Type} (sys : Sys σ) (dev : Dev) : Prop where
  rxAssemble : ∀ (buf : List UInt8) (s : σ),
    Bounds.rxAssemble sys dev buf s = .ok (Gxfp.rxAssemble sys dev buf.length s)
  parseGoodixBody : ∀ buf : List UInt8,
    Bounds.parseGoodixBody buf = .ok (Gxfp.parseGoodixBody buf)
  /-- A payload that is reported lies inside the input. -/
  payload : ∀ (buf : List UInt8) (frame : FrameParsed),
    Gxfp.parseGoodixBody buf = some frame →
      frame.payload = (buf.drop 3).take frame.payload.length ∧
        frame.payload.length + 4 ≤ buf.length
  fdtUpdateStateFromRecord : ∀ (state : FdtTables) (tapHdr : TapHdr) (payload : List UInt8),
    Bounds.fdtUpdateStateFromRecord state.toFdtCmdState tapHdr payload =
        .ok (Gxfp.fdtUpdateStateFromRecord state.toFdtCmdState tapHdr payload) ∧
      SizedTables (Gxfp.fdtUpdateStateFromRecord state.toFdtCmdState tapHdr payload).2
  plainScanChunks : ∀ (alloc : Nat → Bool) (buf : List UInt8) (sink : PlainArrays),
    Bounds.plainScanChunks alloc buf sink.toPlainSink =
        .ok (Gxfp.plainScanChunks alloc buf sink.toPlainSink) ∧
      SizedSink (Gxfp.plainScanChunks alloc buf sink.toPlainSink)
  presetPskSelector : ∀ (wantDataType : Option UInt32) (frame : FrameParsed),
    Bounds.presetPskSelector wantDataType frame = .ok (Gxfp.presetPskSelector wantDataType frame)
  cmdPresetPskRead : ∀ (tapBuf : List.Vector UInt8 tapCap) (fuel : Nat)
    (rx : List.Vector UInt8 mpFrameMax) (dataType : UInt32) (data : List UInt8) (s : σ),
    Bounds.cmdPresetPskRead sys dev tapBuf fuel rx dataType data s =
      .ok (Gxfp.cmdPresetPskRead sys dev fuel dataType data.length s)
  cmdReadOtp : ∀ (tapBuf : List.Vector UInt8 tapCap) (fuel : Nat)
    (rx : List.Vector UInt8 mpFrameMax) (otp : List UInt8) (s : σ),
    Bounds.cmdReadOtp sys dev tapBuf fuel rx otp s =
      .ok (Gxfp.cmdReadOtp sys dev fuel otp.length s)
  milangParseOtp : ∀ otp : List UInt8, Bounds.milangParseOtp otp = .ok (Gxfp.milangParseOtp otp)
  cmdReadReg : ∀ (tapBuf : List.Vector UInt8 tapCap) (fuel : Nat)
    (rx : List.Vector UInt8 mpFrameMax) (reg outLen : UInt16)
    (out : List.Vector UInt8 outLen.toNat) (s : σ),
    Bounds.cmdReadReg sys dev tapBuf fuel rx reg outLen out s =
      .ok (Gxfp.cmdReadReg sys dev fuel reg outLen s)
  mcuStateQuery : ∀ (tapBuf : List.Vector UInt8 tapCap) (fuel : Nat)
    (rx : Option (List.Vector UInt8 4096)) (realtimeNs : Nat) (s : σ),
    Bounds.mcuStateQuery sys dev tapBuf fuel rx realtimeNs s =
      .ok (Gxfp.mcuStateQuery sys dev fuel rx.isSome realtimeNs s)

/-- **Whatever is received, the receive path stays in bounds.** -/
theorem receive_inBounds {σ : Type} (sys : Sys σ) (dev : Dev) : ReceiveInBounds sys dev where
  rxAssemble := rxAssemble_eq
  parseGoodixBody := parseGoodixBody_eq
  payload := fun _ _ hparse =>
    ⟨(parseGoodixBody_slice hparse).2.1, (parseGoodixBody_slice hparse).2.2.1⟩
  fdtUpdateStateFromRecord := fun state => fdtUpdateStateFromRecord_eq state.sized
  plainScanChunks := fun alloc buf sink => plainScanChunks_eq alloc buf sink.sized
  presetPskSelector := presetPskSelector_eq
  cmdPresetPskRead := fun _ _ => cmdPresetPskRead_eq
  cmdReadOtp := fun _ _ => cmdReadOtp_eq
  milangParseOtp := milangParseOtp_eq
  cmdReadReg := fun _ _ => cmdReadReg_eq
  mcuStateQuery := fun _ _ => mcuStateQuery_eq

end Gxfp.Bounds
