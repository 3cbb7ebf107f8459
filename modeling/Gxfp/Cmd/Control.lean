/-
The commands that steer the controller: `device_recovery_cmd.c`, `mode_cmd.c`, `nav_cmd.c`,
`tls_cmd.c`, and the rest of `sensor_cfg_cmd.c` and `register_cmd.c`.

Most of them are one request and a look at its response, so that the word of such a command
is a `Request`: which message goes out, how often at most, what it waits for, and what its
result is made of.  Two are more than that: the image command is acknowledged behind a wait
of its own, and verifying a configuration reads two registers in each of its rounds.
-/
import Gxfp.Cmd.Queries
import Gxfp.Cmd.Register
import Gxfp.Cmd.Sent

namespace Gxfp

open Bytes Trace

/-! ### The command bytes -/

def sendNopCmd : UInt8 := 0x01
def notifyPowerStateCmd : UInt8 := 0x0E
def getImageModeCmd : UInt8 := 0x20
def navFrameFirstCmd : UInt8 := 0x50
def navFrameNextCmd : UInt8 := 0x52
def setIdleCmd : UInt8 := 0x70
def uploadConfigMcuCmd : UInt8 := 0x90
def setDacCmd : UInt8 := 0x98
def resetDeviceCmd : UInt8 := 0xA2
def d01Cmd : UInt8 := 0xD1
def tlsUnlockCmd : UInt8 := 0xD4

def resetDelayMagic : UInt8 := 0x14

/-! ### What is made of a response -/

/-- The frame of a response, if it is one to `cmd`. -/
def replyTo (cmd : UInt8) (rx : List UInt8) : Except Errno FrameParsed :=
  match parseGoodixBody rx with
  | none => .error .badmsg
  | some frame => if frame.cmd ≠ cmd then .error .badmsg else .ok frame

/-- `gxfp_cmd_read_reg`, behind the request. -/
def regReadData (outLen : UInt16) (rx : List UInt8) : Except Errno (List UInt8) :=
  match parseGoodixBody rx with
  | none => .error .badmsg
  | some frame =>
    if frame.payload.length < outLen.toNat then .error .badmsg
    else .ok (frame.payload.take outLen.toNat)

/-- `gxfp_cmd_reset_device`, `gxfp_cmd_set_dac` and `gxfp_cmd_set_idle`, behind the request. -/
def replyOk (cmd : UInt8) (rx : List UInt8) : Except Errno Unit :=
  (replyTo cmd rx).map fun _ => ()

/-- `gxfp_cmd_upload_config_mcu`, behind the request: the status byte of the answer. -/
def uploadStatus (rx : List UInt8) : Except Errno UInt8 :=
  (replyTo uploadConfigMcuCmd rx).map fun frame => frame.payload.getD 0 0x00

/-- `gxfp_cmd_nav_frame`, behind the request. -/
def navFrameData (cmd : UInt8) (payloadCap : Nat) (rx : List UInt8) :
    Except Errno (List UInt8) :=
  match replyTo cmd rx with
  | .error e => .error e
  | .ok frame =>
    if ¬ frame.valid then .error .badmsg
    else if frame.payload.length = 0 then .error .nodata
    else if payloadCap < frame.payload.length then .error .msgsize
    else .ok frame.payload

/-! ### The commands -/

section Commands

variable {σ : Type} (sys : Sys σ) (fuel : Nat)

/-- A command that is already there as a function, as a program. -/
def asProg {α : Type} (f : Dev → σ → Option (Except Errno α × Dev × σ)) : CmdProg σ α :=
  fun st => f st.1 st.2

/-- `gxfp_cmd_send_expect_ack` -/
def expectAck (cmd : UInt8) (payload : List UInt8) (tries timeoutMs : Int) : CmdProg σ Unit :=
  asProg fun dev s => cmdSendExpectAck sys dev fuel cmd payload tries timeoutMs s

/-- `gxfp_cmd_notify_power_state` -/
def cmdNotifyPowerState : CmdProg σ Unit :=
  expectAck sys fuel notifyPowerStateCmd [0x01] 1 recoveryCmdTimeoutMs

/-- `gxfp_cmd_send_nop`: the one frame that is not built, and whose checksum is not one. -/
def cmdSendNop : CmdProg σ Unit :=
  sendPacket sys [sendNopCmd, 0x05, 0x00, 0x00, 0x00, 0x00, 0x00, 0x88]

/-- `gxfp_cmd_d01` -/
def cmdD01 : CmdProg σ Unit := expectAck sys fuel d01Cmd [0x00, 0x00] 1 recoveryCmdTimeoutMs

/-- `gxfp_cmd_reset_device` -/
def cmdResetDevice (resetFlag : UInt8) : CmdProg σ Unit := do
  let rx ← requestSelected sys fuel resetDeviceCmd resetDeviceCmd [resetFlag, resetDelayMagic] 6
    recoveryCmdTimeoutMs
  Prog.lift (replyOk resetDeviceCmd rx)

/-- `gxfp_cmd_image_mode_send`, which `gxfp_cmd_get_image` is as well. -/
def cmdImageModeSend : CmdProg σ Unit := send sys getImageModeCmd [0x01, 0x00]

/-- `gxfp_cmd_image_mode_wait` -/
def cmdImageModeWait (timeoutMs : Int) : CmdProg σ Unit := do
  let _ ← waitSelected sys fuel ackCmd (if 0 < timeoutMs then timeoutMs else 200)
  Prog.lift (.ok ())

/-- `gxfp_cmd_set_idle` -/
def cmdSetIdle : CmdProg σ Unit := do
  let rx ← requestSelected sys fuel setIdleCmd ackCmd [0x14, 0x00] 1 200
  Prog.lift (replyOk ackCmd rx)

/-- `gxfp_cmd_nav_frame`, into a buffer that is not empty. -/
def cmdNavFrame (first : Bool) (timeoutMs : Int) (payloadCap : Nat) :
    CmdProg σ (List UInt8) := do
  let cmd := if first then navFrameFirstCmd else navFrameNextCmd
  let rx ← requestSelected sys fuel cmd cmd [0x01, 0x00] 1
    (if 0 < timeoutMs then timeoutMs else 500)
  Prog.lift (navFrameData cmd payloadCap rx)

/-- `gxfp_cmd_tls_unlock`, with its `gxfp_tls_cmd_send_expect_ack`. -/
def cmdTlsUnlock : CmdProg σ Unit := expectAck sys fuel tlsUnlockCmd [0x00, 0x00] 1 500

/-- `gxfp_cmd_upload_config_mcu`, of a configuration that is not empty. -/
def cmdUploadConfigMcu (cfg : List UInt8) : CmdProg σ UInt8 := do
  let rx ← requestSelected sys fuel uploadConfigMcuCmd uploadConfigMcuCmd cfg 3 200
  Prog.lift (uploadStatus rx)

/-- `gxfp_cmd_set_dac` -/
def cmdSetDac (dac : UInt16) : CmdProg σ Unit := do
  let rx ← requestSelected sys fuel setDacCmd setDacCmd
    [loByte dac.toNat, hiByte dac.toNat, 0x00, 0x00, 0x00, 0x00, 0x00, 0x00] 3 200
  Prog.lift (replyOk setDacCmd rx)

/-- `gxfp_cmd_read_reg_u16` -/
def readRegU16 (reg : UInt16) : CmdProg σ UInt16 :=
  asProg fun dev s => cmdReadRegU16 sys dev fuel reg s

/-- `gxfp_cmd_read_chip_id` -/
def cmdReadChipId : CmdProg σ UInt16 := do
  let buf ← asProg fun dev s => cmdReadReg sys dev fuel 0x0000 4 s
  Prog.lift (.ok (le16At buf 1))

/-- One attempt of `gxfp_cmd_verify_sensor_cfg`. -/
def verifyAttempt (expectedDac expectedTcode : UInt16) : CmdProg σ Unit := do
  let _ ← (cmdSetIdle sys fuel).attempt
  let dac ← readRegU16 sys fuel milangRegDac
  let tcode ← readRegU16 sys fuel milangRegTcode
  Prog.lift (if dac = expectedDac ∧ tcode = expectedTcode then .ok () else .error .io)

/-- `gxfp_cmd_verify_sensor_cfg`: whatever has failed, its error is `-EIO`. -/
def cmdVerifySensorCfg (expectedDac expectedTcode : UInt16) : CmdProg σ Unit := do
  let verified ← ((verifyAttempt sys fuel expectedDac expectedTcode).retry (pure ()) 3 .io).attempt
  Prog.lift (verified.mapError fun _ => .io)

end Commands

/-! ### What passes -/

/-- The frame of `gxfp_cmd_send_nop`, whose checksum byte does not match. -/
def nopFrame : GoodixFrame := ⟨sendNopCmd, [0x00, 0x00, 0x00, 0x00], 0x88, by decide⟩

def nopMsg : Option SentMsg := some ⟨mpTypeCmd, sendNopCmd, [0x00, 0x00, 0x00, 0x00], false⟩

def resetMsg (resetFlag : UInt8) : Option SentMsg :=
  command resetDeviceCmd [resetFlag, resetDelayMagic]

def imageMsg : Option SentMsg := command getImageModeCmd [0x01, 0x00]

def setIdleMsg : Option SentMsg := command setIdleCmd [0x14, 0x00]

def setDacMsg (dac : UInt16) : Option SentMsg :=
  command setDacCmd [loByte dac.toNat, hiByte dac.toNat, 0x00, 0x00, 0x00, 0x00, 0x00, 0x00]

def readRegMsg (reg outLen : UInt16) : Option SentMsg :=
  command cmdRegRead (regReadPayload reg outLen)

def readOtpMsg : Option SentMsg := command readOtpCmd [0x00, 0x00]

/-- A reset of the sensor, acknowledged or not. -/
def Resets (resetFlag : UInt8) : Except Errno Unit → List Wire → Prop :=
  Acked (resetMsg resetFlag) resetDeviceCmd 6

/-- A register is asked for, and its value is what the answer holds. -/
def ReadsReg (reg : UInt16) : Except Errno UInt16 → List Wire → Prop :=
  Request (readRegMsg reg 2) cmdRegRead 3 fun rx => (regReadData 2 rx).map fun buf => le16At buf 0

/-- The chip id is asked for, and is what the answer holds. -/
def ReadsChipId : Except Errno UInt16 → List Wire → Prop :=
  Request (readRegMsg 0x0000 4) cmdRegRead 3 fun rx =>
    (regReadData 4 rx).map fun buf => le16At buf 1

/-- The OTP is asked for, and is what the answer holds. -/
def ReadsOtp (otpCap : Nat) : Except Errno (List UInt8) → List Wire → Prop :=
  Request readOtpMsg readOtpCmd 8 (otpData otpCap)

/--
An attempt to verify: the sensor is set idle, both registers are read one after the other,
and it succeeds if the answers hold what is expected of them.
-/
def VerifyRound (expectedDac expectedTcode : UInt16) : Except Errno Unit → List Wire → Prop :=
  Anyway (Acked setIdleMsg ackCmd 1) fun _ =>
    InTurn (ReadsReg milangRegDac) fun dac =>
      InTurn (ReadsReg milangRegTcode) fun tcode r w =>
        r = (if dac = expectedDac ∧ tcode = expectedTcode then .ok () else .error .io) ∧ w = []

/-- At most three attempts, the last of which succeeds if any does. -/
def Verification (expectedDac expectedTcode : UInt16) : Except Errno Unit → List Wire → Prop :=
  Retried 3 (fun w => ∃ e, VerifyRound expectedDac expectedTcode (.error e) w) fun _ =>
    VerifyRound expectedDac expectedTcode (.ok ())

section Passes

variable {σ : Type} {sys : Sys σ} {L : Ledger σ Wire} {fuel : Nat}

theorem emits_sendNop (h : sys.Kept L) :
    Emits (devWatch L) (cmdSendNop sys) fun _ => Writes nopMsg :=
  emits_sendPacket h nopFrame (Nat.le_of_ble_eq_true rfl)

variable (sys fuel) in
/-- One request, and a look at its response. -/
theorem asProg_request {α : Type} {f : Dev → σ → Option (Except Errno α × Dev × σ)}
    {reqCmd expectCmd : UInt8} {payload : List UInt8} {tries timeoutMs : Int}
    (g : List UInt8 → Except Errno α)
    (hf : ∀ dev s, f dev s = (goodixRequestSelected sys dev fuel reqCmd expectCmd payload mpFrameMax
      tries timeoutMs selectAnyFrame s).map fun out => (out.1.bind g, out.2)) :
    asProg f =
      requestSelected sys fuel reqCmd expectCmd payload tries timeoutMs >>= fun rx =>
        Prog.lift (g rx) := by
  funext st
  show f st.1 st.2 = Prog.andThen _ _ st
  rw [hf]
  unfold Prog.andThen requestSelected
  rcases goodixRequestSelected sys st.1 fuel reqCmd expectCmd payload mpFrameMax tries timeoutMs
    selectAnyFrame st.2 with _ | ⟨_ | _, _⟩ <;> rfl

theorem emits_expectAck (h : sys.Kept L) (cmd : UInt8) {payload : List UInt8} {tries : Nat}
    (timeoutMs : Int) (hfits : payload.length ≤ cmdPayloadMax) (hpos : 0 < tries) :
    Emits (devWatch L) (expectAck sys fuel cmd payload tries timeoutMs)
      (Request (command cmd payload) ackCmd tries ackResult) := by
  unfold expectAck
  rw [asProg_request sys fuel ackResult]
  · exact emits_request h cmd ackCmd timeoutMs hfits hpos ackResult
  · intro dev s
    unfold cmdSendExpectAck
    rcases goodixRequestSelected sys dev fuel cmd ackCmd payload mpFrameMax tries timeoutMs
      selectAnyFrame s with _ | ⟨_ | _, _⟩ <;> rfl

/-- A response that is a frame with the command it waits for is an acknowledgement. -/
theorem replyOk_eq {cmd : UInt8} {rx : List UInt8} {parsed : FrameParsed}
    (hparse : parseGoodixBody rx = some parsed) (hcmd : parsed.cmd = cmd) :
    replyOk cmd rx = .ok () := by
  unfold replyOk replyTo
  rw [hparse]
  dsimp only
  rw [if_neg (not_not.mpr hcmd)]
  rfl

/-- A request whose response is only checked. -/
theorem emits_acked (h : sys.Kept L) (reqCmd expectCmd : UInt8) {payload : List UInt8}
    {tries : Nat} (timeoutMs : Int) (hfits : payload.length ≤ cmdPayloadMax) (hpos : 0 < tries) :
    Emits (devWatch L)
      (requestSelected sys fuel reqCmd expectCmd payload tries timeoutMs >>= fun rx =>
        Prog.lift (replyOk expectCmd rx)) (Acked (command reqCmd payload) expectCmd tries) :=
  (emits_request h reqCmd expectCmd timeoutMs hfits hpos (replyOk expectCmd)).mono fun _ _ hw =>
    hw.congr fun _ _ hparse _ hcmd => replyOk_eq hparse hcmd

theorem emits_resetDevice (h : sys.Kept L) (resetFlag : UInt8) :
    Emits (devWatch L) (cmdResetDevice sys fuel resetFlag) (Resets resetFlag) :=
  emits_acked h resetDeviceCmd resetDeviceCmd recoveryCmdTimeoutMs (Nat.le_of_ble_eq_true rfl)
    (Nat.succ_pos 5)

theorem emits_imageModeSend (h : sys.Kept L) :
    Emits (devWatch L) (cmdImageModeSend sys) fun _ => Writes imageMsg :=
  emits_send h getImageModeCmd (Nat.le_of_ble_eq_true rfl)

/-- The image command and its acknowledgement. -/
theorem emits_imageMode (h : sys.Kept L) (timeoutMs : Int) :
    Emits (devWatch L)
      (cmdImageModeSend sys >>= fun _ => cmdImageModeWait sys fuel timeoutMs)
      (Acked imageMsg ackCmd 1) := by
  refine Emits.bind (emits_imageModeSend h)
    (fun _ => (emits_waitSelected h ackCmd _).check fun _ => .ok ()) ?_ ?_
  · intro e w hw
    exact Or.inl ⟨e, 1, rfl, Nat.le_refl 1, Nat.le_refl 1, w, [], (List.append_nil w).symm,
      ⟨w, [], (List.append_nil w).symm, hw, Deaf.nil⟩, rfl⟩
  · rintro a u r v hu ⟨e | rx, rfl, hwaited⟩
    · exact Or.inl ⟨e, 1, rfl, Nat.le_refl 1, Nat.le_refl 1, u ++ v, [], (List.append_nil _).symm,
        ⟨u, v, rfl, hu, hwaited.deaf e rfl⟩, rfl⟩
    · exact Or.inr ⟨rx, 0, rfl, Nat.one_pos, [], u ++ v, rfl, rfl, u, v, rfl, hu,
        hwaited.hears rx rfl⟩

theorem emits_setIdle (h : sys.Kept L) :
    Emits (devWatch L) (cmdSetIdle sys fuel) (Acked setIdleMsg ackCmd 1) :=
  emits_acked h setIdleCmd ackCmd 200 (Nat.le_of_ble_eq_true rfl) (Nat.succ_pos 0)

theorem emits_uploadConfigMcu (h : sys.Kept L) {cfg : List UInt8}
    (hfits : cfg.length ≤ cmdPayloadMax) :
    Emits (devWatch L) (cmdUploadConfigMcu sys fuel cfg)
      (Request (command uploadConfigMcuCmd cfg) uploadConfigMcuCmd 3 uploadStatus) :=
  emits_request h uploadConfigMcuCmd uploadConfigMcuCmd 200 hfits (Nat.succ_pos 2) uploadStatus

theorem emits_setDac (h : sys.Kept L) (dac : UInt16) :
    Emits (devWatch L) (cmdSetDac sys fuel dac) (Acked (setDacMsg dac) setDacCmd 3) :=
  emits_acked h setDacCmd setDacCmd 200 (Nat.le_of_ble_eq_true rfl) (Nat.succ_pos 2)

theorem emits_readReg (h : sys.Kept L) (reg : UInt16) {outLen : UInt16} (hlen : outLen ≠ 0) :
    Emits (devWatch L) (asProg fun dev s => cmdReadReg sys dev fuel reg outLen s)
      (Request (readRegMsg reg outLen) cmdRegRead 3 (regReadData outLen)) := by
  rw [asProg_request sys fuel (regReadData outLen)]
  · exact emits_request h cmdRegRead cmdRegRead 500 (Nat.le_of_ble_eq_true rfl) (Nat.succ_pos 2) _
  · intro dev s
    rw [cmdReadReg, if_neg hlen]
    rcases goodixRequestSelected sys dev fuel cmdRegRead cmdRegRead
      (regReadPayload reg outLen) mpFrameMax 3 500 selectAnyFrame s with _ | ⟨_ | rx, _⟩
    · rfl
    · rfl
    · dsimp only [Option.map_some, Except.bind, regReadData]
      rcases parseGoodixBody rx with _ | frame
      · rfl
      · dsimp only
        split <;> rfl

/-- A look at the bytes of a register that does not fail. -/
theorem emits_readReg_map (h : sys.Kept L) {α : Type} (reg : UInt16) {outLen : UInt16}
    (hlen : outLen ≠ 0) (value : List UInt8 → α) :
    Emits (devWatch L)
      ((asProg fun dev s => cmdReadReg sys dev fuel reg outLen s) >>= fun buf =>
        Prog.lift (.ok (value buf)))
      (Request (readRegMsg reg outLen) cmdRegRead 3 fun rx =>
        (regReadData outLen rx).map value) := by
  refine ((emits_readReg h reg hlen).check fun buf => .ok (value buf)).mono ?_
  rintro r w ⟨r', rfl, hw⟩
  refine (hw.bind fun buf => .ok (value buf)).congr fun rx _ _ _ _ => ?_
  cases regReadData outLen rx <;> rfl

theorem emits_readRegU16 (h : sys.Kept L) (reg : UInt16) :
    Emits (devWatch L) (readRegU16 sys fuel reg) (ReadsReg reg) := by
  have heq : readRegU16 sys fuel reg =
      (asProg fun dev s => cmdReadReg sys dev fuel reg 2 s) >>= fun buf =>
        Prog.lift (.ok (le16At buf 0)) := by
    funext st
    show cmdReadRegU16 sys st.1 fuel reg st.2 = Prog.andThen _ _ st
    unfold Prog.andThen asProg cmdReadRegU16
    dsimp only
    rcases cmdReadReg sys st.1 fuel reg 2 st.2 with _ | ⟨_ | _, _⟩ <;> rfl
  rw [heq]
  exact emits_readReg_map h reg (by decide) fun buf => le16At buf 0

theorem emits_readChipId (h : sys.Kept L) :
    Emits (devWatch L) (cmdReadChipId sys fuel) ReadsChipId :=
  emits_readReg_map h 0x0000 (by decide) fun buf => le16At buf 1

theorem emits_readOtp (h : sys.Kept L) {otpCap : Nat} (hcap : otpCap ≠ 0) :
    Emits (devWatch L) (asProg fun dev s => cmdReadOtp sys dev fuel otpCap s)
      (ReadsOtp otpCap) := by
  rw [asProg_request sys fuel (otpData otpCap)]
  · exact emits_request h readOtpCmd readOtpCmd 500 (Nat.le_of_ble_eq_true rfl) (Nat.succ_pos 7) _
  · intro dev s
    rw [cmdReadOtp, if_neg hcap]
    rcases goodixRequestSelected sys dev fuel readOtpCmd readOtpCmd [0x00, 0x00] mpFrameMax 8
      500 selectAnyFrame s with _ | ⟨_ | _, _⟩ <;> rfl

theorem emits_verifyAttempt (h : sys.Kept L) (expectedDac expectedTcode : UInt16) :
    Emits (devWatch L) (verifyAttempt sys fuel expectedDac expectedTcode)
      (VerifyRound expectedDac expectedTcode) :=
  Emits.anyway (emits_setIdle h) fun _ =>
    (emits_readRegU16 h milangRegDac).inTurn fun _ =>
      (emits_readRegU16 h milangRegTcode).inTurn fun _ => Emits.lift _

/-- **Verifying takes at most three attempts**, the last of which reads what is expected. -/
theorem emits_verifySensorCfg (h : sys.Kept L) (expectedDac expectedTcode : UInt16) :
    Emits (devWatch L) (cmdVerifySensorCfg sys fuel expectedDac expectedTcode)
      (Verification expectedDac expectedTcode) := by
  have hretry : Emits (devWatch L)
      ((verifyAttempt sys fuel expectedDac expectedTcode).retry (pure ()) 3 .io)
      (Retried 3 (Then (fun w => ∃ e, VerifyRound expectedDac expectedTcode (.error e) w)
        fun w => w = []) fun _ => VerifyRound expectedDac expectedTcode (.ok ())) :=
    Emits.retry (emits_verifyAttempt h expectedDac expectedTcode)
      ((Emits.pure ()).mono fun _ _ hw => hw.2) (fun _ _ hw => hw) (fun e _ hw => ⟨e, hw⟩) 3 .io
  refine (Emits.anyway hretry fun verified =>
    Emits.lift (verified.mapError fun _ => .io)).mono ?_
  rintro r w ⟨verified, u, v, rfl, hu, rfl, rfl⟩
  rw [List.append_nil]
  have hword := hu.mono (fun _ => Then.of_nil) fun _ _ hw => hw
  cases verified with
  | error e => exact hword
  | ok a => exact hword

end Passes

/-! ### A controller that answers -/

theorem replyPayload_le {payload : List UInt8} (h : payload.length ≤ cmdPayloadMax) :
    payload.length ≤ 0xFFFE := Nat.le_trans h (by decide)

/-- A command of the controller. -/
def replyFrame (cmd : UInt8) (payload : List UInt8) (h : payload.length ≤ cmdPayloadMax) :
    GoodixFrame :=
  .built cmd payload (replyPayload_le h)

/-- The bytes it arrives in. -/
def replyBytes (frame : GoodixFrame) : List UInt8 :=
  mpHead mpTypeCmd frame.bytes.length ++ frame.bytes

theorem length_replyBytes_le (cmd : UInt8) {payload : List UInt8}
    (h : payload.length ≤ cmdPayloadMax) :
    (replyBytes (replyFrame cmd payload h)).length ≤ rxMax := by
  have hfits : payload.length ≤ 496 := h
  have hlen : (replyFrame cmd payload h).bytes.length = payload.length + 4 :=
    GoodixFrame.length_bytes _
  rw [replyBytes, List.length_append, length_mpHead, hlen]
  show 4 + (payload.length + 4) ≤ 3584
  omega

/-- The record in which a command of the controller arrives. -/
def replyRecord (cmd : UInt8) (payload : List UInt8) (h : payload.length ≤ cmdPayloadMax) :
    RxRecord :=
  mailboxOf (replyBytes (replyFrame cmd payload h)) (length_replyBytes_le cmd h)

/--
A controller that answers each command at once with the records that `reply` says.  Beside the
records that were not read it has the number of looks at the clock, each of which takes a tenth
of a second, and `reply` may depend on it.
-/
def answeringSys (reply : Nat → SentMsg → List RxRecord) : Sys (List RxRecord × Nat) where
  poll _ s := (if s.1 = [] then .timedOut else .ready true false, s)
  read s :=
    match s.1 with
    | [] => (.failed .again, s)
    | rec :: queue => (.record rec, (queue, s.2))
  write tx s := (.ok tx.length, (s.1 ++ ((readMsg tx).map (reply s.2)).getD [], s.2))
  flushRx s := (.ok (), ([], s.2))
  clock s := (UInt64.ofNat (s.2 * 100000000), (s.1, s.2 + 1))

/-- A sensor that gets a configuration, with DAC 0x818 and TCODE 0x80 in its OTP. -/
def milangReply (msg : SentMsg) : List RxRecord :=
  if msg.cmd = cmdRegRead then
    if msg.payload = regReadPayload 0x0000 4 then
      [replyRecord cmdRegRead [0x00, 0x08, 0x22, 0x00] (by decide)]
    else if msg.payload = regReadPayload milangRegDac 2 then
      [replyRecord cmdRegRead [0x18, 0x08] (by decide)]
    else [replyRecord cmdRegRead [0x80, 0x00] (by decide)]
  else if msg.cmd = readOtpCmd then [replyRecord readOtpCmd (otpOf 0x70 0x81 0x71) (by decide)]
  else if msg.cmd = resetDeviceCmd ∨ msg.cmd = setDacCmd ∨ msg.cmd = uploadConfigMcuCmd then
    [replyRecord msg.cmd [0x01] (Nat.le_of_ble_eq_true rfl)]
  else [replyRecord ackCmd [msg.cmd, 0x01] (Nat.le_of_ble_eq_true rfl)]

/-- An open device in front of such a controller, with nothing passed yet. -/
def answeringStart : Dev × (List RxRecord × Nat) × List Wire := (⟨3, 0, 500, true⟩, ([], 0), [])

end Gxfp
