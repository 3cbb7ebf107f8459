/-
Commands that ask the device for data: `src/cmd/production_cmd.c`,
`src/cmd/sensor_cfg_cmd.c` and `src/cmd/mcu_state_cmd.c`.

Each sends a request, waits for the frame with its answer, and takes the data out of
that frame's payload.  The lengths are the device's word.  A stored blob comes behind nine
bytes of header, with a length of its own.
-/
import Gxfp.Cmd.Xfer

namespace Gxfp

open Bytes

def readOtpCmd : UInt8 := 0xA6
def queryMcuStateCmd : UInt8 := 0xAE
def triggerMcuStateCmd : UInt8 := 0xAF
def presetPskReadCmd : UInt8 := 0xE4

/-- `gxfp_le32enc` -/
def le32Bytes (v : UInt32) : List UInt8 :=
  [(v &&& 0xFF).toUInt8, ((v >>> 8) &&& 0xFF).toUInt8, ((v >>> 16) &&& 0xFF).toUInt8,
    ((v >>> 24) &&& 0xFF).toUInt8]

/-! ### The functions of `production_cmd.c` -/

/-- `preset_psk_selector`, without a context for `none`. -/
def presetPskSelector (wantDataType : Option UInt32) : FrameSelector := fun frame =>
  if frame.payload.length < 9 then .ok false
  else if byteAt frame.payload 0 ≠ 0 then .error .io
  else
    let dataType := le32At frame.payload 1
    let dataLen := le32At frame.payload 5
    if frame.payload.length - 9 < dataLen.toNat then .error .badmsg
    else
      match wantDataType with
      | some want => if want ≠ 0 ∧ dataType ≠ want then .ok false else .ok true
      | none => .ok true

/-- `gxfp_cmd_preset_psk_read`, behind the request. -/
def presetPskData (dataType : UInt32) (dataCap : Nat) (rx : List UInt8) :
    Except Errno (List UInt8) :=
  match parseGoodixBody rx with
  | none => .error .badmsg
  | some frame =>
    if ¬ frame.valid then .error .badmsg
    else if frame.cmd ≠ presetPskReadCmd then .error .badmsg
    else if frame.payload.length < 9 then .error .badmsg
    else if byteAt frame.payload 0 ≠ 0 then .error .io
    else if le32At frame.payload 1 ≠ dataType then .error .nodata
    else
      let payloadLen := le32At frame.payload 5
      if frame.payload.length - 9 < payloadLen.toNat then .error .badmsg
      else if dataCap < payloadLen.toNat then .error .msgsize
      else .ok ((frame.payload.drop 9).take payloadLen.toNat)

/-! ### The functions of `sensor_cfg_cmd.c` -/

/-- `gxfp_cmd_read_otp`, behind the request. -/
def otpData (otpCap : Nat) (rx : List UInt8) : Except Errno (List UInt8) :=
  match parseGoodixBody rx with
  | none => .error .badmsg
  | some frame => if otpCap < frame.payload.length then .error .msgsize else .ok frame.payload

/-! ### The functions of `mcu_state_cmd.c` -/

def mcuStateLen : Nat := 20

/-- `struct gxfp_mcu_state` -/
structure McuState where
  version : UInt8
  b1Raw : UInt8
  isPovImageValid : UInt8
  isTlsConnected : UInt8
  isLocked : UInt8
  capturedNumHi : UInt8
  capturedNumLo : UInt8
  raw3To8 : List UInt8
  byte9Raw : UInt8
  flags9Pba : UInt8
  flags9TlsSession : UInt8
  flags9Pov : UInt8
  flags9Low : UInt8
  raw10To14 : List UInt8
  byte15Raw : UInt8
  raw16To19 : List UInt8
  deriving DecidableEq, Repr

/-- `gxfp_mcu_state_parse` -/
def mcuStateParse (buf : List UInt8) : Except Errno McuState :=
  if buf.length < mcuStateLen then .error .badmsg
  else .ok {
    version := byteAt buf 0
    b1Raw := byteAt buf 1
    isPovImageValid := (byteAt buf 1 >>> 0) &&& 1
    isTlsConnected := (byteAt buf 1 >>> 1) &&& 1
    isLocked := (byteAt buf 1 >>> 3) &&& 1
    capturedNumHi := (byteAt buf 2 >>> 4) &&& 0x0F
    capturedNumLo := byteAt buf 2 &&& 0x0F
    raw3To8 := (buf.drop 3).take 6
    byte9Raw := byteAt buf 9
    flags9Pba := (byteAt buf 9 >>> 4) &&& 1
    flags9TlsSession := (byteAt buf 9 >>> 5) &&& 1
    flags9Pov := (byteAt buf 9 >>> 6) &&& 1
    flags9Low := byteAt buf 9 &&& 0x0F
    raw10To14 := (buf.drop 10).take 5
    byte15Raw := byteAt buf 15
    raw16To19 := (buf.drop 16).take 4 }

/-- `gxfp_mcu_state_query`, behind the request. -/
def mcuStateData (rx : List UInt8) : Except Errno McuState :=
  match parseGoodixBody rx with
  | none => .error .badmsg
  | some frame =>
    if ¬ frame.valid ∨ frame.cmd ≠ queryMcuStateCmd ∨ frame.payload.length < mcuStateLen then
      .error .badmsg
    else mcuStateParse frame.payload

/-- `build_trigger_payload`, at a time of the wall clock in nanoseconds. -/
def triggerPayload (realtimeNs : Nat) : List UInt8 :=
  let ts := ((realtimeNs / 1000000000 % 60) * 1000 + realtimeNs % 1000000000 / 1000000) % 65536
  [0x55, loByte ts, hiByte ts, 0x00, 0x00]

/-! ### The commands -/

section Commands

variable {σ : Type} (sys : Sys σ) (dev : Dev) (fuel : Nat)

/-- `gxfp_cmd_preset_psk_read` -/
def cmdPresetPskRead (dataType : UInt32) (dataCap : Nat) (s : σ) :
    Option (Except Errno (List UInt8) × Dev × σ) :=
  if dataCap = 0 then some (.error .inval, dev, s)
  else
    match goodixRequestSelected sys dev fuel presetPskReadCmd presetPskReadCmd
      (le32Bytes dataType ++ zeros 4) mpFrameMax 4 2000 (presetPskSelector (some dataType)) s with
    | none => none
    | some (.error e, dev, s) => some (.error e, dev, s)
    | some (.ok rx, dev, s) => some (presetPskData dataType dataCap rx, dev, s)

/-- `gxfp_cmd_read_otp` -/
def cmdReadOtp (otpCap : Nat) (s : σ) : Option (Except Errno (List UInt8) × Dev × σ) :=
  if otpCap = 0 then some (.error .inval, dev, s)
  else
    match goodixRequestSelected sys dev fuel readOtpCmd readOtpCmd [0x00, 0x00] mpFrameMax 8 500
      selectAnyFrame s with
    | none => none
    | some (.error e, dev, s) => some (.error e, dev, s)
    | some (.ok rx, dev, s) => some (otpData otpCap rx, dev, s)

/-- `gxfp_mcu_state_query`; `alloc` is whether `malloc` succeeds. -/
def mcuStateQuery (alloc : Bool) (realtimeNs : Nat) (s : σ) :
    Option (Except Errno McuState × Dev × σ) :=
  if ¬ alloc then some (.error .nomem, dev, s)
  else
    let (_, s) := devFlushRxq sys dev s
    match goodixRequestSelected sys dev fuel triggerMcuStateCmd queryMcuStateCmd
      (triggerPayload realtimeNs) 4096 1 500 selectAnyFrame s with
    | none => none
    | some (.error e, dev, s) => some (.error e, dev, s)
    | some (.ok rx, dev, s) => some (mcuStateData rx, dev, s)

end Commands

end Gxfp
