/-
The Goodix frame of `src/proto/goodix_proto.c`.

Inside an MP frame of the command channel, and inside the decrypted TLS stream,
every message is a Goodix frame: a command byte, the little-endian length of what
follows it, the payload, and one checksum byte that makes all bytes sum to
`goodixChecksumSeed`.  The parser takes the length from the frame itself and does
not reject a frame whose checksum is wrong: it reports that in
`protoChecksumOk` and leaves the decision to whoever called it.
-/
import Gxfp.Library.Bytes
import Gxfp.Errno

namespace Gxfp

open Bytes

def goodixChecksumSeed : UInt8 := 0xAA
def goodixPayloadMax : Nat := 0xFF00

/-- `struct gxfp_frame_parsed`; `payload` is the slice the C pointer and length denote. -/
structure FrameParsed where
  valid : Bool
  protoChecksumOk : Bool
  cmd : UInt8
  declLen : UInt16
  payload : List UInt8
  protoChecksum : UInt8
  deriving DecidableEq, Repr

/-- The `uint32_t` sum over the header bytes and the payload. -/
def goodixSum (cmd : UInt8) (declLen : UInt16) (payload : List UInt8) : UInt32 :=
  payload.foldl (fun sum b => sum + b.toUInt32)
    (cmd.toUInt32 + (loByte declLen.toNat).toUInt32 + (hiByte declLen.toNat).toUInt32)

/-- `gxfp_goodix_proto_checksum` -/
def goodixProtoChecksum (cmd : UInt8) (declLen : UInt16) (payload : List UInt8) : UInt8 :=
  goodixChecksumSeed - (goodixSum cmd declLen payload).toUInt8

/-- `gxfp_goodix_build_frame` -/
def goodixBuildFrame (cmd : UInt8) (payload : List UInt8) (outCap : Nat) :
    Except Errno (List UInt8) :=
  if goodixPayloadMax < payload.length then .error .overflow
  else
    let declLen := (1 + payload.length).toUInt16
    let total := 1 + 2 + payload.length + 1
    if outCap < total then .error .nospc
    else .ok ([cmd, loByte declLen.toNat, hiByte declLen.toNat] ++ payload ++
      [goodixProtoChecksum cmd declLen payload])

/-- `gxfp_parse_goodix_body`; `body` is `buf + 3`. -/
def parseGoodixBody (buf : List UInt8) : Option FrameParsed :=
  match buf with
  | cmd :: lo :: hi :: body =>
    if buf.length < 4 then none
    else
      let declLen := le16 lo hi
      if declLen.toNat < 1 then none
      else
        let payloadLen := declLen.toNat - 1
        if buf.length < 3 + payloadLen + 1 then none
        else
          let payload := body.take payloadLen
          let protoCk := body.getD payloadLen 0
          some {
            valid := true
            protoChecksumOk := goodixProtoChecksum cmd declLen payload == protoCk
            cmd := cmd
            declLen := declLen
            payload := payload
            protoChecksum := protoCk }
  | _ => none

/-! ### Frames -/

/--
A complete Goodix frame: a command, a payload short enough for the length field,
and whatever checksum byte closes it.
-/
structure GoodixFrame where
  cmd : UInt8
  payload : List UInt8
  checksum : UInt8
  payload_le : payload.length ≤ 0xFFFE

namespace GoodixFrame

def declLen (f : GoodixFrame) : UInt16 := (1 + f.payload.length).toUInt16

/-- The bytes of the frame on the wire. -/
def bytes (f : GoodixFrame) : List UInt8 :=
  [f.cmd, loByte f.declLen.toNat, hiByte f.declLen.toNat] ++ f.payload ++ [f.checksum]

/-- What the parser reports for it. -/
def parsed (f : GoodixFrame) : FrameParsed where
  valid := true
  protoChecksumOk := goodixProtoChecksum f.cmd f.declLen f.payload == f.checksum
  cmd := f.cmd
  declLen := f.declLen
  payload := f.payload
  protoChecksum := f.checksum

/-- The frame `gxfp_goodix_build_frame` builds from a command and a payload. -/
def built (cmd : UInt8) (payload : List UInt8) (h : payload.length ≤ 0xFFFE) : GoodixFrame where
  cmd := cmd
  payload := payload
  checksum := goodixProtoChecksum cmd (1 + payload.length).toUInt16 payload
  payload_le := h

theorem toNat_declLen (f : GoodixFrame) : f.declLen.toNat = 1 + f.payload.length := by
  have h := f.payload_le
  simp only [declLen, Nat.toUInt16_eq, UInt16.toNat_ofNat']
  exact Nat.mod_eq_of_lt (by omega)

@[simp] theorem length_bytes (f : GoodixFrame) : f.bytes.length = f.payload.length + 4 := by
  simp [bytes]

/-- **The parser reads a complete frame back, whatever bytes follow it.** -/
theorem parseGoodixBody_bytes (f : GoodixFrame) (rest : List UInt8) :
    parseGoodixBody (f.bytes ++ rest) = some f.parsed := by
  have hle : le16 (loByte f.declLen.toNat) (hiByte f.declLen.toNat) = f.declLen := le16_split _
  have hlen : f.declLen.toNat - 1 = f.payload.length := by rw [f.toNat_declLen]; omega
  have hpos : ¬ f.declLen.toNat < 1 := by rw [f.toNat_declLen]; omega
  have hbytes : f.bytes ++ rest = f.cmd :: loByte f.declLen.toNat :: hiByte f.declLen.toNat ::
      (f.payload ++ f.checksum :: rest) := by
    simp [bytes]
  have htake : (f.payload ++ f.checksum :: rest).take f.payload.length = f.payload :=
    List.take_left
  have hck : (f.payload ++ f.checksum :: rest).getD f.payload.length 0 = f.checksum := by
    simp [List.getD_eq_getElem?_getD]
  have hroom : ¬ (f.bytes ++ rest).length < 3 + f.payload.length + 1 := by
    rw [List.length_append, length_bytes]
    omega
  have hfour : ¬ (f.bytes ++ rest).length < 4 := by
    rw [List.length_append, length_bytes]
    omega
  rw [hbytes] at hroom hfour ⊢
  simp only [parseGoodixBody, hle, hlen, htake, hck, hpos, hroom, hfour, if_false]
  rfl

theorem protoChecksumOk_built (cmd : UInt8) (payload : List UInt8)
    (h : payload.length ≤ 0xFFFE) : (built cmd payload h).parsed.protoChecksumOk = true := by
  simp [parsed, built, declLen]

end GoodixFrame

/-- **Within its limits the builder returns the bytes of a complete frame.** -/
theorem goodixBuildFrame_ok {cmd : UInt8} {payload : List UInt8} {cap : Nat}
    (hmax : payload.length ≤ goodixPayloadMax) (hcap : payload.length + 4 ≤ cap) :
    goodixBuildFrame cmd payload cap =
      .ok (GoodixFrame.built cmd payload (Nat.le_trans hmax (by decide))).bytes := by
  have hnot : ¬ cap < 1 + 2 + payload.length + 1 := by omega
  simp [goodixBuildFrame, Nat.not_lt.mpr hmax, hnot, GoodixFrame.bytes, GoodixFrame.built,
    GoodixFrame.declLen]

theorem goodixBuildFrame_overflow {cmd : UInt8} {payload : List UInt8} {cap : Nat}
    (hmax : goodixPayloadMax < payload.length) :
    goodixBuildFrame cmd payload cap = .error .overflow := by
  simp [goodixBuildFrame, hmax]

/-- **What the builder returns is the bytes of a complete frame.** -/
theorem goodixBuildFrame_inv {cmd : UInt8} {payload bytes : List UInt8} {cap : Nat}
    (hbuild : goodixBuildFrame cmd payload cap = .ok bytes) :
    ∃ h, bytes = (GoodixFrame.built cmd payload h).bytes := by
  by_cases hmax : goodixPayloadMax < payload.length
  · rw [goodixBuildFrame_overflow hmax] at hbuild
    cases hbuild
  · by_cases hcap : payload.length + 4 ≤ cap
    · rw [goodixBuildFrame_ok (Nat.not_lt.mp hmax) hcap] at hbuild
      injection hbuild with hbytes
      exact ⟨_, hbytes.symm⟩
    · unfold goodixBuildFrame at hbuild
      rw [if_neg hmax] at hbuild
      dsimp only at hbuild
      rw [if_pos (by omega)] at hbuild
      cases hbuild

/-- A reported payload is the slice of the input that starts at byte 3. -/
theorem parseGoodixBody_slice {buf : List UInt8} {fr : FrameParsed}
    (h : parseGoodixBody buf = some fr) :
    fr.valid = true ∧ fr.payload = (buf.drop 3).take fr.payload.length ∧
      fr.payload.length + 4 ≤ buf.length ∧ fr.cmd = buf.getD 0 0 := by
  unfold parseGoodixBody at h
  split at h
  · rename_i cmd lo hi body
    simp only [Option.ite_none_left_eq_some, Option.some.injEq] at h
    obtain ⟨-, -, hneed, rfl⟩ := h
    simp only [List.length_cons] at hneed
    have hlen : (body.take ((le16 lo hi).toNat - 1)).length = (le16 lo hi).toNat - 1 := by
      rw [List.length_take]
      omega
    refine ⟨rfl, ?_, ?_, rfl⟩
    · simp only [hlen, List.drop_succ_cons, List.drop_zero]
    · simp only [hlen, List.length_cons]
      omega
  · simp at h

end Gxfp
