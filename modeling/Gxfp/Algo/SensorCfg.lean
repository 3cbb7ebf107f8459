/-
From the OTP to the sensor: the calibration path of `src/algo/sensor_cfg.c`.

The driver parses the OTP, copies the template, patches three registers of the
copy and sends the result to the sensor.  One of the numbers goes two ways.  The
FDT delta is 16 bits wide; as the high byte of a register only the low eight of
them arrive, while the finger-detection code gets the whole number.  `Delivered`
says that the sensor and the driver have the same numbers, and
`milangCalibration_iff` for which OTP bytes that is so.
-/
import Gxfp.Algo.CfgBlob
import Gxfp.Algo.Otp

namespace Gxfp

open Bytes

/-! ### The functions of `sensor_cfg.c` -/

def milangRegTcode : UInt16 := 0x005C
def milangRegFdt : UInt16 := 0x0082
def milangRegDac : UInt16 := 0x0220

def cfgSectionDac : Nat := 0
def cfgSectionFdt : Nat := 2
def cfgSectionTcode : Nat := 4

/-- `gxfp_milang_prepare_cfg_blob` -/
def milangPrepareCfgBlob (template : List UInt8) (outCap : Nat) : Except Errno (List UInt8) :=
  if template.length ≠ milangCfgLen then .error .inval
  else if outCap < template.length then .error .msgsize
  else .ok template

/-- `gxfp_milang_apply_otp_patch`: its result, and the blob after it. -/
def milangApplyOtpPatch (cfg : List UInt8) (otpCfg : MilangOtpCfg) :
    Except Errno Unit × List UInt8 :=
  if cfg.length ≠ milangCfgLen then (.error .inval, cfg)
  else
    match cfgPatchReg cfg milangRegDac otpCfg.dac cfgSectionDac .both with
    | (.error e, cfg) => (.error e, cfg)
    | (.ok (), cfg) =>
      if otpCfg.hasTcodeDelta then
        match cfgPatchReg cfg milangRegTcode otpCfg.tcode cfgSectionTcode .both with
        | (.error e, cfg) => (.error e, cfg)
        | (.ok (), cfg) =>
          cfgPatchReg cfg milangRegFdt (otpCfg.fdtDelta <<< 8) cfgSectionFdt .high
      else (.ok (), cfg)

/-- The up offset `gxfp_apply_milang_cfg` passes to `gxfp_cmd_fdt_state_set_runtime`. -/
def milangUpOffset (otpCfg : MilangOtpCfg) : Int :=
  if otpCfg.hasTcodeDelta then otpCfg.fdtDelta.toInt16.toInt else 0

/-- `gxfp_milang_cfg_template` -/
def milangCfgTemplate : List UInt8 :=
  [0x30, 0x11, 0x64, 0x75, 0x00, 0x75, 0x2c, 0xa1, 0x1c, 0xbd, 0x18, 0xd5, 0x00, 0xd5, 0x00, 0xd5,
    0x00, 0xba, 0x00, 0x00, 0x80, 0xca, 0x00, 0x06, 0x00, 0x84, 0x00, 0xbe, 0xb2, 0x86, 0x00, 0xc5,
    0xb9, 0x88, 0x00, 0xb5, 0xad, 0x8a, 0x00, 0x9d, 0x95, 0x8c, 0x00, 0x00, 0xbe, 0x8e, 0x00, 0x00,
    0xc5, 0x90, 0x00, 0x00, 0xb5, 0x92, 0x00, 0x00, 0x9d, 0x94, 0x00, 0x00, 0xaf, 0x96, 0x00, 0x00,
    0xbf, 0x98, 0x00, 0x00, 0xb6, 0x9a, 0x00, 0x00, 0xa7, 0xd2, 0x00, 0x00, 0x00, 0xd4, 0x00, 0x00,
    0x00, 0xd6, 0x00, 0x00, 0x00, 0xd8, 0x00, 0x00, 0x00, 0x12, 0x00, 0x03, 0x04, 0xd0, 0x00, 0x00,
    0x00, 0x70, 0x00, 0x00, 0x00, 0x72, 0x00, 0x78, 0x56, 0x74, 0x00, 0x34, 0x12, 0x20, 0x00, 0x10,
    0x40, 0x20, 0x02, 0x08, 0x10, 0x2a, 0x01, 0x82, 0x03, 0x22, 0x00, 0x01, 0x20, 0x24, 0x00, 0x14,
    0x00, 0x80, 0x00, 0x01, 0x04, 0x5c, 0x00, 0x00, 0x01, 0x56, 0x00, 0x0c, 0x24, 0x58, 0x00, 0x05,
    0x00, 0x32, 0x00, 0x08, 0x02, 0x66, 0x00, 0x00, 0x02, 0x7c, 0x00, 0x00, 0x38, 0x82, 0x00, 0x80,
    0x15, 0x2a, 0x01, 0x08, 0x00, 0x5c, 0x00, 0x80, 0x00, 0x54, 0x00, 0x00, 0x01, 0x62, 0x00, 0x38,
    0x04, 0x64, 0x00, 0x10, 0x00, 0x66, 0x00, 0x00, 0x02, 0x7c, 0x00, 0x01, 0x38, 0x2a, 0x01, 0x08,
    0x00, 0x5c, 0x00, 0x80, 0x00, 0x52, 0x00, 0x08, 0x00, 0x54, 0x00, 0x00, 0x01, 0x66, 0x00, 0x00,
    0x02, 0x7c, 0x00, 0x01, 0x38, 0x00, 0x00, 0x00, 0x00, 0x00, 0x00, 0x00, 0x00, 0x00, 0x00, 0x00]

/-! ### Templates -/

def patchedSections : List Nat := [cfgSectionDac, cfgSectionFdt, cfgSectionTcode]

/-- A template whose three sections lie apart and hold the registers. -/
structure MilangTemplate (t : List UInt8) : Prop where
  layout : CfgLayout t patchedSections
  dac : (cfgEntry t cfgSectionDac milangRegDac).isSome
  fdt : (cfgEntry t cfgSectionFdt milangRegFdt).isSome
  tcode : (cfgEntry t cfgSectionTcode milangRegTcode).isSome

/-- **The built-in template is one.** -/
theorem milangCfgTemplate_template : MilangTemplate milangCfgTemplate := by
  constructor
  case layout =>
    constructor
    case length => rfl
    case inTable => decide
    case header => decide
    case fits => decide
    case aligned => decide
    case disjoint => decide
  case dac => decide
  case fdt => decide
  case tcode => decide

/-- The sensor gets the numbers of the OTP, and the driver goes on with the same ones. -/
structure Delivered (t : List UInt8) (c : MilangOtpCfg) (blob out : List UInt8) : Prop where
  prepared : milangPrepareCfgBlob t milangCfgLen = .ok blob
  applied : milangApplyOtpPatch blob c = (.ok (), out)
  checksum : CfgChecksumOk out
  dac : cfgReadReg out cfgSectionDac milangRegDac = some c.dac
  tcode : cfgReadReg out cfgSectionTcode milangRegTcode = some c.tcode
  fdt : ∃ before after, cfgReadReg t cfgSectionFdt milangRegFdt = some before ∧
    cfgReadReg out cfgSectionFdt milangRegFdt = some after ∧
    loByte after.toNat = loByte before.toNat ∧ (hiByte after.toNat).toNat = c.fdtDelta.toNat ∧
    ((hiByte after.toNat).toNat : Int) = milangUpOffset c

/-! ### The three patches -/

section Patches

variable {t : List UInt8} {c : MilangOtpCfg}

theorem milangPrepareCfgBlob_ok (h : t.length = milangCfgLen) :
    milangPrepareCfgBlob t milangCfgLen = .ok t := by
  rw [milangPrepareCfgBlob, if_neg (not_not.mpr h), if_neg (by rw [h]; exact Nat.lt_irrefl _)]

/--
**The patches of a valid template succeed and are read back.**
Of the FDT value only the high byte is new, and it is what is left of the delta.
-/
theorem milangApplyOtpPatch_ok (ht : MilangTemplate t) (hc : c.hasTcodeDelta = true) :
    ∃ out before, milangApplyOtpPatch t c = (.ok (), out) ∧ CfgChecksumOk out ∧
      cfgReadReg out cfgSectionDac milangRegDac = some c.dac ∧
      cfgReadReg out cfgSectionTcode milangRegTcode = some c.tcode ∧
      cfgReadReg t cfgSectionFdt milangRegFdt = some before ∧
      cfgReadReg out cfgSectionFdt milangRegFdt =
        some (le16 (loByte before.toNat) (hiByte (c.fdtDelta <<< 8).toNat)) := by
  obtain ⟨posDac, hdac⟩ := Option.isSome_iff_exists.mp ht.dac
  obtain ⟨posTcode, htcode⟩ := Option.isSome_iff_exists.mp ht.tcode
  obtain ⟨posFdt, hfdt⟩ := Option.isSome_iff_exists.mp ht.fdt
  have hsecDac : cfgSectionDac ∈ patchedSections := by decide
  have hsecTcode : cfgSectionTcode ∈ patchedSections := by decide
  have hsecFdt : cfgSectionFdt ∈ patchedSections := by decide
  -- the first patch
  have hL := ht.layout
  have hpos := cfgEntry_mem hdac
  generalize hcfg₁ : cfgPatched t posDac c.dac .both = cfg₁
  have hL₁ : CfgLayout cfg₁ patchedSections := hcfg₁ ▸ hL.patched hsecDac hpos _ _
  have htcode₁ : cfgEntry cfg₁ cfgSectionTcode milangRegTcode = some posTcode := by
    rw [← hcfg₁, cfgEntry_patched hL hsecDac hpos _ _ hsecTcode, htcode]
  have hfdt₁ : cfgEntry cfg₁ cfgSectionFdt milangRegFdt = some posFdt := by
    rw [← hcfg₁, cfgEntry_patched hL hsecDac hpos _ _ hsecFdt, hfdt]
  -- the second
  have hpos₁ := cfgEntry_mem htcode₁
  generalize hcfg₂ : cfgPatched cfg₁ posTcode c.tcode .both = cfg₂
  have hL₂ : CfgLayout cfg₂ patchedSections := hcfg₂ ▸ hL₁.patched hsecTcode hpos₁ _ _
  have hfdt₂ : cfgEntry cfg₂ cfgSectionFdt milangRegFdt = some posFdt := by
    rw [← hcfg₂, cfgEntry_patched hL₁ hsecTcode hpos₁ _ _ hsecFdt, hfdt₁]
  have hpos₂ := cfgEntry_mem hfdt₂
  refine ⟨cfgPatched cfg₂ posFdt (c.fdtDelta <<< 8) .high, le16At t (posFdt + 2),
    ?_, ?_, ?_, ?_, ?_, ?_⟩
  · rw [milangApplyOtpPatch, if_neg (not_not.mpr hL.length),
      cfgPatchReg_ok hL hsecDac hdac, hcfg₁]
    dsimp only
    rw [if_pos hc, cfgPatchReg_ok hL₁ hsecTcode htcode₁, hcfg₂]
    exact cfgPatchReg_ok hL₂ hsecFdt hfdt₂ _ _
  · exact cfgPatched_checksumOk hL₂.length _ _ _
  · rw [cfgReadReg_patched_other hL₂ hsecFdt hpos₂ _ _ hsecDac (by decide), ← hcfg₂,
      cfgReadReg_patched_other hL₁ hsecTcode hpos₁ _ _ hsecDac (by decide), ← hcfg₁]
    exact cfgReadReg_patched_both hL hsecDac hdac c.dac
  · rw [cfgReadReg_patched_other hL₂ hsecFdt hpos₂ _ _ hsecTcode (by decide), ← hcfg₂]
    exact cfgReadReg_patched_both hL₁ hsecTcode htcode₁ c.tcode
  · rw [cfgReadReg, hfdt]
    rfl
  · have hkept : cfgReadReg cfg₂ cfgSectionFdt milangRegFdt =
        cfgReadReg t cfgSectionFdt milangRegFdt := by
      rw [← hcfg₂, cfgReadReg_patched_other hL₁ hsecTcode hpos₁ _ _ hsecFdt (by decide), ← hcfg₁,
        cfgReadReg_patched_other hL hsecDac hpos _ _ hsecFdt (by decide)]
    rw [cfgReadReg, cfgReadReg, hfdt₂, hfdt, Option.map_some, Option.map_some,
      Option.some.injEq] at hkept
    rw [cfgReadReg_patched_high hL₂ hsecFdt hfdt₂, ← hkept, le16At, loByte_le16]

/-- The byte that arrives is the delta modulo 256. -/
theorem hiByte_shifted (w : UInt16) : (hiByte (w <<< 8).toNat).toNat = w.toNat % 256 := by
  have hw := w.toNat_lt
  have hshift : (w <<< 8).toNat = w.toNat * 256 % 65536 := by
    rw [UInt16.toNat_shiftLeft]
    exact congrArg (· % 65536) (Nat.shiftLeft_eq w.toNat 8)
  rw [toNat_hiByte, hshift]
  omega

/-- **The numbers arrive unaltered exactly when the delta fits one byte.** -/
theorem delivered_iff (ht : MilangTemplate t) (hc : c.hasTcodeDelta = true)
    (hoffset : milangUpOffset c = c.fdtDelta.toNat) :
    (∃ blob out, Delivered t c blob out) ↔ c.fdtDelta.toNat < 256 := by
  obtain ⟨out, before, hpatch, hsum, hdac, htcode, hbefore, hafter⟩ :=
    milangApplyOtpPatch_ok ht hc
  have hprepare := milangPrepareCfgBlob_ok ht.layout.length
  constructor
  · rintro ⟨blob, out', hdel⟩
    have hblob : t = blob := Except.ok.inj (hprepare.symm.trans hdel.prepared)
    have hout : out = out' := by
      have happlied := hdel.applied
      rw [← hblob, hpatch] at happlied
      exact congrArg Prod.snd happlied
    obtain ⟨_, after, -, hread, -, hhigh, -⟩ := hdel.fdt
    rw [← hout, hafter, Option.some.injEq] at hread
    rw [← hread, hiByte_le16, hiByte_shifted] at hhigh
    omega
  · intro hlt
    have hhigh : (hiByte (c.fdtDelta <<< 8).toNat).toNat = c.fdtDelta.toNat := by
      rw [hiByte_shifted]
      exact Nat.mod_eq_of_lt hlt
    refine ⟨t, out, hprepare, hpatch, hsum, hdac, htcode, before, _, hbefore, hafter, ?_, ?_, ?_⟩
    · rw [loByte_le16]
    · rw [hiByte_le16, hhigh]
    · rw [hiByte_le16, hhigh, hoffset]

end Patches

/-! ### From the OTP -/

theorem milangUpOffset_parsed {otp : List UInt8} {c : MilangOtpCfg}
    (h : milangParseOtp otp = .ok c) : milangUpOffset c = c.fdtDelta.toNat := by
  obtain ⟨-, hdelta, hflag⟩ := milangParseOtp_ok h
  have hlt : c.fdtDelta.toNat < 0x8000 := by
    rw [hdelta]
    exact otpFdtDelta_lt _
  rw [milangUpOffset, if_pos hflag]
  show c.fdtDelta.toBitVec.toInt = _
  rw [BitVec.toInt_eq_toNat_cond, if_pos]
  · rfl
  · show 2 * c.fdtDelta.toNat < 2 ^ 16
    omega

/--
**The calibration reaches the sensor unaltered exactly when the voted tcode byte
is not one whose FDT delta needs more than eight bits.**
-/
theorem milangCalibration_iff {otp : List UInt8} {c : MilangOtpCfg}
    (hotp : milangParseOtp otp = .ok c) {t : List UInt8} (ht : MilangTemplate t) :
    (∃ blob out, Delivered t c blob out) ↔ ¬ FdtDeltaWide (otpTcodeByte otp) := by
  obtain ⟨-, hdelta, hflag⟩ := milangParseOtp_ok hotp
  rw [delivered_iff ht hflag (milangUpOffset_parsed hotp), hdelta, otpFdtDelta_lt_iff]

/-- An OTP whose three copies of a number agree. -/
def otpOf (tcode dac crc : UInt8) : List UInt8 :=
  zeros 0x16 ++ [tcode, ~~~ tcode, 0, tcode, dac, ~~~ dac, 0, 0, crc, dac]

theorem milangCalibration_iff_0x70 :
    (∃ blob out, Delivered milangCfgTemplate ⟨0x80, 8, 0x818, true, true⟩ blob out) ↔
      ¬ FdtDeltaWide (otpTcodeByte (otpOf 0x70 0x81 0x71)) := by
  have hotp : milangParseOtp (otpOf 0x70 0x81 0x71) = .ok ⟨0x80, 8, 0x818, true, true⟩ := by
    decide +kernel
  exact milangCalibration_iff hotp milangCfgTemplate_template

/-- The tcode byte 6 gives the delta 266, of which the register gets 10. -/
theorem milangCalibration_0x06 :
    milangParseOtp (otpOf 0x06 0x81 0x71) = .ok ⟨0x10, 266, 0x818, true, true⟩ ∧
      MilangTemplate milangCfgTemplate ∧
      ¬ ∃ blob out, Delivered milangCfgTemplate ⟨0x10, 266, 0x818, true, true⟩ blob out := by
  have hoffset : milangUpOffset ⟨0x10, 266, 0x818, true, true⟩ = (266 : UInt16).toNat := by
    decide
  refine ⟨by decide +kernel, milangCfgTemplate_template, ?_⟩
  rw [delivered_iff milangCfgTemplate_template rfl hoffset]
  decide

end Gxfp
