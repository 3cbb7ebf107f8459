/-
The calibration data of `src/algo/sensor_cfg.c`.

The sensor keeps its calibration in one-time-programmable memory, each number in
three copies and the whole under a sum and a CRC.  `milangCheckOtp` votes on the
copies; `milangParseOtp` computes register values from what it chose.

Of an OTP whose copies agree, one byte may be wrong: where the CRC covers it, it is
noticed, and where it is a copy it is outvoted (`milangCheckOtp_set`).
-/
import Mathlib.Data.List.GetD
import Gxfp.Library.Bytes
import Gxfp.Library.Crc
import Gxfp.Errno

namespace Gxfp

open Bytes

/-! ### The functions of `sensor_cfg.c` -/

def otpIdxTcode : Nat := 0x16
def otpIdxTcodeNeg : Nat := 0x17
def otpIdxTcodeAlt : Nat := 0x19
def otpIdxDac : Nat := 0x1A
def otpIdxDacBak : Nat := 0x1B
def otpIdxDacNeg : Nat := 0x1F
def otpIdxFtCrc : Nat := 0x1E
def otpMinLen : Nat := 0x20

/-- `struct gxfp_milang_otp_check` -/
structure MilangOtpCheck where
  tcodeRaw : UInt8
  dacRaw : UInt8
  deriving DecidableEq, Repr

/-- `struct gxfp_milang_otp_cfg` -/
structure MilangOtpCfg where
  tcode : UInt16
  fdtDelta : UInt16
  dac : UInt16
  hasDac : Bool
  hasTcodeDelta : Bool
  deriving DecidableEq, Repr

/-- One bit of `gxfp_milang_crc8`. -/
def crc8Bit (crc : UInt8) : UInt8 :=
  if crc &&& 0x80 ≠ 0 then (crc <<< 1) ^^^ 0x07 else crc <<< 1

/-- `gxfp_milang_crc8` -/
def milangCrc8 (data : List UInt8) : UInt8 :=
  ~~~ data.foldl (fun crc b => Nat.repeat crc8Bit 8 (crc ^^^ b)) 0

/-- The bytes that add up to zero. -/
def otpCpSum (otp : List UInt8) : UInt8 :=
  (otp.take 8).foldl (· + ·) 0 + byteAt otp 0x12 + byteAt otp 0x13 + byteAt otp 0x1D

/-- The bytes under the CRC. -/
def otpFtBuf (otp : List UInt8) : List UInt8 :=
  otp.take 0x11 ++ [byteAt otp 0x12, byteAt otp 0x13, byteAt otp 0x1C, byteAt otp 0x1D,
    byteAt otp 0x1F]

/-- The vote over a number, its complement and a third copy. -/
def otpVote (first neg alt : UInt8) : Option UInt8 :=
  if first ≠ 0 ∧ first = ~~~ neg then some first
  else if first ≠ 0 ∧ first = alt then some first
  else if alt ≠ 0 ∧ alt = ~~~ neg then some alt
  else none

/-- `gxfp_milang_check_otp` -/
def milangCheckOtp (otp : List UInt8) : Except Errno MilangOtpCheck :=
  if otp.length < otpMinLen then .error .badmsg
  else if otpCpSum otp ≠ 0 then .error .badmsg
  else if milangCrc8 (otpFtBuf otp) ≠ byteAt otp otpIdxFtCrc then .error .badmsg
  else
    match otpVote (byteAt otp otpIdxTcode) (byteAt otp otpIdxTcodeNeg)
      (byteAt otp otpIdxTcodeAlt) with
    | none => .error .badmsg
    | some tcodeRaw =>
      match otpVote (byteAt otp otpIdxDacNeg) (byteAt otp otpIdxDacBak)
        (byteAt otp otpIdxDac) with
      | none => .error .badmsg
      | some dacRaw => .ok { tcodeRaw, dacRaw }

/-- The TCODE register value of a stored byte. -/
def otpTcodeReg (tcodeRaw : UInt8) : UInt16 := ((tcodeRaw >>> 4).toUInt16 + 1) * 0x10

/-- The FDT delta of a stored byte. -/
def otpFdtDelta (tcodeRaw : UInt8) : UInt16 :=
  let quot :=
    (((tcodeRaw &&& 0x0F).toUInt32 + 2) * 0x6400 / (otpTcodeReg tcodeRaw).toUInt32).toUInt16
  (quot / 3) >>> 4

/-- `gxfp_milang_parse_otp` -/
def milangParseOtp (otp : List UInt8) : Except Errno MilangOtpCfg :=
  match milangCheckOtp otp with
  | .error e => .error e
  | .ok check =>
    if otpTcodeReg check.tcodeRaw = 0 then .error .badmsg
    else .ok
      { tcode := otpTcodeReg check.tcodeRaw
        fdtDelta := otpFdtDelta check.tcodeRaw
        dac := (check.dacRaw.toUInt16 <<< 4) ||| 0x0008
        hasDac := true
        hasTcodeDelta := true }

/-! ### The FDT delta -/

/-- The byte that an accepted OTP gives for tcode, read off the three copies. -/
def otpTcodeByte (otp : List UInt8) : UInt8 :=
  if byteAt otp otpIdxTcode ≠ 0 ∧
      (byteAt otp otpIdxTcode = ~~~ byteAt otp otpIdxTcodeNeg ∨
        byteAt otp otpIdxTcode = byteAt otp otpIdxTcodeAlt) then byteAt otp otpIdxTcode
  else byteAt otp otpIdxTcodeAlt

/-- The bytes whose delta does not fit the high byte of a register. -/
def FdtDeltaWide (raw : UInt8) : Prop := (0x06 ≤ raw ∧ raw ≤ 0x0F) ∨ raw = 0x1E ∨ raw = 0x1F

instance (raw : UInt8) : Decidable (FdtDeltaWide raw) := inferInstanceAs (Decidable (_ ∨ _))

theorem toNat_otpTcodeReg (raw : UInt8) :
    (otpTcodeReg raw).toNat = 16 * (raw.toNat / 16 + 1) := by
  have hraw := raw.toNat_lt
  have hhi : (raw >>> 4).toNat = raw.toNat / 16 := by
    rw [UInt8.toNat_shiftRight]
    exact Nat.shiftRight_eq_div_pow raw.toNat 4
  simp only [otpTcodeReg, UInt16.toNat_mul, UInt16.toNat_add, UInt8.toNat_toUInt16, hhi,
    UInt16.toNat_ofNat]
  omega

/-- The delta as a number: no step of its computation overflows. -/
theorem toNat_otpFdtDelta (raw : UInt8) :
    (otpFdtDelta raw).toNat =
      (raw.toNat % 16 + 2) * 0x6400 / (16 * (raw.toNat / 16 + 1)) / 3 / 16 := by
  have hraw := raw.toNat_lt
  have hlo : (raw &&& 0x0F).toNat = raw.toNat % 16 := by
    rw [UInt8.toNat_and]
    exact Nat.and_two_pow_sub_one_eq_mod raw.toNat 4
  have hnum : (((raw &&& 0x0F).toUInt32 + 2) * 0x6400).toNat = (raw.toNat % 16 + 2) * 0x6400 := by
    simp only [UInt32.toNat_mul, UInt32.toNat_add, UInt8.toNat_toUInt32, hlo, UInt32.toNat_ofNat]
    omega
  have hquot : (raw.toNat % 16 + 2) * 0x6400 / (16 * (raw.toNat / 16 + 1)) < 65536 := by
    rw [Nat.div_lt_iff_lt_mul (by omega)]
    omega
  simp only [otpFdtDelta, UInt16.toNat_shiftRight, UInt16.toNat_div, UInt32.toNat_toUInt16,
    UInt32.toNat_div, hnum, UInt16.toNat_toUInt32, toNat_otpTcodeReg, UInt16.toNat_ofNat,
    Nat.shiftRight_eq_div_pow]
  rw [Nat.mod_eq_of_lt hquot]

/-- **The delta fits one byte exactly for the bytes that are not wide.** -/
theorem otpFdtDelta_lt_iff (raw : UInt8) : (otpFdtDelta raw).toNat < 256 ↔ ¬ FdtDeltaWide raw := by
  have hraw := raw.toNat_lt
  rw [toNat_otpFdtDelta, Nat.div_lt_iff_lt_mul (by omega), Nat.div_lt_iff_lt_mul (by omega),
    Nat.div_lt_iff_lt_mul (by omega)]
  simp only [FdtDeltaWide, UInt8.le_iff_toNat_le, ← UInt8.toNat_inj, UInt8.toNat_ofNat]
  omega

theorem otpFdtDelta_lt (raw : UInt8) : (otpFdtDelta raw).toNat < 0x8000 := by
  have hraw := raw.toNat_lt
  rw [toNat_otpFdtDelta, Nat.div_lt_iff_lt_mul (by omega), Nat.div_lt_iff_lt_mul (by omega),
    Nat.div_lt_iff_lt_mul (by omega)]
  omega

/-! ### What an accepted OTP is parsed to -/

theorem otpVote_eq {first neg alt b : UInt8} (h : otpVote first neg alt = some b) :
    b = if first ≠ 0 ∧ (first = ~~~ neg ∨ first = alt) then first else alt := by
  unfold otpVote at h
  by_cases hneg : first ≠ 0 ∧ first = ~~~ neg
  · rw [if_pos hneg] at h
    rw [if_pos ⟨hneg.1, Or.inl hneg.2⟩]
    exact (Option.some.inj h).symm
  · rw [if_neg hneg] at h
    by_cases halt : first ≠ 0 ∧ first = alt
    · rw [if_pos halt] at h
      rw [if_pos ⟨halt.1, Or.inr halt.2⟩]
      exact (Option.some.inj h).symm
    · rw [if_neg halt] at h
      rw [if_neg (by tauto)]
      simp only [Option.ite_none_right_eq_some, Option.some.injEq] at h
      exact h.2.symm

theorem milangCheckOtp_tcode {otp : List UInt8} {check : MilangOtpCheck}
    (h : milangCheckOtp otp = .ok check) : check.tcodeRaw = otpTcodeByte otp := by
  unfold milangCheckOtp at h
  split at h
  · simp at h
  · split at h
    · simp at h
    · split at h
      · simp at h
      · split at h
        · simp at h
        · rename_i tcodeRaw hvote
          split at h
          · simp at h
          · simp only [Except.ok.injEq] at h
            rw [← h]
            exact otpVote_eq hvote

/-- **The parsed numbers are those of the voted byte.** -/
theorem milangParseOtp_ok {otp : List UInt8} {c : MilangOtpCfg} (h : milangParseOtp otp = .ok c) :
    c.tcode = otpTcodeReg (otpTcodeByte otp) ∧ c.fdtDelta = otpFdtDelta (otpTcodeByte otp) ∧
      c.hasTcodeDelta = true := by
  unfold milangParseOtp at h
  split at h
  · simp at h
  · rename_i check hcheck
    split at h
    · simp at h
    · simp only [Except.ok.injEq] at h
      rw [← h, milangCheckOtp_tcode hcheck]
      exact ⟨rfl, rfl, rfl⟩

/-! ### One wrong byte

The three copies of a number outvote any one of them, and none of the other bytes is
looked at for its value: they are under the CRC, or nothing looks at them at all.
-/

/-- The copies agree, both of them complemented where it is stored so. -/
structure OtpCopiesAgree (otp : List UInt8) : Prop where
  tcode_neg : byteAt otp otpIdxTcode = ~~~ byteAt otp otpIdxTcodeNeg
  tcode_alt : byteAt otp otpIdxTcode = byteAt otp otpIdxTcodeAlt
  dac_neg : byteAt otp otpIdxDacNeg = ~~~ byteAt otp otpIdxDacBak
  dac_alt : byteAt otp otpIdxDacNeg = byteAt otp otpIdxDac

/-- The bytes under the CRC, and the CRC. -/
def OtpProtected (i : Nat) : Prop := i < 0x11 ∨ i = 0x12 ∨ i = 0x13 ∨ (0x1C ≤ i ∧ i < 0x20)

instance (i : Nat) : Decidable (OtpProtected i) := inferInstanceAs (Decidable (_ ∨ _))

theorem milangCheckOtp_ok_iff {otp : List UInt8} {check : MilangOtpCheck} :
    milangCheckOtp otp = .ok check ↔ otpMinLen ≤ otp.length ∧ otpCpSum otp = 0 ∧
      milangCrc8 (otpFtBuf otp) = byteAt otp otpIdxFtCrc ∧
      otpVote (byteAt otp otpIdxTcode) (byteAt otp otpIdxTcodeNeg) (byteAt otp otpIdxTcodeAlt) =
        some check.tcodeRaw ∧
      otpVote (byteAt otp otpIdxDacNeg) (byteAt otp otpIdxDacBak) (byteAt otp otpIdxDac) =
        some check.dacRaw := by
  unfold milangCheckOtp
  by_cases hlen : otp.length < otpMinLen
  · simp [hlen, Nat.not_le.mpr hlen]
  · by_cases hsum : otpCpSum otp = 0
    · by_cases hcrc : milangCrc8 (otpFtBuf otp) = byteAt otp otpIdxFtCrc
      · rw [if_neg hlen, if_neg (not_not.mpr hsum), if_neg (not_not.mpr hcrc)]
        split
        · simp [*]
        · split
          · simp [*]
          · cases check
            simp [*, Nat.not_lt.mp hlen]
      · simp [hlen, hsum, hcrc]
    · simp [hlen, hsum]

/-- An OTP that is not accepted is a bad message. -/
theorem milangCheckOtp_error {otp : List UInt8} (h : ∀ check, milangCheckOtp otp ≠ .ok check) :
    milangCheckOtp otp = .error .badmsg := by
  unfold milangCheckOtp at h ⊢
  split
  · rfl
  · split
    · rfl
    · split
      · rfl
      · split
        · rfl
        · split
          · rfl
          · simp_all

/-- **Two of three copies decide.** -/
theorem otpVote_majority {first neg alt v : UInt8} (hv : v ≠ 0)
    (h : (first = v ∧ ~~~ neg = v) ∨ (first = v ∧ alt = v) ∨ (alt = v ∧ ~~~ neg = v)) :
    otpVote first neg alt = some v := by
  unfold otpVote
  rcases h with ⟨hfirst, hneg⟩ | ⟨hfirst, halt⟩ | ⟨halt, hneg⟩
  · rw [hfirst, hneg, if_pos ⟨hv, rfl⟩]
  · rw [hfirst, halt]
    by_cases hneg : v = ~~~ neg
    · rw [if_pos ⟨hv, hneg⟩]
    · rw [if_neg fun h => hneg h.2, if_pos ⟨hv, rfl⟩]
  · rw [halt, hneg]
    by_cases hfirst : first = v
    · rw [hfirst, if_pos ⟨hv, rfl⟩]
    · rw [if_neg fun h => hfirst h.2, if_neg fun h => hfirst h.2, if_pos ⟨hv, rfl⟩]

theorem otpVote_ne_zero {first neg alt v : UInt8} (h : otpVote first neg alt = some v) : v ≠ 0 := by
  unfold otpVote at h
  split at h
  · rename_i hfirst
    exact Option.some.inj h ▸ hfirst.1
  · split at h
    · rename_i hfirst
      exact Option.some.inj h ▸ hfirst.1
    · split at h
      · rename_i halt
        exact Option.some.inj h ▸ halt.1
      · simp at h

/-- **One wrong byte does not change the vote.** -/
theorem otpVote_set {otp : List UInt8} {p q r : Nat} (hpq : p ≠ q) (hpr : p ≠ r) (hqr : q ≠ r)
    (hneg : byteAt otp p = ~~~ byteAt otp q) (halt : byteAt otp p = byteAt otp r) {v : UInt8}
    (h : otpVote (byteAt otp p) (byteAt otp q) (byteAt otp r) = some v) (i : Nat) (b : UInt8) :
    otpVote (byteAt (otp.set i b) p) (byteAt (otp.set i b) q) (byteAt (otp.set i b) r) =
      some v := by
  have hv : v ≠ 0 := otpVote_ne_zero h
  have hfirst : byteAt otp p = v := by
    have hself := otpVote_eq h
    by_cases hzero : byteAt otp p = 0
    · rw [if_neg fun hne => hne.1 hzero, ← halt] at hself
      exact hself.symm
    · rw [if_pos ⟨hzero, Or.inl hneg⟩] at hself
      exact hself.symm
  refine otpVote_majority hv ?_
  by_cases hip : i = p
  · subst hip
    rw [byteAt_set_ne _ hpq, byteAt_set_ne _ hpr]
    exact Or.inr (Or.inr ⟨halt ▸ hfirst, hneg ▸ hfirst⟩)
  · rw [byteAt_set_ne _ hip]
    by_cases hiq : i = q
    · subst hiq
      rw [byteAt_set_ne _ hqr]
      exact Or.inr (Or.inl ⟨hfirst, halt ▸ hfirst⟩)
    · rw [byteAt_set_ne _ hiq]
      exact Or.inl ⟨hfirst, hneg ▸ hfirst⟩

/-! ### The CRC -/

theorem crc8Bit_eq (crc : UInt8) : (crc8Bit crc).toBitVec = Crc.step 0x07#8 crc.toBitVec := by
  have hmsb : crc &&& 0x80 = 0 ↔ crc.toBitVec.msb = false := by
    rw [← UInt8.toBitVec_inj]
    exact Crc.and_twoPow_eq_zero (by omega) crc.toBitVec
  simp only [crc8Bit, Crc.step, ne_eq, hmsb]
  cases crc.toBitVec.msb
  · rfl
  · rfl

theorem crc8Bit_injective : Function.Injective crc8Bit := by
  intro x y h
  have hstep := congrArg UInt8.toBitVec h
  rw [crc8Bit_eq, crc8Bit_eq] at hstep
  exact UInt8.toBitVec_inj.mp (Crc.step_injective 0x07#8 (by decide) hstep)

theorem crc8Byte_injective : Function.Injective fun crc => Nat.repeat crc8Bit 8 crc := by
  intro x y h
  have hrepeat : ∀ n, Function.Injective fun crc => Nat.repeat crc8Bit n crc := by
    intro n
    induction n with
    | zero => exact fun _ _ h => h
    | succ n ih => exact fun _ _ h => ih (crc8Bit_injective h)
  exact hrepeat 8 h

theorem xor_right_inj8 {a b c : UInt8} (h : a ^^^ b = a ^^^ c) : b = c := by
  have hxor := congrArg (a ^^^ ·) h
  simpa only [← UInt8.xor_assoc, UInt8.xor_self, UInt8.zero_xor] using hxor

/-- **The CRC tells any one wrong byte.** -/
theorem milangCrc8_set {data : List UInt8} {i : Nat} (hi : i < data.length) {b : UInt8}
    (h : milangCrc8 (data.set i b) = milangCrc8 data) : b = byteAt data i := by
  have hfold := UInt8.not_inj.mp h
  rw [byteAt, List.getD_eq_getElem _ _ hi]
  refine Crc.foldl_set_injective ?_ ?_ hi hfold
  · intro b x y hxy
    have hsum := crc8Byte_injective hxy
    rw [UInt8.xor_comm x, UInt8.xor_comm y] at hsum
    exact xor_right_inj8 hsum
  · intro crc x y hxy
    exact xor_right_inj8 (crc8Byte_injective hxy)

/-- What is gathered for the CRC, byte by byte. -/
def otpFtSource (k : Nat) : Nat :=
  if k < 0x11 then k else [0x12, 0x13, 0x1C, 0x1D, 0x1F].getD (k - 0x11) 0

theorem otpFtBuf_eq {otp : List UInt8} (hlen : otpMinLen ≤ otp.length) :
    otpFtBuf otp = (List.range 0x16).map fun k => byteAt otp (otpFtSource k) := by
  have hmin : 0x20 ≤ otp.length := hlen
  have htake : otp.take 0x11 = (List.range 0x11).map fun k => byteAt otp k := by
    refine List.ext_getElem (by simp; omega) ?_
    intro k hk hk'
    rw [List.getElem_take, List.getElem_map, List.getElem_range, byteAt,
      List.getD_eq_getElem _ _ (by simp at hk; omega)]
  rw [otpFtBuf, htake]
  rfl

theorem otpFtSource_inj : ∀ j < 0x16, ∀ k < 0x16, otpFtSource j = otpFtSource k → j = k := by
  decide

/-- **A wrong byte under the CRC is one wrong byte of what is gathered.** -/
theorem otpFtBuf_set {otp : List UInt8} (hlen : otpMinLen ≤ otp.length) {k : Nat} (hk : k < 0x16)
    (b : UInt8) : otpFtBuf (otp.set (otpFtSource k) b) = (otpFtBuf otp).set k b := by
  have hmin : 0x20 ≤ otp.length := hlen
  have hsource : otpFtSource k < 0x20 := (by decide : ∀ k < 0x16, otpFtSource k < 0x20) k hk
  rw [otpFtBuf_eq hlen, otpFtBuf_eq (by rwa [List.length_set])]
  refine List.ext_getElem (by simp) ?_
  intro j hj hj'
  rw [List.length_map, List.length_range] at hj
  rw [List.getElem_map, List.getElem_range, List.getElem_set]
  by_cases hjk : k = j
  · subst hjk
    rw [if_pos rfl, byteAt_set_self (by omega)]
  · rw [if_neg hjk, List.getElem_map, List.getElem_range, byteAt_set_ne]
    intro heq
    exact hjk (otpFtSource_inj k hk j hj heq)

theorem otpProtected_source {i : Nat} (hi : OtpProtected i) (hcrc : i ≠ otpIdxFtCrc) :
    ∃ k < 0x16, otpFtSource k = i := by
  have hbound : i < 0x20 := by
    unfold OtpProtected at hi
    omega
  exact (by decide : ∀ i < 0x20, OtpProtected i → i ≠ otpIdxFtCrc →
    ∃ k < 0x16, otpFtSource k = i) i hbound hi hcrc

/-- What is gathered does not change with any other byte. -/
theorem otpFtBuf_set_ne {otp : List UInt8} (hlen : otpMinLen ≤ otp.length) {i : Nat}
    (hi : ∀ k < 0x16, i ≠ otpFtSource k) (b : UInt8) : otpFtBuf (otp.set i b) = otpFtBuf otp := by
  rw [otpFtBuf_eq hlen, otpFtBuf_eq (by rwa [List.length_set])]
  exact List.map_congr_left fun k hk => byteAt_set_ne _ (hi k (List.mem_range.mp hk)) _

/-- **A wrong byte under the CRC, or a wrong CRC, is noticed.** -/
theorem milangCheckOtp_set_protected {otp : List UInt8} {check : MilangOtpCheck}
    (hok : milangCheckOtp otp = .ok check) {i : Nat} (hi : OtpProtected i) {b : UInt8}
    (hb : b ≠ byteAt otp i) : milangCheckOtp (otp.set i b) = .error .badmsg := by
  obtain ⟨hlen, -, hcrc, -, -⟩ := milangCheckOtp_ok_iff.mp hok
  refine milangCheckOtp_error fun check' hok' => hb ?_
  obtain ⟨-, -, hcrc', -, -⟩ := milangCheckOtp_ok_iff.mp hok'
  by_cases hstored : i = otpIdxFtCrc
  · have hlt : i < otp.length := by
      rw [hstored]
      exact Nat.lt_of_lt_of_le (by decide) hlen
    have hother : ∀ k < 0x16, i ≠ otpFtSource k := by
      rw [hstored]
      decide
    rw [otpFtBuf_set_ne hlen hother, hcrc, ← hstored, byteAt_set_self hlt] at hcrc'
    exact hcrc'.symm
  · obtain ⟨k, hk, rfl⟩ := otpProtected_source hi hstored
    have hgathered : k < (otpFtBuf otp).length := by
      rw [otpFtBuf_eq hlen, List.length_map, List.length_range]
      exact hk
    rw [otpFtBuf_set hlen hk, byteAt_set_ne _ hstored, ← hcrc] at hcrc'
    rw [milangCrc8_set hgathered hcrc', otpFtBuf_eq hlen, byteAt,
      List.getD_eq_getElem _ _ (by simpa), List.getElem_map, List.getElem_range]

/-- No other byte is under the sum. -/
theorem otpCpSum_set {otp : List UInt8} {i : Nat} (hi : ¬ OtpProtected i) (b : UInt8) :
    otpCpSum (otp.set i b) = otpCpSum otp := by
  unfold OtpProtected at hi
  rw [otpCpSum, otpCpSum, List.take_set_of_le (by omega), byteAt_set_ne _ (by omega),
    byteAt_set_ne _ (by omega), byteAt_set_ne _ (by omega)]

/--
**One wrong byte is either noticed or without effect.**

The sum plays no part in it: what is under the sum is under the CRC as well.
-/
theorem milangCheckOtp_set {otp : List UInt8} {check : MilangOtpCheck}
    (hok : milangCheckOtp otp = .ok check) (hagree : OtpCopiesAgree otp) {i : Nat} {b : UInt8}
    (hb : b ≠ byteAt otp i) :
    milangCheckOtp (otp.set i b) = if OtpProtected i then .error .badmsg else .ok check := by
  by_cases hi : OtpProtected i
  · rw [if_pos hi]
    exact milangCheckOtp_set_protected hok hi hb
  · obtain ⟨hlen, hsum, hcrc, htcode, hdac⟩ := milangCheckOtp_ok_iff.mp hok
    have hgathered : ∀ k < 0x16, i ≠ otpFtSource k := by
      rintro k hk rfl
      exact hi ((by decide : ∀ k < 0x16, OtpProtected (otpFtSource k)) k hk)
    have hstored : i ≠ otpIdxFtCrc := by
      rintro rfl
      exact hi (by decide)
    rw [if_neg hi, milangCheckOtp_ok_iff]
    refine ⟨by rwa [List.length_set], by rwa [otpCpSum_set hi], ?_, ?_, ?_⟩
    · rw [otpFtBuf_set_ne hlen hgathered, byteAt_set_ne _ hstored]
      exact hcrc
    · exact otpVote_set (by decide) (by decide) (by decide) hagree.tcode_neg hagree.tcode_alt
        htcode i b
    · exact otpVote_set (by decide) (by decide) (by decide) hagree.dac_neg hagree.dac_alt hdac i b

/-- The second copy of tcode wrong, in an OTP of nothing but the two numbers and the CRC. -/
theorem milangCheckOtp_set_copy :
    milangCheckOtp ((zeros 0x16 ++ [0x70, 0x8F, 0, 0x70, 0x81, 0x7E, 0, 0, 0x71, 0x81]).set 0x17
      0x55) = if OtpProtected 0x17 then .error .badmsg else .ok ⟨0x70, 0x81⟩ :=
  milangCheckOtp_set (by decide +kernel) ⟨by decide, by decide, by decide, by decide⟩ (by decide)

end Gxfp
