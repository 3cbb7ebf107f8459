/-
The thresholds that `fdt_upbase_from_raw` computes.

The finger is up again when what the sensor measures rises over half the raw base value
and an offset.  The threshold is one byte, stored in both halves of a table's entry, and
the sum is a 16-bit number: nothing compares it with a byte.  `fdt_base_valid` has
looked at the base, but at its low byte only and before the offset is added, so it
accepts bases for which the sum has nine bits or more.

The offset is a constant or the FDT delta of the OTP, which may itself be larger than a
byte (`FdtDeltaWide`); no base gives a threshold then.
-/
import Gxfp.Flow.Fdt
import Gxfp.Algo.Otp

namespace Gxfp

open Bytes

/-! ### What a threshold is -/

/-- `dac_offset` is 0, or a delta that an OTP gives. -/
def FdtDacOffset (dacOffset : Int16) : Prop :=
  dacOffset = 0 ∨
    ∃ otp c, milangParseOtp otp = .ok c ∧ dacOffset = c.fdtDelta.toInt16

/-- What is added to half a base value. -/
def fdtUpOffset (dacOffset : Int16) : Int :=
  if dacOffset = 0 then 0x15 else dacOffset.toInt

/-- The zone of entry `i` is touched, or counts as if it were. -/
def FdtTouched (touchflag : UInt16) (secondFlag : Bool) (i : Nat) : Prop :=
  secondFlag = true ∨ (touchflag >>> i.toUInt16) &&& 0x1 ≠ 0

instance (touchflag : UInt16) (secondFlag : Bool) (i : Nat) :
    Decidable (FdtTouched touchflag secondFlag i) := inferInstanceAs (Decidable (_ ∨ _))

/-- Both halves of entry `i` hold the threshold for the base value `raw`. -/
def FdtThreshold (table : List UInt8) (i : Nat) (raw : UInt16) (offset : Int) : Prop :=
  ∃ t : UInt8, byteAt table (i * 2) = t ∧ byteAt table (i * 2 + 1) = t ∧
    (t.toNat : Int) = (raw >>> 1).toNat + offset ∧ (raw >>> 1).toNat ≤ t.toNat

/-! ### The entries -/

section Entries

variable {table : List UInt8}

theorem byteAt_setLe16 {i : Nat} (hi : i * 2 + 1 < table.length) (w : UInt16) :
    byteAt (setLe16 table i w) (i * 2) = loByte w.toNat ∧
      byteAt (setLe16 table i w) (i * 2 + 1) = hiByte w.toNat := by
  constructor
  · rw [setLe16, byteAt_set_ne _ (by omega), byteAt_set_self (by omega)]
  · rw [setLe16, byteAt_set_self (by rwa [List.length_set])]

theorem byteAt_setLe16_ne {i j : Nat} (hij : i ≠ j) (w : UInt16) :
    byteAt (setLe16 table i w) (j * 2) = byteAt table (j * 2) ∧
      byteAt (setLe16 table i w) (j * 2 + 1) = byteAt table (j * 2 + 1) := by
  constructor
  · rw [setLe16, byteAt_set_ne _ (by omega), byteAt_set_ne _ (by omega)]
  · rw [setLe16, byteAt_set_ne _ (by omega), byteAt_set_ne _ (by omega)]

/-- **Writing the first entries one after the other leaves each as it was written.** -/
theorem byteAt_foldl_setLe16 (word : Nat → UInt16) {n : Nat} (hn : n * 2 ≤ table.length) :
    ((List.range n).foldl (fun t i => setLe16 t i (word i)) table).length = table.length ∧
    ∀ i < n,
      byteAt ((List.range n).foldl (fun t i => setLe16 t i (word i)) table) (i * 2) =
        loByte (word i).toNat ∧
      byteAt ((List.range n).foldl (fun t i => setLe16 t i (word i)) table) (i * 2 + 1) =
        hiByte (word i).toNat := by
  induction n with
  | zero => exact ⟨rfl, fun i hi => absurd hi (Nat.not_lt_zero i)⟩
  | succ n ih =>
      obtain ⟨hlen, hentries⟩ := ih (by omega)
      rw [List.range_succ, List.foldl_append, List.foldl_cons, List.foldl_nil]
      constructor
      · rw [← hlen]
        exact (List.length_set).trans List.length_set
      · intro i hi
        by_cases hlast : i = n
        · subst hlast
          exact byteAt_setLe16 (by omega) (word i)
        · obtain ⟨hlo, hhi⟩ := byteAt_setLe16_ne (Ne.symm hlast) (word n)
          rw [hlo, hhi]
          exact hentries i (by omega)

end Entries

/-! ### One entry -/

/-- **The offset fits a positive `int16_t`**, and is what the code adds. -/
theorem FdtDacOffset.offset {dacOffset : Int16} (h : FdtDacOffset dacOffset) :
    ((if dacOffset = 0 then fdtUpDefaultOffset else dacOffset.toUInt16).toNat : Int) =
      fdtUpOffset dacOffset ∧
    (if dacOffset = 0 then fdtUpDefaultOffset else dacOffset.toUInt16).toNat < 0x8000 := by
  by_cases hzero : dacOffset = 0
  · rw [if_pos hzero, fdtUpOffset, if_pos hzero]
    decide
  · rw [if_neg hzero, fdtUpOffset, if_neg hzero]
    rcases h with hdac | ⟨otp, c, hparse, rfl⟩
    · exact absurd hdac hzero
    · obtain ⟨-, hdelta, -⟩ := milangParseOtp_ok hparse
      have hlt := otpFdtDelta_lt (otpTcodeByte otp)
      rw [← hdelta] at hlt
      have hint : c.fdtDelta.toInt16.toInt = c.fdtDelta.toNat := by
        show c.fdtDelta.toBitVec.toInt = _
        rw [BitVec.toInt_eq_toNat_of_lt]
        · rfl
        · show 2 * c.fdtDelta.toNat < 65536
          omega
      exact ⟨hint.symm, hlt⟩

/-- A byte in both halves. -/
theorem threshold_word (t : UInt8) : (t.toUInt16 <<< 8) ||| t.toUInt16 = le16 t t := by
  rw [le16, UInt16.or_comm]

/-- **An entry is a threshold exactly where the sum is a byte.** -/
theorem fdtThreshold_iff {dacOffset : Int16} (hdac : FdtDacOffset dacOffset) {touchflag : UInt16}
    {secondFlag : Bool} {i : Nat} (htouched : FdtTouched touchflag secondFlag i) (raw : UInt16)
    {table : List UInt8}
    (hlo : byteAt table (i * 2) =
      loByte (fdtUpEncoded touchflag secondFlag dacOffset raw i).toNat)
    (hhi : byteAt table (i * 2 + 1) =
      hiByte (fdtUpEncoded touchflag secondFlag dacOffset raw i).toNat) :
    FdtThreshold table i raw (fdtUpOffset dacOffset) ↔
      (raw.toNat : Int) < 2 * (256 - fdtUpOffset dacOffset) := by
  obtain ⟨hoffset, hsmall⟩ := hdac.offset
  have hhalf : (raw >>> 1).toNat = raw.toNat / 2 := by
    rw [UInt16.toNat_shiftRight]
    exact Nat.shiftRight_eq_div_pow raw.toNat 1
  have hraw : raw.toNat < 65536 := raw.toNat_lt
  constructor
  · rintro ⟨t, -, -, hsum, -⟩
    have ht : t.toNat < 256 := t.toNat_lt
    rw [hhalf] at hsum
    omega
  · intro hbound
    have hsum : raw.toNat / 2 + (if dacOffset = 0 then fdtUpDefaultOffset
        else dacOffset.toUInt16).toNat < 256 := by omega
    generalize hadd : (if dacOffset = 0 then fdtUpDefaultOffset else dacOffset.toUInt16) = offset
      at hoffset hsum
    have hbyte : (raw >>> 1) + offset = ((raw >>> 1) + offset).toUInt8.toUInt16 := by
      refine UInt16.toNat_inj.mp ?_
      rw [UInt8.toNat_toUInt16, UInt16.toNat_toUInt8, UInt16.toNat_add, hhalf]
      omega
    have htoNat : ((raw >>> 1) + offset).toUInt8.toNat = raw.toNat / 2 + offset.toNat := by
      rw [UInt16.toNat_toUInt8, UInt16.toNat_add, hhalf]
      omega
    have hnot : ¬ (secondFlag = false ∧ (touchflag >>> i.toUInt16) &&& 0x1 = 0) := by
      rintro ⟨hsecond, hflag⟩
      rcases htouched with h | h
      · exact absurd (hsecond.symm.trans h) (by simp)
      · exact h hflag
    have hword : fdtUpEncoded touchflag secondFlag dacOffset raw i =
        le16 ((raw >>> 1) + offset).toUInt8 ((raw >>> 1) + offset).toUInt8 := by
      unfold fdtUpEncoded
      dsimp only
      rw [if_neg hnot, hadd, ← threshold_word, ← hbyte]
    rw [hword, loByte_le16] at hlo
    rw [hword, hiByte_le16] at hhi
    refine ⟨_, hlo, hhi, ?_, ?_⟩
    · rw [htoNat, hhalf, ← hoffset]
      omega
    · rw [htoNat, hhalf]
      omega

/-! ### The table -/

/--
**Every touched entry is a threshold exactly if every base value leaves room for the
offset.**
-/
theorem fdtUpThresholds_iff {raw table : List UInt8} (hvalid : fdtBaseValid raw = true)
    (htable : table.length = fdtBaseTableLen) {dacOffset : Int16} (hdac : FdtDacOffset dacOffset)
    (touchflag : UInt16) (secondFlag : Bool) :
    (∀ i < fdtEntries raw, FdtTouched touchflag secondFlag i →
      FdtThreshold (fdtUpbaseFromRaw touchflag secondFlag false dacOffset raw table) i
        (le16At raw (i * 2)) (fdtUpOffset dacOffset)) ↔
    ∀ i < fdtEntries raw, FdtTouched touchflag secondFlag i →
      ((le16At raw (i * 2)).toNat : Int) < 2 * (256 - fdtUpOffset dacOffset) := by
  have hraw : ¬ raw.length < 2 := by
    intro hshort
    rw [fdtBaseValid, if_pos hshort] at hvalid
    exact absurd hvalid (by simp)
  have hroom : fdtEntries raw * 2 ≤ table.length := by
    have hentries : fdtEntries raw ≤ 10 := Nat.min_le_right _ _
    rw [htable]
    show fdtEntries raw * 2 ≤ 24
    omega
  obtain ⟨-, hbytes⟩ := byteAt_foldl_setLe16 (fun i =>
    fdtUpEncoded touchflag secondFlag dacOffset (le16At raw (i * 2)) i) hroom
  have hloop : fdtUpbaseFromRaw touchflag secondFlag false dacOffset raw table =
      (List.range (fdtEntries raw)).foldl (fun t i => setLe16 t i
        (fdtUpEncoded touchflag secondFlag dacOffset (le16At raw (i * 2)) i)) table := by
    rw [fdtUpbaseFromRaw, if_neg hraw]
    simp only [Bool.false_eq_true, false_and, if_false]
  rw [hloop]
  constructor
  · intro h i hi htouched
    exact (fdtThreshold_iff hdac htouched _ (hbytes i hi).1 (hbytes i hi).2).mp (h i hi htouched)
  · intro h i hi htouched
    exact (fdtThreshold_iff hdac htouched _ (hbytes i hi).1 (hbytes i hi).2).mpr (h i hi htouched)

/-- A low base value, and the offset of an OTP with tcode 0x70. -/
theorem fdtUpThresholds_iff_otp :
    (∀ i < fdtEntries [0x40, 0x00], FdtTouched 0x0001 false i →
      FdtThreshold (fdtUpbaseFromRaw 0x0001 false false 8 [0x40, 0x00] (zeros 24)) i
        (le16At [0x40, 0x00] (i * 2)) (fdtUpOffset 8)) ↔
    ∀ i < fdtEntries [0x40, 0x00], FdtTouched 0x0001 false i →
      ((le16At [0x40, 0x00] (i * 2)).toNat : Int) < 2 * (256 - fdtUpOffset 8) :=
  fdtUpThresholds_iff (by decide) (length_zeros 24)
    (Or.inr ⟨zeros 0x16 ++ [0x70, 0x8F, 0, 0x70, 0x81, 0x7E, 0, 0, 0x71, 0x81],
      ⟨0x80, 8, 0x818, true, true⟩, by decide +kernel, by decide⟩) 0x0001 false

/-- **A base that is accepted, and a threshold that is less than it.** -/
theorem fdtUpThreshold_wrapped :
    fdtBaseValid [0xFC, 0x01] = true ∧ FdtTouched 0 true 0 ∧
      fdtUpbaseFromRaw 0 true false 0 [0xFC, 0x01] (zeros 24) = 0x13 :: 0x13 :: zeros 22 ∧
      ¬ FdtThreshold (fdtUpbaseFromRaw 0 true false 0 [0xFC, 0x01] (zeros 24)) 0
        (le16At [0xFC, 0x01] 0) (fdtUpOffset 0) := by
  have hloop : fdtUpbaseFromRaw 0 true false 0 [0xFC, 0x01] (zeros 24) =
      0x13 :: 0x13 :: zeros 22 := by decide
  refine ⟨by decide, Or.inl rfl, hloop, ?_⟩
  rintro ⟨t, hlo, -, -, hle⟩
  rw [hloop] at hlo
  rw [← hlo] at hle
  exact absurd hle (by decide)

end Gxfp
