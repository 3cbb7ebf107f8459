/-
The sensor configuration blob of `src/algo/sensor_cfg.c`.

The blob starts with a table of sections.  A section is a run of four-byte entries,
a register id and a value, and the last word of the blob makes all words sum to
zero from a seed.  `cfgPatchReg` finds a register in a section, writes its value
and recomputes that word.

The results say what a patch changes in terms of reading the blob back.  They need
sections that stay clear of the table, of the checksum and of each other, which is
`CfgLayout`: under it a patch changes what its own section reads
(`cfgReadReg_patched_self`) and nothing that another section reads
(`cfgReadReg_patched_other`).
-/
import Mathlib.Data.List.Find
import Gxfp.Library.Bytes
import Gxfp.Errno

namespace Gxfp

open Bytes

/-! ### The functions of `sensor_cfg.c` -/

def milangCfgLen : Nat := 0xE0
def cfgHeaderLen : Nat := 0x11
def cfgChecksumWords : Nat := 0x6F
def cfgChecksumOff : Nat := 0xDE
def cfgSectionCount : Nat := 8

/-- `enum gxfp_milang_cfg_write` -/
inductive CfgWrite
  | both
  | low
  | high
  deriving DecidableEq, Repr

/-- The sum of the first `n` words from the seed; `int16_t` arithmetic keeps these bits. -/
def cfgWordSum (cfg : List UInt8) : Nat → UInt16
  | 0 => 0xA5A5
  | n + 1 => cfgWordSum cfg n + le16At cfg (2 * n)

/-- `gxfp_cfg_recalc_checksum` -/
def cfgRecalcChecksum (cfg : List UInt8) : List UInt8 :=
  if cfg.length < milangCfgLen then cfg
  else
    let sum := -(cfgWordSum cfg cfgChecksumWords)
    (cfg.set cfgChecksumOff (loByte sum.toNat)).set (cfgChecksumOff + 1) (hiByte sum.toNat)

/-- Where the table says section `i` starts. -/
def cfgSectionOff (cfg : List UInt8) (i : Nat) : UInt8 := byteAt cfg (1 + i * 2)

/-- How many bytes the table gives section `i`. -/
def cfgSectionLen (cfg : List UInt8) (i : Nat) : UInt8 := byteAt cfg (1 + i * 2 + 1)

/--
The scan of `gxfp_cfg_patch_reg` for an entry, from `step` on.  The counter is a
`uint8_t`; a section that fits the blob is too short for it to wrap.
-/
def cfgScan (cfg : List UInt8) (reg : UInt16) (off len : UInt8) (hlen : len.toNat ≤ milangCfgLen)
    (step : UInt8) : Except Errno Nat :=
  if h : step.toNat < len.toNat then
    let pos := off.toNat + step.toNat
    if cfg.length < pos + 4 then .error .badmsg
    else if le16At cfg pos = reg then .ok pos
    else cfgScan cfg reg off len hlen (step + 4)
  else .error .noent
termination_by len.toNat - step.toNat
decreasing_by
  have hnowrap : (step + 4).toNat = step.toNat + 4 := by
    rw [UInt8.toNat_add]
    have : len.toNat ≤ 224 := hlen
    exact Nat.mod_eq_of_lt (show step.toNat + 4 < 256 by omega)
  omega

/-- The value bytes `write_mode` selects. -/
def cfgWriteValue (cfg : List UInt8) (pos : Nat) (val : UInt16) (mode : CfgWrite) : List UInt8 :=
  let cfg := if mode = .both ∨ mode = .low then cfg.set (pos + 2) (loByte val.toNat) else cfg
  if mode = .both ∨ mode = .high then cfg.set (pos + 3) (hiByte val.toNat) else cfg

/-- `gxfp_cfg_patch_reg`: its result, and the blob after it. -/
def cfgPatchReg (cfg : List UInt8) (reg val : UInt16) (sectionIdx : Nat) (mode : CfgWrite) :
    Except Errno Unit × List UInt8 :=
  if hcfg : cfg.length ≠ milangCfgLen then (.error .inval, cfg)
  else if cfgSectionCount ≤ sectionIdx then (.error .inval, cfg)
  else if hfit : cfg.length <
      (cfgSectionOff cfg sectionIdx).toNat + (cfgSectionLen cfg sectionIdx).toNat
    then (.error .badmsg, cfg)
  else
    have hlen : (cfgSectionLen cfg sectionIdx).toNat ≤ milangCfgLen := by omega
    match cfgScan cfg reg (cfgSectionOff cfg sectionIdx) (cfgSectionLen cfg sectionIdx) hlen 0 with
    | .error e => (.error e, cfg)
    | .ok pos => (.ok (), cfgRecalcChecksum (cfgWriteValue cfg pos val mode))

/-! ### Reading the blob back -/

/-- The addresses of a section's entries. -/
def cfgEntries (cfg : List UInt8) (i : Nat) : List Nat :=
  (List.range (((cfgSectionLen cfg i).toNat + 3) / 4)).map fun k =>
    (cfgSectionOff cfg i).toNat + 4 * k

/-- The first entry of section `i` for a register. -/
def cfgEntry (cfg : List UInt8) (i : Nat) (reg : UInt16) : Option Nat :=
  (cfgEntries cfg i).find? fun pos => le16At cfg pos = reg

/-- The value section `i` gives a register. -/
def cfgReadReg (cfg : List UInt8) (i : Nat) (reg : UInt16) : Option UInt16 :=
  (cfgEntry cfg i reg).map fun pos => le16At cfg (pos + 2)

/-- All words of the blob and the seed sum to zero. -/
def CfgChecksumOk (cfg : List UInt8) : Prop := cfgWordSum cfg (cfgChecksumWords + 1) = 0

/-- Sections that stay clear of the table, of the checksum word and of each other. -/
structure CfgLayout (cfg : List UInt8) (used : List Nat) : Prop where
  length : cfg.length = milangCfgLen
  inTable : ∀ i ∈ used, i < cfgSectionCount
  header : ∀ i ∈ used, cfgHeaderLen ≤ (cfgSectionOff cfg i).toNat
  fits : ∀ i ∈ used,
    (cfgSectionOff cfg i).toNat + (cfgSectionLen cfg i).toNat ≤ cfgChecksumOff
  aligned : ∀ i ∈ used, (cfgSectionLen cfg i).toNat % 4 = 0
  disjoint : ∀ i ∈ used, ∀ j ∈ used, i ≠ j →
    (cfgSectionOff cfg i).toNat + (cfgSectionLen cfg i).toNat ≤ (cfgSectionOff cfg j).toNat ∨
    (cfgSectionOff cfg j).toNat + (cfgSectionLen cfg j).toNat ≤ (cfgSectionOff cfg i).toNat

/-! ### The scan -/

/-- **The scan finds the first entry for the register, or there is none.** -/
theorem cfgScan_from {cfg : List UInt8} {reg : UInt16} {off len : UInt8}
    (hlen : len.toNat ≤ milangCfgLen) (hfit : off.toNat + 4 * ((len.toNat + 3) / 4) ≤ cfg.length)
    {k n : Nat} (hcount : k + n = (len.toNat + 3) / 4) {step : UInt8} (hstep : step.toNat = 4 * k) :
    cfgScan cfg reg off len hlen step =
      match ((List.range' k n).map fun k => off.toNat + 4 * k).find?
        fun pos => le16At cfg pos = reg with
      | some pos => .ok pos
      | none => .error .noent := by
  induction n generalizing k step with
  | zero =>
      rw [cfgScan, dif_neg (by omega)]
      rfl
  | succ n ih =>
      have hlen224 : len.toNat ≤ 224 := hlen
      have hnext : (step + 4).toNat = 4 * (k + 1) := by
        rw [UInt8.toNat_add, hstep]
        exact Nat.mod_eq_of_lt (show 4 * k + 4 < 256 by omega)
      rw [cfgScan, dif_pos (by omega), List.range'_succ, List.map_cons, List.find?_cons, hstep]
      dsimp only
      rw [if_neg (by omega)]
      by_cases hreg : le16At cfg (off.toNat + 4 * k) = reg
      · simp only [hreg, if_true, decide_true]
      · simp only [hreg, if_false, decide_false]
        exact ih (by omega) hnext

section Patch

variable {cfg : List UInt8} {used : List Nat}

theorem CfgLayout.count (h : CfgLayout cfg used) {i : Nat} (hi : i ∈ used) :
    4 * (((cfgSectionLen cfg i).toNat + 3) / 4) = (cfgSectionLen cfg i).toNat := by
  have haligned := h.aligned i hi
  omega

/-- An entry lies inside its section. -/
theorem CfgLayout.mem_cfgEntries (h : CfgLayout cfg used) {i : Nat} (hi : i ∈ used) {pos : Nat}
    (hpos : pos ∈ cfgEntries cfg i) :
    ∃ k, pos = (cfgSectionOff cfg i).toNat + 4 * k ∧ 4 * k + 4 ≤ (cfgSectionLen cfg i).toNat := by
  have hcount := h.count hi
  simp only [cfgEntries, List.mem_map, List.mem_range] at hpos
  obtain ⟨k, hk, rfl⟩ := hpos
  exact ⟨k, rfl, by omega⟩

theorem cfgEntry_mem {i : Nat} {reg : UInt16} {pos : Nat} (h : cfgEntry cfg i reg = some pos) :
    pos ∈ cfgEntries cfg i :=
  List.mem_of_find?_eq_some h

theorem CfgLayout.cfgScan_eq (h : CfgLayout cfg used) {i : Nat} (hi : i ∈ used) (reg : UInt16)
    (hlen : (cfgSectionLen cfg i).toNat ≤ milangCfgLen) :
    cfgScan cfg reg (cfgSectionOff cfg i) (cfgSectionLen cfg i) hlen 0 =
      match cfgEntry cfg i reg with
      | some pos => .ok pos
      | none => .error .noent := by
  have hfits : (cfgSectionOff cfg i).toNat + (cfgSectionLen cfg i).toNat ≤ 222 := h.fits i hi
  have hcfg : cfg.length = 224 := h.length
  have hcount := h.count hi
  have hstart : (0 : UInt8).toNat = 4 * 0 := rfl
  rw [cfgScan_from hlen (by omega) (Nat.zero_add _) hstart, ← List.range_eq_range']
  rfl

/-- The blob a patch leaves behind. -/
def cfgPatched (cfg : List UInt8) (pos : Nat) (val : UInt16) (mode : CfgWrite) : List UInt8 :=
  cfgRecalcChecksum (cfgWriteValue cfg pos val mode)

/-- **A patch of a register the section holds succeeds.** -/
theorem cfgPatchReg_ok (h : CfgLayout cfg used) {i : Nat} (hi : i ∈ used) {reg : UInt16}
    {pos : Nat} (hentry : cfgEntry cfg i reg = some pos) (val : UInt16) (mode : CfgWrite) :
    cfgPatchReg cfg reg val i mode = (.ok (), cfgPatched cfg pos val mode) := by
  have hfits : (cfgSectionOff cfg i).toNat + (cfgSectionLen cfg i).toNat ≤ 222 := h.fits i hi
  have hcfg : cfg.length = 224 := h.length
  rw [cfgPatchReg, dif_neg (not_not.mpr h.length), if_neg (Nat.not_le.mpr (h.inTable i hi)),
    dif_neg (by omega)]
  simp only [h.cfgScan_eq hi, hentry]
  rfl

/-! ### What a patch changes -/

theorem length_cfgWriteValue (cfg : List UInt8) (pos : Nat) (val : UInt16) (mode : CfgWrite) :
    (cfgWriteValue cfg pos val mode).length = cfg.length := by
  cases mode <;> simp [cfgWriteValue]

theorem length_cfgRecalcChecksum (cfg : List UInt8) :
    (cfgRecalcChecksum cfg).length = cfg.length := by
  unfold cfgRecalcChecksum
  split <;> simp

theorem length_cfgPatched (cfg : List UInt8) (pos : Nat) (val : UInt16) (mode : CfgWrite) :
    (cfgPatched cfg pos val mode).length = cfg.length := by
  rw [cfgPatched, length_cfgRecalcChecksum, length_cfgWriteValue]

theorem byteAt_cfgWriteValue_ne (cfg : List UInt8) {pos p : Nat} (hlo : p ≠ pos + 2)
    (hhi : p ≠ pos + 3) (val : UInt16) (mode : CfgWrite) :
    byteAt (cfgWriteValue cfg pos val mode) p = byteAt cfg p := by
  cases mode <;>
    simp [cfgWriteValue, byteAt_set_ne _ hlo.symm, byteAt_set_ne _ hhi.symm]

/-- Recomputing the checksum touches its own word only. -/
theorem byteAt_cfgRecalcChecksum_ne (cfg : List UInt8) {p : Nat} (hp : p < cfgChecksumOff) :
    byteAt (cfgRecalcChecksum cfg) p = byteAt cfg p := by
  have hlo : cfgChecksumOff ≠ p := by omega
  have hhi : cfgChecksumOff + 1 ≠ p := by omega
  unfold cfgRecalcChecksum
  split
  · rfl
  · dsimp only
    rw [byteAt_set_ne _ hhi, byteAt_set_ne _ hlo]

/-- **A patch leaves everything but two value bytes and the checksum as it was.** -/
theorem byteAt_cfgPatched_ne (cfg : List UInt8) {pos p : Nat} (hp : p < cfgChecksumOff)
    (hlo : p ≠ pos + 2) (hhi : p ≠ pos + 3) (val : UInt16) (mode : CfgWrite) :
    byteAt (cfgPatched cfg pos val mode) p = byteAt cfg p := by
  rw [cfgPatched, byteAt_cfgRecalcChecksum_ne _ hp, byteAt_cfgWriteValue_ne cfg hlo hhi]

/-- Words that do not overlap the checksum sum the same after recomputing it. -/
theorem cfgWordSum_recalc (cfg : List UInt8) {n : Nat} (hn : n ≤ cfgChecksumWords) :
    cfgWordSum (cfgRecalcChecksum cfg) n = cfgWordSum cfg n := by
  induction n with
  | zero => rfl
  | succ n ih =>
      have hoff : 2 * n + 1 < cfgChecksumOff := by
        have hwords : n + 1 ≤ 111 := hn
        show 2 * n + 1 < 222
        omega
      rw [cfgWordSum, cfgWordSum, ih (by omega),
        le16At_congr (byteAt_cfgRecalcChecksum_ne cfg (by omega))
          (byteAt_cfgRecalcChecksum_ne cfg hoff)]

/-- **Recomputing the checksum makes it right.** -/
theorem cfgRecalcChecksum_ok {cfg : List UInt8} (h : cfg.length = milangCfgLen) :
    CfgChecksumOk (cfgRecalcChecksum cfg) := by
  have hlen : cfg.length = 224 := h
  have hword : le16At (cfgRecalcChecksum cfg) (2 * cfgChecksumWords) =
      -(cfgWordSum cfg cfgChecksumWords) := by
    have hlo : cfgChecksumOff < cfg.length := by rw [h]; decide
    have hhi : cfgChecksumOff + 1 < (cfg.set cfgChecksumOff
        (loByte (-(cfgWordSum cfg cfgChecksumWords)).toNat)).length := by
      rw [List.length_set, h]
      decide
    rw [cfgRecalcChecksum, if_neg (by rw [h]; exact Nat.lt_irrefl _)]
    dsimp only
    refine le16At_of_bytes ?_ ?_
    · show byteAt _ cfgChecksumOff = _
      rw [byteAt_set_ne _ (by omega), byteAt_set_self hlo]
    · show byteAt _ (cfgChecksumOff + 1) = _
      rw [byteAt_set_self hhi]
  rw [CfgChecksumOk, cfgWordSum, cfgWordSum_recalc cfg (Nat.le_refl _), hword]
  exact UInt16.add_right_neg _

theorem cfgPatched_checksumOk (h : cfg.length = milangCfgLen) (pos : Nat) (val : UInt16)
    (mode : CfgWrite) : CfgChecksumOk (cfgPatched cfg pos val mode) :=
  cfgRecalcChecksum_ok (by rw [length_cfgWriteValue, h])

/-! ### Reading a patched blob -/

section Entry

variable {i : Nat} {reg : UInt16} {pos : Nat}

/-- A patch inside a section does not touch the table. -/
theorem cfgSection_patched (h : CfgLayout cfg used) (hi : i ∈ used)
    (hpos : pos ∈ cfgEntries cfg i) (val : UInt16) (mode : CfgWrite) {j : Nat} (hj : j ∈ used) :
    cfgSectionOff (cfgPatched cfg pos val mode) j = cfgSectionOff cfg j ∧
      cfgSectionLen (cfgPatched cfg pos val mode) j = cfgSectionLen cfg j := by
  obtain ⟨k, rfl, -⟩ := h.mem_cfgEntries hi hpos
  have hheader : 17 ≤ (cfgSectionOff cfg i).toNat := h.header i hi
  have hj8 : j < 8 := h.inTable j hj
  have hcheck : cfgChecksumOff = 222 := rfl
  exact ⟨byteAt_cfgPatched_ne cfg (by omega) (by omega) (by omega) val mode,
    byteAt_cfgPatched_ne cfg (by omega) (by omega) (by omega) val mode⟩

/-- A patch keeps the layout. -/
theorem CfgLayout.patched (h : CfgLayout cfg used) (hi : i ∈ used)
    (hpos : pos ∈ cfgEntries cfg i) (val : UInt16) (mode : CfgWrite) :
    CfgLayout (cfgPatched cfg pos val mode) used := by
  have hoff : ∀ j ∈ used, cfgSectionOff (cfgPatched cfg pos val mode) j = cfgSectionOff cfg j :=
    fun j hj => (cfgSection_patched h hi hpos val mode hj).1
  have hlen : ∀ j ∈ used, cfgSectionLen (cfgPatched cfg pos val mode) j = cfgSectionLen cfg j :=
    fun j hj => (cfgSection_patched h hi hpos val mode hj).2
  constructor
  case length => rw [length_cfgPatched, h.length]
  case inTable => exact h.inTable
  case header =>
    intro j hj
    rw [hoff j hj]
    exact h.header j hj
  case fits =>
    intro j hj
    rw [hoff j hj, hlen j hj]
    exact h.fits j hj
  case aligned =>
    intro j hj
    rw [hlen j hj]
    exact h.aligned j hj
  case disjoint =>
    intro j hj j' hj' hne
    rw [hoff j hj, hlen j hj, hoff j' hj', hlen j' hj']
    exact h.disjoint j hj j' hj' hne

/-- Two entries are the same one, or four bytes apart. -/
theorem CfgLayout.entries_apart (h : CfgLayout cfg used) (hi : i ∈ used)
    (hpos : pos ∈ cfgEntries cfg i) {j p : Nat} (hj : j ∈ used) (hp : p ∈ cfgEntries cfg j) :
    (i = j ∧ p = pos) ∨ p + 4 ≤ pos ∨ pos + 4 ≤ p := by
  obtain ⟨k, rfl, hk⟩ := h.mem_cfgEntries hi hpos
  obtain ⟨k', rfl, hk'⟩ := h.mem_cfgEntries hj hp
  by_cases hij : i = j
  · subst hij
    omega
  · have hdisj := h.disjoint i hi j hj hij
    omega

/-- **A patch leaves every section's entries where they are.** -/
theorem cfgEntry_patched (h : CfgLayout cfg used) (hi : i ∈ used) (hpos : pos ∈ cfgEntries cfg i)
    (val : UInt16) (mode : CfgWrite) {j : Nat} (hj : j ∈ used) (reg' : UInt16) :
    cfgEntry (cfgPatched cfg pos val mode) j reg' = cfgEntry cfg j reg' := by
  obtain ⟨hoff, hlen⟩ := cfgSection_patched h hi hpos val mode hj
  have hentries : cfgEntries (cfgPatched cfg pos val mode) j = cfgEntries cfg j := by
    rw [cfgEntries, hoff, hlen]
    rfl
  rw [cfgEntry, hentries]
  refine List.find?_congr ?_
  intro p hp
  have hapart := h.entries_apart hi hpos hj hp
  have hfits : (cfgSectionOff cfg j).toNat + (cfgSectionLen cfg j).toNat ≤ 222 := h.fits j hj
  have hcheck : cfgChecksumOff = 222 := rfl
  obtain ⟨k, hk, hk'⟩ := h.mem_cfgEntries hj hp
  rw [le16At_congr (byteAt_cfgPatched_ne cfg (by omega) (by omega) (by omega) val mode)
    (byteAt_cfgPatched_ne cfg (by omega) (by omega) (by omega) val mode)]

/-- **A patch does not change what another section reads.** -/
theorem cfgReadReg_patched_other (h : CfgLayout cfg used) (hi : i ∈ used)
    (hpos : pos ∈ cfgEntries cfg i) (val : UInt16) (mode : CfgWrite) {j : Nat} (hj : j ∈ used)
    (hij : i ≠ j) (reg' : UInt16) :
    cfgReadReg (cfgPatched cfg pos val mode) j reg' = cfgReadReg cfg j reg' := by
  rw [cfgReadReg, cfgReadReg, cfgEntry_patched h hi hpos val mode hj]
  cases hentry : cfgEntry cfg j reg' with
  | none => rfl
  | some p =>
      have hp := cfgEntry_mem hentry
      have hapart := h.entries_apart hi hpos hj hp
      have hfits : (cfgSectionOff cfg j).toNat + (cfgSectionLen cfg j).toNat ≤ 222 := h.fits j hj
      have hcheck : cfgChecksumOff = 222 := rfl
      obtain ⟨k, hk, hk'⟩ := h.mem_cfgEntries hj hp
      rw [Option.map_some, Option.map_some,
        le16At_congr (byteAt_cfgPatched_ne cfg (by omega) (by omega) (by omega) val mode)
          (byteAt_cfgPatched_ne cfg (by omega) (by omega) (by omega) val mode)]

/-- **A patch of both bytes is read back.** -/
theorem cfgReadReg_patched_both (h : CfgLayout cfg used) (hi : i ∈ used)
    (hentry : cfgEntry cfg i reg = some pos) (val : UInt16) :
    cfgReadReg (cfgPatched cfg pos val .both) i reg = some val := by
  have hpos := cfgEntry_mem hentry
  have hfits : (cfgSectionOff cfg i).toNat + (cfgSectionLen cfg i).toNat ≤ 222 := h.fits i hi
  have hcfg : cfg.length = 224 := h.length
  have hcheck : cfgChecksumOff = 222 := rfl
  obtain ⟨k, hk, hk'⟩ := h.mem_cfgEntries hi hpos
  rw [cfgReadReg, cfgEntry_patched h hi hpos val .both hi, hentry, Option.map_some]
  refine congrArg some (le16At_of_bytes ?_ ?_)
  · rw [cfgPatched, byteAt_cfgRecalcChecksum_ne _ (by omega), cfgWriteValue]
    simp only [true_or, if_true]
    rw [byteAt_set_ne _ (by omega), byteAt_set_self (by omega)]
  · rw [cfgPatched, byteAt_cfgRecalcChecksum_ne _ (by omega), cfgWriteValue]
    simp only [true_or, if_true]
    rw [byteAt_set_self (by rw [List.length_set]; omega)]

/-- **A patch of the high byte keeps the low one.** -/
theorem cfgReadReg_patched_high (h : CfgLayout cfg used) (hi : i ∈ used)
    (hentry : cfgEntry cfg i reg = some pos) (val : UInt16) :
    cfgReadReg (cfgPatched cfg pos val .high) i reg =
      some (le16 (byteAt cfg (pos + 2)) (hiByte val.toNat)) := by
  have hpos := cfgEntry_mem hentry
  have hfits : (cfgSectionOff cfg i).toNat + (cfgSectionLen cfg i).toNat ≤ 222 := h.fits i hi
  have hcfg : cfg.length = 224 := h.length
  have hcheck : cfgChecksumOff = 222 := rfl
  obtain ⟨k, hk, hk'⟩ := h.mem_cfgEntries hi hpos
  rw [cfgReadReg, cfgEntry_patched h hi hpos val .high hi, hentry, Option.map_some, cfgPatched,
    le16At, byteAt_cfgRecalcChecksum_ne _ (by omega), byteAt_cfgRecalcChecksum_ne _ (by omega),
    cfgWriteValue]
  simp only [reduceCtorEq, or_false, if_false, or_true, if_true]
  rw [byteAt_set_ne _ (by omega), byteAt_set_self (by omega)]

end Entry

end Patch

end Gxfp
