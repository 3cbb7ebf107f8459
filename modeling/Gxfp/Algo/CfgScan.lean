/-
The scan of `gxfp_cfg_patch_reg` with its counter.

The counter is a `uint8_t` that goes up by four.  Were a section 253 bytes long or longer,
the counter would come back to 0 with the test still true.  A section that fits the blob
has at most 224 bytes, so after 56 iterations the test has failed, and until then the
counter is four times the iterations.
-/
import Gxfp.Algo.CfgEffect
import Gxfp.Library.Loop

namespace Gxfp

open Bytes Loop

/-! ### The loop -/

/-- The test of the loop, and its body; an iteration takes the counter. -/
def cfgScanPass (cfg : List UInt8) (reg : UInt16) (off len step : UInt8) :
    Turn UInt8 UInt8 (Except Errno Nat) :=
  if step.toNat < len.toNat then
    let pos := off.toNat + step.toNat
    if cfg.length < pos + 4 then .done [step] (.error .badmsg)
    else if le16At cfg pos = reg then .done [step] (.ok pos)
    else .again [step] (step + 4)
  else .done [] (.error .noent)

/-- `gxfp_cfg_patch_reg` with at most `fuel` tests of its loop. -/
def cfgPatchRegLoop (fuel : Nat) (cfg : List UInt8) (reg val : UInt16) (sectionIdx : Nat)
    (mode : CfgWrite) : Option (Except Errno Unit × List UInt8) :=
  if cfg.length ≠ milangCfgLen then some (.error .inval, cfg)
  else if cfgSectionCount ≤ sectionIdx then some (.error .inval, cfg)
  else if cfg.length <
      (cfgSectionOff cfg sectionIdx).toNat + (cfgSectionLen cfg sectionIdx).toNat
    then some (.error .badmsg, cfg)
  else
    (run (cfgScanPass cfg reg (cfgSectionOff cfg sectionIdx) (cfgSectionLen cfg sectionIdx))
      fuel 0).map fun
      | .error e => (.error e, cfg)
      | .ok pos => (.ok (), cfgRecalcChecksum (cfgWriteValue cfg pos val mode))

/-! ### The counter -/

section Scan

variable {cfg : List UInt8} {reg : UInt16} {off len : UInt8}

/-- The counter does not wrap behind an iteration. -/
theorem cfgScan_next (hlen : len.toNat ≤ milangCfgLen) {j : Nat} {step : UInt8}
    (hstep : step.toNat = 4 * j) (hin : 4 * j < len.toNat) : (step + 4).toNat = 4 * (j + 1) := by
  have hlen224 : len.toNat ≤ 224 := hlen
  rw [UInt8.toNat_add, hstep]
  exact Nat.mod_eq_of_lt (show 4 * j + 4 < 256 by omega)

/-- What goes round again has passed the test, and adds four. -/
theorem again_cfgScanPass {step step' : UInt8} {taken : List UInt8}
    (h : Again (cfgScanPass cfg reg off len) step taken step') :
    step.toNat < len.toNat ∧ taken = [step] ∧ step' = step + 4 := by
  unfold Again cfgScanPass at h
  by_cases hin : step.toNat < len.toNat
  · rw [if_pos hin] at h
    dsimp only at h
    by_cases hblob : cfg.length < off.toNat + step.toNat + 4
    · rw [if_pos hblob] at h
      cases h
    by_cases hreg : le16At cfg (off.toNat + step.toNat) = reg
    · rw [if_neg hblob, if_pos hreg] at h
      cases h
    · rw [if_neg hblob, if_neg hreg] at h
      cases h
      exact ⟨hin, rfl, rfl⟩
  · rw [if_neg hin] at h
    cases h

/-- **The counter is four times the iterations.** -/
theorem turns_cfgScanPass (hlen : len.toNat ≤ milangCfgLen) {step step' : UInt8}
    {taken : List UInt8} (h : Turns (Again (cfgScanPass cfg reg off len)) step taken step')
    {j : Nat} (hstep : step.toNat = 4 * j) (hin : 4 * j < len.toNat + 4) :
    step'.toNat = 4 * (j + taken.length) ∧ 4 * (j + taken.length) < len.toNat + 4 := by
  induction h generalizing j with
  | nil => exact ⟨hstep, hin⟩
  | @cons s s₁ s₂ xs ys hpass hrest ih =>
      obtain ⟨htest, rfl, rfl⟩ := again_cfgScanPass hpass
      rw [hstep] at htest
      obtain ⟨hcounter, hbound⟩ := ih (cfgScan_next hlen hstep htest) (by omega)
      rw [List.length_append, List.length_singleton, ← Nat.add_assoc]
      exact ⟨hcounter, hbound⟩

/-- A pass that ends the loop is an iteration only if the test holds. -/
theorem done_cfgScanPass {step : UInt8} {last : List UInt8} {r : Except Errno Nat}
    (h : cfgScanPass cfg reg off len step = .done last r) :
    last.length ≤ 1 ∧ (len.toNat ≤ step.toNat → last = []) := by
  unfold cfgScanPass at h
  by_cases hin : step.toNat < len.toNat
  · rw [if_pos hin] at h
    dsimp only at h
    refine ⟨?_, fun hout => absurd hin (Nat.not_lt.mpr hout)⟩
    by_cases hblob : cfg.length < off.toNat + step.toNat + 4
    · rw [if_pos hblob] at h
      cases h
      exact Nat.le_refl 1
    by_cases hreg : le16At cfg (off.toNat + step.toNat) = reg
    · rw [if_neg hblob, if_pos hreg] at h
      cases h
      exact Nat.le_refl 1
    · rw [if_neg hblob, if_neg hreg] at h
      cases h
  · rw [if_neg hin] at h
    cases h
    exact ⟨Nat.zero_le 1, fun _ => rfl⟩

/-- **With enough fuel the loop ends, and finds what the scan finds.** -/
theorem run_cfgScanPass (hlen : len.toNat ≤ milangCfgLen) {fuel j : Nat} {step : UInt8}
    (hstep : step.toNat = 4 * j) (hfuel : len.toNat ≤ 4 * (j + fuel)) :
    run (cfgScanPass cfg reg off len) (fuel + 1) step =
      some (cfgScan cfg reg off len hlen step) := by
  induction fuel generalizing j step with
  | zero =>
      have hout : ¬ step.toNat < len.toNat := by omega
      rw [run, cfgScan, dif_neg hout, cfgScanPass, if_neg hout]
  | succ fuel ih =>
      rw [run, cfgScan, cfgScanPass]
      by_cases hin : step.toNat < len.toNat
      · rw [if_pos hin, dif_pos hin]
        dsimp only
        by_cases hblob : cfg.length < off.toNat + step.toNat + 4
        · rw [if_pos hblob, if_pos hblob]
        by_cases hreg : le16At cfg (off.toNat + step.toNat) = reg
        · rw [if_neg hblob, if_neg hblob, if_pos hreg, if_pos hreg]
        · rw [if_neg hblob, if_neg hblob, if_neg hreg, if_neg hreg]
          exact ih (cfgScan_next hlen hstep (hstep ▸ hin)) (by omega)
      · rw [if_neg hin, dif_neg hin]

end Scan

/-! ### The patch -/

section Patch

variable (cfg : List UInt8) (reg val : UInt16) (i : Nat) (mode : CfgWrite)

/-- With 57 tests the loop does not run out of fuel. -/
theorem cfgPatchRegLoop_eq :
    cfgPatchRegLoop 57 cfg reg val i mode = some (cfgPatchReg cfg reg val i mode) := by
  unfold cfgPatchRegLoop cfgPatchReg
  by_cases hcfg : cfg.length ≠ milangCfgLen
  · rw [if_pos hcfg, dif_pos hcfg]
  by_cases hi : cfgSectionCount ≤ i
  · rw [if_neg hcfg, if_pos hi, dif_neg hcfg, if_pos hi]
  by_cases hfit : cfg.length < (cfgSectionOff cfg i).toNat + (cfgSectionLen cfg i).toNat
  · rw [if_neg hcfg, if_neg hi, if_pos hfit, dif_neg hcfg, if_neg hi, dif_pos hfit]
  · have hlength : cfg.length = 224 := not_not.mp hcfg
    have hlen : (cfgSectionLen cfg i).toNat ≤ 224 := by omega
    have hstart : (0 : UInt8).toNat = 4 * 0 := rfl
    rw [if_neg hcfg, if_neg hi, if_neg hfit, dif_neg hcfg, if_neg hi, dif_neg hfit,
      run_cfgScanPass hlen hstart (by omega)]
    rcases hscan : cfgScan cfg reg (cfgSectionOff cfg i) (cfgSectionLen cfg i) hlen 0 with e | pos
    · simp only [hscan, Option.map_some]
    · simp only [hscan, Option.map_some]

/--
**The scan of a patch ends on every blob, after at most 56 iterations, and its counter is
four times the iterations until then.**
-/
theorem cfgPatchReg_terminates :
    cfgPatchRegLoop 57 cfg reg val i mode = some (cfgPatchReg cfg reg val i mode) ∧
    (cfg.length = milangCfgLen →
      (cfgSectionOff cfg i).toNat + (cfgSectionLen cfg i).toNat ≤ cfg.length →
      ∀ taken step,
        Turns (Again (cfgScanPass cfg reg (cfgSectionOff cfg i) (cfgSectionLen cfg i))) 0 taken
          step →
        step.toNat = 4 * taken.length ∧
          ∀ last r, cfgScanPass cfg reg (cfgSectionOff cfg i) (cfgSectionLen cfg i) step =
            .done last r → (taken ++ last).length ≤ 56) := by
  refine ⟨cfgPatchRegLoop_eq cfg reg val i mode, fun hcfg hfit taken step hturns => ?_⟩
  have hlength : cfg.length = 224 := hcfg
  have hlen : (cfgSectionLen cfg i).toNat ≤ 224 := by omega
  have hstart : (0 : UInt8).toNat = 4 * 0 := rfl
  obtain ⟨hcounter, hbound⟩ := turns_cfgScanPass hlen hturns hstart (by omega)
  rw [Nat.zero_add] at hcounter hbound
  refine ⟨hcounter, fun last r hdone => ?_⟩
  obtain ⟨hone, hnone⟩ := done_cfgScanPass hdone
  rw [List.length_append]
  by_cases hout : (cfgSectionLen cfg i).toNat ≤ step.toNat
  · rw [hnone hout, List.length_nil]
    omega
  · omega

end Patch

/-- A section as long as the blob, in which the register is not found. -/
theorem cfgPatchReg_terminates_longest :
    ∀ taken step,
      Turns (Again (cfgScanPass (0 :: 0 :: 224 :: zeros 221) 0xBEEF 0 224)) 0 taken step →
      step.toNat = 4 * taken.length ∧
        ∀ last r, cfgScanPass (0 :: 0 :: 224 :: zeros 221) 0xBEEF 0 224 step = .done last r →
          (taken ++ last).length ≤ 56 :=
  (cfgPatchReg_terminates (0 :: 0 :: 224 :: zeros 221) 0xBEEF 0 0 .both).2
    (by simp [milangCfgLen]) (by simp [cfgSectionOff, cfgSectionLen, byteAt])

/-- There it takes all 57 tests. -/
example : cfgPatchRegLoop 56 (0 :: 0 :: 224 :: zeros 221) 0xBEEF 0 0 .both = none := by
  decide +kernel

end Gxfp
