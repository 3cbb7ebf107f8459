/-
What a patch does to any blob of the right length.

The table of sections is part of the blob, so nothing can be taken for granted of it: a
section may have a length that is no multiple of an entry's, may lie over the table or
over the checksum, and its last entry may reach behind its end.  All that the scan
relies on is that the entries come in the order of their addresses: the first one that
does not fit the blob ends it, and no later one fits either (`cfgScan_ok_iff`).

A patch of section `i` succeeds exactly if one of its entries inside the blob has the
register.  It writes the first of them, and the checksum behind it.
-/
import Mathlib.Data.Nat.Find
import Gxfp.Algo.CfgBlob

namespace Gxfp

open Bytes

/-- Entry `k` of a section is inside the blob and has the register. -/
structure CfgHit (cfg : List UInt8) (off len : UInt8) (reg : UInt16) (k : Nat) : Prop where
  inSection : 4 * k < len.toNat
  inBlob : off.toNat + 4 * k + 4 ≤ cfg.length
  reg_eq : le16At cfg (off.toNat + 4 * k) = reg

/-- The addresses `write_mode` selects of an entry. -/
def cfgValueBytes (pos : Nat) : CfgWrite → List Nat
  | .both => [pos + 2, pos + 3]
  | .low => [pos + 2]
  | .high => [pos + 3]

/-- What a successful patch of section `i` leaves behind. -/
structure CfgPatchedAt (cfg out : List UInt8) (i : Nat) (reg val : UInt16) (mode : CfgWrite)
    (k : Nat) : Prop where
  hit : CfgHit cfg (cfgSectionOff cfg i) (cfgSectionLen cfg i) reg k
  first : ∀ j < k, ¬ CfgHit cfg (cfgSectionOff cfg i) (cfgSectionLen cfg i) reg j
  length_eq : out.length = cfg.length
  /-- The selected bytes hold the value, except where the checksum lies over them. -/
  low : mode ≠ .high → (cfgSectionOff cfg i).toNat + 4 * k + 2 < cfgChecksumOff →
    byteAt out ((cfgSectionOff cfg i).toNat + 4 * k + 2) = loByte val.toNat
  high : mode ≠ .low → (cfgSectionOff cfg i).toNat + 4 * k + 3 < cfgChecksumOff →
    byteAt out ((cfgSectionOff cfg i).toNat + 4 * k + 3) = hiByte val.toNat
  same : ∀ p, p ∉ cfgValueBytes ((cfgSectionOff cfg i).toNat + 4 * k) mode →
    p ≠ cfgChecksumOff → p ≠ cfgChecksumOff + 1 → byteAt out p = byteAt cfg p
  checksum : CfgChecksumOk out

/-! ### The scan -/

section Scan

variable {cfg : List UInt8} {reg : UInt16} {off len : UInt8}

/-- **The scan stops at the first entry inside the blob that has the register.** -/
theorem cfgScan_ok_iff (hlen : len.toNat ≤ milangCfgLen) {j : Nat} {step : UInt8}
    (hstep : step.toNat = 4 * j) {pos : Nat} :
    cfgScan cfg reg off len hlen step = .ok pos ↔
      ∃ k, j ≤ k ∧ CfgHit cfg off len reg k ∧ pos = off.toNat + 4 * k ∧
        ∀ k', j ≤ k' → k' < k → ¬ CfgHit cfg off len reg k' := by
  induction hn : len.toNat - step.toNat using Nat.strongRecOn generalizing j step with
  | ind n ih =>
  have hlen224 : len.toNat ≤ 224 := hlen
  rw [cfgScan]
  by_cases hin : step.toNat < len.toNat
  · rw [dif_pos hin]
    dsimp only
    rw [hstep]
    by_cases hblob : cfg.length < off.toNat + 4 * j + 4
    · rw [if_pos hblob]
      constructor
      · intro h
        exact absurd h (by simp)
      · rintro ⟨k, hjk, hhit, -, -⟩
        have hfits := hhit.inBlob
        omega
    · rw [if_neg hblob]
      by_cases hreg : le16At cfg (off.toNat + 4 * j) = reg
      · have hhit : CfgHit cfg off len reg j := ⟨by omega, by omega, hreg⟩
        rw [if_pos hreg]
        constructor
        · intro h
          exact ⟨j, Nat.le_refl j, hhit, (Except.ok.inj h).symm, fun k' h h' => by omega⟩
        · rintro ⟨k, hjk, -, rfl, hfirst⟩
          have hk : k = j := by
            by_contra hne
            exact hfirst j (Nat.le_refl j) (by omega) hhit
          rw [hk]
      · have hnext : (step + 4).toNat = 4 * (j + 1) := by
          rw [UInt8.toNat_add, hstep]
          exact Nat.mod_eq_of_lt (show 4 * j + 4 < 256 by omega)
        have hmiss : ¬ CfgHit cfg off len reg j := fun h => hreg h.reg_eq
        rw [if_neg hreg, ih _ (by omega) hnext rfl]
        constructor
        · rintro ⟨k, hjk, hhit, hpos, hfirst⟩
          refine ⟨k, by omega, hhit, hpos, fun k' hk' hlt => ?_⟩
          by_cases hj : k' = j
          · exact hj ▸ hmiss
          · exact hfirst k' (by omega) hlt
        · rintro ⟨k, hjk, hhit, hpos, hfirst⟩
          have hne : k ≠ j := by
            rintro rfl
            exact hmiss hhit
          exact ⟨k, by omega, hhit, hpos, fun k' hk' => hfirst k' (by omega)⟩
  · rw [dif_neg hin]
    constructor
    · intro h
      exact absurd h (by simp)
    · rintro ⟨k, hjk, hhit, -, -⟩
      have hsection := hhit.inSection
      omega

/-- It finds one exactly if there is one. -/
theorem cfgScan_isOk_iff (hlen : len.toNat ≤ milangCfgLen) :
    (∃ pos, cfgScan cfg reg off len hlen 0 = .ok pos) ↔ ∃ k, CfgHit cfg off len reg k := by
  have hstart : (0 : UInt8).toNat = 4 * 0 := rfl
  constructor
  · rintro ⟨pos, h⟩
    obtain ⟨k, -, hhit, -, -⟩ := (cfgScan_ok_iff hlen hstart).mp h
    exact ⟨k, hhit⟩
  · rintro ⟨k, hhit⟩
    classical
    have hex : ∃ k, CfgHit cfg off len reg k := ⟨k, hhit⟩
    exact ⟨_, (cfgScan_ok_iff hlen hstart).mpr ⟨Nat.find hex, Nat.zero_le _, Nat.find_spec hex,
      rfl, fun k' _ hlt => Nat.find_min hex hlt⟩⟩

end Scan

/-! ### The patch -/

section Patch

variable {cfg : List UInt8} {i : Nat}

theorem byteAt_cfgWriteValue (cfg : List UInt8) {pos p : Nat} {mode : CfgWrite}
    (hp : p ∉ cfgValueBytes pos mode) (val : UInt16) :
    byteAt (cfgWriteValue cfg pos val mode) p = byteAt cfg p := by
  cases mode <;> simp only [cfgValueBytes, List.mem_cons, List.not_mem_nil, or_false, not_or] at hp
  case both =>
    simp [cfgWriteValue, byteAt_set_ne _ (Ne.symm hp.1), byteAt_set_ne _ (Ne.symm hp.2)]
  case low => simp [cfgWriteValue, byteAt_set_ne _ (Ne.symm hp)]
  case high => simp [cfgWriteValue, byteAt_set_ne _ (Ne.symm hp)]

theorem byteAt_cfgRecalcChecksum (cfg : List UInt8) {p : Nat} (hlo : p ≠ cfgChecksumOff)
    (hhi : p ≠ cfgChecksumOff + 1) : byteAt (cfgRecalcChecksum cfg) p = byteAt cfg p := by
  unfold cfgRecalcChecksum
  split
  · rfl
  · dsimp only
    rw [byteAt_set_ne _ hhi.symm, byteAt_set_ne _ hlo.symm]

/-- **A call either patches the first entry there is, or there is none and nothing changes.** -/
theorem cfgPatchReg_cases (hcfg : cfg.length = milangCfgLen) (hi : i < cfgSectionCount)
    (reg val : UInt16) (mode : CfgWrite) :
    (∃ k, cfgPatchReg cfg reg val i mode =
        (.ok (), cfgPatched cfg ((cfgSectionOff cfg i).toNat + 4 * k) val mode) ∧
      (cfgSectionOff cfg i).toNat + (cfgSectionLen cfg i).toNat ≤ cfg.length ∧
      CfgHit cfg (cfgSectionOff cfg i) (cfgSectionLen cfg i) reg k ∧
      ∀ j < k, ¬ CfgHit cfg (cfgSectionOff cfg i) (cfgSectionLen cfg i) reg j) ∨
    ∃ e, cfgPatchReg cfg reg val i mode = (.error e, cfg) ∧
      ¬ ((cfgSectionOff cfg i).toNat + (cfgSectionLen cfg i).toNat ≤ cfg.length ∧
        ∃ k, CfgHit cfg (cfgSectionOff cfg i) (cfgSectionLen cfg i) reg k) := by
  unfold cfgPatchReg
  rw [dif_neg (not_not.mpr hcfg), if_neg (Nat.not_le.mpr hi)]
  by_cases hfit : cfg.length <
      (cfgSectionOff cfg i).toNat + (cfgSectionLen cfg i).toNat
  · rw [dif_pos hfit]
    exact Or.inr ⟨_, rfl, fun h => absurd h.1 (Nat.not_le.mpr hfit)⟩
  · have hlen : (cfgSectionLen cfg i).toNat ≤ milangCfgLen := by omega
    have hisok : (∃ pos, cfgScan cfg reg (cfgSectionOff cfg i) (cfgSectionLen cfg i) hlen 0 =
        .ok pos) ↔ ∃ k, CfgHit cfg (cfgSectionOff cfg i) (cfgSectionLen cfg i) reg k :=
      cfgScan_isOk_iff hlen
    rw [dif_neg hfit]
    dsimp only
    generalize hscan : cfgScan cfg reg (cfgSectionOff cfg i) (cfgSectionLen cfg i) hlen 0 = r
      at hisok ⊢
    cases r with
    | error e =>
        refine Or.inr ⟨e, rfl, fun h => ?_⟩
        obtain ⟨pos, hpos⟩ := hisok.mpr h.2
        exact absurd hpos (by simp)
    | ok pos =>
        have hstart : (0 : UInt8).toNat = 4 * 0 := rfl
        obtain ⟨k, -, hhit, rfl, hfirst⟩ := (cfgScan_ok_iff hlen hstart).mp hscan
        exact Or.inl ⟨k, rfl, Nat.not_lt.mp hfit, hhit, fun j hj => hfirst j (Nat.zero_le j) hj⟩

theorem cfgPatchedAt_patched (hcfg : cfg.length = milangCfgLen) {reg : UInt16} {k : Nat}
    (hhit : CfgHit cfg (cfgSectionOff cfg i) (cfgSectionLen cfg i) reg k)
    (hfirst : ∀ j < k, ¬ CfgHit cfg (cfgSectionOff cfg i) (cfgSectionLen cfg i) reg j)
    (val : UInt16) (mode : CfgWrite) :
    CfgPatchedAt cfg (cfgPatched cfg ((cfgSectionOff cfg i).toNat + 4 * k) val mode) i reg val
      mode k := by
  constructor
  case hit => exact hhit
  case first => exact hfirst
  case length_eq => exact length_cfgPatched _ _ _ _
  case low =>
    intro hmode hoff
    have hlow : mode = .both ∨ mode = .low := by
      cases mode <;> simp_all
    have hblob := hhit.inBlob
    rw [cfgPatched, byteAt_cfgRecalcChecksum_ne _ hoff, cfgWriteValue, if_pos hlow]
    split
    · rw [byteAt_set_ne _ (by omega), byteAt_set_self (by omega)]
    · exact byteAt_set_self (by omega) _
  case high =>
    intro hmode hoff
    have hhigh : mode = .both ∨ mode = .high := by
      cases mode <;> simp_all
    have hblob := hhit.inBlob
    rw [cfgPatched, byteAt_cfgRecalcChecksum_ne _ hoff, cfgWriteValue, if_pos hhigh,
      byteAt_set_self]
    split
    · rw [List.length_set]
      omega
    · omega
  case same =>
    intro p hvalue hlo hhi
    rw [cfgPatched, byteAt_cfgRecalcChecksum _ hlo hhi, byteAt_cfgWriteValue _ hvalue]
  case checksum => exact cfgPatched_checksumOk hcfg _ _ _

/--
**A patch succeeds exactly if the section has the register inside the blob; it changes the
first such entry's value and the checksum, and nothing if it fails.**
-/
theorem cfgPatchReg_effect (hcfg : cfg.length = milangCfgLen) (hi : i < cfgSectionCount)
    (reg val : UInt16) (mode : CfgWrite) :
    ((cfgPatchReg cfg reg val i mode).1 = .ok () ↔
      (cfgSectionOff cfg i).toNat + (cfgSectionLen cfg i).toNat ≤ cfg.length ∧
        ∃ k, CfgHit cfg (cfgSectionOff cfg i) (cfgSectionLen cfg i) reg k) ∧
    ((cfgPatchReg cfg reg val i mode).1 = .ok () →
      ∃ k, CfgPatchedAt cfg (cfgPatchReg cfg reg val i mode).2 i reg val mode k) ∧
    ((cfgPatchReg cfg reg val i mode).1 ≠ .ok () → (cfgPatchReg cfg reg val i mode).2 = cfg) := by
  rcases cfgPatchReg_cases hcfg hi reg val mode with
    ⟨k, hcall, hfit, hhit, hfirst⟩ | ⟨e, hcall, hnone⟩
  · rw [hcall]
    refine ⟨⟨fun _ => ⟨hfit, k, hhit⟩, fun _ => rfl⟩, fun _ => ⟨k, ?_⟩, fun h => absurd rfl h⟩
    exact cfgPatchedAt_patched hcfg hhit hfirst val mode
  · rw [hcall]
    refine ⟨⟨fun h => ?_, fun h => absurd h hnone⟩, fun h => ?_, fun _ => rfl⟩
    · exact absurd h (by simp)
    · exact absurd h (by simp)

/-- A section of one byte in front of the checksum, its only entry reaching over it. -/
theorem cfgPatchReg_effect_straddling :
    ((cfgPatchReg (1 :: 0xDC :: 1 :: zeros 221) 0 0xBEEF 0 .both).1 = .ok () ↔
      (cfgSectionOff (1 :: 0xDC :: 1 :: zeros 221) 0).toNat +
        (cfgSectionLen (1 :: 0xDC :: 1 :: zeros 221) 0).toNat ≤
          (1 :: 0xDC :: 1 :: zeros 221).length ∧
      ∃ k, CfgHit (1 :: 0xDC :: 1 :: zeros 221) (cfgSectionOff (1 :: 0xDC :: 1 :: zeros 221) 0)
        (cfgSectionLen (1 :: 0xDC :: 1 :: zeros 221) 0) 0 k) := by
  have hcfg : (1 :: 0xDC :: 1 :: zeros 221).length = milangCfgLen := by simp [milangCfgLen]
  exact (cfgPatchReg_effect hcfg (by decide) 0 0xBEEF .both).1

end Patch

end Gxfp
