/-
The provisioning blob of `src/algo/payload/provision.c`.

The blob is two records of a tag, a length and a value: the sealed PSK with a seed behind
it, and the white-box data.  The copies into the freshly allocated blob are checked; the
allocation itself is a parameter, which may refuse any length.

The lengths that are let in make a sum of up to 33 bits.  Where it is not rounded up, the
blob has exactly that length.  Rounding up loses the 33rd bit, and what is allocated is
then too small for what is copied.
-/
import Gxfp.Algo.Common
import Gxfp.Library.Tlv
import Gxfp.Cmd.Queries

namespace Gxfp

open Bytes Checked

/-- `seed8` -/
abbrev Seed8 := { seed : List UInt8 // seed.length = 8 }

/-- What `gxfp_payload_build_bb010002` copies, in the order it does. -/
def bb010002Chunks (sealedPsk : List UInt8) (seed8 : Seed8) (wbData : List UInt8) :
    List (List UInt8) :=
  [le32Bytes 0xBB010002, le32Bytes (sealedPsk.length + 8).toUInt32, sealedPsk, seed8.val,
    le32Bytes 0xBB010003, le32Bytes wbData.length.toUInt32, wbData]

/-- The length that `gxfp_payload_build_bb010002` allocates. -/
def bb010002Len (sealedPsk wbData : List UInt8) (pad4 : Bool) : Nat :=
  let outLen := (8 + sealedPsk.length + 8 + 8 + wbData.length) % 2 ^ 64
  if pad4 then align4 outLen else outLen

/-- `gxfp_payload_build_bb010002`; `calloc` is which lengths there is memory for. -/
def payloadBuildBb010002 (calloc : Nat → Bool) (sealedPsk : List UInt8) (seed8 : Seed8)
    (wbData : List UInt8) (pad4 : Bool) : Check (Except Errno (List UInt8)) :=
  if wbData.length = 0 then .ok (.error .inval)
  else if 0xFFFFFFFF - 8 < sealedPsk.length then .ok (.error .overflow)
  else if 0xFFFFFFFF < wbData.length then .ok (.error .overflow)
  else if calloc (bb010002Len sealedPsk wbData pad4) then do
    let out ← storeRun (zeros (bb010002Len sealedPsk wbData pad4)) 0
      (bb010002Chunks sealedPsk seed8 wbData)
    pure (.ok out)
  else .ok (.error .nomem)

/-! ### The blob -/

/-- A blob that was built of `sealedPsk`, `seed8` and `wbData`. -/
structure Bb010002Blob (sealedPsk : List UInt8) (seed8 : Seed8) (wbData : List UInt8)
    (pad4 : Bool) (out : List UInt8) : Prop where
  room : 24 + sealedPsk.length + wbData.length ≤ out.length
  rounded : pad4 = true → out.length = (24 + sealedPsk.length + wbData.length + 3) / 4 * 4
  bare : pad4 = false → out.length = 24 + sealedPsk.length + wbData.length
  /-- The two records and the padding, by walking over them. -/
  records : ∃ psk wb : Tlv.Record, ∃ k < 4, Tlv.walk out = ([psk, wb], zeros k) ∧
    psk.tag = 0xBB010002 ∧ psk.value = sealedPsk ++ seed8.val ∧
    wb.tag = 0xBB010003 ∧ wb.value = wbData

/-- A call stays within what it allocates, and what it returns is such a blob. -/
def Bb010002Right (calloc : Nat → Bool) (sealedPsk : List UInt8) (seed8 : Seed8)
    (wbData : List UInt8) (pad4 : Bool) : Prop :=
  ∃ r, payloadBuildBb010002 calloc sealedPsk seed8 wbData pad4 = .ok r ∧
    ∀ out, r = .ok out → Bb010002Blob sealedPsk seed8 wbData pad4 out

section Blob

variable {sealedPsk wbData : List UInt8} {seed8 : Seed8} {pad4 : Bool}

/-- A byte of a word, masked and cast. -/
theorem toUInt8_mask (v : UInt32) : (v &&& 0xFF).toUInt8 = (v.toNat % 256).toUInt8 := by
  refine UInt8.toNat_inj.mp ?_
  have hmask : (v &&& 0xFF).toNat = v.toNat % 256 := by
    rw [UInt32.toNat_and]
    exact Nat.and_two_pow_sub_one_eq_mod v.toNat 8
  rw [UInt32.toNat_toUInt8, hmask, Nat.toUInt8_eq, UInt8.toNat_ofNat']

theorem le32Bytes_eq (v : UInt32) : le32Bytes v = leBytes 4 v.toNat := by
  have hshift : ∀ k < 32, (v >>> UInt32.ofNat k).toNat = v.toNat / 2 ^ k := by
    intro k hk
    have hcount : (UInt32.ofNat k).toNat % 32 = k := by
      rw [UInt32.toNat_ofNat']
      omega
    rw [UInt32.toNat_shiftRight, hcount, Nat.shiftRight_eq_div_pow]
  have h8 : (v >>> 8).toNat = v.toNat / 256 := hshift 8 (by omega)
  have h16 : (v >>> 16).toNat = v.toNat / 256 / 256 := by
    rw [Nat.div_div_eq_div_mul]
    exact hshift 16 (by omega)
  have h24 : (v >>> 24).toNat = v.toNat / 256 / 256 / 256 := by
    rw [Nat.div_div_eq_div_mul, Nat.div_div_eq_div_mul]
    exact hshift 24 (by omega)
  simp only [le32Bytes, leBytes, toUInt8_mask, h8, h16, h24]

theorem length_bb010002Chunks :
    (bb010002Chunks sealedPsk seed8 wbData).flatten.length =
      24 + sealedPsk.length + wbData.length := by
  have hseed := seed8.property
  simp only [bb010002Chunks, List.flatten_cons, List.flatten_nil, List.length_append,
    List.length_nil, hseed]
  show 4 + (4 + (sealedPsk.length + (8 + (4 + (4 + (wbData.length + 0)))))) = _
  omega

variable (seed8) in
/-- **The copies are two records.** -/
theorem bb010002Chunks_records (hsealed : sealedPsk.length ≤ 0xFFFFFFFF - 8)
    (hwb : wbData.length ≤ 0xFFFFFFFF) :
    ∃ psk wb : Tlv.Record, (bb010002Chunks sealedPsk seed8 wbData).flatten =
        [psk, wb].flatMap Tlv.Record.encode ∧
      psk.tag = 0xBB010002 ∧ psk.value = sealedPsk ++ seed8.val ∧
      wb.tag = 0xBB010003 ∧ wb.value = wbData := by
  have hseed := seed8.property
  have hpsk : (sealedPsk ++ seed8.val).length = sealedPsk.length + 8 := by
    rw [List.length_append, hseed]
  have hfield : (sealedPsk.length + 8).toUInt32.toNat = sealedPsk.length + 8 := by
    rw [Nat.toUInt32_eq, UInt32.toNat_ofNat']
    exact Nat.mod_eq_of_lt (by omega)
  have hfield' : wbData.length.toUInt32.toNat = wbData.length := by
    rw [Nat.toUInt32_eq, UInt32.toNat_ofNat']
    exact Nat.mod_eq_of_lt (by omega)
  refine ⟨⟨0xBB010002, sealedPsk ++ seed8.val, by omega, by omega⟩,
    ⟨0xBB010003, wbData, by omega, by omega⟩, ?_, rfl, rfl, rfl, rfl⟩
  simp only [bb010002Chunks, le32Bytes_eq, hfield, hfield', List.flatMap_cons, List.flatMap_nil,
    Tlv.Record.encode, hpsk, List.flatten_cons, List.flatten_nil, List.append_assoc]
  rfl

variable (seed8) in
/-- **With room for the copies the blob is right**, whatever is behind them. -/
theorem bb010002Blob_of_le {n : Nat} (hsealed : sealedPsk.length ≤ 0xFFFFFFFF - 8)
    (hwb : wbData.length ≤ 0xFFFFFFFF)
    (hpad : pad4 = true → n = (24 + sealedPsk.length + wbData.length + 3) / 4 * 4)
    (hbare : pad4 = false → n = 24 + sealedPsk.length + wbData.length) :
    ∃ out, storeRun (zeros n) 0 (bb010002Chunks sealedPsk seed8 wbData) = .ok out ∧
      Bb010002Blob sealedPsk seed8 wbData pad4 out := by
  have hlen : (bb010002Chunks sealedPsk seed8 wbData).flatten.length =
      24 + sealedPsk.length + wbData.length := length_bb010002Chunks
  have hbounds : 24 + sealedPsk.length + wbData.length ≤ n ∧
      n < 24 + sealedPsk.length + wbData.length + 4 := by
    cases pad4 with
    | true =>
        have hn := hpad rfl
        omega
    | false =>
        have hn := hbare rfl
        omega
  have hroom : 0 + (bb010002Chunks sealedPsk seed8 wbData).flatten.length ≤ (zeros n).length := by
    rw [length_zeros]
    omega
  have hout : (overwrite (zeros n) 0 (bb010002Chunks sealedPsk seed8 wbData).flatten).length =
      n := by
    rw [length_overwrite hroom, length_zeros]
  refine ⟨_, storeRun_of_le hroom, ?_⟩
  constructor
  case room => omega
  case rounded =>
    intro hpad4
    rw [hout, hpad hpad4]
  case bare =>
    intro hpad4
    rw [hout, hbare hpad4]
  case records =>
    obtain ⟨psk, wb, hchunks, htags⟩ := bb010002Chunks_records seed8 hsealed hwb
    have hrest : (zeros n).drop (bb010002Chunks sealedPsk seed8 wbData).flatten.length =
        zeros (n - (24 + sealedPsk.length + wbData.length)) := by
      rw [hlen, zeros, List.drop_replicate]
      rfl
    refine ⟨psk, wb, n - (24 + sealedPsk.length + wbData.length), by omega, ?_, htags⟩
    rw [overwrite_start, hrest, hchunks, Tlv.walk_encode]
    rw [length_zeros]
    omega

variable (seed8 pad4) in
/-- What a call does that gets past its own checks. -/
theorem payloadBuildBb010002_eq (calloc : Nat → Bool) (hwbne : wbData ≠ [])
    (hsealed : sealedPsk.length ≤ 0xFFFFFFFF - 8) (hwb : wbData.length ≤ 0xFFFFFFFF) :
    payloadBuildBb010002 calloc sealedPsk seed8 wbData pad4 =
      if calloc (bb010002Len sealedPsk wbData pad4) then
        (storeRun (zeros (bb010002Len sealedPsk wbData pad4)) 0
          (bb010002Chunks sealedPsk seed8 wbData)).map Except.ok
      else .ok (.error .nomem) := by
  have hpos : wbData.length ≠ 0 := fun h => hwbne (List.length_eq_zero_iff.mp h)
  rw [payloadBuildBb010002, if_neg hpos, if_neg (by omega), if_neg (by omega)]
  rfl

/-- **A blob whose rounded length needs a 33rd bit is too small for what is copied.** -/
theorem not_bb010002Right (hwbne : wbData ≠ []) (hsealed : sealedPsk.length ≤ 0xFFFFFFFF - 8)
    (hwb : wbData.length ≤ 0xFFFFFFFF)
    (hwide : 2 ^ 32 ≤ 24 + sealedPsk.length + wbData.length + 3) :
    ¬ Bb010002Right (fun _ => true) sealedPsk seed8 wbData true := by
  rintro ⟨r, hr, -⟩
  have hlen : (bb010002Chunks sealedPsk seed8 wbData).flatten.length =
      24 + sealedPsk.length + wbData.length := length_bb010002Chunks
  have hsmall : bb010002Len sealedPsk wbData true < 24 + sealedPsk.length + wbData.length := by
    have halign := align4_lt (n := 24 + sealedPsk.length + wbData.length) hwide
    rw [bb010002Len, if_pos rfl, Nat.mod_eq_of_lt (by omega)]
    rwa [show 8 + sealedPsk.length + 8 + 8 + wbData.length =
      24 + sealedPsk.length + wbData.length by omega]
  obtain ⟨f, hf⟩ : ∃ f, storeRun (zeros (bb010002Len sealedPsk wbData true)) 0
      (bb010002Chunks sealedPsk seed8 wbData) = .error f :=
    storeRun_fault (Nat.zero_le _) (by rw [length_zeros]; omega)
  rw [payloadBuildBb010002_eq seed8 true _ hwbne hsealed hwb, if_pos rfl, hf] at hr
  exact absurd hr (by simp [Except.map])

/-- Every other one is right. -/
theorem bb010002Right_of (calloc : Nat → Bool) (hsealed : sealedPsk.length ≤ 0xFFFFFFFF - 8)
    (hwb : wbData.length ≤ 0xFFFFFFFF)
    (h : wbData = [] ∨ pad4 = false ∨ 24 + sealedPsk.length + wbData.length + 3 < 2 ^ 32) :
    Bb010002Right calloc sealedPsk seed8 wbData pad4 := by
  by_cases hempty : wbData = []
  · refine ⟨.error .inval, ?_, fun out hout => absurd hout (by simp)⟩
    rw [payloadBuildBb010002, if_pos (by rw [hempty]; rfl)]
  · have hcall := payloadBuildBb010002_eq seed8 pad4 calloc hempty hsealed hwb
    by_cases hmem : calloc (bb010002Len sealedPsk wbData pad4) = true
    · have hpad : pad4 = true → bb010002Len sealedPsk wbData pad4 =
          (24 + sealedPsk.length + wbData.length + 3) / 4 * 4 := by
        intro hpad4
        have hnarrow : 24 + sealedPsk.length + wbData.length + 3 < 2 ^ 32 := by
          rcases h with h | h | h
          · exact absurd h hempty
          · exact absurd (h.symm.trans hpad4) (by simp)
          · exact h
        rw [bb010002Len, if_pos hpad4, Nat.mod_eq_of_lt (by omega), align4_of_lt (by omega)]
        omega
      have hbare : pad4 = false → bb010002Len sealedPsk wbData pad4 =
          24 + sealedPsk.length + wbData.length := by
        intro hpad4
        rw [bb010002Len, if_neg (by rw [hpad4]; simp), Nat.mod_eq_of_lt (by omega)]
        omega
      obtain ⟨out, hout, hblob⟩ := bb010002Blob_of_le seed8 hsealed hwb hpad hbare
      rw [if_pos hmem, hout] at hcall
      refine ⟨_, hcall, fun out' hout' => ?_⟩
      exact Except.ok.inj hout' ▸ hblob
    · rw [if_neg hmem] at hcall
      exact ⟨_, hcall, fun out hout => absurd hout (by simp)⟩

/-- **The builder is right exactly where rounding up does not need a 33rd bit.** -/
theorem bb010002Right_iff (hsealed : sealedPsk.length ≤ 0xFFFFFFFF - 8)
    (hwb : wbData.length ≤ 0xFFFFFFFF) :
    (∀ calloc, Bb010002Right calloc sealedPsk seed8 wbData pad4) ↔
      wbData = [] ∨ pad4 = false ∨ 24 + sealedPsk.length + wbData.length + 3 < 2 ^ 32 := by
  constructor
  · intro h
    by_contra hnot
    rw [not_or, not_or] at hnot
    obtain ⟨hempty, hpad, hwide⟩ := hnot
    have hpad4 : pad4 = true := by
      cases pad4 with
      | true => rfl
      | false => exact absurd rfl hpad
    subst hpad4
    exact not_bb010002Right hempty hsealed hwb (by omega) (h fun _ => true)
  · intro h calloc
    exact bb010002Right_of calloc hsealed hwb h

/-- A PSK of three bytes, white-box data of two. -/
theorem bb010002Right_iff_small :
    (∀ calloc, Bb010002Right calloc [1, 2, 3] ⟨zeros 8, length_zeros 8⟩ [4, 5] true) ↔
      [4, (5 : UInt8)] = [] ∨ true = false ∨
        24 + [1, 2, (3 : UInt8)].length + [4, (5 : UInt8)].length + 3 < 2 ^ 32 :=
  bb010002Right_iff (by decide) (by decide)

/-- **The longest white-box data make the rounded length 24.** -/
theorem bb010002_wraps :
    bb010002Len [] (List.replicate 0xFFFFFFFF 0) true = 24 ∧
      ¬ Bb010002Right (fun _ => true) [] ⟨zeros 8, length_zeros 8⟩
        (List.replicate 0xFFFFFFFF 0) true := by
  have hlen := List.length_replicate (n := 0xFFFFFFFF) (a := (0 : UInt8))
  constructor
  · rw [bb010002Len, if_pos rfl, hlen, align4_eq]
    decide
  · refine not_bb010002Right ?_ (Nat.zero_le _) (by omega) (by rw [hlen]; decide)
    intro hempty
    rw [hempty] at hlen
    exact absurd hlen (by decide)

end Blob

end Gxfp
