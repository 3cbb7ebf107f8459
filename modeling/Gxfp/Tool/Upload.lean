/-
The upload of `psk_tool`: a file is aligned and handed to `gxfp_cmd_production_write_mcu`.

The command takes a 16-bit length, and the tool casts the blob's.  That the cast loses
nothing rests on `gxfp_align_blob`, which refuses an aligned length of more than 16 bits
unless there is nothing to align: it returns before it has looked.
-/
import Mathlib.Order.Bounds.Defs
import Gxfp.Algo.Common
import Gxfp.Cmd.Queries

namespace Gxfp

open Bytes Checked

def productionWriteMcuCmd : UInt8 := 0xE0

/-- `production_write_selector` -/
def productionWriteSelector : FrameSelector := fun frame =>
  if frame.payload.length < 1 then .ok false else .ok true

section Upload

variable {σ : Type} (sys : Sys σ) (dev : Dev) (fuel : Nat)

/-- `gxfp_cmd_production_write_mcu`, with the bytes it sends: the `mcu_ret` it reports. -/
def productionWriteMcu (payload : List UInt8) (s : σ) :
    Option (Except Errno UInt8 × Dev × σ) :=
  match goodixRequestSelected sys dev fuel productionWriteMcuCmd productionWriteMcuCmd payload
    mpFrameMax 4 2000 productionWriteSelector s with
  | none => none
  | some (.error e, dev, s) => some (.error e, dev, s)
  | some (.ok rx, dev, s) =>
    match parseGoodixBody rx with
    | none => some (.error .badmsg, dev, s)
    | some frame =>
      if ¬ frame.valid then some (.error .badmsg, dev, s)
      else if frame.cmd ≠ productionWriteMcuCmd then some (.error .badmsg, dev, s)
      else if frame.payload.length < 1 then some (.error .badmsg, dev, s)
      else some (.ok (byteAt frame.payload 0), dev, s)

/-- `gxfp_cmd_production_write_mcu` -/
def cmdProductionWriteMcu (blob : List UInt8) (blobLen : UInt16) (s : σ) :
    Option (Except Errno UInt8 × Dev × σ) :=
  productionWriteMcu sys dev fuel (blob.take blobLen.toNat) s

/-- `upload_bb010002` in `main` of `psk_tool`, on what was read from the file. -/
def pskToolUpload (mem : Realloc) (blob : List UInt8) (s : σ) :
    Check (Option (Except Errno UInt8 × Dev × σ)) := do
  let (r, blob) ← alignBlob mem blob
  match r with
  | .error e => pure (some (.error e, dev, s))
  | .ok () => pure (cmdProductionWriteMcu sys dev fuel blob blob.length.toUInt16 s)

end Upload

/-! ### What aligning promises -/

/-- What a call leaves: the blob aligned and short enough to be uploaded whole, or as it was. -/
structure Aligned (mem : Realloc) (blob : List UInt8) (r : Except Errno Unit)
    (blob' : List UInt8) : Prop where
  least : r = .ok () → IsLeast {n | blob.length ≤ n ∧ 4 ∣ n} blob'.length
  contents : r = .ok () → blob' = blob ++ zeros (blob'.length - blob.length)
  limit : r = .ok () → blob'.length ≤ 0xFFFF
  whole : r = .ok () → ∀ (σ : Type) (sys : Sys σ) (dev : Dev) (fuel : Nat) (s : σ),
    pskToolUpload sys dev fuel mem blob s = .ok (productionWriteMcu sys dev fuel blob' s)
  unchanged : ∀ e, r = .error e → blob' = blob

/-- A call stays within its block, and leaves the blob in that way. -/
def AlignRight (mem : Realloc) (blob : List UInt8) : Prop :=
  ∃ r blob', alignBlob mem blob = .ok (r, blob') ∧ Aligned mem blob r blob'

section Align

variable {blob : List UInt8}

/-- A length of 16 bits is passed on as it is. -/
theorem pskToolUpload_whole {mem : Realloc} {blob' : List UInt8}
    (h : alignBlob mem blob = .ok (.ok (), blob')) (hlimit : blob'.length ≤ 0xFFFF) {σ : Type}
    (sys : Sys σ) (dev : Dev) (fuel : Nat) (s : σ) :
    pskToolUpload sys dev fuel mem blob s = .ok (productionWriteMcu sys dev fuel blob' s) := by
  have hcast : blob'.length.toUInt16.toNat = blob'.length := by
    rw [Nat.toUInt16_eq, UInt16.toNat_ofNat']
    exact Nat.mod_eq_of_lt (by omega)
  rw [pskToolUpload, h, ok_bind]
  dsimp only
  rw [cmdProductionWriteMcu, hcast, List.take_length]
  rfl

/-- Lengths for which the call keeps its promise. -/
def AlignLength (n : Nat) : Prop :=
  (n + 3 < 2 ^ 32 ∧ (4 ∣ n → n ≤ 0xFFFF)) ∨ (2 ^ 32 ≤ n + 3 ∧ 0x10000 ≤ (n + 3) % 2 ^ 32)

/-- **The call keeps its promise for these lengths.** -/
theorem alignRight_of (mem : Realloc) (h : AlignLength blob.length) : AlignRight mem blob := by
  rcases h with ⟨hlen, hlimit⟩ | ⟨hlen, hlarge⟩
  · obtain ⟨r, blob', hcall, hok, herror⟩ := alignBlob_of_lt mem hlen
    refine ⟨r, blob', hcall, ?_⟩
    have hlength : r = .ok () → blob'.length = (blob.length + 3) / 4 * 4 := by
      intro hr
      obtain ⟨-, hblob', -⟩ := hok hr
      rw [hblob', List.length_append, length_zeros]
      omega
    have hshort : r = .ok () → blob'.length ≤ 0xFFFF := by
      intro hr
      rw [hlength hr]
      obtain ⟨-, -, hdvd | hle⟩ := hok hr
      · have hblob := hlimit hdvd
        omega
      · exact hle
    constructor
    case least =>
      intro hr
      rw [hlength hr]
      exact ⟨⟨by omega, by omega⟩, fun n hn => by obtain ⟨hle, k, rfl⟩ := hn; omega⟩
    case contents =>
      intro hr
      rw [hlength hr]
      exact (hok hr).2.1
    case limit => exact hshort
    case whole =>
      intro hr σ sys dev fuel s
      rw [hr] at hcall
      exact pskToolUpload_whole hcall (hshort hr) sys dev fuel s
    case unchanged => exact herror
  · have hcall := alignBlob_of_le mem hlen
    have haligned := align4_eq blob.length
    rw [if_pos (by omega)] at hcall
    refine ⟨_, _, hcall, ?_⟩
    constructor
    case unchanged => exact fun _ _ => rfl
    all_goals exact fun h => absurd h (by simp)

/-- **Nothing to align, and no look at the length.** -/
theorem not_alignRight_aligned (mem : Realloc) (hdvd : 4 ∣ blob.length)
    (hlarge : 0xFFFF < blob.length) (hlen : blob.length + 3 < 2 ^ 32) :
    ¬ AlignRight mem blob := by
  rintro ⟨r, blob', hcall, hright⟩
  have halign := align4_of_lt hlen
  rw [alignBlob, if_neg (by omega)] at hcall
  dsimp only at hcall
  rw [if_pos (by omega)] at hcall
  obtain ⟨rfl, rfl⟩ := Prod.mk.inj (Except.ok.inj hcall)
  exact absurd (hright.limit rfl) (Nat.not_le.mpr hlarge)

/-- **The count that clears the padding has wrapped around.** -/
theorem not_alignRight_wrapped (mem : Realloc) (hmem : mem.room (align4 blob.length) = true)
    (hlen : 2 ^ 32 ≤ blob.length + 3) (hsmall : (blob.length + 3) % 2 ^ 32 < 0x10000) :
    ¬ AlignRight mem blob := by
  rintro ⟨r, blob', hcall, -⟩
  have haligned := align4_eq blob.length
  rw [alignBlob_of_le mem hlen, if_neg (by omega), if_pos hmem] at hcall
  exact absurd hcall (by simp)

/-- **The promise is kept exactly for these lengths.** -/
theorem alignRight_iff : (∀ mem, AlignRight mem blob) ↔ AlignLength blob.length := by
  constructor
  · intro h
    by_contra hnot
    unfold AlignLength at hnot
    by_cases hlen : blob.length + 3 < 2 ^ 32
    · have hbad : 4 ∣ blob.length ∧ 0xFFFF < blob.length := by
        by_contra hgood
        exact hnot (Or.inl ⟨hlen, fun hdvd => by omega⟩)
      exact not_alignRight_aligned ⟨fun _ => true, fun _ => 0⟩ hbad.1 hbad.2 hlen (h _)
    · exact not_alignRight_wrapped ⟨fun _ => true, fun _ => 0⟩ rfl (by omega) (by omega)
        (h _)
  · exact fun h mem => alignRight_of mem h

/-- **A file of 64 KiB is uploaded as no bytes at all.** -/
theorem alignRight_64KiB :
    ¬ AlignRight ⟨fun _ => true, fun _ => 0⟩ (List.replicate 0x10000 0) ∧
      (0x10000 : Nat).toUInt16 = 0 := by
  have hlen := List.length_replicate (n := 0x10000) (a := (0 : UInt8))
  exact ⟨not_alignRight_aligned _ (by omega) (by omega) (by omega), rfl⟩

end Align

end Gxfp
