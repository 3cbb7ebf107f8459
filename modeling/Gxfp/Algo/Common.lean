/-
Blobs for upload: `gxfp_align_blob` of `src/algo/common.c`, and how `psk_tool` uploads
what it has aligned.

Lengths are rounded up with `(len + 3u) & ~3u`.  The mask is an `unsigned int`, so the
rounding also takes the length modulo 2^32 (`align4_eq`).
-/
import Gxfp.Library.Checked
import Gxfp.Library.Bytes
import Gxfp.Errno

namespace Gxfp

open Bytes Checked

/-! ### Rounding up -/

/-- `(n + 3u) & ~3u` for a `size_t`. -/
def align4 (n : Nat) : Nat := (n + 3) % 2 ^ 64 &&& 0xFFFFFFFC

/-- The mask keeps bits 2 to 31. -/
theorem and_mask (n : Nat) : n &&& 0xFFFFFFFC = n % 2 ^ 32 / 4 * 4 := by
  have hmask : (0xFFFFFFFC : Nat) = (2 ^ 30 - 1) <<< 2 := by decide
  have hright : n % 2 ^ 32 / 4 * 4 = (n % 2 ^ 32) >>> 2 <<< 2 := by
    rw [Nat.shiftRight_eq_div_pow, Nat.shiftLeft_eq]
  rw [hmask, hright]
  refine Nat.eq_of_testBit_eq fun i => ?_
  rw [Nat.testBit_and, Nat.testBit_shiftLeft, Nat.testBit_shiftLeft, Nat.testBit_shiftRight,
    Nat.testBit_two_pow_sub_one, Nat.testBit_mod_two_pow]
  by_cases hi : 2 ≤ i
  · rw [show 2 + (i - 2) = i by omega]
    by_cases htop : i < 32
    · simp [hi, htop, show i - 2 < 30 by omega]
    · simp [htop, show ¬ i - 2 < 30 by omega]
  · simp [hi]

/-- **The rounding takes the length modulo 2^32.** -/
theorem align4_eq (n : Nat) : align4 n = (n + 3) % 2 ^ 32 / 4 * 4 := by
  rw [align4, and_mask, Nat.mod_mod_of_dvd _ (by decide)]

/-- Below that it rounds up. -/
theorem align4_of_lt {n : Nat} (hn : n + 3 < 2 ^ 32) : align4 n = (n + 3) / 4 * 4 := by
  rw [align4_eq, Nat.mod_eq_of_lt hn]

/-- From there on the result is too small. -/
theorem align4_lt {n : Nat} (hwide : 2 ^ 32 ≤ n + 3) : align4 n < n := by
  rw [align4_eq]
  omega

/-! ### Blobs -/

/-- `realloc`: which lengths there is memory for, and what is behind the old bytes. -/
structure Realloc where
  room : Nat → Bool
  fresh : Nat → UInt8

/-- The block after `realloc`, if it does not return `NULL`. -/
def Realloc.resize (mem : Realloc) (block : List UInt8) (n : Nat) : Option (List UInt8) :=
  if mem.room n then some (block.take n ++ (List.range (n - block.length)).map mem.fresh)
  else none

/-- `gxfp_align_blob`: its result, and the blob after it. -/
def alignBlob (mem : Realloc) (blob : List UInt8) : Check (Except Errno Unit × List UInt8) :=
  if blob.length = 0 then .ok (.error .inval, blob)
  else
    let lenAligned := align4 blob.length
    if lenAligned = blob.length then .ok (.ok (), blob)
    else if 0xFFFF < lenAligned then .ok (.error .msgsize, blob)
    else
      match mem.resize blob lenAligned with
      | none => .ok (.error .nomem, blob)
      | some nb => do
        -- `memset`, with a count that is a `size_t`
        let nb ← store nb blob.length (zeros ((lenAligned + 2 ^ 64 - blob.length) % 2 ^ 64))
        pure (.ok (), nb)

section Align

variable {mem : Realloc} {blob : List UInt8}

theorem length_resize {n : Nat} {nb : List UInt8} (h : mem.resize blob n = some nb) :
    nb.length = n := by
  unfold Realloc.resize at h
  split at h
  · rw [← Option.some.inj h, List.length_append, List.length_take, List.length_map,
      List.length_range]
    omega
  · exact absurd h (by simp)

theorem take_resize {n : Nat} {nb : List UInt8} (h : mem.resize blob n = some nb)
    (hn : blob.length ≤ n) : nb.take blob.length = blob := by
  unfold Realloc.resize at h
  split at h
  · rw [← Option.some.inj h, List.take_of_length_le hn, List.take_left]
  · exact absurd h (by simp)

variable (mem) in
/-- **A length below 2^32 - 3 is rounded up, or left, or refused.** -/
theorem alignBlob_of_lt (hlen : blob.length + 3 < 2 ^ 32) :
    ∃ r blob', alignBlob mem blob = .ok (r, blob') ∧
      (r = .ok () → 0 < blob.length ∧
        blob' = blob ++ zeros ((blob.length + 3) / 4 * 4 - blob.length) ∧
        (4 ∣ blob.length ∨ (blob.length + 3) / 4 * 4 ≤ 0xFFFF)) ∧
      (∀ e, r = .error e → blob' = blob) := by
  have halign := align4_of_lt hlen
  unfold alignBlob
  by_cases hzero : blob.length = 0
  · rw [if_pos hzero]
    exact ⟨_, _, rfl, fun h => absurd h (by simp), fun _ _ => rfl⟩
  · rw [if_neg hzero]
    dsimp only
    by_cases hsame : align4 blob.length = blob.length
    · rw [if_pos hsame]
      refine ⟨_, _, rfl, fun _ => ⟨by omega, ?_, Or.inl (by omega)⟩, fun _ h => absurd h (by simp)⟩
      rw [← halign, hsame, Nat.sub_self]
      exact (List.append_nil blob).symm
    · rw [if_neg hsame]
      by_cases hlarge : 0xFFFF < align4 blob.length
      · rw [if_pos hlarge]
        exact ⟨_, _, rfl, fun h => absurd h (by simp), fun _ _ => rfl⟩
      · rw [if_neg hlarge]
        cases hnb : mem.resize blob (align4 blob.length) with
        | none => exact ⟨_, _, rfl, fun h => absurd h (by simp), fun _ _ => rfl⟩
        | some nb =>
            have hnblen := length_resize hnb
            have hcount : (align4 blob.length + 2 ^ 64 - blob.length) % 2 ^ 64 =
                align4 blob.length - blob.length := by omega
            have hstore : blob.length + (zeros (align4 blob.length - blob.length)).length ≤
                nb.length := by
              rw [length_zeros]
              omega
            dsimp only
            rw [hcount, store_of_le hstore, ok_bind]
            refine ⟨_, _, rfl, fun _ => ⟨by omega, ?_, Or.inr (by omega)⟩,
              fun _ h => absurd h (by simp)⟩
            rw [overwrite, take_resize hnb (by omega), List.drop_of_length_le, List.append_nil,
              halign]
            rw [length_zeros]
            omega

variable (mem) in
/-- **From there on it is refused, or memory behind the block is overwritten.** -/
theorem alignBlob_of_le (hlen : 2 ^ 32 ≤ blob.length + 3) :
    alignBlob mem blob =
      if 0xFFFF < align4 blob.length then .ok (.error .msgsize, blob)
      else if mem.room (align4 blob.length) then
        .error (.write blob.length ((align4 blob.length + 2 ^ 64 - blob.length) % 2 ^ 64)
          (align4 blob.length))
      else .ok (.error .nomem, blob) := by
  have hsmall := align4_lt hlen
  unfold alignBlob
  rw [if_neg (by omega)]
  dsimp only
  rw [if_neg (by omega)]
  by_cases hlarge : 0xFFFF < align4 blob.length
  · rw [if_pos hlarge, if_pos hlarge]
  · rw [if_neg hlarge, if_neg hlarge]
    cases hnb : mem.resize blob (align4 blob.length) with
    | none =>
        have hroom : ¬ mem.room (align4 blob.length) = true := by
          intro h
          rw [Realloc.resize, if_pos h] at hnb
          exact absurd hnb (by simp)
        rw [if_neg hroom]
    | some nb =>
        have hroom : mem.room (align4 blob.length) = true := by
          by_contra h
          rw [Realloc.resize, if_neg h] at hnb
          exact absurd hnb (by simp)
        have hnblen := length_resize hnb
        dsimp only
        rw [if_pos hroom, store, if_neg (by omega), length_zeros, hnblen]
        rfl

end Align

end Gxfp
