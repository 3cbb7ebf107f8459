/-
What the checksum of a Goodix frame detects.

The builder chooses the last byte so that all bytes of the frame sum to the seed, in
eight bits, and the parser compares the sum.  One byte that changes moves the sum, so a
frame with one other byte is reported as bad, wherever the byte is.  A byte of the length
is another matter: it moves the end of the frame.
-/
import Mathlib.Algebra.BigOperators.Group.List.Basic
import Mathlib.Data.UInt
import Gxfp.Proto.Goodix

namespace Gxfp

open Bytes

/-! ### Sums -/

/-- One element that changes moves the sum. -/
theorem sum_set_ne {G : Type} [AddCommGroup G] {xs : List G} {i : Nat} (hi : i < xs.length)
    {x : G} (hx : x ≠ xs[i]) : (xs.set i x).sum ≠ xs.sum := by
  rw [List.sum_set', dif_pos hi]
  intro heq
  have hzero : -xs[i] + x = 0 := left_eq_add.mp heq.symm
  exact hx (neg_add_eq_zero.mp hzero).symm

/-- The sum over the payload, in bytes. -/
theorem toUInt8_foldl (payload : List UInt8) (sum : UInt32) :
    (payload.foldl (fun sum b => sum + b.toUInt32) sum).toUInt8 = sum.toUInt8 + payload.sum := by
  induction payload generalizing sum with
  | nil => exact (add_zero _).symm
  | cons b payload ih =>
    rw [List.foldl_cons, ih, UInt32.toUInt8_add, UInt8.toUInt8_toUInt32, List.sum_cons, add_assoc]

theorem toUInt8_goodixSum (cmd : UInt8) (declLen : UInt16) (payload : List UInt8) :
    (goodixSum cmd declLen payload).toUInt8 =
      cmd + loByte declLen.toNat + hiByte declLen.toNat + payload.sum := by
  rw [goodixSum, toUInt8_foldl, UInt32.toUInt8_add, UInt32.toUInt8_add, UInt8.toUInt8_toUInt32,
    UInt8.toUInt8_toUInt32, UInt8.toUInt8_toUInt32]

/-- **The checksum is right exactly if the bytes sum to the seed.** -/
theorem GoodixFrame.protoChecksumOk_iff (f : GoodixFrame) :
    f.parsed.protoChecksumOk = true ↔ f.bytes.sum = goodixChecksumSeed := by
  have hsum : f.bytes.sum = (goodixSum f.cmd f.declLen f.payload).toUInt8 + f.checksum := by
    rw [toUInt8_goodixSum, bytes, List.sum_append, List.sum_append, List.sum_singleton]
    simp only [List.sum_cons, List.sum_nil, add_zero]
    rw [← add_assoc]
  rw [hsum]
  show (goodixChecksumSeed - _ == f.checksum) = true ↔ _
  rw [beq_iff_eq, sub_eq_iff_eq_add, add_comm f.checksum, eq_comm]

/-! ### One other byte -/

/-- `received` is the frame `sent` with another byte in one place, which is not the length. -/
def OneByteOff (sent received : List UInt8) : Prop :=
  ∃ (i : Nat) (hi : i < sent.length) (b : UInt8), i ≠ 1 ∧ i ≠ 2 ∧ b ≠ sent[i] ∧
    received = sent.set i b

/-- With the length as it was the bytes are a frame still. -/
theorem OneByteOff.frame {f : GoodixFrame} {received : List UInt8}
    (h : OneByteOff f.bytes received) :
    ∃ g : GoodixFrame, g.bytes = received ∧ g.payload.length = f.payload.length := by
  obtain ⟨i, hi, b, hlo, hhi, -, rfl⟩ := h
  rw [GoodixFrame.length_bytes] at hi
  obtain ⟨cmd, payload, checksum, hle⟩ := f
  dsimp only at hi
  match i with
  | 0 => exact ⟨⟨b, payload, checksum, hle⟩, rfl, rfl⟩
  | i + 3 =>
    by_cases hlast : i = payload.length
    · refine ⟨⟨cmd, payload, b, hle⟩, ?_, rfl⟩
      simp [GoodixFrame.bytes, GoodixFrame.declLen, hlast]
    · have hin : i < payload.length := by omega
      have hle' : (payload.set i b).length ≤ 0xFFFE := by
        rw [List.length_set]
        exact hle
      refine ⟨⟨cmd, payload.set i b, checksum, hle'⟩, ?_, List.length_set⟩
      simp [GoodixFrame.bytes, GoodixFrame.declLen, List.set_append_left _ _ hin]

/-- **One other byte is detected.** -/
theorem OneByteOff.detected {f g : GoodixFrame} (h : OneByteOff f.bytes g.bytes)
    (hf : f.parsed.protoChecksumOk = true) : g.parsed.protoChecksumOk = false := by
  obtain ⟨i, hi, b, -, -, hb, hbytes⟩ := h
  have hmoved : (f.bytes.set i b).sum ≠ f.bytes.sum := sum_set_ne hi hb
  rw [← hbytes, f.protoChecksumOk_iff.mp hf] at hmoved
  exact Bool.eq_false_iff.mpr fun hok => hmoved (g.protoChecksumOk_iff.mp hok)

end Gxfp
