/-
The image CRC of `src/algo/image/plain.c`.

The code builds a table with two shift registers, one for the index that is still
to be taken in and one for the CRC, and then takes one look-up for each byte.
`crc32Mpeg2Serial` is the definition of CRC-32/MPEG-2: one bit after the other from
a register of ones, with no reflection and no final xor.  `crc32Mpeg2_eq_serial`
says that they agree.

The device stores a CRC with its two half-words swapped, high half last.
-/
import Gxfp.Library.Crc
import Gxfp.Library.Bytes

namespace Gxfp

open Bytes

/-! ### The functions of `plain.c` -/

/-- One turn of the loop of `crc32_mpeg2_init_table`, on `local_c` and `local_crc`. -/
def crc32TableBit (regs : UInt32 × UInt32) : UInt32 × UInt32 :=
  let (localC, localCrc) := regs
  (localC <<< 1,
    if (localC ^^^ localCrc) &&& 0x80000000 = 0 then localCrc <<< 1
    else (localCrc <<< 1) ^^^ 0x04C11DB7)

/-- The entry `crc32_mpeg2_init_table` computes for an index. -/
def crc32TableEntry (i : Nat) : UInt32 := (crc32TableBit^[8] (i.toUInt32 <<< 24, 0)).2

/-- `crc32_mpeg2_init_table` -/
def crc32Mpeg2Table : List UInt32 := (List.range 0x100).map crc32TableEntry

/-- One byte of `crc32_mpeg2`. -/
def crc32Mpeg2Byte (crc : UInt32) (b : UInt8) : UInt32 :=
  crc32Mpeg2Table.getD (((crc >>> 24) ^^^ b.toUInt32) &&& 0xFF).toNat 0 ^^^ (crc <<< 8)

/-- `crc32_mpeg2` -/
def crc32Mpeg2 (buf : List UInt8) : UInt32 := buf.foldl crc32Mpeg2Byte 0xFFFFFFFF

/-- The CRC a trailer stands for: two half-words, the high one last. -/
def crcTrailerValue (b0 b1 b2 b3 : UInt8) : UInt32 :=
  (b2.toUInt32 <<< 24) ||| (b3.toUInt32 <<< 16) ||| (b0.toUInt32 <<< 8) ||| b1.toUInt32

/-- `gxfp_image_crc_check` -/
def imageCrcCheck (buf : List UInt8) : Bool :=
  if buf.length < 4 then false
  else
    let len := buf.length
    crc32Mpeg2 (buf.take (len - 4)) ==
      crcTrailerValue (byteAt buf (len - 4)) (byteAt buf (len - 3)) (byteAt buf (len - 2))
        (byteAt buf (len - 1))

/-! ### The definition of the CRC -/

def crc32Poly : BitVec 32 := 0x04C11DB7#32

/-- CRC-32/MPEG-2, one bit after the other. -/
def crc32Mpeg2Serial (buf : List UInt8) : BitVec 32 :=
  (buf.flatMap fun b => Crc.byteBits b.toBitVec).foldl (Crc.feedBit crc32Poly) 0xFFFFFFFF#32

/-- The four bytes the device appends for a CRC. -/
def crcTrailer (crc : UInt32) : List UInt8 :=
  [(crc >>> 8).toUInt8, crc.toUInt8, (crc >>> 24).toUInt8, (crc >>> 16).toUInt8]

/-! ### The table -/

theorem and_msb_eq_zero (x : UInt32) : x &&& 0x80000000 = 0 ↔ x.toBitVec.msb = false := by
  rw [← UInt32.toBitVec_inj]
  exact Crc.and_twoPow_eq_zero (by omega) x.toBitVec

/-- One turn of the table's loop feeds the top bit of `local_c` to `local_crc`. -/
theorem crc32TableBit_eq (c r : UInt32) :
    (crc32TableBit (c, r)).1.toBitVec = c.toBitVec <<< 1 ∧
      (crc32TableBit (c, r)).2.toBitVec = Crc.feedBit crc32Poly r.toBitVec c.toBitVec.msb := by
  refine ⟨rfl, ?_⟩
  have hmsb : (c ^^^ r).toBitVec.msb = (r.toBitVec.msb ^^ c.toBitVec.msb) := by
    rw [UInt32.toBitVec_xor, BitVec.msb_xor, Bool.xor_comm]
  simp only [crc32TableBit, and_msb_eq_zero, hmsb, Crc.feedBit]
  cases r.toBitVec.msb ^^ c.toBitVec.msb
  · rfl
  · rfl

theorem crc32TableBit_iterate (n : Nat) (c r : UInt32) :
    (crc32TableBit^[n] (c, r)).2.toBitVec =
      (Crc.topBits c.toBitVec n).foldl (Crc.feedBit crc32Poly) r.toBitVec := by
  induction n generalizing c r with
  | zero => rfl
  | succ n ih =>
      obtain ⟨hc, hr⟩ := crc32TableBit_eq c r
      rw [Function.iterate_succ_apply, Crc.topBits_succ, List.foldl_cons, ← hc, ← hr, ← ih]

/-- **A table entry is eight steps of its index at the top of the register.** -/
theorem crc32TableEntry_eq (idx : BitVec 8) :
    (crc32TableEntry idx.toNat).toBitVec = (Crc.step crc32Poly)^[8] (Crc.atTop idx) := by
  have hindex : (idx.toNat.toUInt32 <<< 24).toBitVec = Crc.atTop idx := by
    rw [UInt32.toBitVec_shiftLeft, Crc.atTop, ← BitVec.ofNat_toNat]
    rfl
  have hserial := Crc.foldl_feedBit crc32Poly 8 (0#32) (Crc.atTop idx)
  rw [Crc.atTop_shiftLeft (by decide), BitVec.xor_zero, BitVec.zero_xor] at hserial
  rw [← hserial, crc32TableEntry, crc32TableBit_iterate, hindex]
  rfl

theorem crc32Mpeg2Table_getD (idx : BitVec 8) :
    crc32Mpeg2Table.getD idx.toNat 0 = crc32TableEntry idx.toNat := by
  have hlt : idx.toNat < 0x100 := idx.isLt
  simp [crc32Mpeg2Table, List.getD_eq_getElem?_getD, hlt]

/-- **One byte of the code's loop is eight bits of the definition.** -/
theorem crc32Mpeg2Byte_eq (crc : UInt32) (b : UInt8) :
    (crc32Mpeg2Byte crc b).toBitVec =
      (Crc.byteBits b.toBitVec).foldl (Crc.feedBit crc32Poly) crc.toBitVec := by
  have hindex : (((crc >>> 24) ^^^ b.toUInt32) &&& 0xFF).toNat
      = (Crc.topByte crc.toBitVec ^^^ b.toBitVec).toNat := by
    have hb := b.toNat_lt
    have hmask : ∀ n : Nat, n &&& 255 = n % 2 ^ 8 := fun n => Nat.and_two_pow_sub_one_eq_mod n 8
    simp only [Crc.topByte, UInt32.toNat_and, UInt32.toNat_xor, UInt32.toNat_shiftRight,
      UInt8.toNat_toUInt32, BitVec.toNat_xor, BitVec.toNat_setWidth, BitVec.toNat_ushiftRight,
      UInt32.toNat_ofNat, UInt32.toNat_toBitVec, UInt8.toNat_toBitVec]
    rw [hmask, Nat.xor_mod_two_pow, Nat.mod_eq_of_lt hb]
  rw [crc32Mpeg2Byte, hindex, crc32Mpeg2Table_getD, UInt32.toBitVec_xor, crc32TableEntry_eq,
    Crc.feedByte_eq_table crc32Poly (by decide)]
  rfl

/-- **The code computes CRC-32/MPEG-2.** -/
theorem crc32Mpeg2_eq_serial (buf : List UInt8) :
    (crc32Mpeg2 buf).toBitVec = crc32Mpeg2Serial buf := by
  have hrun : ∀ crc : UInt32, (buf.foldl crc32Mpeg2Byte crc).toBitVec =
      (buf.flatMap fun b => Crc.byteBits b.toBitVec).foldl (Crc.feedBit crc32Poly)
        crc.toBitVec := by
    induction buf with
    | nil => exact fun _ => rfl
    | cons b rest ih =>
        intro crc
        rw [List.foldl_cons, ih, crc32Mpeg2Byte_eq, List.flatMap_cons, List.foldl_append]
  exact hrun 0xFFFFFFFF

/-! ### The trailer -/

theorem crcTrailerValue_crcTrailer (crc : UInt32) :
    crcTrailerValue (crc >>> 8).toUInt8 crc.toUInt8 (crc >>> 24).toUInt8 (crc >>> 16).toUInt8
      = crc := by
  rw [← UInt32.toBitVec_inj]
  exact or_bytes32 crc.toBitVec

/-- The last four bytes are the trailer, the others what it is the CRC of. -/
theorem imageCrcCheck_append (body : List UInt8) (b0 b1 b2 b3 : UInt8) :
    imageCrcCheck (body ++ [b0, b1, b2, b3]) =
      (crc32Mpeg2 body == crcTrailerValue b0 b1 b2 b3) := by
  have hlen : (body ++ [b0, b1, b2, b3]).length = body.length + 4 := List.length_append
  have hbyte : ∀ k, byteAt (body ++ [b0, b1, b2, b3]) (body.length + k) =
      byteAt [b0, b1, b2, b3] k := byteAt_append_right body [b0, b1, b2, b3]
  have htake : (body ++ [b0, b1, b2, b3]).take body.length = body := List.take_left
  rw [imageCrcCheck, if_neg (by omega), hlen]
  dsimp only
  rw [show body.length + 4 - 4 = body.length + 0 by omega,
    show body.length + 4 - 3 = body.length + 1 by omega,
    show body.length + 4 - 2 = body.length + 2 by omega,
    show body.length + 4 - 1 = body.length + 3 by omega, hbyte, hbyte, hbyte, hbyte,
    Nat.add_zero, htake]
  rfl

/-- **A body with its CRC behind it is accepted.** -/
theorem imageCrcCheck_trailer {body : List UInt8} {crc : UInt32}
    (h : crc.toBitVec = crc32Mpeg2Serial body) :
    imageCrcCheck (body ++ crcTrailer crc) = true := by
  have hcrc : crc32Mpeg2 body = crc := by
    rw [← UInt32.toBitVec_inj, crc32Mpeg2_eq_serial, h]
  rw [crcTrailer, imageCrcCheck_append, hcrc, crcTrailerValue_crcTrailer, beq_self_eq_true]

end Gxfp
