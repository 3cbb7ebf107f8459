/-
Little-endian words and zero padding over byte lists.

Everything here is about bytes and lists of bytes.  A C buffer is a `List UInt8`,
a `size_t` is a `Nat`, and the casts C writes as `(uint8_t)(n & 0xff)` and
`(uint8_t)((n >> 8) & 0xff)` are `loByte` and `hiByte`.  The arithmetic reading of
each operator is proved once, so that whoever composes a word out of two bytes or
takes one apart is left with a goal for `omega`.
-/
import Mathlib.Tactic.Common
import Mathlib.Data.List.Basic
import Mathlib.Algebra.Group.Nat.Defs

namespace Bytes

/-! ### Two bytes and the word they make -/

/-- The 16-bit word with low byte `lo` and high byte `hi`. -/
def le16 (lo hi : UInt8) : UInt16 := lo.toUInt16 ||| (hi.toUInt16 <<< 8)

/-- The low byte of a number. -/
def loByte (n : Nat) : UInt8 := (n &&& 0xFF).toUInt8

/-- The second byte of a number. -/
def hiByte (n : Nat) : UInt8 := ((n >>> 8) &&& 0xFF).toUInt8

theorem toNat_le16 (lo hi : UInt8) : (le16 lo hi).toNat = lo.toNat + 256 * hi.toNat := by
  have hlo : lo.toNat < 2 ^ 8 := lo.toNat_lt
  have hhi : hi.toNat < 2 ^ 8 := hi.toNat_lt
  have hor : hi.toNat * 2 ^ 8 + lo.toNat = hi.toNat * 2 ^ 8 ||| lo.toNat := by
    rw [← Nat.shiftLeft_eq]
    exact Nat.shiftLeft_add_eq_or_of_lt hlo hi.toNat
  simp only [le16, UInt16.toNat_or, UInt16.toNat_shiftLeft, UInt8.toNat_toUInt16]
  rw [show UInt16.toNat 8 % 16 = 8 from rfl, Nat.shiftLeft_eq,
    Nat.mod_eq_of_lt (by omega), Nat.or_comm, ← hor]
  omega

theorem toNat_loByte (n : Nat) : (loByte n).toNat = n % 256 := by
  rw [loByte, show (0xFF : Nat) = 2 ^ 8 - 1 from rfl, Nat.and_two_pow_sub_one_eq_mod]
  simp

theorem toNat_hiByte (n : Nat) : (hiByte n).toNat = n / 256 % 256 := by
  rw [hiByte, show (0xFF : Nat) = 2 ^ 8 - 1 from rfl, Nat.and_two_pow_sub_one_eq_mod,
    Nat.shiftRight_eq_div_pow]
  simp

/-- **Splitting a 16-bit number and reading the two bytes back gives it again.** -/
theorem toNat_le16_split {n : Nat} (h : n < 65536) :
    (le16 (loByte n) (hiByte n)).toNat = n := by
  rw [toNat_le16, toNat_loByte, toNat_hiByte]
  omega

theorem le16_split (w : UInt16) : le16 (loByte w.toNat) (hiByte w.toNat) = w := by
  refine UInt16.toNat_inj.mp ?_
  exact toNat_le16_split w.toNat_lt

/-- The two bytes of a word are the two bytes it was made of. -/
theorem loByte_le16 (lo hi : UInt8) : loByte (le16 lo hi).toNat = lo := by
  have hlo := lo.toNat_lt
  refine UInt8.toNat_inj.mp ?_
  rw [toNat_loByte, toNat_le16]
  omega

theorem hiByte_le16 (lo hi : UInt8) : hiByte (le16 lo hi).toNat = hi := by
  have hlo := lo.toNat_lt
  have hhi := hi.toNat_lt
  refine UInt8.toNat_inj.mp ?_
  rw [toNat_hiByte, toNat_le16]
  omega

/-- The four bytes of a 32-bit word, put back where they were. -/
theorem or_bytes32 (x : BitVec 32) :
    ((x >>> 24).setWidth 8).setWidth 32 <<< 24 ||| ((x >>> 16).setWidth 8).setWidth 32 <<< 16 |||
      ((x >>> 8).setWidth 8).setWidth 32 <<< 8 ||| (x.setWidth 8).setWidth 32 = x := by
  refine BitVec.eq_of_getLsbD_eq fun i hi => ?_
  simp only [BitVec.getLsbD_or, BitVec.getLsbD_shiftLeft, BitVec.getLsbD_setWidth,
    BitVec.getLsbD_ushiftRight, hi, decide_true, Bool.true_and]
  by_cases h8 : i < 8
  · simp [h8, show i < 16 by omega, show i < 24 by omega]
  · by_cases h16 : i < 16
    · simp [h8, h16, show i < 24 by omega, show i - 8 < 8 by omega, show i - 8 < 32 by omega,
        show 8 + (i - 8) = i by omega]
    · by_cases h24 : i < 24
      · simp [h8, h16, h24, show ¬ i - 8 < 8 by omega, show i - 16 < 8 by omega,
          show i - 16 < 32 by omega, show 16 + (i - 16) = i by omega]
      · simp [h8, h16, h24, show ¬ i - 8 < 8 by omega, show ¬ i - 16 < 8 by omega,
          show i - 24 < 8 by omega, show i - 24 < 32 by omega, show 24 + (i - 24) = i by omega]

/-- The bytes that a 32-bit word is put together of. -/
theorem bytes_or32 (a b c d : BitVec 8) {x : BitVec 32}
    (hx : x = a.setWidth 32 <<< 24 ||| b.setWidth 32 <<< 16 ||| c.setWidth 32 <<< 8 |||
      d.setWidth 32) :
    (x >>> 24).setWidth 8 = a ∧ (x >>> 16).setWidth 8 = b ∧ (x >>> 8).setWidth 8 = c ∧
      x.setWidth 8 = d := by
  have hbit : ∀ i, x.getLsbD i =
      (decide (i < 32) && (!decide (i < 24) && a.getLsbD (i - 24) ||
        !decide (i < 16) && b.getLsbD (i - 16) || !decide (i < 8) && c.getLsbD (i - 8) ||
          d.getLsbD i)) := by
    intro i
    simp only [hx, BitVec.getLsbD_or, BitVec.getLsbD_shiftLeft, BitVec.getLsbD_setWidth]
    by_cases hi : i < 32
    · simp [hi, show i - 24 < 32 by omega, show i - 16 < 32 by omega, show i - 8 < 32 by omega]
    · simp [hi]
  refine ⟨?_, ?_, ?_, ?_⟩ <;> refine BitVec.eq_of_getLsbD_eq fun i hi => ?_
  · simp only [BitVec.getLsbD_setWidth, BitVec.getLsbD_ushiftRight, hbit]
    simp [hi, show 24 + i < 32 by omega, show ¬ 24 + i < 24 by omega,
      show 8 ≤ 24 + i - 16 by omega, show 8 ≤ 24 + i - 8 by omega, show 8 ≤ 24 + i by omega]
  · simp only [BitVec.getLsbD_setWidth, BitVec.getLsbD_ushiftRight, hbit]
    simp [hi, show 16 + i < 32 by omega, show 16 + i < 24 by omega,
      show ¬ 16 + i < 16 by omega, show 8 ≤ 16 + i - 8 by omega, show 8 ≤ 16 + i by omega]
  · simp only [BitVec.getLsbD_setWidth, BitVec.getLsbD_ushiftRight, hbit]
    simp [hi, show 8 + i < 32 by omega, show 8 + i < 24 by omega, show 8 + i < 16 by omega,
      show ¬ 8 + i < 8 by omega, show 8 ≤ 8 + i by omega]
  · simp only [BitVec.getLsbD_setWidth, hbit]
    simp [hi, show i < 32 by omega, show i < 24 by omega, show i < 16 by omega]

/-! ### Words of any width -/

/-- The low `n` bytes of a number, the lowest first. -/
def leBytes : Nat → Nat → List UInt8
  | 0, _ => []
  | n + 1, w => (w % 256).toUInt8 :: leBytes n (w / 256)

/-- The number whose bytes these are, the lowest first. -/
def leValue : List UInt8 → Nat
  | [] => 0
  | b :: l => b.toNat + 256 * leValue l

@[simp] theorem length_leBytes (n w : Nat) : (leBytes n w).length = n := by
  induction n generalizing w with
  | zero => rfl
  | succ n ih => rw [leBytes, List.length_cons, ih]

theorem leValue_lt (l : List UInt8) : leValue l < 256 ^ l.length := by
  induction l with
  | nil => exact Nat.one_pos
  | cons b l ih =>
      have hb : b.toNat < 256 := b.toNat_lt
      rw [leValue, List.length_cons, Nat.pow_succ]
      omega

/-- A number is read back from as many bytes as it needs. -/
theorem leValue_leBytes {n w : Nat} (h : w < 256 ^ n) : leValue (leBytes n w) = w := by
  induction n generalizing w with
  | zero =>
      rw [Nat.pow_zero] at h
      rw [leBytes, leValue]
      omega
  | succ n ih =>
      rw [Nat.pow_succ] at h
      have hbyte : (w % 256).toUInt8.toNat = w % 256 := by
        rw [Nat.toUInt8_eq, UInt8.toNat_ofNat']
        omega
      rw [leBytes, leValue, hbyte, ih (by omega)]
      omega

theorem leBytes_leValue (l : List UInt8) : leBytes l.length (leValue l) = l := by
  induction l with
  | nil => rfl
  | cons b l ih =>
      have hb : b.toNat < 256 := b.toNat_lt
      have hlow : (b.toNat + 256 * leValue l) % 256 = b.toNat := by omega
      have hhigh : (b.toNat + 256 * leValue l) / 256 = leValue l := by omega
      rw [List.length_cons, leValue, leBytes, hlow, hhigh, ih, Nat.toUInt8_eq, UInt8.ofNat_toNat]

/-! ### Zero padding -/

/-- `memset` of `n` bytes to zero. -/
def zeros (n : Nat) : List UInt8 := List.replicate n 0

@[simp] theorem length_zeros (n : Nat) : (zeros n).length = n := by
  simp [zeros]

theorem mem_zeros {n : Nat} {b : UInt8} (h : b ∈ zeros n) : b = 0 :=
  (List.mem_replicate.mp h).2

/-! ### Addressed access -/

/-- The byte at an address; reading behind the end gives zero. -/
def byteAt (l : List UInt8) (i : Nat) : UInt8 := l.getD i 0

/-- The little-endian word at an address. -/
def le16At (l : List UInt8) (i : Nat) : UInt16 := le16 (byteAt l i) (byteAt l (i + 1))

/-- The little-endian 32-bit word at an address. -/
def le32At (l : List UInt8) (i : Nat) : UInt32 :=
  (byteAt l i).toUInt32 ||| ((byteAt l (i + 1)).toUInt32 <<< 8) |||
    ((byteAt l (i + 2)).toUInt32 <<< 16) ||| ((byteAt l (i + 3)).toUInt32 <<< 24)

theorem byteAt_set_self {l : List UInt8} {i : Nat} (h : i < l.length) (b : UInt8) :
    byteAt (l.set i b) i = b := by
  simp [byteAt, List.getD_eq_getElem?_getD, h]

theorem byteAt_append_left {l : List UInt8} {i : Nat} (h : i < l.length) (t : List UInt8) :
    byteAt (l ++ t) i = byteAt l i := by
  rw [byteAt, byteAt, List.getD_eq_getElem?_getD, List.getD_eq_getElem?_getD,
    List.getElem?_append_left h]

theorem byteAt_append_right (l t : List UInt8) (k : Nat) :
    byteAt (l ++ t) (l.length + k) = byteAt t k := by
  rw [byteAt, byteAt, List.getD_eq_getElem?_getD, List.getD_eq_getElem?_getD,
    List.getElem?_append_right (Nat.le_add_right _ _), Nat.add_sub_cancel_left]

/-- Storing a byte leaves every other address as it was. -/
theorem byteAt_set_ne (l : List UInt8) {i j : Nat} (h : i ≠ j) (b : UInt8) :
    byteAt (l.set i b) j = byteAt l j := by
  simp [byteAt, List.getD_eq_getElem?_getD, h]

/-- Two lists that agree on two bytes agree on the word there. -/
theorem le16At_congr {l l' : List UInt8} {i : Nat} (hlo : byteAt l i = byteAt l' i)
    (hhi : byteAt l (i + 1) = byteAt l' (i + 1)) : le16At l i = le16At l' i := by
  rw [le16At, le16At, hlo, hhi]

/-- A word stored as its two bytes is read back. -/
theorem le16At_of_bytes {l : List UInt8} {i : Nat} {w : UInt16}
    (hlo : byteAt l i = loByte w.toNat) (hhi : byteAt l (i + 1) = hiByte w.toNat) :
    le16At l i = w := by
  rw [le16At, hlo, hhi]
  exact le16_split w

end Bytes
