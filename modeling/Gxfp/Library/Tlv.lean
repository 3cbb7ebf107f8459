/-
Runs of records, each a tag, a length and as many bytes as the length says.

Tag and length are 32-bit numbers, the lowest byte first.  `walk` takes records off the
front as long as there is a whole one, so what it leaves is the padding behind the last
one, if that is too short for a header.  It is the inverse of writing the records one
after the other (`walk_encode`): no two runs of records are the same bytes.
-/
import Mathlib.Tactic.Common
import Gxfp.Library.Bytes

namespace Tlv

open Bytes

/-- A tag and a value that have room in a record. -/
structure Record where
  tag : Nat
  value : List UInt8
  tag_lt : tag < 256 ^ 4
  value_lt : value.length < 256 ^ 4
  deriving DecidableEq

/-- The bytes of a record. -/
def Record.encode (r : Record) : List UInt8 :=
  leBytes 4 r.tag ++ leBytes 4 r.value.length ++ r.value

/-- The length that the first record claims. -/
def lengthField (l : List UInt8) : Nat := leValue ((l.drop 4).take 4)

/-- There is a whole record at the front. -/
def Whole (l : List UInt8) : Prop := 8 ≤ l.length ∧ 8 + lengthField l ≤ l.length

instance (l : List UInt8) : Decidable (Whole l) := inferInstanceAs (Decidable (_ ∧ _))

theorem leValue_take_lt (l : List UInt8) : leValue (l.take 4) < 256 ^ 4 := by
  have hlen : (l.take 4).length ≤ 4 := by
    rw [List.length_take]
    omega
  exact Nat.lt_of_lt_of_le (leValue_lt _) (Nat.pow_le_pow_right (by omega) hlen)

theorem length_value_lt (l : List UInt8) : ((l.drop 8).take (lengthField l)).length < 256 ^ 4 := by
  have hlt : lengthField l < 256 ^ 4 := leValue_take_lt _
  rw [List.length_take]
  omega

/-- The record at the front. -/
def front (l : List UInt8) : Record where
  tag := leValue (l.take 4)
  value := (l.drop 8).take (lengthField l)
  tag_lt := leValue_take_lt l
  value_lt := length_value_lt l

/-- The records of a run, and what is left behind them. -/
def walk (l : List UInt8) : List Record × List UInt8 :=
  if h : Whole l then
    ((front l) :: (walk (l.drop (8 + lengthField l))).1, (walk (l.drop (8 + lengthField l))).2)
  else ([], l)
termination_by l.length
decreasing_by
  all_goals
    have hlen := h.1
    rw [List.length_drop]
    omega

theorem length_encode (r : Record) : r.encode.length = 8 + r.value.length := by
  simp only [Record.encode, List.length_append, length_leBytes]

section Encode

variable (r : Record) (rest : List UInt8)

theorem encode_append :
    r.encode ++ rest = leBytes 4 r.tag ++ (leBytes 4 r.value.length ++ (r.value ++ rest)) := by
  simp only [Record.encode, List.append_assoc]

/-- The length is read back. -/
theorem lengthField_encode : lengthField (r.encode ++ rest) = r.value.length := by
  rw [encode_append, lengthField, List.drop_left' (length_leBytes 4 _),
    List.take_left' (length_leBytes 4 _), leValue_leBytes r.value_lt]

theorem drop_header : (r.encode ++ rest).drop 8 = r.value ++ rest := by
  rw [encode_append, ← List.append_assoc, List.drop_left']
  simp only [List.length_append, length_leBytes]

theorem whole_encode : Whole (r.encode ++ rest) := by
  rw [Whole, lengthField_encode, List.length_append, length_encode]
  omega

/-- **The record is read back.** -/
theorem front_encode : front (r.encode ++ rest) = r := by
  have htag : leValue ((r.encode ++ rest).take 4) = r.tag := by
    rw [encode_append, List.take_left' (length_leBytes 4 _), leValue_leBytes r.tag_lt]
  have hvalue : ((r.encode ++ rest).drop 8).take (lengthField (r.encode ++ rest)) = r.value := by
    rw [lengthField_encode, drop_header, List.take_left]
  cases r
  simp only [front, htag, hvalue]

theorem drop_encode : (r.encode ++ rest).drop (8 + lengthField (r.encode ++ rest)) = rest := by
  rw [lengthField_encode, List.drop_left' (length_encode r)]

end Encode

/-- **A run of records is taken apart into the records it was written from.** -/
theorem walk_encode (rs : List Record) {pad : List UInt8} (hpad : pad.length < 8) :
    walk (rs.flatMap Record.encode ++ pad) = (rs, pad) := by
  induction rs with
  | nil =>
      have hshort : ¬ Whole pad := fun h => absurd h.1 (Nat.not_le.mpr hpad)
      rw [List.flatMap_nil, List.nil_append, walk, dif_neg hshort]
  | cons r rs ih =>
      rw [List.flatMap_cons, List.append_assoc, walk, dif_pos (whole_encode r _), drop_encode,
        front_encode, ih]

end Tlv
