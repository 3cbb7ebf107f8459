/-
Symmetric cryptography, as far as lengths and positions go.

Nothing here is about how hard anything is to break.  A pseudo-random function is any
function into strings of one length, key material is what it makes of an input that counts
up, and a stream cipher adds a stream to a message.  What follows from that alone is
where each key lies in the material (`window_keyMaterial`), and that a stream which is used
twice cancels out (`add_cancel`).
-/
import Mathlib.Tactic.Common
import Mathlib.Data.List.Basic

namespace Symmetric

/-- Strings of one length. -/
abbrev Block (β : Type) (n : Nat) := { l : List β // l.length = n }

section Material

variable {β : Type} {w : Nat}

/-- The blocks for the counters from 1 to `n`, one behind the other. -/
def counterBlocks (prf : List β → Block β w) (input : Nat → List β) : Nat → List β
  | 0 => []
  | n + 1 => counterBlocks prf input n ++ (prf (input (n + 1))).val

/-- As much key material as is asked for. -/
def keyMaterial (prf : List β → Block β w) (input : Nat → List β) (n : Nat) : List β :=
  (counterBlocks prf input ((n + w - 1) / w)).take n

variable (prf : List β → Block β w) (input : Nat → List β)

theorem length_counterBlocks (n : Nat) : (counterBlocks prf input n).length = n * w := by
  induction n with
  | zero => simp [counterBlocks]
  | succ n ih =>
      rw [counterBlocks, List.length_append, ih, (prf (input (n + 1))).property, Nat.add_mul,
        Nat.one_mul]

/-- More blocks only add to those that are there. -/
theorem take_counterBlocks {m n : Nat} (h : m ≤ n) :
    (counterBlocks prf input n).take (m * w) = counterBlocks prf input m := by
  induction n with
  | zero =>
      have hm : m = 0 := Nat.le_zero.mp h
      simp [hm, counterBlocks]
  | succ n ih =>
      rcases Nat.lt_or_ge n m with hlt | hle
      · have hm : m = n + 1 := Nat.le_antisymm h hlt
        rw [hm, ← length_counterBlocks prf input (n + 1), List.take_length]
      · have hlen : m * w ≤ (counterBlocks prf input n).length := by
          rw [length_counterBlocks]
          exact Nat.mul_le_mul_right w hle
        rw [counterBlocks, List.take_append_of_le_length hlen, ih hle]

theorem blocks_suffice {n : Nat} (hw : 0 < w) : n ≤ (n + w - 1) / w * w := by
  have hdiv := Nat.div_add_mod (n + w - 1) w
  have hmod := Nat.mod_lt (n + w - 1) hw
  rw [Nat.mul_comm] at hdiv
  omega

theorem length_keyMaterial (hw : 0 < w) (n : Nat) : (keyMaterial prf input n).length = n := by
  rw [keyMaterial, List.length_take, length_counterBlocks]
  exact Nat.min_eq_left (blocks_suffice hw)

/-- **A key that is cut out of the material is cut out of any run of blocks that reaches it.** -/
theorem window_keyMaterial {n k : Nat} (hk : n ≤ k * w) (i len : Nat) (hlen : i + len ≤ n) :
    ((keyMaterial prf input n).drop i).take len =
      ((counterBlocks prf input k).drop i).take len := by
  rcases Nat.eq_zero_or_pos w with rfl | hw
  · have hn : n = 0 := by omega
    have hzero : len = 0 := by omega
    rw [hzero, List.take_zero, List.take_zero]
  · have hleast : (n + w - 1) / w ≤ k := by
      refine Nat.le_of_lt_succ ((Nat.div_lt_iff_lt_mul hw).mpr ?_)
      rw [Nat.succ_mul]
      omega
    have hreach : n ≤ (n + w - 1) / w * w := blocks_suffice hw
    rw [keyMaterial, ← take_counterBlocks prf input hleast, List.take_take,
      Nat.min_eq_left hreach, List.drop_take, List.take_take,
      Nat.min_eq_left (by omega)]

end Material

/-! ### Streams -/

section Streams

variable {n : Nat}

/-- The bytes of two strings, added one by one. -/
def add (a b : Block UInt8 n) : Block UInt8 n :=
  ⟨List.zipWith (· ^^^ ·) a.val b.val, by
    rw [List.length_zipWith, a.property, b.property, Nat.min_self]⟩

/-- The byte of a string at an index of it. -/
def byte (a : Block UInt8 n) (i : Fin n) : UInt8 :=
  a.val.get (i.cast a.property.symm)

theorem byte_add (a b : Block UInt8 n) (i : Fin n) :
    byte (add a b) i = byte a i ^^^ byte b i :=
  List.getElem_zipWith

theorem block_ext {a b : Block UInt8 n} (h : ∀ i, byte a i = byte b i) : a = b := by
  refine Subtype.ext (List.ext_getElem (a.property.trans b.property.symm) fun i hi _ => ?_)
  exact h ⟨i, a.property ▸ hi⟩

/-- **A stream that is added to two messages is not in their sum.** -/
theorem add_cancel (a b stream : Block UInt8 n) :
    add (add a stream) (add b stream) = add a b := by
  refine block_ext fun i => ?_
  simp only [byte_add]
  rw [UInt8.xor_comm (byte b i), ← UInt8.xor_assoc, UInt8.xor_assoc (byte a i),
    UInt8.xor_self, UInt8.xor_zero]

/-- A stream that is added twice is gone. -/
theorem add_twice (a stream : Block UInt8 n) : add (add a stream) stream = a := by
  refine block_ext fun i => ?_
  simp only [byte_add]
  rw [UInt8.xor_assoc, UInt8.xor_self, UInt8.xor_zero]

end Streams

end Symmetric
