/-
Arrays as lists, and lists made of blocks of one length.

An array a C loop fills in is a list that is read with `getD` and written with
`set`.  `writeAt` writes a few consecutive cells, and its one lemma says what every
cell holds afterwards.

`blocks n m g` is `n` blocks of `m` cells each, cell `j` of block `i` being `g i j`:
a matrix in row-major order.  A list is that matrix as soon as its length is right
and its cells are (`eq_blocks`), so a loop that fills an array is proved right by
what it leaves in each cell, whatever order it works in.
-/
import Mathlib.Tactic.Common
import Mathlib.Data.List.GetD

namespace Blocks

variable {α : Type}

/-! ### Cells -/

theorem getD_set_self {l : List α} {i : Nat} (h : i < l.length) (v d : α) :
    (l.set i v).getD i d = v := by
  simp [List.getD_eq_getElem?_getD, h]

theorem getD_set_ne (l : List α) {i j : Nat} (h : i ≠ j) (v d : α) :
    (l.set i v).getD j d = l.getD j d := by
  simp [List.getD_eq_getElem?_getD, h]

/-- `vs` written into `l` from cell `i` on. -/
def writeAt (l : List α) (i : Nat) : List α → List α
  | [] => l
  | v :: vs => writeAt (l.set i v) (i + 1) vs

@[simp] theorem length_writeAt (l : List α) (i : Nat) (vs : List α) :
    (writeAt l i vs).length = l.length := by
  induction vs generalizing l i with
  | nil => rfl
  | cons v vs ih => rw [writeAt, ih, List.length_set]

/-- Cells in front of the written ones keep what they hold. -/
theorem getD_writeAt_lt (l : List α) {i p : Nat} (h : p < i) (vs : List α) (d : α) :
    (writeAt l i vs).getD p d = l.getD p d := by
  induction vs generalizing l i with
  | nil => rfl
  | cons v vs ih =>
      have hne : i ≠ p := by omega
      rw [writeAt, ih _ (by omega), getD_set_ne l hne]

/-- **The written cells hold what was written.** -/
theorem getD_writeAt {l : List α} {i : Nat} {vs : List α} (h : i + vs.length ≤ l.length) {j : Nat}
    (hj : j < vs.length) (d : α) : (writeAt l i vs).getD (i + j) d = vs.getD j d := by
  induction vs generalizing l i j with
  | nil => simp at hj
  | cons v vs ih =>
      rw [List.length_cons] at h hj
      cases j with
      | zero =>
          rw [writeAt, getD_writeAt_lt _ (by omega), Nat.add_zero,
            getD_set_self (by omega)]
          rfl
      | succ j =>
          have hnext := ih (show i + 1 + vs.length ≤ (l.set i v).length by
            rw [List.length_set]; omega) (Nat.lt_of_succ_lt_succ hj)
          rw [writeAt, show i + (j + 1) = i + 1 + j by omega, hnext]
          rfl

/-! ### Blocks -/

/-- `n` blocks of `m` cells, cell `j` of block `i` being `g i j`. -/
def blocks (n m : Nat) (g : Nat → Nat → α) : List α :=
  (List.range n).flatMap fun i => (List.range m).map (g i)

theorem blocks_succ (n m : Nat) (g : Nat → Nat → α) :
    blocks (n + 1) m g = blocks n m g ++ (List.range m).map (g n) := by
  rw [blocks, List.range_succ, List.flatMap_append, List.flatMap_singleton]
  rfl

@[simp] theorem length_blocks (n m : Nat) (g : Nat → Nat → α) :
    (blocks n m g).length = n * m := by
  induction n with
  | zero => simp [blocks]
  | succ n ih =>
      rw [blocks_succ, List.length_append, ih, List.length_map, List.length_range, Nat.succ_mul]

/-- **Cell `j` of block `i` is at `i * m + j`.** -/
theorem getD_blocks {n m : Nat} (g : Nat → Nat → α) {i j : Nat} (hi : i < n) (hj : j < m) (d : α) :
    (blocks n m g).getD (i * m + j) d = g i j := by
  induction n with
  | zero => omega
  | succ n ih =>
      rw [blocks_succ, List.getD_eq_getElem?_getD]
      by_cases hlast : i < n
      · have hmul : (i + 1) * m ≤ n * m := Nat.mul_le_mul_right m hlast
        rw [List.getElem?_append_left (by rw [length_blocks, Nat.succ_mul] at *; omega),
          ← List.getD_eq_getElem?_getD]
        exact ih hlast
      · have hin : i = n := by omega
        rw [List.getElem?_append_right (by rw [length_blocks, hin]; omega), length_blocks, hin,
          Nat.add_sub_cancel_left, List.getElem?_map, List.getElem?_range hj]
        rfl

/-- A position in a list of blocks is a cell of one of them. -/
theorem index_blocks {n m p : Nat} (h : p < n * m) :
    p / m < n ∧ p % m < m ∧ p / m * m + p % m = p := by
  have hm : 0 < m := by
    by_contra hzero
    rw [Nat.eq_zero_of_not_pos hzero, Nat.mul_zero] at h
    exact absurd h (Nat.not_lt_zero p)
  exact ⟨(Nat.div_lt_iff_lt_mul hm).mpr h, Nat.mod_lt p hm, Nat.div_add_mod' p m⟩

/-- **A list with the right length and the right cells is the list of blocks.** -/
theorem eq_blocks {n m : Nat} {g : Nat → Nat → α} {l : List α} (d : α) (hlen : l.length = n * m)
    (h : ∀ i < n, ∀ j < m, l.getD (i * m + j) d = g i j) : l = blocks n m g := by
  refine List.ext_getElem (by rw [hlen, length_blocks]) ?_
  intro p hp hp'
  obtain ⟨hi, hj, hindex⟩ := index_blocks (hlen ▸ hp)
  have hl := h _ hi _ hj
  have hb := getD_blocks g hi hj d
  rw [hindex] at hl hb
  rw [List.getD_eq_getElem _ _ hp] at hl
  rw [List.getD_eq_getElem _ _ hp'] at hb
  rw [hl, hb]

/-- Cells decide, block by block. -/
theorem blocks_congr {n m : Nat} {g g' : Nat → Nat → α}
    (h : ∀ i < n, ∀ j < m, g i j = g' i j) : blocks n m g = blocks n m g' := by
  have hrows : (List.range n).map (fun i => (List.range m).map (g i)) =
      (List.range n).map fun i => (List.range m).map (g' i) := by
    refine List.map_congr_left fun i hi => List.map_congr_left fun j hj => ?_
    exact h i (List.mem_range.mp hi) j (List.mem_range.mp hj)
  exact congrArg List.flatten hrows

end Blocks
