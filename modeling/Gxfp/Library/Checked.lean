/-
Checked access to arrays, and checked subtraction.

A computation in `Check` stops at the first access that is not within its array, and at
the first difference of unsigned numbers that would wrap around.  Where such a
computation is shown to be `.ok` of what an unchecked one computes, none of its accesses
is out of bounds.

There is one rule for each access, for one that is in bounds, and two for loops: over
anything with an invariant, and over the elements of an array by their index.
-/
import Mathlib.Tactic.Common
import Mathlib.Data.List.Basic

namespace Checked

/-! ### Accesses -/

/-- What went wrong: where, how many elements, and how many there are. -/
inductive Fault
  | read (index count size : Nat)
  | write (index count size : Nat)
  | underflow (a b : Nat)
  deriving DecidableEq, Repr

/-- Computations whose accesses are checked. -/
abbrev Check := Except Fault

variable {α β : Type}

/-- The element at an index. -/
def fetch (xs : List α) (i : Nat) : Check α :=
  match xs[i]? with
  | some x => .ok x
  | none => .error (.read i 1 xs.length)

/-- The `n` elements from an index on. -/
def slice (xs : List α) (i n : Nat) : Check (List α) :=
  if i + n ≤ xs.length then .ok ((xs.drop i).take n) else .error (.read i n xs.length)

/-- `ys` in the place of as many elements from an index on. -/
def overwrite (xs : List α) (i : Nat) (ys : List α) : List α :=
  xs.take i ++ ys ++ xs.drop (i + ys.length)

/-- The array with `ys` stored from an index on. -/
def store (xs : List α) (i : Nat) (ys : List α) : Check (List α) :=
  if i + ys.length ≤ xs.length then .ok (overwrite xs i ys)
  else .error (.write i ys.length xs.length)

/-- The array `xs` with `n` elements of `ys`, from index `j` on, stored from index `i` on. -/
def copy (xs : List α) (i : Nat) (ys : List α) (j n : Nat) : Check (List α) := do
  let zs ← slice ys j n
  store xs i zs

/-- The difference of two unsigned numbers. -/
def diff (a b : Nat) : Check Nat := if b ≤ a then .ok (a - b) else .error (.underflow a b)

/-! ### In bounds -/

@[simp] theorem ok_bind (a : α) (f : α → Check β) : (Except.ok a >>= f) = f a := rfl

/-- A computation in steps is in bounds if each step is. -/
theorem bind_eq_ok {x : Check α} {f : α → Check β} {b : β} (h : (x >>= f) = .ok b) :
    ∃ a, x = .ok a ∧ f a = .ok b := by
  cases x with
  | error e => exact absurd h (by simp [bind, Except.bind])
  | ok a => exact ⟨a, rfl, h⟩

@[simp] theorem pure_eq_ok (a : α) : (pure a : Check α) = .ok a := rfl

/-- Both branches of a test are in bounds. -/
theorem ite_eq_ok {p : Prop} [Decidable p] {x y : Check α} {a b : α} (hpos : p → x = .ok a)
    (hneg : ¬ p → y = .ok b) : (if p then x else y) = .ok (if p then a else b) := by
  by_cases h : p
  · rw [if_pos h, if_pos h, hpos h]
  · rw [if_neg h, if_neg h, hneg h]

variable {xs ys : List α} {i n a b : Nat}

theorem fetch_of_lt (h : i < xs.length) (d : α) : fetch xs i = .ok (xs.getD i d) := by
  simp [fetch, h]

theorem fetch_getElem (h : i < xs.length) : fetch xs i = .ok xs[i] := by
  simp [fetch, h]

theorem slice_of_le (h : i + n ≤ xs.length) : slice xs i n = .ok ((xs.drop i).take n) := if_pos h

theorem slice_start (h : n ≤ xs.length) : slice xs 0 n = .ok (xs.take n) := by
  rw [slice_of_le (by omega), List.drop_zero]

/-- Everything behind an index. -/
theorem slice_rest (h : i + n = xs.length) : slice xs i n = .ok (xs.drop i) := by
  rw [slice_of_le (Nat.le_of_eq h), List.take_of_length_le]
  rw [List.length_drop]
  omega

theorem store_of_le (h : i + ys.length ≤ xs.length) : store xs i ys = .ok (overwrite xs i ys) :=
  if_pos h

theorem length_drop_take {j : Nat} (h : j + n ≤ ys.length) :
    ((ys.drop j).take n).length = n := by
  rw [List.length_take, List.length_drop]
  omega

theorem copy_of_le {j : Nat} (hread : j + n ≤ ys.length) (hwrite : i + n ≤ xs.length) :
    copy xs i ys j n = .ok (overwrite xs i ((ys.drop j).take n)) := by
  have hlen := length_drop_take hread
  rw [copy, slice_of_le hread, ok_bind, store_of_le (by omega)]

theorem diff_of_le (h : b ≤ a) : diff a b = .ok (a - b) := if_pos h

/-! ### What is stored -/

theorem length_overwrite (h : i + ys.length ≤ xs.length) :
    (overwrite xs i ys).length = xs.length := by
  simp only [overwrite, List.length_append, List.length_take, List.length_drop]
  omega

theorem overwrite_one (h : i < xs.length) (y : α) : overwrite xs i [y] = xs.set i y := by
  rw [overwrite, List.set_eq_take_append_cons_drop, if_pos h]
  simp

theorem overwrite_all (h : ys.length = xs.length) : overwrite xs 0 ys = ys := by
  simp [overwrite, h]

/-- Copying as many elements as the array has. -/
theorem copy_all {j : Nat} (hread : j + n ≤ ys.length) (hn : xs.length = n) :
    copy xs 0 ys j n = .ok ((ys.drop j).take n) := by
  rw [copy_of_le hread (by omega), overwrite_all]
  rw [length_drop_take hread, hn]

/-- Storing behind what has been stored. -/
theorem overwrite_overwrite {zs : List α} (h : i + ys.length ≤ xs.length) :
    overwrite (overwrite xs i ys) (i + ys.length) zs = overwrite xs i (ys ++ zs) := by
  have hfront : (xs.take i ++ ys).length = i + ys.length := by
    rw [List.length_append, List.length_take]
    omega
  unfold overwrite
  rw [List.take_left' hfront, ← List.drop_drop, List.drop_left' hfront, List.drop_drop,
    List.length_append, Nat.add_assoc]
  simp only [List.append_assoc]

theorem store_behind {zs : List α} {k : Nat} (hk : i + ys.length = k)
    (h : k + zs.length ≤ xs.length) :
    store (overwrite xs i ys) k zs = .ok (overwrite xs i (ys ++ zs)) := by
  have hys : i + ys.length ≤ xs.length := by omega
  have hfit : k + zs.length ≤ (overwrite xs i ys).length := by rwa [length_overwrite hys]
  rw [store_of_le hfit, ← hk, overwrite_overwrite hys]

/-- What has been stored is there. -/
theorem drop_overwrite (h : i + ys.length ≤ xs.length) :
    (overwrite xs i ys).drop i = ys ++ xs.drop (i + ys.length) := by
  have hfront : (xs.take i).length = i := List.length_take_of_le (by omega)
  rw [overwrite, List.append_assoc, List.drop_left' hfront]

theorem overwrite_start (xs ys : List α) : overwrite xs 0 ys = ys ++ xs.drop ys.length := by
  simp [overwrite]

theorem getD_overwrite {k : Nat} (h : i + ys.length ≤ xs.length) (hk : k < ys.length) (d : α) :
    (overwrite xs i ys).getD (i + k) d = ys.getD k d := by
  have hdrop := congrArg (fun zs => zs.getD k d) (drop_overwrite h)
  simpa [List.getD_eq_getElem?_getD, List.getElem?_drop, List.getElem?_append_left hk] using hdrop

/-- Reading within what has been stored. -/
theorem slice_overwrite {k : Nat} (h : i + ys.length ≤ xs.length) (hk : k + n ≤ ys.length) :
    slice (overwrite xs i ys) (i + k) n = .ok ((ys.drop k).take n) := by
  have hrest : n ≤ (ys.drop k).length := by
    rw [List.length_drop]
    omega
  rw [slice_of_le (by rw [length_overwrite h]; omega), ← List.drop_drop, drop_overwrite h,
    List.drop_append_of_le_length (by omega), List.take_append_of_le_length hrest]

/-- What has been stored at the start of an array, read back. -/
theorem slice_stored (hn : ys.length = n) (h : n ≤ xs.length) :
    slice (overwrite xs 0 ys) 0 n = .ok ys := by
  have hfit : n ≤ (overwrite xs 0 ys).length := by
    rwa [length_overwrite (by omega)]
  rw [slice_start hfit, overwrite_start, ← hn, List.take_left]

/-! ### Copies one behind the other -/

/-- Each of the arrays stored behind the one before, from index `i` on. -/
def storeRun (xs : List α) (i : Nat) : List (List α) → Check (List α)
  | [] => .ok xs
  | ys :: rest => do
    let xs ← store xs i ys
    storeRun xs (i + ys.length) rest

/-- **With room for all of them they are stored as one.** -/
theorem storeRun_of_le {chunks : List (List α)} (h : i + chunks.flatten.length ≤ xs.length) :
    storeRun xs i chunks = .ok (overwrite xs i chunks.flatten) := by
  induction chunks generalizing xs i with
  | nil => simp [storeRun, overwrite]
  | cons ys rest ih =>
      rw [List.flatten_cons, List.length_append] at h
      have hstore : i + ys.length ≤ xs.length := by omega
      have hrest : i + ys.length + rest.flatten.length ≤ (overwrite xs i ys).length := by
        rw [length_overwrite hstore]
        omega
      rw [storeRun, store_of_le hstore, ok_bind, ih hrest, overwrite_overwrite hstore,
        List.flatten_cons]

/-- **Without it one of them is not within the array.** -/
theorem storeRun_fault {chunks : List (List α)} (hi : i ≤ xs.length)
    (h : xs.length < i + chunks.flatten.length) : ∃ f, storeRun xs i chunks = .error f := by
  induction chunks generalizing xs i with
  | nil =>
      rw [List.flatten_nil, List.length_nil] at h
      omega
  | cons ys rest ih =>
      rw [List.flatten_cons, List.length_append] at h
      by_cases hstore : i + ys.length ≤ xs.length
      · have hlen := length_overwrite hstore
        obtain ⟨f, hf⟩ : ∃ f, storeRun (overwrite xs i ys) (i + ys.length) rest = .error f :=
          ih (by omega) (by omega)
        rw [storeRun, store_of_le hstore, ok_bind]
        exact ⟨f, hf⟩
      · exact ⟨.write i ys.length xs.length, by rw [storeRun, store, if_neg hstore]; rfl⟩

/-! ### Loops -/

/-- A loop whose body is in bounds as long as `P` holds, which it keeps. -/
theorem foldlM_eq (P : β → Prop) {step : β → α → Check β} {f : β → α → β} {l : List α}
    (hstep : ∀ x ∈ l, ∀ s, P s → step s x = .ok (f s x) ∧ P (f s x)) {s : β} (hs : P s) :
    l.foldlM step s = .ok (l.foldl f s) ∧ P (l.foldl f s) := by
  induction l generalizing s with
  | nil => exact ⟨rfl, hs⟩
  | cons x l ih =>
      obtain ⟨heq, hkeep⟩ := hstep x List.mem_cons_self s hs
      rw [List.foldlM_cons, heq, ok_bind, List.foldl_cons]
      exact ih (fun y hy => hstep y (List.mem_cons_of_mem _ hy)) hkeep

/-- A loop over the first elements of an array, by the index, visits them in order. -/
theorem foldlM_fetch (f : β → α → β) (s : β) (h : n ≤ xs.length) :
    (List.range n).foldlM (fun s i => do
      let x ← fetch xs i
      pure (f s x)) s = .ok ((xs.take n).foldl f s) := by
  induction n with
  | zero => rfl
  | succ n ih =>
      have hlt : n < xs.length := h
      rw [List.range_succ, List.foldlM_append, ih (Nat.le_of_lt hlt), ok_bind, List.foldlM_cons,
        fetch_getElem hlt, List.take_succ_eq_append_getElem hlt, List.foldl_append]
      rfl

/-- Copying the first elements of an array by the index is storing them. -/
theorem foldlM_copy (xs ys : List α) (hn : n ≤ ys.length) (h : n ≤ xs.length) :
    (List.range n).foldlM (fun zs i => do
      let y ← fetch ys i
      store zs i [y]) xs = .ok (overwrite xs 0 (ys.take n)) := by
  induction n with
  | zero => simp [overwrite]
  | succ n ih =>
      have hlt : n < ys.length := hn
      have hlen : 0 + (ys.take n).length = n := by
        rw [List.length_take]
        omega
      have hone : n + [ys[n]].length ≤ xs.length := h
      rw [List.range_succ, List.foldlM_append, ih (Nat.le_of_lt hlt) (Nat.le_of_lt h), ok_bind,
        List.foldlM_cons, fetch_getElem hlt, ok_bind, store_behind hlen hone, ok_bind,
        List.take_succ_eq_append_getElem hlt]
      rfl

end Checked
