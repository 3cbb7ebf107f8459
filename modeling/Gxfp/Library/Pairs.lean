/-
The pairs of a list, each element with every later one.

`pairs` is what two nested loops walk over, with `j` from the start and `k` from `j + 1`.
There are as many as the list has subsets of two, and those with a property are the pairs
of indices whose elements have it.

A counter that cannot go beyond a limit gives up where it would; `foldlM_count` says that
it does so exactly if there is more to count than the limit.  A loop that collects, and may give up
on an element, gives up or has collected what each element has to give (`foldlM_collect`).
-/
import Mathlib.Algebra.BigOperators.Fin
import Mathlib.Data.Nat.Choose.Basic
import Mathlib.Tactic.Common

namespace Pairs

variable {α β : Type}

/-- Every element with every later one. -/
def pairs : List α → List (α × α)
  | [] => []
  | x :: xs => xs.map (fun y => (x, y)) ++ pairs xs

theorem length_pairs (xs : List α) : (pairs xs).length = xs.length.choose 2 := by
  induction xs with
  | nil => rfl
  | cons x xs ih =>
    rw [pairs, List.length_append, List.length_map, ih, List.length_cons, Nat.choose_succ_succ' _ 1,
      Nat.choose_one_right]

/-- The pairs are the pairs of indices. -/
theorem mem_pairs {xs : List α} {p : α × α} :
    p ∈ pairs xs ↔ ∃ (j k : Nat) (hj : j < k) (hk : k < xs.length), p = (xs[j], xs[k]) := by
  induction xs with
  | nil => simp [pairs]
  | cons x xs ih =>
    rw [pairs, List.mem_append, ih, List.mem_map]
    constructor
    · rintro (⟨y, hy, rfl⟩ | ⟨j, k, hj, hk, rfl⟩)
      · obtain ⟨k, hk, rfl⟩ := List.getElem_of_mem hy
        exact ⟨0, k + 1, Nat.succ_pos k, Nat.succ_lt_succ hk, rfl⟩
      · exact ⟨j + 1, k + 1, Nat.succ_lt_succ hj, Nat.succ_lt_succ hk, rfl⟩
    · rintro ⟨j, k, hj, hk, rfl⟩
      obtain ⟨k, rfl⟩ := Nat.exists_eq_succ_of_ne_zero (Nat.ne_zero_of_lt hj)
      rw [List.length_cons] at hk
      match j with
      | 0 => exact Or.inl ⟨_, List.getElem_mem (Nat.lt_of_succ_lt_succ hk), rfl⟩
      | j + 1 =>
        exact Or.inr ⟨j, k, Nat.lt_of_succ_lt_succ hj, Nat.lt_of_succ_lt_succ hk, rfl⟩

/-- In a list without repetitions the two of a pair are different. -/
theorem ne_of_mem_pairs {xs : List α} (h : xs.Nodup) {p : α × α} (hp : p ∈ pairs xs) :
    p.1 ∈ xs ∧ p.2 ∈ xs ∧ p.1 ≠ p.2 := by
  obtain ⟨j, k, hj, hk, rfl⟩ := mem_pairs.mp hp
  refine ⟨List.getElem_mem _, List.getElem_mem _, fun heq => ?_⟩
  have hsame : j = k := (List.Nodup.getElem_inj_iff h).mp heq
  omega

/-! ### Counting -/

/-- The pairs of indices in order whose elements have the property. -/
def indexPairs (p : α → α → Bool) (xs : List α) : Finset (Fin xs.length × Fin xs.length) :=
  Finset.univ.filter fun i => i.1 < i.2 ∧ p (xs.get i.1) (xs.get i.2) = true

theorem card_indexPairs (p : α → α → Bool) (xs : List α) :
    (indexPairs p xs).card =
      ∑ j : Fin xs.length, ∑ k : Fin xs.length,
        if j < k ∧ p (xs.get j) (xs.get k) = true then 1 else 0 := by
  rw [indexPairs, Finset.card_filter, Fintype.sum_prod_type]

theorem sum_get (p : α → Bool) (xs : List α) :
    (∑ k : Fin xs.length, if p (xs.get k) = true then 1 else 0) = xs.countP p := by
  induction xs with
  | nil => rfl
  | cons x xs ih =>
    rw [List.countP_cons, ← ih, Nat.add_comm]
    exact Fin.sum_univ_succ fun k => if p ((x :: xs).get k) = true then 1 else 0

/-- **Counting the pairs of a list counts pairs of indices.** -/
theorem countP_pairs (p : α → α → Bool) (xs : List α) :
    (pairs xs).countP (fun q => p q.1 q.2) = (indexPairs p xs).card := by
  induction xs with
  | nil => rfl
  | cons x xs ih =>
    have hfirst : (xs.map fun y => (x, y)).countP (fun q => p q.1 q.2) = xs.countP (p x) := by
      rw [List.countP_map]
      rfl
    rw [pairs, List.countP_append, hfirst, ih, card_indexPairs, card_indexPairs, ← sum_get]
    -- the first row has the pairs with `x`, the first column has none
    refine Eq.trans ?_ (Fin.sum_univ_succ _).symm
    refine congrArg₂ (· + ·) ?_ (Finset.sum_congr rfl fun j _ => ?_)
    · refine Eq.trans ?_ (Fin.sum_univ_succ _).symm
      simp
    · refine Eq.trans ?_ (Fin.sum_univ_succ _).symm
      simp

theorem card_indexPairs_le (p : α → α → Bool) (xs : List α) :
    (indexPairs p xs).card ≤ xs.length.choose 2 := by
  rw [← countP_pairs, ← length_pairs]
  exact List.countP_le_length

/-- Where every two have the property there are as many as there are pairs. -/
theorem card_indexPairs_eq {p : α → α → Bool} {xs : List α}
    (h : ∀ x ∈ xs, ∀ y ∈ xs, p x y = true) : (indexPairs p xs).card = xs.length.choose 2 := by
  rw [← countP_pairs, ← length_pairs]
  refine List.countP_eq_length.mpr fun q hq => ?_
  obtain ⟨j, k, hj, hk, rfl⟩ := mem_pairs.mp hq
  exact h _ (List.getElem_mem _) _ (List.getElem_mem _)

/-! ### A loop that collects -/

/-- **Collecting gives up, or has what each element has to give.** -/
theorem foldlM_collect {γ : Type} {step : List γ → β → Option (List γ)} {f : β → Option γ}
    {P : β → Prop}
    (hstep : ∀ acc x out, step acc x = some out ↔ P x ∧ out = acc ++ (f x).toList)
    (xs : List β) (acc out : List γ) :
    xs.foldlM step acc = some out ↔ (∀ x ∈ xs, P x) ∧ out = acc ++ xs.filterMap f := by
  induction xs generalizing acc with
  | nil => simp [eq_comm]
  | cons x xs ih =>
    have hgives : (x :: xs).filterMap f = (f x).toList ++ xs.filterMap f := by
      rcases hx : f x with _ | y
      · rw [List.filterMap_cons_none hx]
        rfl
      · rw [List.filterMap_cons_some hx]
        rfl
    rw [List.foldlM_cons, hgives, List.forall_mem_cons]
    constructor
    · intro h
      obtain ⟨mid, hmid, hrest⟩ := Option.bind_eq_some_iff.mp h
      obtain ⟨hx, rfl⟩ := (hstep acc x mid).mp hmid
      obtain ⟨hxs, rfl⟩ := (ih _).mp hrest
      exact ⟨⟨hx, hxs⟩, List.append_assoc ..⟩
    · rintro ⟨⟨hx, hxs⟩, rfl⟩
      refine Option.bind_eq_some_iff.mpr ⟨_, (hstep acc x _).mpr ⟨hx, rfl⟩, ?_⟩
      exact (ih _).mpr ⟨hxs, (List.append_assoc ..).symm⟩

/-! ### A counter with a limit -/

/-- **A bounded counter counts, or there is too much to count.** -/
theorem foldlM_count {γ : Type} {value : Nat → γ} {up : γ → Option γ} {limit : Nat}
    (hup : ∀ count, up (value count) = if count < limit then some (value (count + 1)) else none)
    (p : β → Bool) (xs : List β) {count : Nat} (hcount : count ≤ limit) :
    xs.foldlM (fun count x => if p x = true then up count else some count) (value count) =
      if count + xs.countP p ≤ limit then some (value (count + xs.countP p)) else none := by
  induction xs generalizing count with
  | nil => exact (if_pos hcount).symm
  | cons x xs ih =>
    rw [List.foldlM_cons, List.countP_cons]
    by_cases hx : p x = true
    · rw [if_pos hx, if_pos hx, hup]
      by_cases hroom : count < limit
      · rw [if_pos hroom, Option.bind_eq_bind, Option.bind_some, ih hroom,
          show count + 1 + xs.countP p = count + (xs.countP p + 1) by omega]
      · rw [if_neg hroom, if_neg (by omega)]
        rfl
    · rw [if_neg hx, if_neg hx, Option.bind_eq_bind, Option.bind_some, ih hcount, Nat.add_zero]

end Pairs
