/-
Sets that are kept in order by a comparison.

An element goes in where the comparison puts it, and stays out if one is there that is
neither before nor behind it.  The set is the list that a walk over it yields.

For a strict total order that list is sorted and has every element once, so that it is
determined by which elements there are: in what order they went in, and how often, is
not to be seen.
-/
import Mathlib.Data.List.Sort

namespace OrderedSet

variable {α : Type} (lt : α → α → Prop) [DecidableRel lt]

/-- The set with `x` in it. -/
def emplace (x : α) : List α → List α
  | [] => [x]
  | y :: ys =>
    if lt x y then x :: y :: ys
    else if lt y x then y :: emplace x ys
    else y :: ys

/-- The set of the elements of a list, put in one after the other. -/
def ofList (xs : List α) : List α := xs.foldl (fun set x => emplace lt x set) []

variable {lt} {x y : α} {xs ys : List α}

/-- Only what goes in is new. -/
theorem eq_or_mem_of_mem_emplace (h : y ∈ emplace lt x xs) : y = x ∨ y ∈ xs := by
  induction xs with
  | nil => exact Or.inl (List.mem_singleton.mp h)
  | cons z zs ih =>
    unfold emplace at h
    split at h
    · exact List.mem_cons.mp h
    · split at h
      · rcases List.mem_cons.mp h with rfl | h
        · exact Or.inr (List.mem_cons_self ..)
        · exact (ih h).imp_right (List.mem_cons_of_mem z)
      · exact Or.inr h

section TotalOrder

variable [IsStrictTotalOrder α lt]

theorem mem_emplace : y ∈ emplace lt x xs ↔ y = x ∨ y ∈ xs := by
  refine ⟨eq_or_mem_of_mem_emplace, ?_⟩
  induction xs with
  | nil =>
    rintro (rfl | h)
    · exact List.mem_singleton_self y
    · cases h
  | cons z zs ih =>
    intro h
    unfold emplace
    by_cases hbefore : lt x z
    · rw [if_pos hbefore]
      exact List.mem_cons.mpr h
    rw [if_neg hbefore]
    by_cases hbehind : lt z x
    · rw [if_pos hbehind, List.mem_cons]
      rcases h with rfl | h
      · exact Or.inr (ih (Or.inl rfl))
      · exact (List.mem_cons.mp h).imp_right fun h => ih (Or.inr h)
    · rw [if_neg hbehind]
      obtain rfl : x = z := Std.Trichotomous.trichotomous x z hbefore hbehind
      rcases h with rfl | h
      · exact List.mem_cons_self ..
      · exact h

/-- **Putting an element in keeps the order.** -/
theorem pairwise_emplace (h : xs.Pairwise lt) : (emplace lt x xs).Pairwise lt := by
  induction xs with
  | nil => exact List.pairwise_singleton lt x
  | cons z zs ih =>
    obtain ⟨hz, hzs⟩ := List.pairwise_cons.mp h
    unfold emplace
    by_cases hbefore : lt x z
    · rw [if_pos hbefore]
      refine List.pairwise_cons.mpr ⟨?_, h⟩
      intro w hw
      rcases List.mem_cons.mp hw with rfl | hw
      · exact hbefore
      · exact trans_of lt hbefore (hz w hw)
    rw [if_neg hbefore]
    by_cases hbehind : lt z x
    · rw [if_pos hbehind]
      refine List.pairwise_cons.mpr ⟨?_, ih hzs⟩
      intro w hw
      rcases eq_or_mem_of_mem_emplace hw with rfl | hw
      · exact hbehind
      · exact hz w hw
    · rw [if_neg hbehind]
      exact h

theorem foldl_emplace (xs ys : List α) (hys : ys.Pairwise lt) :
    (xs.foldl (fun set x => emplace lt x set) ys).Pairwise lt ∧
      ∀ y, y ∈ xs.foldl (fun set x => emplace lt x set) ys ↔ y ∈ xs ∨ y ∈ ys := by
  induction xs generalizing ys with
  | nil => exact ⟨hys, fun y => by simp⟩
  | cons x xs ih =>
    obtain ⟨hsorted, hmem⟩ := ih (emplace lt x ys) (pairwise_emplace hys)
    refine ⟨hsorted, fun y => ?_⟩
    rw [List.foldl_cons, hmem y, mem_emplace, List.mem_cons]
    tauto

/-- **The set is sorted**, so that it has nothing twice, **and has what was put in.** -/
theorem pairwise_ofList (xs : List α) : (ofList lt xs).Pairwise lt :=
  (foldl_emplace xs [] List.Pairwise.nil).1

theorem nodup_ofList (xs : List α) : (ofList lt xs).Nodup := by
  refine (pairwise_ofList xs).imp ?_
  rintro x y h rfl
  exact irrefl_of lt x h

theorem mem_ofList : y ∈ ofList lt xs ↔ y ∈ xs := by
  rw [ofList, (foldl_emplace xs [] List.Pairwise.nil).2 y]
  simp

/-- **A set is what is in it.** -/
theorem ofList_congr (h : ∀ y, y ∈ xs ↔ y ∈ ys) : ofList lt xs = ofList lt ys := by
  have hperm : (ofList lt xs).Perm (ofList lt ys) := by
    rw [List.perm_ext_iff_of_nodup (nodup_ofList xs) (nodup_ofList ys)]
    intro y
    rw [mem_ofList, mem_ofList, h]
  exact hperm.eq_of_pairwise' (pairwise_ofList xs) (pairwise_ofList ys)

/-- Of elements that are all different every one is in the set. -/
theorem ofList_perm (h : xs.Nodup) : (ofList lt xs).Perm xs := by
  rw [List.perm_ext_iff_of_nodup (nodup_ofList xs) h]
  exact fun y => mem_ofList

end TotalOrder

end OrderedSet
