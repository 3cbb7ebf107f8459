/-
Lists that are gone through element by element, with an error at the first that is wrong.

`List.mapM` in `Except` succeeds if every element does, with what came of each, and fails
with the error of the first element that does not.
-/
import Mathlib.Data.List.Forall2
import Mathlib.Tactic.Common

namespace Traverse

variable {ε α β : Type} {f : α → Except ε β}

/-- What a turn does to a list behind it. -/
theorem mapM_cons_ok {x : α} {y : β} (h : f x = .ok y) (xs : List α) :
    (x :: xs).mapM f = (xs.mapM f).map (y :: ·) := by
  rw [List.mapM_cons, h]
  cases xs.mapM f <;> rfl

theorem mapM_cons_error {x : α} {e : ε} (h : f x = .error e) (xs : List α) :
    (x :: xs).mapM f = .error e := by
  rw [List.mapM_cons, h]
  rfl

/-- **Success** is the success of every element. -/
theorem mapM_eq_ok_iff {xs : List α} {ys : List β} :
    xs.mapM f = .ok ys ↔ List.Forall₂ (fun x y => f x = .ok y) xs ys := by
  induction xs generalizing ys with
  | nil =>
      rw [List.forall₂_nil_left_iff, List.mapM_nil]
      exact ⟨fun h => (Except.ok.inj h).symm, fun h => congrArg _ h.symm⟩
  | cons x xs ih =>
      cases hx : f x with
      | error e =>
          rw [mapM_cons_error hx, List.forall₂_cons_left_iff]
          constructor
          · intro h
            cases h
          · rintro ⟨y, _, hy, -⟩
            rw [hx] at hy
            cases hy
      | ok y =>
          rw [mapM_cons_ok hx, List.forall₂_cons_left_iff]
          constructor
          · intro h
            cases hrest : xs.mapM f with
            | error e =>
                rw [hrest] at h
                cases h
            | ok ys' =>
                rw [hrest] at h
                cases h
                exact ⟨y, ys', hx, ih.mp hrest, rfl⟩
          · rintro ⟨y', ys', hy, hrest, rfl⟩
            rw [ih.mpr hrest, Except.ok.inj (hx.symm.trans hy)]
            rfl

end Traverse
