/-
A loop without a bound.

`for (;;)` in the source is a body that either goes round again or returns.  A `Turn` is
what one pass through the body comes to, with whatever the body has taken on the way.
`run` counts the passes with fuel, and `Turns` is what they come to together, without
counting.  `run_iff` says that the two agree: a loop returns something for some fuel
exactly if passes lead to a pass that returns it.
-/
import Mathlib.Tactic.Common

namespace Loop

variable {σ ε ρ : Type}

/-- What one pass does; `taken` is what it has taken. -/
inductive Turn (σ ε ρ : Type)
  | again (taken : List ε) (s : σ)
  | done (taken : List ε) (r : ρ)

/-- The loop, at most `fuel` passes of it. -/
def run (body : σ → Turn σ ε ρ) : Nat → σ → Option ρ
  | 0, _ => none
  | fuel + 1, s =>
    match body s with
    | .again _ s => run body fuel s
    | .done _ r => some r

/-- Any number of passes, and what they take together. -/
inductive Turns (pass : σ → List ε → σ → Prop) : σ → List ε → σ → Prop
  | nil {s : σ} : Turns pass s [] s
  | cons {s s₁ s₂ : σ} {xs ys : List ε} (hpass : pass s xs s₁) (hrest : Turns pass s₁ ys s₂) :
      Turns pass s (xs ++ ys) s₂

/-- A pass that goes round again. -/
def Again (body : σ → Turn σ ε ρ) (s : σ) (taken : List ε) (s' : σ) : Prop :=
  body s = .again taken s'

variable {body : σ → Turn σ ε ρ} {pass : σ → List ε → σ → Prop} {s s' : σ} {xs ys : List ε}

/-- What every pass takes has a property: so has everything that is taken. -/
theorem Turns.forall_taken {p : ε → Prop} (hp : ∀ s xs s', pass s xs s' → ∀ x ∈ xs, p x)
    (h : Turns pass s xs s') : ∀ x ∈ xs, p x := by
  induction h with
  | nil =>
      intro x hx
      cases hx
  | cons hpass _ ih =>
      intro x hx
      rcases List.mem_append.mp hx with hx | hx
      · exact hp _ _ _ hpass x hx
      · exact ih x hx

theorem run_done {taken : List ε} {r : ρ} (h : body s = .done taken r) (fuel : Nat) :
    run body (fuel + 1) s = some r := by
  rw [run, h]

theorem run_again (h : Again body s xs s') (fuel : Nat) :
    run body (fuel + 1) s = run body fuel s' := by
  rw [run, h]

/-- Passes lead on, and the loop returns what the last one returns. -/
theorem run_of_turns (h : Turns (Again body) s xs s') {taken : List ε} {r : ρ}
    (hdone : body s' = .done taken r) : ∃ fuel, run body fuel s = some r := by
  induction h with
  | nil => exact ⟨1, run_done hdone 0⟩
  | cons hpass _ ih =>
      obtain ⟨fuel, hrun⟩ := ih hdone
      refine ⟨fuel + 1, ?_⟩
      rw [run_again hpass]
      exact hrun

theorem turns_of_run {fuel : Nat} {r : ρ} (h : run body fuel s = some r) :
    ∃ xs s' taken, Turns (Again body) s xs s' ∧ body s' = .done taken r := by
  induction fuel generalizing s with
  | zero => cases h
  | succ fuel ih =>
      rcases hbody : body s with ⟨taken, s₁⟩ | ⟨taken, r₁⟩
      · rw [run_again hbody] at h
        obtain ⟨xs, s₂, last, hturns, hdone⟩ := ih h
        exact ⟨taken ++ xs, s₂, last, .cons hbody hturns, hdone⟩
      · rw [run_done hbody] at h
        injection h with hr
        refine ⟨[], s, taken, .nil, ?_⟩
        rw [hbody, hr]

/-- **A loop returns exactly what passes lead to.** -/
theorem run_iff {r : ρ} :
    (∃ fuel, run body fuel s = some r) ↔
      ∃ xs s' taken, Turns (Again body) s xs s' ∧ body s' = .done taken r := by
  constructor
  · rintro ⟨fuel, h⟩
    exact turns_of_run h
  · rintro ⟨xs, s', taken, h, hdone⟩
    exact run_of_turns h hdone

/-- More fuel changes nothing. -/
theorem run_mono {fuel : Nat} {r : ρ} (h : run body fuel s = some r) (more : Nat) :
    run body (fuel + more) s = some r := by
  induction fuel generalizing s with
  | zero => cases h
  | succ fuel ih =>
      rw [Nat.succ_add]
      rcases hbody : body s with ⟨taken, s₁⟩ | ⟨taken, r₁⟩
      · rw [run_again hbody] at h ⊢
        exact ih h
      · rw [run_done hbody] at h ⊢
        exact h

/-- A loop returns at most one thing. -/
theorem run_unique {m n : Nat} {r t : ρ} (hr : run body m s = some r)
    (ht : run body n s = some t) : r = t := by
  have hsum : run body (m + n) s = some r := run_mono hr n
  rw [Nat.add_comm, run_mono ht m] at hsum
  injection hsum with heq
  exact heq.symm

end Loop
