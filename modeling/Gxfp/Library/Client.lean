/-
Code that is handed callbacks.

A library that works for a program gets at the program's state through the callbacks it
was given and in no other way.  What it does in between is its own affair.  So a call of
it is a tree: it is over with a result, or it calls back and goes on with the answer.

Nothing has to be known of the tree for `run_keeps`: what every callback keeps is kept by
the call.
-/
import Mathlib.Tactic.Common

namespace Client

/-- A call of the library: callbacks `Call` with answers `Answer`, and a result. -/
inductive Program (Call : Type) (Answer : Call → Type) (α : Type)
  | done (a : α)
  | call (c : Call) (next : Answer c → Program Call Answer α)

variable {Call : Type} {Answer : Call → Type} {α σ : Type}

/-- The call, with the program's callbacks. -/
def run (callback : (c : Call) → σ → Answer c × σ) : Program Call Answer α → σ → α × σ
  | .done a, s => (a, s)
  | .call c next, s => run callback (next (callback c s).1) (callback c s).2

variable {callback : (c : Call) → σ → Answer c × σ}

/-- **What every callback keeps, a call keeps.** -/
theorem run_keeps {P : σ → Prop} (hkeeps : ∀ c s, P s → P (callback c s).2)
    (p : Program Call Answer α) {s : σ} (h : P s) : P (run callback p s).2 := by
  induction p generalizing s with
  | done a => exact h
  | call c next ih => exact ih _ (hkeeps c s h)

end Client
