/-
Transducers: automata whose steps may fail, and of which each may say something.

The log of a run is turned into statements by four rules.  `run_keeps` is the
induction over a run, `run_counts` counts the events that move a measure of the state,
`run_split` finds the step that an event of the log comes from, and `run_between` finds
the event that ends a condition under which another one does not occur.
-/
import Mathlib.Data.List.Basic

namespace Gxfp.Transducer

variable {σ α ε : Type}

/-- The state behind a run, and what its steps have said in order. -/
def run (step : σ → α → Option (σ × Option ε)) : List α → σ → Option (σ × List ε)
  | [], s => some (s, [])
  | a :: as, s =>
    (step s a).bind fun (s, event) => (run step as s).map fun (s, log) => (s, event.toList ++ log)

variable {step : σ → α → Option (σ × Option ε)} {s s' s₁ : σ} {a : α} {as : List α}
  {event : Option ε} {log before after : List ε} {e : ε}

theorem run_cons_eq_some (h : run step (a :: as) s = some (s', log)) :
    ∃ s₁ event rest, step s a = some (s₁, event) ∧ run step as s₁ = some (s', rest) ∧
      log = event.toList ++ rest := by
  obtain ⟨⟨s₁, event⟩, hstep, h⟩ := Option.bind_eq_some_iff.mp h
  obtain ⟨⟨s₂, rest⟩, hrest, h⟩ := Option.map_eq_some_iff.mp h
  simp only [Prod.mk.injEq] at h
  exact ⟨s₁, event, rest, hstep, h.1 ▸ hrest, h.2.symm⟩

theorem run_cons_of_step (hstep : step s a = some (s₁, event))
    (hrest : run step as s₁ = some (s', log)) :
    run step (a :: as) s = some (s', event.toList ++ log) := by
  rw [run, hstep, Option.bind_some]
  dsimp only
  rw [hrest]
  rfl

/-- What every step keeps holds behind a run; a step may only say what is in the log. -/
theorem run_keeps (P : σ → Prop) (hrun : run step as s = some (s', log)) (hs : P s)
    (hkeep : ∀ s a s' event, P s → step s a = some (s', event) → (∀ e ∈ event, e ∈ log) → P s') :
    P s' := by
  induction as generalizing s log with
  | nil =>
      simp only [run, Option.some.injEq, Prod.mk.injEq] at hrun
      exact hrun.1 ▸ hs
  | cons a as ih =>
      obtain ⟨s₁, event, rest, hstep, hrest, rfl⟩ := run_cons_eq_some hrun
      have hfirst : P s₁ := hkeep s a s₁ event hs hstep fun e he =>
        List.mem_append_left rest (Option.mem_toList.mpr he)
      exact ih hrest hfirst fun s a s' event' hP hs' hlog => hkeep s a s' event' hP hs' fun e he =>
        List.mem_append_right _ (hlog e he)

/-- **Counting.**  Where each step moves the measure by the events that it says, the log has
as many of each kind as the measure has gone up and come down. -/
theorem run_counts (measure : σ → Nat) (up down : ε → Bool) {P : σ → Prop}
    (hrun : run step as s = some (s', log)) (hs : P s)
    (hkeep : ∀ s a s' event, P s → step s a = some (s', event) → P s')
    (hstep : ∀ s a s' event, P s → step s a = some (s', event) →
      measure s' + event.toList.countP down = measure s + event.toList.countP up) :
    measure s' + log.countP down = measure s + log.countP up := by
  induction as generalizing s log with
  | nil =>
      simp only [run, Option.some.injEq, Prod.mk.injEq] at hrun
      obtain ⟨rfl, rfl⟩ := hrun
      rfl
  | cons a as ih =>
      obtain ⟨s₁, event, rest, hfirst, hrest, rfl⟩ := run_cons_eq_some hrun
      have hone := hstep s a s₁ event hs hfirst
      have hall := ih hrest (hkeep s a s₁ event hs hfirst)
      rw [List.countP_append, List.countP_append]
      omega

/-- An event of the log is said at one step, between two runs. -/
theorem run_split (hrun : run step as s = some (s', before ++ e :: after)) :
    ∃ as₁ a as₂ s₁ s₂, run step as₁ s = some (s₁, before) ∧ step s₁ a = some (s₂, some e) ∧
      run step as₂ s₂ = some (s', after) := by
  induction as generalizing s before with
  | nil => simp [run] at hrun
  | cons a as ih =>
      obtain ⟨s₁, event, rest, hstep, hrest, hlog⟩ := run_cons_eq_some hrun
      rcases event with - | event
      · obtain rfl : before ++ e :: after = rest := hlog
        obtain ⟨as₁, a', as₂, s₂, s₃, hfirst, hevent, hlast⟩ := ih hrest
        exact ⟨a :: as₁, a', as₂, s₂, s₃, run_cons_of_step hstep hfirst, hevent, hlast⟩
      · rcases before with - | ⟨event', before⟩
        · obtain ⟨rfl, rfl⟩ := List.cons.inj hlog
          exact ⟨[], a, as, s, s₁, rfl, hstep, hrest⟩
        · obtain ⟨rfl, rfl⟩ := List.cons.inj hlog
          obtain ⟨as₁, a', as₂, s₂, s₃, hfirst, hevent, hlast⟩ := ih hrest
          exact ⟨a :: as₁, a', as₂, s₂, s₃, run_cons_of_step hstep hfirst, hevent, hlast⟩

/-- **Between.**  If `P` holds ahead of a run, only an event of the kind `ends` ends it, and
under `P` no step says `e`, then an event of the kind `ends` comes before `e`. -/
theorem run_between (P : σ → Prop) (ends : ε → Prop)
    (hrun : run step as s = some (s', before ++ e :: after)) (hs : P s)
    (hkeep : ∀ s a s' event, P s → step s a = some (s', event) → (∀ e ∈ event, ¬ ends e) → P s')
    (hnever : ∀ s a s', P s → step s a ≠ some (s', some e)) : ∃ e' ∈ before, ends e' := by
  by_contra hnone
  push Not at hnone
  obtain ⟨as₁, a, as₂, s₁, s₂, hfirst, hevent, -⟩ := run_split hrun
  have hP : P s₁ := run_keeps P hfirst hs fun s a s' event hP hstep hlog =>
    hkeep s a s' event hP hstep fun e he => hnone e (hlog e he)
  exact hnever s₁ a s₂ hP hevent

end Gxfp.Transducer
