/-
Monitors: automata that read a log and reject it at the first event that must not be.

What a monitor accepts is turned into statements about the log itself by two rules.
`count_of_measure` counts the events that bring a measure of the monitor's state down
by one; `happens_between` finds the event that ends a condition under which another
event is rejected.
-/
import Mathlib.Data.List.Basic

namespace Gxfp.Monitor

variable {σ ε : Type}

/-- The state that a monitor is in behind a log, unless it has rejected it. -/
def watch (see : σ → ε → Option σ) (s : σ) (log : List ε) : Option σ := log.foldlM see s

variable {see : σ → ε → Option σ} {s s' : σ} {log rest : List ε} {e : ε}

@[simp] theorem watch_cons : watch see s (e :: log) = (see s e).bind fun s => watch see s log :=
  rfl

theorem watch_append :
    watch see s (log ++ rest) = (watch see s log).bind fun s => watch see s rest := by
  induction log generalizing s with
  | nil => rfl
  | cons e log ih =>
      rw [List.cons_append, watch_cons, watch_cons, Option.bind_assoc]
      exact congrArg _ (funext fun _ => ih)

/-- An accepted log is accepted up to each of its places, and from there on. -/
theorem watch_append_eq_some (h : watch see s (log ++ rest) = some s') :
    ∃ s₁, watch see s log = some s₁ ∧ watch see s₁ rest = some s' := by
  rw [watch_append] at h
  exact Option.bind_eq_some_iff.mp h

theorem watch_cons_eq_some (h : watch see s (e :: log) = some s') :
    ∃ s₁, see s e = some s₁ ∧ watch see s₁ log = some s' := by
  rw [watch_cons] at h
  exact Option.bind_eq_some_iff.mp h

/-- What no event of the log ends holds behind the log. -/
theorem watch_keeps (P : σ → Prop) (hwatch : watch see s log = some s') (hs : P s)
    (hkeep : ∀ e ∈ log, ∀ s s', P s → see s e = some s' → P s') : P s' := by
  induction log generalizing s with
  | nil =>
      cases hwatch
      exact hs
  | cons e log ih =>
      obtain ⟨s₁, hsee, hlog⟩ := watch_cons_eq_some hwatch
      exact ih hlog (hkeep e List.mem_cons_self s s₁ hs hsee) fun e he =>
        hkeep e (List.mem_cons_of_mem _ he)

/-- What holds of the state and of what is remembered of the log. -/
theorem watch_remembers {μ : Type} (remember : μ → ε → μ) (P : μ → σ → Prop) {m : μ}
    (hwatch : watch see s log = some s') (hs : P m s)
    (hkeep : ∀ m s e s', P m s → see s e = some s' → P (remember m e) s') :
    P (log.foldl remember m) s' := by
  induction log generalizing s m with
  | nil =>
      cases hwatch
      exact hs
  | cons e log ih =>
      obtain ⟨s₁, hsee, hlog⟩ := watch_cons_eq_some hwatch
      exact ih hlog (hkeep m s e s₁ hs hsee)

/-- **Counting.**  Where each event either is counted and brings the measure down by one, or
is not and leaves it, the log has as many counted events as the measure has come down. -/
theorem count_of_measure (measure : σ → Nat) (counted : ε → Bool)
    (hwatch : watch see s log = some s')
    (hstep : ∀ e ∈ log, ∀ s s', see s e = some s' →
      measure s = measure s' + if counted e then 1 else 0) :
    measure s = measure s' + log.countP counted := by
  induction log generalizing s with
  | nil =>
      cases hwatch
      rfl
  | cons e log ih =>
      obtain ⟨s₁, hsee, hlog⟩ := watch_cons_eq_some hwatch
      have hrest := ih hlog fun e he => hstep e (List.mem_cons_of_mem _ he)
      rw [hstep e List.mem_cons_self s s₁ hsee, hrest, List.countP_cons]
      omega

/-- **Between.**  If `P` holds ahead of the log, only an event of the kind `ends` ends it, and
under `P` the event `e` is rejected, then an event of the kind `ends` comes before `e`. -/
theorem happens_between (P : σ → Prop) (ends : ε → Prop)
    (hwatch : watch see s (log ++ e :: rest) = some s') (hs : P s)
    (hkeep : ∀ e s s', ¬ ends e → P s → see s e = some s' → P s')
    (hreject : ∀ s, P s → see s e = none) : ∃ a ∈ log, ends a := by
  by_contra hnone
  push Not at hnone
  obtain ⟨s₁, hlog, hrest⟩ := watch_append_eq_some hwatch
  obtain ⟨s₂, hsee, -⟩ := watch_cons_eq_some hrest
  have hP : P s₁ := watch_keeps P hlog hs fun a ha s s' => hkeep a s s' (hnone a ha)
  rw [hreject s₁ hP] at hsee
  cases hsee

end Gxfp.Monitor
