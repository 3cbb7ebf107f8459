/-
Programs that may fail, and what passes between them and the other side on the way.

A `Prog` is run on a state and comes back with a value or an error, or not at all.  What
has passed is kept in the state: a `Ledger` says when a state comes behind another with
certain events between the two, and a `Watch` adds what holds of every state that is
looked at.  `Emits` relates the result of a program to the word of events it adds, and
there is one rule for each way of putting programs together.  A program that does not come
back adds nothing that is spoken of here: `Emits` is about the runs that return.

Words are put together as programs are: `InTurn` is the word of a sequence that ends with
the first error, `Anyway` the word of a sequence whose first part may fail, and `Retried`
the word of rounds.  Where only the messages and their number count, `Runs` is the word:
each message in turn, at least once and at most so often.
-/
import Mathlib.Data.List.Basic

namespace Trace

variable {ε σ τ α β γ : Type}

/-- A program on `σ`; `none` if it does not come back. -/
def Prog (ε σ α : Type) := σ → Option (Except ε α × σ)

namespace Prog

/-- A value or an error that is there already. -/
def lift (r : Except ε α) : Prog ε σ α := fun s => some (r, s)

/-- First `p`, then `f` with its value; an error of `p` is the error of both. -/
def andThen (p : Prog ε σ α) (f : α → Prog ε σ γ) : Prog ε σ γ := fun s =>
  match p s with
  | none => none
  | some (.error e, s) => some (.error e, s)
  | some (.ok a, s) => f a s

instance : Monad (Prog ε σ) where
  pure a := lift (.ok a)
  bind := andThen

/-- `p`, whose failure is only a value. -/
def attempt (p : Prog ε σ α) : Prog ε σ (Except ε α) := fun s =>
  match p s with
  | none => none
  | some (r, s) => some (.ok r, s)

/-- `p` on the second part of a state. -/
def inner (p : Prog ε σ α) : Prog ε (τ × σ) α := fun s =>
  match p s.2 with
  | none => none
  | some (r, t) => some (r, (s.1, t))

/-- A change of the first part of a state. -/
def modify (f : τ → τ) : Prog ε (τ × σ) Unit := fun s => some (.ok (), (f s.1, s.2))

@[simp] theorem lift_ok_bind (a : α) (f : α → Prog ε σ γ) : lift (.ok a) >>= f = f a := rfl

end Prog

/-- When a state comes behind another, with what has passed between the two. -/
structure Ledger (σ β : Type) where
  adds : σ → List β → σ → Prop
  adds_nil : ∀ s, adds s [] s
  adds_append : ∀ {s t s' u v}, adds s u t → adds t v s' → adds s (u ++ v) s'

/-- A ledger, and what is known of every state that is looked at. -/
structure Watch (σ β : Type) extends Ledger σ β where
  inv : σ → Prop

/-- The same on a larger state. -/
def Watch.inner (W : Watch σ β) : Watch (τ × σ) β where
  adds s w s' := W.adds s.2 w s'.2
  adds_nil s := W.adds_nil s.2
  adds_append := W.adds_append
  inv s := W.inv s.2

/-- Whenever `p` comes back, what it has added has, with its result, the property `post`. -/
def Emits (W : Watch σ β) (p : Prog ε σ α) (post : Except ε α → List β → Prop) : Prop :=
  ∀ s r s', W.inv s → p s = some (r, s') → W.inv s' ∧ ∃ w, W.adds s w s' ∧ post r w

section Rules

variable {W : Watch σ β} {p : Prog ε σ α} {f : α → Prog ε σ γ}
  {P P' : Except ε α → List β → Prop} {Q : α → Except ε γ → List β → Prop}
  {R : Except ε γ → List β → Prop}

theorem Emits.mono (h : Emits W p P) (himp : ∀ r w, P r w → P' r w) : Emits W p P' := by
  intro s r s' hinv hrun
  obtain ⟨hinv', w, hadds, hpost⟩ := h s r s' hinv hrun
  exact ⟨hinv', w, hadds, himp r w hpost⟩

theorem Emits.lift (r : Except ε α) : Emits W (Prog.lift r) fun r' w => r' = r ∧ w = [] := by
  intro s r' s' hinv hrun
  cases hrun
  exact ⟨hinv, [], W.adds_nil s, rfl, rfl⟩

theorem Emits.pure (a : α) :
    Emits W (Pure.pure a : Prog ε σ α) fun r w => r = .ok a ∧ w = [] :=
  Emits.lift (.ok a)

/-- **A sequence adds what its parts add**, and ends where the first part fails. -/
theorem Emits.bind (hp : Emits W p P) (hf : ∀ a, Emits W (f a) (Q a))
    (herror : ∀ e w, P (.error e) w → R (.error e) w)
    (hok : ∀ a u r v, P (.ok a) u → Q a r v → R r (u ++ v)) : Emits W (p >>= f) R := by
  intro s r s' hinv hrun
  change Prog.andThen p f s = some (r, s') at hrun
  unfold Prog.andThen at hrun
  rcases hfirst : p s with _ | ⟨e | a, s₁⟩
  · rw [hfirst] at hrun
    cases hrun
  · rw [hfirst] at hrun
    cases hrun
    obtain ⟨hinv', w, hadds, hpost⟩ := hp s _ s' hinv hfirst
    exact ⟨hinv', w, hadds, herror e w hpost⟩
  · rw [hfirst] at hrun
    obtain ⟨hinv₁, u, hadds₁, hu⟩ := hp s _ s₁ hinv hfirst
    obtain ⟨hinv', v, hadds, hv⟩ := hf a s₁ r s' hinv₁ hrun
    exact ⟨hinv', u ++ v, W.adds_append hadds₁ hadds, hok a u r v hu hv⟩

/-- What is only attempted does not fail. -/
theorem Emits.attempt (hp : Emits W p P) :
    Emits W p.attempt fun r w => ∃ r', r = .ok r' ∧ P r' w := by
  intro s r s' hinv hrun
  unfold Prog.attempt at hrun
  rcases hfirst : p s with _ | ⟨r', s₁⟩
  · rw [hfirst] at hrun
    cases hrun
  · rw [hfirst] at hrun
    cases hrun
    obtain ⟨hinv', w, hadds, hpost⟩ := hp s r' s' hinv hfirst
    exact ⟨hinv', w, hadds, r', rfl, hpost⟩

/-- What a program on a part of the state does it does on the whole. -/
theorem Emits.inner (hp : Emits W p P) : Emits (W.inner (τ := τ)) p.inner P := by
  intro s r s' hinv hrun
  unfold Prog.inner at hrun
  rcases hpart : p s.2 with _ | ⟨r', t⟩
  · rw [hpart] at hrun
    cases hrun
  · rw [hpart] at hrun
    cases hrun
    exact hp s.2 r t hinv hpart

theorem Emits.modify (f : τ → τ) :
    Emits W.inner (Prog.modify f : Prog ε (τ × σ) Unit) fun r w => r = .ok () ∧ w = [] := by
  intro s r s' hinv hrun
  cases hrun
  exact ⟨hinv, [], W.adds_nil s.2, rfl, rfl⟩

theorem Emits.modify_bind (f : τ → τ) {q : Unit → Prog ε (τ × σ) γ}
    (hq : Emits W.inner (q ()) R) : Emits W.inner (Prog.modify f >>= q) R := by
  refine Emits.bind (Emits.modify f) (fun _ => hq) ?_ ?_
  · rintro e w ⟨he, -⟩
    cases he
  · rintro a u r v ⟨-, rfl⟩ hv
    exact hv

theorem Emits.bind_modify (f : τ → τ) {p : Prog ε (τ × σ) Unit}
    {P : Except ε Unit → List β → Prop} (hp : Emits W.inner p P) :
    Emits W.inner (p >>= fun _ => Prog.modify f) P := by
  refine Emits.bind hp (fun _ => Emits.modify f) (fun _ _ hw => hw) ?_
  rintro a u r v hu ⟨rfl, rfl⟩
  rw [List.append_nil]
  exact hu

/-- **What is known of the events is known of what a coarser ledger keeps of them.** -/
theorem Emits.coarsen {V : Watch σ γ} (keeps : List β → List γ) (hp : Emits W p P)
    (hinv : ∀ s, V.inv s ↔ W.inv s)
    (hadds : ∀ {s w s'}, W.adds s w s' → V.adds s (keeps w) s') :
    Emits V p fun r v => ∃ w, v = keeps w ∧ P r w := by
  intro s r s' hs hrun
  obtain ⟨hinv', w, hw, hpost⟩ := hp s r s' ((hinv s).mp hs) hrun
  exact ⟨(hinv s').mpr hinv', keeps w, hadds hw, w, rfl, hpost⟩

end Rules

/-! ### Words -/

/-- A word of `L` and one of `M`. -/
def Then (L M : List β → Prop) (w : List β) : Prop := ∃ u v, w = u ++ v ∧ L u ∧ M v

/-- `n` words of `L`, one after the other. -/
def Times (L : List β → Prop) : Nat → List β → Prop
  | 0, w => w = []
  | n + 1, w => Then L (Times L n) w

/-- `P`, and `Q` behind it with its value; an error of `P` ends the word. -/
def InTurn (P : Except ε α → List β → Prop) (Q : α → Except ε γ → List β → Prop)
    (r : Except ε γ) (w : List β) : Prop :=
  (∃ e, r = .error e ∧ P (.error e) w) ∨ ∃ a, Then (P (.ok a)) (Q a r) w

/-- `P`, and `Q` behind it whatever has become of `P`. -/
def Anyway (P : Except ε α → List β → Prop) (Q : Except ε α → Except ε γ → List β → Prop)
    (r : Except ε γ) (w : List β) : Prop :=
  ∃ r', Then (P r') (Q r' r) w

/-- `p` until it succeeds, at most so often, with `undo` behind each failure. -/
def Prog.retry (p : Prog ε σ α) (undo : Prog ε σ Unit) : Nat → ε → Prog ε σ α
  | 0, last => Prog.lift (.error last)
  | n + 1, _ => do
    match ← p.attempt with
    | .ok a => Prog.lift (.ok a)
    | .error e => do
      let _ ← undo.attempt
      Prog.retry p undo n e

/-- Fewer than `n` failed rounds and one that succeeds, or `n` failed ones. -/
def Retried (n : Nat) (F : List β → Prop) (S : α → List β → Prop) (r : Except ε α)
    (w : List β) : Prop :=
  match r with
  | .ok a => ∃ k, k < n ∧ Then (Times F k) (S a) w
  | .error _ => Times F n w

section Words

variable {L L' M M' : List β → Prop} {w : List β}

theorem Then.mono (h : Then L M w) (hL : ∀ u, L u → L' u) (hM : ∀ v, M v → M' v) :
    Then L' M' w := by
  obtain ⟨u, v, rfl, hu, hv⟩ := h
  exact ⟨u, v, rfl, hL u hu, hM v hv⟩

theorem Then.of_nil (h : Then L (fun v => v = []) w) : L w := by
  obtain ⟨u, v, rfl, hu, rfl⟩ := h
  rwa [List.append_nil]

theorem Times.mono {n : Nat} (h : Times L n w) (himp : ∀ u, L u → L' u) : Times L' n w := by
  induction n generalizing w with
  | zero => exact h
  | succ n ih => exact Then.mono h himp fun v => ih

theorem Retried.mono {n : Nat} {S S' : α → List β → Prop} {r : Except ε α}
    (h : Retried n L S r w) (hL : ∀ u, L u → L' u) (hS : ∀ a v, S a v → S' a v) :
    Retried n L' S' r w := by
  cases r with
  | error e => exact Times.mono h hL
  | ok a =>
      obtain ⟨k, hk, hthen⟩ := h
      exact ⟨k, hk, hthen.mono (fun u hu => hu.mono hL) (hS a)⟩

/-- What holds of every event of `L` and of `M` holds of every event of the two. -/
theorem Then.forall {P : β → Prop} (h : Then L M w) (hL : ∀ u, L u → ∀ b ∈ u, P b)
    (hM : ∀ v, M v → ∀ b ∈ v, P b) : ∀ b ∈ w, P b := by
  obtain ⟨u, v, rfl, hu, hv⟩ := h
  intro b hb
  rcases List.mem_append.mp hb with hb | hb
  · exact hL u hu b hb
  · exact hM v hv b hb

theorem Times.forall {P : β → Prop} {n : Nat} (h : Times L n w) (hL : ∀ u, L u → ∀ b ∈ u, P b) :
    ∀ b ∈ w, P b := by
  induction n generalizing w with
  | zero =>
      cases h
      intro b hb
      cases hb
  | succ n ih => exact Then.forall h hL fun v hv => ih hv

theorem InTurn.mono {P P' : Except ε α → List β → Prop} {Q Q' : α → Except ε γ → List β → Prop}
    {r : Except ε γ} (h : InTurn P Q r w) (hP : ∀ r u, P r u → P' r u)
    (hQ : ∀ a v, Q a r v → Q' a r v) : InTurn P' Q' r w := by
  rcases h with ⟨e, rfl, hu⟩ | ⟨a, hthen⟩
  · exact Or.inl ⟨e, rfl, hP _ w hu⟩
  · exact Or.inr ⟨a, hthen.mono (hP _) (hQ a)⟩

/-- **Where a sequence is put into brackets does not matter.** -/
theorem InTurn.assoc {α' : Type} {P : Except ε α → List β → Prop}
    {Q : α → Except ε α' → List β → Prop} {R : α' → Except ε γ → List β → Prop} {r : Except ε γ}
    (h : InTurn (InTurn P Q) R r w) : InTurn P (fun a => InTurn (Q a) R) r w := by
  rcases h with ⟨e, rfl, ⟨e', he, hu⟩ | ⟨a, hthen⟩⟩ | ⟨b, u, v, rfl, ⟨e, he, -⟩ | ⟨a, hthen⟩, hv⟩
  · cases he
    exact Or.inl ⟨e, rfl, hu⟩
  · exact Or.inr ⟨a, hthen.mono (fun _ hx => hx) fun y hy => Or.inl ⟨e, rfl, hy⟩⟩
  · cases he
  · obtain ⟨x, y, rfl, hx, hy⟩ := hthen
    exact Or.inr ⟨a, x, y ++ v, List.append_assoc .., hx, Or.inr ⟨b, y, v, rfl, hy, hv⟩⟩

theorem InTurn.forall {B : β → Prop} {P : Except ε α → List β → Prop}
    {Q : α → Except ε γ → List β → Prop} {r : Except ε γ} (h : InTurn P Q r w)
    (hP : ∀ r u, P r u → ∀ b ∈ u, B b) (hQ : ∀ a r v, Q a r v → ∀ b ∈ v, B b) :
    ∀ b ∈ w, B b := by
  rcases h with ⟨e, -, hu⟩ | ⟨a, hthen⟩
  · exact hP _ w hu
  · exact hthen.forall (hP _) (hQ a r)

theorem Retried.forall {P : β → Prop} {n : Nat} {S : α → List β → Prop} {r : Except ε α}
    (h : Retried n L S r w) (hL : ∀ u, L u → ∀ b ∈ u, P b) (hS : ∀ a v, S a v → ∀ b ∈ v, P b) :
    ∀ b ∈ w, P b := by
  cases r with
  | error e => exact Times.forall h hL
  | ok a =>
      obtain ⟨k, -, hthen⟩ := h
      exact hthen.forall (fun u hu => hu.forall hL) (hS a)

end Words

section Words

variable {W : Watch σ β} {p : Prog ε σ α} {f : α → Prog ε σ γ}
  {P : Except ε α → List β → Prop}

/-- **A sequence adds the word of a sequence.** -/
theorem Emits.inTurn {Q : α → Except ε γ → List β → Prop} (hp : Emits W p P)
    (hf : ∀ a, Emits W (f a) (Q a)) : Emits W (p >>= f) (InTurn P Q) := by
  refine Emits.bind hp hf ?_ ?_
  · intro e w hw
    exact Or.inl ⟨e, rfl, hw⟩
  · intro a u r v hu hv
    exact Or.inr ⟨a, u, v, rfl, hu, hv⟩

/-- **A step whose result is only looked at does not cut anything short.** -/
theorem Emits.anyway {q : Except ε α → Prog ε σ γ} {Q : Except ε α → Except ε γ → List β → Prop}
    (hp : Emits W p P) (hq : ∀ r, Emits W (q r) (Q r)) :
    Emits W (p.attempt >>= q) (Anyway P Q) := by
  refine Emits.bind (Emits.attempt hp) hq ?_ ?_
  · rintro e w ⟨r, hr, -⟩
    cases hr
  · rintro a u r v ⟨r', hr', hu⟩ hv
    cases hr'
    exact ⟨a, u, v, rfl, hu, hv⟩

/-- A step that adds nothing and whose result is ignored. -/
theorem Emits.silently {q : Except ε α → Prog ε σ γ} {R : Except ε γ → List β → Prop}
    (hp : Emits W p fun _ w => w = []) (hq : ∀ r, Emits W (q r) R) :
    Emits W (p.attempt >>= q) R := by
  refine (Emits.anyway hp hq).mono ?_
  rintro r w ⟨r', _, v, rfl, rfl, hv⟩
  exact hv

/-- A step whose result is ignored. -/
theorem Emits.ignoring {q : Except ε α → Prog ε σ γ} {L : List β → Prop}
    {R : Except ε γ → List β → Prop} (hp : Emits W p fun _ w => L w)
    (hq : ∀ r, Emits W (q r) R) : Emits W (p.attempt >>= q) fun r => Then L (R r) := by
  refine (Emits.anyway hp hq).mono ?_
  rintro r w ⟨r', hthen⟩
  exact hthen

/-- What comes back may be looked at. -/
theorem Emits.check (hp : Emits W p P) (g : α → Except ε γ) :
    Emits W (p >>= fun a => Prog.lift (g a)) fun r w => ∃ r', r = r'.bind g ∧ P r' w := by
  refine Emits.bind hp (fun a => Emits.lift (g a)) ?_ ?_
  · intro e w hw
    exact ⟨.error e, rfl, hw⟩
  · rintro a u r v hu ⟨rfl, rfl⟩
    rw [List.append_nil]
    exact ⟨.ok a, rfl, hu⟩

/-- **What rounds add is what each round adds.** -/
theorem Emits.retry {undo : Prog ε σ Unit} {F G : List β → Prop} {S : α → List β → Prop}
    (hp : Emits W p P) (hundo : Emits W undo fun _ w => G w) (hok : ∀ a w, P (.ok a) w → S a w)
    (herror : ∀ e w, P (.error e) w → F w) (n : Nat) (last : ε) :
    Emits W (p.retry undo n last) (Retried n (Then F G) S) := by
  induction n generalizing last with
  | zero =>
      refine (Emits.lift (.error last)).mono ?_
      rintro r w ⟨rfl, rfl⟩
      rfl
  | succ n ih =>
      have hround : Emits W (p.retry undo (n + 1) last) (Anyway P fun first r w =>
          match first with
          | .ok a => r = .ok a ∧ w = []
          | .error _ =>
            Anyway (fun _ : Except ε Unit => G) (fun _ => Retried n (Then F G) S) r w) := by
        refine Emits.anyway hp fun first => ?_
        cases first with
        | ok a => exact Emits.lift (.ok a)
        | error e => exact Emits.anyway hundo fun _ => ih e
      refine hround.mono ?_
      rintro r w ⟨first | a, u, v, rfl, hu, hv⟩
      · obtain ⟨-, v₁, v₂, rfl, hv₁, hv₂⟩ := hv
        have hfails : Then F G (u ++ v₁) := ⟨u, v₁, rfl, herror _ u hu, hv₁⟩
        cases r with
        | ok a =>
            obtain ⟨k, hk, w₁, w₂, rfl, hw₁, hw₂⟩ := hv₂
            refine ⟨k + 1, Nat.succ_lt_succ hk, u ++ v₁ ++ w₁, w₂, ?_, ?_, hw₂⟩
            · simp only [List.append_assoc]
            · exact ⟨u ++ v₁, w₁, rfl, hfails, hw₁⟩
        | error e' => exact ⟨u ++ v₁, v₂, (List.append_assoc ..).symm, hfails, hv₂⟩
      · obtain ⟨rfl, rfl⟩ := hv
        exact ⟨0, Nat.succ_pos n, [], u, List.append_nil u, rfl, hok a u hu⟩

end Words

/-! ### Stages -/

/-- Each message in turn, at least once and at most as often as it says. -/
def Runs : List (β × Nat) → List β → Prop
  | [], w => w = []
  | (b, n) :: stages, w => ∃ k v, 1 ≤ k ∧ k ≤ n ∧ w = List.replicate k b ++ v ∧ Runs stages v

theorem Runs.append {as bs : List (β × Nat)} {u v : List β} (ha : Runs as u) (hb : Runs bs v) :
    Runs (as ++ bs) (u ++ v) := by
  induction as generalizing u with
  | nil =>
      cases ha
      exact hb
  | cons a as ih =>
      obtain ⟨k, w, hpos, hle, rfl, hrest⟩ := ha
      exact ⟨k, w ++ v, hpos, hle, List.append_assoc .., ih hrest⟩

theorem Runs.single {b : β} {n k : Nat} (hpos : 1 ≤ k) (hle : k ≤ n) :
    Runs [(b, n)] (List.replicate k b) :=
  ⟨k, [], hpos, hle, (List.append_nil _).symm, rfl⟩

/-- Whatever becomes of it, a program goes through all of these stages. -/
def Always (W : Watch σ β) (p : Prog ε σ α) (stages : List (β × Nat)) : Prop :=
  Emits W p fun _ w => Runs stages w

section Always

variable {W : Watch σ β} {p : Prog ε σ α} {q : Except ε α → Prog ε σ γ} {as bs : List (β × Nat)}

theorem Always.pure (a : α) : Always W (Pure.pure a : Prog ε σ α) [] :=
  (Emits.pure a).mono fun _ _ h => h.2

/-- A step whose result is ignored comes in front of what follows it. -/
theorem Always.attempt_ends {R : Except ε γ → Prop} (hp : Always W p as)
    (hq : ∀ r, Emits W (q r) fun r' w => Runs bs w ∧ R r') :
    Emits W (p.attempt >>= q) fun r' w => Runs (as ++ bs) w ∧ R r' := by
  refine (Emits.anyway hp hq).mono ?_
  rintro r w ⟨r', u, v, rfl, hu, hv, hr⟩
  exact ⟨hu.append hv, hr⟩

theorem Always.attempt_bind (hp : Always W p as) (hq : ∀ r, Always W (q r) bs) :
    Always W (p.attempt >>= q) (as ++ bs) :=
  (hp.attempt_ends (R := fun _ => True) fun r => (hq r).mono fun _ _ hw => ⟨hw, trivial⟩).mono
    fun _ _ hw => hw.1

end Always

end Trace
