/-
A list of items sent again from its first item after every refusal.

A channel takes an item or refuses it, and nothing is assumed of when it does which.  A
pass offers the items in order and ends at the first refusal; the next pass begins with
the first item again, whatever the passes before have got through.

As long as no pass gets through some of the items but not all, that does no harm.  After
such a pass only one thing keeps items from being sent twice: that the channel takes
nothing any more.  `once_iff` says that this is all: `Stage`, which every pass keeps,
tells what the channel has answered so far from where the passes have got to.
-/
import Mathlib.Tactic.Common
import Mathlib.Data.List.Nodup

namespace Resend

variable {α : Type}

/-- How often the channel has been asked, and what it has taken. -/
structure State (α : Type) where
  asked : Nat
  sent : List α

/-- One pass over the items; the channel takes what it is offered for the `n`-th time. -/
def pass (accepts : Nat → Bool) : List α → State α → Bool × State α
  | [], s => (true, s)
  | x :: xs, s =>
    if accepts s.asked then pass accepts xs { asked := s.asked + 1, sent := s.sent ++ [x] }
    else (false, { s with asked := s.asked + 1 })

/-- At most `n` passes, until one gets through. -/
def run (accepts : Nat → Bool) (items : List α) : Nat → Bool × State α
  | 0 => (false, { asked := 0, sent := [] })
  | n + 1 =>
    if (run accepts items n).1 then run accepts items n
    else pass accepts items (run accepts items n).2

/-- What is sent is the items in order, each once, and all of them in the end. -/
def Once (accepts : Nat → Bool) (items : List α) : Prop :=
  ∀ n, (run accepts items n).2.sent <+: items ∧
    ((run accepts items n).1 = true → (run accepts items n).2.sent = items)

/-- Once it has refused an item after taking some but not `k`, the channel takes nothing. -/
def NeverAgain (accepts : Nat → Bool) (k : Nat) : Prop :=
  ∀ a j, 0 < j → j < k → (∀ i < a, accepts i = false) →
    (∀ i, a ≤ i → i < a + j → accepts i = true) → accepts (a + j) = false →
    ∀ n, a + j < n → accepts n = false

/-- The channel refused `a` times, took `j` items, and has refused everything since. -/
structure Stage (accepts : Nat → Bool) (items : List α) (n a j : Nat)
    (out : Bool × State α) : Prop where
  before : ∀ i < a, accepts i = false
  taken : ∀ i, a ≤ i → i < a + j → accepts i = true
  since : ∀ i, a + j ≤ i → i < out.2.asked → accepts i = false
  count : j ≤ items.length
  sent_eq : out.2.sent = items.take j
  through : out.1 = true → j = items.length
  /-- Without getting through, each of the `n` passes has asked at least once. -/
  asked_ge : out.1 = false → n ≤ out.2.asked
  stuck : out.1 = false → 0 < j → j < items.length ∧ a + j < out.2.asked

section Pass

variable {accepts : Nat → Bool} {items : List α}

variable (accepts) in
/-- **A pass takes a front part of the items**, up to the first refusal. -/
theorem pass_cases (xs : List α) (s : State α) :
    ∃ j ≤ xs.length, (pass accepts xs s).2.sent = s.sent ++ xs.take j ∧
      (∀ i < j, accepts (s.asked + i) = true) ∧
      ((j = xs.length ∧ (pass accepts xs s).1 = true ∧
          (pass accepts xs s).2.asked = s.asked + j) ∨
        (j < xs.length ∧ (pass accepts xs s).1 = false ∧ accepts (s.asked + j) = false ∧
          (pass accepts xs s).2.asked = s.asked + j + 1)) := by
  induction xs generalizing s with
  | nil =>
      refine ⟨0, Nat.le_refl 0, (List.append_nil _).symm, fun i hi => absurd hi (Nat.not_lt_zero i),
        Or.inl ⟨rfl, rfl, rfl⟩⟩
  | cons x xs ih =>
      by_cases hx : accepts s.asked = true
      · obtain ⟨j, hj, hsent, htaken, hend⟩ := ih { asked := s.asked + 1, sent := s.sent ++ [x] }
        rw [pass, if_pos hx]
        refine ⟨j + 1, Nat.succ_le_succ hj, ?_, ?_, ?_⟩
        · rw [hsent, List.take_succ_cons, List.append_assoc]
          rfl
        · intro i hi
          cases i with
          | zero => exact hx
          | succ i =>
              have hnext := htaken i (Nat.lt_of_succ_lt_succ hi)
              rwa [Nat.add_assoc, Nat.add_comm 1] at hnext
        · dsimp only at hend
          rw [show s.asked + 1 + j = s.asked + (j + 1) by omega] at hend
          rcases hend with ⟨hlen, hdone⟩ | ⟨hlen, hstop⟩
          · exact Or.inl ⟨by rw [hlen, List.length_cons], hdone⟩
          · exact Or.inr ⟨by rw [List.length_cons]; omega, hstop⟩
      · have hfalse : accepts s.asked = false := by simpa using hx
        rw [pass, if_neg hx]
        refine ⟨0, Nat.zero_le _, (List.append_nil _).symm,
          fun i hi => absurd hi (Nat.not_lt_zero i), Or.inr ⟨?_, rfl, hfalse, rfl⟩⟩
        rw [List.length_cons]
        omega

theorem stage_zero : Stage accepts items 0 0 0 (run accepts items 0) := by
  constructor
  case before => exact fun i hi => absurd hi (Nat.not_lt_zero i)
  case taken => exact fun i _ hi => absurd hi (Nat.not_lt_zero i)
  case since => exact fun i _ hi => absurd hi (Nat.not_lt_zero i)
  case count => exact Nat.zero_le _
  case sent_eq => rfl
  case through => exact fun h => absurd h (by simp [run])
  case asked_ge => exact fun _ => Nat.le_refl 0
  case stuck => exact fun _ h => absurd h (Nat.lt_irrefl 0)

/-- **A pass where nothing has been taken so far.** -/
theorem Stage.pass_fresh {n a : Nat} {out : Bool × State α}
    (h : Stage accepts items n a 0 out) (hout : out.1 = false) :
    ∃ a' j', Stage accepts items (n + 1) a' j' (pass accepts items out.2) := by
  have hasked := h.asked_ge hout
  have hnone : ∀ i < out.2.asked, accepts i = false := by
    intro i hi
    by_cases hia : i < a
    · exact h.before i hia
    · exact h.since i (by omega) hi
  have hempty : out.2.sent = [] := h.sent_eq
  obtain ⟨j, hj, hsent, htaken, hend⟩ := pass_cases accepts items out.2
  refine ⟨out.2.asked, j, ?_⟩
  constructor
  case before => exact hnone
  case taken =>
    intro i hi hij
    have hi' := htaken (i - out.2.asked) (by omega)
    rwa [Nat.add_sub_cancel' hi] at hi'
  case since =>
    intro i hi hlt
    rcases hend with ⟨-, -, heq⟩ | ⟨-, -, hstop, heq⟩
    · omega
    · have hlast : i = out.2.asked + j := by omega
      rw [hlast, hstop]
  case count => exact hj
  case sent_eq => rw [hsent, hempty, List.nil_append]
  case through =>
    intro hdone
    rcases hend with ⟨hlen, -, -⟩ | ⟨-, hstop, -, -⟩
    · exact hlen
    · exact absurd (hdone.symm.trans hstop) (by simp)
  case asked_ge =>
    intro hstop
    rcases hend with ⟨-, hdone, -⟩ | ⟨-, -, -, heq⟩
    · exact absurd (hdone.symm.trans hstop) (by simp)
    · omega
  case stuck =>
    intro hstop _
    rcases hend with ⟨-, hdone, -⟩ | ⟨hlen, -, -, heq⟩
    · exact absurd (hdone.symm.trans hstop) (by simp)
    · exact ⟨hlen, by omega⟩

/-- **A pass where some items have been taken**, and the channel takes nothing. -/
theorem Stage.pass_stuck {n a j : Nat} {out : Bool × State α}
    (h : Stage accepts items n a j out) (hout : out.1 = false) (hj : 0 < j)
    (hrefuses : accepts out.2.asked = false) :
    Stage accepts items (n + 1) a j (pass accepts items out.2) := by
  obtain ⟨hlen, hbehind⟩ := h.stuck hout hj
  have hasked := h.asked_ge hout
  obtain ⟨j', hj', hsent, htaken, hend⟩ := pass_cases accepts items out.2
  have hnone : j' = 0 := by
    by_contra hpos
    have hfirst := htaken 0 (by omega)
    rw [Nat.add_zero, hrefuses] at hfirst
    exact absurd hfirst (by simp)
  subst hnone
  rcases hend with ⟨hzero, -, -⟩ | ⟨-, hstop, -, heq⟩
  · omega
  · constructor
    case before => exact h.before
    case taken => exact h.taken
    case since =>
      intro i hi hlt
      by_cases hlast : i = out.2.asked
      · rw [hlast, hrefuses]
      · exact h.since i hi (by omega)
    case count => exact h.count
    case sent_eq => rw [hsent, List.take_zero, List.append_nil, h.sent_eq]
    case through => exact fun hdone => absurd (hdone.symm.trans hstop) (by simp)
    case asked_ge => exact fun _ => by omega
    case stuck => exact fun _ _ => ⟨hlen, by omega⟩

/-- **Every number of passes**, if the channel takes nothing once it has taken some. -/
theorem run_stage (hrefuses : ∀ n a j, Stage accepts items n a j (run accepts items n) →
      (run accepts items n).1 = false → 0 < j →
        accepts (run accepts items n).2.asked = false) (n : Nat) :
    ∃ a j, Stage accepts items n a j (run accepts items n) := by
  induction n with
  | zero => exact ⟨0, 0, stage_zero⟩
  | succ n ih =>
      obtain ⟨a, j, hstage⟩ := ih
      by_cases hdone : (run accepts items n).1 = true
      · refine ⟨a, j, ?_⟩
        rw [run, if_pos hdone]
        exact { hstage with
          asked_ge := fun hstop => absurd (hdone.symm.trans hstop) (by simp) }
      · have hstop : (run accepts items n).1 = false := by simpa using hdone
        rw [run, if_neg hdone]
        by_cases hj : 0 < j
        · exact ⟨a, j, hstage.pass_stuck hstop hj (hrefuses n a j hstage hstop hj)⟩
        · have hzero : j = 0 := by omega
          subst hzero
          exact hstage.pass_fresh hstop

/-! ### Once -/

theorem Stage.once {n a j : Nat} {out : Bool × State α} (h : Stage accepts items n a j out) :
    out.2.sent <+: items ∧ (out.1 = true → out.2.sent = items) := by
  rw [h.sent_eq]
  refine ⟨List.take_prefix j items, fun hdone => ?_⟩
  rw [h.through hdone, List.take_length]

/-- A front part with another front part behind it is none, if no item comes twice. -/
theorem not_prefix_again (hnodup : items.Nodup) {j j' : Nat} (hj : 0 < j) (hle : j ≤ items.length)
    (hj' : 0 < j') : ¬ items.take j ++ items.take j' <+: items := by
  intro hprefix
  have hpos : 0 < items.length := by omega
  have hfront : (items.take j).length = j := List.length_take_of_le hle
  have hlong : j < (items.take j ++ items.take j').length := by
    rw [List.length_append, hfront, List.length_take]
    omega
  have hitem := hprefix.getElem hlong
  have hbound : j < items.length := Nat.lt_of_lt_of_le hlong hprefix.length_le
  rw [List.getElem_append_right (by omega)] at hitem
  simp only [hfront, Nat.sub_self, List.getElem_take] at hitem
  have hindex := hnodup.getElem_inj_iff.mp hitem
  omega

/-- Sent once, an item is not taken again. -/
theorem Once.refuses (h : Once accepts items) (hnodup : items.Nodup) {n a j : Nat}
    (hstage : Stage accepts items n a j (run accepts items n))
    (hstop : (run accepts items n).1 = false) (hj : 0 < j) :
    accepts (run accepts items n).2.asked = false := by
  by_contra htakes
  have haccept : accepts (run accepts items n).2.asked = true := by simpa using htakes
  obtain ⟨j', hj', hsent, -, hend⟩ :=
    pass_cases accepts items (run accepts items n).2
  have hpos : 0 < j' := by
    by_contra hzero
    have hnone : j' = 0 := by omega
    subst hnone
    obtain ⟨hlen, -⟩ := hstage.stuck hstop hj
    rcases hend with ⟨hempty, -, -⟩ | ⟨-, -, hrefused, -⟩
    · omega
    · rw [Nat.add_zero, haccept] at hrefused
      exact absurd hrefused (by simp)
  have hnext := (h (n + 1)).1
  rw [run, if_neg (by rw [hstop]; simp), hsent, hstage.sent_eq] at hnext
  exact not_prefix_again hnodup hj hstage.count hpos hnext

/-- **Items are sent once each exactly if the channel takes none after an unfinished pass.** -/
theorem once_iff (hnodup : items.Nodup) :
    Once accepts items ↔ NeverAgain accepts items.length := by
  constructor
  · intro h a j hj hlen hbefore htaken hrefused n hn
    obtain ⟨a', j', hstage⟩ := run_stage
      (fun n a j hstage hstop hj => h.refuses hnodup hstage hstop hj) (n + 1)
    have hfirst := htaken a (Nat.le_refl a) (by omega)
    by_cases hj' : 0 < j'
    · have hsame : a' = a := by
        rcases Nat.lt_trichotomy a a' with hlt | heq | hgt
        · exact absurd ((hstage.before a hlt).symm.trans hfirst) (by simp)
        · exact heq.symm
        · have htaken' := hstage.taken a' (Nat.le_refl a') (by omega)
          exact absurd ((hbefore a' hgt).symm.trans htaken') (by simp)
      subst hsame
      have hle : j' ≤ j := by
        by_contra hmore
        have htaken' := hstage.taken (a' + j) (by omega) (by omega)
        exact absurd (hrefused.symm.trans htaken') (by simp)
      have hstop : (run accepts items (n + 1)).1 = false := by
        by_contra hdone
        have hall := hstage.through (by simpa using hdone)
        omega
      have hasked := hstage.asked_ge hstop
      exact hstage.since n (by omega) (by omega)
    · have hstop : (run accepts items (n + 1)).1 = false := by
        by_contra hdone
        have hall := hstage.through (by simpa using hdone)
        omega
      have hasked := hstage.asked_ge hstop
      by_cases hn' : n < a'
      · exact hstage.before n hn'
      · exact hstage.since n (by omega) (by omega)
  · intro h n
    have hrefuses : ∀ n a j, Stage accepts items n a j (run accepts items n) →
        (run accepts items n).1 = false → 0 < j →
          accepts (run accepts items n).2.asked = false := by
      intro n a j hstage hstop hj
      obtain ⟨hlen, hbehind⟩ := hstage.stuck hstop hj
      have hrefused := hstage.since (a + j) (Nat.le_refl _) hbehind
      exact h a j hj hlen hstage.before hstage.taken hrefused _ hbehind
    obtain ⟨a, j, hstage⟩ := run_stage hrefuses n
    exact hstage.once

end Pass

end Resend
