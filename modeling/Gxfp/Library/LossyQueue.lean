/-
A queue that may lose things, and says so.

Things arrive, wait in a queue, and are delivered.  Some are lost on the way, and a
reader cannot see that from what it gets.  `Faithful` is what a reader may rely on
all the same: what is delivered has arrived, in the same order and once, and whenever
a later arrival is delivered in place of an earlier one, the log has a notice between.

A log is a list of events of any type; a `Vocabulary` says which of them are arrivals,
deliveries and notices.  An arrival may be unwatched, and then nothing is owed for it.
`Ledger` is the bookkeeping that makes `Faithful` an invariant: which arrivals are
still to be delivered, and whether something was lost since the last notice.  There is
one rule for each thing that can happen to it.
-/
import Mathlib.Tactic.Common
import Mathlib.Data.List.Basic

namespace LossyQueue

/-! ### Logs -/

/-- What the events of a log mean; an arrival says whether it is watched. -/
structure Vocabulary (E α : Type) where
  arrived : E → Option (Bool × α)
  delivered : E → Option α
  notice : E → Bool

section Logs

variable {E α : Type}

/-- The event at position `i` satisfies `p`. -/
def HoldsAt (log : List E) (i : Nat) (p : E → Prop) : Prop := ∃ e, log[i]? = some e ∧ p e

theorem HoldsAt.lt {log : List E} {i : Nat} {p : E → Prop} (h : HoldsAt log i p) :
    i < log.length := by
  obtain ⟨e, he, -⟩ := h
  exact (List.getElem?_eq_some_iff.mp he).1

/-- **A longer log has one position more.** -/
theorem holdsAt_concat {log : List E} {e : E} {i : Nat} {p : E → Prop} :
    HoldsAt (log ++ [e]) i p ↔ HoldsAt log i p ∨ i = log.length ∧ p e := by
  constructor
  · rintro ⟨e', he', hp⟩
    by_cases hi : i < log.length
    · rw [List.getElem?_append_left hi] at he'
      exact Or.inl ⟨e', he', hp⟩
    · have hlen : i < (log ++ [e]).length := (List.getElem?_eq_some_iff.mp he').1
      rw [List.length_append, List.length_singleton] at hlen
      have hlast : i = log.length := by omega
      rw [hlast, List.getElem?_concat_length] at he'
      cases he'
      exact Or.inr ⟨hlast, hp⟩
  · rintro (h | ⟨rfl, hp⟩)
    · have hlt := h.lt
      obtain ⟨e', he', hp⟩ := h
      exact ⟨e', by rw [List.getElem?_append_left hlt]; exact he', hp⟩
    · exact ⟨e, List.getElem?_concat_length, hp⟩

namespace Vocabulary

variable (v : Vocabulary E α)

def ArrivedAt (log : List E) (i : Nat) (watched : Bool) (a : α) : Prop :=
  HoldsAt log i fun e => v.arrived e = some (watched, a)

def DeliveredAt (log : List E) (j : Nat) (a : α) : Prop :=
  HoldsAt log j fun e => v.delivered e = some a

def NoticeAt (log : List E) (k : Nat) : Prop := HoldsAt log k fun e => v.notice e = true

/-- `src` tells for each delivery which arrival it is, and no loss goes unannounced. -/
structure Faithful (log : List E) (src : Nat → Nat) : Prop where
  comes : ∀ j a, v.DeliveredAt log j a → src j < j ∧ ∃ w, v.ArrivedAt log (src j) w a
  inOrder : ∀ j j' a a', v.DeliveredAt log j a → v.DeliveredAt log j' a' → j < j' → src j < src j'
  announced : ∀ i a, v.ArrivedAt log i true a → (∀ j b, v.DeliveredAt log j b → src j ≠ i) →
    ∀ j b, v.DeliveredAt log j b → i < src j → ∃ k, i < k ∧ k < j ∧ v.NoticeAt log k

end Vocabulary

end Logs

/-! ### The ledger -/

/-- A log, the arrivals still to be delivered, and what the log does not say. -/
structure Ledger (E α : Type) where
  log : List E
  pending : List (Nat × α)
  src : Nat → Nat
  unsaid : Bool

section Ledgers

variable {E α : Type} {v : Vocabulary E α}

/-- Watched arrival `i` is delivered, pending, or lost with a notice after it. -/
def Ledger.Accounted (v : Vocabulary E α) (l : Ledger E α) (i : Nat) : Prop :=
  (∃ j b, v.DeliveredAt l.log j b ∧ l.src j = i) ∨ (∃ x ∈ l.pending, x.1 = i) ∨
    ∃ k, i < k ∧ v.NoticeAt l.log k

structure Ledger.Inv (v : Vocabulary E α) (l : Ledger E α) : Prop where
  faithful : v.Faithful l.log l.src
  arrived : ∀ x ∈ l.pending, ∃ w, v.ArrivedAt l.log x.1 w x.2
  sorted : l.pending.Pairwise fun x y => x.1 < y.1
  ahead : ∀ j a, v.DeliveredAt l.log j a → ∀ x ∈ l.pending, l.src j < x.1
  accounted : l.unsaid = false → ∀ i a, v.ArrivedAt l.log i true a → l.Accounted v i

namespace Ledger

/-- Nothing has happened yet. -/
def empty : Ledger E α := ⟨[], [], id, false⟩

theorem Inv.empty : (empty : Ledger E α).Inv v := by
  have hnone : ∀ {i : Nat} {p : E → Prop}, ¬ HoldsAt ([] : List E) i p :=
    fun h => absurd h.lt (Nat.not_lt_zero _)
  constructor
  case faithful =>
    constructor
    · intro j a h
      exact absurd h hnone
    · intro j j' a a' h
      exact absurd h hnone
    · intro i a h
      exact absurd h hnone
  case arrived =>
    intro x hx
    cases hx
  case sorted => exact List.Pairwise.nil
  case ahead =>
    intro j a h
    exact absurd h hnone
  case accounted =>
    intro _ i a h
    exact absurd h hnone

/-- The log goes on with `e`, and `pending` is what is left to deliver. -/
def note (l : Ledger E α) (e : E) (pending : List (Nat × α)) (unsaid : Bool) : Ledger E α :=
  { l with log := l.log ++ [e], pending, unsaid }

/-- The log goes on with the delivery `e` of the oldest pending arrival. -/
def deliver (l : Ledger E α) (e : E) : Ledger E α where
  log := l.log ++ [e]
  pending := l.pending.tail
  src := fun j => if j = l.log.length then (l.pending.head?.elim 0 Prod.fst) else l.src j
  unsaid := l.unsaid

variable {l : Ledger E α} {e : E}

theorem deliveredAt_note (he : v.delivered e = none) {j : Nat} {a : α} :
    v.DeliveredAt (l.log ++ [e]) j a ↔ v.DeliveredAt l.log j a := by
  rw [Vocabulary.DeliveredAt, holdsAt_concat, he]
  simp [Vocabulary.DeliveredAt]

theorem arrivedAt_note (he : v.arrived e = none) {i : Nat} {w : Bool} {a : α} :
    v.ArrivedAt (l.log ++ [e]) i w a ↔ v.ArrivedAt l.log i w a := by
  rw [Vocabulary.ArrivedAt, holdsAt_concat, he]
  simp [Vocabulary.ArrivedAt]

theorem ArrivedAt.append {i : Nat} {w : Bool} {a : α} (h : v.ArrivedAt l.log i w a) (e : E) :
    v.ArrivedAt (l.log ++ [e]) i w a :=
  holdsAt_concat.mpr (Or.inl h)

theorem NoticeAt.append {k : Nat} (h : v.NoticeAt l.log k) (e : E) :
    v.NoticeAt (l.log ++ [e]) k :=
  holdsAt_concat.mpr (Or.inl h)

/-- An event that delivers nothing keeps the log faithful, also if it is an arrival. -/
theorem faithful_note (h : v.Faithful l.log l.src) (he : v.delivered e = none) :
    v.Faithful (l.log ++ [e]) l.src := by
  constructor
  case comes =>
    intro j a hj
    obtain ⟨hlt, w, harr⟩ := h.comes j a ((deliveredAt_note he).mp hj)
    exact ⟨hlt, w, ArrivedAt.append harr e⟩
  case inOrder =>
    intro j j' a a' hj hj'
    exact h.inOrder j j' a a' ((deliveredAt_note he).mp hj) ((deliveredAt_note he).mp hj')
  case announced =>
    intro i a hi hnot j b hj hlt
    rw [deliveredAt_note he] at hj
    rcases holdsAt_concat.mp hi with hold | ⟨rfl, -⟩
    · obtain ⟨k, hik, hkj, hk⟩ := h.announced i a hold
        (fun j b hj => hnot j b ((deliveredAt_note he).mpr hj)) j b hj hlt
      exact ⟨k, hik, hkj, NoticeAt.append hk e⟩
    · obtain ⟨hsrc, -⟩ := h.comes j b hj
      have hjlt : j < l.log.length := HoldsAt.lt hj
      omega

/-- What is accounted for stays so when only the log grows. -/
theorem Accounted.note {i : Nat} (h : l.Accounted v i) (he : v.delivered e = none)
    {pending : List (Nat × α)} (hsub : ∀ x ∈ l.pending, x ∈ pending) (unsaid : Bool) :
    (l.note e pending unsaid).Accounted v i := by
  rcases h with ⟨j, b, hj, hsrc⟩ | ⟨x, hx, hxi⟩ | ⟨k, hik, hk⟩
  · exact Or.inl ⟨j, b, (deliveredAt_note he).mpr hj, hsrc⟩
  · exact Or.inr (Or.inl ⟨x, hsub x hx, hxi⟩)
  · exact Or.inr (Or.inr ⟨k, hik, NoticeAt.append hk e⟩)

/-! ### The rules -/

/-- **An event of no meaning.** -/
theorem Inv.neutral (h : l.Inv v) (harr : v.arrived e = none) (hdel : v.delivered e = none) :
    (l.note e l.pending l.unsaid).Inv v := by
  constructor
  case faithful => exact faithful_note h.faithful hdel
  case arrived =>
    intro x hx
    obtain ⟨w, hw⟩ := h.arrived x hx
    exact ⟨w, ArrivedAt.append hw e⟩
  case sorted => exact h.sorted
  case ahead =>
    intro j a hj
    exact h.ahead j a ((deliveredAt_note hdel).mp hj)
  case accounted =>
    intro hsaid i a hi
    exact (h.accounted hsaid i a ((arrivedAt_note harr).mp hi)).note hdel (fun x hx => hx) _

/-- **A notice.**  Anything may be lost with it, and nothing is unsaid behind it. -/
theorem Inv.notice (h : l.Inv v) (harr : v.arrived e = none) (hdel : v.delivered e = none)
    (hnotice : v.notice e = true) {pending : List (Nat × α)} (hsub : pending.Sublist l.pending) :
    (l.note e pending false).Inv v := by
  constructor
  case faithful => exact faithful_note h.faithful hdel
  case arrived =>
    intro x hx
    obtain ⟨w, hw⟩ := h.arrived x (hsub.subset hx)
    exact ⟨w, ArrivedAt.append hw e⟩
  case sorted => exact h.sorted.sublist hsub
  case ahead =>
    intro j a hj x hx
    exact h.ahead j a ((deliveredAt_note hdel).mp hj) x (hsub.subset hx)
  case accounted =>
    intro _ i a hi
    refine Or.inr (Or.inr ⟨l.log.length, ?_, ?_⟩)
    · exact HoldsAt.lt ((arrivedAt_note harr).mp hi)
    · exact holdsAt_concat.mpr (Or.inr ⟨rfl, hnotice⟩)

/-- **A loss**, which the log does not say. -/
theorem Inv.lose (h : l.Inv v) {pending : List (Nat × α)} (hsub : pending.Sublist l.pending) :
    Inv v { l with pending, unsaid := true } where
  faithful := h.faithful
  arrived := fun x hx => h.arrived x (hsub.subset hx)
  sorted := h.sorted.sublist hsub
  ahead := fun j a hj x hx => h.ahead j a hj x (hsub.subset hx)
  accounted := fun hsaid => absurd hsaid (by simp)

/-- **An arrival.** -/
theorem Inv.arrive (h : l.Inv v) {w : Bool} {a : α} (harr : v.arrived e = some (w, a))
    (hdel : v.delivered e = none) :
    (l.note e (l.pending ++ [(l.log.length, a)]) l.unsaid).Inv v := by
  have hnew : v.ArrivedAt (l.log ++ [e]) l.log.length w a :=
    holdsAt_concat.mpr (Or.inr ⟨rfl, harr⟩)
  constructor
  case faithful => exact faithful_note h.faithful hdel
  case arrived =>
    intro x hx
    rcases List.mem_append.mp hx with hx | hx
    · obtain ⟨w', hw'⟩ := h.arrived x hx
      exact ⟨w', ArrivedAt.append hw' e⟩
    · rw [List.mem_singleton.mp hx]
      exact ⟨w, hnew⟩
  case sorted =>
    refine List.pairwise_append.mpr ⟨h.sorted, List.pairwise_singleton _ _, ?_⟩
    intro x hx y hy
    obtain ⟨w', hw'⟩ := h.arrived x hx
    rw [List.mem_singleton.mp hy]
    exact HoldsAt.lt hw'
  case ahead =>
    intro j b hj' x hx
    have hj : v.DeliveredAt l.log j b := (deliveredAt_note hdel).mp hj'
    rcases List.mem_append.mp hx with hx | hx
    · exact h.ahead j b hj x hx
    · rw [List.mem_singleton.mp hx]
      exact Nat.lt_trans (h.faithful.comes j b hj).1 (HoldsAt.lt hj)
  case accounted =>
    intro hsaid i b hi
    rcases holdsAt_concat.mp hi with hold | ⟨rfl, -⟩
    · exact (h.accounted hsaid i b hold).note hdel
        (fun x hx => List.mem_append.mpr (Or.inl hx)) _
    · exact Or.inr (Or.inl ⟨_, List.mem_append.mpr (Or.inr (List.mem_singleton_self _)), rfl⟩)

/-- **An unwatched arrival that goes nowhere.** -/
theorem Inv.ignore (h : l.Inv v) {a : α} (harr : v.arrived e = some (false, a))
    (hdel : v.delivered e = none) : (l.note e l.pending l.unsaid).Inv v := by
  constructor
  case faithful => exact faithful_note h.faithful hdel
  case arrived =>
    intro x hx
    obtain ⟨w, hw⟩ := h.arrived x hx
    exact ⟨w, ArrivedAt.append hw e⟩
  case sorted => exact h.sorted
  case ahead =>
    intro j b hj
    exact h.ahead j b ((deliveredAt_note hdel).mp hj)
  case accounted =>
    intro hsaid i b hi
    rcases holdsAt_concat.mp hi with hold | ⟨-, hlast⟩
    · exact (h.accounted hsaid i b hold).note hdel (fun x hx => hx) _
    · rw [harr] at hlast
      cases hlast

/-! ### A delivery -/

section Delivery

variable {i : Nat} {a : α} {rest : List (Nat × α)}

theorem deliver_pending (hpending : l.pending = (i, a) :: rest) : (l.deliver e).pending = rest := by
  rw [deliver, hpending]
  rfl

theorem deliver_src_new (hpending : l.pending = (i, a) :: rest) :
    (l.deliver e).src l.log.length = i := by
  show (if l.log.length = l.log.length then _ else _) = i
  rw [if_pos rfl, hpending]
  rfl

theorem deliver_src_old {j : Nat} {b : α} (hj : v.DeliveredAt l.log j b) :
    (l.deliver e).src j = l.src j :=
  if_neg (Nat.ne_of_lt (HoldsAt.lt hj))

theorem deliveredAt_deliver (hdel : v.delivered e = some a) {j : Nat} {b : α} :
    v.DeliveredAt (l.deliver e).log j b → v.DeliveredAt l.log j b ∨ j = l.log.length ∧ b = a := by
  intro hj
  rcases holdsAt_concat.mp hj with hj | ⟨hlast, hb⟩
  · exact Or.inl hj
  · rw [hdel] at hb
    cases hb
    exact Or.inr ⟨hlast, rfl⟩

/-- What is pending behind the oldest arrival came after it. -/
theorem Inv.behind (h : l.Inv v) (hpending : l.pending = (i, a) :: rest) :
    ∀ x ∈ rest, i < x.1 ∧ x ∈ l.pending := by
  intro x hx
  have hsorted := h.sorted
  rw [hpending] at hsorted ⊢
  exact ⟨(List.pairwise_cons.mp hsorted).1 x hx, List.mem_cons_of_mem _ hx⟩

/-- An arrival before the oldest pending one is neither delivered nor pending, so it was
lost with a notice. -/
theorem Inv.lost (h : l.Inv v) (hsaid : l.unsaid = false) (hpending : l.pending = (i, a) :: rest)
    {k : Nat} {b : α} (hk : v.ArrivedAt l.log k true b)
    (hnot : ∀ j b, v.DeliveredAt l.log j b → l.src j ≠ k) (hlt : k < i) :
    ∃ m, k < m ∧ v.NoticeAt l.log m := by
  rcases h.accounted hsaid k b hk with ⟨j, c, hj, hsrc⟩ | ⟨x, hx, hxk⟩ | hnotice
  · exact absurd hsrc (hnot j c hj)
  · rw [hpending] at hx
    rcases List.mem_cons.mp hx with rfl | hx
    · exact absurd hxk (Nat.ne_of_gt hlt)
    · have hbehind := (h.behind hpending x hx).1
      omega
  · exact hnotice

theorem Inv.faithful_deliver (h : l.Inv v) (hsaid : l.unsaid = false)
    (hpending : l.pending = (i, a) :: rest) (harr : v.arrived e = none)
    (hdel : v.delivered e = some a) : v.Faithful (l.deliver e).log (l.deliver e).src := by
  have hhead : (i, a) ∈ l.pending := by
    rw [hpending]
    exact List.mem_cons_self
  obtain ⟨w, hw⟩ := h.arrived _ hhead
  constructor
  case comes =>
    intro j b hj
    rcases deliveredAt_deliver hdel hj with hj | ⟨rfl, rfl⟩
    · obtain ⟨hlt, w', hw'⟩ := h.faithful.comes j b hj
      rw [deliver_src_old hj]
      exact ⟨hlt, w', ArrivedAt.append hw' e⟩
    · rw [deliver_src_new hpending]
      exact ⟨HoldsAt.lt hw, w, ArrivedAt.append hw e⟩
  case inOrder =>
    intro j j' b b' hj hj' hlt
    rcases deliveredAt_deliver hdel hj' with hj' | ⟨rfl, rfl⟩
    · rcases deliveredAt_deliver hdel hj with hj | ⟨rfl, rfl⟩
      · rw [deliver_src_old hj, deliver_src_old hj']
        exact h.faithful.inOrder j j' b b' hj hj' hlt
      · exact absurd (HoldsAt.lt hj') (Nat.not_lt.mpr (Nat.le_of_lt hlt))
    · rcases deliveredAt_deliver hdel hj with hj | ⟨rfl, rfl⟩
      · rw [deliver_src_old hj, deliver_src_new hpending]
        exact h.ahead j b hj _ hhead
      · exact absurd hlt (Nat.lt_irrefl _)
  case announced =>
    intro k b hk hnot j c hj hlt
    have hk : v.ArrivedAt l.log k true b := (arrivedAt_note harr).mp hk
    have hnot' : ∀ j b, v.DeliveredAt l.log j b → l.src j ≠ k := by
      intro j b hj
      rw [← deliver_src_old hj]
      exact hnot j b (holdsAt_concat.mpr (Or.inl hj))
    rcases deliveredAt_deliver hdel hj with hj | ⟨rfl, rfl⟩
    · rw [deliver_src_old hj] at hlt
      obtain ⟨m, hkm, hmj, hm⟩ := h.faithful.announced k b hk hnot' j c hj hlt
      exact ⟨m, hkm, hmj, NoticeAt.append hm e⟩
    · rw [deliver_src_new hpending] at hlt
      obtain ⟨m, hkm, hm⟩ := h.lost hsaid hpending hk hnot' hlt
      exact ⟨m, hkm, HoldsAt.lt hm, NoticeAt.append hm e⟩

/-- **A delivery**, of the oldest pending arrival, when nothing is unsaid. -/
theorem Inv.deliver (h : l.Inv v) (hsaid : l.unsaid = false)
    (hpending : l.pending = (i, a) :: rest) (harr : v.arrived e = none)
    (hdel : v.delivered e = some a) : (l.deliver e).Inv v := by
  constructor
  case faithful => exact h.faithful_deliver hsaid hpending harr hdel
  case arrived =>
    intro x hx
    rw [deliver_pending hpending] at hx
    obtain ⟨w, hw⟩ := h.arrived x (h.behind hpending x hx).2
    exact ⟨w, ArrivedAt.append hw e⟩
  case sorted =>
    have hsorted := h.sorted
    rw [hpending] at hsorted
    rw [deliver_pending hpending]
    exact (List.pairwise_cons.mp hsorted).2
  case ahead =>
    intro j b hj x hx
    rw [deliver_pending hpending] at hx
    rcases deliveredAt_deliver hdel hj with hj | ⟨rfl, rfl⟩
    · rw [deliver_src_old hj]
      exact h.ahead j b hj x (h.behind hpending x hx).2
    · rw [deliver_src_new hpending]
      exact (h.behind hpending x hx).1
  case accounted =>
    intro _ k b hk
    have hk : v.ArrivedAt l.log k true b := (arrivedAt_note harr).mp hk
    rcases h.accounted hsaid k b hk with ⟨j, c, hj, hsrc⟩ | ⟨x, hx, hxk⟩ | ⟨m, hkm, hm⟩
    · refine Or.inl ⟨j, c, holdsAt_concat.mpr (Or.inl hj), ?_⟩
      rw [deliver_src_old hj]
      exact hsrc
    · rw [hpending] at hx
      rcases List.mem_cons.mp hx with rfl | hx
      · refine Or.inl ⟨l.log.length, a, holdsAt_concat.mpr (Or.inr ⟨rfl, hdel⟩), ?_⟩
        exact (deliver_src_new hpending).trans hxk
      · refine Or.inr (Or.inl ⟨x, ?_, hxk⟩)
        rw [deliver_pending hpending]
        exact hx
    · exact Or.inr (Or.inr ⟨m, hkm, NoticeAt.append hm e⟩)

end Delivery

end Ledger

end Ledgers

end LossyQueue
