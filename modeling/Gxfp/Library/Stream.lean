/-
Reading values off the front of a byte stream.

A reader may find the stream too short.  If it looks first it throws, and if it does
not it goes on behind the end; the two are told apart here, since the second is the
one a program must never do.  A `Layout` is a writer and a reader of values of one
size that are exact inverses, and whatever is put together out of layouts is one.
-/
import Mathlib.Data.List.Basic
import Mathlib.Logic.Equiv.Basic
import Gxfp.Library.Bytes

namespace Stream

/-- How reading ends: with a value and the rest, an exception, or behind the end. -/
inductive Outcome (α : Type) where
  | ok (a : α) (rest : List UInt8)
  | thrown
  | beyond
  deriving DecidableEq, Repr

/-- A reader takes a value off the front of a stream. -/
def Reader (α : Type) := List UInt8 → Outcome α

namespace Reader

variable {α β : Type}

instance : Monad Reader where
  pure a := fun s => .ok a s
  bind r f := fun s =>
    match r s with
    | .ok a rest => f a rest
    | .thrown => .thrown
    | .beyond => .beyond

theorem bind_apply (r : Reader α) (f : α → Reader β) (s : List UInt8) :
    (r >>= f) s =
      match r s with
      | .ok a rest => f a rest
      | .thrown => .thrown
      | .beyond => .beyond := rfl

theorem id_map_reader (r : Reader α) : id <$> r = r := by
  funext s
  show (match r s with | .ok a rest => .ok a rest | .thrown => .thrown | .beyond => .beyond) = r s
  cases r s <;> rfl

theorem bind_assoc_reader {γ : Type} (r : Reader α) (f : α → Reader β) (g : β → Reader γ) :
    r >>= f >>= g = r >>= fun a => f a >>= g := by
  funext s
  rw [bind_apply, bind_apply, bind_apply]
  cases r s <;> rfl

instance : LawfulMonad Reader :=
  LawfulMonad.mk' Reader id_map_reader (fun _ _ => rfl) bind_assoc_reader

theorem bind_ok {r : Reader α} {s rest : List UInt8} {a : α} (h : r s = .ok a rest)
    (f : α → Reader β) : (r >>= f) s = f a rest := by
  rw [bind_apply, h]

theorem bind_thrown {r : Reader α} {s : List UInt8} (h : r s = .thrown) (f : α → Reader β) :
    (r >>= f) s = .thrown := by
  rw [bind_apply, h]

/-- An exception. -/
def throw : Reader α := fun _ => .thrown

/-- The next `n` bytes, if there are so many. -/
def bytes (n : Nat) : Reader (List UInt8) := fun s =>
  if s.length < n then .thrown else .ok (s.take n) (s.drop n)

/-- The next `n` bytes, whether or not they are there. -/
def bytesUnchecked (n : Nat) : Reader (List UInt8) := fun s =>
  if s.length < n then .beyond else .ok (s.take n) (s.drop n)

/-- `n` values one after the other. -/
def many (r : Reader α) : Nat → Reader (List α)
  | 0 => pure []
  | n + 1 => do
    let a ← r
    let as ← many r n
    pure (a :: as)

theorem bytesUnchecked_append (l rest : List UInt8) :
    bytesUnchecked l.length (l ++ rest) = .ok l rest := by
  have hlen : ¬ (l ++ rest).length < l.length := by
    rw [List.length_append]
    omega
  rw [bytesUnchecked, if_neg hlen, List.take_left, List.drop_left]

theorem bytesUnchecked_cases (n : Nat) (s : List UInt8) :
    (s.length < n ∧ bytesUnchecked n s = .beyond) ∨
      ∃ l rest, l.length = n ∧ s = l ++ rest ∧ bytesUnchecked n s = .ok l rest := by
  by_cases h : s.length < n
  · exact Or.inl ⟨h, if_pos h⟩
  · refine Or.inr ⟨s.take n, s.drop n, ?_, (List.take_append_drop n s).symm, if_neg h⟩
    rw [List.length_take]
    omega

end Reader

open Reader

/-- `write` and `read` are exact inverses on values of `n` bytes. -/
structure Layout {α : Type} (n : Nat) (write : α → List UInt8) (read : Reader α) : Prop where
  length_write : ∀ a, (write a).length = n
  /-- A value that was written is read, whatever follows it. -/
  read_write : ∀ a rest, read (write a ++ rest) = .ok a rest
  /-- Less than a value is an exception. -/
  read_short : ∀ s, s.length < n → read s = .thrown
  /-- Any bytes are a value. -/
  complete : ∀ s, s.length = n → ∃ a, write a = s

namespace Layout

variable {α β : Type} {n m : Nat} {write : α → List UInt8} {read : Reader α}
  {write' : β → List UInt8} {read' : Reader β}

/-- **A reader throws, or takes off what the writer would have written.** -/
theorem read_cases (h : Layout n write read) (s : List UInt8) :
    (s.length < n ∧ read s = .thrown) ∨
      ∃ a rest, s = write a ++ rest ∧ read s = .ok a rest := by
  by_cases hs : s.length < n
  · exact Or.inl ⟨hs, h.read_short s hs⟩
  · right
    obtain ⟨a, ha⟩ := h.complete (s.take n) (by rw [List.length_take]; omega)
    have hcut : s = write a ++ s.drop n := by
      rw [ha, List.take_append_drop]
    refine ⟨a, s.drop n, hcut, ?_⟩
    have hread := h.read_write a (s.drop n)
    rwa [← hcut] at hread

/-- Two values, one after the other. -/
theorem pair (h : Layout n write read) (h' : Layout m write' read') :
    Layout (n + m) (fun p : α × β => write p.1 ++ write' p.2)
      (do let a ← read; let b ← read'; pure (a, b)) where
  length_write := by
    intro p
    rw [List.length_append, h.length_write, h'.length_write]
  read_write := by
    intro p rest
    rw [List.append_assoc, bind_ok (h.read_write _ _), bind_ok (h'.read_write _ _)]
    rfl
  read_short := by
    intro s hs
    rcases h.read_cases s with ⟨-, hthrown⟩ | ⟨a, rest, rfl, hok⟩
    · exact bind_thrown hthrown _
    · rw [List.length_append, h.length_write] at hs
      rw [bind_ok hok, bind_thrown (h'.read_short rest (by omega))]
  complete := by
    intro s hs
    obtain ⟨a, ha⟩ := h.complete (s.take n) (by rw [List.length_take]; omega)
    obtain ⟨b, hb⟩ := h'.complete (s.drop n) (by rw [List.length_drop]; omega)
    refine ⟨(a, b), ?_⟩
    rw [ha, hb, List.take_append_drop]

/-- The same bytes, for values that correspond to these. -/
theorem map (h : Layout n write read) (e : β ≃ α) :
    Layout n (fun b => write (e b)) (do let a ← read; pure (e.symm a)) where
  length_write := by
    intro b
    exact h.length_write _
  read_write := by
    intro b rest
    rw [bind_ok (h.read_write _ _), e.symm_apply_apply]
    rfl
  read_short := by
    intro s hs
    exact bind_thrown (h.read_short s hs) _
  complete := by
    intro s hs
    obtain ⟨a, ha⟩ := h.complete s hs
    refine ⟨e.symm a, ?_⟩
    rw [e.apply_symm_apply, ha]

/-- Values that were written one after the other are read. -/
theorem many_write (h : Layout n write read) (as : List α) (rest : List UInt8) :
    many read as.length (as.flatMap write ++ rest) = .ok as rest := by
  induction as with
  | nil => rfl
  | cons a as ih =>
      rw [List.length_cons, List.flatMap_cons, List.append_assoc, many,
        bind_ok (h.read_write _ _), bind_ok ih]
      rfl

/-- **Reading `k` values throws, or takes off `k` values.** -/
theorem many_cases (h : Layout n write read) (k : Nat) (s : List UInt8) :
    (s.length < n * k ∧ many read k s = .thrown) ∨
      ∃ as rest, as.length = k ∧ s = as.flatMap write ++ rest ∧ many read k s = .ok as rest := by
  induction k generalizing s with
  | zero => exact Or.inr ⟨[], s, rfl, rfl, rfl⟩
  | succ k ih =>
      rw [Nat.mul_succ]
      rcases h.read_cases s with ⟨hs, hthrown⟩ | ⟨a, rest, rfl, hok⟩
      · exact Or.inl ⟨by omega, bind_thrown hthrown _⟩
      · rcases ih rest with ⟨hrest, hthrown⟩ | ⟨as, rest, rfl, rfl, hmany⟩
        · left
          refine ⟨?_, ?_⟩
          · rw [List.length_append, h.length_write]
            omega
          · rw [many, bind_ok hok, bind_thrown hthrown]
        · right
          refine ⟨a :: as, rest, rfl, ?_, ?_⟩
          · rw [List.flatMap_cons, List.append_assoc]
          · rw [many, bind_ok hok, bind_ok hmany]
            rfl

theorem length_many (h : Layout n write read) (as : List α) :
    (as.flatMap write).length = n * as.length := by
  induction as with
  | nil => rfl
  | cons a as ih =>
      rw [List.flatMap_cons, List.length_append, h.length_write, ih, List.length_cons,
        Nat.mul_succ, Nat.add_comm]

/-- Numbers below `256 ^ n`, the lowest byte first. -/
theorem littleEndian (n : Nat) (toNat : α → Nat) (ofNat : Nat → α)
    (hlt : ∀ a, toNat a < 256 ^ n) (hof : ∀ a, ofNat (toNat a) = a)
    (hto : ∀ w, w < 256 ^ n → toNat (ofNat w) = w) :
    Layout n (fun a => Bytes.leBytes n (toNat a))
      (do let l ← Reader.bytes n; pure (ofNat (Bytes.leValue l))) where
  length_write := by
    intro a
    exact Bytes.length_leBytes n _
  read_write := by
    intro a rest
    have hread : Reader.bytes n (Bytes.leBytes n (toNat a) ++ rest) =
        .ok (Bytes.leBytes n (toNat a)) rest := by
      have hlen := Bytes.length_leBytes n (toNat a)
      rw [Reader.bytes, if_neg (by rw [List.length_append]; omega), List.take_left' hlen,
        List.drop_left' hlen]
    rw [bind_ok hread, Bytes.leValue_leBytes (hlt a), hof]
    rfl
  read_short := by
    intro s hs
    exact bind_thrown (if_pos hs) _
  complete := by
    intro s hs
    refine ⟨ofNat (Bytes.leValue s), ?_⟩
    have hvalue := Bytes.leValue_lt s
    rw [hs] at hvalue
    rw [hto _ hvalue]
    have hbytes := Bytes.leBytes_leValue s
    rwa [hs] at hbytes

end Layout

end Stream
