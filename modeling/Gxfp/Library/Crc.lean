/-
Cyclic redundancy checks, most significant bit first.

The register is a `BitVec w`.  `feedBit` is the definition: shift, and subtract the
polynomial if the bit that fell out and the message bit differ.  `step` is the same
with no message bit, and everything else follows from its linearity.  A whole run
of bits is one `step^[n]` of the register with those bits added in
(`foldl_feedBit`), and a register whose first `n` bits are zero is only shifted
(`iterate_step_of_low`), so a byte can be taken care of by a table indexed with the
register's top byte (`feedByte_eq_table`).
-/
import Mathlib.Tactic.Common
import Mathlib.Logic.Function.Iterate

namespace Crc

variable {w : Nat} (poly : BitVec w)

/-- One shift of the register. -/
def step (x : BitVec w) : BitVec w := if x.msb then (x <<< 1) ^^^ poly else x <<< 1

/-- One message bit. -/
def feedBit (x : BitVec w) (bit : Bool) : BitVec w :=
  if x.msb ^^ bit then (x <<< 1) ^^^ poly else x <<< 1

/-- The first `n` bits of a register, most significant first. -/
def topBits (x : BitVec w) (n : Nat) : List Bool := (List.range n).map fun k => (x <<< k).msb

/-- The test of a register's top bit, as a program makes it. -/
theorem and_twoPow_eq_zero (hw : 0 < w) (x : BitVec w) :
    x &&& BitVec.twoPow w (w - 1) = 0#w ↔ x.msb = false := by
  rw [BitVec.and_twoPow, BitVec.msb_eq_getLsbD_last]
  cases x.getLsbD (w - 1)
  · simp
  · simp only [if_true, Bool.true_eq_false, iff_false]
    intro hzero
    have hbit := congrArg (fun z => z.getLsbD (w - 1)) hzero
    simp [BitVec.getLsbD_twoPow] at hbit
    omega

/-! ### Linearity -/

theorem step_xor (x y : BitVec w) : step poly (x ^^^ y) = step poly x ^^^ step poly y := by
  unfold step
  rw [BitVec.msb_xor, BitVec.shiftLeft_xor_distrib]
  cases x.msb <;> cases y.msb
  · rfl
  · simp only [Bool.false_xor, if_true, BitVec.xor_assoc]
    rfl
  · simp only [Bool.xor_false, if_true, BitVec.xor_assoc]
    simp only [Bool.false_eq_true, if_false, BitVec.xor_comm]
  · simp only [Bool.xor_self, Bool.false_eq_true, if_false, if_true]
    rw [BitVec.xor_assoc, BitVec.xor_comm poly, BitVec.xor_assoc, BitVec.xor_self,
      BitVec.xor_zero]

theorem iterate_step_xor (n : Nat) (x y : BitVec w) :
    (step poly)^[n] (x ^^^ y) = (step poly)^[n] x ^^^ (step poly)^[n] y := by
  induction n generalizing x y with
  | zero => rfl
  | succ n ih =>
      rw [Function.iterate_succ_apply, step_xor, ih, Function.iterate_succ_apply,
        Function.iterate_succ_apply]

/-- **A register whose first bits are zero is only shifted.** -/
theorem iterate_step_of_low {n : Nat} {x : BitVec w} (h : ∀ k < n, (x <<< k).msb = false) :
    (step poly)^[n] x = x <<< n := by
  induction n with
  | zero => simp
  | succ n ih =>
      rw [Function.iterate_succ_apply', ih fun k hk => h k (Nat.lt_succ_of_lt hk), step,
        h n (Nat.lt_succ_self n), BitVec.shiftLeft_add]
      rfl

/-! ### Message bits -/

/-- A message bit can wait in a second register until it has reached the top. -/
theorem feedBit_xor (x c : BitVec w) :
    feedBit poly x c.msb ^^^ (c <<< 1) = step poly (x ^^^ c) := by
  unfold feedBit step
  rw [BitVec.msb_xor, BitVec.shiftLeft_xor_distrib]
  split
  · rw [BitVec.xor_assoc, BitVec.xor_assoc, BitVec.xor_comm poly]
  · rfl

theorem topBits_succ (x : BitVec w) (n : Nat) :
    topBits x (n + 1) = x.msb :: topBits (x <<< 1) n := by
  rw [topBits, List.range_succ_eq_map, List.map_cons, List.map_map, BitVec.shiftLeft_zero]
  refine congrArg (x.msb :: ·) (List.map_congr_left ?_)
  intro k _
  rw [Function.comp_apply, ← BitVec.shiftLeft_add, Nat.add_comm]

/-- **Feeding the first bits of `c` is stepping the register with `c` added in.** -/
theorem foldl_feedBit (n : Nat) (x c : BitVec w) :
    (topBits c n).foldl (feedBit poly) x ^^^ (c <<< n) = (step poly)^[n] (x ^^^ c) := by
  induction n generalizing x c with
  | zero => simp [topBits]
  | succ n ih =>
      rw [topBits_succ, List.foldl_cons, Function.iterate_succ_apply, ← feedBit_xor, ← ih,
        ← BitVec.shiftLeft_add, Nat.add_comm]

/-! ### Bursts

A polynomial with its lowest bit set loses nothing in a step, and no more bits than the
register is wide cancel each other.
-/

theorem step_low (hpoly : poly.getLsbD 0 = true) (hw : 0 < w) (x : BitVec w) :
    (step poly x).getLsbD 0 = x.msb := by
  unfold step
  cases x.msb
  · simp
  · simp [hpoly, hw]

theorem step_injective (hpoly : poly.getLsbD 0 = true) : Function.Injective (step poly) := by
  intro x y h
  by_cases hw : 0 < w
  · have hmsb : x.msb = y.msb := by
      rw [← step_low poly hpoly hw x, ← step_low poly hpoly hw y, h]
    have hshift : x <<< 1 = y <<< 1 := by
      unfold step at h
      rw [hmsb] at h
      split at h
      · have hadd := congrArg (· ^^^ poly) h
        simpa only [BitVec.xor_assoc, BitVec.xor_self, BitVec.xor_zero] using hadd
      · exact h
    refine BitVec.eq_of_getLsbD_eq fun i hi => ?_
    by_cases htop : i + 1 < w
    · have hbit := congrArg (fun z => z.getLsbD (i + 1)) hshift
      simp only [BitVec.getLsbD_shiftLeft, htop, decide_true, Bool.true_and,
        Nat.add_sub_cancel, Nat.not_lt.mpr (Nat.le_add_left 1 i), decide_false,
        Bool.not_false] at hbit
      exact hbit
    · have hlast : i = w - 1 := by omega
      rw [BitVec.msb_eq_getLsbD_last, BitVec.msb_eq_getLsbD_last] at hmsb
      rw [hlast]
      exact hmsb
  · have hzero : w = 0 := by omega
    subst hzero
    exact Subsingleton.elim x y

/-- A message bit is fed without loss. -/
theorem feedBit_injective (hpoly : poly.getLsbD 0 = true) (bit : Bool) :
    Function.Injective fun x => feedBit poly x bit := by
  intro x y h
  by_cases hw : 0 < w
  · -- a register whose top bit is the message bit
    have hreach : ∃ c : BitVec w, c.msb = bit := by
      cases bit
      · exact ⟨0#w, by simp⟩
      · refine ⟨BitVec.twoPow w (w - 1), ?_⟩
        rw [BitVec.msb_eq_getLsbD_last, BitVec.getLsbD_twoPow]
        simp [show w - 1 < w by omega]
    obtain ⟨c, rfl⟩ := hreach
    have hstep : step poly (x ^^^ c) = step poly (y ^^^ c) := by
      rw [← feedBit_xor, ← feedBit_xor]
      exact congrArg (· ^^^ (c <<< 1)) h
    have hadd := congrArg (· ^^^ c) (step_injective poly hpoly hstep)
    simpa only [BitVec.xor_assoc, BitVec.xor_self, BitVec.xor_zero] using hadd
  · have hzero : w = 0 := by omega
    subst hzero
    exact Subsingleton.elim x y

/-- **The same message bits do not make two registers equal.** -/
theorem foldl_feedBit_injective (hpoly : poly.getLsbD 0 = true) (bits : List Bool) :
    Function.Injective fun x => bits.foldl (feedBit poly) x := by
  induction bits with
  | nil => exact fun _ _ h => h
  | cons bit bits ih => exact fun _ _ h => feedBit_injective poly hpoly bit (ih h)

/-- Bits that fit into a register stand at its top. -/
theorem exists_topBits (bits : List Bool) (hlen : bits.length ≤ w) :
    ∃ c : BitVec w, topBits c bits.length = bits ∧ c <<< bits.length = 0#w := by
  induction bits with
  | nil => exact ⟨0#w, rfl, by simp⟩
  | cons bit bits ih =>
      rw [List.length_cons] at hlen
      obtain ⟨c, htop, hzero⟩ := ih (by omega)
      have hlow : c.getLsbD 0 = false := by
        have hbit := congrArg (fun z => z.getLsbD bits.length) hzero
        simp only [BitVec.getLsbD_shiftLeft, show bits.length < w by omega, decide_true,
          Bool.true_and, Nat.lt_irrefl, decide_false, Bool.not_false, Nat.sub_self,
          BitVec.getLsbD_zero] at hbit
        exact hbit
      refine ⟨(c >>> 1) ||| (if bit then BitVec.twoPow w (w - 1) else 0#w), ?_⟩
      have hmsb : ((c >>> 1) ||| (if bit then BitVec.twoPow w (w - 1) else 0#w)).msb = bit := by
        rw [BitVec.msb_eq_getLsbD_last, BitVec.getLsbD_or, BitVec.getLsbD_ushiftRight,
          BitVec.getLsbD_of_ge c (1 + (w - 1)) (by omega)]
        cases bit
        · simp
        · simp [show w - 1 < w by omega]
      have hshift : ((c >>> 1) ||| (if bit then BitVec.twoPow w (w - 1) else 0#w)) <<< 1 = c := by
        refine BitVec.eq_of_getLsbD_eq fun i hi => ?_
        rw [BitVec.getLsbD_shiftLeft, BitVec.getLsbD_or, BitVec.getLsbD_ushiftRight]
        rcases Nat.eq_zero_or_pos i with rfl | hpos
        · simp [hlow]
        · have hnot : ¬ i < 1 := by omega
          have hback : 1 + (i - 1) = i := by omega
          rw [hback]
          cases bit
          · simp [hi, hnot]
          · simp [hi, hnot, show ¬ w - 1 = i - 1 by omega]
      constructor
      · rw [List.length_cons, topBits_succ, hmsb, hshift, htop]
      · rw [List.length_cons, Nat.add_comm, BitVec.shiftLeft_add, hshift, hzero]

/-- **No two runs of bits that fit into the register take it to the same place.** -/
theorem feedBits_burst (hpoly : poly.getLsbD 0 = true) {bits bits' : List Bool}
    (hsame : bits.length = bits'.length) (hlen : bits.length ≤ w) {x : BitVec w}
    (h : bits.foldl (feedBit poly) x = bits'.foldl (feedBit poly) x) : bits = bits' := by
  obtain ⟨c, htop, hzero⟩ := exists_topBits bits hlen
  obtain ⟨c', htop', hzero'⟩ := exists_topBits bits' (hsame ▸ hlen)
  have hrun := foldl_feedBit poly bits.length x c
  have hrun' := foldl_feedBit poly bits'.length x c'
  rw [htop, hzero, BitVec.xor_zero] at hrun
  rw [htop', hzero', BitVec.xor_zero, ← h, hrun, ← hsame] at hrun'
  have hadd : x ^^^ c = x ^^^ c' := (step_injective poly hpoly).iterate bits.length hrun'
  have hc : c = c' := by
    have hboth := congrArg (x ^^^ ·) hadd
    simpa only [← BitVec.xor_assoc, BitVec.xor_self, BitVec.zero_xor] using hboth
  rw [← htop, ← htop', hc, hsame]

/-! ### One wrong symbol -/

/-- **Where no symbol and no register is lost, one wrong symbol is never made up for.** -/
theorem foldl_set_injective {σ α : Type} {f : σ → α → σ}
    (hregister : ∀ a, Function.Injective fun s => f s a) (hsymbol : ∀ s, Function.Injective (f s))
    {l : List α} {i : Nat} (hi : i < l.length) {a : α} {s : σ}
    (h : (l.set i a).foldl f s = l.foldl f s) : a = l[i] := by
  have hfold : ∀ l : List α, Function.Injective fun s => l.foldl f s := by
    intro l
    induction l with
    | nil => exact fun _ _ h => h
    | cons b l ih => exact fun _ _ h => hregister b (ih h)
  induction l generalizing i s with
  | nil => exact absurd hi (Nat.not_lt_zero i)
  | cons b l ih =>
      cases i with
      | zero => exact hsymbol s (hfold l h)
      | succ i => exact ih (Nat.lt_of_succ_lt_succ hi) h

/-! ### Bytes -/

/-- A byte at the top of the register. -/
def atTop (b : BitVec 8) : BitVec w := b.setWidth w <<< (w - 8)

/-- The bits of a byte, most significant first. -/
def byteBits (b : BitVec 8) : List Bool := (List.range 8).map b.getMsbD

/-- The register's top byte. -/
def topByte (x : BitVec w) : BitVec 8 := (x >>> (w - 8)).setWidth 8

theorem atTop_xor (a b : BitVec 8) : (atTop (a ^^^ b) : BitVec w) = atTop a ^^^ atTop b := by
  rw [atTop, BitVec.setWidth_xor, BitVec.shiftLeft_xor_distrib]
  rfl

theorem atTop_shiftLeft (hw : 8 ≤ w) (b : BitVec 8) : (atTop b : BitVec w) <<< 8 = 0#w := by
  rw [atTop, ← BitVec.shiftLeft_add, Nat.sub_add_cancel hw]
  refine BitVec.eq_of_getLsbD_eq fun i hi => ?_
  simp [hi]

theorem topBits_atTop (hw : 8 ≤ w) (b : BitVec 8) :
    topBits (atTop b : BitVec w) 8 = byteBits b := by
  refine List.map_congr_left fun k hk => ?_
  have hk8 : k < 8 := List.mem_range.mp hk
  rw [BitVec.msb_eq_getLsbD_last, atTop, BitVec.getLsbD_shiftLeft, BitVec.getLsbD_shiftLeft,
    BitVec.getLsbD_setWidth, BitVec.getMsbD]
  rw [show w - 1 - k - (w - 8) = 8 - 1 - k by omega]
  simp [show w - 1 < w by omega, show ¬ w - 1 < k by omega, show w - 1 - k < w by omega,
    show ¬ w - 1 - k < w - 8 by omega, hk8, show 7 - k < w by omega]

/-- What is left of a register without its top byte. -/
def lowPart (x : BitVec w) : BitVec w := (x <<< 8) >>> 8

theorem lowPart_shiftLeft (x : BitVec w) : lowPart x <<< 8 = x <<< 8 := by
  refine BitVec.eq_of_getLsbD_eq fun i hi => ?_
  simp only [lowPart, BitVec.getLsbD_shiftLeft, BitVec.getLsbD_ushiftRight, hi, decide_true,
    Bool.true_and]
  by_cases h : i < 8
  · simp [h]
  · rw [show 8 + (i - 8) = i by omega]
    simp [h, hi]

theorem lowPart_msb (x : BitVec w) {k : Nat} (hk : k < 8) : (lowPart x <<< k).msb = false := by
  rw [BitVec.msb_eq_getLsbD_last]
  simp only [lowPart, BitVec.getLsbD_shiftLeft, BitVec.getLsbD_ushiftRight]
  by_cases h : 8 + (w - 1 - k) < w
  · omega
  · simp [h]

theorem atTop_xor_lowPart (hw : 8 ≤ w) (x : BitVec w) : atTop (topByte x) ^^^ lowPart x = x := by
  refine BitVec.eq_of_getLsbD_eq fun i hi => ?_
  simp only [atTop, topByte, lowPart, BitVec.getLsbD_xor, BitVec.getLsbD_shiftLeft,
    BitVec.getLsbD_setWidth, BitVec.getLsbD_ushiftRight, hi, decide_true, Bool.true_and]
  by_cases h : i < w - 8
  · simp [h, show 8 + i < w by omega]
  · simp [h, show ¬ 8 + i < w by omega, show i - (w - 8) < w by omega,
      show i - (w - 8) < 8 by omega, show w - 8 + (i - (w - 8)) = i by omega]

/-- **One byte of the message is one look-up in the table of the top byte.** -/
theorem feedByte_eq_table (hw : 8 ≤ w) (x : BitVec w) (b : BitVec 8) :
    (byteBits b).foldl (feedBit poly) x =
      (step poly)^[8] (atTop (topByte x ^^^ b)) ^^^ (x <<< 8) := by
  rw [← topBits_atTop hw]
  have hserial := foldl_feedBit poly 8 x (atTop b)
  have hsplit : x ^^^ atTop b = atTop (topByte x ^^^ b) ^^^ lowPart x := by
    rw [atTop_xor, BitVec.xor_assoc, BitVec.xor_comm (atTop b), ← BitVec.xor_assoc,
      atTop_xor_lowPart hw]
  have hlow : (step poly)^[8] (lowPart x) = x <<< 8 := by
    rw [iterate_step_of_low poly fun k hk => lowPart_msb x hk, lowPart_shiftLeft]
  rw [atTop_shiftLeft hw, BitVec.xor_zero] at hserial
  rw [hserial, hsplit, iterate_step_xor, hlow]

end Crc
