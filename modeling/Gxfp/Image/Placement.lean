/-
Where the decoders put every sample.

The sources compute in `int`s, and the decoders are modelled once more with them: such a
decoder stops where an `int` overflows.

For the Milan layout the place of a sample is what `decodeMilan_eq` says, read pixel by
pixel: a pixel is one of the four samples of a group, or one of the two of the short
group, of the block of its own column, and no other byte of the payload matters to it.
No `int` overflows if the size of the image and that of its blocks fit one
(`decodeMilanInts_eq`).

For a packed Chicago payload it is the loop itself that has to be looked at.  The
loop writes before anything has compared the length with the size of the image, so a
payload of any length goes through it, with the indices of samples that no pixel is
there for.  The loop with the `int`s also stops where a write is outside the array.  None
of the places overflows, for any index (`chicagoDst_le`), and none of the writes is
outside.  What overflows is the offset: the test `in_off + 6 <= (int)payload_len`
is made once more behind the last group, and for the two longest payloads an `int`
can count that sum is no `int` any more.
-/
import Mathlib.Data.Set.Function
import Mathlib.Order.Interval.Set.Defs
import Gxfp.Image.RoundTrip

namespace Gxfp

open Bytes Blocks

/-! ### Ints -/

/-- `INT_MAX` -/
def intMax : Nat := 2147483647

/-- What an expression of type `int` gives, if it does not overflow. -/
def toInt (n : Nat) : Option Nat := if n ≤ intMax then some n else none

theorem toInt_of_le {n : Nat} (h : n ≤ intMax) : toInt n = some n := if_pos h

/-- Steps that all have a result have it together. -/
theorem mapM_of_forall {α β : Type} {f : α → Option β} {g : α → β} {l : List α}
    (h : ∀ x ∈ l, f x = some (g x)) : l.mapM f = some (l.map g) := by
  induction l with
  | nil => rfl
  | cons x l ih =>
      obtain ⟨hx, hl⟩ := List.forall_mem_cons.mp h
      rw [List.mapM_cons, hx, ih hl]
      rfl

/-! ### Milan -/

theorem toNat_lowSample_le (lo byte : UInt8) : (lowSample lo byte).toNat ≤ 4095 := by
  have hbyte : byte.toNat < 256 := byte.toNat_lt
  rw [toNat_lowSample]
  omega

theorem toNat_highSample_le (byte hi : UInt8) : (highSample byte hi).toNat ≤ 4095 := by
  have hbyte : byte.toNat < 256 := byte.toNat_lt
  have hhi : hi.toNat < 256 := hi.toNat_lt
  rw [toNat_highSample]
  omega

/-- A sample has 12 bits. -/
theorem unpackSample4_le (l : List UInt8) (i j : Nat) :
    ((unpackSample4 l i).getD j 0).toNat ≤ 4095 := by
  match j with
  | 0 => exact toNat_lowSample_le _ _
  | 1 => exact toNat_highSample_le _ _
  | 2 => exact toNat_lowSample_le _ _
  | 3 => exact toNat_highSample_le _ _
  | _ + 4 => exact Nat.zero_le 4095

/-- The bytes of column `c`: its groups, the short one, and the padding. -/
def milanBlock (k : Nat) (payload : List UInt8) (c : Nat) : List UInt8 :=
  (payload.drop (c * ((4 * k + 2 + 2) * 3 / 2))).take ((4 * k + 2 + 2) * 3 / 2)

/-- Where the samples of a payload are in the image. -/
structure MilanPlaced (k cols : Nat) (payload : List UInt8) (img : DecodedImage) : Prop where
  rows_eq : img.rows = 4 * k + 2
  cols_eq : img.cols = cols
  size : img.pixels.length = (4 * k + 2) * cols
  /-- A group gives four rows. -/
  group : ∀ c < cols, ∀ r < 4 * k, img.pixels.getD (r * cols + c) 0 =
    (unpackSample4 payload (c * ((4 * k + 2 + 2) * 3 / 2) + 6 * (r / 4))).getD (r % 4) 0
  /-- The last two rows are in bytes 0, 1 and 3 of the short group. -/
  tail_low : ∀ c < cols, img.pixels.getD (4 * k * cols + c) 0 =
    lowSample (byteAt payload (c * ((4 * k + 2 + 2) * 3 / 2) + 6 * k))
      (byteAt payload (c * ((4 * k + 2 + 2) * 3 / 2) + 6 * k + 1))
  tail_high : ∀ c < cols, img.pixels.getD ((4 * k + 1) * cols + c) 0 =
    highSample (byteAt payload (c * ((4 * k + 2 + 2) * 3 / 2) + 6 * k + 3))
      (byteAt payload (c * ((4 * k + 2 + 2) * 3 / 2) + 6 * k))
  twelve_bits : ∀ p ∈ img.pixels, p.toNat ≤ 4095

section Milan

variable {k cols : Nat} {payload : List UInt8}

/-- The bytes of a block are where the block begins. -/
theorem byteAt_milanBlock (c : Nat) {t : Nat} (ht : t < 6 * k + 6) :
    byteAt (milanBlock k payload c) t = byteAt payload (c * (6 * k + 6) + t) := by
  have hstride : (4 * k + 2 + 2) * 3 / 2 = 6 * k + 6 := by omega
  rw [milanBlock, hstride, byteAt, byteAt, List.getD_eq_getElem?_getD, List.getD_eq_getElem?_getD,
    List.getElem?_take_of_lt ht, List.getElem?_drop]

/-- **A pixel depends on the block of its column only.** -/
theorem milanPixel_block (c : Nat) {r : Nat} (hr : r < 4 * k + 2) :
    milanPixel payload k r c = milanPixel (milanBlock k payload c) k r 0 := by
  rw [milanPixel, milanPixel, Nat.zero_mul]
  have hsame : unpackSample4 payload (c * (6 * k + 6) + 6 * (r / 4)) =
      unpackSample4 (milanBlock k payload c) (0 + 6 * (r / 4)) := by
    refine unpackSample4_congr fun t ht => ?_
    rw [Nat.zero_add, byteAt_milanBlock c (by omega), Nat.add_assoc]
  rw [hsame]

theorem milanPlaced_blocks (payload : List UInt8) :
    MilanPlaced k cols payload
      { pixels := blocks (4 * k + 2) cols fun r c => milanPixel payload k r c
        rows := 4 * k + 2
        cols := cols } := by
  have hstride : (4 * k + 2 + 2) * 3 / 2 = 6 * k + 6 := by omega
  have hpixel : ∀ c < cols, ∀ r < 4 * k + 2,
      (blocks (4 * k + 2) cols fun r c => milanPixel payload k r c).getD (r * cols + c) 0 =
        milanPixel payload k r c :=
    fun c hc r hr => getD_blocks _ hr hc 0
  constructor
  case rows_eq => rfl
  case cols_eq => rfl
  case size => exact length_blocks _ _ _
  case group =>
    intro c hc r hr
    rw [hpixel c hc r (by omega), hstride]
    rfl
  case tail_low =>
    intro c hc
    rw [hpixel c hc _ (by omega), hstride, milanPixel, Nat.mul_div_cancel_left k (by omega),
      Nat.mul_mod_right]
    rfl
  case tail_high =>
    intro c hc
    rw [hpixel c hc _ (by omega), hstride, milanPixel, show (4 * k + 1) / 4 = k by omega,
      show (4 * k + 1) % 4 = 1 by omega]
    rfl
  case twelve_bits =>
    intro p hp
    obtain ⟨r, -, hrow⟩ := List.mem_flatMap.mp hp
    obtain ⟨c, -, rfl⟩ := List.mem_map.mp hrow
    exact unpackSample4_le _ _ _

/-- The loop of `gxfp_decode_milan`, with `out_i` for an `int`. -/
def milanUnpackInts (rows total : Nat) (pu : List UInt8) (inI outI : Nat)
    (colMajor : List UInt16) : Option (Nat × List UInt16) :=
  if inI < pu.length ∧ outI < total then
    if outI % rows + 2 = rows then
      if pu.length < inI + 4 then some (outI, colMajor)
      else do
        let outI' ← toInt (outI + 2)
        milanUnpackInts rows total pu (inI + 4) outI' (writeAt colMajor outI (unpackSample2 pu inI))
    else if pu.length < inI + 6 then some (outI, colMajor)
    else do
      let outI' ← toInt (outI + 4)
      milanUnpackInts rows total pu (inI + 6) outI' (writeAt colMajor outI (unpackSample4 pu inI))
  else some (outI, colMajor)
termination_by pu.length - inI

/-- The copies of `gxfp_decode_milan`, with their offsets. -/
def milanCopyInts (payload : List UInt8) (stride takePerBlock cols : Nat) :
    Option (List UInt8) := do
  let pieces ← (List.range cols).mapM fun c => do
    let src ← toInt (c * stride)
    let _ ← toInt (c * takePerBlock)
    some ((payload.drop src).take takePerBlock)
  some pieces.flatten

/-- The loop that transposes, with its indices. -/
def milanTransposeInts (colMajor : List UInt16) (rows cols : Nat) : Option (List UInt16) := do
  let pieces ← (List.range rows).mapM fun r => (List.range cols).mapM fun c => do
    let column ← toInt (c * rows)
    let i ← toInt (column + r)
    some (colMajor.getD i 0)
  some pieces.flatten

/-- `gxfp_decode_milan` in `int`s. -/
def decodeMilanInts (payload : List UInt8) (rows cols : Nat) :
    Option (Except Errno DecodedImage) :=
  if rows = 0 ∨ cols = 0 then some (.error .inval)
  else do
    let padded ← toInt (rows + 2)
    let stride := (← toInt (padded * 3)) / 2
    let takePerBlock ← toInt ((← toInt (rows * 3)) / 2 + 1)
    if payload.length < stride * cols then some (.error .inval)
    else do
      let pu ← milanCopyInts payload stride takePerBlock cols
      let total ← toInt (rows * cols)
      let (outI, colMajor) ← milanUnpackInts rows total pu 0 0 (List.replicate total 0)
      if outI ≠ total then some (.error .io)
      else do
        let pixels ← milanTransposeInts colMajor rows cols
        some (.ok { pixels, rows, cols })

/-- What an `int` has to hold: the size of the image, and that of its blocks. -/
structure MilanFits (k cols : Nat) : Prop where
  size : (4 * k + 2) * cols ≤ intMax
  stride : (4 * k + 2 + 2) * 3 ≤ intMax
  blocks : (4 * k + 2 + 2) * 3 / 2 * cols ≤ intMax

theorem milanUnpackInts_eq {pu : List UInt8} {c g inI outI : Nat} {col : List UInt16}
    (hpu : pu.length = cols * (6 * k + 4)) (h : MilanInv k cols pu c g inI outI col)
    (hsize : (4 * k + 2) * cols ≤ intMax) :
    milanUnpackInts (4 * k + 2) ((4 * k + 2) * cols) pu inI outI col =
      some (milanUnpack (4 * k + 2) ((4 * k + 2) * cols) pu inI outI col) := by
  have hinI := h.inI_eq
  have houtI := h.outI_eq
  have hgroup := h.group
  induction hn : (4 * k + 2) * cols - outI using Nat.strongRecOn
    generalizing c g inI outI col with
  | ind n ih =>
  rcases h.column with hc | ⟨hlast, hzero⟩
  · have hmulOut : (c + 1) * (4 * k + 2) ≤ cols * (4 * k + 2) := Nat.mul_le_mul_right _ hc
    have hmulIn : (c + 1) * (6 * k + 4) ≤ cols * (6 * k + 4) := Nat.mul_le_mul_right _ hc
    rw [Nat.succ_mul c] at hmulOut hmulIn
    rw [Nat.mul_comm cols] at hmulOut
    have hrow : outI % (4 * k + 2) = 4 * g :=
      (column_index (show 4 * g < 4 * k + 2 by omega) houtI).2
    have hin : inI < pu.length ∧ outI < (4 * k + 2) * cols := ⟨by omega, by omega⟩
    rw [milanUnpackInts, milanUnpack, if_pos hin, if_pos hin, hrow]
    by_cases hg : g < k
    · have hstep := h.group_step hc hg
      have hnot : ¬ 4 * g + 2 = 4 * k + 2 := by omega
      have hroom : ¬ pu.length < inI + 6 := by omega
      rw [if_neg hnot, if_neg hnot, if_neg hroom, if_neg hroom, toInt_of_le (by omega)]
      exact ih _ (by omega) hstep hstep.inI_eq hstep.outI_eq hstep.group rfl
    · have hk : g = k := by omega
      subst hk
      have hstep := h.tail_step hc
      have hroom : ¬ pu.length < inI + 4 := by omega
      rw [if_pos rfl, if_pos rfl, if_neg hroom, if_neg hroom, toInt_of_le (by omega)]
      exact ih _ (by omega) hstep hstep.inI_eq hstep.outI_eq hstep.group rfl
  · have hend : ¬ (inI < pu.length ∧ outI < (4 * k + 2) * cols) := by
      rw [houtI, hlast, hzero, Nat.mul_comm]
      omega
    rw [milanUnpackInts, milanUnpack, if_neg hend, if_neg hend]

theorem milanCopyInts_eq (hblocks : (6 * k + 6) * cols ≤ intMax) :
    milanCopyInts payload (6 * k + 6) (6 * k + 4) cols =
      some ((List.range cols).flatMap fun c =>
        (payload.drop (c * (6 * k + 6))).take (6 * k + 4)) := by
  unfold milanCopyInts
  rw [mapM_of_forall (g := fun c => (payload.drop (c * (6 * k + 6))).take (6 * k + 4))]
  · rw [List.flatMap_def]
    rfl
  · intro c hc
    have hmul : c * (6 * k + 6) ≤ cols * (6 * k + 6) :=
      Nat.mul_le_mul_right _ (Nat.le_of_lt (List.mem_range.mp hc))
    have hle : c * (6 * k + 4) ≤ c * (6 * k + 6) := Nat.mul_le_mul_left _ (by omega)
    rw [Nat.mul_comm cols] at hmul
    rw [toInt_of_le (by omega), Option.bind_eq_bind, Option.bind_some, toInt_of_le (by omega)]
    rfl

theorem milanTransposeInts_eq {rows : Nat} (colMajor : List UInt16)
    (hsize : rows * cols ≤ intMax) :
    milanTransposeInts colMajor rows cols =
      some ((List.range rows).flatMap fun r =>
        (List.range cols).map fun c => colMajor.getD (c * rows + r) 0) := by
  unfold milanTransposeInts
  rw [mapM_of_forall (g := fun r => (List.range cols).map fun c =>
    colMajor.getD (c * rows + r) 0)]
  · rw [List.flatMap_def]
    rfl
  · refine fun r hr => mapM_of_forall fun c hc => ?_
    have hmul : (c + 1) * rows ≤ cols * rows := Nat.mul_le_mul_right _ (List.mem_range.mp hc)
    rw [Nat.succ_mul c, Nat.mul_comm cols] at hmul
    rw [List.mem_range] at hr
    rw [toInt_of_le (by omega), Option.bind_eq_bind, Option.bind_some, toInt_of_le (by omega)]
    rfl

/-- **No `int` overflows** if the size of the image and that of its blocks fit one. -/
theorem decodeMilanInts_eq (hfits : MilanFits k cols) (hcols : 1 ≤ cols)
    (hlen : (4 * k + 2 + 2) * 3 / 2 * cols ≤ payload.length) :
    decodeMilanInts payload (4 * k + 2) cols = some (decodeMilan payload (4 * k + 2) cols) := by
  obtain ⟨hsize, hwide, hblocks⟩ := hfits
  have hstride : (4 * k + 2 + 2) * 3 / 2 = 6 * k + 6 := by omega
  have htake : (4 * k + 2) * 3 / 2 + 1 = 6 * k + 4 := by omega
  rw [hstride] at hblocks hlen
  have hstart (pu : List UInt8) : MilanInv k cols pu 0 0 0 0
      (List.replicate ((4 * k + 2) * cols) 0) :=
    ⟨Nat.zero_le k, Or.inl hcols, by omega, by omega, List.length_replicate,
      fun p hp => absurd hp (Nat.not_lt_zero p)⟩
  have hpulen : ((List.range cols).flatMap fun c =>
      (payload.drop (c * (6 * k + 6))).take (6 * k + 4)).length = cols * (6 * k + 4) := by
    rw [milanBlocks_eq hlen, length_blocks]
  obtain ⟨colMajor, hrun, -, -⟩ := milanUnpack_run hpulen (hstart _)
  have hints := milanUnpackInts_eq hpulen (hstart _) hsize
  have hzero : ¬ (4 * k + 2 = 0 ∨ cols = 0) := by omega
  have hlong : ¬ payload.length < (6 * k + 6) * cols := Nat.not_lt.mpr hlen
  simp only [decodeMilanInts, decodeMilan, if_neg hzero, Option.bind_eq_bind,
    toInt_of_le (show 4 * k + 2 + 2 ≤ intMax by omega), toInt_of_le hwide,
    toInt_of_le (show (4 * k + 2) * 3 ≤ intMax by omega), Option.bind_some, htake,
    toInt_of_le (show 6 * k + 4 ≤ intMax by omega), hstride, if_neg hlong, toInt_of_le hsize,
    milanCopyInts_eq hblocks, hints, hrun, milanTransposeInts_eq colMajor hsize]
  rw [if_neg (not_not.mpr rfl), if_neg (not_not.mpr rfl)]

/--
**The Milan decoder takes every pixel from its own column's block, and gives a packed
image back.**

If the sizes fit an `int`, it does so in `int`s.
-/
theorem decodeMilan_placed (hcols : 1 ≤ cols)
    (hlen : (4 * k + 2 + 2) * 3 / 2 * cols ≤ payload.length) :
    (∃ img, decodeMilan payload (4 * k + 2) cols = .ok img ∧ MilanPlaced k cols payload img ∧
      (∀ c < cols, ∀ payload', (4 * k + 2 + 2) * 3 / 2 * cols ≤ payload'.length →
        milanBlock k payload' c = milanBlock k payload c →
        ∃ img', decodeMilan payload' (4 * k + 2) cols = .ok img' ∧
          ∀ r < 4 * k + 2, img'.pixels.getD (r * cols + c) 0 = img.pixels.getD (r * cols + c) 0) ∧
      ∀ px : Nat → Nat → UInt16, (∀ r < 4 * k + 2, ∀ c < cols, (px r c).toNat < 4096) →
        ∀ fill, decodeMilan (packMilan k cols px fill) (4 * k + 2) cols = .ok
          { pixels := blocks (4 * k + 2) cols px, rows := 4 * k + 2, cols }) ∧
    (MilanFits k cols →
      decodeMilanInts payload (4 * k + 2) cols = some (decodeMilan payload (4 * k + 2) cols)) := by
  have hstride : (4 * k + 2 + 2) * 3 / 2 = 6 * k + 6 := by omega
  refine ⟨⟨_, decodeMilan_eq hcols (hstride ▸ hlen), milanPlaced_blocks payload, ?_, ?_⟩,
    fun hfits => decodeMilanInts_eq hfits hcols hlen⟩
  · intro c hc payload' hlen' hsame
    refine ⟨_, decodeMilan_eq hcols (hstride ▸ hlen'), fun r hr => ?_⟩
    dsimp only
    rw [getD_blocks _ hr hc, getD_blocks _ hr hc, milanPixel_block c hr, milanPixel_block c hr,
      hsame]
  · intro px hfit fill
    exact decodeMilan_pack hcols hfit fill

/-- A payload of three columns of six rows. -/
def milanRamp : List UInt8 := (List.range 36).map fun i => UInt8.ofNat (7 * i + 3)

/-- An image of that size. -/
def milanSlope (r c : Nat) : UInt16 := UInt16.ofNat (800 * r + 7 * c)

/-- The image of that payload, in `int`s too, and the packed image. -/
theorem decodeMilan_placed_columns :
    ∃ img, decodeMilan milanRamp 6 3 = .ok img ∧ MilanPlaced 1 3 milanRamp img ∧
      decodeMilanInts milanRamp 6 3 = some (.ok img) ∧
      decodeMilan (packMilan 1 3 milanSlope fun _ _ => 0xEE) 6 3 =
        .ok { pixels := blocks 6 3 milanSlope, rows := 6, cols := 3 } := by
  obtain ⟨⟨img, hrun, hplaced, -, hpack⟩, hints⟩ := @decodeMilan_placed 1 3 milanRamp (by decide)
    (by decide)
  have hfits : MilanFits 1 3 := ⟨by decide, by decide, by decide⟩
  have htwelve : ∀ r < 6, ∀ c < 3, (milanSlope r c).toNat < 4096 := by decide
  exact ⟨img, hrun, hplaced, (hints hfits).trans (congrArg some hrun), hpack _ htwelve _⟩

end Milan

/-! ### Chicago, in `int`s -/

/-- `dst` of `gxfp_decode_chicago`, for sample `i`. -/
def chicagoDstInts (rows cols : Nat) (transpose : Bool) (i : Nat) : Option Nat :=
  if transpose then do
    let row ← toInt (i % rows * cols)
    toInt (row + i / rows)
  else some i

/-- `if (dst < total) out_pixels[dst] = sample`, with the write checked. -/
def storePixel (total : Nat) (pixels : List UInt16) (dst : Nat) (sample : UInt16) :
    Option (List UInt16) :=
  if dst < total then
    if dst < pixels.length then some (pixels.set dst sample) else none
  else some pixels

/-- The inner loop of `gxfp_decode_chicago`, from sample `i` on. -/
def chicagoPutInts (rows cols : Nat) (transpose : Bool) (i : Nat) :
    List UInt16 → List UInt16 → Option (List UInt16)
  | [], pixels => some pixels
  | s :: samples, pixels => do
    let i ← toInt i
    let dst ← chicagoDstInts rows cols transpose i
    let pixels ← storePixel (rows * cols) pixels dst s
    chicagoPutInts rows cols transpose (i + 1) samples pixels

/-- The outer loop of `gxfp_decode_chicago`. -/
def chicagoLoopInts (payload : List UInt8) (rows cols : Nat) (transpose : Bool)
    (inOff outIdx : Nat) (pixels : List UInt16) : Option (Nat × List UInt16) :=
  -- The test of the loop computes `in_off + 6` as an `int`, also when it ends the loop.
  if inOff + 6 ≤ intMax then
    if inOff + 6 ≤ payload.length then do
      let pixels ← chicagoPutInts rows cols transpose outIdx (unpackSample4 payload inOff) pixels
      let outIdx ← toInt (outIdx + 4)
      chicagoLoopInts payload rows cols transpose (inOff + 6) outIdx pixels
    else some (outIdx, pixels)
  else none
termination_by payload.length - inOff

/--
`gxfp_decode_chicago` on packed samples, with what it leaves in `out`.  `calloc` is whether
there is memory for the pixels.
-/
def decodeChicagoInts (calloc : Bool) (payload : List UInt8) (rows cols : Nat)
    (out : DecodedImage) : Option (Except Errno Unit × DecodedImage) :=
  if rows = 0 ∨ cols = 0 then some (.error .inval, out)
  else do
    let total ← toInt (rows * cols)
    if payload.length < 6 then some (.error .inval, out)
    else if calloc then do
      let (outIdx, pixels) ← chicagoLoopInts payload rows cols (payload.length != 0x960) 0 0
        (List.replicate total 0)
      if outIdx ≠ total then some (.error .io, out) else some (.ok (), { pixels, rows, cols })
    else some (.error .nomem, out)

/-- What a call makes of an image, and of an error. -/
def leaveIn (out : DecodedImage) : Except Errno DecodedImage → Except Errno Unit × DecodedImage
  | .ok img => (.ok (), img)
  | .error e => (.error e, out)

/-- A packed payload fills every pixel once, or leaves what it finds. -/
structure ChicagoFills (payload : List UInt8) (rows cols : Nat) : Prop where
  /-- No `int` overflows and no write is outside the array. -/
  defined : ∀ calloc out, ∃ r, decodeChicagoInts calloc payload rows cols out = some r
  accepts : ∀ out, (∃ img, decodeChicagoInts true payload rows cols out = some (.ok (), img)) ↔
    6 ≤ payload.length ∧ 4 * (payload.length / 6) = rows * cols
  placed : ∀ calloc out img, decodeChicagoInts calloc payload rows cols out = some (.ok (), img) →
    img.rows = rows ∧ img.cols = cols ∧ img.pixels.length = rows * cols ∧
      ∀ i < rows * cols, img.pixels.getD
        (chicagoDst rows cols (payload.length != 0x960) i) 0 = packedSample payload i
  bijective : Set.BijOn (chicagoDst rows cols (payload.length != 0x960))
    (Set.Iio (rows * cols)) (Set.Iio (rows * cols))
  roundtrip : ∀ (n : Nat) (px : Nat → Nat → UInt16), 4 * n = rows * cols →
    (∀ r < rows, ∀ c < cols, (px r c).toNat < 4096) →
    (payload = packRun n fun i =>
      px (chicagoDst rows cols (payload.length != 0x960) i / cols)
        (chicagoDst rows cols (payload.length != 0x960) i % cols)) →
    ∀ out, decodeChicagoInts true payload rows cols out =
      some (.ok (), { pixels := blocks rows cols px, rows, cols })
  unchanged : ∀ calloc out e out',
    decodeChicagoInts calloc payload rows cols out = some (.error e, out') → out' = out

theorem leaveIn_ok {out img : DecodedImage} {r : Except Errno DecodedImage}
    (h : leaveIn out r = (.ok (), img)) : r = .ok img := by
  cases r with
  | error e => exact absurd (Prod.mk.inj h).1 (by simp)
  | ok img' => rw [(Prod.mk.inj h).2]

theorem leaveIn_error {out out' : DecodedImage} {e : Errno} {r : Except Errno DecodedImage}
    (h : leaveIn out r = (.error e, out')) : out' = out := by
  cases r with
  | error e' => exact (Prod.mk.inj h).2.symm
  | ok img => exact absurd (Prod.mk.inj h).1 (by simp)

section Chicago

variable {payload : List UInt8} {rows cols : Nat} {transpose : Bool}

/-- **No place overflows**, whatever the index: it is at most the index or the image's size. -/
theorem chicagoDst_le {i : Nat} (hrows : 0 < rows) (htotal : rows * cols ≤ intMax)
    (hi : i ≤ intMax) : i % rows * cols + i / rows ≤ intMax := by
  have hrow : i % rows < rows := Nat.mod_lt i hrows
  by_cases hcase : i / rows ≤ cols
  · have hmul : (i % rows + 1) * cols ≤ rows * cols := Nat.mul_le_mul_right _ hrow
    rw [Nat.succ_mul] at hmul
    omega
  · have hleft : i % rows * cols ≤ i % rows * (i / rows) := Nat.mul_le_mul_left _ (by omega)
    have hmul : (i % rows + 1) * (i / rows) ≤ rows * (i / rows) := Nat.mul_le_mul_right _ hrow
    have hdiv : rows * (i / rows) ≤ i := Nat.mul_div_le i rows
    rw [Nat.succ_mul] at hmul
    omega

theorem chicagoDstInts_eq {i : Nat} (hrows : 0 < rows) (htotal : rows * cols ≤ intMax)
    (hi : i ≤ intMax) :
    chicagoDstInts rows cols transpose i = some (chicagoDst rows cols transpose i) := by
  have hle := chicagoDst_le hrows htotal hi
  unfold chicagoDstInts chicagoDst
  split
  · rw [toInt_of_le (Nat.le_trans (Nat.le_add_right _ _) hle), Option.bind_eq_bind,
      Option.bind_some, toInt_of_le hle]
  · rfl

@[simp] theorem length_chicagoPut (i : Nat) (samples pixels : List UInt16) :
    (chicagoPut rows cols transpose i samples pixels).length = pixels.length := by
  induction samples generalizing i pixels with
  | nil => rfl
  | cons s samples ih =>
      rw [chicagoPut, ih]
      split
      · exact List.length_set
      · rfl

/-- **No sample is written outside the array**, wherever it is told to go. -/
theorem chicagoPutInts_eq {i : Nat} {samples pixels : List UInt16} (hrows : 0 < rows)
    (htotal : rows * cols ≤ intMax) (hsize : pixels.length = rows * cols)
    (hi : i + samples.length ≤ intMax) :
    chicagoPutInts rows cols transpose i samples pixels =
      some (chicagoPut rows cols transpose i samples pixels) := by
  induction samples generalizing i pixels with
  | nil => rfl
  | cons s samples ih =>
      rw [List.length_cons] at hi
      have hstore : storePixel (rows * cols) pixels (chicagoDst rows cols transpose i) s =
          some (if chicagoDst rows cols transpose i < rows * cols then
            pixels.set (chicagoDst rows cols transpose i) s else pixels) := by
        unfold storePixel
        by_cases hin : chicagoDst rows cols transpose i < rows * cols
        · rw [if_pos hin, if_pos hin, if_pos (by rwa [hsize])]
        · rw [if_neg hin, if_neg hin]
      have hlen : (if chicagoDst rows cols transpose i < rows * cols then
          pixels.set (chicagoDst rows cols transpose i) s else pixels).length = rows * cols := by
        split
        · rw [List.length_set, hsize]
        · exact hsize
      simp only [chicagoPutInts, Option.bind_eq_bind, toInt_of_le (show i ≤ intMax by omega),
        chicagoDstInts_eq hrows htotal (show i ≤ intMax by omega), Option.bind_some, hstore]
      rw [ih hlen (by omega), chicagoPut]

/-- **The loop runs to its end** where the offset behind the last group is an `int`. -/
theorem chicagoLoopInts_eq {m : Nat} {pixels : List UInt16} (hrows : 0 < rows)
    (htotal : rows * cols ≤ intMax) (hsize : pixels.length = rows * cols)
    (hlen : payload.length + 1 < intMax) (hm : 6 * m ≤ payload.length) :
    chicagoLoopInts payload rows cols transpose (6 * m) (4 * m) pixels =
      some (chicagoLoop payload rows cols transpose (6 * m) (4 * m) pixels) := by
  have hmax : intMax = 2147483647 := rfl
  have hoff : 6 * m + 6 ≤ intMax := by omega
  induction hn : payload.length - 6 * m using Nat.strongRecOn generalizing m pixels with
  | ind n ih =>
  rw [chicagoLoopInts, chicagoLoop, if_pos hoff]
  by_cases hnext : 6 * m + 6 ≤ payload.length
  · have hput : chicagoPutInts rows cols transpose (4 * m) (unpackSample4 payload (6 * m)) pixels =
        some (chicagoPut rows cols transpose (4 * m) (unpackSample4 payload (6 * m)) pixels) := by
      refine chicagoPutInts_eq hrows htotal hsize ?_
      show 4 * m + 4 ≤ intMax
      omega
    have hkept : (chicagoPut rows cols transpose (4 * m) (unpackSample4 payload (6 * m))
        pixels).length = rows * cols := by
      rw [length_chicagoPut, hsize]
    have hrest : chicagoLoopInts payload rows cols transpose (6 * (m + 1)) (4 * (m + 1))
        (chicagoPut rows cols transpose (4 * m) (unpackSample4 payload (6 * m)) pixels) = _ :=
      ih _ (by omega) hkept (by omega) (by omega) rfl
    rw [if_pos hnext, if_pos hnext, hput, toInt_of_le (by omega)]
    exact hrest
  · rw [if_neg hnext, if_neg hnext]

/-- **The two longest payloads**: the offset gets to `INT_MAX - 1`, and the test adds six. -/
theorem chicagoLoopInts_overflow {m : Nat} {pixels : List UInt16}
    (hlen : intMax ≤ payload.length + 1) (hm : 6 * m < intMax) (outIdx : Nat) :
    chicagoLoopInts payload rows cols transpose (6 * m) outIdx pixels = none := by
  have hmax : intMax = 2147483647 := rfl
  induction hn : intMax - 6 * m using Nat.strongRecOn generalizing m outIdx pixels with
  | ind n ih =>
  rw [chicagoLoopInts]
  by_cases hoff : 6 * m + 6 ≤ intMax
  · rw [if_pos hoff, if_pos (by omega), Option.bind_eq_bind, Option.bind_eq_none_iff]
    intro pixels' _
    rw [Option.bind_eq_bind, Option.bind_eq_none_iff]
    intro outIdx' _
    have hrest : chicagoLoopInts payload rows cols transpose (6 * (m + 1)) outIdx' pixels' = none :=
      ih _ (by omega) (by omega) outIdx' rfl
    exact hrest
  · rw [if_neg hoff]

/-- The loop counts four samples for each group there is. -/
theorem chicagoLoop_count {m : Nat} (hm : 6 * m ≤ payload.length) (pixels : List UInt16) :
    (chicagoLoop payload rows cols transpose (6 * m) (4 * m) pixels).1 =
      4 * (payload.length / 6) := by
  induction hn : payload.length - 6 * m using Nat.strongRecOn generalizing m pixels with
  | ind n ih =>
  rw [chicagoLoop]
  by_cases hnext : 6 * m + 6 ≤ payload.length
  · have hrest : ∀ pixels', (chicagoLoop payload rows cols transpose (6 * (m + 1)) (4 * (m + 1))
        pixels').1 = 4 * (payload.length / 6) :=
      fun pixels' => ih _ (by omega) (by omega) pixels' rfl
    rw [if_pos hnext]
    exact hrest _
  · rw [if_neg hnext]
    dsimp only
    omega

/-- **With memory for the pixels, the call is the decoder's.** -/
theorem decodeChicagoInts_eq (hrows : 1 ≤ rows) (hcols : 1 ≤ cols)
    (htotal : rows * cols ≤ intMax) (hlen : payload.length + 1 < intMax) (out : DecodedImage) :
    decodeChicagoInts true payload rows cols out =
      some (leaveIn out (decodeChicago payload rows cols false)) := by
  have hzero : ¬ (rows = 0 ∨ cols = 0) := by omega
  have hrun : chicagoLoopInts payload rows cols (payload.length != 0x960) 0 0
      (List.replicate (rows * cols) 0) = some (chicagoLoop payload rows cols
        (payload.length != 0x960) 0 0 (List.replicate (rows * cols) 0)) :=
    chicagoLoopInts_eq (m := 0) hrows htotal List.length_replicate hlen (Nat.zero_le _)
  rw [decodeChicagoInts, decodeChicago, if_neg hzero, if_neg hzero, toInt_of_le htotal]
  simp only [Option.bind_eq_bind, Option.bind_some, if_neg Bool.false_ne_true, if_true, hrun]
  by_cases hsix : payload.length < 6
  · rw [if_pos hsix, if_pos hsix]
    rfl
  · rw [if_neg hsix, if_neg hsix]
    split
    · rfl
    · rfl

/-- Without it the image is left as it is. -/
theorem decodeChicagoInts_nomem (hrows : 1 ≤ rows) (hcols : 1 ≤ cols)
    (htotal : rows * cols ≤ intMax) (out : DecodedImage) :
    ∃ e, decodeChicagoInts false payload rows cols out = some (leaveIn out (.error e)) := by
  rw [decodeChicagoInts, if_neg (by omega), toInt_of_le htotal]
  simp only [Option.bind_eq_bind, Option.bind_some, if_neg Bool.false_ne_true]
  split
  · exact ⟨_, rfl⟩
  · exact ⟨_, rfl⟩

/-- So every call is the decoder's, or leaves the image. -/
theorem decodeChicagoInts_cases (hrows : 1 ≤ rows) (hcols : 1 ≤ cols)
    (htotal : rows * cols ≤ intMax) (hlen : payload.length + 1 < intMax) (calloc : Bool)
    (out : DecodedImage) :
    ∃ r, decodeChicagoInts calloc payload rows cols out = some (leaveIn out r) ∧
      (r = decodeChicago payload rows cols false ∨ ∃ e, r = .error e) := by
  cases calloc with
  | true => exact ⟨_, decodeChicagoInts_eq hrows hcols htotal hlen out, Or.inl rfl⟩
  | false =>
      obtain ⟨e, he⟩ := decodeChicagoInts_nomem hrows hcols htotal out
      exact ⟨_, he, Or.inr ⟨e, rfl⟩⟩

/-- A payload that is too short, too long or none of whole groups is refused. -/
theorem decodeChicago_refused (hrows : 1 ≤ rows) (hcols : 1 ≤ cols)
    (h : ¬ (6 ≤ payload.length ∧ 4 * (payload.length / 6) = rows * cols)) :
    ∃ e, decodeChicago payload rows cols false = .error e := by
  rw [decodeChicago, if_neg (by omega)]
  simp only [if_neg Bool.false_ne_true]
  by_cases hsix : payload.length < 6
  · exact ⟨_, if_pos hsix⟩
  · have hcount : (chicagoLoop payload rows cols (payload.length != 0x960) 0 0
        (List.replicate (rows * cols) 0)).1 = 4 * (payload.length / 6) :=
      chicagoLoop_count (m := 0) (Nat.zero_le _) _
    rw [if_neg hsix, if_pos (by rw [hcount]; omega)]
    exact ⟨_, rfl⟩

/-- **The places of the samples are the pixels.** -/
theorem chicagoDst_bijOn :
    Set.BijOn (chicagoDst rows cols transpose) (Set.Iio (rows * cols)) (Set.Iio (rows * cols)) := by
  refine ⟨?_, ?_, ?_⟩
  · intro i hi
    exact chicagoDst_lt hi
  · intro i hi j hj h
    exact chicagoDst_inj hi hj h
  · intro p hp
    obtain ⟨hr, hc, hindex⟩ := index_blocks (show p < rows * cols from hp)
    obtain ⟨hlt, hdst⟩ := @chicagoDst_index rows cols transpose _ _ hr hc
    exact ⟨_, hlt, hdst.trans hindex⟩

/-- Sample `i` of an accepted payload is at its place. -/
theorem blocks_chicagoDst {i : Nat} (hi : i < rows * cols) :
    (blocks rows cols fun r c => packedSample payload (chicagoIndex rows cols transpose r c)).getD
      (chicagoDst rows cols transpose i) 0 = packedSample payload i := by
  obtain ⟨hr, hc, hindex⟩ := index_blocks (@chicagoDst_lt rows cols transpose _ hi)
  obtain ⟨hlt, hdst⟩ := @chicagoDst_index rows cols transpose _ _ hr hc
  have hsample := chicagoDst_inj hlt hi (hdst.trans hindex)
  have hcell := getD_blocks (fun r c => packedSample payload
    (chicagoIndex rows cols transpose r c)) hr hc 0
  rw [hindex] at hcell
  rw [hcell, hsample]

/-- Where the offset is no `int` any more, the call has no meaning. -/
theorem not_chicagoFills (hrows : 1 ≤ rows) (hcols : 1 ≤ cols) (htotal : rows * cols ≤ intMax)
    (hlong : intMax ≤ payload.length + 1) : ¬ ChicagoFills payload rows cols := by
  have hmax : intMax = 2147483647 := rfl
  intro h
  obtain ⟨r, hr⟩ := h.defined true { pixels := [], rows := 0, cols := 0 }
  have hloop : chicagoLoopInts payload rows cols (payload.length != 0x960) 0 0
      (List.replicate (rows * cols) 0) = none :=
    chicagoLoopInts_overflow (m := 0) hlong (by omega) 0
  rw [decodeChicagoInts, if_neg (by omega), toInt_of_le htotal] at hr
  simp only [Option.bind_eq_bind, Option.bind_some, if_true, hloop, Option.bind_none,
    if_neg (show ¬ payload.length < 6 by omega)] at hr
  exact absurd hr (Option.some_ne_none r).symm

/-- **An image that is packed with each sample at its pixel's place decodes to itself.** -/
theorem decodeChicago_packImage {n : Nat} {px : Nat → Nat → UInt16} (hrows : 1 ≤ rows)
    (hcols : 1 ≤ cols) (hn : 4 * n = rows * cols) (htranspose : (6 * n != 0x960) = transpose)
    (hfit : ∀ r < rows, ∀ c < cols, (px r c).toNat < 4096) :
    decodeChicago (packRun n fun i =>
        px (chicagoDst rows cols transpose i / cols) (chicagoDst rows cols transpose i % cols))
      rows cols false = .ok { pixels := blocks rows cols px, rows, cols } := by
  have hpos : 0 < rows * cols := Nat.mul_pos hrows hcols
  refine decodeChicago_pack (by omega) hn htranspose ?_ ?_
  · intro i hi
    obtain ⟨hr, hc, -⟩ := index_blocks (@chicagoDst_lt rows cols transpose _ (hn ▸ hi))
    exact hfit _ hr _ hc
  · intro r hr c hc
    obtain ⟨-, hdst⟩ := @chicagoDst_index rows cols transpose _ _ hr hc
    obtain ⟨hdiv, hmod⟩ := column_index hc hdst
    rw [hdiv, hmod]

/-- **Every other payload fills every pixel once, or nothing.** -/
theorem chicagoFills_of_lt (hrows : 1 ≤ rows) (hcols : 1 ≤ cols) (htotal : rows * cols ≤ intMax)
    (hshort : payload.length + 1 < intMax) : ChicagoFills payload rows cols := by
  have hcall := decodeChicagoInts_eq hrows hcols htotal hshort
  have hcases := decodeChicagoInts_cases hrows hcols htotal hshort
  have hok : ∀ img, decodeChicago payload rows cols false = .ok img →
      6 ≤ payload.length ∧ 4 * (payload.length / 6) = rows * cols := by
    intro img h
    by_contra haccept
    obtain ⟨e, he⟩ := decodeChicago_refused hrows hcols haccept
    rw [he] at h
    exact absurd h (by simp)
  constructor
  case defined =>
    intro calloc out
    obtain ⟨r, hr, -⟩ := hcases calloc out
    exact ⟨_, hr⟩
  case accepts =>
    intro out
    rw [hcall]
    constructor
    · rintro ⟨img, h⟩
      exact hok img (leaveIn_ok (Option.some.inj h))
    · intro haccept
      rw [decodeChicago_packed_eq haccept.1 haccept.2]
      exact ⟨_, rfl⟩
  case placed =>
    intro calloc out img h
    obtain ⟨r, hr, hwhich⟩ := hcases calloc out
    rw [hr] at h
    have himg := leaveIn_ok (Option.some.inj h)
    rcases hwhich with rfl | ⟨e, rfl⟩
    · have haccept := hok img himg
      rw [decodeChicago_packed_eq haccept.1 haccept.2] at himg
      obtain rfl := Except.ok.inj himg
      exact ⟨rfl, rfl, length_blocks _ _ _, fun i hi => blocks_chicagoDst hi⟩
    · exact absurd himg (by simp)
  case bijective => exact chicagoDst_bijOn
  case roundtrip =>
    intro n px hn hfit hpayload out
    have hsix : (6 * n != 0x960) = (payload.length != 0x960) := by
      rw [hpayload, length_packRun]
    rw [hcall]
    nth_rewrite 1 [hpayload]
    rw [decodeChicago_packImage hrows hcols hn hsix hfit]
    rfl
  case unchanged =>
    intro calloc out e out' h
    obtain ⟨r, hr, -⟩ := hcases calloc out
    rw [hr] at h
    exact leaveIn_error (Option.some.inj h)

/--
**A packed payload fills every pixel once or changes nothing, exactly where the offset
behind its last group is an `int`.**
-/
theorem chicagoFills_iff (hrows : 1 ≤ rows) (hcols : 1 ≤ cols) (htotal : rows * cols ≤ intMax)
    (hlen : payload.length ≤ intMax) :
    ChicagoFills payload rows cols ↔ payload.length < 2 ^ 31 - 2 := by
  have hmax : intMax = 2147483647 := rfl
  constructor
  · intro h
    by_contra hlong
    exact not_chicagoFills hrows hcols htotal (by omega) h
  · intro hshort
    exact chicagoFills_of_lt hrows hcols htotal (by omega)

/-- Two rows of two pixels. -/
theorem chicagoFills_iff_square :
    2 * 2 ≤ intMax ∧ (ChicagoFills [0x21, 0x43, 0x65, 0x87, 0xA9, 0xCB] 2 2 ↔
      [0x21, 0x43, 0x65, 0x87, 0xA9, (0xCB : UInt8)].length < 2 ^ 31 - 2) :=
  ⟨by decide, chicagoFills_iff (by decide) (by decide) (by decide) (by decide)⟩

/-- A payload of the right length for its image, two bytes short of `INT_MAX + 1`. -/
theorem chicagoFills_longest : ¬ ChicagoFills (List.replicate 2147483646 0) 4 357913941 := by
  have hlen := List.length_replicate (n := 2147483646) (a := (0 : UInt8))
  exact not_chicagoFills (by omega) (by omega) (by decide) (by rw [hlen]; decide)

end Chicago

end Gxfp
