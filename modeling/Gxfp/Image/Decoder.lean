/-
The image decoders of `src/algo/image/decoder.c`.

Both packed layouts put four 12-bit samples into six bytes, and differ in what
order the samples come and what stands between the groups.  The Milan decoder works
column by column, with a short group and padding at the end of each; the Chicago
decoder takes one run of groups and computes where each sample goes.

The loops are modelled as the sources have them, with their indices and the array
they fill.  `decodeMilan_eq` and `decodeChicago_eq` say what every pixel of the
result is, in terms of the bytes of the payload alone.  An allocation does not fail
here, and a dimension is a `Nat`, where the sources reject a negative one.
-/
import Gxfp.Library.Bytes
import Gxfp.Library.Blocks
import Gxfp.Errno

namespace Gxfp

open Bytes Blocks

/-! ### The functions of `decoder.c` -/

/-- `struct gxfp_decoded_image` -/
structure DecodedImage where
  pixels : List UInt16
  rows : Nat
  cols : Nat
  deriving DecidableEq, Repr

/-- The sample `((lo & 0x0F) << 8) | byte`. -/
def lowSample (lo byte : UInt8) : UInt16 := ((lo &&& 0x0F).toUInt16 <<< 8) ||| byte.toUInt16

/-- The sample `(byte << 4) | (hi >> 4)`. -/
def highSample (byte hi : UInt8) : UInt16 := (byte.toUInt16 <<< 4) ||| (hi >>> 4).toUInt16

/-- `unpack_sample4` on the six bytes from `i` on. -/
def unpackSample4 (l : List UInt8) (i : Nat) : List UInt16 :=
  [lowSample (byteAt l i) (byteAt l (i + 1)),
    highSample (byteAt l (i + 3)) (byteAt l i),
    lowSample (byteAt l (i + 5)) (byteAt l (i + 2)),
    highSample (byteAt l (i + 4)) (byteAt l (i + 5))]

/-- The two samples at the end of a column. -/
def unpackSample2 (l : List UInt8) (i : Nat) : List UInt16 :=
  [lowSample (byteAt l i) (byteAt l (i + 1)), highSample (byteAt l (i + 3)) (byteAt l i)]

/-- The loop of `gxfp_decode_milan`: `out_i` and the column-major array. -/
def milanUnpack (rows total : Nat) (pu : List UInt8) (inI outI : Nat) (colMajor : List UInt16) :
    Nat × List UInt16 :=
  if inI < pu.length ∧ outI < total then
    if outI % rows + 2 = rows then
      if pu.length < inI + 4 then (outI, colMajor)
      else milanUnpack rows total pu (inI + 4) (outI + 2)
        (writeAt colMajor outI (unpackSample2 pu inI))
    else if pu.length < inI + 6 then (outI, colMajor)
    else milanUnpack rows total pu (inI + 6) (outI + 4)
      (writeAt colMajor outI (unpackSample4 pu inI))
  else (outI, colMajor)
termination_by pu.length - inI

/-- `gxfp_decode_milan` -/
def decodeMilan (payload : List UInt8) (rows cols : Nat) : Except Errno DecodedImage :=
  if rows = 0 ∨ cols = 0 then .error .inval
  else
    let stride := (rows + 2) * 3 / 2
    let takePerBlock := rows * 3 / 2 + 1
    if payload.length < stride * cols then .error .inval
    else
      let pu := (List.range cols).flatMap fun c => (payload.drop (c * stride)).take takePerBlock
      let total := rows * cols
      let (outI, colMajor) := milanUnpack rows total pu 0 0 (List.replicate total 0)
      if outI ≠ total then .error .io
      else .ok
        { pixels := (List.range rows).flatMap fun r =>
            (List.range cols).map fun c => colMajor.getD (c * rows + r) 0
          rows, cols }

/-- Where `gxfp_decode_chicago` puts sample `i`. -/
def chicagoDst (rows cols : Nat) (transpose : Bool) (i : Nat) : Nat :=
  if transpose then i % rows * cols + i / rows else i

/-- The inner loop of `gxfp_decode_chicago`: the samples of one group, from `i` on. -/
def chicagoPut (rows cols : Nat) (transpose : Bool) (i : Nat) :
    List UInt16 → List UInt16 → List UInt16
  | [], pixels => pixels
  | s :: samples, pixels =>
    let dst := chicagoDst rows cols transpose i
    chicagoPut rows cols transpose (i + 1) samples
      (if dst < rows * cols then pixels.set dst s else pixels)

/-- The outer loop of `gxfp_decode_chicago`: `out_idx` and the pixels. -/
def chicagoLoop (payload : List UInt8) (rows cols : Nat) (transpose : Bool) (inOff outIdx : Nat)
    (pixels : List UInt16) : Nat × List UInt16 :=
  if inOff + 6 ≤ payload.length then
    chicagoLoop payload rows cols transpose (inOff + 6) (outIdx + 4)
      (chicagoPut rows cols transpose outIdx (unpackSample4 payload inOff) pixels)
  else (outIdx, pixels)
termination_by payload.length - inOff

/-- `gxfp_decode_chicago` -/
def decodeChicago (payload : List UInt8) (rows cols : Nat) (isU16le : Bool) :
    Except Errno DecodedImage :=
  if rows = 0 ∨ cols = 0 then .error .inval
  else
    let total := rows * cols
    if isU16le then
      if payload.length < total * 2 then .error .inval
      else .ok { pixels := (List.range total).map fun i => le16At payload (i * 2), rows, cols }
    else if payload.length < 6 then .error .inval
    else
      let transpose := payload.length != 0x960
      let (outIdx, pixels) :=
        chicagoLoop payload rows cols transpose 0 0 (List.replicate total 0)
      if outIdx ≠ total then .error .io else .ok { pixels, rows, cols }

/-- `enum gxfp_decode_mode`, `GXFP_DECODE_AUTO` apart. -/
inductive DecodeMode
  | milangRaw
  | milangNav
  | chicagohRaw
  | chicagohNav
  | chicagohRawU16le
  | chicagohNavU16le
  deriving DecidableEq, Repr

/-- The table of `gxfp_decode_auto_detect`: modes with their packed lengths. -/
def autoModes : List (DecodeMode × Nat) :=
  [(.milangRaw, 0x39C0), (.milangNav, 0x0540), (.chicagohRaw, 0x1E00), (.chicagohNav, 0x0960),
    (.chicagohRawU16le, 0x2800), (.chicagohNavU16le, 0x0C80)]

/-- One turn of the loop of `gxfp_decode_auto_detect`. -/
def autoDetectMode (buf : List UInt8) (mode : DecodeMode) (pl : Nat) :
    Option (DecodeMode × List UInt8) :=
  if buf.length = pl then some (mode, buf)
  else if buf.length = pl + 4 then some (mode, buf.take pl)
  else if buf.length = 5 + pl then some (mode, (buf.drop 5).take pl)
  else if buf.length = 5 + pl + 4 then some (mode, (buf.drop 5).take pl)
  else none

/-- `gxfp_decode_auto_detect` -/
def decodeAutoDetect (buf : List UInt8) : Except Errno (DecodeMode × List UInt8) :=
  match autoModes.findSome? fun m => autoDetectMode buf m.1 m.2 with
  | some res => .ok res
  | none => .error .noent

/-- `gxfp_decode_image` for a mode that is not `GXFP_DECODE_AUTO`. -/
def decodeImageMode (buf : List UInt8) : DecodeMode → Except Errno DecodedImage
  | .milangRaw => decodeMilan buf 0x36 0xB0
  | .milangNav => decodeMilan buf 0x36 0x10
  | .chicagohRaw => decodeChicago buf 0x40 0x50 false
  | .chicagohNav => decodeChicago buf 0x40 0x19 false
  | .chicagohRawU16le => decodeChicago buf 0x40 0x50 true
  | .chicagohNavU16le => decodeChicago buf 0x40 0x19 true

/-- `gxfp_decode_image` with `GXFP_DECODE_AUTO` -/
def decodeImageAuto (buf : List UInt8) : Except Errno DecodedImage :=
  match decodeAutoDetect buf with
  | .error e => .error e
  | .ok (mode, payload) => decodeImageMode payload mode

/-! ### The Milan loop -/

/-- Sample `r` of column `c`, out of columns of `k` groups, a short one and no padding. -/
def milanSample (pu : List UInt8) (k c r : Nat) : UInt16 :=
  (unpackSample4 pu (c * (6 * k + 4) + 6 * (r / 4))).getD (r % 4) 0

/-- What the loop has reached: group `g` of column `c`, with all samples before it right. -/
structure MilanInv (k cols : Nat) (pu : List UInt8) (c g inI outI : Nat) (col : List UInt16) :
    Prop where
  group : g ≤ k
  column : c < cols ∨ (c = cols ∧ g = 0)
  inI_eq : inI = c * (6 * k + 4) + 6 * g
  outI_eq : outI = c * (4 * k + 2) + 4 * g
  size : col.length = (4 * k + 2) * cols
  done : ∀ p < outI, col.getD p 0 = milanSample pu k (p / (4 * k + 2)) (p % (4 * k + 2))

section Milan

variable {k cols : Nat} {pu : List UInt8} {c g inI outI : Nat} {col : List UInt16}

/-- A position in a column is its column and its row. -/
theorem column_index {c r n p : Nat} (hr : r < n) (hp : p = c * n + r) : p / n = c ∧ p % n = r := by
  subst hp
  have hn : 0 < n := by omega
  rw [Nat.mul_comm c n, Nat.mul_add_div hn, Nat.mul_add_mod, Nat.mod_eq_of_lt hr,
    Nat.div_eq_of_lt hr]
  exact ⟨rfl, rfl⟩

/-- Writing samples that are right for the rows from `4 * g` on. -/
theorem MilanInv.write (h : MilanInv k cols pu c g inI outI col) (hc : c < cols)
    {samples : List UInt16} (hlen : 4 * g + samples.length ≤ 4 * k + 2) (hfour : samples.length ≤ 4)
    (hsamples : ∀ j < samples.length, samples.getD j 0 = (unpackSample4 pu inI).getD j 0) :
    ∀ p < outI + samples.length, (writeAt col outI samples).getD p 0 =
      milanSample pu k (p / (4 * k + 2)) (p % (4 * k + 2)) := by
  have hmul : (c + 1) * (4 * k + 2) ≤ cols * (4 * k + 2) := Nat.mul_le_mul_right _ hc
  have hsize := h.size
  have houtI := h.outI_eq
  rw [Nat.succ_mul c] at hmul
  rw [Nat.mul_comm] at hsize
  intro p hp
  by_cases hbefore : p < outI
  · rw [getD_writeAt_lt col hbefore]
    exact h.done p hbefore
  · obtain ⟨j, rfl⟩ : ∃ j, p = outI + j := ⟨p - outI, by omega⟩
    have hj : j < samples.length := by omega
    have hpos : outI + j = c * (4 * k + 2) + (4 * g + j) := by omega
    obtain ⟨hcol, hrow⟩ := column_index (show 4 * g + j < 4 * k + 2 by omega) hpos
    rw [getD_writeAt (by omega) hj, hsamples j hj, hcol, hrow, milanSample, h.inI_eq,
      show (4 * g + j) / 4 = g by omega, show (4 * g + j) % 4 = j by omega]

/-- **One full group.** -/
theorem MilanInv.group_step (h : MilanInv k cols pu c g inI outI col) (hc : c < cols) (hg : g < k) :
    MilanInv k cols pu c (g + 1) (inI + 6) (outI + 4)
      (writeAt col outI (unpackSample4 pu inI)) := by
  have hroom : 4 * g + (unpackSample4 pu inI).length ≤ 4 * k + 2 := by
    show 4 * g + 4 ≤ 4 * k + 2
    omega
  have hwrite := h.write hc hroom (Nat.le_refl 4) fun _ _ => rfl
  constructor
  case group => omega
  case column => exact Or.inl hc
  case inI_eq => rw [h.inI_eq]; omega
  case outI_eq => rw [h.outI_eq]; omega
  case size => rw [length_writeAt, h.size]
  case done => exact hwrite

/-- **The short group at the end of a column.** -/
theorem MilanInv.tail_step (h : MilanInv k cols pu c k inI outI col) (hc : c < cols) :
    MilanInv k cols pu (c + 1) 0 (inI + 4) (outI + 2)
      (writeAt col outI (unpackSample2 pu inI)) := by
  have hshort : ∀ j < (unpackSample2 pu inI).length,
      (unpackSample2 pu inI).getD j 0 = (unpackSample4 pu inI).getD j 0 := by
    intro j hj
    match j, hj with
    | 0, _ => rfl
    | 1, _ => rfl
  have hroom : 4 * k + (unpackSample2 pu inI).length ≤ 4 * k + 2 := Nat.le_refl (4 * k + 2)
  have hwrite := h.write hc hroom (show 2 ≤ 4 by omega) hshort
  constructor
  case group => omega
  case column => omega
  case inI_eq => rw [h.inI_eq, Nat.succ_mul c]; omega
  case outI_eq => rw [h.outI_eq, Nat.succ_mul c]; omega
  case size => rw [length_writeAt, h.size]
  case done => exact hwrite

/-- **The loop fills the whole array.** -/
theorem milanUnpack_run (hpu : pu.length = cols * (6 * k + 4))
    (h : MilanInv k cols pu c g inI outI col) :
    ∃ col', milanUnpack (4 * k + 2) ((4 * k + 2) * cols) pu inI outI col
        = ((4 * k + 2) * cols, col') ∧ col'.length = (4 * k + 2) * cols ∧
      ∀ p < (4 * k + 2) * cols,
        col'.getD p 0 = milanSample pu k (p / (4 * k + 2)) (p % (4 * k + 2)) := by
  have hinI := h.inI_eq
  have houtI := h.outI_eq
  have hgroup := h.group
  induction hn : (4 * k + 2) * cols - outI using Nat.strongRecOn
    generalizing c g inI outI col with
  | ind n ih =>
  rcases h.column with hc | ⟨hlast, hzero⟩
  · have hmulOut : (c + 1) * (4 * k + 2) ≤ cols * (4 * k + 2) := Nat.mul_le_mul_right _ hc
    have hmulIn : (c + 1) * (6 * k + 4) ≤ cols * (6 * k + 4) := Nat.mul_le_mul_right _ hc
    rw [Nat.succ_mul c] at hmulOut hmulIn
    rw [Nat.mul_comm cols] at hmulOut
    have hrow : outI % (4 * k + 2) = 4 * g :=
      (column_index (show 4 * g < 4 * k + 2 by omega) houtI).2
    rw [milanUnpack, if_pos ⟨by omega, by omega⟩, hrow]
    by_cases hg : g < k
    · have hstep := h.group_step hc hg
      rw [if_neg (by omega), if_neg (by omega)]
      exact ih _ (by omega) hstep hstep.inI_eq hstep.outI_eq hstep.group rfl
    · have hk : g = k := by omega
      subst hk
      have hstep := h.tail_step hc
      rw [if_pos (by omega), if_neg (by omega)]
      exact ih _ (by omega) hstep hstep.inI_eq hstep.outI_eq hstep.group rfl
  · have htotal : outI = (4 * k + 2) * cols := by
      rw [houtI, hlast, hzero, Nat.mul_comm]
      rfl
    rw [milanUnpack, if_neg (by omega), ← htotal]
    exact ⟨col, rfl, htotal ▸ h.size, h.done⟩

/-! ### The Milan decoder -/

/-- Pixel `(r, c)` as the payload has it: columns of `k` groups, a short one and two bytes more. -/
def milanPixel (payload : List UInt8) (k r c : Nat) : UInt16 :=
  (unpackSample4 payload (c * (6 * k + 6) + 6 * (r / 4))).getD (r % 4) 0

theorem unpackSample4_congr {l l' : List UInt8} {i i' : Nat}
    (h : ∀ t < 6, byteAt l (i + t) = byteAt l' (i' + t)) :
    unpackSample4 l i = unpackSample4 l' i' := by
  have h0 : byteAt l i = byteAt l' i' := h 0 (by omega)
  rw [unpackSample4, unpackSample4, h0, h 1 (by omega), h 2 (by omega), h 3 (by omega),
    h 4 (by omega), h 5 (by omega)]

/-- The first two samples of a group do not use its last two bytes. -/
theorem unpackSample4_congr_short {l l' : List UInt8} {i i' j : Nat} (hj : j < 2)
    (h : ∀ t < 4, byteAt l (i + t) = byteAt l' (i' + t)) :
    (unpackSample4 l i).getD j 0 = (unpackSample4 l' i').getD j 0 := by
  have h0 : byteAt l i = byteAt l' i' := h 0 (by omega)
  have hshort : unpackSample2 l i = unpackSample2 l' i' := by
    rw [unpackSample2, unpackSample2, h0, h 1 (by omega), h 3 (by omega)]
  have hcell : ∀ j, (unpackSample2 l i).getD j 0 = (unpackSample2 l' i').getD j 0 := by
    intro j
    rw [hshort]
  match j, hj with
  | 0, _ => exact hcell 0
  | 1, _ => exact hcell 1

/-- What the decoder copies out of the payload: every column without its padding. -/
theorem milanBlocks_eq {payload : List UInt8} (hlen : (6 * k + 6) * cols ≤ payload.length) :
    ((List.range cols).flatMap fun c => (payload.drop (c * (6 * k + 6))).take (6 * k + 4)) =
      blocks cols (6 * k + 4) fun c t => byteAt payload (c * (6 * k + 6) + t) := by
  have hcolumn : ∀ c ∈ List.range cols, (payload.drop (c * (6 * k + 6))).take (6 * k + 4) =
      (List.range (6 * k + 4)).map fun t => byteAt payload (c * (6 * k + 6) + t) := by
    intro c hc
    have hmul : (c + 1) * (6 * k + 6) ≤ cols * (6 * k + 6) :=
      Nat.mul_le_mul_right _ (List.mem_range.mp hc)
    rw [Nat.succ_mul c, Nat.mul_comm cols] at hmul
    refine List.ext_getElem ?_ ?_
    · rw [List.length_take, List.length_drop, List.length_map, List.length_range]
      omega
    · intro t ht ht'
      rw [List.length_map, List.length_range] at ht'
      rw [List.getElem_take, List.getElem_drop, List.getElem_map, List.getElem_range, byteAt,
        List.getD_eq_getElem _ _ (by omega)]
  exact congrArg List.flatten (List.map_congr_left hcolumn)

/-- **The Milan decoder puts every sample where it belongs.** -/
theorem decodeMilan_eq {payload : List UInt8} (hcols : 0 < cols)
    (hlen : (6 * k + 6) * cols ≤ payload.length) :
    decodeMilan payload (4 * k + 2) cols = .ok
      { pixels := blocks (4 * k + 2) cols fun r c => milanPixel payload k r c
        rows := 4 * k + 2
        cols := cols } := by
  have hstride : (4 * k + 2 + 2) * 3 / 2 = 6 * k + 6 := by omega
  have htake : (4 * k + 2) * 3 / 2 + 1 = 6 * k + 4 := by omega
  have hpu := milanBlocks_eq hlen
  generalize hpu' : blocks cols (6 * k + 4)
    (fun c t => byteAt payload (c * (6 * k + 6) + t)) = pu at hpu
  have hstart : MilanInv k cols pu 0 0 0 0 (List.replicate ((4 * k + 2) * cols) 0) := by
    refine ⟨Nat.zero_le k, Or.inl hcols, by omega, by omega, List.length_replicate, ?_⟩
    intro p hp
    exact absurd hp (Nat.not_lt_zero p)
  have hpulen : pu.length = cols * (6 * k + 4) := by rw [← hpu', length_blocks]
  obtain ⟨colMajor, hrun, -, hcells⟩ := milanUnpack_run hpulen hstart
  rw [decodeMilan, if_neg (by omega), hstride, htake]
  dsimp only
  rw [if_neg (Nat.not_lt.mpr hlen), hpu, hrun]
  dsimp only
  rw [if_neg (not_not.mpr rfl)]
  have hpixel : ∀ r < 4 * k + 2, ∀ c < cols,
      colMajor.getD (c * (4 * k + 2) + r) 0 = milanPixel payload k r c := by
    intro r hr c hc
    obtain ⟨hdiv, hmod⟩ := column_index hr (rfl : c * (4 * k + 2) + r = c * (4 * k + 2) + r)
    have hmul : (c + 1) * (4 * k + 2) ≤ cols * (4 * k + 2) := Nat.mul_le_mul_right _ hc
    rw [Nat.succ_mul c, Nat.mul_comm cols] at hmul
    have hbyte : ∀ t < 6 * k + 4,
        byteAt pu (c * (6 * k + 4) + t) = byteAt payload (c * (6 * k + 6) + t) := by
      intro t ht
      rw [← hpu']
      exact getD_blocks _ hc ht 0
    rw [hcells _ (by omega), hdiv, hmod, milanSample, milanPixel]
    by_cases hfull : r / 4 < k
    · have hsame : unpackSample4 pu (c * (6 * k + 4) + 6 * (r / 4)) =
          unpackSample4 payload (c * (6 * k + 6) + 6 * (r / 4)) := by
        refine unpackSample4_congr fun t ht => ?_
        rw [Nat.add_assoc, Nat.add_assoc]
        exact hbyte _ (by omega)
      rw [hsame]
    · refine unpackSample4_congr_short (by omega) fun t ht => ?_
      rw [Nat.add_assoc, Nat.add_assoc]
      exact hbyte _ (by omega)
  exact congrArg (fun pixels => Except.ok (DecodedImage.mk pixels (4 * k + 2) cols))
    (blocks_congr hpixel)

end Milan

/-! ### The Chicago decoder -/

section Chicago

variable {payload : List UInt8} {rows cols : Nat} {transpose : Bool}

/-- Sample `i` of a run of groups. -/
def packedSample (payload : List UInt8) (i : Nat) : UInt16 :=
  (unpackSample4 payload (6 * (i / 4))).getD (i % 4) 0

theorem chicagoDst_lt {i : Nat} (hi : i < rows * cols) :
    chicagoDst rows cols transpose i < rows * cols := by
  unfold chicagoDst
  split
  · obtain ⟨hcol, hrow, -⟩ := index_blocks (Nat.mul_comm rows cols ▸ hi)
    have hmul : (i % rows + 1) * cols ≤ rows * cols := Nat.mul_le_mul_right _ hrow
    rw [Nat.succ_mul] at hmul
    omega
  · exact hi

/-- **Different samples go to different pixels.** -/
theorem chicagoDst_inj {i j : Nat} (hi : i < rows * cols) (hj : j < rows * cols)
    (h : chicagoDst rows cols transpose i = chicagoDst rows cols transpose j) : i = j := by
  unfold chicagoDst at h
  split at h
  · obtain ⟨hcol, -, hindex⟩ := index_blocks (Nat.mul_comm rows cols ▸ hi)
    obtain ⟨hcol', -, hindex'⟩ := index_blocks (Nat.mul_comm rows cols ▸ hj)
    obtain ⟨hrow, hdiv⟩ := column_index hcol' h
    obtain ⟨hrow', hdiv'⟩ := column_index hcol (rfl : i % rows * cols + i / rows = _)
    rw [← hindex, ← hindex', ← hdiv, ← hrow, hdiv', hrow']
  · exact h

/-- What the loop has reached after `m` groups. -/
structure ChicagoInv (payload : List UInt8) (rows cols : Nat) (transpose : Bool) (i : Nat)
    (pixels : List UInt16) : Prop where
  size : pixels.length = rows * cols
  done : ∀ j < i, pixels.getD (chicagoDst rows cols transpose j) 0 = packedSample payload j

/-- **One sample.** -/
theorem ChicagoInv.put {i : Nat} {pixels : List UInt16}
    (h : ChicagoInv payload rows cols transpose i pixels) (hi : i < rows * cols) :
    ChicagoInv payload rows cols transpose (i + 1)
      (pixels.set (chicagoDst rows cols transpose i) (packedSample payload i)) := by
  constructor
  · rw [List.length_set, h.size]
  · intro j hj
    by_cases hlast : j = i
    · rw [hlast, getD_set_self (by rw [h.size]; exact chicagoDst_lt hi)]
    · have hlt : j < i := by omega
      rw [getD_set_ne _ fun heq => hlast (chicagoDst_inj (by omega) hi heq.symm)]
      exact h.done j hlt

/-- **One group.** -/
theorem ChicagoInv.puts {i : Nat} {samples pixels : List UInt16}
    (h : ChicagoInv payload rows cols transpose i pixels)
    (hroom : i + samples.length ≤ rows * cols)
    (hsamples : ∀ j < samples.length, samples.getD j 0 = packedSample payload (i + j)) :
    ChicagoInv payload rows cols transpose (i + samples.length)
      (chicagoPut rows cols transpose i samples pixels) := by
  induction samples generalizing i pixels with
  | nil => exact h
  | cons s samples ih =>
      rw [List.length_cons] at hroom hsamples ⊢
      have hi : i < rows * cols := by omega
      have hfirst : s = packedSample payload i := hsamples 0 (by omega)
      have hnext := h.put hi
      rw [← hfirst] at hnext
      rw [chicagoPut, if_pos (chicagoDst_lt hi), Nat.add_comm samples.length, ← Nat.add_assoc]
      refine ih hnext (by omega) ?_
      intro j hj
      rw [Nat.add_assoc, Nat.add_comm 1]
      exact hsamples (j + 1) (by omega)

/-- **The loop fills the whole array.** -/
theorem chicagoLoop_run {m n : Nat} (hgroups : payload.length / 6 = m + n)
    (htotal : 4 * (m + n) = rows * cols) {pixels : List UInt16}
    (h : ChicagoInv payload rows cols transpose (4 * m) pixels) :
    ∃ pixels', chicagoLoop payload rows cols transpose (6 * m) (4 * m) pixels
        = (rows * cols, pixels') ∧
      ChicagoInv payload rows cols transpose (rows * cols) pixels' := by
  induction n generalizing m pixels with
  | zero =>
      rw [chicagoLoop, if_neg (by omega), ← htotal]
      exact ⟨pixels, rfl, htotal ▸ h⟩
  | succ n ih =>
      have hsamples : ∀ j < (unpackSample4 payload (6 * m)).length,
          (unpackSample4 payload (6 * m)).getD j 0 = packedSample payload (4 * m + j) := by
        intro j hj
        have hj4 : j < 4 := hj
        rw [packedSample, show (4 * m + j) / 4 = m by omega, show (4 * m + j) % 4 = j by omega]
      have hroom : 4 * m + (unpackSample4 payload (6 * m)).length ≤ rows * cols := by
        show 4 * m + 4 ≤ rows * cols
        omega
      have hnext : ChicagoInv payload rows cols transpose (4 * (m + 1))
          (chicagoPut rows cols transpose (4 * m) (unpackSample4 payload (6 * m)) pixels) :=
        h.puts hroom hsamples
      have hgroups' : payload.length / 6 = m + 1 + n := by omega
      rw [chicagoLoop, if_pos (by omega)]
      exact ih hgroups' (by omega) hnext

/-- The index of the sample that belongs at `(r, c)`. -/
def chicagoIndex (rows cols : Nat) (transpose : Bool) (r c : Nat) : Nat :=
  if transpose then c * rows + r else r * cols + c

theorem chicagoDst_index {r c : Nat} (hr : r < rows) (hc : c < cols) :
    chicagoIndex rows cols transpose r c < rows * cols ∧
      chicagoDst rows cols transpose (chicagoIndex rows cols transpose r c) = r * cols + c := by
  unfold chicagoIndex chicagoDst
  split
  · obtain ⟨hdiv, hmod⟩ := column_index hr (rfl : c * rows + r = _)
    have hmul : (c + 1) * rows ≤ cols * rows := Nat.mul_le_mul_right _ hc
    rw [Nat.succ_mul, Nat.mul_comm cols] at hmul
    rw [hdiv, hmod]
    exact ⟨by omega, rfl⟩
  · have hmul : (r + 1) * cols ≤ rows * cols := Nat.mul_le_mul_right _ hr
    rw [Nat.succ_mul] at hmul
    exact ⟨by omega, rfl⟩

/-- **The Chicago decoder puts every packed sample where it belongs.** -/
theorem decodeChicago_packed_eq (hsix : 6 ≤ payload.length)
    (htotal : 4 * (payload.length / 6) = rows * cols) :
    decodeChicago payload rows cols false = .ok
      { pixels := blocks rows cols fun r c =>
          packedSample payload (chicagoIndex rows cols (payload.length != 0x960) r c)
        rows, cols } := by
  have hpos : 0 < rows * cols := by omega
  have hrows : rows ≠ 0 := by
    rintro rfl
    omega
  have hcols : cols ≠ 0 := by
    rintro rfl
    omega
  have hstart : ChicagoInv payload rows cols (payload.length != 0x960) (4 * 0)
      (List.replicate (rows * cols) 0) :=
    ⟨List.length_replicate, fun j hj => absurd hj (Nat.not_lt_zero j)⟩
  obtain ⟨pixels, hrun, hinv⟩ := chicagoLoop_run (Nat.zero_add _).symm (by omega) hstart
  rw [decodeChicago, if_neg (by tauto)]
  dsimp only
  rw [if_neg Bool.false_ne_true, if_neg (Nat.not_lt.mpr hsix), hrun]
  dsimp only
  rw [if_neg (not_not.mpr rfl)]
  have hcells : ∀ r < rows, ∀ c < cols, pixels.getD (r * cols + c) 0 =
      packedSample payload (chicagoIndex rows cols (payload.length != 0x960) r c) := by
    intro r hr c hc
    obtain ⟨hlt, hdst⟩ := chicagoDst_index hr hc
    rw [← hdst]
    exact hinv.done _ hlt
  rw [← eq_blocks 0 hinv.size hcells]

/-- **So it does with samples that are words already.** -/
theorem decodeChicago_u16le_eq (hrows : rows ≠ 0) (hcols : cols ≠ 0)
    (hlen : rows * cols * 2 ≤ payload.length) :
    decodeChicago payload rows cols true = .ok
      { pixels := blocks rows cols fun r c => le16At payload ((r * cols + c) * 2)
        rows, cols } := by
  rw [decodeChicago, if_neg (by tauto)]
  dsimp only
  rw [if_pos rfl, if_neg (Nat.not_lt.mpr hlen)]
  have hpixels : (List.range (rows * cols)).map (fun i => le16At payload (i * 2)) =
      blocks rows cols fun r c => le16At payload ((r * cols + c) * 2) := by
    refine eq_blocks (0 : UInt16) (by rw [List.length_map, List.length_range]) ?_
    intro r hr c hc
    have hmul : (r + 1) * cols ≤ rows * cols := Nat.mul_le_mul_right _ hr
    rw [Nat.succ_mul] at hmul
    rw [List.getD_eq_getElem?_getD, List.getElem?_map, List.getElem?_range (by omega)]
    rfl
  rw [hpixels]

end Chicago

end Gxfp
