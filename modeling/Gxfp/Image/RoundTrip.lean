/-
What the sensor encodes is what the image path decodes.

The layouts are written down here from the sensor's side: `packImage` says which
byte of a body carries which bits of which pixel, and leaves the bytes that a layout
does not use to `fill`.  A body is followed by its CRC, preceded by a five-byte
header, and travels as the payload of one Goodix frame among others.

The result composes three facts.  The scan finds the first normal image in a run of
frames; the length of a body, with its CRC still behind it, is enough to tell the
layout and where the samples end; and each decoder puts a sample where the layout
took it from.
-/
import Gxfp.Image.Plain
import Gxfp.Image.Decoder

namespace Gxfp

open Bytes Blocks

/-! ### The layouts -/

/-- Byte `t` of the six that hold the four samples `s`. -/
def packByte (s : Nat → UInt16) : Nat → UInt8
  | 0 => ((s 0).toNat / 256 + 16 * ((s 1).toNat % 16)).toUInt8
  | 1 => ((s 0).toNat % 256).toUInt8
  | 2 => ((s 2).toNat % 256).toUInt8
  | 3 => ((s 1).toNat / 16).toUInt8
  | 4 => ((s 3).toNat / 16).toUInt8
  | _ => ((s 2).toNat / 256 + 16 * ((s 3).toNat % 16)).toUInt8

/-- The two samples at the end of a column use bytes 0, 1 and 3 of their group. -/
def shortUses (t : Nat) : Bool := t == 0 || t == 1 || t == 3

/-- Columns of `k` groups, a short one, and two bytes of padding. -/
def packMilan (k cols : Nat) (px : Nat → Nat → UInt16) (fill : Nat → Nat → UInt8) : List UInt8 :=
  blocks cols (6 * k + 6) fun c t =>
    if t < 6 * k then packByte (fun j => px (4 * (t / 6) + j) c) (t % 6)
    else if shortUses (t - 6 * k) then packByte (fun j => px (4 * k + j) c) (t - 6 * k)
    else fill c t

/-- A run of `n` groups, of the samples `s`. -/
def packRun (n : Nat) (s : Nat → UInt16) : List UInt8 :=
  blocks n 6 fun g t => packByte (fun j => s (4 * g + j)) t

/-- A run of `n` little-endian words. -/
def packWords (n : Nat) (s : Nat → UInt16) : List UInt8 :=
  blocks n 2 fun i t => if t = 0 then loByte (s i).toNat else hiByte (s i).toNat

namespace DecodeMode

def rows : DecodeMode → Nat
  | milangRaw | milangNav => 0x36
  | _ => 0x40

def cols : DecodeMode → Nat
  | milangRaw => 0xB0
  | milangNav => 0x10
  | chicagohRaw | chicagohRawU16le => 0x50
  | chicagohNav | chicagohNavU16le => 0x19

def packedLen : DecodeMode → Nat
  | milangRaw => 0x39C0
  | milangNav => 0x0540
  | chicagohRaw => 0x1E00
  | chicagohNav => 0x0960
  | chicagohRawU16le => 0x2800
  | chicagohNavU16le => 0x0C80

/-- Whether samples have 12 bits only. -/
def packed : DecodeMode → Bool
  | chicagohRawU16le | chicagohNavU16le => false
  | _ => true

/-- The samples of an image fit its layout. -/
def Fits (mode : DecodeMode) (px : Nat → Nat → UInt16) : Prop :=
  mode.packed = true → ∀ r < mode.rows, ∀ c < mode.cols, (px r c).toNat < 4096

end DecodeMode

/-- The body the sensor makes of an image. -/
def packImage (px : Nat → Nat → UInt16) (fill : Nat → Nat → UInt8) : DecodeMode → List UInt8
  | .milangRaw => packMilan 13 0xB0 px fill
  | .milangNav => packMilan 13 0x10 px fill
  | .chicagohRaw => packRun (0x40 * 0x50 / 4) fun i => px (i % 0x40) (i / 0x40)
  | .chicagohNav => packRun (0x40 * 0x19 / 4) fun i => px (i / 0x19) (i % 0x19)
  | .chicagohRawU16le => packWords (0x40 * 0x50) fun i => px (i / 0x50) (i % 0x50)
  | .chicagohNavU16le => packWords (0x40 * 0x19) fun i => px (i / 0x19) (i % 0x19)

/-- A body with its CRC behind it. -/
def imageBody (packed : List UInt8) : List UInt8 :=
  packed ++ crcTrailer (UInt32.ofBitVec (crc32Mpeg2Serial packed))

/-! ### Groups -/

theorem toNat_lowSample (lo byte : UInt8) :
    (lowSample lo byte).toNat = 256 * (lo.toNat % 16) + byte.toNat := by
  have hmask : (lo &&& 0x0F).toNat = lo.toNat % 16 := by
    rw [UInt8.toNat_and]
    exact Nat.and_two_pow_sub_one_eq_mod lo.toNat 4
  have hle : lowSample lo byte = le16 byte (lo &&& 0x0F) := by
    rw [lowSample, le16, UInt16.or_comm]
  rw [hle, toNat_le16, hmask, Nat.add_comm]

theorem toNat_highSample (byte hi : UInt8) :
    (highSample byte hi).toNat = 16 * byte.toNat + hi.toNat / 16 := by
  have hbyte : byte.toNat < 256 := byte.toNat_lt
  have hhi : hi.toNat < 256 := hi.toNat_lt
  have hshift : (hi >>> 4).toNat = hi.toNat / 16 := by
    rw [UInt8.toNat_shiftRight]
    exact Nat.shiftRight_eq_div_pow hi.toNat 4
  have hleft : (byte.toUInt16 <<< 4).toNat = byte.toNat <<< 4 := by
    rw [UInt16.toNat_shiftLeft, UInt8.toNat_toUInt16]
    refine Nat.mod_eq_of_lt ?_
    rw [show UInt16.toNat 4 % 16 = 4 from rfl, Nat.shiftLeft_eq]
    omega
  rw [highSample, UInt16.toNat_or, hleft, UInt8.toNat_toUInt16, hshift,
    ← Nat.shiftLeft_add_eq_or_of_lt (show hi.toNat / 16 < 2 ^ 4 by omega), Nat.shiftLeft_eq]
  omega

/-- The byte that two samples share. -/
def sharedByte (a b : UInt16) : UInt8 := (a.toNat / 256 + 16 * (b.toNat % 16)).toUInt8

theorem toNat_sharedByte {a : UInt16} (ha : a.toNat < 4096) (b : UInt16) :
    (sharedByte a b).toNat = a.toNat / 256 + 16 * (b.toNat % 16) := by
  rw [sharedByte, Nat.toUInt8_eq, UInt8.toNat_ofNat']
  exact Nat.mod_eq_of_lt (by omega)

theorem lowSample_pack {a : UInt16} (ha : a.toNat < 4096) (b : UInt16) :
    lowSample (sharedByte a b) (a.toNat % 256).toUInt8 = a := by
  rw [← UInt16.toNat_inj, toNat_lowSample, toNat_sharedByte ha, Nat.toUInt8_eq,
    UInt8.toNat_ofNat']
  omega

theorem highSample_pack {a b : UInt16} (ha : a.toNat < 4096) (hb : b.toNat < 4096) :
    highSample (b.toNat / 16).toUInt8 (sharedByte a b) = b := by
  rw [← UInt16.toNat_inj, toNat_highSample, toNat_sharedByte ha, Nat.toUInt8_eq,
    UInt8.toNat_ofNat']
  omega

/-- **The first two samples of a group are read back from its bytes 0, 1 and 3.** -/
theorem unpackSample4_short {l : List UInt8} {i : Nat} {s : Nat → UInt16}
    (hs : ∀ j < 2, (s j).toNat < 4096)
    (h : ∀ t < 4, shortUses t = true → byteAt l (i + t) = packByte s t) {j : Nat} (hj : j < 2) :
    (unpackSample4 l i).getD j 0 = s j := by
  have h0 : byteAt l i = sharedByte (s 0) (s 1) := h 0 (by omega) rfl
  have h1 : byteAt l (i + 1) = ((s 0).toNat % 256).toUInt8 := h 1 (by omega) rfl
  have h3 : byteAt l (i + 3) = ((s 1).toNat / 16).toUInt8 := h 3 (by omega) rfl
  match j, hj with
  | 0, _ =>
      show lowSample (byteAt l i) (byteAt l (i + 1)) = s 0
      rw [h0, h1, lowSample_pack (hs 0 (by omega))]
  | 1, _ =>
      show highSample (byteAt l (i + 3)) (byteAt l i) = s 1
      rw [h0, h3, highSample_pack (hs 0 (by omega)) (hs 1 (by omega))]

/-- **The samples of a group are read back.** -/
theorem unpackSample4_pack {l : List UInt8} {i : Nat} {s : Nat → UInt16}
    (hs : ∀ j < 4, (s j).toNat < 4096) (h : ∀ t < 6, byteAt l (i + t) = packByte s t) {j : Nat}
    (hj : j < 4) : (unpackSample4 l i).getD j 0 = s j := by
  have h5 : byteAt l (i + 5) = sharedByte (s 2) (s 3) := h 5 (by omega)
  have h2 : byteAt l (i + 2) = ((s 2).toNat % 256).toUInt8 := h 2 (by omega)
  have h4 : byteAt l (i + 4) = ((s 3).toNat / 16).toUInt8 := h 4 (by omega)
  by_cases hshort : j < 2
  · exact unpackSample4_short (fun j hj => hs j (by omega)) (fun t ht _ => h t (by omega)) hshort
  · match j, hj with
    | 2, _ =>
        show lowSample (byteAt l (i + 5)) (byteAt l (i + 2)) = s 2
        rw [h5, h2, lowSample_pack (hs 2 (by omega))]
    | 3, _ =>
        show highSample (byteAt l (i + 4)) (byteAt l (i + 5)) = s 3
        rw [h4, h5, highSample_pack (hs 2 (by omega)) (hs 3 (by omega))]

/-! ### Layouts -/

/-- **A packed Milan image has its pixels where the decoder looks.** -/
theorem milanPixel_pack {k cols : Nat} {px : Nat → Nat → UInt16} {fill : Nat → Nat → UInt8}
    {r c : Nat} (hr : r < 4 * k + 2) (hc : c < cols)
    (hfit : ∀ r < 4 * k + 2, ∀ c < cols, (px r c).toNat < 4096) :
    milanPixel (packMilan k cols px fill) k r c = px r c := by
  have hbyte : ∀ t < 6 * k + 6, byteAt (packMilan k cols px fill) (c * (6 * k + 6) + t) = _ :=
    fun t ht => getD_blocks _ hc ht 0
  rw [milanPixel]
  by_cases hfull : r / 4 < k
  · have hsamples : ∀ j < 4, (px (4 * (r / 4) + j) c).toNat < 4096 :=
      fun j hj => hfit _ (by omega) c hc
    have hgroup : ∀ t < 6, byteAt (packMilan k cols px fill) (c * (6 * k + 6) + 6 * (r / 4) + t) =
        packByte (fun j => px (4 * (r / 4) + j) c) t := by
      intro t ht
      rw [Nat.add_assoc, hbyte _ (by omega), if_pos (by omega),
        show (6 * (r / 4) + t) / 6 = r / 4 by omega, show (6 * (r / 4) + t) % 6 = t by omega]
    rw [unpackSample4_pack hsamples hgroup (Nat.mod_lt r (by omega)), Nat.div_add_mod]
  · have hk : r / 4 = k := by omega
    have hsamples : ∀ j < 2, (px (4 * k + j) c).toNat < 4096 :=
      fun j hj => hfit _ (by omega) c hc
    have hgroup : ∀ t < 4, shortUses t = true →
        byteAt (packMilan k cols px fill) (c * (6 * k + 6) + 6 * k + t) =
          packByte (fun j => px (4 * k + j) c) t := by
      intro t ht huse
      rw [Nat.add_assoc, hbyte _ (by omega), if_neg (by omega), Nat.add_sub_cancel_left,
        if_pos huse]
    rw [hk, unpackSample4_short hsamples hgroup (by omega), ← hk, Nat.div_add_mod]

/-- **A run of groups has its samples where the decoder looks.** -/
theorem packedSample_pack {n : Nat} {s : Nat → UInt16} (hs : ∀ i < 4 * n, (s i).toNat < 4096)
    {i : Nat} (hi : i < 4 * n) : packedSample (packRun n s) i = s i := by
  have hsamples : ∀ j < 4, (s (4 * (i / 4) + j)).toNat < 4096 := fun j hj => hs _ (by omega)
  have hgroup : ∀ t < 6, byteAt (packRun n s) (6 * (i / 4) + t) =
      packByte (fun j => s (4 * (i / 4) + j)) t := by
    intro t ht
    rw [Nat.mul_comm]
    exact getD_blocks _ (by omega) ht 0
  rw [packedSample, unpackSample4_pack hsamples hgroup (Nat.mod_lt i (by omega)), Nat.div_add_mod]

/-- **A run of words is read back.** -/
theorem le16At_packWords {n : Nat} {s : Nat → UInt16} {i : Nat} (hi : i < n) :
    le16At (packWords n s) (i * 2) = s i :=
  le16At_of_bytes (getD_blocks _ hi (show 0 < 2 by omega) 0)
    (getD_blocks _ hi (show 1 < 2 by omega) 0)

theorem length_packRun (n : Nat) (s : Nat → UInt16) : (packRun n s).length = 6 * n := by
  rw [packRun, length_blocks, Nat.mul_comm]

theorem length_packImage (px : Nat → Nat → UInt16) (fill : Nat → Nat → UInt8) (mode : DecodeMode) :
    (packImage px fill mode).length = mode.packedLen := by
  cases mode <;> exact length_blocks _ _ _

/-! ### Decoding a packed image -/

theorem decodeMilan_pack {k cols : Nat} {px : Nat → Nat → UInt16} (hcols : 0 < cols)
    (hfit : ∀ r < 4 * k + 2, ∀ c < cols, (px r c).toNat < 4096) (fill : Nat → Nat → UInt8) :
    decodeMilan (packMilan k cols px fill) (4 * k + 2) cols = .ok
      { pixels := blocks (4 * k + 2) cols px, rows := 4 * k + 2, cols } := by
  have hlen : (packMilan k cols px fill).length = cols * (6 * k + 6) := length_blocks _ _ _
  have hpixels : blocks (4 * k + 2) cols (fun r c => milanPixel (packMilan k cols px fill) k r c) =
      blocks (4 * k + 2) cols px :=
    blocks_congr fun r hr c hc => milanPixel_pack hr hc hfit
  rw [decodeMilan_eq hcols (Nat.le_of_eq (by rw [hlen, Nat.mul_comm])), hpixels]

/-- The samples of a run, in the order the decoder takes them. -/
theorem decodeChicago_pack {n rows cols : Nat} {s : Nat → UInt16} {px : Nat → Nat → UInt16}
    {transpose : Bool} (hn : 0 < n) (htotal : 4 * n = rows * cols)
    (htranspose : (6 * n != 0x960) = transpose) (hs : ∀ i < 4 * n, (s i).toNat < 4096)
    (horder : ∀ r < rows, ∀ c < cols, s (chicagoIndex rows cols transpose r c) = px r c) :
    decodeChicago (packRun n s) rows cols false = .ok
      { pixels := blocks rows cols px, rows, cols } := by
  have hlen : (packRun n s).length = 6 * n := length_packRun n s
  have hpixels : blocks rows cols (fun r c => packedSample (packRun n s)
      (chicagoIndex rows cols transpose r c)) = blocks rows cols px := by
    refine blocks_congr fun r hr c hc => ?_
    obtain ⟨hlt, -⟩ := chicagoDst_index hr hc
    rw [packedSample_pack hs (by rw [htotal]; exact hlt), horder r hr c hc]
  rw [decodeChicago_packed_eq (by omega) (by rw [hlen]; omega), hlen, htranspose, hpixels]

theorem decodeWords_pack {rows cols : Nat} {px : Nat → Nat → UInt16} (hrows : rows ≠ 0)
    (hcols : cols ≠ 0) :
    decodeChicago (packWords (rows * cols) fun i => px (i / cols) (i % cols)) rows cols true = .ok
      { pixels := blocks rows cols px, rows, cols } := by
  have hpixels : blocks rows cols (fun r c =>
      le16At (packWords (rows * cols) fun i => px (i / cols) (i % cols)) ((r * cols + c) * 2)) =
      blocks rows cols px := by
    refine blocks_congr fun r hr c hc => ?_
    have hmul : (r + 1) * cols ≤ rows * cols := Nat.mul_le_mul_right _ hr
    rw [Nat.succ_mul] at hmul
    obtain ⟨hdiv, hmod⟩ := column_index hc (rfl : r * cols + c = _)
    rw [le16At_packWords (by omega), hdiv, hmod]
  have hlen : rows * cols * 2 ≤
      (packWords (rows * cols) fun i => px (i / cols) (i % cols)).length :=
    Nat.le_of_eq (length_blocks _ _ _).symm
  rw [decodeChicago_u16le_eq hrows hcols hlen, hpixels]

/-- **Each decoder gives the image back that its layout was packed from.** -/
theorem decodeImageMode_pack {mode : DecodeMode} {px : Nat → Nat → UInt16}
    (hfit : mode.Fits px) (fill : Nat → Nat → UInt8) :
    decodeImageMode (packImage px fill mode) mode = .ok
      { pixels := blocks mode.rows mode.cols px, rows := mode.rows, cols := mode.cols } := by
  cases mode with
  | milangRaw => exact decodeMilan_pack (k := 13) (by decide) (hfit rfl) fill
  | milangNav => exact decodeMilan_pack (k := 13) (by decide) (hfit rfl) fill
  | chicagohRaw =>
      have htotal : 4 * (0x40 * 0x50 / 4) = 0x40 * 0x50 := by decide
      have htranspose : (6 * (0x40 * 0x50 / 4) != 0x960) = true := by decide
      show decodeChicago (packRun (0x40 * 0x50 / 4) fun i => px (i % 0x40) (i / 0x40)) 0x40 0x50
        false = .ok { pixels := blocks 0x40 0x50 px, rows := 0x40, cols := 0x50 }
      refine decodeChicago_pack (by decide) htotal htranspose ?_ ?_
      · intro i hi
        rw [htotal] at hi
        exact hfit rfl _ (Nat.mod_lt i (by decide)) _ (by
          show i / 0x40 < 0x50
          omega)
      · intro r hr c hc
        obtain ⟨hdiv, hmod⟩ := column_index hr (rfl : c * 0x40 + r = _)
        show px ((c * 0x40 + r) % 0x40) ((c * 0x40 + r) / 0x40) = px r c
        rw [hdiv, hmod]
  | chicagohNav =>
      have htotal : 4 * (0x40 * 0x19 / 4) = 0x40 * 0x19 := by decide
      have htranspose : (6 * (0x40 * 0x19 / 4) != 0x960) = false := by decide
      show decodeChicago (packRun (0x40 * 0x19 / 4) fun i => px (i / 0x19) (i % 0x19)) 0x40 0x19
        false = .ok { pixels := blocks 0x40 0x19 px, rows := 0x40, cols := 0x19 }
      refine decodeChicago_pack (by decide) htotal htranspose ?_ ?_
      · intro i hi
        rw [htotal] at hi
        exact hfit rfl _ (by
          show i / 0x19 < 0x40
          omega) _ (Nat.mod_lt i (by decide))
      · intro r hr c hc
        obtain ⟨hdiv, hmod⟩ := column_index hc (rfl : r * 0x19 + c = _)
        show px ((r * 0x19 + c) / 0x19) ((r * 0x19 + c) % 0x19) = px r c
        rw [hdiv, hmod]
  | chicagohRawU16le => exact decodeWords_pack (by decide) (by decide)
  | chicagohNavU16le => exact decodeWords_pack (by decide) (by decide)

/-- **The length of a body with its CRC tells the layout, and the CRC is left out.** -/
theorem decodeAutoDetect_body {mode : DecodeMode} {packed trailer : List UInt8}
    (hpacked : packed.length = mode.packedLen) (htrailer : trailer.length = 4) :
    decodeAutoDetect (packed ++ trailer) = .ok (mode, packed) := by
  have hlen : (packed ++ trailer).length = mode.packedLen + 4 := by
    rw [List.length_append, hpacked, htrailer]
  have htake : (packed ++ trailer).take mode.packedLen = packed := by
    rw [← hpacked]
    exact List.take_left
  have hfind : autoModes.findSome? (fun m => autoDetectMode (packed ++ trailer) m.1 m.2) =
      some (mode, packed) := by
    cases mode <;>
      simp only [DecodeMode.packedLen] at hlen htake <;>
      simp [autoModes, List.findSome?, autoDetectMode, hlen, htake]
  rw [decodeAutoDetect, hfind]

/-! ### The whole path -/

/-- The payload of an image frame fits. -/
theorem length_imagePayload (mode : DecodeMode) (px : Nat → Nat → UInt16)
    (fill : Nat → Nat → UInt8) {hdr : List UInt8} (hhdr : hdr.length = 5) :
    (hdr ++ imageBody (packImage px fill mode)).length = mode.packedLen + 9 ∧
      mode.packedLen + 9 ≤ goodixPayloadMax := by
  have hpacked := length_packImage px fill mode
  constructor
  · rw [List.length_append, hhdr, imageBody, List.length_append, hpacked]
    show 5 + (mode.packedLen + 4) = _
    omega
  · cases mode <;> decide

/-- The frame the sensor sends an image in. -/
def imageFrame (mode : DecodeMode) (px : Nat → Nat → UInt16) (fill : Nat → Nat → UInt8)
    (hdr : List UInt8) (hhdr : hdr.length = 5) : GoodixFrame :=
  GoodixFrame.built 0x20 (hdr ++ imageBody (packImage px fill mode)) (by
    obtain ⟨hlen, hmax⟩ := length_imagePayload mode px fill hhdr
    exact Nat.le_trans (hlen ▸ hmax) (by decide))

theorem imageFrame_body (mode : DecodeMode) (px : Nat → Nat → UInt16) (fill : Nat → Nat → UInt8)
    (hdr : List UInt8) (hhdr : hdr.length = 5) :
    (imageFrame mode px fill hdr hhdr).payload.drop 5 = imageBody (packImage px fill mode) := by
  show (hdr ++ imageBody (packImage px fill mode)).drop 5 = _
  rw [← hhdr]
  exact List.drop_left

/-- **The sink takes it for a normal image.** -/
theorem normalImage_imageFrame (mode : DecodeMode) (px : Nat → Nat → UInt16)
    (fill : Nat → Nat → UInt8) (hdr : List UInt8) (hhdr : hdr.length = 5)
    (hfirst : byteAt hdr 0 ≠ 0xAA) : NormalImage (imageFrame mode px fill hdr hhdr) := by
  constructor
  case cmd =>
    show ((0x20 : UInt8) >>> 4) &&& 0x0F = 0x2
    decide
  case len =>
    show 5 < (hdr ++ imageBody (packImage px fill mode)).length
    rw [(length_imagePayload mode px fill hhdr).1]
    omega
  case first =>
    show byteAt (hdr ++ imageBody (packImage px fill mode)) 0 ≠ 0xAA
    rw [byteAt_append_left (by omega)]
    exact hfirst
  case crc =>
    rw [imageFrame_body]
    exact imageCrcCheck_trailer rfl

/-- **Its body is decoded to the image.** -/
theorem decodeImageAuto_imageBody (mode : DecodeMode) {px : Nat → Nat → UInt16}
    (hfit : mode.Fits px)
    (fill : Nat → Nat → UInt8) :
    decodeImageAuto (imageBody (packImage px fill mode)) = .ok
      { pixels := blocks mode.rows mode.cols px, rows := mode.rows, cols := mode.cols } := by
  rw [decodeImageAuto, imageBody, decodeAutoDetect_body (length_packImage px fill mode) rfl]
  exact decodeImageMode_pack hfit fill

/--
**The image path decodes exactly what the sensor encoded.**

Any frames that are no normal images may come before the image's frame, and the
sink may hold anything before it is reset.
-/
theorem image_roundtrip (mode : DecodeMode) (px : Nat → Nat → UInt16) (hfit : mode.Fits px)
    (fill : Nat → Nat → UInt8) (hdr : List UInt8) (hhdr : hdr.length = 5)
    (hfirst : byteAt hdr 0 ≠ 0xAA) (before : List GoodixFrame)
    (hbefore : ∀ f ∈ before, ¬ NormalImage f) (s : PlainSink) :
    ∃ bytes body, goodixBuildFrame 0x20 (hdr ++ imageBody (packImage px fill mode))
        (4 + goodixPayloadMax) = .ok bytes ∧
      (plainSinkExtractNormal (plainScanChunks (fun _ => true)
        (before.flatMap GoodixFrame.bytes ++ bytes) (plainSinkReset s)) true).1 =
        .ok (some (hdr, body)) ∧
      decodeImageAuto body = .ok
        { pixels := blocks mode.rows mode.cols px, rows := mode.rows, cols := mode.cols } := by
  obtain ⟨hlen, hmax⟩ := length_imagePayload mode px fill hhdr
  have hnormal := normalImage_imageFrame mode px fill hdr hhdr hfirst
  refine ⟨(imageFrame mode px fill hdr hhdr).bytes, imageBody (packImage px fill mode), ?_, ?_,
    decodeImageAuto_imageBody mode hfit fill⟩
  · rw [goodixBuildFrame_ok (hlen ▸ hmax) (by omega)]
    rfl
  · have hscan := plainSinkExtractNormal_scan hbefore hnormal (s := plainSinkReset s) rfl
    have htake : (imageFrame mode px fill hdr hhdr).payload.take 5 = hdr := by
      show (hdr ++ imageBody (packImage px fill mode)).take 5 = hdr
      rw [← hhdr]
      exact List.take_left
    rw [htake, imageFrame_body, List.flatMap_append, List.flatMap_singleton] at hscan
    exact hscan

/-- A navigation image behind an acknowledgement, into a sink that was full. -/
theorem image_roundtrip_navigation :
    ∃ bytes body, goodixBuildFrame 0x20 (zeros 5 ++ imageBody
        (packImage (fun r c => (16 * r + c).toUInt16) (fun _ _ => 0xFF) .milangNav))
        (4 + goodixPayloadMax) = .ok bytes ∧
      (plainSinkExtractNormal (plainScanChunks (fun _ => true)
        ([GoodixFrame.built 0xB0 [0x20, 0x01] (by decide)].flatMap GoodixFrame.bytes ++ bytes)
        (plainSinkReset ⟨plainFrameReset, true, [], 5, 0⟩)) true).1 = .ok (some (zeros 5, body)) ∧
      decodeImageAuto body = .ok
        { pixels := blocks 0x36 0x10 fun r c => (16 * r + c).toUInt16
          rows := 0x36
          cols := 0x10 } := by
  refine image_roundtrip .milangNav _ ?_ _ (zeros 5) (length_zeros 5) (by decide) _ ?_ _
  · intro _ r hr c hc
    have hrows : r < 0x36 := hr
    have hcols : c < 0x10 := hc
    show (UInt16.ofNat (16 * r + c)).toNat < 4096
    rw [UInt16.toNat_ofNat']
    exact Nat.lt_of_le_of_lt (Nat.mod_le _ _) (by omega)
  · intro f hf hnormal
    rw [List.mem_singleton.mp hf] at hnormal
    exact absurd hnormal.cmd (by decide)

end Gxfp
