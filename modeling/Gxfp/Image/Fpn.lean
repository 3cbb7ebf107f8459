/-
From a decoded image to eight bits: `src/algo/image/fpn.c` and its caller in the driver.

`gxfp_fpn_correct` takes the dark frame off every pixel, without a sign, and then stretches
what is left to 0..4095.  The range for the stretch is that of the pixels inside, and where
they are all the same there is no stretch.  The border has not been looked at then, and if
the samples were words a pixel of it may be above 4095.

What the stretch uses of `double` is a parameter, `FpnDoubles`; where a bound is shown the
doubles are exact.  A dimension is a `Nat`, and an image has its `rows * cols` pixels.
-/
import Mathlib.Algebra.Order.Floor.Semiring
import Mathlib.Data.Rat.Floor
import Mathlib.Tactic.Linarith
import Mathlib.Tactic.Positivity
import Gxfp.Image.RoundTrip

namespace Gxfp

open Bytes Blocks

/-! ### FpnDoubles -/

/-- What the stretch uses of `double`. -/
structure FpnDoubles (δ : Type) where
  ofInt : Int → δ
  /-- The constant `0.5`. -/
  half : δ
  add : δ → δ → δ
  sub : δ → δ → δ
  mul : δ → δ → δ
  div : δ → δ → δ
  lt : δ → δ → Bool
  /-- The conversion to `uint16_t`, which cuts the fraction off. -/
  toU16 : δ → UInt16

/-- FpnDoubles that are exact. -/
def exactFpnDoubles : FpnDoubles ℚ where
  ofInt i := i
  half := 1 / 2
  add a b := a + b
  sub a b := a - b
  mul a b := a * b
  div a b := a / b
  lt a b := decide (a < b)
  toU16 v := ⌊v⌋₊.toUInt16

/-! ### The functions of `fpn.c` -/

/-- `struct gxfp_fpn_dark`; without pixels the pointer is null. -/
structure FpnDark where
  pixels : Option (List UInt16)
  rows : Nat
  cols : Nat
  deriving DecidableEq, Repr

/-- A pixel less the dark one. -/
def fpnSubtract (pixel dark : UInt16) : UInt16 :=
  let v : Int := pixel.toNat - dark.toNat
  (if 0 ≤ v then v else -v).toNat.toUInt16

/-- `gmin` and `gmax` with one more pixel. -/
def fpnWiden (range : UInt16 × UInt16) (v : UInt16) : UInt16 × UInt16 :=
  (if v < range.1 then v else range.1, if range.2 < v then v else range.2)

/-- `gmin` and `gmax`, over the pixels that are not on the border. -/
def fpnRange (pixels : List UInt16) (rows cols : Nat) : UInt16 × UInt16 :=
  (List.range' 1 (rows - 2)).foldl
    (fun range y =>
      (List.range' 1 (cols - 2)).foldl
        (fun range x => fpnWiden range (pixels.getD (y * cols + x) 0)) range)
    (4095, 0)

section Stretch

variable {δ : Type} (D : FpnDoubles δ)

/-- A pixel, stretched. -/
def fpnStretch (gmin gmax pixel : UInt16) : UInt16 :=
  let scale := D.div (D.ofInt 4095) (D.ofInt (gmax.toNat - gmin.toNat))
  let v := D.mul (D.sub (D.ofInt pixel.toNat) (D.ofInt gmin.toNat)) scale
  let v := if D.lt v (D.ofInt 0) then D.ofInt 0 else v
  let v := if D.lt (D.ofInt 4095) v then D.ofInt 4095 else v
  D.toU16 (D.add v D.half)

/-- The second half of `gxfp_fpn_correct`. -/
def fpnStretchAll (pixels : List UInt16) (rows cols : Nat) : List UInt16 :=
  let (gmin, gmax) := fpnRange pixels rows cols
  if gmin < gmax then pixels.map (fpnStretch D gmin gmax) else pixels

/-- `gxfp_fpn_correct` -/
def fpnCorrect (pixels : List UInt16) (rows cols : Nat) (dark : Option FpnDark) :
    Except Errno (List UInt16) :=
  if rows = 0 ∨ cols = 0 then .error .inval
  else
    match dark with
    | none => .ok (fpnStretchAll D pixels rows cols)
    | some dark =>
      if dark.rows ≠ rows ∨ dark.cols ≠ cols then .error .inval
      else
        match dark.pixels with
        | none => .error .inval
        | some darkPixels =>
          let pixels := (List.range (rows * cols)).map fun i =>
            fpnSubtract (pixels.getD i 0) (darkPixels.getD i 0)
          .ok (fpnStretchAll D pixels rows cols)

end Stretch

/-! ### In the driver -/

/-- `gxfp_set_dark` -/
def setDark (img : DecodedImage) : Except Errno FpnDark :=
  if img.rows = 0 ∨ img.cols = 0 then .error .inval
  else .ok { pixels := some img.pixels, rows := img.rows, cols := img.cols }

/-- A pixel in eight bits, in front of the cast. -/
def fpSample (pixel : UInt16) : UInt32 := pixel.toUInt32 * 255 / 4095

/-- `gxfp_decoded_to_fp_image`: the data of the image. -/
def decodedToFpImage (img : DecodedImage) : List UInt8 :=
  img.pixels.map fun pixel => (fpSample pixel).toUInt8

/-- `gxfp_store_image`, behind `gxfp_plain_sink_extract_normal`; without `dark_loaded` there
is no dark frame. -/
def storeImage {δ : Type} (D : FpnDoubles δ) (body : List UInt8) (dark : Option FpnDark) :
    Except Errno (List UInt8) :=
  match decodeImageAuto body with
  | .error e => .error e
  | .ok img =>
    match dark with
    | none => .ok (decodedToFpImage img)
    | some dark =>
      match fpnCorrect D img.pixels img.rows img.cols (some dark) with
      | .error e => .error e
      | .ok pixels => .ok (decodedToFpImage { img with pixels })

/-! ### One pixel -/

theorem toNat_fpnSubtract (pixel dark : UInt16) :
    (fpnSubtract pixel dark).toNat = ((pixel.toNat : Int) - dark.toNat).natAbs := by
  have hpixel := pixel.toNat_lt
  have hdark := dark.toNat_lt
  have habs : (if 0 ≤ (pixel.toNat : Int) - dark.toNat then (pixel.toNat : Int) - dark.toNat
      else -((pixel.toNat : Int) - dark.toNat)).toNat =
      ((pixel.toNat : Int) - dark.toNat).natAbs := by
    split <;> omega
  show (UInt16.ofNat _).toNat = _
  rw [UInt16.toNat_ofNat', habs]
  exact Nat.mod_eq_of_lt (by omega)

/-- **With exact doubles a stretched pixel is in range**, whatever it was before. -/
theorem fpnStretch_le (gmin gmax pixel : UInt16) :
    fpnStretch exactFpnDoubles gmin gmax pixel ≤ 4095 := by
  simp only [fpnStretch, exactFpnDoubles, decide_eq_true_eq, Int.cast_zero, Int.cast_ofNat]
  generalize (_ - _ : ℚ) * (4095 / _) = v
  generalize hlow : (if v < 0 then 0 else v) = low
  have hnonneg : 0 ≤ low := by
    rw [← hlow]
    split
    · exact le_rfl
    · exact not_lt.mp ‹_›
  generalize hv : (if 4095 < low then 4095 else low) = w
  have hw : 0 ≤ w ∧ w ≤ 4095 := by
    rw [← hv]
    split
    · exact ⟨by norm_num, le_rfl⟩
    · exact ⟨hnonneg, not_lt.mp ‹_›⟩
  have hfloor : ⌊w + 1 / 2⌋₊ < 4096 := by
    rw [Nat.floor_lt (by linarith [hw.1])]
    norm_num
    linarith [hw.2]
  rw [UInt16.le_iff_toNat_le, Nat.toUInt16_eq, UInt16.toNat_ofNat']
  exact Nat.le_trans (Nat.mod_le _ _) (Nat.le_of_lt_succ hfloor)

/-- Up to 4095 a pixel has room in a byte. -/
theorem fpSample_le {pixel : UInt16} (h : pixel ≤ 4095) : fpSample pixel ≤ 255 := by
  have hpixel : pixel.toNat ≤ 4095 := UInt16.le_iff_toNat_le.mp h
  rw [UInt32.le_iff_toNat_le]
  show (pixel.toUInt32 * 255 / 4095).toNat ≤ 255
  rw [UInt32.toNat_div, UInt32.toNat_mul, UInt16.toNat_toUInt32]
  show pixel.toNat * 255 % 4294967296 / 4095 ≤ 255
  rw [Nat.mod_eq_of_lt (by omega)]
  exact Nat.div_le_of_le_mul (by omega)

/-! ### The range -/

/-- Not on the border. -/
def Inside (rows cols y x : Nat) : Prop := 1 ≤ y ∧ y + 1 < rows ∧ 1 ≤ x ∧ x + 1 < cols

/-- The pixels that the range is taken from. -/
def insidePixels (pixels : List UInt16) (rows cols : Nat) : List UInt16 :=
  (List.range' 1 (rows - 2)).flatMap fun y =>
    (List.range' 1 (cols - 2)).map fun x => pixels.getD (y * cols + x) 0

theorem mem_insidePixels {pixels : List UInt16} {rows cols : Nat} {v : UInt16} :
    v ∈ insidePixels pixels rows cols ↔
      ∃ y x, Inside rows cols y x ∧ pixels.getD (y * cols + x) 0 = v := by
  simp only [insidePixels, List.mem_flatMap, List.mem_map, List.mem_range'_1]
  constructor
  · rintro ⟨y, hy, x, hx, rfl⟩
    exact ⟨y, x, ⟨hy.1, by omega, hx.1, by omega⟩, rfl⟩
  · rintro ⟨y, x, ⟨hy, hy', hx, hx'⟩, rfl⟩
    exact ⟨y, ⟨hy, by omega⟩, x, ⟨hx, by omega⟩, rfl⟩

theorem fpnRange_eq (pixels : List UInt16) (rows cols : Nat) :
    fpnRange pixels rows cols = (insidePixels pixels rows cols).foldl fpnWiden (4095, 0) := by
  rw [fpnRange, insidePixels, List.foldl_flatMap]
  simp only [List.foldl_map]

/-- What a range has become: it holds what it was widened by, and its ends are in there. -/
structure Widened (vs : List UInt16) (range range' : UInt16 × UInt16) : Prop where
  low : range'.1 ≤ range.1
  high : range.2 ≤ range'.2
  holds : ∀ v ∈ vs, range'.1 ≤ v ∧ v ≤ range'.2
  low_mem : range'.1 = range.1 ∨ range'.1 ∈ vs
  high_mem : range'.2 = range.2 ∨ range'.2 ∈ vs

theorem foldl_fpnWiden (vs : List UInt16) (range : UInt16 × UInt16) :
    Widened vs range (vs.foldl fpnWiden range) := by
  induction vs generalizing range with
  | nil => exact ⟨UInt16.le_refl _, UInt16.le_refl _, nofun, Or.inl rfl, Or.inl rfl⟩
  | cons v vs ih =>
    have h := ih (fpnWiden range v)
    rw [List.foldl_cons]
    generalize vs.foldl fpnWiden (fpnWiden range v) = range' at h
    obtain ⟨hlow, hhigh, hholds, hlowMem, hhighMem⟩ := h
    unfold fpnWiden at hlow hhigh hlowMem hhighMem
    dsimp only at hlow hhigh hlowMem hhighMem
    constructor <;> grind

/-- **There is a stretch if two pixels inside differ, or one is beyond the range.** -/
theorem fpnRange_lt_iff (pixels : List UInt16) (rows cols : Nat) :
    (fpnRange pixels rows cols).1 < (fpnRange pixels rows cols).2 ↔
      (∃ v ∈ insidePixels pixels rows cols, ∃ w ∈ insidePixels pixels rows cols, v ≠ w) ∨
        ∃ v ∈ insidePixels pixels rows cols, 4095 < v := by
  have h := foldl_fpnWiden (insidePixels pixels rows cols) (4095, 0)
  rw [fpnRange_eq]
  generalize (insidePixels pixels rows cols).foldl fpnWiden (4095, 0) = range at h
  obtain ⟨hlow, hhigh, hholds, hlowMem, hhighMem⟩ := h
  constructor
  · intro hlt
    have hpos : range.2 ≠ 0 := by grind
    have hhigh' : range.2 ∈ insidePixels pixels rows cols := hhighMem.resolve_left hpos
    rcases hlowMem with heq | hlow'
    · rw [heq] at hlt
      exact Or.inr ⟨_, hhigh', hlt⟩
    · exact Or.inl ⟨_, hlow', _, hhigh', fun heq => by grind⟩
  · rintro (⟨v, hv, w, hw, hne⟩ | ⟨v, hv, hlt⟩)
    · have hv' := hholds v hv
      have hw' := hholds w hw
      grind
    · have hv' := hholds v hv
      dsimp only at hlow
      grind

/-- **When every corrected pixel is in range**, for any pixels. -/
theorem fpnStretchAll_le_iff (pixels : List UInt16) (rows cols : Nat) :
    (∀ p ∈ fpnStretchAll exactFpnDoubles pixels rows cols, p ≤ 4095) ↔
      (fpnRange pixels rows cols).1 < (fpnRange pixels rows cols).2 ∨ ∀ p ∈ pixels, p ≤ 4095 := by
  unfold fpnStretchAll
  dsimp only
  by_cases hlt : (fpnRange pixels rows cols).1 < (fpnRange pixels rows cols).2
  · rw [if_pos hlt]
    refine iff_of_true ?_ (Or.inl hlt)
    intro p hp
    obtain ⟨pixel, -, rfl⟩ := List.mem_map.mp hp
    exact fpnStretch_le _ _ _
  · rw [if_neg hlt]
    exact ⟨Or.inr, fun h => h.resolve_left hlt⟩

/-! ### Two bodies -/

/-- A pixel of an image. -/
def DecodedImage.pixelAt (img : DecodedImage) (y x : Nat) : Nat :=
  (img.pixels.getD (y * img.cols + x) 0).toNat

/-- How far a pixel is from the dark one. -/
def darkDiff (capture dark : DecodedImage) (y x : Nat) : Nat :=
  ((capture.pixelAt y x : Int) - dark.pixelAt y x).natAbs

/-- The differences differ inside, or one inside is beyond the range, or none at all is. -/
def FpnKeepsRange (rows cols : Nat) (diff : Nat → Nat → Nat) : Prop :=
  (∃ y x y' x', Inside rows cols y x ∧ Inside rows cols y' x' ∧ diff y x ≠ diff y' x') ∨
    (∃ y x, Inside rows cols y x ∧ 4095 < diff y x) ∨
    ∀ y < rows, ∀ x < cols, diff y x ≤ 4095

/-- With `dark` for the dark frame the capture stays in range up to its bytes. -/
def EightBitRight (capture dark : DecodedImage) : Prop :=
  ∀ frame pixels, setDark dark = .ok frame →
    fpnCorrect exactFpnDoubles capture.pixels capture.rows capture.cols (some frame) = .ok pixels →
    ∀ p ∈ pixels, p ≤ 4095 ∧ fpSample p ≤ 255

section Bodies

variable {capture dark : DecodedImage}

/-- What `gxfp_fpn_correct` leaves in front of the stretch. -/
def darkSubtracted (capture dark : DecodedImage) : List UInt16 :=
  (List.range (capture.rows * capture.cols)).map fun i =>
    fpnSubtract (capture.pixels.getD i 0) (dark.pixels.getD i 0)

theorem fpnCorrect_eq {δ : Type} (D : FpnDoubles δ) (hrows : dark.rows = capture.rows)
    (hcols : dark.cols = capture.cols) (hrows0 : capture.rows ≠ 0) (hcols0 : capture.cols ≠ 0) :
    ∃ frame, setDark dark = .ok frame ∧
      fpnCorrect D capture.pixels capture.rows capture.cols (some frame) =
        .ok (fpnStretchAll D (darkSubtracted capture dark) capture.rows capture.cols) := by
  refine ⟨_, if_neg (by rw [hrows, hcols]; tauto), ?_⟩
  unfold fpnCorrect
  rw [if_neg (by tauto)]
  dsimp only
  rw [if_neg (by tauto)]
  rfl

theorem getD_darkSubtracted (hcols : dark.cols = capture.cols) {y x : Nat}
    (hy : y < capture.rows) (hx : x < capture.cols) :
    ((darkSubtracted capture dark).getD (y * capture.cols + x) 0).toNat =
      darkDiff capture dark y x := by
  have hmul : (y + 1) * capture.cols ≤ capture.rows * capture.cols := Nat.mul_le_mul_right _ hy
  rw [Nat.succ_mul] at hmul
  rw [darkSubtracted, List.getD_eq_getElem?_getD, List.getElem?_map,
    List.getElem?_range (by omega)]
  show (fpnSubtract _ _).toNat = _
  rw [toNat_fpnSubtract, darkDiff, DecodedImage.pixelAt, DecodedImage.pixelAt, hcols]

/-- Each difference is that of one place. -/
theorem mem_darkSubtracted (hcols : dark.cols = capture.cols) {p : UInt16}
    (hp : p ∈ darkSubtracted capture dark) :
    ∃ y x, y < capture.rows ∧ x < capture.cols ∧ p.toNat = darkDiff capture dark y x := by
  obtain ⟨i, hi, rfl⟩ := List.mem_map.mp hp
  rw [List.mem_range] at hi
  have hpos : 0 < capture.cols := Nat.pos_of_ne_zero fun hzero => by simp [hzero] at hi
  refine ⟨i / capture.cols, i % capture.cols, Nat.div_lt_of_lt_mul (Nat.mul_comm _ _ ▸ hi),
    Nat.mod_lt _ hpos, ?_⟩
  rw [toNat_fpnSubtract, darkDiff, DecodedImage.pixelAt, DecodedImage.pixelAt, hcols,
    Nat.div_add_mod']

theorem mem_insidePixels_darkSubtracted (hcols : dark.cols = capture.cols) {v : UInt16} :
    v ∈ insidePixels (darkSubtracted capture dark) capture.rows capture.cols ↔
      ∃ y x, Inside capture.rows capture.cols y x ∧ v.toNat = darkDiff capture dark y x := by
  rw [mem_insidePixels]
  constructor
  · rintro ⟨y, x, hin, rfl⟩
    refine ⟨y, x, hin, getD_darkSubtracted hcols ?_ ?_⟩
    · exact Nat.lt_of_succ_lt hin.2.1
    · exact Nat.lt_of_succ_lt hin.2.2.2
  · rintro ⟨y, x, hin, hv⟩
    refine ⟨y, x, hin, UInt16.toNat_inj.mp ?_⟩
    rw [hv]
    exact getD_darkSubtracted hcols (Nat.lt_of_succ_lt hin.2.1) (Nat.lt_of_succ_lt hin.2.2.2)

/-- The stretch, said of the differences. -/
theorem darkSubtracted_stretches_iff (hcols : dark.cols = capture.cols) :
    (fpnRange (darkSubtracted capture dark) capture.rows capture.cols).1 <
        (fpnRange (darkSubtracted capture dark) capture.rows capture.cols).2 ↔
      (∃ y x y' x', Inside capture.rows capture.cols y x ∧
        Inside capture.rows capture.cols y' x' ∧
        darkDiff capture dark y x ≠ darkDiff capture dark y' x') ∨
      ∃ y x, Inside capture.rows capture.cols y x ∧ 4095 < darkDiff capture dark y x := by
  rw [fpnRange_lt_iff]
  -- an inside pixel and its place stand for each other
  have hpixel {y x : Nat} (hin : Inside capture.rows capture.cols y x) :
      ∃ v ∈ insidePixels (darkSubtracted capture dark) capture.rows capture.cols,
        v.toNat = darkDiff capture dark y x := by
    have hv : ((darkSubtracted capture dark).getD (y * capture.cols + x) 0).toNat =
        darkDiff capture dark y x :=
      getD_darkSubtracted hcols (Nat.lt_of_succ_lt hin.2.1) (Nat.lt_of_succ_lt hin.2.2.2)
    exact ⟨_, (mem_insidePixels_darkSubtracted hcols).mpr ⟨y, x, hin, hv⟩, hv⟩
  refine or_congr ?_ ?_
  · constructor
    · rintro ⟨v, hv, w, hw, hne⟩
      obtain ⟨y, x, hin, hvx⟩ := (mem_insidePixels_darkSubtracted hcols).mp hv
      obtain ⟨y', x', hin', hwx⟩ := (mem_insidePixels_darkSubtracted hcols).mp hw
      refine ⟨y, x, y', x', hin, hin', fun heq => hne (UInt16.toNat_inj.mp ?_)⟩
      rw [hvx, hwx, heq]
    · rintro ⟨y, x, y', x', hin, hin', hne⟩
      obtain ⟨v, hv, hvx⟩ := hpixel hin
      obtain ⟨w, hw, hwx⟩ := hpixel hin'
      refine ⟨v, hv, w, hw, fun heq => hne ?_⟩
      rw [← hvx, ← hwx, heq]
  · constructor
    · rintro ⟨v, hv, hlt⟩
      obtain ⟨y, x, hin, hvx⟩ := (mem_insidePixels_darkSubtracted hcols).mp hv
      exact ⟨y, x, hin, hvx ▸ UInt16.lt_iff_toNat_lt.mp hlt⟩
    · rintro ⟨y, x, hin, hlt⟩
      obtain ⟨v, hv, hvx⟩ := hpixel hin
      refine ⟨v, hv, UInt16.lt_iff_toNat_lt.mpr ?_⟩
      rw [hvx]
      exact hlt

/-- **Range is kept exactly if there is a stretch, or no need of one.** -/
theorem eightBitRight_iff_keepsRange (hrows : dark.rows = capture.rows)
    (hcols : dark.cols = capture.cols) (hrows0 : capture.rows ≠ 0) (hcols0 : capture.cols ≠ 0) :
    EightBitRight capture dark ↔
      FpnKeepsRange capture.rows capture.cols (darkDiff capture dark) := by
  obtain ⟨frame, hframe, hcorrect⟩ := fpnCorrect_eq exactFpnDoubles hrows hcols hrows0 hcols0
  have hright : EightBitRight capture dark ↔
      ∀ p ∈ fpnStretchAll exactFpnDoubles (darkSubtracted capture dark) capture.rows capture.cols,
        p ≤ 4095 := by
    constructor
    · intro h p hp
      exact (h frame _ hframe hcorrect p hp).1
    · intro h frame' pixels hframe' hok
      rw [hframe] at hframe'
      cases hframe'
      rw [hcorrect] at hok
      cases hok
      exact fun p hp => ⟨h p hp, fpSample_le (h p hp)⟩
  have hnone : (∀ p ∈ darkSubtracted capture dark, p ≤ 4095) ↔
      ∀ y < capture.rows, ∀ x < capture.cols, darkDiff capture dark y x ≤ 4095 := by
    constructor
    · intro h y hy x hx
      have hmul : (y + 1) * capture.cols ≤ capture.rows * capture.cols :=
        Nat.mul_le_mul_right _ hy
      rw [Nat.succ_mul] at hmul
      have hlen : y * capture.cols + x < (darkSubtracted capture dark).length := by
        rw [darkSubtracted, List.length_map, List.length_range]
        omega
      have hp := h _ (List.getElem_mem hlen)
      rw [← List.getD_eq_getElem _ 0 hlen, UInt16.le_iff_toNat_le,
        getD_darkSubtracted hcols hy hx] at hp
      exact hp
    · intro h p hp
      obtain ⟨y, x, hy, hx, hpx⟩ := mem_darkSubtracted hcols hp
      rw [UInt16.le_iff_toNat_le, hpx]
      exact h y hy x hx
  rw [hright, fpnStretchAll_le_iff, darkSubtracted_stretches_iff hcols, hnone, or_assoc]
  rfl

end Bodies

/-! ### The decoders -/

theorem decodeMilan_dims {payload : List UInt8} {rows cols : Nat} {img : DecodedImage}
    (h : decodeMilan payload rows cols = .ok img) : img.rows = rows ∧ img.cols = cols := by
  unfold decodeMilan at h
  dsimp only at h
  split at h
  · cases h
  split at h
  · cases h
  split at h
  · cases h
  · cases h
    exact ⟨rfl, rfl⟩

theorem decodeChicago_dims {payload : List UInt8} {rows cols : Nat} {isU16le : Bool}
    {img : DecodedImage} (h : decodeChicago payload rows cols isU16le = .ok img) :
    img.rows = rows ∧ img.cols = cols := by
  unfold decodeChicago at h
  dsimp only at h
  split at h
  · cases h
  split at h
  · split at h
    · cases h
    · cases h
      exact ⟨rfl, rfl⟩
  · split at h
    · cases h
    split at h
    · cases h
    · cases h
      exact ⟨rfl, rfl⟩

theorem decodeImageMode_dims {payload : List UInt8} {mode : DecodeMode} {img : DecodedImage}
    (h : decodeImageMode payload mode = .ok img) : img.rows = mode.rows ∧ img.cols = mode.cols := by
  cases mode with
  | milangRaw => exact decodeMilan_dims h
  | milangNav => exact decodeMilan_dims h
  | chicagohRaw => exact decodeChicago_dims h
  | chicagohNav => exact decodeChicago_dims h
  | chicagohRawU16le => exact decodeChicago_dims h
  | chicagohNavU16le => exact decodeChicago_dims h

/-- An image that has been decoded is not empty. -/
theorem decodeImageAuto_dims {body : List UInt8} {img : DecodedImage}
    (h : decodeImageAuto body = .ok img) : img.rows ≠ 0 ∧ img.cols ≠ 0 := by
  unfold decodeImageAuto at h
  split at h
  · cases h
  · rename_i mode payload _
    obtain ⟨hrows, hcols⟩ := decodeImageMode_dims h
    rw [hrows, hcols]
    cases mode <;> decide

/--
**When an image stays in range up to its bytes.**

For every body that decodes and every dark frame of its size: no pixel is above 4095 after
the correction, and no byte wraps, exactly if the differences inside are not all the same,
or one of them is beyond the range, or no difference at all is.
-/
theorem eightBitRight_iff {body : List UInt8} {capture dark : DecodedImage}
    (hcapture : decodeImageAuto body = .ok capture) (hrows : dark.rows = capture.rows)
    (hcols : dark.cols = capture.cols) :
    EightBitRight capture dark ↔
      FpnKeepsRange capture.rows capture.cols (darkDiff capture dark) := by
  obtain ⟨hrows0, hcols0⟩ := decodeImageAuto_dims hcapture
  exact eightBitRight_iff_keepsRange hrows hcols hrows0 hcols0

/-- In eight bits a pixel in range is its share of 255. -/
theorem toNat_toUInt8_fpSample {p : UInt16} (h : fpSample p ≤ 255) :
    (fpSample p).toUInt8.toNat = p.toNat * 255 / 4095 := by
  have hp : p.toNat < 65536 := p.toNat_lt
  have hsample : (fpSample p).toNat = p.toNat * 255 / 4095 := by
    show (p.toUInt32 * 255 / 4095).toNat = _
    rw [UInt32.toNat_div, UInt32.toNat_mul, UInt16.toNat_toUInt32]
    exact congrArg (· / 4095) (Nat.mod_eq_of_lt (by
      show p.toNat * 255 < 4294967296
      omega))
  have hle : (fpSample p).toNat ≤ 255 := UInt32.le_iff_toNat_le.mp h
  rw [UInt32.toNat_toUInt8, ← hsample]
  exact Nat.mod_eq_of_lt (Nat.lt_succ_of_le hle)

/-- **What is stored then** is the corrected image, with nothing lost but the fractions. -/
theorem EightBitRight.storeImage_eq {body bytes : List UInt8} {capture dark : DecodedImage}
    {frame : FpnDark} (h : EightBitRight capture dark)
    (hcapture : decodeImageAuto body = .ok capture) (hframe : setDark dark = .ok frame)
    (hstore : storeImage exactFpnDoubles body (some frame) = .ok bytes) :
    ∃ pixels,
      fpnCorrect exactFpnDoubles capture.pixels capture.rows capture.cols (some frame) =
        .ok pixels ∧
      bytes.map UInt8.toNat = pixels.map fun p => p.toNat * 255 / 4095 := by
  unfold storeImage at hstore
  rw [hcapture] at hstore
  dsimp only at hstore
  rcases hcorrect : fpnCorrect exactFpnDoubles capture.pixels capture.rows capture.cols (some frame)
    with e | pixels
  · rw [hcorrect] at hstore
    cases hstore
  · rw [hcorrect] at hstore
    cases hstore
    refine ⟨pixels, rfl, ?_⟩
    rw [decodedToFpImage, List.map_map]
    refine List.map_congr_left fun p hp => ?_
    exact toNat_toUInt8_fpSample (h frame pixels hframe hcorrect p hp).2

/-! ### Words on the border -/

/-- A navigation image of words. -/
def wordsImage (px : Nat → Nat → UInt16) : DecodedImage where
  pixels := blocks 0x40 0x19 px
  rows := 0x40
  cols := 0x19

/-- The body of it. -/
def wordsBody (px : Nat → Nat → UInt16) : List UInt8 :=
  imageBody (packImage px (fun _ _ => 0) .chicagohNavU16le)

theorem decodeImageAuto_wordsBody (px : Nat → Nat → UInt16) :
    decodeImageAuto (wordsBody px) = .ok (wordsImage px) :=
  decodeImageAuto_imageBody .chicagohNavU16le nofun _

theorem pixelAt_wordsImage (px : Nat → Nat → UInt16) {y x : Nat} (hy : y < 0x40) (hx : x < 0x19) :
    (wordsImage px).pixelAt y x = (px y x).toNat :=
  congrArg UInt16.toNat (getD_blocks px hy hx 0)

/-- An image that is black but for one corner. -/
def corner (y x : Nat) : UInt16 := if y = 0 ∧ x = 0 then 0xFFFF else 0

def black (_ _ : Nat) : UInt16 := 0

/-- An image of full words, with a darker spot. -/
def spot (y x : Nat) : UInt16 := if y = 9 ∧ x = 7 then 0x0123 else 0xFFFF

/-- Behind a black dark frame two pixels inside differ, so that the words are stretched. -/
theorem eightBitRight_iff_spot : EightBitRight (wordsImage spot) (wordsImage black) := by
  have hiff : EightBitRight (wordsImage spot) (wordsImage black) ↔ _ :=
    eightBitRight_iff (decodeImageAuto_wordsBody spot) rfl rfl
  refine hiff.mpr (Or.inl ?_)
  refine ⟨9, 7, 9, 8, by unfold Inside; decide, by unfold Inside; decide, ?_⟩
  simp only [darkDiff]
  rw [pixelAt_wordsImage _ (by decide) (by decide), pixelAt_wordsImage _ (by decide) (by decide),
    pixelAt_wordsImage _ (by decide) (by decide), pixelAt_wordsImage _ (by decide) (by decide)]
  decide

theorem darkDiff_corner {y x : Nat} (hy : y < 0x40) (hx : x < 0x19) :
    darkDiff (wordsImage corner) (wordsImage black) y x = if y = 0 ∧ x = 0 then 65535 else 0 := by
  rw [darkDiff, pixelAt_wordsImage _ hy hx, pixelAt_wordsImage _ hy hx, corner]
  split <;> rfl

/-- With a black dark frame the inside is flat, and the corner stays at 65535. -/
theorem eightBitRight_corner :
    decodeImageAuto (wordsBody corner) = .ok (wordsImage corner) ∧
    decodeImageAuto (wordsBody black) = .ok (wordsImage black) ∧
    ¬ EightBitRight (wordsImage corner) (wordsImage black) := by
  refine ⟨decodeImageAuto_wordsBody _, decodeImageAuto_wordsBody _, ?_⟩
  have hflat {y x : Nat} (h : Inside 0x40 0x19 y x) :
      darkDiff (wordsImage corner) (wordsImage black) y x = 0 := by
    rw [darkDiff_corner (Nat.lt_of_succ_lt h.2.1) (Nat.lt_of_succ_lt h.2.2.2)]
    exact if_neg fun hcorner => by
      have hpos := h.1
      omega
  have hiff : EightBitRight (wordsImage corner) (wordsImage black) ↔ _ :=
    eightBitRight_iff_keepsRange rfl rfl (by decide) (by decide)
  rw [hiff]
  rintro (⟨y, x, y', x', hin, hin', hne⟩ | ⟨y, x, hin, hlt⟩ | hall)
  · exact hne ((hflat hin).trans (hflat hin').symm)
  · rw [hflat hin] at hlt
    omega
  · have hcorner := hall 0 (by decide) 0 (by decide)
    rw [darkDiff_corner (by decide) (by decide)] at hcorner
    exact absurd hcorner (by decide)

end Gxfp
