/-
The score of a match: `sigfm_match_score` in `sigfm.cpp`.

The nearest neighbours of the descriptors become correspondences of key points, which are
collected in a `std::set`.  Each two correspondences are one angle if their lengths are
about the same, and the score counts the pairs of angles that agree.

What OpenCV does is an `OpenCv`, and what `double` and `<cmath>` do is a `Doubles`.  A
distance is a `float` that is no NaN and not negative, as its value, so that three quarters
of it are exact.  An `int` is an `Int` that fits; where one does not fit there is no
result.  An allocation does not fail here.
-/
import Mathlib.Algebra.Order.Ring.WithTop
import Mathlib.Data.List.Lex
import Mathlib.Data.NNRat.Floor
import Mathlib.Order.RelIso.Basic
import Gxfp.Library.OrderedSet
import Gxfp.Library.Pairs
import Gxfp.Sigfm.Binary

namespace Gxfp

open Bytes OrderedSet Pairs

/-! ### Correspondences -/

/-- `cv::Point2i` -/
structure Point2i where
  x : Int32
  y : Int32
  deriving DecidableEq, Repr

/-- `struct match` -/
structure Match where
  p1 : Point2i
  p2 : Point2i
  deriving DecidableEq, Repr

/-- `match::operator==` -/
def Match.operatorEq (left right : Match) : Bool :=
  (left.p1.x == right.p1.x && left.p1.y == right.p1.y) &&
    (left.p2.x == right.p2.x && left.p2.y == right.p2.y)

/-- What `match::operator<` ties. -/
def Match.tie (m : Match) : List Int := [m.p1.y.toInt, m.p1.x.toInt, m.p2.y.toInt, m.p2.x.toInt]

/-- `match::operator<` -/
def Match.OperatorLt (left right : Match) : Prop := List.Lex (· < ·) left.tie right.tie

instance : DecidableRel Match.OperatorLt := fun left right =>
  inferInstanceAs (Decidable (List.Lex (· < ·) left.tie right.tie))

/-- The four coordinates are all of a correspondence. -/
theorem Match.tie_injective : Function.Injective Match.tie := by
  rintro ⟨⟨x1, y1⟩, ⟨x2, y2⟩⟩ ⟨⟨x1', y1'⟩, ⟨x2', y2'⟩⟩ h
  simp only [Match.tie, List.cons.injEq, Int32.toInt_inj, and_true] at h
  obtain ⟨rfl, rfl, rfl, rfl⟩ := h
  rfl

/-- **`match::operator<` is a strict total order.** -/
instance : IsStrictTotalOrder Match Match.OperatorLt :=
  have : IsStrictTotalOrder (List Int) (List.Lex (· < ·)) :=
    inferInstanceAs (IsStrictTotalOrder (List Int) (· < ·))
  RelEmbedding.isStrictTotalOrder
    (⟨⟨Match.tie, Match.tie_injective⟩, Iff.rfl⟩ : Match.OperatorLt ↪r List.Lex (· < ·))

/-! ### The libraries -/

/-- The distance of two descriptors. -/
abbrev Distance := WithTop ℚ≥0

/-- `cv::DMatch` -/
structure DMatch where
  queryIdx : Int32
  trainIdx : Int32
  distance : Distance

/-- What the code takes from OpenCV. -/
structure OpenCv where
  /-- `cv::BFMatcher::knnMatch` for two neighbours, or an exception. -/
  knnMatch : CvMat → CvMat → Option (List (List DMatch))
  /-- `cv::saturate_cast<int>` of a `float` -/
  saturateCast : UInt32 → Int32

/-- What the code takes from `double` and `<cmath>`. -/
structure Doubles (D : Type) where
  ofInt : Int → D
  add : D → D → D
  sub : D → D → D
  mul : D → D → D
  div : D → D → D
  lt : D → D → Bool
  le : D → D → Bool
  /-- `pow(v, 2)` -/
  square : D → D
  sqrt : D → D
  asin : D → D
  acos : D → D
  fabs : D → D
  /-- `M_PI / 2` -/
  halfPi : D
  lengthMatch : D
  angleTolRad : D

/-- An `int`, if it fits. -/
def fitsInt (v : Int) : Option Int :=
  if -2147483648 ≤ v ∧ v ≤ 2147483647 then some v else none

/-! ### Collecting the matches -/

def distanceMatch : Distance := ((3 / 4 : ℚ≥0) : Distance)

/-- What the distance of the first neighbour has to stay below. -/
def distanceLimit (second : Distance) : Distance := distanceMatch * second

def minMatch : Nat := 5

/-- `std::vector::at` -/
def vectorAt {α : Type} (v : List α) (i : Int32) : Option α :=
  if i.toInt < 0 then none else v[i.toInt.toNat]?

section Matches

variable (cv : OpenCv) (frame enrolled : SigfmImgInfo)

/-- The conversion of a `cv::Point2f` to a `cv::Point2i` -/
def toPoint2i (pt : Point2f) : Point2i := ⟨cv.saturateCast pt.x, cv.saturateCast pt.y⟩

/-- The correspondence of a neighbour that has been accepted. -/
def matchOf (match1 : DMatch) : Option Match := do
  let p1 ← vectorAt frame.keypoints match1.queryIdx
  let p2 ← vectorAt enrolled.keypoints match1.trainIdx
  return { p1 := toPoint2i cv p1.pt, p2 := toPoint2i cv p2.pt }

/-- A turn of the first loop: `matches_unique` and `nb_matched`, of which there are no more
than rows; `none` is an exception. -/
def matchStep (found : List Match × Nat) (pts : List DMatch) : Option (List Match × Nat) :=
  match pts with
  | match1 :: match2 :: _ =>
    if match1.distance < distanceLimit match2.distance then do
      let m ← matchOf cv frame enrolled match1
      return (emplace Match.OperatorLt m found.1, found.2 + 1)
    else some found
  | _ => some found

/-- The first loop. -/
def matchLoop (points : List (List DMatch)) : Option (List Match × Nat) :=
  points.foldlM (matchStep cv frame enrolled) ([], 0)

end Matches

/-! ### Angles -/

/-- `struct angle` -/
structure Angle (D : Type) where
  cos : D
  sin : D
  corrMatches : Match × Match

/-- `vec_1` and `vec_2` -/
def vec (p q : Point2i) : Option (Int × Int) := do
  let x ← fitsInt (p.x.toInt - q.x.toInt)
  let y ← fitsInt (p.y.toInt - q.y.toInt)
  return (x, y)

section Angles

variable {D : Type} (d : Doubles D)

namespace Doubles

/-- `std::min` -/
def min (a b : D) : D := if d.lt b a then b else a

/-- `std::max` -/
def max (a b : D) : D := if d.lt a b then b else a

/-- `clamp_unit` -/
def clampUnit (value : D) : D :=
  if d.lt value (d.ofInt (-1)) then d.ofInt (-1)
  else if d.lt (d.ofInt 1) value then d.ofInt 1
  else value

/-- `length_1` and `length_2` -/
def length (v : Int × Int) : D :=
  d.sqrt (d.add (d.square (d.ofInt v.1)) (d.square (d.ofInt v.2)))

/-- The two lengths are about the same. -/
def lengthsMatch (length1 length2 : D) : Bool :=
  d.le (d.sub (d.ofInt 1) (d.div (d.min length1 length2) (d.max length1 length2))) d.lengthMatch

/-- The cosine of an angle, of a sum of products and the product of the lengths. -/
def angleCos (dot : Int) (product : D) : D :=
  d.add d.halfPi (d.asin (d.clampUnit (d.div (d.ofInt dot) product)))

def angleSin (cross : Int) (product : D) : D :=
  d.acos (d.clampUnit (d.div (d.ofInt cross) product))

end Doubles

/-- `vec_1[0] * vec_2[0] + vec_1[1] * vec_2[1]` -/
def dotInt (v w : Int × Int) : Option Int := do
  let a ← fitsInt (v.1 * w.1)
  let b ← fitsInt (v.2 * w.2)
  fitsInt (a + b)

/-- `vec_1[0] * vec_2[1] - vec_1[1] * vec_2[0]` -/
def crossInt (v w : Int × Int) : Option Int := do
  let a ← fitsInt (v.1 * w.2)
  let b ← fitsInt (v.2 * w.1)
  fitsInt (a - b)

/-- A turn of the second loop, with the correspondences of `j` and `k`. -/
def angleStep (angles : List (Angle D)) (m : Match × Match) : Option (List (Angle D)) := do
  let vec1 ← vec m.1.p1 m.2.p1
  let vec2 ← vec m.1.p2 m.2.p2
  let length1 := d.length vec1
  let length2 := d.length vec2
  if d.lengthsMatch length1 length2 then
    let product := d.mul length1 length2
    let dot ← dotInt vec1 vec2
    let cross ← crossInt vec1 vec2
    return angles ++
      [{ cos := d.angleCos dot product, sin := d.angleSin cross product, corrMatches := m }]
  else return angles

/-- The second loop. -/
def angleLoop (found : List Match) : Option (List (Angle D)) :=
  (pairs found).foldlM (angleStep d) []

/-- Two angles agree. -/
def anglesAgree (angle1 angle2 : Angle D) : Bool :=
  d.le (d.fabs (d.sub angle1.sin angle2.sin)) d.angleTolRad &&
    d.le (d.fabs (d.sub angle1.cos angle2.cos)) d.angleTolRad

/-- A turn of the third loop. -/
def countStep (count : Int) (angles : Angle D × Angle D) : Option Int :=
  if anglesAgree d angles.1 angles.2 then fitsInt (count + 1) else some count

/-- The third loop. -/
def countLoop (angles : List (Angle D)) : Option Int :=
  (pairs angles).foldlM (countStep d) 0

/-- `sigfm_match_score` behind the first loop. -/
def scoreOf (found : List Match) (nbMatched : Nat) : Option Int :=
  if nbMatched < minMatch then some 0
  else do
    let angles ← angleLoop d found
    if angles.length < minMatch then return 0
    else countLoop d angles

end Angles

/-- `sigfm_match_score`, if no `int` overflows in it. -/
def sigfmMatchScore {D : Type} (cv : OpenCv) (d : Doubles D) (frame enrolled : SigfmImgInfo) :
    Option Int :=
  match cv.knnMatch frame.descriptors enrolled.descriptors with
  | none => some (-1)
  | some points =>
    match matchLoop cv frame enrolled points with
    | none => some (-1)
    | some (found, nbMatched) => scoreOf d found nbMatched

/-! ### The ratio -/

theorem distanceLimit_le (a : Distance) : distanceLimit a ≤ a := by
  induction a using WithTop.recTopCoe with
  | top => exact le_top
  | coe q =>
    have hone : (3 / 4 : ℚ≥0) ≤ 1 := by decide +kernel
    have hle : (3 / 4 : ℚ≥0) * q ≤ q := mul_le_of_le_one_left zero_le hone
    exact WithTop.coe_le_coe.mpr hle

theorem distanceLimit_mono {a b : Distance} (h : a ≤ b) :
    distanceLimit a ≤ distanceLimit b := by
  have hpos : (0 : ℚ≥0) < 3 / 4 := by decide +kernel
  have hpos' : (0 : Distance) < distanceMatch := WithTop.coe_lt_coe.mpr hpos
  exact (WithTop.mul_right_strictMono hpos' WithTop.coe_ne_top).monotone h

theorem distanceLimit_pos {q : ℚ≥0} (h : 0 < q) : (0 : Distance) < distanceLimit q := by
  have hpos : (0 : ℚ≥0) < 3 / 4 := by decide +kernel
  exact WithTop.coe_lt_coe.mpr (mul_pos hpos h)

/-! ### What the first loop collects -/

/-- The neighbour that passes the ratio test. -/
def acceptedNeighbour (pts : List DMatch) : Option DMatch :=
  match pts with
  | match1 :: match2 :: _ =>
    if match1.distance < distanceLimit match2.distance then some match1 else none
  | _ => none

section Accepted

variable (cv : OpenCv) (frame enrolled : SigfmImgInfo)

/-- The correspondences that are accepted, in order; `none` is an exception. -/
def acceptedMatches (points : List (List DMatch)) : Option (List Match) :=
  (points.filterMap acceptedNeighbour).mapM (matchOf cv frame enrolled)

theorem matchStep_eq (found : List Match × Nat) (pts : List DMatch) :
    matchStep cv frame enrolled found pts =
      match acceptedNeighbour pts with
      | none => some found
      | some match1 => (matchOf cv frame enrolled match1).map fun m =>
          (emplace Match.OperatorLt m found.1, found.2 + 1) := by
  unfold matchStep acceptedNeighbour
  split
  · split
    · exact Option.bind_eq_bind ▸ (Option.map_eq_bind ..).symm
    · rfl
  · rfl

/-- **The first loop** puts every accepted correspondence into the set, and counts them. -/
theorem matchLoop_eq (points : List (List DMatch)) :
    matchLoop cv frame enrolled points = (acceptedMatches cv frame enrolled points).map fun ms =>
      (ofList Match.OperatorLt ms, ms.length) := by
  suffices hloop : ∀ found : List Match × Nat,
      points.foldlM (matchStep cv frame enrolled) found =
        (acceptedMatches cv frame enrolled points).map fun ms =>
          (ms.foldl (fun set m => emplace Match.OperatorLt m set) found.1,
            found.2 + ms.length) by
    rw [matchLoop, hloop]
    simp only [Nat.zero_add]
    rfl
  induction points with
  | nil => exact fun found => rfl
  | cons pts points ih =>
    intro found
    rw [List.foldlM_cons, matchStep_eq]
    unfold acceptedMatches
    rcases hpts : acceptedNeighbour pts with _ | match1
    · rw [List.filterMap_cons_none hpts]
      exact ih found
    · rw [List.filterMap_cons_some hpts, List.mapM_cons]
      rcases hm : matchOf cv frame enrolled match1 with _ | m
      · simp [hm]
      · have hrest := ih (emplace Match.OperatorLt m found.1, found.2 + 1)
        unfold acceptedMatches at hrest
        rcases hall : (points.filterMap acceptedNeighbour).mapM (matchOf cv frame enrolled) with
          _ | ms
        · rw [hall] at hrest
          simp [hm, hrest]
        · rw [hall] at hrest
          simp [hm, hrest, Nat.add_right_comm, Nat.add_assoc]

variable {cv frame enrolled} in
/-- **The score** is that of what is accepted. -/
theorem sigfmMatchScore_of_accepted {D : Type} (d : Doubles D) {points : List (List DMatch)}
    {ms : List Match}
    (hpoints : cv.knnMatch frame.descriptors enrolled.descriptors = some points)
    (h : acceptedMatches cv frame enrolled points = some ms) :
    sigfmMatchScore cv d frame enrolled = scoreOf d (ofList Match.OperatorLt ms) ms.length := by
  unfold sigfmMatchScore
  rw [hpoints]
  dsimp only
  rw [matchLoop_eq, h]
  rfl

end Accepted

/-! ### What the second loop collects -/

/-- The vector between two points, in numbers that do not overflow. -/
def difference (p q : Point2i) : Int × Int := (p.x.toInt - q.x.toInt, p.y.toInt - q.y.toInt)

/-- Only a point and itself have no way between them. -/
theorem difference_eq_zero {p q : Point2i} : difference p q = (0, 0) ↔ p = q := by
  obtain ⟨px, py⟩ := p
  obtain ⟨qx, qy⟩ := q
  simp only [difference, Prod.mk.injEq, sub_eq_zero, Int32.toInt_inj, Point2i.mk.injEq]

/-- The values of an `int`. -/
def InInt (v : Int) : Prop := -2147483648 ≤ v ∧ v ≤ 2147483647

theorem fitsInt_eq_some {v w : Int} : fitsInt v = some w ↔ InInt v ∧ w = v := by
  unfold fitsInt
  by_cases h : -2147483648 ≤ v ∧ v ≤ 2147483647
  · rw [if_pos h, Option.some.injEq]
    exact ⟨fun heq => ⟨h, heq.symm⟩, fun heq => heq.2.symm⟩
  · rw [if_neg h]
    exact ⟨nofun, fun hfits => absurd hfits.1 h⟩

/-- Two numbers that have to fit before the code goes on. -/
theorem bind_fitsInt_eq_some {β : Type} {v w : Int} {f : Int → Int → Option β} {r : β} :
    ((fitsInt v).bind fun a => (fitsInt w).bind fun b => f a b) = some r ↔
      (InInt v ∧ InInt w) ∧ f v w = some r := by
  simp only [Option.bind_eq_some_iff, fitsInt_eq_some]
  constructor
  · rintro ⟨a, ⟨hv, rfl⟩, b, ⟨hw, rfl⟩, h⟩
    exact ⟨⟨hv, hw⟩, h⟩
  · rintro ⟨⟨hv, hw⟩, h⟩
    exact ⟨v, ⟨hv, rfl⟩, w, ⟨hw, rfl⟩, h⟩

theorem vec_eq_some {p q : Point2i} {v : Int × Int} :
    vec p q = some v ↔
      (InInt (difference p q).1 ∧ InInt (difference p q).2) ∧ v = difference p q := by
  refine bind_fitsInt_eq_some.trans (and_congr_right fun _ => ?_)
  exact Option.some_inj.trans eq_comm

/-- The dot product of two vectors, and its terms, are values of an `int`. -/
def DotFits (v w : Int × Int) : Prop :=
  InInt (v.1 * w.1) ∧ InInt (v.2 * w.2) ∧ InInt (v.1 * w.1 + v.2 * w.2)

/-- So is the cross product. -/
def CrossFits (v w : Int × Int) : Prop :=
  InInt (v.1 * w.2) ∧ InInt (v.2 * w.1) ∧ InInt (v.1 * w.2 - v.2 * w.1)

theorem dotInt_eq_some {v w : Int × Int} {n : Int} :
    dotInt v w = some n ↔ DotFits v w ∧ n = v.1 * w.1 + v.2 * w.2 := by
  refine bind_fitsInt_eq_some.trans ?_
  rw [fitsInt_eq_some, DotFits]
  tauto

theorem crossInt_eq_some {v w : Int × Int} {n : Int} :
    crossInt v w = some n ↔ CrossFits v w ∧ n = v.1 * w.2 - v.2 * w.1 := by
  refine bind_fitsInt_eq_some.trans ?_
  rw [fitsInt_eq_some, CrossFits]
  tauto

section Retained

variable {D : Type} (d : Doubles D)

/-- The vectors between two correspondences have about the same length. -/
def LengthsAgree (m : Match × Match) : Prop :=
  d.lengthsMatch (d.length (difference m.1.p1 m.2.p1)) (d.length (difference m.1.p2 m.2.p2)) = true

instance (m : Match × Match) : Decidable (LengthsAgree d m) :=
  inferInstanceAs (Decidable (_ = true))

/-- The angle of two correspondences, if it is retained. -/
def retainedAngle (m : Match × Match) : Option (Angle D) :=
  let vec1 := difference m.1.p1 m.2.p1
  let vec2 := difference m.1.p2 m.2.p2
  let product := d.mul (d.length vec1) (d.length vec2)
  if LengthsAgree d m then
    some
      { cos := d.angleCos (vec1.1 * vec2.1 + vec1.2 * vec2.2) product
        sin := d.angleSin (vec1.1 * vec2.2 - vec1.2 * vec2.1) product
        corrMatches := m }
  else none

/-- No `int` overflows over two correspondences. -/
structure PairFits (m : Match × Match) : Prop where
  vec1 : InInt (difference m.1.p1 m.2.p1).1 ∧ InInt (difference m.1.p1 m.2.p1).2
  vec2 : InInt (difference m.1.p2 m.2.p2).1 ∧ InInt (difference m.1.p2 m.2.p2).2
  products : LengthsAgree d m →
    DotFits (difference m.1.p1 m.2.p1) (difference m.1.p2 m.2.p2) ∧
      CrossFits (difference m.1.p1 m.2.p1) (difference m.1.p2 m.2.p2)

theorem angleStep_eq_some (angles : List (Angle D)) (m : Match × Match)
    (angles' : List (Angle D)) :
    angleStep d angles m = some angles' ↔
      PairFits d m ∧ angles' = angles ++ (retainedAngle d m).toList := by
  unfold angleStep
  simp only [Option.bind_eq_bind, Option.bind_eq_some_iff, vec_eq_some]
  have hagree : LengthsAgree d m ↔ d.lengthsMatch (d.length (difference m.1.p1 m.2.p1))
      (d.length (difference m.1.p2 m.2.p2)) = true := Iff.rfl
  by_cases hlen : LengthsAgree d m
  · have hretained : retainedAngle d m = some _ := if_pos hlen
    rw [hretained]
    constructor
    · rintro ⟨vec1, ⟨hvec1, rfl⟩, vec2, ⟨hvec2, rfl⟩, h⟩
      rw [if_pos (hagree.mp hlen)] at h
      simp only [Option.bind_eq_some_iff, dotInt_eq_some, crossInt_eq_some] at h
      obtain ⟨dot, ⟨hdot, rfl⟩, cross, ⟨hcross, rfl⟩, h⟩ := h
      cases h
      exact ⟨⟨hvec1, hvec2, fun _ => ⟨hdot, hcross⟩⟩, rfl⟩
    · rintro ⟨h, rfl⟩
      refine ⟨_, ⟨h.vec1, rfl⟩, _, ⟨h.vec2, rfl⟩, ?_⟩
      rw [if_pos (hagree.mp hlen)]
      simp only [Option.bind_eq_some_iff, dotInt_eq_some, crossInt_eq_some]
      exact ⟨_, ⟨(h.products hlen).1, rfl⟩, _, ⟨(h.products hlen).2, rfl⟩, rfl⟩
  · have hretained : retainedAngle d m = none := if_neg hlen
    rw [hretained]
    constructor
    · rintro ⟨vec1, ⟨hvec1, rfl⟩, vec2, ⟨hvec2, rfl⟩, h⟩
      rw [if_neg fun h => hlen (hagree.mpr h)] at h
      cases h
      exact ⟨⟨hvec1, hvec2, fun h => absurd h hlen⟩, (List.append_nil _).symm⟩
    · rintro ⟨h, rfl⟩
      refine ⟨_, ⟨h.vec1, rfl⟩, _, ⟨h.vec2, rfl⟩, ?_⟩
      rw [if_neg fun h => hlen (hagree.mpr h)]
      exact congrArg some (List.append_nil _).symm

/-- **The second loop** collects the angles that are retained, or an `int` overflows. -/
theorem angleLoop_eq_some {found : List Match} {angles : List (Angle D)} :
    angleLoop d found = some angles ↔
      (∀ m ∈ pairs found, PairFits d m) ∧ angles = (pairs found).filterMap (retainedAngle d) :=
  foldlM_collect (angleStep_eq_some d) (pairs found) [] angles

end Retained

end Gxfp
