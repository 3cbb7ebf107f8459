/-
Whether `sigfm_match_score` counts truly.

The score counts pairs of angles, and an angle is a pair of correspondences, so that it grows
with the fourth power of their number; `count` is an `int`.  With 362 correspondences it
cannot overflow, with 363 it can.  Before that the vectors and products of the second loop
may overflow, if key points are far apart, and `at` throws if a row has no key point.
-/
import Gxfp.Sigfm.Reorder

namespace Gxfp

open Bytes OrderedSet Pairs

section Count

variable {D : Type} (cv : OpenCv) (d : Doubles D) (frame enrolled : SigfmImgInfo)

/-! ### What is counted -/

/-- The angles that are retained of accepted matches. -/
def retainedAngles (ms : List Match) : List (Angle D) :=
  (pairs (ofList Match.OperatorLt ms)).filterMap (retainedAngle d)

/-- The pairs of retained angles that agree, as pairs of indices. -/
def agreeingPairs (ms : List Match) :
    Finset (Fin (retainedAngles d ms).length × Fin (retainedAngles d ms).length) :=
  indexPairs (anglesAgree d) (retainedAngles d ms)

/-- How many there are, or 0 below the two thresholds. -/
def trueScore (ms : List Match) : Nat :=
  if ms.length < minMatch then 0
  else if (retainedAngles d ms).length < minMatch then 0
  else (agreeingPairs d ms).card

/-- `sigfm_match_score` returns the true count, which is not negative. -/
def CountsTruly : Prop :=
  ∃ n : Nat, sigfmMatchScore cv d frame enrolled = some (n : Int) ∧
    ∀ points ms, cv.knnMatch frame.descriptors enrolled.descriptors = some points →
      acceptedMatches cv frame enrolled points = some ms → n = trueScore d ms

/-! ### The third loop -/

/-- The largest value of `count` -/
def countMax : Nat := 2147483647

theorem fitsInt_succ (count : Nat) :
    fitsInt ((count : Int) + 1) =
      if count < countMax then some ((count + 1 : Nat) : Int) else none := by
  unfold fitsInt countMax
  by_cases h : count < 2147483647
  · rw [if_pos h, if_pos (by omega), Int.natCast_succ]
  · rw [if_neg h, if_neg (by omega)]

/-- **The third loop** counts the pairs that agree, or `count` overflows. -/
theorem countLoop_eq (ms : List Match) :
    countLoop d (retainedAngles d ms) =
      if (agreeingPairs d ms).card ≤ countMax then some ((agreeingPairs d ms).card : Int)
      else none := by
  have hcount := @foldlM_count _ Int (fun n : Nat => (n : Int)) (fun count => fitsInt (count + 1))
    countMax fitsInt_succ (fun a => anglesAgree d a.1 a.2) (pairs (retainedAngles d ms)) 0
    (Nat.zero_le countMax)
  rw [countP_pairs, Nat.zero_add] at hcount
  exact hcount

/-! ### The score -/

/-- No `int` overflows behind the first loop. -/
structure CountFits (ms : List Match) : Prop where
  vectors : ∀ m ∈ pairs (ofList Match.OperatorLt ms), PairFits d m
  count : (agreeingPairs d ms).card ≤ countMax

/-- Few angles have few pairs. -/
theorem card_agreeingPairs_of_few {ms : List Match}
    (h : (retainedAngles d ms).length < minMatch) : (agreeingPairs d ms).card ≤ countMax := by
  have hcard := card_indexPairs_le (anglesAgree d) (retainedAngles d ms)
  have hchoose := Nat.choose_le_choose 2 (Nat.le_of_lt_succ h)
  have hsix : Nat.choose 4 2 ≤ countMax := by decide
  exact hcard.trans (hchoose.trans hsix)

theorem scoreOf_eq_some (ms : List Match) (n : Int) :
    scoreOf d (ofList Match.OperatorLt ms) ms.length = some n ↔
      (minMatch ≤ ms.length → CountFits d ms) ∧ n = trueScore d ms := by
  unfold scoreOf trueScore
  by_cases hfew : ms.length < minMatch
  · rw [if_pos hfew, if_pos hfew, Option.some.injEq]
    constructor
    · rintro rfl
      exact ⟨fun h => absurd hfew (not_lt.mpr h), rfl⟩
    · rintro ⟨-, rfl⟩
      rfl
  rw [if_neg hfew, if_neg hfew]
  by_cases hvectors : ∀ m ∈ pairs (ofList Match.OperatorLt ms), PairFits d m
  · have hangles : angleLoop d (ofList Match.OperatorLt ms) = some (retainedAngles d ms) :=
      (angleLoop_eq_some d).mpr ⟨hvectors, rfl⟩
    rw [hangles, Option.bind_eq_bind, Option.bind_some]
    by_cases hfewAngles : (retainedAngles d ms).length < minMatch
    · rw [if_pos hfewAngles, if_pos hfewAngles]
      constructor
      · intro h
        cases h
        exact ⟨fun _ => ⟨hvectors, card_agreeingPairs_of_few d hfewAngles⟩, rfl⟩
      · rintro ⟨-, rfl⟩
        rfl
    rw [if_neg hfewAngles, if_neg hfewAngles, countLoop_eq]
    by_cases hcount : (agreeingPairs d ms).card ≤ countMax
    · rw [if_pos hcount, Option.some.injEq]
      constructor
      · rintro rfl
        exact ⟨fun _ => ⟨hvectors, hcount⟩, rfl⟩
      · rintro ⟨-, rfl⟩
        rfl
    · rw [if_neg hcount]
      exact ⟨nofun, fun h => absurd (h.1 (not_lt.mp hfew)).count hcount⟩
  · have hangles : angleLoop d (ofList Match.OperatorLt ms) = none := by
      rcases h : angleLoop d (ofList Match.OperatorLt ms) with _ | angles
      · rfl
      · exact absurd ((angleLoop_eq_some d).mp h).1 hvectors
    rw [hangles]
    exact ⟨nofun, fun h => absurd (h.1 (not_lt.mp hfew)).vectors hvectors⟩

/-- **362 correspondences are not too many**, whatever their angles. -/
theorem card_agreeingPairs_le {ms : List Match}
    (h : (ofList Match.OperatorLt ms).length ≤ 362) : (agreeingPairs d ms).card ≤ countMax := by
  have hangles : (retainedAngles d ms).length ≤ Nat.choose 362 2 := by
    refine (List.length_filterMap_le ..).trans ?_
    rw [length_pairs]
    exact Nat.choose_le_choose 2 h
  have hcard := card_indexPairs_le (anglesAgree d) (retainedAngles d ms)
  have hlimit : (Nat.choose 362 2).choose 2 ≤ countMax := by
    rw [Nat.choose_two_right, Nat.choose_two_right]
    decide
  exact hcard.trans ((Nat.choose_le_choose 2 hangles).trans hlimit)

variable {cv d frame enrolled}

theorem countsTruly_of_accepted {points : List (List DMatch)} {ms : List Match}
    (hpoints : cv.knnMatch frame.descriptors enrolled.descriptors = some points)
    (haccepted : acceptedMatches cv frame enrolled points = some ms) :
    CountsTruly cv d frame enrolled ↔ (minMatch ≤ ms.length → CountFits d ms) := by
  unfold CountsTruly
  simp only [sigfmMatchScore_of_accepted d hpoints haccepted, scoreOf_eq_some]
  constructor
  · rintro ⟨n, ⟨hfits, -⟩, -⟩
    exact hfits
  · intro hfits
    refine ⟨trueScore d ms, ⟨hfits, rfl⟩, ?_⟩
    intro points' ms' hpoints' haccepted'
    cases hpoints.symm.trans hpoints'
    cases haccepted.symm.trans haccepted'
    rfl

/--
**When the score is the true count.**

It is if every row that is accepted has a key point, and below the first threshold always.
From there on no vector or product of two correspondences may overflow, and no more pairs
of angles may agree than an `int` has room for.
-/
theorem countsTruly_iff {points : List (List DMatch)}
    (hpoints : cv.knnMatch frame.descriptors enrolled.descriptors = some points) :
    CountsTruly cv d frame enrolled ↔
      ∃ ms, acceptedMatches cv frame enrolled points = some ms ∧
        (minMatch ≤ ms.length → CountFits d ms) := by
  rcases haccepted : acceptedMatches cv frame enrolled points with _ | ms
  · constructor
    · rintro ⟨n, hscore, -⟩
      unfold sigfmMatchScore at hscore
      rw [hpoints] at hscore
      dsimp only at hscore
      rw [matchLoop_eq, haccepted] at hscore
      -- an exception is a score of -1
      have hneg := Option.some.inj hscore
      omega
    · rintro ⟨ms, h, -⟩
      cases h
  · rw [countsTruly_of_accepted hpoints haccepted]
    constructor
    · exact fun hfits => ⟨ms, rfl, hfits⟩
    · rintro ⟨ms', h, hfits⟩
      cases h
      exact hfits

end Count

/-! ### Key points in a line -/

/-- The bits of an integer as a `float`. -/
def floatBits (n : Nat) : UInt32 :=
  if n = 0 then 0 else UInt32.ofNat ((126 + n.log2) * 2 ^ 23 + n * 2 ^ (23 - n.log2))

/-- What a `float` is that is an integer from 0 to 2 ^ 24. -/
def floatNat (x : UInt32) : Nat :=
  if x = 0 then 0 else (2 ^ 23 + x.toNat % 2 ^ 23) / 2 ^ (150 - x.toNat / 2 ^ 23)

theorem floatNat_floatBits : ∀ n < 512, floatNat (floatBits n) = n := by decide +kernel

/-- The distance of two rows of `float`s that differ in the first. -/
def lineDistance (row row' : List UInt8) : Distance :=
  let x := floatNat (UInt32.ofNat (leValue (row.take 4)))
  let y := floatNat (UInt32.ofNat (leValue (row'.take 4)))
  ((x - y + (y - x) : Nat) : ℚ≥0)

/-- OpenCV, as far as a line of key points goes. -/
def lineCv : OpenCv := bruteForce lineDistance fun x => Int32.ofNat (floatNat x)

def lineRow (i : Nat) : List UInt8 := writeFloat (floatBits i) ++ zeros 508

/-- `n` key points next to each other; their descriptors have 128 columns. -/
def line (n : Nat) : SigfmImgInfo where
  keypoints := (List.range n).map fun i => ⟨-1, 0, 0, 0, 0, ⟨floatBits i, 0⟩⟩
  descriptors := ⟨5, Int32.ofNat n, 128, (List.range n).flatMap lineRow⟩

/-- The correspondence of a key point of the line with itself. -/
def lineMatch (i : Nat) : Match := ⟨⟨Int32.ofNat i, 0⟩, ⟨Int32.ofNat i, 0⟩⟩

theorem take_drop_flatMap {α β : Type} {f : α → List β} {w : Nat} {xs : List α}
    (hf : ∀ x ∈ xs, (f x).length = w) {i : Nat} (hi : i < xs.length) :
    ((xs.flatMap f).drop (i * w)).take w = f xs[i] := by
  induction xs generalizing i with
  | nil => cases hi
  | cons x xs ih =>
    obtain ⟨hx, hxs⟩ := List.forall_mem_cons.mp hf
    rw [List.flatMap_cons]
    cases i with
    | zero => rw [Nat.zero_mul, List.drop_zero, List.take_left' hx, List.getElem_cons_zero]
    | succ i =>
      rw [Nat.succ_mul, Nat.add_comm, ← List.drop_drop, List.drop_left' hx, List.getElem_cons_succ]
      exact ih hxs (Nat.lt_of_succ_lt_succ hi)

section Line

variable {n : Nat}

theorem length_lineRow (i : Nat) : (lineRow i).length = 512 := by
  simp [lineRow, writeFloat]

theorem line_rowCount (hn : n < 512) : (line n).descriptors.rowCount = n := by
  unfold line CvMat.rowCount
  rw [Int32.toInt_ofNat_of_lt (by omega), Int.toNat_natCast]

theorem line_row (hn : n < 512) {i : Nat} (hi : i < n) :
    (line n).descriptors.row i = lineRow i := by
  have hlen : (line n).descriptors.data.length = n * 512 := by
    simp [line, length_lineRow]
  unfold CvMat.row
  rw [line_rowCount hn, hlen, Nat.mul_div_cancel_left _ (by omega)]
  have hrange : i < (List.range n).length := by simpa using hi
  have hrow := take_drop_flatMap (fun i _ => length_lineRow i) hrange
  rwa [List.getElem_range] at hrow

theorem lineDistance_eq {i j : Nat} (hi : i < 512) (hj : j < 512) :
    lineDistance (lineRow i) (lineRow j) = ((i - j + (j - i) : Nat) : ℚ≥0) := by
  have hvalue : ∀ i < 512, floatNat (UInt32.ofNat (leValue ((lineRow i).take 4))) = i := by
    intro i hi
    have htake : (lineRow i).take 4 = writeFloat (floatBits i) := by
      simp [lineRow, writeFloat]
    rw [htake, writeFloat, leValue_leBytes (floatBits i).toNat_lt, UInt32.ofNat_toNat,
      floatNat_floatBits i hi]
  unfold lineDistance
  rw [hvalue i hi, hvalue j hj]

/-- **Every row of the line is nearest to itself.** -/
theorem line_outstanding (hn : n < 512) (htwo : 2 ≤ n) {i : Nat} (hi : i < n) :
    Outstanding lineDistance ((line n).descriptors.row i) (line n).descriptors.row n i := by
  refine ⟨hi, htwo, fun k hk hne => ?_⟩
  rw [line_row hn hi, line_row hn hk, lineDistance_eq (by omega) (by omega),
    lineDistance_eq (by omega) (by omega)]
  have hzero : i - i + (i - i) = 0 := by omega
  have hpos : 0 < i - k + (k - i) := by omega
  rw [hzero]
  exact_mod_cast distanceLimit_pos (Nat.cast_pos.mpr hpos)

/-- All of them are accepted. -/
theorem line_accepted (hn : n < 512) (htwo : 2 ≤ n) :
    ∃ points, lineCv.knnMatch (line n).descriptors (line n).descriptors = some points ∧
      acceptedMatches lineCv (line n) (line n) points = some ((List.range n).map lineMatch) := by
  obtain ⟨points, hpoints, hlen, hnearest⟩ :=
    bruteForce_findsNearest lineDistance (fun x => Int32.ofNat (floatNat x)) (line n).descriptors
      (line n).descriptors
  rw [line_rowCount hn] at hlen hnearest
  have hkeypoints : (line n).keypoints.length = n := by simp [line]
  refine ⟨points, hpoints, ?_⟩
  rw [acceptedMatches_rows lineCv hkeypoints hkeypoints hlen hnearest]
  have hrow : ∀ i : Fin n,
      correspondence lineCv (line n) (line n) (points.getD i []) = some (lineMatch i) := by
    intro i
    refine ((hnearest i i.isLt).correspondence_eq_some).mpr ?_
    have hkeypoint : (line n).keypoints[(i : Nat)]? =
        some ⟨-1, 0, 0, 0, 0, ⟨floatBits i, 0⟩⟩ := by
      simp [line]
    have hpoint : toPoint2i lineCv ⟨floatBits i, 0⟩ = ⟨Int32.ofNat i, 0⟩ := by
      have hx := floatNat_floatBits i (i.isLt.trans hn)
      show Point2i.mk (Int32.ofNat (floatNat (floatBits i))) _ = _
      rw [hx]
      rfl
    refine ⟨i, _, _, line_outstanding hn htwo i.isLt, hkeypoint, hkeypoint, ?_⟩
    rw [hpoint]
    rfl
  rw [List.filterMap_congr fun i _ => hrow i, ← List.map_coe_finRange_eq_range, List.map_map,
    ← List.filterMap_eq_map]
  rfl

theorem toInt_lineX {i : Nat} (hi : i < 512) : (Int32.ofNat i).toInt = i :=
  Int32.toInt_ofNat_of_lt (by omega)

theorem lineMatch_difference {i j : Nat} (hi : i < 512) (hj : j < 512) :
    difference (lineMatch i).p1 (lineMatch j).p1 = ((i : Int) - j, 0) ∧
      difference (lineMatch i).p2 (lineMatch j).p2 = ((i : Int) - j, 0) := by
  simp [difference, lineMatch, toInt_lineX hi, toInt_lineX hj]

theorem lineMatch_fits {i j : Nat} (hi : i < 512) (hj : j < 512) :
    PairFits exactDoubles (lineMatch i, lineMatch j) := by
  obtain ⟨hp1, hp2⟩ := lineMatch_difference hi hj
  have hx : InInt ((i : Int) - j) := by
    unfold InInt
    omega
  have hzero : InInt 0 := by
    unfold InInt
    omega
  have hsquare : InInt (((i : Int) - j) * ((i : Int) - j)) := by
    unfold InInt
    constructor
    · nlinarith
    · nlinarith
  refine ⟨?_, ?_, fun _ => ?_⟩
  · rw [hp1]
    exact ⟨hx, hzero⟩
  · rw [hp2]
    exact ⟨hx, hzero⟩
  · rw [hp1, hp2]
    simp only [DotFits, CrossFits, mul_zero, zero_mul, add_zero, sub_zero]
    exact ⟨⟨hsquare, hzero, hsquare⟩, hzero, hzero, hzero⟩

/-- **The angle of two correspondences of the line** is the same for any two. -/
theorem lineMatch_angle {i j : Nat} (hi : i < 512) (hj : j < 512) (hne : i ≠ j) :
    retainedAngle exactDoubles (lineMatch i, lineMatch j) =
      some ⟨some Real.pi, some (Real.pi / 2), (lineMatch i, lineMatch j)⟩ := by
  obtain ⟨hp1, hp2⟩ := lineMatch_difference hi hj
  have hx : (i : ℝ) - j ≠ 0 := sub_ne_zero.mpr (Nat.cast_injective.ne hne)
  have hlen : exactDoubles.length ((i : Int) - j, 0) = some |(i : ℝ) - j| := by
    rw [exactDoubles_length, realLength]
    simp [Real.sqrt_sq_eq_abs]
  have hpos : 0 < |(i : ℝ) - j| := abs_pos.mpr hx
  have hagree : LengthsAgree exactDoubles (lineMatch i, lineMatch j) := by
    unfold LengthsAgree Doubles.lengthsMatch
    rw [hp1, hp2, hlen, exactDoubles_min, exactDoubles_max, min_self, max_self,
      exactDoubles_div hpos.ne', div_self hpos.ne']
    refine exactDoubles_le.mpr ?_
    norm_num
  have hproduct : exactDoubles.mul (some |(i : ℝ) - j|) (some |(i : ℝ) - j|) =
      some (((i : ℝ) - j) * ((i : ℝ) - j)) := by
    rw [← abs_mul_abs_self ((i : ℝ) - j)]
    rfl
  have hcos : exactDoubles.angleCos (((i : Int) - j) * ((i : Int) - j) + 0 * 0)
      (some (((i : ℝ) - j) * ((i : ℝ) - j))) = some Real.pi := by
    rw [(exactDoubles_angle _ (mul_ne_zero hx hx)).1]
    push_cast
    rw [add_zero, div_self (mul_ne_zero hx hx), Real.arcsin_one, add_halves]
  have hsin : exactDoubles.angleSin (((i : Int) - j) * 0 - 0 * ((i : Int) - j))
      (some (((i : ℝ) - j) * ((i : ℝ) - j))) = some (Real.pi / 2) := by
    rw [(exactDoubles_angle _ (mul_ne_zero hx hx)).2, mul_zero, zero_mul, sub_zero, Int.cast_zero,
      zero_div, Real.arccos_zero]
  unfold retainedAngle
  rw [if_pos hagree, hp1, hp2, hlen, hproduct, hcos, hsin]

/-- The correspondences of the line are all different. -/
theorem lineMatches_perm (hn : n < 512) :
    (ofList Match.OperatorLt ((List.range n).map lineMatch)).Perm
      ((List.range n).map lineMatch) := by
  refine ofList_perm (List.Nodup.map_on ?_ List.nodup_range)
  intro i hi j hj heq
  rw [List.mem_range] at hi hj
  have hx := congrArg (fun m : Match => m.p1.x.toInt) heq
  simp only [lineMatch, toInt_lineX (hi.trans hn), toInt_lineX (hj.trans hn)] at hx
  omega

/-- Two of them are those of two places. -/
theorem mem_pairs_line (hn : n < 512) {m : Match × Match}
    (hm : m ∈ pairs (ofList Match.OperatorLt ((List.range n).map lineMatch))) :
    ∃ i < 512, ∃ j < 512, i ≠ j ∧ m = (lineMatch i, lineMatch j) := by
  obtain ⟨h1, h2, hne⟩ := ne_of_mem_pairs (nodup_ofList _) hm
  obtain ⟨i, hi, hm1⟩ := List.mem_map.mp (mem_ofList.mp h1)
  obtain ⟨j, hj, hm2⟩ := List.mem_map.mp (mem_ofList.mp h2)
  rw [List.mem_range] at hi hj
  refine ⟨i, hi.trans hn, j, hj.trans hn, ?_, ?_⟩
  · rintro rfl
    exact hne (hm1.symm.trans hm2)
  · rw [hm1, hm2]

/-- Angles that are the same are within the tolerance. -/
theorem exactDoubles_within (x : ℝ) :
    exactDoubles.le (exactDoubles.fabs (exactDoubles.sub (some x) (some x)))
      exactDoubles.angleTolRad = true := by
  have hzero : exactDoubles.fabs (exactDoubles.sub (some x) (some x)) = some 0 := by
    show some |x - x| = some 0
    rw [sub_self, abs_zero]
  rw [hzero]
  refine exactDoubles_le.mpr ?_
  norm_num

/-- **Every two angles of the line agree.** -/
theorem card_agreeingPairs_line (hn : n < 512) :
    (agreeingPairs exactDoubles ((List.range n).map lineMatch)).card = (n.choose 2).choose 2 := by
  have hangle : ∀ m ∈ pairs (ofList Match.OperatorLt ((List.range n).map lineMatch)),
      retainedAngle exactDoubles m = some ⟨some Real.pi, some (Real.pi / 2), m⟩ := by
    intro m hm
    obtain ⟨i, hi, j, hj, hne, rfl⟩ := mem_pairs_line hn hm
    exact lineMatch_angle hi hj hne
  have hangles : retainedAngles exactDoubles ((List.range n).map lineMatch) =
      (pairs (ofList Match.OperatorLt ((List.range n).map lineMatch))).map fun m =>
        ⟨some Real.pi, some (Real.pi / 2), m⟩ := by
    unfold retainedAngles
    rw [List.filterMap_congr hangle]
    exact congrFun List.filterMap_eq_map' _
  have hagree : ∀ a ∈ retainedAngles exactDoubles ((List.range n).map lineMatch),
      ∀ b ∈ retainedAngles exactDoubles ((List.range n).map lineMatch),
        anglesAgree exactDoubles a b = true := by
    intro a ha b hb
    rw [hangles] at ha hb
    obtain ⟨m, -, rfl⟩ := List.mem_map.mp ha
    obtain ⟨m', -, rfl⟩ := List.mem_map.mp hb
    unfold anglesAgree
    rw [exactDoubles_within, exactDoubles_within]
    rfl
  rw [agreeingPairs, card_indexPairs_eq hagree, hangles, List.length_map, length_pairs,
    (lineMatches_perm hn).length_eq, List.length_map, List.length_range]

/-- On the line only `count` can overflow. -/
theorem line_fits (hn : n < 512) (hcount : (n.choose 2).choose 2 ≤ countMax) :
    CountFits exactDoubles ((List.range n).map lineMatch) := by
  refine ⟨fun m hm => ?_, (card_agreeingPairs_line hn).trans_le hcount⟩
  obtain ⟨i, hi, j, hj, -, rfl⟩ := mem_pairs_line hn hm
  exact lineMatch_fits hi hj

end Line

/-- 362 key points have 2134690470 pairs of angles. -/
theorem countsTruly_iff_line362 : CountsTruly lineCv exactDoubles (line 362) (line 362) := by
  obtain ⟨points, hpoints, haccepted⟩ := line_accepted (n := 362) (by decide) (by decide)
  refine (countsTruly_iff hpoints).mpr ⟨_, haccepted, fun _ => line_fits (by decide) ?_⟩
  rw [Nat.choose_two_right, Nat.choose_two_right]
  decide

/-- 363 have 2158409253. -/
theorem countsTruly_line363 : ¬ CountsTruly lineCv exactDoubles (line 363) (line 363) := by
  obtain ⟨points, hpoints, haccepted⟩ := line_accepted (n := 363) (by decide) (by decide)
  rw [countsTruly_of_accepted hpoints haccepted]
  intro hfits
  have hmany : minMatch ≤ ((List.range 363).map lineMatch).length := by
    rw [List.length_map, List.length_range]
    decide
  have hcount := (hfits hmany).count
  rw [card_agreeingPairs_line (by decide), Nat.choose_two_right, Nat.choose_two_right] at hcount
  exact absurd hcount (by decide)

end Gxfp
