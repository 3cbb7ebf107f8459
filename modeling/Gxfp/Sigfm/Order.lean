/-
Why `sigfm_match_score` never divides by zero.

Nothing in the second loop looks whether a divisor is zero.  The set does it: it holds
correspondences that differ in some coordinate, so that of two of them one vector at least
is not zero, and the larger length is positive.  If the other length were zero the ratio of
the two would not pass the test, so that their product is positive behind it.

The arithmetic is exact here, in reals and a value that is not a number.  What is not a
number stays so, and compares with nothing; a quotient by zero is not a number.
-/
import Mathlib.Analysis.SpecialFunctions.Trigonometric.Inverse
import Gxfp.Sigfm.Match

namespace Gxfp

open OrderedSet Pairs

/-! ### Exact arithmetic -/

/-- Real numbers, with `none` for what is not a number. -/
abbrev Exact := Option ℝ

open Classical in
/-- What `double` and `<cmath>` do if nothing is rounded. -/
noncomputable def exactDoubles : Doubles Exact where
  ofInt n := some n
  add := Option.map₂ (· + ·)
  sub := Option.map₂ (· - ·)
  mul := Option.map₂ (· * ·)
  div a b := if b = some 0 then none else Option.map₂ (· / ·) a b
  lt a b := decide (∃ x ∈ a, ∃ y ∈ b, x < y)
  le a b := decide (∃ x ∈ a, ∃ y ∈ b, x ≤ y)
  square := Option.map fun x => x ^ 2
  sqrt a := a.bind fun x => if 0 ≤ x then some (Real.sqrt x) else none
  asin a := a.bind fun x => if -1 ≤ x ∧ x ≤ 1 then some (Real.arcsin x) else none
  acos a := a.bind fun x => if -1 ≤ x ∧ x ≤ 1 then some (Real.arccos x) else none
  fabs := Option.map abs
  halfPi := some (Real.pi / 2)
  lengthMatch := some (5 / 100)
  angleTolRad := some (10 / 100)

section Exact

variable {x y : ℝ}

theorem exactDoubles_lt : exactDoubles.lt (some x) (some y) = true ↔ x < y := by
  simp [exactDoubles]

theorem exactDoubles_le : exactDoubles.le (some x) (some y) = true ↔ x ≤ y := by
  simp [exactDoubles]

theorem exactDoubles_div (hy : y ≠ 0) : exactDoubles.div (some x) (some y) = some (x / y) := by
  show (if some y = some 0 then none else _) = _
  rw [if_neg fun h => hy (Option.some.inj h)]
  rfl

theorem exactDoubles_min : exactDoubles.min (some x) (some y) = some (min x y) := by
  unfold Doubles.min
  by_cases h : y < x
  · rw [if_pos (exactDoubles_lt.mpr h), min_eq_right h.le]
  · rw [if_neg fun hlt => h (exactDoubles_lt.mp hlt), min_eq_left (not_lt.mp h)]

theorem exactDoubles_max : exactDoubles.max (some x) (some y) = some (max x y) := by
  unfold Doubles.max
  by_cases h : x < y
  · rw [if_pos (exactDoubles_lt.mpr h), max_eq_right h.le]
  · rw [if_neg fun hlt => h (exactDoubles_lt.mp hlt), max_eq_left (not_lt.mp h)]

theorem exactDoubles_clampUnit (x : ℝ) :
    exactDoubles.clampUnit (some x) = some (max (-1) (min 1 x)) := by
  have hlow : exactDoubles.ofInt (-1) = some (-1) := by
    show some ((-1 : ℤ) : ℝ) = _
    norm_num
  have hhigh : exactDoubles.ofInt 1 = some 1 := by
    show some ((1 : ℤ) : ℝ) = _
    norm_num
  unfold Doubles.clampUnit
  rw [hlow, hhigh]
  by_cases hlt : x < -1
  · rw [if_pos (exactDoubles_lt.mpr hlt), min_eq_right (by linarith), max_eq_left hlt.le]
  rw [if_neg fun h => hlt (exactDoubles_lt.mp h)]
  by_cases hgt : 1 < x
  · rw [if_pos (exactDoubles_lt.mpr hgt), min_eq_left hgt.le, max_eq_right (by norm_num)]
  · rw [if_neg fun h => hgt (exactDoubles_lt.mp h), min_eq_right (not_lt.mp hgt),
      max_eq_right (not_lt.mp hlt)]

/-- **With a divisor that is not zero an angle is a number.**  What has been clamped is in the
domain of `asin` and `acos`. -/
theorem exactDoubles_angle (n : Int) {product : ℝ} (hproduct : product ≠ 0) :
    exactDoubles.angleCos n (some product) = some (Real.pi / 2 + Real.arcsin (n / product)) ∧
      exactDoubles.angleSin n (some product) = some (Real.arccos (n / product)) := by
  have hdiv : exactDoubles.div (exactDoubles.ofInt n) (some product) = some (n / product) :=
    exactDoubles_div hproduct
  have hrange : (-1 : ℝ) ≤ 1 := by norm_num
  have hasin := Real.arcsin_projIcc (n / product)
  rw [Set.coe_projIcc] at hasin
  have hlow : -1 ≤ max (-1) (min 1 (n / product)) := le_max_left _ _
  have hhigh : max (-1) (min 1 (n / product)) ≤ 1 := max_le hrange (min_le_left _ _)
  unfold Doubles.angleCos Doubles.angleSin
  rw [hdiv, exactDoubles_clampUnit]
  constructor
  · simp [exactDoubles, hlow, hhigh, hasin]
  · simp [exactDoubles, hlow, hhigh, Real.arccos, hasin]

end Exact

/-! ### Lengths -/

/-- The length of a vector. -/
noncomputable def realLength (v : Int × Int) : ℝ := Real.sqrt ((v.1 : ℝ) ^ 2 + (v.2 : ℝ) ^ 2)

theorem exactDoubles_length (v : Int × Int) : exactDoubles.length v = some (realLength v) := by
  have hnonneg : 0 ≤ (v.1 : ℝ) ^ 2 + (v.2 : ℝ) ^ 2 := by positivity
  simp [Doubles.length, exactDoubles, realLength, hnonneg]

theorem realLength_nonneg (v : Int × Int) : 0 ≤ realLength v := Real.sqrt_nonneg _

theorem realLength_eq_zero {v : Int × Int} : realLength v = 0 ↔ v = (0, 0) := by
  have hx : 0 ≤ (v.1 : ℝ) ^ 2 := by positivity
  have hy : 0 ≤ (v.2 : ℝ) ^ 2 := by positivity
  rw [realLength, Real.sqrt_eq_zero (by positivity), add_eq_zero_iff_of_nonneg hx hy]
  simp [Prod.ext_iff]

/-- **Two correspondences that differ are apart on one side.** -/
theorem max_realLength_pos {m n : Match} (hne : m ≠ n) :
    0 < max (realLength (difference m.p1 n.p1)) (realLength (difference m.p2 n.p2)) := by
  by_contra hzero
  rw [not_lt, max_le_iff] at hzero
  have hp1 : m.p1 = n.p1 := difference_eq_zero.mp
    (realLength_eq_zero.mp (le_antisymm hzero.1 (realLength_nonneg _)))
  have hp2 : m.p2 = n.p2 := difference_eq_zero.mp
    (realLength_eq_zero.mp (le_antisymm hzero.2 (realLength_nonneg _)))
  obtain ⟨p1, p2⟩ := m
  obtain ⟨q1, q2⟩ := n
  obtain rfl : p1 = q1 := hp1
  obtain rfl : p2 = q2 := hp2
  exact hne rfl

/-- **The ratio test lets no length of zero pass.** -/
theorem mul_pos_of_lengthsMatch {l₁ l₂ : ℝ} (h₁ : 0 ≤ l₁) (h₂ : 0 ≤ l₂) (hmax : 0 < max l₁ l₂)
    (h : exactDoubles.lengthsMatch (some l₁) (some l₂) = true) : 0 < l₁ * l₂ := by
  have hratio : 1 - min l₁ l₂ / max l₁ l₂ ≤ 5 / 100 := by
    unfold Doubles.lengthsMatch at h
    rw [exactDoubles_min, exactDoubles_max, exactDoubles_div hmax.ne'] at h
    have hle := exactDoubles_le.mp h
    simpa using hle
  have hmin : 0 < min l₁ l₂ := by
    rcases (le_min h₁ h₂).eq_or_lt with hzero | hpos
    · rw [← hzero, zero_div] at hratio
      norm_num at hratio
    · exact hpos
  exact mul_pos (hmin.trans_le (min_le_left _ _)) (hmin.trans_le (min_le_right _ _))

/-! ### The set -/

/-- Neither before nor behind each other is the same. -/
theorem not_operatorLt_iff (m n : Match) :
    ¬ m.OperatorLt n ∧ ¬ n.OperatorLt m ↔ m.operatorEq n = true := by
  have heq : m.operatorEq n = true ↔ m = n := by
    obtain ⟨⟨x1, y1⟩, ⟨x2, y2⟩⟩ := m
    obtain ⟨⟨x1', y1'⟩, ⟨x2', y2'⟩⟩ := n
    simp [Match.operatorEq]
  rw [heq]
  constructor
  · rintro ⟨hbefore, hbehind⟩
    exact Std.Trichotomous.trichotomous m n hbefore hbehind
  · rintro rfl
    exact ⟨irrefl_of _ m, irrefl_of _ m⟩

/-- Two correspondences of a set are apart on one side, and on both if their lengths agree. -/
theorem lengths_of_ne {m n : Match} (hne : m ≠ n) :
    0 < max (realLength (difference m.p1 n.p1)) (realLength (difference m.p2 n.p2)) ∧
      (LengthsAgree exactDoubles (m, n) →
        0 < realLength (difference m.p1 n.p1) * realLength (difference m.p2 n.p2)) := by
  have hmax := max_realLength_pos hne
  refine ⟨hmax, fun hagree => ?_⟩
  unfold LengthsAgree at hagree
  rw [exactDoubles_length, exactDoubles_length] at hagree
  exact mul_pos_of_lengthsMatch (realLength_nonneg _) (realLength_nonneg _) hmax hagree

/-- An angle that is retained is a number. -/
theorem retainedAngle_isSome {m n : Match} (hne : m ≠ n) {a : Angle Exact}
    (h : retainedAngle exactDoubles (m, n) = some a) :
    a.cos.isSome = true ∧ a.sin.isSome = true := by
  unfold retainedAngle at h
  dsimp only at h
  split at h
  · rename_i hagree
    have hpos := (lengths_of_ne hne).2 hagree
    rw [exactDoubles_length, exactDoubles_length] at h
    cases h
    exact ⟨congrArg Option.isSome (exactDoubles_angle _ hpos.ne').1,
      congrArg Option.isSome (exactDoubles_angle _ hpos.ne').2⟩
  · cases h

/--
**The set keeps every distinct correspondence, and with that rules out a division by zero.**

`match::operator<` is a strict total order whose equivalence is `match::operator==`.  Of any
accepted matches the set that the first loop leaves has exactly the distinct ones.  Of two
of its elements the larger length is positive, and if the lengths pass the test their product
is; so every angle that is stored is a number.
-/
theorem matchSet_no_zero_divisor :
    IsStrictTotalOrder Match Match.OperatorLt ∧
    (∀ m n : Match, ¬ m.OperatorLt n ∧ ¬ n.OperatorLt m ↔ m.operatorEq n = true) ∧
    ∀ accepted : List Match,
      let found := ofList Match.OperatorLt accepted
      (∀ cv frame enrolled points, acceptedMatches cv frame enrolled points = some accepted →
        matchLoop cv frame enrolled points = some (found, accepted.length)) ∧
      (found.Nodup ∧ ∀ m, m ∈ found ↔ m ∈ accepted) ∧
      (∀ m ∈ found, ∀ n ∈ found, m ≠ n → ∃ length1 length2 : ℝ,
        exactDoubles.length (difference m.p1 n.p1) = some length1 ∧
        exactDoubles.length (difference m.p2 n.p2) = some length2 ∧
        0 < max length1 length2 ∧
        (exactDoubles.lengthsMatch (some length1) (some length2) = true →
          0 < length1 * length2)) ∧
      ∀ angles, angleLoop exactDoubles found = some angles →
        ∀ a ∈ angles, a.cos.isSome = true ∧ a.sin.isSome = true := by
  refine ⟨inferInstance, not_operatorLt_iff, fun accepted => ⟨?_, ⟨?_, ?_⟩, ?_, ?_⟩⟩
  · intro cv frame enrolled points haccepted
    rw [matchLoop_eq, haccepted]
    rfl
  · exact nodup_ofList accepted
  · exact fun m => mem_ofList
  · intro m _ n _ hne
    refine ⟨_, _, exactDoubles_length _, exactDoubles_length _, max_realLength_pos hne, ?_⟩
    exact mul_pos_of_lengthsMatch (realLength_nonneg _) (realLength_nonneg _)
      (max_realLength_pos hne)
  · intro angles hangles a ha
    obtain ⟨-, rfl⟩ := (angleLoop_eq_some exactDoubles).mp hangles
    obtain ⟨⟨m, n⟩, hpair, hretained⟩ := List.mem_filterMap.mp ha
    obtain ⟨-, -, hne⟩ := ne_of_mem_pairs (nodup_ofList accepted) hpair
    exact retainedAngle_isSome hne hretained

end Gxfp
