/-
The score of a match and the order of the key points.

Where the key points and descriptors of a template change places, the nearest neighbours of
a descriptor are found at other places, and of two that are as near as each other the other
one may be found.  The ratio test passes a neighbour only if all others are farther away,
so that no such choice is seen behind it; and what it passes goes into a set, whose order
is that of the coordinates.
-/
import Mathlib.Data.List.FinRange
import Gxfp.Sigfm.Order

namespace Gxfp

open OrderedSet Pairs

/-! ### Nearest neighbours -/

namespace CvMat

def rowCount (m : CvMat) : Nat := m.rows.toInt.toNat

/-- The bytes of a row. -/
def row (m : CvMat) (i : Nat) : List UInt8 :=
  (m.data.drop (i * (m.data.length / m.rowCount))).take (m.data.length / m.rowCount)

end CvMat

/-- `pts` are the two rows out of `n` that are nearest to row `i` of the query, which is
`row`; of rows that are as near as each other it may be any. -/
structure Nearest (dist : List UInt8 → List UInt8 → Distance) (row : List UInt8)
    (rows : Nat → List UInt8) (n i : Nat) (pts : List DMatch) : Prop where
  length : pts.length = min 2 n
  query : ∀ m ∈ pts, m.queryIdx.toInt = i
  train : ∀ m ∈ pts, ∃ j < n, m.trainIdx.toInt = j ∧ m.distance = dist row (rows j)
  distinct : pts.Pairwise fun m m' => m.trainIdx ≠ m'.trainIdx
  ascending : pts.Pairwise fun m m' => m.distance ≤ m'.distance
  smallest : ∀ j < n, (∀ m ∈ pts, m.trainIdx.toInt ≠ j) →
    ∀ m ∈ pts, m.distance ≤ dist row (rows j)

/-- The matcher returns the nearest rows of `train` for each row of `query`. -/
def OpenCv.FindsNearest (cv : OpenCv) (dist : List UInt8 → List UInt8 → Distance)
    (query train : CvMat) : Prop :=
  ∃ points, cv.knnMatch query train = some points ∧ points.length = query.rowCount ∧
    ∀ i < query.rowCount,
      Nearest dist (query.row i) train.row train.rowCount i (points.getD i [])

/-! ### A matcher -/

section BruteForce

variable (dist : List UInt8 → List UInt8 → Distance)

/-- Every row of `train` as a neighbour of row `i`. -/
def neighbours (query train : CvMat) (i : Nat) : List DMatch :=
  (List.range train.rowCount).map fun j =>
    ⟨Int32.ofNat i, Int32.ofNat j, dist (query.row i) (train.row j)⟩

/-- Sorting all neighbours, those as near as each other by their places. -/
def bruteForce (saturateCast : UInt32 → Int32) : OpenCv where
  knnMatch query train := some ((List.range query.rowCount).map fun i =>
    ((neighbours dist query train i).insertionSort fun m m' => m.distance ≤ m'.distance).take 2)
  saturateCast := saturateCast

theorem CvMat.rowCount_lt (m : CvMat) : m.rowCount < 2 ^ 31 := by
  have h := m.rows.toInt_lt
  unfold CvMat.rowCount
  omega

theorem pairwise_neighbours (query train : CvMat) (i : Nat) :
    (neighbours dist query train i).Pairwise fun m m' => m.trainIdx ≠ m'.trainIdx := by
  refine List.pairwise_map.mpr (List.nodup_range.imp_of_mem ?_)
  intro j k hj hk hne heq
  have hn := train.rowCount_lt
  have hval := congrArg Int32.toInt heq
  rw [Int32.toInt_ofNat_of_lt ((List.mem_range.mp hj).trans hn),
    Int32.toInt_ofNat_of_lt ((List.mem_range.mp hk).trans hn)] at hval
  omega

/-- **Sorting finds the nearest.** -/
theorem bruteForce_findsNearest (saturateCast : UInt32 → Int32) (query train : CvMat) :
    (bruteForce dist saturateCast).FindsNearest dist query train := by
  refine ⟨_, rfl, by simp, fun i hi => ?_⟩
  have htotal : Std.Total fun m m' : DMatch => m.distance ≤ m'.distance :=
    ⟨fun m m' => le_total m.distance m'.distance⟩
  have htrans : IsTrans DMatch fun m m' => m.distance ≤ m'.distance :=
    ⟨fun _ _ _ h h' => h.trans h'⟩
  have hrow : ∀ pts : Nat → List DMatch,
      ((List.range query.rowCount).map pts).getD i [] = pts i := by
    intro pts
    simp [hi]
  rw [hrow]
  have hsorted := List.pairwise_insertionSort
    (fun m m' : DMatch => m.distance ≤ m'.distance) (neighbours dist query train i)
  have hperm := List.perm_insertionSort
    (fun m m' : DMatch => m.distance ≤ m'.distance) (neighbours dist query train i)
  generalize (neighbours dist query train i).insertionSort
    (fun m m' : DMatch => m.distance ≤ m'.distance) = sorted at hsorted hperm ⊢
  have hmem : ∀ m ∈ sorted.take 2, ∃ j < train.rowCount,
      m = ⟨Int32.ofNat i, Int32.ofNat j, dist (query.row i) (train.row j)⟩ := by
    intro m hm
    obtain ⟨j, hj, rfl⟩ := List.mem_map.mp (hperm.mem_iff.mp (List.mem_of_mem_take hm))
    exact ⟨j, List.mem_range.mp hj, rfl⟩
  refine ⟨?_, ?_, ?_, ?_, ?_, ?_⟩
  · rw [List.length_take, hperm.length_eq, neighbours, List.length_map, List.length_range]
  · intro m hm
    obtain ⟨j, -, rfl⟩ := hmem m hm
    exact Int32.toInt_ofNat_of_lt (hi.trans query.rowCount_lt)
  · intro m hm
    obtain ⟨j, hj, rfl⟩ := hmem m hm
    exact ⟨j, hj, Int32.toInt_ofNat_of_lt (hj.trans train.rowCount_lt), rfl⟩
  · have hdistinct := (hperm.pairwise_iff fun h => Ne.symm h).mpr
      (pairwise_neighbours dist query train i)
    exact hdistinct.sublist (List.take_sublist 2 sorted)
  · exact hsorted.sublist (List.take_sublist 2 sorted)
  · intro j hj hother m hm
    -- row `j` has been sorted behind the two
    have hin := hperm.mem_iff.mpr (List.mem_map_of_mem (List.mem_range.mpr hj))
    rw [← List.take_append_drop 2 sorted] at hin hsorted
    rcases List.mem_append.mp hin with htake | hdrop
    · exact absurd (Int32.toInt_ofNat_of_lt (hj.trans train.rowCount_lt)) (hother _ htake)
    · exact (List.pairwise_append.mp hsorted).2.2 m hm _ hdrop

end BruteForce

/-! ### The ratio test -/

/-- Row `j` is nearer by the ratio than every other row. -/
structure Outstanding (dist : List UInt8 → List UInt8 → Distance) (row : List UInt8)
    (rows : Nat → List UInt8) (n j : Nat) : Prop where
  lt : j < n
  other : 2 ≤ n
  nearer : ∀ k < n, k ≠ j → dist row (rows j) < distanceLimit (dist row (rows k))

theorem acceptedNeighbour_eq_some {pts : List DMatch} {m : DMatch} :
    acceptedNeighbour pts = some m ↔
      ∃ m₂ rest, pts = m :: m₂ :: rest ∧ m.distance < distanceLimit m₂.distance := by
  unfold acceptedNeighbour
  split
  · rename_i m₁ m₂ rest
    by_cases hlt : m₁.distance < distanceLimit m₂.distance
    · rw [if_pos hlt]
      constructor
      · intro h
        cases h
        exact ⟨m₂, rest, rfl, hlt⟩
      · rintro ⟨_, _, h, -⟩
        cases h
        rfl
    · rw [if_neg hlt]
      constructor
      · nofun
      · rintro ⟨_, _, h, hlt'⟩
        cases h
        exact absurd hlt' hlt
  · rename_i hshort
    constructor
    · nofun
    · rintro ⟨m₂, rest, h, -⟩
      exact absurd h (hshort m m₂ rest)

theorem mem_of_acceptedNeighbour {pts : List DMatch} {m : DMatch}
    (h : acceptedNeighbour pts = some m) : m ∈ pts := by
  obtain ⟨m₂, rest, rfl, -⟩ := acceptedNeighbour_eq_some.mp h
  exact List.mem_cons_self ..

section Ratio

variable {dist : List UInt8 → List UInt8 → Distance} {row : List UInt8}
  {rows : Nat → List UInt8} {n i : Nat} {pts : List DMatch}

/-- No other row is nearer than the two. -/
theorem Nearest.le_other {m m₂ : DMatch} (h : Nearest dist row rows n i [m, m₂]) {j₁ j₂ k : Nat}
    (hidx₁ : m.trainIdx.toInt = j₁) (hidx₂ : m₂.trainIdx.toInt = j₂) (hk : k < n) (hne₁ : k ≠ j₁)
    (hne₂ : k ≠ j₂) :
    m.distance ≤ dist row (rows k) ∧ m₂.distance ≤ dist row (rows k) := by
  have hother : ∀ m' ∈ [m, m₂], m'.trainIdx.toInt ≠ k := by
    intro m' hm'
    rcases List.mem_cons.mp hm' with rfl | hm'
    · omega
    · rw [List.mem_singleton.mp hm']
      omega
  exact ⟨h.smallest k hk hother m (by simp), h.smallest k hk hother m₂ (by simp)⟩

/-- What passes the test is outstanding. -/
theorem Nearest.outstanding (h : Nearest dist row rows n i pts) {m : DMatch}
    (hm : acceptedNeighbour pts = some m) {j : Nat} (hj : m.trainIdx.toInt = j) :
    Outstanding dist row rows n j := by
  obtain ⟨m₂, rest, rfl, hlt⟩ := acceptedNeighbour_eq_some.mp hm
  have hlen := h.length
  rw [List.length_cons, List.length_cons] at hlen
  obtain ⟨j₁, hj₁, hidx₁, hdist₁⟩ := h.train m (List.mem_cons_self ..)
  have hmem₂ : m₂ ∈ m :: m₂ :: rest := List.mem_cons_of_mem _ (List.mem_cons_self ..)
  obtain ⟨j₂, hj₂, hidx₂, hdist₂⟩ := h.train m₂ hmem₂
  obtain rfl : j₁ = j := by omega
  refine ⟨hj₁, by omega, fun k hk hne => ?_⟩
  rw [← hdist₁]
  refine hlt.trans_le (distanceLimit_mono ?_)
  by_cases hsecond : k = j₂
  · rw [hsecond, hdist₂]
  · obtain rfl : rest = [] := List.eq_nil_of_length_eq_zero (by omega)
    exact (h.le_other hidx₁ hidx₂ hk hne hsecond).2

/-- What is outstanding comes first, and passes the test. -/
theorem Nearest.accepted (h : Nearest dist row rows n i pts) {j : Nat}
    (hj : Outstanding dist row rows n j) :
    ∃ m, acceptedNeighbour pts = some m ∧ m.trainIdx.toInt = j := by
  have hlen := h.length
  have htwo := hj.other
  obtain ⟨m, m₂, rfl⟩ : ∃ m m₂, pts = [m, m₂] := List.length_eq_two.mp (by omega)
  obtain ⟨j₁, hj₁, hidx₁, hdist₁⟩ := h.train m (by simp)
  obtain ⟨j₂, hj₂, hidx₂, hdist₂⟩ := h.train m₂ (by simp)
  have hascending : m.distance ≤ m₂.distance :=
    List.rel_of_pairwise_cons h.ascending (List.mem_singleton_self m₂)
  have hdistinct : m.trainIdx ≠ m₂.trainIdx :=
    List.rel_of_pairwise_cons h.distinct (List.mem_singleton_self m₂)
  have hfirst : j₁ = j := by
    by_contra hne
    have hnearer : dist row (rows j) < m.distance := by
      rw [hdist₁]
      exact (hj.nearer j₁ hj₁ hne).trans_le (distanceLimit_le _)
    by_cases hsecond : j₂ = j
    · rw [hdist₂, hsecond] at hascending
      exact absurd hascending (not_le.mpr hnearer)
    · have hsmallest := (h.le_other hidx₁ hidx₂ hj.lt (Ne.symm hne) (Ne.symm hsecond)).1
      exact absurd hsmallest (not_le.mpr hnearer)
  subst hfirst
  have hother : j₂ ≠ j₁ := by
    rintro rfl
    exact hdistinct (Int32.toInt_inj.mp (hidx₁.trans hidx₂.symm))
  refine ⟨m, acceptedNeighbour_eq_some.mpr ⟨m₂, [], rfl, ?_⟩, hidx₁⟩
  rw [hdist₁, hdist₂]
  exact hj.nearer j₂ hj₂ hother

end Ratio

/-! ### The correspondence of a row -/

section Correspondence

variable (cv : OpenCv) (frame enrolled : SigfmImgInfo)

/-- What a turn of the first loop adds. -/
def correspondence (pts : List DMatch) : Option Match :=
  (acceptedNeighbour pts).bind (matchOf cv frame enrolled)

variable {cv frame enrolled}

theorem vectorAt_eq {α : Type} (v : List α) {i : Int32} {k : Nat} (h : i.toInt = k) :
    vectorAt v i = v[k]? := by
  unfold vectorAt
  rw [if_neg (by omega), h, Int.toNat_natCast]

theorem matchOf_eq_some {match1 : DMatch} {i j : Nat} (hquery : match1.queryIdx.toInt = i)
    (htrain : match1.trainIdx.toInt = j) {m : Match} :
    matchOf cv frame enrolled match1 = some m ↔ ∃ p q, frame.keypoints[i]? = some p ∧
      enrolled.keypoints[j]? = some q ∧ m = ⟨toPoint2i cv p.pt, toPoint2i cv q.pt⟩ := by
  unfold matchOf
  rw [vectorAt_eq _ hquery, vectorAt_eq _ htrain]
  simp only [Option.bind_eq_bind, Option.bind_eq_some_iff]
  constructor
  · rintro ⟨p, hp, q, hq, h⟩
    cases h
    exact ⟨p, q, hp, hq, rfl⟩
  · rintro ⟨p, q, hp, hq, rfl⟩
    exact ⟨p, hp, q, hq, rfl⟩

/-- A row corresponds to the row that is outstanding, if there is one. -/
theorem Nearest.correspondence_eq_some {dist : List UInt8 → List UInt8 → Distance}
    {row : List UInt8} {rows : Nat → List UInt8} {n i : Nat} {pts : List DMatch}
    (h : Nearest dist row rows n i pts) {m : Match} :
    correspondence cv frame enrolled pts = some m ↔
      ∃ j p q, Outstanding dist row rows n j ∧ frame.keypoints[i]? = some p ∧
        enrolled.keypoints[j]? = some q ∧ m = ⟨toPoint2i cv p.pt, toPoint2i cv q.pt⟩ := by
  unfold correspondence
  rw [Option.bind_eq_some_iff]
  constructor
  · rintro ⟨match1, haccepted, hm⟩
    have hmem := mem_of_acceptedNeighbour haccepted
    obtain ⟨j, -, hj, -⟩ := h.train match1 hmem
    obtain ⟨p, q, hp, hq, rfl⟩ := (matchOf_eq_some (h.query match1 hmem) hj).mp hm
    exact ⟨j, p, q, h.outstanding haccepted hj, hp, hq, rfl⟩
  · rintro ⟨j, p, q, hj, hp, hq, rfl⟩
    obtain ⟨match1, haccepted, htrain⟩ := h.accepted hj
    have hquery := h.query match1 (mem_of_acceptedNeighbour haccepted)
    exact ⟨match1, haccepted, (matchOf_eq_some hquery htrain).mpr ⟨p, q, hp, hq, rfl⟩⟩

/-- With a key point for every row there is no exception. -/
theorem Nearest.matchOf_isSome {dist : List UInt8 → List UInt8 → Distance} {row : List UInt8}
    {rows : Nat → List UInt8} {n i : Nat} {pts : List DMatch}
    (h : Nearest dist row rows n i pts) (hi : i < frame.keypoints.length)
    (hn : enrolled.keypoints.length = n) {match1 : DMatch}
    (haccepted : acceptedNeighbour pts = some match1) :
    ∃ m, matchOf cv frame enrolled match1 = some m := by
  have hmem := mem_of_acceptedNeighbour haccepted
  obtain ⟨j, hj, htrain, -⟩ := h.train match1 hmem
  have hp := List.getElem?_eq_getElem hi
  have hq := List.getElem?_eq_getElem (hn ▸ hj : j < enrolled.keypoints.length)
  exact ⟨_, (matchOf_eq_some (h.query match1 hmem) htrain).mpr ⟨_, _, hp, hq, rfl⟩⟩

theorem acceptedMatches_eq {points : List (List DMatch)}
    (h : ∀ pts ∈ points, ∀ match1, acceptedNeighbour pts = some match1 →
      ∃ m, matchOf cv frame enrolled match1 = some m) :
    acceptedMatches cv frame enrolled points =
      some (points.filterMap (correspondence cv frame enrolled)) := by
  unfold acceptedMatches
  induction points with
  | nil => rfl
  | cons pts points ih =>
    obtain ⟨hpts, hpoints⟩ := List.forall_mem_cons.mp h
    have hrest := ih hpoints
    rcases haccepted : acceptedNeighbour pts with _ | match1
    · have hnone : correspondence cv frame enrolled pts = none := by
        rw [correspondence, haccepted]
        rfl
      rw [List.filterMap_cons_none haccepted, List.filterMap_cons_none hnone, hrest]
    · obtain ⟨m, hm⟩ := hpts match1 haccepted
      have hsome : correspondence cv frame enrolled pts = some m := by
        rw [correspondence, haccepted]
        exact hm
      rw [List.filterMap_cons_some haccepted, List.filterMap_cons_some hsome, List.mapM_cons, hm,
        hrest]
      rfl

end Correspondence

/-! ### Other places -/

/-- `info'` has the key points and rows of `info`, each at the place that `σ` takes them from. -/
structure Reordered {n : Nat} (σ : Equiv.Perm (Fin n)) (info info' : SigfmImgInfo) : Prop where
  length : info.keypoints.length = n
  length' : info'.keypoints.length = n
  rowCount : info.descriptors.rowCount = n
  rowCount' : info'.descriptors.rowCount = n
  keypoint : ∀ i : Fin n, info'.keypoints[(i : Nat)]? = info.keypoints[(σ i : Nat)]?
  row : ∀ i : Fin n, info'.descriptors.row i = info.descriptors.row (σ i)

/-- What is outstanding stays so at its new place. -/
theorem Outstanding.reordered {dist : List UInt8 → List UInt8 → Distance} {row : List UInt8}
    {rows rows' : Nat → List UInt8} {n : Nat} {τ : Equiv.Perm (Fin n)}
    (hrows : ∀ j : Fin n, rows' j = rows (τ j)) (j : Fin n) :
    Outstanding dist row rows' n j ↔ Outstanding dist row rows n (τ j) := by
  constructor
  · intro h
    refine ⟨(τ j).isLt, h.other, fun k hk hne => ?_⟩
    obtain ⟨k', hk'⟩ := τ.surjective ⟨k, hk⟩
    have hval : ((τ k' : Fin n) : Nat) = k := congrArg Fin.val hk'
    have hother : (k' : Nat) ≠ j := by
      intro heq
      rw [Fin.ext heq] at hval
      exact hne hval.symm
    have hnearer := h.nearer k' k'.isLt hother
    rwa [hrows, hrows, hval] at hnearer
  · intro h
    refine ⟨j.isLt, h.other, fun k hk hne => ?_⟩
    have hother : (τ ⟨k, hk⟩ : Nat) ≠ τ j := by
      intro heq
      exact hne (congrArg Fin.val (τ.injective (Fin.ext heq)))
    rw [hrows j, hrows ⟨k, hk⟩]
    exact h.nearer _ (τ ⟨k, hk⟩).isLt hother

section Score

variable {cv : OpenCv} {dist : List UInt8 → List UInt8 → Distance} {n n' : Nat}
  {σ : Equiv.Perm (Fin n)} {τ : Equiv.Perm (Fin n')}
  {frame frame' enrolled enrolled' : SigfmImgInfo}

/-- **Each row corresponds to the same key point, wherever that is.** -/
theorem correspondence_reordered (hframe : Reordered σ frame frame')
    (henrolled : Reordered τ enrolled enrolled') {i : Fin n} {pts pts' : List DMatch}
    (h : Nearest dist (frame.descriptors.row (σ i)) enrolled.descriptors.row n' (σ i) pts)
    (h' : Nearest dist (frame'.descriptors.row i) enrolled'.descriptors.row n' i pts') :
    correspondence cv frame' enrolled' pts' = correspondence cv frame enrolled pts := by
  refine Option.ext fun m => ?_
  rw [h.correspondence_eq_some, h'.correspondence_eq_some]
  rw [hframe.keypoint, hframe.row]
  constructor
  · rintro ⟨j, p, q, hj, hp, hq, rfl⟩
    have hout := (Outstanding.reordered henrolled.row ⟨j, hj.lt⟩).mp hj
    exact ⟨_, p, q, hout, hp, (henrolled.keypoint ⟨j, hj.lt⟩).symm.trans hq, rfl⟩
  · rintro ⟨j, p, q, hj, hp, hq, rfl⟩
    obtain ⟨j', hj'⟩ := τ.surjective ⟨j, hj.lt⟩
    have hval : ((τ j' : Fin n') : Nat) = j := congrArg Fin.val hj'
    rw [← hval] at hj hq
    have hout := (Outstanding.reordered henrolled.row j').mpr hj
    exact ⟨_, p, q, hout, hp, (henrolled.keypoint j').trans hq, rfl⟩

/-- Going through the rows in another order gives the same in another order. -/
theorem filterMap_finRange_perm {α : Type} (σ : Equiv.Perm (Fin n)) (f : Fin n → Option α) :
    ((List.finRange n).filterMap fun i => f (σ i)).Perm ((List.finRange n).filterMap f) := by
  have hperm := (Equiv.Perm.map_finRange_perm σ).filterMap f
  rwa [List.filterMap_map] at hperm

variable (cv) in
/-- The correspondences, row by row. -/
theorem acceptedMatches_rows {points : List (List DMatch)} (hlen : frame.keypoints.length = n)
    (hlen' : enrolled.keypoints.length = n') (hpoints : points.length = n)
    (h : ∀ i < n, Nearest dist (frame.descriptors.row i) enrolled.descriptors.row n' i
      (points.getD i [])) :
    acceptedMatches cv frame enrolled points = some ((List.finRange n).filterMap fun i : Fin n =>
      correspondence cv frame enrolled (points.getD i [])) := by
  have hrows : points = (List.finRange n).map fun i : Fin n => points.getD i [] := by
    refine List.ext_getElem (by simp [hpoints]) fun i hi hi' => ?_
    simp [hi]
  rw [acceptedMatches_eq]
  · conv_lhs => rw [hrows]
    rw [List.filterMap_map]
    rfl
  · intro pts hpts match1 haccepted
    rw [hrows] at hpts
    obtain ⟨i, -, rfl⟩ := List.mem_map.mp hpts
    exact (h i i.isLt).matchOf_isSome (hlen ▸ i.isLt) hlen' haccepted

/--
**The score does not depend on where the key points are.**

If the matcher finds the nearest rows, whichever of those that are as near as each other,
then a frame and an enrolled template whose key points and rows are at other places have
the score that they have.
-/
theorem sigfmMatchScore_reordered {D : Type} (d : Doubles D) (hframe : Reordered σ frame frame')
    (henrolled : Reordered τ enrolled enrolled')
    (hfinds : cv.FindsNearest dist frame.descriptors enrolled.descriptors)
    (hfinds' : cv.FindsNearest dist frame'.descriptors enrolled'.descriptors) :
    sigfmMatchScore cv d frame' enrolled' = sigfmMatchScore cv d frame enrolled := by
  obtain ⟨points, hknn, hlen, hnearest⟩ := hfinds
  obtain ⟨points', hknn', hlen', hnearest'⟩ := hfinds'
  rw [hframe.rowCount] at hlen hnearest
  rw [hframe.rowCount'] at hlen' hnearest'
  rw [henrolled.rowCount] at hnearest
  rw [henrolled.rowCount'] at hnearest'
  have haccepted := acceptedMatches_rows cv hframe.length henrolled.length hlen hnearest
  have haccepted' :=
    acceptedMatches_rows cv hframe.length' henrolled.length' hlen' hnearest'
  rw [sigfmMatchScore_of_accepted d hknn haccepted, sigfmMatchScore_of_accepted d hknn' haccepted']
  have hsame : ∀ i : Fin n, correspondence cv frame' enrolled' (points'.getD i []) =
      correspondence cv frame enrolled (points.getD (σ i) []) := fun i =>
    correspondence_reordered hframe henrolled (hnearest (σ i) (σ i).isLt) (hnearest' i i.isLt)
  rw [List.filterMap_congr fun i _ => hsame i]
  have hperm := filterMap_finRange_perm σ fun i : Fin n =>
    correspondence cv frame enrolled (points.getD i [])
  rw [hperm.length_eq, ofList_congr fun m => hperm.mem_iff]

end Score

/-- Six key points in a row, with a byte for each. -/
def sixRows (places : List Nat) : SigfmImgInfo where
  keypoints := places.map fun i => ⟨-1, 0, 0, 0, 0, ⟨UInt32.ofNat (3 * i), UInt32.ofNat i⟩⟩
  descriptors := ⟨0, 6, 1, places.map fun i => UInt8.ofNat (40 * i)⟩

def byteDistance (row row' : List UInt8) : Distance :=
  (((row.headD 0).toNat - (row'.headD 0).toNat + ((row'.headD 0).toNat - (row.headD 0).toNat) :
    ℚ≥0) : Distance)

/-- Doubles that are rational numbers, with other functions for the roots and the angles. -/
def ratDoubles : Doubles ℚ where
  ofInt n := n
  add := (· + ·)
  sub := (· - ·)
  mul := (· * ·)
  div := (· / ·)
  lt a b := decide (a < b)
  le a b := decide (a ≤ b)
  square x := x ^ 2
  sqrt x := x
  asin x := x
  acos x := 1 - x
  fabs x := |x|
  halfPi := 3 / 2
  lengthMatch := 5 / 100
  angleTolRad := 10 / 100

/-- A frame is turned round and the template that it matches is turned on by one. -/
theorem sigfmMatchScore_reordered_line :
    sigfmMatchScore (bruteForce byteDistance fun x => x.toInt32) ratDoubles
        (sixRows [5, 4, 3, 2, 1, 0]) (sixRows [1, 2, 3, 4, 5, 0]) =
      sigfmMatchScore (bruteForce byteDistance fun x => x.toInt32) ratDoubles
        (sixRows [0, 1, 2, 3, 4, 5]) (sixRows [0, 1, 2, 3, 4, 5]) ∧
    sigfmMatchScore (bruteForce byteDistance fun x => x.toInt32) ratDoubles
        (sixRows [0, 1, 2, 3, 4, 5]) (sixRows [0, 1, 2, 3, 4, 5]) = some 105 := by
  have hframe : Reordered (Fin.revPerm : Equiv.Perm (Fin 6)) (sixRows [0, 1, 2, 3, 4, 5])
      (sixRows [5, 4, 3, 2, 1, 0]) :=
    ⟨rfl, rfl, rfl, rfl, by decide, by decide⟩
  have henrolled : Reordered (finRotate 6) (sixRows [0, 1, 2, 3, 4, 5])
      (sixRows [1, 2, 3, 4, 5, 0]) :=
    ⟨rfl, rfl, rfl, rfl, by decide, by decide⟩
  refine ⟨sigfmMatchScore_reordered ratDoubles hframe henrolled
    (bruteForce_findsNearest byteDistance _ _ _) (bruteForce_findsNearest byteDistance _ _ _), ?_⟩
  decide +kernel

end Gxfp
