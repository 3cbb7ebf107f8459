/-
What becomes of a stored template.

A template that was written is read back as it was.  Bytes that were not written, or not
to the end, are turned down, with one exception: where the key points and the header of
the matrix are complete and the matrix is not, its bytes are taken from behind the end.
-/
import Gxfp.Sigfm.Binary

namespace Gxfp

open Bytes Stream Reader

/-! ### The parts of a template -/

/-- The number of key points a template starts with. -/
def storedKeyPoints (bytes : List UInt8) : Nat := leValue (bytes.take 8)

/-- Where the header of the matrix is. -/
def matHeaderAt (bytes : List UInt8) : Nat := 8 + 28 * storedKeyPoints bytes

/-- The `int` at an address. -/
def intAt (bytes : List UInt8) (i : Nat) : Int32 :=
  (UInt32.ofNat (leValue ((bytes.drop i).take 4))).toInt32

theorem length_writeInt (v : Int32) : (writeInt v).length = 4 := layout_int.length_write v

theorem length_serializeMatHeader (type rows cols : Int32) :
    (serializeMatHeader type rows cols).length = 12 := by
  simp only [serializeMatHeader, List.length_append, length_writeInt]

theorem length_serializeKeyPoints (vs : List KeyPoint) :
    (serializeKeyPoints vs).length = 8 + 28 * vs.length := by
  rw [serializeKeyPoints, List.length_append, layout_size.length_write,
    layout_keyPoint.length_many]

theorem toNat_length {vs : List KeyPoint} (h : vs.length < 2 ^ 64) :
    vs.length.toUInt64.toNat = vs.length := UInt64.toNat_ofNat_of_lt' h

/-- Key points, and how many of them the count announces. -/
theorem storedKeyPoints_serialize {vs : List KeyPoint} (h : vs.length < 2 ^ 64)
    (rest : List UInt8) : storedKeyPoints (serializeKeyPoints vs ++ rest) = vs.length := by
  have hlen : (writeSize vs.length.toUInt64).length = 8 := layout_size.length_write _
  rw [storedKeyPoints, serializeKeyPoints, List.append_assoc, List.take_left' hlen, writeSize,
    leValue_leBytes (UInt64.toNat_lt _), toNat_length h]

theorem intAt_write {before : List UInt8} {i : Nat} (hi : before.length = i) (v : Int32)
    (rest : List UInt8) : intAt (before ++ (writeInt v ++ rest)) i = v := by
  have hread : (UInt32.ofNat v.toUInt32.toNat).toInt32 = v := by
    rw [UInt32.ofNat_toNat]
    rfl
  rw [intAt, List.drop_left' hi, List.take_left' (length_writeInt v), writeInt,
    leValue_leBytes (UInt32.toNat_lt _), hread]

/-- The three numbers of a header are where they are looked for. -/
theorem intAt_matHeader {before : List UInt8} {i : Nat} (hi : before.length = i)
    (type rows cols : Int32) (rest : List UInt8) :
    intAt (before ++ (serializeMatHeader type rows cols ++ rest)) i = type ∧
      intAt (before ++ (serializeMatHeader type rows cols ++ rest)) (i + 4) = rows ∧
      intAt (before ++ (serializeMatHeader type rows cols ++ rest)) (i + 8) = cols := by
  refine ⟨?_, ?_, ?_⟩
  · rw [serializeMatHeader, List.append_assoc, List.append_assoc]
    exact intAt_write hi type _
  · have hlen : (before ++ writeInt type).length = i + 4 := by
      rw [List.length_append, length_writeInt, hi]
    rw [serializeMatHeader, List.append_assoc, List.append_assoc, ← List.append_assoc before]
    exact intAt_write hlen rows _
  · have hlen : (before ++ (writeInt type ++ writeInt rows)).length = i + 8 := by
      rw [List.length_append, List.length_append, length_writeInt, length_writeInt, hi]
    rw [serializeMatHeader, List.append_assoc, ← List.append_assoc before]
    exact intAt_write hlen cols _

/-- Type, rows and columns, read together. -/
def readMatHeader : Reader (Int32 × Int32 × Int32) := do
  let type ← readInt
  let rows ← readInt
  let cols ← readInt
  return (type, rows, cols)

theorem layout_matHeader :
    Layout 12 (fun h : Int32 × Int32 × Int32 => serializeMatHeader h.1 h.2.1 h.2.2)
      readMatHeader := by
  have h := layout_int.pair (layout_int.pair layout_int)
  simp only [bind_assoc, pure_bind, ← List.append_assoc] at h
  exact h

/-- What is read behind the header of a matrix. -/
def readMatData (rt : Runtime) (h : Int32 × Int32 × Int32) : Reader CvMat :=
  match rt.create h.2.1 h.2.2 h.1 with
  | none => throw
  | some size => do
    let data ← bytesUnchecked size
    return { type := rt.matType h.1, rows := h.2.1, cols := h.2.2, data }

theorem deserializeMat_eq (rt : Runtime) :
    deserializeMat rt = readMatHeader >>= readMatData rt := by
  simp only [readMatHeader, bind_assoc, pure_bind]
  rfl

/-! ### Reading, by what the bytes are -/

/-- The key points are complete, and there is memory for them. -/
theorem deserializeKeyPoints_cases (rt : Runtime) (s : List UInt8) :
    ((s.length < matHeaderAt s ∨ rt.reserve (storedKeyPoints s) = false) ∧
        deserializeKeyPoints rt s = .thrown) ∨
      ∃ vs rest, vs.length < 2 ^ 64 ∧ s = serializeKeyPoints vs ++ rest ∧
        rt.reserve vs.length = true ∧ deserializeKeyPoints rt s = .ok vs rest := by
  unfold deserializeKeyPoints
  rcases layout_size.read_cases s with ⟨hshort, hthrown⟩ | ⟨size, rest, hs, hok⟩
  · refine Or.inl ⟨Or.inl ?_, bind_thrown hthrown _⟩
    rw [matHeaderAt]
    omega
  · have hlen : (writeSize size).length = 8 := layout_size.length_write size
    have hstored : storedKeyPoints s = size.toNat := by
      rw [storedKeyPoints, hs, List.take_left' hlen, writeSize,
        leValue_leBytes (UInt64.toNat_lt _)]
    rw [bind_ok hok, hstored, matHeaderAt, hstored]
    by_cases hreserve : rt.reserve size.toNat = true
    · rw [if_pos hreserve]
      rcases layout_keyPoint.many_cases size.toNat rest with
        ⟨hshort, hthrown⟩ | ⟨vs, rest', hvs, hrest, hmany⟩
      · refine Or.inl ⟨Or.inl ?_, hthrown⟩
        rw [hs, List.length_append, hlen]
        omega
      · refine Or.inr ⟨vs, rest', hvs ▸ size.toNat_lt, ?_, hvs ▸ hreserve, hmany⟩
        rw [hs, hrest, serializeKeyPoints, hvs, List.append_assoc]
        congr 2
        exact (UInt64.ofNat_toNat).symm
    · rw [if_neg hreserve]
      exact Or.inl ⟨Or.inr (Bool.not_eq_true _ ▸ hreserve), rfl⟩

/-- The matrix is turned down, or passes the end, or is there. -/
theorem deserializeMat_cases (rt : Runtime) (s : List UInt8) :
    (s.length < 12 ∧ deserializeMat rt s = .thrown) ∨
      ∃ type rows cols rest, s = serializeMatHeader type rows cols ++ rest ∧
        ((rt.create rows cols type = none ∧ deserializeMat rt s = .thrown) ∨
          ∃ size, rt.create rows cols type = some size ∧
            ((rest.length < size ∧ deserializeMat rt s = .beyond) ∨
              ∃ data unread, data.length = size ∧ rest = data ++ unread ∧
                deserializeMat rt s = .ok ⟨rt.matType type, rows, cols, data⟩ unread)) := by
  rw [deserializeMat_eq]
  rcases layout_matHeader.read_cases s with ⟨hshort, hthrown⟩ | ⟨⟨type, rows, cols⟩, rest, hs, hok⟩
  · exact Or.inl ⟨hshort, bind_thrown hthrown _⟩
  · refine Or.inr ⟨type, rows, cols, rest, hs, ?_⟩
    rw [bind_ok hok]
    unfold readMatData
    dsimp only
    cases hcreate : rt.create rows cols type with
    | none => exact Or.inl ⟨rfl, rfl⟩
    | some size =>
        refine Or.inr ⟨size, rfl, ?_⟩
        dsimp only
        rcases bytesUnchecked_cases size rest with
          ⟨hshort, hbeyond⟩ | ⟨data, unread, hdata, hrest, hread⟩
        · refine Or.inl ⟨hshort, ?_⟩
          rw [bind_apply, hbeyond]
        · refine Or.inr ⟨data, unread, hdata, hrest, ?_⟩
          rw [bind_ok hread]
          rfl

/-! ### What is asked of a stored template -/

/-- The bytes a matrix needs. -/
def Runtime.matBytes (rt : Runtime) (type rows cols : Int32) : Int :=
  rows.toInt * cols.toInt * rt.elemSize (rt.matType type)

/-- The header of the matrix is there, and asks for more bytes than come after it. -/
structure HeaderTooBig (rt : Runtime) (bytes : List UInt8) : Prop where
  header : matHeaderAt bytes + 12 ≤ bytes.length
  short : (bytes.length : Int) < matHeaderAt bytes + 12 +
    rt.matBytes (intAt bytes (matHeaderAt bytes)) (intAt bytes (matHeaderAt bytes + 4))
      (intAt bytes (matHeaderAt bytes + 8))

/-- It does, and there is memory for the bytes, the key points and the matrix. -/
structure AsksTooMuch (rt : Runtime) (bytes : List UInt8) : Prop extends HeaderTooBig rt bytes where
  copied : rt.copy bytes.length = true
  reserved : rt.reserve (storedKeyPoints bytes) = true
  created : (rt.create (intAt bytes (matHeaderAt bytes + 4)) (intAt bytes (matHeaderAt bytes + 8))
    (intAt bytes (matHeaderAt bytes))).isSome = true

/-- The template is made of the bytes, and of nothing else. -/
structure ReadFrom (rt : Runtime) (bytes : List UInt8) (info : SigfmImgInfo)
    (unread : List UInt8) : Prop where
  count : info.keypoints.length < 2 ^ 64
  bytes : ∃ type, info.descriptors.type = rt.matType type ∧
    bytes = serializeKeyPoints info.keypoints ++
      (serializeMatHeader type info.descriptors.rows info.descriptors.cols ++
        (info.descriptors.data ++ unread))
  size : (info.descriptors.data.length : Int) = info.descriptors.rows.toInt *
    info.descriptors.cols.toInt * rt.elemSize info.descriptors.type

/-- The matrix is continuous and owns its whole buffer. -/
structure Runtime.Owns (rt : Runtime) (m : CvMat) : Prop where
  type : rt.matType m.type = m.type
  size : (m.data.length : Int) = m.rows.toInt * m.cols.toInt * rt.elemSize m.type

/-- What a stored template may be made of. -/
structure ReadsWithin (rt : Runtime) (bytes : List UInt8) : Prop where
  /-- The end of the stream is not passed, and a template comes from the bytes. -/
  within : sigfmDeserializeBinary rt bytes = .null ∨
    ∃ info unread, sigfmDeserializeBinary rt bytes = .info info unread ∧
      ReadFrom rt bytes info unread
  /-- A template that was cut short is turned down. -/
  cut : ∀ (info : SigfmImgInfo) (more : List UInt8), info.keypoints.length < 2 ^ 64 →
    rt.Owns info.descriptors → more ≠ [] → (sigfmSerializeBinary info).1 = bytes ++ more →
      sigfmDeserializeBinary rt bytes = .null
  /-- So is one whose matrix asks for more bytes than there are. -/
  header : HeaderTooBig rt bytes → sigfmDeserializeBinary rt bytes = .null

/-- Bytes that hold a whole template do not ask for more. -/
theorem ReadFrom.not_tooBig {rt : Runtime} {bytes unread : List UInt8} {info : SigfmImgInfo}
    (h : ReadFrom rt bytes info unread) : ¬ HeaderTooBig rt bytes := by
  intro hbig
  obtain ⟨type, htype, hbytes⟩ := h.bytes
  have hstored : matHeaderAt bytes = 8 + 28 * info.keypoints.length := by
    rw [matHeaderAt, hbytes, storedKeyPoints_serialize h.count]
  obtain ⟨htypeAt, hrowsAt, hcolsAt⟩ := intAt_matHeader
    ((length_serializeKeyPoints info.keypoints).trans hstored.symm) type info.descriptors.rows
    info.descriptors.cols (info.descriptors.data ++ unread)
  have hshort := hbig.short
  rw [← hbytes] at htypeAt hrowsAt hcolsAt
  rw [htypeAt, hrowsAt, hcolsAt, Runtime.matBytes, ← htype, ← h.size] at hshort
  have hlen := congrArg List.length hbytes
  simp only [List.length_append, length_serializeKeyPoints, length_serializeMatHeader] at hlen
  omega

/-- **Reading a stored template goes wrong in one case only.** -/
theorem sigfmDeserializeBinary_cases (rt : Runtime) (bytes : List UInt8) :
    (sigfmDeserializeBinary rt bytes = .null ∧ ¬ AsksTooMuch rt bytes) ∨
      (sigfmDeserializeBinary rt bytes = .beyond ∧ AsksTooMuch rt bytes) ∨
      ∃ info unread, sigfmDeserializeBinary rt bytes = .info info unread ∧
        ReadFrom rt bytes info unread := by
  unfold sigfmDeserializeBinary
  by_cases hcopy : rt.copy bytes.length = true
  swap
  · rw [if_pos hcopy]
    exact Or.inl ⟨rfl, fun hasks => hcopy hasks.copied⟩
  rw [if_neg (not_not.mpr hcopy)]
  unfold deserializeInfo
  rcases deserializeKeyPoints_cases rt bytes with
    ⟨hbad, hthrown⟩ | ⟨vs, rest, hcount, hs, hreserve, hok⟩
  · rw [bind_thrown hthrown]
    refine Or.inl ⟨rfl, fun hasks => ?_⟩
    have hheader := hasks.header
    rcases hbad with hshort | hreserve
    · omega
    · rw [hasks.reserved] at hreserve
      cases hreserve
  have hstored : storedKeyPoints bytes = vs.length := by
    rw [hs, storedKeyPoints_serialize hcount]
  have hat : (serializeKeyPoints vs).length = matHeaderAt bytes := by
    rw [matHeaderAt, hstored, length_serializeKeyPoints]
  rw [bind_ok hok]
  rcases deserializeMat_cases rt rest with
    ⟨hshort, hthrown⟩ | ⟨type, rows, cols, data, hrest, hdata⟩
  · rw [bind_thrown hthrown]
    refine Or.inl ⟨rfl, fun hasks => ?_⟩
    have hheader := hasks.header
    have hlen := congrArg List.length hs
    rw [List.length_append, hat] at hlen
    omega
  obtain ⟨htypeAt, hrowsAt, hcolsAt⟩ := intAt_matHeader hat type rows cols data
  rw [← hrest, ← hs] at htypeAt hrowsAt hcolsAt
  have hlen := congrArg List.length hs
  rw [hrest, List.length_append, List.length_append, hat, length_serializeMatHeader] at hlen
  rcases hdata with ⟨hnone, hthrown⟩ | ⟨size, hcreate, hdata⟩
  · rw [bind_thrown hthrown]
    refine Or.inl ⟨rfl, fun hasks => ?_⟩
    have hcreated := hasks.created
    rw [htypeAt, hrowsAt, hcolsAt, hnone] at hcreated
    cases hcreated
  have hsize : (size : Int) = rt.matBytes type rows cols := rt.create_size hcreate
  rcases hdata with ⟨hshort, hbeyond⟩ | ⟨pixels, unread, hpixels, hcut, hread⟩
  · refine Or.inr (Or.inl ⟨?_, ?_⟩)
    · rw [bind_apply, hbeyond]
    · refine { header := ?_, short := ?_, copied := hcopy, reserved := ?_, created := ?_ }
      · omega
      · rw [htypeAt, hrowsAt, hcolsAt, ← hsize]
        omega
      · rw [hstored]
        exact hreserve
      · rw [htypeAt, hrowsAt, hcolsAt, hcreate]
        rfl
  · refine Or.inr (Or.inr ⟨⟨vs, ⟨rt.matType type, rows, cols, pixels⟩⟩, unread, ?_, ?_⟩)
    · rw [bind_ok hread]
      rfl
    · refine ⟨hcount, ⟨type, rfl, ?_⟩, ?_⟩
      · rw [hs, hrest, hcut]
      · rw [hpixels]
        exact hsize

/-- A template and part of another that was written are the same bytes only if nothing is
missing. -/
theorem ReadFrom.not_cut {rt : Runtime} {bytes unread more : List UInt8}
    {info written : SigfmImgInfo} (h : ReadFrom rt bytes info unread)
    (hcount : written.keypoints.length < 2 ^ 64) (howns : rt.Owns written.descriptors)
    (hwritten : (sigfmSerializeBinary written).1 = bytes ++ more) : more = [] := by
  obtain ⟨type, htype, hbytes⟩ := h.bytes
  have hsame : serializeKeyPoints written.keypoints ++ (serializeMatHeader
        written.descriptors.type written.descriptors.rows written.descriptors.cols ++
        written.descriptors.data) =
      serializeKeyPoints info.keypoints ++ (serializeMatHeader type info.descriptors.rows
        info.descriptors.cols ++ (info.descriptors.data ++ unread ++ more)) := by
    have hboth := hwritten
    rw [hbytes] at hboth
    simpa only [sigfmSerializeBinary, serializeInfo, serializeMat, List.append_assoc] using hboth
  have hkeypoints : written.keypoints.length = info.keypoints.length := by
    rw [← storedKeyPoints_serialize hcount, hsame, storedKeyPoints_serialize h.count]
  obtain ⟨-, hmat⟩ := List.append_inj hsame (by
    rw [length_serializeKeyPoints, length_serializeKeyPoints, hkeypoints])
  obtain ⟨hheader, hdata⟩ := List.append_inj hmat (by
    rw [length_serializeMatHeader, length_serializeMatHeader])
  have hread := layout_matHeader.read_write
    (written.descriptors.type, written.descriptors.rows, written.descriptors.cols) []
  rw [hheader, layout_matHeader.read_write (type, info.descriptors.rows, info.descriptors.cols) []]
    at hread
  obtain ⟨rfl, hrows, hcols⟩ : type = written.descriptors.type ∧
      info.descriptors.rows = written.descriptors.rows ∧
      info.descriptors.cols = written.descriptors.cols := by
    simpa using hread
  have hsize := h.size
  rw [htype, howns.type, hrows, hcols, ← howns.size, hdata] at hsize
  simp only [List.length_append] at hsize
  exact List.length_eq_zero_iff.mp (by omega)

/--
**A stored template is read within its bytes, unless its matrix asks for more than it has.**
-/
theorem sigfmDeserializeBinary_within_iff (rt : Runtime) (bytes : List UInt8) :
    ReadsWithin rt bytes ↔ ¬ AsksTooMuch rt bytes := by
  constructor
  · intro hwithin hasks
    rcases sigfmDeserializeBinary_cases rt bytes with ⟨-, hnot⟩ | ⟨hbeyond, -⟩ | ⟨_, _, -, hfrom⟩
    · exact hnot hasks
    · rcases hwithin.within with hnull | ⟨info, unread, hinfo, -⟩
      · rw [hbeyond] at hnull
        cases hnull
      · rw [hbeyond] at hinfo
        cases hinfo
    · exact hfrom.not_tooBig hasks.toHeaderTooBig
  · intro hnot
    rcases sigfmDeserializeBinary_cases rt bytes with
      ⟨hnull, -⟩ | ⟨-, hasks⟩ | ⟨info, unread, hinfo, hfrom⟩
    · exact ⟨Or.inl hnull, fun _ _ _ _ _ _ => hnull, fun _ => hnull⟩
    · exact absurd hasks hnot
    · refine ⟨Or.inr ⟨info, unread, hinfo, hfrom⟩, ?_, ?_⟩
      · intro written more hcount howns hmore hwritten
        exact absurd (hfrom.not_cut hcount howns hwritten) hmore
      · intro hbig
        exact absurd hbig hfrom.not_tooBig

/-! ### A runtime -/

/-- What OpenCV and a vector of key points do, with memory for everything. -/
def openCv : Runtime where
  copy _ := true
  reserve n := n ≤ 0x7FFFFFFFFFFFFFFF / 28
  matType type := type &&& 0xFFF
  elemSize type :=
    (type.toInt.toNat / 8 % 512 + 1) * [1, 1, 2, 2, 4, 4, 8, 2].getD (type.toInt.toNat % 8) 0
  create rows cols type :=
    if 0 ≤ rows.toInt ∧ 0 ≤ cols.toInt then
      some (rows.toInt.toNat * cols.toInt.toNat *
        (((type &&& 0xFFF).toInt.toNat / 8 % 512 + 1) *
          [1, 1, 2, 2, 4, 4, 8, 2].getD ((type &&& 0xFFF).toInt.toNat % 8) 0))
    else none
  create_size := by
    intro rows cols type size hcreate
    split at hcreate
    · rename_i hnonneg
      injection hcreate with hsize
      rw [← hsize, Int.natCast_mul, Int.natCast_mul, Int.toNat_of_nonneg hnonneg.1,
        Int.toNat_of_nonneg hnonneg.2]
    · cases hcreate

/-- No key points and one pixel. -/
def dot : SigfmImgInfo := ⟨[], ⟨0, 1, 1, [0x7F]⟩⟩

/-- It, without the pixel. -/
def cutDot : List UInt8 := zeros 12 ++ [1, 0, 0, 0, 1, 0, 0, 0]

/-- **The pixel of a template that was cut short is taken from behind the end.** -/
theorem sigfmDeserializeBinary_beyond :
    (sigfmSerializeBinary dot).1 = cutDot ++ [0x7F] ∧ openCv.Owns dot.descriptors ∧
      sigfmDeserializeBinary openCv cutDot = .beyond ∧ ¬ ReadsWithin openCv cutDot := by
  have hbeyond : sigfmDeserializeBinary openCv cutDot = .beyond := by decide
  refine ⟨by decide, ⟨by decide, by decide⟩, hbeyond, ?_⟩
  intro hwithin
  rcases hwithin.within with hnull | ⟨info, unread, hinfo, -⟩
  · rw [hbeyond] at hnull
    cases hnull
  · rw [hbeyond] at hinfo
    cases hinfo

/-! ### Round trip -/

/-- **What was written is read, and nothing behind it.** -/
theorem deserializeInfo_serialize {rt : Runtime} {info : SigfmImgInfo}
    (hcount : info.keypoints.length < 2 ^ 64) (howns : rt.Owns info.descriptors)
    (hreserve : rt.reserve info.keypoints.length = true)
    (hcreate : (rt.create info.descriptors.rows info.descriptors.cols
      info.descriptors.type).isSome = true) (rest : List UInt8) :
    deserializeInfo rt (serializeInfo info ++ rest) = .ok info rest := by
  obtain ⟨size, hcreate⟩ := Option.isSome_iff_exists.mp hcreate
  have hsize : size = info.descriptors.data.length := by
    have hbytes := rt.create_size hcreate
    rw [howns.type, ← howns.size] at hbytes
    exact Int.ofNat.inj hbytes
  have hkeypoints : ∀ rest, deserializeKeyPoints rt (serializeKeyPoints info.keypoints ++ rest) =
      .ok info.keypoints rest := by
    intro rest
    rw [deserializeKeyPoints, serializeKeyPoints, List.append_assoc,
      bind_ok (layout_size.read_write _ _), toNat_length hcount, if_pos hreserve]
    exact layout_keyPoint.many_write info.keypoints rest
  have hmat : deserializeMat rt (serializeMat info.descriptors ++ rest) =
      .ok info.descriptors rest := by
    have hheader := layout_matHeader.read_write
      (info.descriptors.type, info.descriptors.rows, info.descriptors.cols)
      (info.descriptors.data ++ rest)
    rw [deserializeMat_eq, serializeMat, List.append_assoc, bind_ok hheader]
    unfold readMatData
    dsimp only
    rw [hcreate]
    dsimp only
    rw [hsize, bind_ok (bytesUnchecked_append _ _), howns.type]
    rfl
  rw [deserializeInfo, serializeInfo, List.append_assoc, bind_ok (hkeypoints _), bind_ok hmat]
  rfl

/--
**Templates survive being stored.**

Any key points and any matrix that owns its buffer come back as they were, and no byte is
left over, if there is memory to read them into.
-/
theorem sigfm_roundtrip (rt : Runtime) (info : SigfmImgInfo) (howns : rt.Owns info.descriptors)
    (hint : (serializeInfo info).length ≤ 0x7FFFFFFF)
    (hcopy : rt.copy (serializeInfo info).length = true)
    (hreserve : rt.reserve info.keypoints.length = true)
    (hcreate : (rt.create info.descriptors.rows info.descriptors.cols
      info.descriptors.type).isSome = true) :
    (sigfmSerializeBinary info).2.toInt = (sigfmSerializeBinary info).1.length ∧
      sigfmDeserializeBinary rt (sigfmSerializeBinary info).1 = .info info [] := by
  have hcount : info.keypoints.length < 2 ^ 64 := by
    have hlen := length_serializeKeyPoints info.keypoints
    rw [serializeInfo, List.length_append, hlen] at hint
    omega
  have hread := deserializeInfo_serialize hcount howns hreserve hcreate []
  rw [List.append_nil] at hread
  constructor
  · exact Int32.toInt_ofNat_of_lt (by omega)
  · rw [sigfmDeserializeBinary, sigfmSerializeBinary, if_neg (not_not.mpr hcopy), hread]

/-- A key point with a matrix of one row. -/
theorem sigfm_roundtrip_row :
    (sigfmSerializeBinary ⟨[⟨-1, 0x41A00000, 3, 0x40400000, 0x42200000, ⟨0x40400000, 0x3F800000⟩⟩],
        ⟨5, 1, 1, [0, 0, 0x80, 0x3F]⟩⟩).2.toInt = 52 ∧
      sigfmDeserializeBinary openCv (sigfmSerializeBinary
        ⟨[⟨-1, 0x41A00000, 3, 0x40400000, 0x42200000, ⟨0x40400000, 0x3F800000⟩⟩],
          ⟨5, 1, 1, [0, 0, 0x80, 0x3F]⟩⟩).1 =
        .info ⟨[⟨-1, 0x41A00000, 3, 0x40400000, 0x42200000, ⟨0x40400000, 0x3F800000⟩⟩],
          ⟨5, 1, 1, [0, 0, 0x80, 0x3F]⟩⟩ [] :=
  sigfm_roundtrip openCv ⟨[⟨-1, 0x41A00000, 3, 0x40400000, 0x42200000, ⟨0x40400000, 0x3F800000⟩⟩],
    ⟨5, 1, 1, [0, 0, 0x80, 0x3F]⟩⟩ ⟨by decide, by decide⟩ (by decide) rfl (by decide) (by decide)

end Gxfp
