/-
Fingerprint templates as bytes: `sigfm/binary.hpp` and `sigfm.cpp`.

A template is a list of key points and a matrix of descriptors.  `operator>>` looks
whether the stream holds a value before it takes it and throws otherwise, and
`sigfm_deserialize_binary` makes `NULL` of every exception.  The bytes of the matrix
are taken by `stream::read`, which does not look.

What `std::vector` and OpenCV do is a `Runtime`.  A `float` is its bits.
-/
import Gxfp.Library.Stream

namespace Gxfp

open Bytes Stream Reader

/-! ### Templates -/

/-- `cv::Point2f` -/
structure Point2f where
  x : UInt32
  y : UInt32
  deriving DecidableEq, Repr

/-- `cv::KeyPoint` -/
structure KeyPoint where
  classId : Int32
  angle : UInt32
  octave : Int32
  response : UInt32
  size : UInt32
  pt : Point2f
  deriving DecidableEq, Repr

/-- `cv::Mat`; `data` is what lies between `datastart` and `dataend`. -/
structure CvMat where
  type : Int32
  rows : Int32
  cols : Int32
  data : List UInt8
  deriving DecidableEq, Repr

structure SigfmImgInfo where
  keypoints : List KeyPoint
  descriptors : CvMat
  deriving DecidableEq, Repr

/-- What the code takes from the C++ library and from OpenCV. -/
structure Runtime where
  /-- Whether there is memory for a stream of so many bytes. -/
  copy : Nat → Bool
  /-- Whether `std::vector::reserve` succeeds for so many key points. -/
  reserve : Nat → Bool
  /-- The type of a matrix that is created with a type. -/
  matType : Int32 → Int32
  elemSize : Int32 → Nat
  /-- The bytes `cv::Mat::create` allocates for rows, columns and type, if it does not throw. -/
  create : Int32 → Int32 → Int32 → Option Nat
  create_size : ∀ {rows cols type size}, create rows cols type = some size →
    (size : Int) = rows.toInt * cols.toInt * elemSize (matType type)

/-! ### Writing -/

/-- `stream::operator<<` of an `int` -/
def writeInt (v : Int32) : List UInt8 := leBytes 4 v.toUInt32.toNat

/-- `stream::operator<<` of a `float` -/
def writeFloat (v : UInt32) : List UInt8 := leBytes 4 v.toNat

/-- `stream::operator<<` of a `size_t` -/
def writeSize (v : UInt64) : List UInt8 := leBytes 8 v.toNat

/-- `serializer<cv::Point_<T>>` -/
def serializePoint (pt : Point2f) : List UInt8 := writeFloat pt.x ++ writeFloat pt.y

/-- `serializer<cv::KeyPoint>` -/
def serializeKeyPoint (pt : KeyPoint) : List UInt8 :=
  writeInt pt.classId ++ writeFloat pt.angle ++ writeInt pt.octave ++ writeFloat pt.response ++
    writeFloat pt.size ++ serializePoint pt.pt

/-- `serializer<std::vector<T>>` -/
def serializeKeyPoints (vs : List KeyPoint) : List UInt8 :=
  writeSize vs.length.toUInt64 ++ vs.flatMap serializeKeyPoint

/-- Type, rows and columns of a matrix. -/
def serializeMatHeader (type rows cols : Int32) : List UInt8 :=
  writeInt type ++ writeInt rows ++ writeInt cols

/-- `serializer<cv::Mat>` -/
def serializeMat (m : CvMat) : List UInt8 := serializeMatHeader m.type m.rows m.cols ++ m.data

/-- `serializer<SigfmImgInfo>` -/
def serializeInfo (info : SigfmImgInfo) : List UInt8 :=
  serializeKeyPoints info.keypoints ++ serializeMat info.descriptors

/-- `sigfm_serialize_binary`: the buffer and `*outlen`. -/
def sigfmSerializeBinary (info : SigfmImgInfo) : List UInt8 × Int32 :=
  (serializeInfo info, Int32.ofNat (serializeInfo info).length)

/-! ### Reading -/

/-- `stream::operator>>` of an `int` -/
def readInt : Reader Int32 := do
  let s ← bytes 4
  return (UInt32.ofNat (leValue s)).toInt32

/-- `stream::operator>>` of a `float` -/
def readFloat : Reader UInt32 := do
  let s ← bytes 4
  return UInt32.ofNat (leValue s)

/-- `stream::operator>>` of a `size_t` -/
def readSize : Reader UInt64 := do
  let s ← bytes 8
  return UInt64.ofNat (leValue s)

/-- `deserializer<cv::Point_<T>>` -/
def deserializePoint : Reader Point2f := do
  let x ← readFloat
  let y ← readFloat
  return { x, y }

/-- `deserializer<cv::KeyPoint>` -/
def deserializeKeyPoint : Reader KeyPoint := do
  let classId ← readInt
  let angle ← readFloat
  let octave ← readInt
  let response ← readFloat
  let size ← readFloat
  let pt ← deserializePoint
  return { classId, angle, octave, response, size, pt }

/-- `deserializer<std::vector<T>>` -/
def deserializeKeyPoints (rt : Runtime) : Reader (List KeyPoint) := do
  let size ← readSize
  if rt.reserve size.toNat then many deserializeKeyPoint size.toNat else throw

/-- `deserializer<cv::Mat>` -/
def deserializeMat (rt : Runtime) : Reader CvMat := do
  let type ← readInt
  let rows ← readInt
  let cols ← readInt
  match rt.create rows cols type with
  | none => throw
  | some size =>
    let data ← bytesUnchecked size
    return { type := rt.matType type, rows, cols, data }

/-- `deserializer<SigfmImgInfo>` -/
def deserializeInfo (rt : Runtime) : Reader SigfmImgInfo := do
  let keypoints ← deserializeKeyPoints rt
  let descriptors ← deserializeMat rt
  return { keypoints, descriptors }

/-- What `sigfm_deserialize_binary` comes to. -/
inductive Deserialized
  | null
  /-- A template, and what the stream still held. -/
  | info (info : SigfmImgInfo) (unread : List UInt8)
  /-- The end of the stream was passed. -/
  | beyond
  deriving DecidableEq, Repr

/-- `sigfm_deserialize_binary` -/
def sigfmDeserializeBinary (rt : Runtime) (bytes : List UInt8) : Deserialized :=
  if ¬ rt.copy bytes.length then .null
  else
    match deserializeInfo rt bytes with
    | .ok info unread => .info info unread
    | .thrown => .null
    | .beyond => .beyond

/-! ### Values of one size -/

theorem layout_int : Layout 4 writeInt readInt := by
  refine Layout.littleEndian 4 (fun v : Int32 => v.toUInt32.toNat)
    (fun w => (UInt32.ofNat w).toInt32) (fun v => v.toUInt32.toNat_lt) ?_ ?_
  · intro v
    rw [UInt32.ofNat_toNat]
    rfl
  · intro w hw
    rw [UInt32.toUInt32_toInt32]
    exact UInt32.toNat_ofNat_of_lt' hw

theorem layout_float : Layout 4 writeFloat readFloat := by
  refine Layout.littleEndian 4 UInt32.toNat UInt32.ofNat (fun v => v.toNat_lt) ?_ ?_
  · intro v
    exact UInt32.ofNat_toNat
  · intro w hw
    exact UInt32.toNat_ofNat_of_lt' hw

theorem layout_size : Layout 8 writeSize readSize := by
  refine Layout.littleEndian 8 UInt64.toNat UInt64.ofNat (fun v => v.toNat_lt) ?_ ?_
  · intro v
    exact UInt64.ofNat_toNat
  · intro w hw
    exact UInt64.toNat_ofNat_of_lt' hw

theorem layout_point : Layout 8 serializePoint deserializePoint := by
  have h := (layout_float.pair layout_float).map (β := Point2f)
    ⟨fun pt => (pt.x, pt.y), fun p => ⟨p.1, p.2⟩, fun _ => rfl, fun _ => rfl⟩
  simp only [bind_assoc, pure_bind] at h
  exact h

/-- **A key point is 28 bytes, whatever they are.** -/
theorem layout_keyPoint : Layout 28 serializeKeyPoint deserializeKeyPoint := by
  have h := (layout_int.pair (layout_float.pair (layout_int.pair (layout_float.pair
    (layout_float.pair layout_point))))).map (β := KeyPoint)
    ⟨fun pt => (pt.classId, pt.angle, pt.octave, pt.response, pt.size, pt.pt),
      fun p => ⟨p.1, p.2.1, p.2.2.1, p.2.2.2.1, p.2.2.2.2.1, p.2.2.2.2.2⟩,
      fun _ => rfl, fun _ => rfl⟩
  simp only [bind_assoc, pure_bind, ← List.append_assoc] at h
  exact h

end Gxfp
