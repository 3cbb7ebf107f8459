/-
Prints: `fp-print.c` and `fpi-print.c`.

An enrolled print leaves the program as bytes and comes back as a print that scans are
compared with.  The metadata and what the print is made of become one `GVariant`, behind
three letters; a template in it is what `sigfm_serialize_binary` wrote.  What GLib does to
the value is a `GVariants`, of which it is only asked that it reads what it has stored.

Two things do not survive, or not as they were.  The image that a print was made of is
dropped, and the absence of a date is stored as a number that is read as a date.
-/
import Gxfp.Library.Traverse
import Gxfp.Sigfm.Match
import Gxfp.Sigfm.Template

namespace Gxfp

open Bytes Stream Reader Traverse

/-! ### Prints -/

/-- `FpFinger` -/
inductive FpFinger
  | unknown
  | leftThumb
  | leftIndex
  | leftMiddle
  | leftRing
  | leftLittle
  | rightThumb
  | rightIndex
  | rightMiddle
  | rightRing
  | rightLittle
  deriving DecidableEq, Repr

/-- `FpiPrintType` -/
inductive FpiPrintType
  | undefined
  | raw
  | nbis
  | sigfm
  deriving DecidableEq, Repr

def maxBozorthMinutiae : Nat := 200

/-- `struct xyt_struct`, as far as `nrows`. -/
structure XytStruct where
  xcol : List Int32
  ycol : List Int32
  thetacol : List Int32
  ylen : ycol.length = xcol.length
  thetalen : thetacol.length = xcol.length
  nrows : xcol.length ≤ maxBozorthMinutiae
  deriving DecidableEq, Repr

/-- A `GVariant` of any type, as the type and the bytes. -/
structure GVariant where
  typeString : String
  data : List UInt8
  deriving DecidableEq, Repr

/-- `data` and `prints` of a print, of which its type has one at most. -/
inductive PrintData
  | undefined
  | raw (data : GVariant)
  | nbis (prints : List XytStruct)
  | sigfm (prints : List SigfmImgInfo)
  deriving DecidableEq, Repr

/-- `FpPrint`; a date is its Julian day, and day 0 is no valid date. -/
structure FpPrint where
  data : PrintData
  driver : String
  deviceId : String
  deviceStored : Bool
  finger : FpFinger
  username : Option String
  description : Option String
  enrollDate : Option UInt32
  deriving DecidableEq, Repr

def PrintData.type : PrintData → FpiPrintType
  | .undefined => .undefined
  | .raw _ => .raw
  | .nbis _ => .nbis
  | .sigfm _ => .sigfm

/-! ### Making a print -/

/-- `fp_print_new` -/
def fpPrintNew (driver deviceId : String) : FpPrint where
  data := .undefined
  driver := driver
  deviceId := deviceId
  deviceStored := false
  finger := .unknown
  username := none
  description := none
  enrollDate := none

/-- `fpi_print_set_type` to `FPI_PRINT_SIGFM`, which is only done once. -/
def fpiPrintSetSigfm (print : FpPrint) : FpPrint :=
  match print.data with
  | .undefined => { print with data := .sigfm [] }
  | _ => print

/-- `fpi_print_add_from_image`, with the `sigfm_info` of the image; `none` is an error. -/
def fpiPrintAddFromImage (print : FpPrint) (info : SigfmImgInfo) : Option FpPrint :=
  match print.data with
  | .sigfm prints => some { print with data := .sigfm (prints ++ [info]) }
  | _ => none

/-- `fpi_print_add_print`; `none` is an assertion that fails. -/
def fpiPrintAddPrint (print add : FpPrint) : Option FpPrint :=
  match print.data, add.data with
  | .nbis prints, .nbis [xyt] => some { print with data := .nbis (prints ++ [xyt]) }
  | .sigfm prints, .sigfm [info] => some { print with data := .sigfm (prints ++ [info]) }
  | .nbis _, .nbis (_ :: _) => none
  | .sigfm _, .sigfm (_ :: _) => none
  | _, _ => some print

/-! ### Comparing prints -/

/-- The errors of a comparison. -/
inductive MatchError
  | notSupported (type : FpiPrintType)
  | dataInvalid
  deriving DecidableEq, Repr

/-- `FpiMatchResult`, and the error of `FPI_MATCH_ERROR`. -/
inductive FpiMatchResult
  | error (error : MatchError)
  | fail
  | success
  deriving DecidableEq, Repr

section Match

variable (score : SigfmImgInfo → SigfmImgInfo → Option Int) (threshold : Int)

/-- The loop of `fpi_print_sigfm_match`; a score that is none has no result. -/
def sigfmMatchLoop (against : SigfmImgInfo) : List SigfmImgInfo → Option FpiMatchResult
  | [] => some .fail
  | pinfo :: prints => do
    let s ← score pinfo against
    if s < 0 then return .error .dataInvalid
    else if s ≥ threshold then return .success
    else sigfmMatchLoop against prints

/-- `fpi_print_sigfm_match`; the new print is there. -/
def fpiPrintSigfmMatch (template print : FpPrint) : Option FpiMatchResult :=
  match template.data with
  | .sigfm prints =>
    match print.data with
    | .sigfm (against :: _) => sigfmMatchLoop score threshold against prints
    | _ => none
  | _ => some (.error (.notSupported template.data.type))

end Match

/-! ### Storing a print -/

/-- What a `(issbymsmsia{sv}v)` holds in its last place. -/
inductive StoredData
  /-- A `(a(aiaiai))` -/
  | nbis (prints : List (List Int32 × List Int32 × List Int32))
  /-- A `(a(ay))` -/
  | sigfm (prints : List (List UInt8))
  /-- A `v` -/
  | variant (value : GVariant)
  | other (value : GVariant)
  deriving DecidableEq, Repr

/-- A value of `FPI_PRINT_VARIANT_TYPE`; the dictionary in it is not used. -/
structure PrintVariant where
  type : Int32
  driver : String
  deviceId : String
  deviceStored : Bool
  finger : UInt8
  username : Option String
  description : Option String
  julianDate : Int32
  data : StoredData
  deriving DecidableEq, Repr

/-- What the code takes from GLib. -/
structure GVariants where
  /-- `g_variant_store` -/
  store : PrintVariant → List UInt8
  /-- `g_variant_new_from_data`, `g_variant_get_normal_form` and `g_variant_get`, which make a
  value of all bytes. -/
  load : List UInt8 → PrintVariant

/-- A value that GLib reads as it has stored it, and that takes some bytes. -/
structure GVariants.Keeps (g : GVariants) (value : PrintVariant) : Prop where
  load : g.load (g.store value) = value
  size : g.store value ≠ []

def FpiPrintType.toInt32 : FpiPrintType → Int32
  | .undefined => 0
  | .raw => 1
  | .nbis => 2
  | .sigfm => 3

def FpFinger.toByte : FpFinger → UInt8
  | .unknown => 0
  | .leftThumb => 1
  | .leftIndex => 2
  | .leftMiddle => 3
  | .leftRing => 4
  | .leftLittle => 5
  | .rightThumb => 6
  | .rightIndex => 7
  | .rightMiddle => 8
  | .rightRing => 9
  | .rightLittle => 10

/-- `G_MININT32` -/
def noDate : Int32 := Int32.minValue

/-- The date that is stored. -/
def storedDate : Option UInt32 → Int32
  | none => noDate
  | some julian => if julian = 0 then noDate else julian.toInt32

/-- The array of a template, with the length that `sigfm_serialize_binary` gives. -/
def storedInfo (info : SigfmImgInfo) : Option (List UInt8) :=
  let (serialized, slen) := sigfmSerializeBinary info
  if slen < 0 then none else some (serialized.take slen.toInt.toNat)

/-- What is stored of a print's data, if its type has any. -/
def storedData : PrintData → Option StoredData
  | .undefined => none
  | .raw data => some (.variant data)
  | .nbis prints => some (.nbis (prints.map fun xyt => (xyt.xcol, xyt.ycol, xyt.thetacol)))
  | .sigfm prints => (prints.mapM storedInfo).map .sigfm

/-- The value that `fp_print_serialize` builds. -/
def printVariant (print : FpPrint) : Option PrintVariant := do
  let data ← storedData print.data
  return {
    type := print.data.type.toInt32
    driver := print.driver
    deviceId := print.deviceId
    deviceStored := print.deviceStored
    finger := print.finger.toByte
    username := print.username
    description := print.description
    julianDate := storedDate print.enrollDate
    data }

/-- `"FP3"` -/
def printMagic : List UInt8 := [0x46, 0x50, 0x33]

/-- `fp_print_serialize` -/
def fpPrintSerialize (g : GVariants) (print : FpPrint) : Option (List UInt8) :=
  (printVariant print).map fun value => printMagic ++ g.store value

/-! ### Reading a print -/

/-- Why no print comes of bytes. -/
inductive LoadError
  /-- An assertion fails. -/
  | aborted
  | invalidFormat
  /-- The value does not hold what its type says; what is made of it is left open. -/
  | mismatched
  /-- A template is read past its end. -/
  | beyond
  deriving DecidableEq, Repr

/-- A number that is no finger becomes the default of the property. -/
def FpFinger.ofByte (v : UInt8) : FpFinger :=
  match v.toNat with
  | 1 => .leftThumb
  | 2 => .leftIndex
  | 3 => .leftMiddle
  | 4 => .leftRing
  | 5 => .leftLittle
  | 6 => .rightThumb
  | 7 => .rightIndex
  | 8 => .rightMiddle
  | 9 => .rightRing
  | 10 => .rightLittle
  | _ => .unknown

/-- `g_date_new_julian` of the number that is stored. -/
def loadedDate (julianDate : Int32) : Option UInt32 :=
  if julianDate.toUInt32 = 0 then none else some julianDate.toUInt32

/-- A turn of the loop over the prints of type `FPI_PRINT_NBIS`. -/
def loadXyt (cols : List Int32 × List Int32 × List Int32) : Except LoadError XytStruct :=
  if h : cols.2.1.length = cols.1.length ∧ cols.2.2.length = cols.1.length ∧
      cols.1.length ≤ maxBozorthMinutiae then
    .ok ⟨cols.1, cols.2.1, cols.2.2, h.1, h.2.1, h.2.2⟩
  else .error .invalidFormat

/-- The bytes from `bytes` to `bytes + len`, where `len` is the stored length as an `int`.  None
where that is negative: the constructor of the buffer refuses such a range as too long. -/
def intRange (serialized : List UInt8) : Option (List UInt8) :=
  let len := Int32.ofNat serialized.length
  if len < 0 then none else some (serialized.take len.toInt.toNat)

/-- A turn of the loop over the prints of type `FPI_PRINT_SIGFM`. -/
def loadInfo (rt : Runtime) (serialized : List UInt8) : Except LoadError SigfmImgInfo :=
  match intRange serialized with
  | none => .error .invalidFormat
  | some bytes =>
    match sigfmDeserializeBinary rt bytes with
    | .info info _ => .ok info
    | .null => .error .invalidFormat
    | .beyond => .error .beyond

/-- What a print is made of, by the type that was stored. -/
def loadData (rt : Runtime) (value : PrintVariant) : Except LoadError PrintData :=
  if value.type = FpiPrintType.nbis.toInt32 then
    match value.data with
    | .nbis prints => do return .nbis (← prints.mapM loadXyt)
    | _ => .error .mismatched
  else if value.type = FpiPrintType.sigfm.toInt32 then
    match value.data with
    | .sigfm prints => do return .sigfm (← prints.mapM (loadInfo rt))
    | _ => .error .mismatched
  else if value.type = FpiPrintType.raw.toInt32 then
    match value.data with
    | .variant data => .ok (.raw data)
    | _ => .error .mismatched
  else .error .invalidFormat

/-- `fp_print_deserialize` -/
def fpPrintDeserialize (rt : Runtime) (g : GVariants) (data : List UInt8) :
    Except LoadError FpPrint :=
  if data.length ≤ 3 then .error .aborted
  else if data.take 3 ≠ printMagic then .error .invalidFormat
  else do
    let value := g.load (data.drop 3)
    let made ← loadData rt value
    return {
      data := made
      driver := value.driver
      deviceId := value.deviceId
      deviceStored := value.deviceStored
      finger := .ofByte value.finger
      username := value.username
      description := value.description
      enrollDate := loadedDate value.julianDate }

/-! ### Comparisons -/

section Verdicts

variable {score : SigfmImgInfo → SigfmImgInfo → Option Int} {threshold : Int}

/-- What a template decides by itself, if it does. -/
def verdict (score : SigfmImgInfo → SigfmImgInfo → Option Int) (threshold : Int)
    (against pinfo : SigfmImgInfo) : Option (Option FpiMatchResult) :=
  match score pinfo against with
  | none => some none
  | some s =>
    if s < 0 then some (some (.error .dataInvalid))
    else if s ≥ threshold then some (some .success)
    else none

/-- **The first template that decides** decides for the print. -/
theorem sigfmMatchLoop_eq (against : SigfmImgInfo) (prints : List SigfmImgInfo) :
    sigfmMatchLoop score threshold against prints =
      (prints.findSome? (verdict score threshold against)).getD (some .fail) := by
  induction prints with
  | nil => rfl
  | cons pinfo prints ih =>
      rw [sigfmMatchLoop, List.findSome?_cons]
      unfold verdict
      cases hscore : score pinfo against with
      | none => rfl
      | some s =>
          show (if s < 0 then _ else if s ≥ threshold then _ else _) = _
          by_cases hneg : s < 0
          · simp only [if_pos hneg]
            rfl
          · by_cases hhigh : s ≥ threshold
            · simp only [if_neg hneg, if_pos hhigh]
              rfl
            · simp only [if_neg hneg, if_neg hhigh]
              exact ih

/-- The score of two templates stays below the threshold. -/
def Below (score : SigfmImgInfo → SigfmImgInfo → Option Int) (threshold : Int)
    (against pinfo : SigfmImgInfo) : Prop :=
  ∃ s, score pinfo against = some s ∧ 0 ≤ s ∧ s < threshold

/-- The score of two templates reaches the threshold. -/
def Reaches (score : SigfmImgInfo → SigfmImgInfo → Option Int) (threshold : Int)
    (against pinfo : SigfmImgInfo) : Prop :=
  ∃ s, score pinfo against = some s ∧ 0 ≤ s ∧ threshold ≤ s

theorem verdict_eq_none {against pinfo : SigfmImgInfo} :
    verdict score threshold against pinfo = none ↔ Below score threshold against pinfo := by
  unfold verdict Below
  cases score pinfo against with
  | none => simp
  | some s =>
      simp only [Option.some.injEq, exists_eq_left']
      split
      · simp
        omega
      · split
        · simp
          omega
        · simp
          omega

theorem verdict_eq_success {against pinfo : SigfmImgInfo} :
    verdict score threshold against pinfo = some (some .success) ↔
      Reaches score threshold against pinfo := by
  unfold verdict Reaches
  cases score pinfo against with
  | none => simp
  | some s =>
      simp only [Option.some.injEq, exists_eq_left']
      split
      · simp
        omega
      · split
        · simp
          omega
        · simp
          omega

/-- A template that reaches the threshold, behind others that do not. -/
def Found (score : SigfmImgInfo → SigfmImgInfo → Option Int) (threshold : Int)
    (against : SigfmImgInfo) (prints : List SigfmImgInfo) : Prop :=
  ∃ before pinfo after, prints = before ++ pinfo :: after ∧
    Reaches score threshold against pinfo ∧ ∀ p ∈ before, Below score threshold against p

theorem sigfmMatchLoop_eq_fail {against : SigfmImgInfo} {prints : List SigfmImgInfo} :
    sigfmMatchLoop score threshold against prints = some .fail ↔
      ∀ pinfo ∈ prints, Below score threshold against pinfo := by
  rw [sigfmMatchLoop_eq]
  constructor
  · intro h pinfo hmem
    rw [← verdict_eq_none]
    cases hfirst : prints.findSome? (verdict score threshold against) with
    | none => exact List.findSome?_eq_none_iff.mp hfirst pinfo hmem
    | some v =>
        obtain ⟨_, p, _, -, hv, -⟩ := List.findSome?_eq_some_iff.mp hfirst
        rw [hfirst] at h
        obtain rfl : v = some .fail := h
        unfold verdict at hv
        split at hv
        · cases hv
        · split at hv
          · cases hv
          · split at hv <;> cases hv
  · intro h
    rw [List.findSome?_eq_none_iff.mpr fun pinfo hmem => verdict_eq_none.mpr (h pinfo hmem)]
    rfl

theorem sigfmMatchLoop_eq_success {against : SigfmImgInfo} {prints : List SigfmImgInfo} :
    sigfmMatchLoop score threshold against prints = some .success ↔
      Found score threshold against prints := by
  rw [sigfmMatchLoop_eq]
  unfold Found
  simp only [← verdict_eq_none, ← verdict_eq_success, ← List.findSome?_eq_some_iff]
  cases prints.findSome? (verdict score threshold against) <;> simp

end Verdicts

/-! ### A print and its bytes -/

/-- What a print with the date is like once it has been stored. -/
def reloadedDate (enrollDate : Option UInt32) : UInt32 :=
  match enrollDate with
  | none => noDate.toUInt32
  | some julian => if julian = 0 then noDate.toUInt32 else julian

def FpPrint.reloaded (print : FpPrint) : FpPrint :=
  { print with enrollDate := some (reloadedDate print.enrollDate) }

theorem storedDate_eq (enrollDate : Option UInt32) :
    storedDate enrollDate = (reloadedDate enrollDate).toInt32 := by
  unfold storedDate reloadedDate
  cases enrollDate with
  | none => rfl
  | some julian =>
      dsimp only
      split <;> rfl

theorem reloadedDate_ne_zero (enrollDate : Option UInt32) : reloadedDate enrollDate ≠ 0 := by
  unfold reloadedDate
  cases enrollDate with
  | none => decide
  | some julian =>
      dsimp only
      split
      · decide
      · assumption

theorem loadedDate_stored (enrollDate : Option UInt32) :
    loadedDate (storedDate enrollDate) = some (reloadedDate enrollDate) := by
  rw [storedDate_eq, loadedDate, UInt32.toUInt32_toInt32, if_neg (reloadedDate_ne_zero enrollDate)]

theorem FpFinger.ofByte_toByte (finger : FpFinger) : .ofByte finger.toByte = finger := by
  cases finger <;> rfl

/-- A template that is written whole and read again: the matrix owns its buffer, the bytes are
counted by an `int`, and there is memory for everything. -/
structure Runtime.Stores (rt : Runtime) (info : SigfmImgInfo) : Prop where
  owns : rt.Owns info.descriptors
  fits : (serializeInfo info).length ≤ 0x7FFFFFFF
  copy : rt.copy (serializeInfo info).length = true
  reserve : rt.reserve info.keypoints.length = true
  create : (rt.create info.descriptors.rows info.descriptors.cols
    info.descriptors.type).isSome = true

/-- A length below 2 GiB is itself as an `int`. -/
theorem int_of_length {n : Nat} (h : n ≤ 0x7FFFFFFF) :
    ¬ Int32.ofNat n < 0 ∧ (Int32.ofNat n).toInt.toNat = n := by
  have hlen : (Int32.ofNat n).toInt = n := Int32.toInt_ofNat_of_lt (by omega)
  constructor
  · rw [Int32.lt_iff_toInt_lt, hlen]
    exact not_lt.mpr (Int.natCast_nonneg _)
  · rw [hlen, Int.toNat_natCast]

theorem Runtime.Stores.storedInfo {rt : Runtime} {info : SigfmImgInfo} (h : rt.Stores info) :
    storedInfo info = some (serializeInfo info) := by
  obtain ⟨hpos, hlen⟩ := int_of_length h.fits
  unfold Gxfp.storedInfo sigfmSerializeBinary
  dsimp only
  rw [if_neg hpos, hlen, List.take_length]

/-- Below 2 GiB all bytes are in the range. -/
theorem intRange_of_le {serialized : List UInt8} (h : serialized.length ≤ 0x7FFFFFFF) :
    intRange serialized = some serialized := by
  obtain ⟨hpos, hlen⟩ := int_of_length h
  unfold intRange
  dsimp only
  rw [if_neg hpos, hlen, List.take_length]

theorem Runtime.Stores.loadInfo {rt : Runtime} {info : SigfmImgInfo} (h : rt.Stores info) :
    loadInfo rt (serializeInfo info) = .ok info := by
  have hfits := h.fits
  have hcount : info.keypoints.length < 2 ^ 64 := by
    have hlen := length_serializeKeyPoints info.keypoints
    rw [serializeInfo, List.length_append, hlen] at hfits
    omega
  have hread := deserializeInfo_serialize hcount h.owns h.reserve h.create []
  rw [List.append_nil] at hread
  rw [Gxfp.loadInfo, intRange_of_le hfits]
  dsimp only
  rw [sigfmDeserializeBinary, if_neg (not_not.mpr h.copy), hread]

theorem loadXyt_stored (xyt : XytStruct) : loadXyt (xyt.xcol, xyt.ycol, xyt.thetacol) = .ok xyt :=
  dif_pos ⟨xyt.ylen, xyt.thetalen, xyt.nrows⟩

/-- There is something to store, and it is read as it was. -/
def PrintData.Storable (rt : Runtime) : PrintData → Prop
  | .undefined => False
  | .raw _ => True
  | .nbis _ => True
  | .sigfm prints => ∀ info ∈ prints, rt.Stores info

theorem storedInfos {rt : Runtime} {prints : List SigfmImgInfo}
    (h : ∀ info ∈ prints, rt.Stores info) :
    prints.mapM storedInfo = some (prints.map serializeInfo) := by
  induction prints with
  | nil => rfl
  | cons info prints ih =>
      obtain ⟨hinfo, hprints⟩ := List.forall_mem_cons.mp h
      rw [List.mapM_cons, hinfo.storedInfo, ih hprints]
      rfl

/-- The loop of `fp_print_deserialize` over what was stored. -/
theorem mapM_stored {α β : Type} {f : β → Except LoadError α} {store : α → β} {prints : List α}
    (h : ∀ p ∈ prints, f (store p) = .ok p) : (prints.map store).mapM f = .ok prints := by
  rw [mapM_eq_ok_iff, List.forall₂_map_left_iff, List.forall₂_same]
  exact h

/-- What the templates of a print come to. -/
theorem loadData_sigfm {rt : Runtime} {value : PrintVariant} {prints : List (List UInt8)}
    (htype : value.type = FpiPrintType.sigfm.toInt32) (hvalue : value.data = .sigfm prints) :
    loadData rt value = (prints.mapM (loadInfo rt)).map .sigfm := by
  have hnot : ¬ value.type = FpiPrintType.nbis.toInt32 := by
    rw [htype]
    decide
  rw [loadData, if_neg hnot, if_pos htype, hvalue]
  dsimp only
  cases prints.mapM (loadInfo rt) <;> rfl

/-- **The data of a print** is stored with its type, and read by it. -/
theorem PrintData.Storable.load {rt : Runtime} {data : PrintData} (h : data.Storable rt) :
    ∃ stored, storedData data = some stored ∧ ∀ value : PrintVariant,
      value.type = data.type.toInt32 → value.data = stored → loadData rt value = .ok data := by
  cases data with
  | undefined => exact h.elim
  | raw data =>
      refine ⟨.variant data, rfl, fun value htype hvalue => ?_⟩
      unfold loadData
      rw [htype, hvalue]
      rfl
  | nbis prints =>
      refine ⟨_, rfl, fun value htype hvalue => ?_⟩
      have hnbis : value.type = FpiPrintType.nbis.toInt32 := htype
      rw [loadData, if_pos hnbis, hvalue]
      dsimp only
      rw [mapM_stored fun xyt _ => loadXyt_stored xyt]
      rfl
  | sigfm prints =>
      refine ⟨.sigfm (prints.map serializeInfo), ?_, fun value htype hvalue => ?_⟩
      · rw [storedData, storedInfos h]
        rfl
      · rw [loadData_sigfm htype hvalue, mapM_stored fun info hinfo => (h info hinfo).loadInfo]
        rfl

/-- **A print survives being stored**, all but its date.

It comes back with its metadata and everything it is made of, whatever its type is; a date that
is missing or not valid has become a date.  Stored again it is the same bytes. -/
theorem fpPrint_roundtrip (rt : Runtime) (g : GVariants) (print : FpPrint)
    (hdata : print.data.Storable rt)
    (hkeeps : ∀ value, printVariant print = some value → g.Keeps value) :
    ∃ bytes, fpPrintSerialize g print = some bytes ∧
      fpPrintDeserialize rt g bytes = .ok print.reloaded ∧
      fpPrintSerialize g print.reloaded = some bytes := by
  obtain ⟨stored, hstored, hload⟩ := hdata.load
  have hvariant : ∃ value, printVariant print = some value ∧ value.type = print.data.type.toInt32 ∧
      value.data = stored ∧ value.driver = print.driver ∧ value.deviceId = print.deviceId ∧
      value.deviceStored = print.deviceStored ∧ value.finger = print.finger.toByte ∧
      value.username = print.username ∧ value.description = print.description ∧
      value.julianDate = storedDate print.enrollDate := by
    unfold printVariant
    rw [hstored]
    exact ⟨_, rfl, rfl, rfl, rfl, rfl, rfl, rfl, rfl, rfl, rfl⟩
  obtain ⟨value, hvalue, htype, hdata, hdriver, hid, hdevice, hfinger, huser, hdescription,
    hdate⟩ := hvariant
  have hagain : printVariant print.reloaded = some value := by
    rw [← hvalue]
    unfold printVariant FpPrint.reloaded
    dsimp only
    have hsame : storedDate (some (reloadedDate print.enrollDate)) =
        storedDate print.enrollDate := by
      rw [storedDate_eq print.enrollDate, storedDate, if_neg (reloadedDate_ne_zero _)]
    rw [hsame]
  have hkept := hkeeps value hvalue
  have hsize : ¬ (printMagic ++ g.store value).length ≤ 3 := by
    have hpos := List.length_pos_iff.mpr hkept.size
    rw [List.length_append]
    show ¬ 3 + (g.store value).length ≤ 3
    omega
  refine ⟨printMagic ++ g.store value, ?_, ?_, ?_⟩
  · rw [fpPrintSerialize, hvalue]
    rfl
  · have htake : (printMagic ++ g.store value).take 3 = printMagic := rfl
    have hdrop : (printMagic ++ g.store value).drop 3 = g.store value := rfl
    rw [fpPrintDeserialize, if_neg hsize, if_neg (not_not.mpr htake), hdrop, hkept.load]
    dsimp only
    rw [hload value htype hdata, hdriver, hid, hdevice, hfinger, huser, hdescription, hdate,
      loadedDate_stored, FpFinger.ofByte_toByte]
    rfl
  · rw [fpPrintSerialize, hagain]
    rfl

/-- A thumb with one template, enrolled in July 2021. -/
def thumb : FpPrint :=
  { fpPrintNew "gxfp" "0" with
    data := .sigfm [dot]
    finger := .leftThumb
    username := some "u"
    enrollDate := some 738000 }

/-- It, as a value. -/
def thumbValue : PrintVariant where
  type := 3
  driver := "gxfp"
  deviceId := "0"
  deviceStored := false
  finger := 1
  username := some "u"
  description := none
  julianDate := 738000
  data := .sigfm [(sigfmSerializeBinary dot).1]

/-- What GLib makes of the value. -/
def thumbBytes : List UInt8 :=
  [3, 0, 0, 0, 0x67, 0x78, 0x66, 0x70, 0, 0x30, 0, 0, 1, 0x75, 0, 0, 0xD0, 0x42, 0x0B, 0] ++
    zeros 16 ++ [1, 0, 0, 0, 1, 0, 0, 0, 0x7F, 21, 0, 0x28, 0x61, 0x28, 0x61, 0x79, 0x29, 0x29] ++
    [24, 16, 16, 11, 9]

theorem fpPrint_roundtrip_thumb :
    ∃ bytes, fpPrintSerialize ⟨fun _ => thumbBytes, fun _ => thumbValue⟩ thumb = some bytes ∧
      fpPrintDeserialize openCv ⟨fun _ => thumbBytes, fun _ => thumbValue⟩ bytes =
        .ok thumb.reloaded ∧
      fpPrintSerialize ⟨fun _ => thumbBytes, fun _ => thumbValue⟩ thumb.reloaded = some bytes := by
  refine fpPrint_roundtrip openCv ⟨fun _ => thumbBytes, fun _ => thumbValue⟩ thumb ?_ ?_
  · intro info hinfo
    obtain rfl : info = dot := List.mem_singleton.mp hinfo
    exact ⟨⟨by decide, by decide⟩, by decide, rfl, by decide, by decide⟩
  · intro value hvalue
    have hthumb : printVariant thumb = some thumbValue := by decide
    rw [hthumb] at hvalue
    cases hvalue
    exact ⟨rfl, by decide⟩

/-! ### Bytes that were not written -/

end Gxfp
