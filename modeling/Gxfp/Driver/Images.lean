/-
Where the driver's images come from.

The states of a task that ask for an image, wait for it and store it are put on top of
the driver's machine.  An answer is first owed by the sensor, then in the kernel's
receive queue, then in the session's, and at last in the plaintext sink.  The TLS session
stays connected until the device is closed, so that what is in the session's queue is
decrypted by whoever asks for plaintext next.

A record stands for one TLS record.  It is where its last byte is.
-/
import Gxfp.Driver.Machine
import Gxfp.Image.Plain
import Gxfp.Image.Decoder

namespace Gxfp

open FpiDeviceGxfp

/-! ### Records -/

/-- A frame that the scan takes for a normal image. -/
abbrev ImageFrame := { f : GoodixFrame // NormalImage f }

/-- Frames that the scan takes no normal image from. -/
abbrev QuietFrames := { fs : List GoodixFrame // ∀ f ∈ fs, ¬ NormalImage f }

def QuietFrames.none : QuietFrames := ⟨[], fun _ h => absurd h List.not_mem_nil⟩

/-- The plaintext of a TLS record, with the `GET_IMAGE` that it answers, if it does. -/
structure TlsRecord where
  before : QuietFrames
  request : Option Nat
  after : QuietFrames

/-- The frames of a record; the sensor answers request `n` with `answer n`. -/
def TlsRecord.frames (answer : Nat → ImageFrame) (r : TlsRecord) : List GoodixFrame :=
  r.before.1 ++ (r.request.toList.map fun n => (answer n).1) ++ r.after.1

/-- What `gxfp_tls_session_pull_plain` yields for a record. -/
def TlsRecord.plain (answer : Nat → ImageFrame) (r : TlsRecord) : List UInt8 :=
  (r.frames answer).flatMap GoodixFrame.bytes

/-! ### The way of an image -/

/-- The image part of `FpiDeviceGxfp`, and where the answers are. -/
structure ImagePath where
  /-- How often `gxfp_cmd_get_image` has been called. -/
  requests : Nat
  /-- What the sensor has not answered yet. -/
  owed : List Nat
  /-- The kernel's receive queue. -/
  fifo : List TlsRecord
  /-- The session's receive queue. -/
  rxq : List TlsRecord
  sink : PlainSink
  dark : Option DecodedImage

/-- What the input and output of a state meet. -/
structure IoChoice where
  /-- The deadline has passed, if there is one. -/
  expired : Bool
  /-- What comes of everything that is not computed here: other commands, memory, events. -/
  result : IoResult
  /-- How many records `gxfp_poll_records` reads. -/
  polled : Nat
  /-- After how many records `gxfp_tls_session_pull_plain` fails, if it does. -/
  pullFails : Option Nat
  /-- Whether a `GET_IMAGE` reaches the sensor. -/
  reaches : Bool
  /-- Whether `malloc` succeeds at an offset of a record, and when the image is extracted. -/
  alloc : Nat → Nat → Bool
  extracts : Bool

/-- What the driver asks for and stores. -/
inductive ImageEvent
  /-- The task has called `gxfp_cmd_get_image`. -/
  | asked (task request : Nat)
  /-- `gxfp_store_reference_image` has made the dark frame of the body. -/
  | dark (task : Nat) (body : List UInt8)
  /-- `gxfp_store_image` has made the captured image of the body. -/
  | image (task : Nat) (body : List UInt8)
  deriving DecidableEq, Repr

/-- What a state's input and output come to. -/
structure ImageIo where
  result : IoResult
  path : ImagePath
  events : List ImageEvent

namespace ImagePath

/-- `gxfp_poll_records`, as far as it reads TLS records. -/
def gxfpPollRecords (p : ImagePath) (polled : Nat) : ImagePath :=
  { p with fifo := p.fifo.drop polled, rxq := p.rxq ++ p.fifo.take polled }

/-- `gxfp_plain_scan_chunks` on one record after the other. -/
def scanRecords (answer : Nat → ImageFrame) (alloc : Nat → Nat → Bool) (s : PlainSink) :
    List TlsRecord → PlainSink
  | [] => s
  | r :: rs =>
    scanRecords answer alloc (plainScanChunks (alloc rs.length) (r.plain answer) s) rs

/-- `gxfp_pull_plain`, of `pulled` records. -/
def gxfpPullPlain (answer : Nat → ImageFrame) (p : ImagePath) (alloc : Nat → Nat → Bool)
    (pulled : Nat) : ImagePath :=
  { p with
    rxq := p.rxq.drop pulled
    sink := scanRecords answer alloc p.sink (p.rxq.take pulled) }

/-- `GXFP_ACTIVATE_REFERENCE_START` and `GXFP_CAPTURE_START` -/
def imageStart (p : ImagePath) (task : Nat) (io : IoChoice) : ImageIo where
  result := io.result
  path :=
    { p with
      sink := plainSinkResetNormal p.sink
      requests := p.requests + 1
      owed := if io.reaches then p.owed ++ [p.requests] else p.owed }
  events := [.asked task p.requests]

/-- `GXFP_ACTIVATE_REFERENCE_WAIT` and `GXFP_CAPTURE_WAIT` -/
def imageWait (answer : Nat → ImageFrame) (p : ImagePath) (io : IoChoice) : ImageIo :=
  let p := p.gxfpPollRecords io.polled
  match io.result with
  | .failed error => ⟨.failed error, p, []⟩
  | .done | .again =>
    match io.pullFails with
    | some pulled => ⟨.failed .io, p.gxfpPullPlain answer io.alloc pulled, []⟩
    | none =>
      let p := p.gxfpPullPlain answer io.alloc p.rxq.length
      ⟨if p.sink.haveNormal then .done else .again, p, []⟩

/-- The image that `gxfp_store_reference_image` and `gxfp_store_image` start from. -/
def extractImage (p : ImagePath) (io : IoChoice) :
    Option (List UInt8 × DecodedImage) × ImagePath :=
  let (r, sink) := plainSinkExtractNormal p.sink io.extracts
  let p := { p with sink }
  match r with
  | .ok (some (_, body)) =>
    match decodeImageAuto body with
    | .ok img => (some (body, img), p)
    | .error _ => (none, p)
  | .ok none | .error _ => (none, p)

/-- `GXFP_ACTIVATE_REFERENCE_STORE`: `gxfp_store_reference_image` -/
def gxfpStoreReferenceImage (p : ImagePath) (task : Nat) (io : IoChoice) : ImageIo :=
  match p.extractImage io with
  | (none, p) => ⟨.failed .io, p, []⟩
  | (some (body, img), p) =>
    if img.rows = 0 ∨ img.cols = 0 ∨ io.result ≠ .done then ⟨.failed .io, p, []⟩
    else ⟨.done, { p with dark := some img }, [.dark task body]⟩

/-- `GXFP_CAPTURE_STORE`: `gxfp_store_image`.  The correction fails if the dark frame has
another size. -/
def gxfpStoreImage (p : ImagePath) (task : Nat) (io : IoChoice) : ImageIo :=
  match p.extractImage io with
  | (none, p) => ⟨.failed .io, p, []⟩
  | (some (body, img), p) =>
    if p.dark.any (fun dark => dark.rows ≠ img.rows ∨ dark.cols ≠ img.cols) ∨ io.result ≠ .done then
      ⟨.failed .io, p, []⟩
    else ⟨.done, p, [.image task body]⟩

/-- `gxfp_img_close` and `gxfp_img_open`: the session is freed and the queue flushed.  What
the sensor still owes could not be decrypted any more. -/
def closed (p : ImagePath) : ImagePath :=
  { p with owed := [], fifo := [], rxq := [], sink := plainSinkReset p.sink, dark := none }

end ImagePath

/-! ### Handlers -/

/-- The input and output of a state that has nothing to do with images. -/
def otherIo (p : ImagePath) (io : IoChoice) : ImageIo := ⟨io.result, p, []⟩

/-- The same, of a state that polls for records. -/
def pollIo (p : ImagePath) (io : IoChoice) : ImageIo :=
  ⟨io.result, p.gxfpPollRecords io.polled, []⟩

/-- A state that is left at once does no input or output. -/
def noIo (p : ImagePath) : ImageIo := ⟨.again, p, []⟩

/-- The input and output of the state that machine `m` is in. -/
def handlerIo (answer : Nat → ImageFrame) (dev : FpiDeviceGxfp) (m : Nat) (ssm : FpiSsm)
    (p : ImagePath) (io : IoChoice) : ImageIo :=
  if dev.taskDeadline ∧ io.expired then noIo p
  else
    match ssm.handler with
    | .activate =>
      match ssm.curState with
      | activateTls | activateFdtUpWait => pollIo p io
      | activateReferenceStart => p.imageStart m io
      | activateReferenceWait => p.imageWait answer io
      | activateReferenceStore => p.gxfpStoreReferenceImage m io
      | _ => otherIo p io
    | .wait =>
      match ssm.curState with
      | waitFdtEvent => pollIo p io
      | _ => otherIo p io
    | .capture =>
      match ssm.curState with
      | captureStart => if dev.deactivating then noIo p else p.imageStart m io
      | captureWait => p.imageWait answer io
      | captureStore => if dev.deactivating then noIo p else p.gxfpStoreImage m io
      | _ => otherIo p io

/-! ### Runs -/

/-- The driver, its images, and what it has asked for and stored. -/
structure ImageDriver where
  driver : Driver
  path : ImagePath
  log : List ImageEvent

def ImageDriver.constructed : ImageDriver where
  driver := Driver.constructed
  path := ⟨0, [], [], [], .zeroed, none⟩
  log := []

inductive ImageInput
  /-- The innermost call goes on. -/
  | call (io : IoChoice)
  | main (event : MainEvent)
  | cancel
  /-- The sensor answers the request it has owed an answer for longest. -/
  | answer (before after : QuietFrames)
  /-- A record comes that is no answer. -/
  | other (frames : QuietFrames)

/-- What of the pending calls concerns images. -/
def ImageDriver.io (answer : Nat → ImageFrame) (s : ImageDriver) (io : IoChoice) : ImageIo :=
  match s.driver.calls with
  | .handler m :: _ =>
    match s.driver.dev.ssms m with
    | some ssm => handlerIo answer s.driver.dev m ssm s.path io
    | none => otherIo s.path io
  | .imgCloseRest :: _ => otherIo s.path.closed io
  | _ => otherIo s.path io

def imageStep (answer : Nat → ImageFrame) (s : ImageDriver) : ImageInput → Option ImageDriver
  | .call io =>
    let r := s.io answer io
    (driverStep s.driver (.call ⟨io.expired, r.result⟩)).map fun driver =>
      ⟨driver, r.path, s.log ++ r.events⟩
  | .main event =>
    (driverStep s.driver (.main event)).map fun driver =>
      match event with
      | .openDevice _ => ⟨driver, s.path.closed, s.log⟩
      | _ => ⟨driver, s.path, s.log⟩
  | .cancel => (driverStep s.driver .cancel).map fun driver => { s with driver }
  | .answer before after =>
    match s.path.owed with
    | [] => none
    | n :: owed =>
      some { s with
        path := { s.path with owed, fifo := s.path.fifo ++ [⟨before, some n, after⟩] } }
  | .other frames =>
    some { s with
      path := { s.path with fifo := s.path.fifo ++ [⟨frames, none, .none⟩] } }

def imageRun (answer : Nat → ImageFrame) (inputs : List ImageInput) : Option ImageDriver :=
  inputs.foldlM (imageStep answer) ImageDriver.constructed

end Gxfp
