/-
Who accesses the hardware when, in `src/kernel/gxfp.c`.

The steps of the interrupt thread, of `gxfp_suspend`, `gxfp_resume` and `gxfp_remove`
are those of the receive queue's model.  Added here is what they do to the mailbox and
to the GPIOs, one access at a time, the section of `gxfp_write` under `tx_lock`, and
who calls: the PM core, by turns `gxfp_suspend` and `gxfp_resume`, and once, at any
time, the driver core `gxfp_remove`.
-/
import Gxfp.Kernel.Delivery
import Gxfp.Library.Transducer

namespace Gxfp

/-! ### Accesses -/

/-- An access to the mailbox window, at an offset, or to a GPIO, with its new value. -/
inductive HwAccess
  | readq (offset : Nat)
  | writeq (offset : Nat)
  | readDone (value : Bool)
  | writeDone (value : Bool)
  deriving DecidableEq, Repr

/-- `GXFP_RX_OFFSET` -/
def rxOffset : Nat := 0x200

/-- `GXFP_TX_MAX` -/
def txMax : Nat := 0x200

/-- `gxfp_write_tx` -/
def gxfpWriteTx (len : Nat) : List HwAccess :=
  (List.range ((len + 7) / 8)).map fun i => .writeq (8 * i)

/-- `gxfp_read_rx` -/
def gxfpReadRx : List HwAccess :=
  (List.range ((rxMax + 7) / 8)).map fun i => .readq (rxOffset + 8 * i)

/-- `gxfp_pulse_write_done` -/
def gxfpPulseWriteDone : List HwAccess := [.writeDone false, .writeDone true, .writeDone false]

/-- `gxfp_pulse_read_done` -/
def gxfpPulseReadDone : List HwAccess := [.readDone true, .readDone false]

/-- What `gxfp_suspend` and `gxfp_remove` do behind `disable_irq`. -/
def gpiosLow : List HwAccess := [.writeDone false, .readDone false]

/-! ### The state -/

/-- Which of its calls the PM core is in, or between; `gxfp_suspend` may have returned
without having suspended the device. -/
inductive PmCore
  | running
  | suspending
  | suspended (done : Bool)
  | resuming
  deriving DecidableEq, Repr

inductive RemoveCall
  | notCalled
  /-- It has set `removed`. -/
  | flagged
  /-- It has taken `tx_lock`. -/
  | locked
  | returned
  deriving DecidableEq, Repr

structure HwState where
  rx : RxState
  /-- What the interrupt thread has still to access before its next step. -/
  irqIo : List HwAccess
  /-- What the holder of `tx_lock` has still to access before its next step. -/
  lockIo : List HwAccess
  /-- `gxfp_write` holds `tx_lock`, to write as many bytes. -/
  writing : Option Nat
  pm : PmCore
  remove : RemoveCall

/-- After `gxfp_probe`. -/
def HwState.probed : HwState where
  rx := .probed
  irqIo := []
  lockIo := []
  writing := none
  pm := .running
  remove := .notCalled

/-- Nobody holds `tx_lock`. -/
def HwState.TxFree (s : HwState) : Prop := s.rx.txLock = .free ∧ s.writing = none

/-! ### Steps -/

/-- Who accesses the hardware; `power` is `gxfp_suspend` or `gxfp_remove`. -/
inductive HwUser
  | irqThread
  | write
  | power
  deriving DecidableEq, Repr

inductive HwEvent
  | access (user : HwUser) (access : HwAccess)
  /-- `gxfp_suspend` returns, and has suspended the device or not. -/
  | suspendReturned (done : Bool)
  | resumeStarted
  | removeReturned
  | written (result : Except Errno Nat)
  deriving DecidableEq

inductive HwAct
  /-- A step of the interrupt thread, and its next access. -/
  | irq (a : IrqAct)
  | irqAccess
  /-- The next access of the holder of `tx_lock`. -/
  | lockAccess
  /-- A call of the PM core, and a step in it. -/
  | suspend
  | resume
  | pm (a : PmAct)
  | remove (a : RemoveAct)
  /-- `gxfp_write` takes `tx_lock`, and `copy_from_user` succeeds or not; it returns. -/
  | write (count : Nat) (copied : Bool)
  | writeReturn
  | file (a : FileAct)
  deriving DecidableEq

/-- What follows a step of the interrupt thread. -/
def irqAccesses : IrqAct → List HwAccess
  | .sample _ => gxfpReadRx
  | .read _ => gxfpPulseReadDone
  | .wake | .queue => []

def hwIrqStep (s : HwState) (a : IrqAct) : Option (HwState × Option HwEvent) :=
  if s.irqIo = [] then
    (irqStep s.rx a).map fun (rx, _) => ({ s with rx, irqIo := irqAccesses a }, none)
  else none

/-- The call that a step is made in. -/
def PmAct.call : PmAct → PmCore
  | .suspendCheck | .suspendFlag | .suspendDisable | .suspendSync | .suspendDiscard => .suspending
  | .resumeCheck | .resumeClear | .resumeEnable => .resuming

/-- With `tx_lock` free behind a step the call returns. -/
def pmReturn (s : HwState) (a : PmAct) : HwState × Option HwEvent :=
  if s.rx.txLock ≠ .free then (s, none)
  else if a.call = .suspending then
    ({ s with pm := .suspended (a = .suspendDiscard) },
      some (.suspendReturned (a = .suspendDiscard)))
  else ({ s with pm := .running }, none)

def hwPmStep (s : HwState) (a : PmAct) : Option (HwState × Option HwEvent) :=
  if s.pm = a.call ∧ s.writing = none ∧ s.lockIo = [] then
    (pmStep s.rx a).map fun (rx, _) =>
      pmReturn { s with rx, lockIo := if a = .suspendSync then gpiosLow else [] } a
  else none

def hwRemoveStep (s : HwState) : RemoveAct → Option (HwState × Option HwEvent)
  | .flag =>
    if s.remove = .notCalled then
      (removeStep s.rx .flag).map fun (rx, _) => ({ s with rx, remove := .flagged }, none)
    else none
  | .lock =>
    if s.remove = .flagged ∧ s.writing = none then
      (removeStep s.rx .lock).map fun (rx, _) => ({ s with rx, remove := .locked }, none)
    else none
  | .disable =>
    (removeStep s.rx .disable).map fun (rx, _) =>
      ({ s with rx, lockIo := if rx.txLock = .removeQuiet then gpiosLow else [] }, none)
  | .sync => (removeStep s.rx .sync).map fun (rx, _) => ({ s with rx, lockIo := gpiosLow }, none)
  | .discard =>
    if s.lockIo = [] then
      (removeStep s.rx .discard).map fun (rx, _) =>
        ({ s with rx, remove := .returned }, some .removeReturned)
    else none

/-- `gxfp_write` up to its accesses, if it comes so far. -/
def hwWrite (s : HwState) (count : Nat) (copied : Bool) : Option (HwState × Option HwEvent) :=
  if count = 0 ∨ txMax < count then some (s, some (.written (.error .msgsize)))
  else if s.rx.txLock ≠ .free ∨ s.writing.isSome then none
  else if s.rx.removed then some (s, some (.written (.error .nodev)))
  else if s.rx.suspended then some (s, some (.written (.error .hostdown)))
  else if ¬ copied then some (s, some (.written (.error .fault)))
  else
    let txLen := (count + 7) / 8 * 8
    some ({ s with writing := some count, lockIo := gxfpWriteTx txLen ++ gxfpPulseWriteDone }, none)

def hwStep (s : HwState) : HwAct → Option (HwState × Option HwEvent)
  | .irq a => hwIrqStep s a
  | .irqAccess =>
    match s.irqIo with
    | [] => none
    | access :: rest => some ({ s with irqIo := rest }, some (.access .irqThread access))
  | .lockAccess =>
    match s.lockIo with
    | [] => none
    | access :: rest =>
      some ({ s with lockIo := rest },
        some (.access (if s.writing.isSome then .write else .power) access))
  | .suspend => if s.pm = .running then some ({ s with pm := .suspending }, none) else none
  | .resume =>
    match s.pm with
    | .suspended _ => some ({ s with pm := .resuming }, some .resumeStarted)
    | _ => none
  | .pm a => hwPmStep s a
  | .remove a => hwRemoveStep s a
  | .write count copied => hwWrite s count copied
  | .writeReturn =>
    match s.writing with
    | none => none
    | some count =>
      if s.lockIo = [] then some ({ s with writing := none }, some (.written (.ok count)))
      else none
  | .file a => (fileStep s.rx a).map fun (rx, _) => ({ s with rx }, none)

/-- An interleaving, and the events of it in order. -/
def hwRun : List HwAct → HwState → Option (HwState × List HwEvent) := Transducer.run hwStep

end Gxfp
