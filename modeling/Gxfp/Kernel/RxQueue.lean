/-
The receive queue of the kernel driver, `src/kernel/gxfp.c`.

The interrupt thread copies the mailbox window and puts it, with a header, into a
byte FIFO; `gxfp_read` takes one record of `GXFP_RX_RECORD_SIZE` bytes out of it.
When the FIFO is full the whole queue is dropped, and the next read says so.

Each function is cut where another thread can come between: at the spin lock
`rx_lock`, at the stores to the flags, and at `disable_irq`, which returns only when
no interrupt thread runs.  `rxStep` is one such step.  `gxfp_suspend`, `gxfp_resume`
and `gxfp_remove` exclude each other by `tx_lock`, and what each of them has done so
far is in `TxHolder`.  `gxfp_read` holds `rx_read_lock` from its section to its
return, so that it is one step, with the outcome of `copy_to_user` in the action; a
read that would block is a step of its own each time it looks.
-/
import Gxfp.Io.Dev

namespace Gxfp

open Bytes

/-! ### The byte FIFO -/

/-- `kfifo_avail` -/
def kfifoAvail (size : Nat) (fifo : List UInt8) : Nat := size - fifo.length

/-- `kfifo_in`: as much of `bytes` as there is room for. -/
def kfifoIn (size : Nat) (fifo bytes : List UInt8) : List UInt8 :=
  fifo ++ bytes.take (kfifoAvail size fifo)

/-- `kfifo_out`: what was taken, and what is left. -/
def kfifoOut (fifo : List UInt8) (n : Nat) : List UInt8 × List UInt8 := (fifo.take n, fifo.drop n)

def rxFifoSize : Nat := 256 * 1024
def rxRecordSize : Nat := 16 + rxMax

/-! ### Records -/

/-- The contents of the mailbox window. -/
abbrev Window := { w : List UInt8 // w.length = rxMax }

/-- `struct gxfp_rx_record` without its data. -/
def rxHeader (timestampNs : UInt64) : List UInt8 :=
  leBytes 4 rxMax ++ leBytes 4 0 ++ leBytes 8 timestampNs.toNat

/-- What a snapshot of the window is queued as. -/
def rxRecord (timestampNs : UInt64) (window : Window) : List UInt8 :=
  rxHeader timestampNs ++ window.val

@[simp] theorem length_rxHeader (ts : UInt64) : (rxHeader ts).length = 16 := by
  simp [rxHeader]

@[simp] theorem length_rxRecord (ts : UInt64) (window : Window) :
    (rxRecord ts window).length = rxRecordSize := by
  rw [rxRecord, List.length_append, length_rxHeader, window.property, rxRecordSize]

/-! ### The state -/

/-- Where `gxfp_irq_thread` is. -/
inductive IrqThread
  /-- It does not run. -/
  | idle
  /-- The interrupt has come and the thread is to run. -/
  | woken
  /-- It has sampled `queue` and filled in the header. -/
  | sampled (queue : Bool) (timestampNs : UInt64)
  /-- It has read the window. -/
  | read (queue : Bool) (timestampNs : UInt64) (window : Window)
  deriving DecidableEq

/-- Which function holds `tx_lock`, and the last thing it did. -/
inductive TxHolder
  | free
  | suspend
  | suspendFlagged
  | suspendDisabled
  | suspendQuiet
  | resume
  | resumeCleared
  | remove
  | removeDisabled
  | removeQuiet
  deriving DecidableEq, Repr

/-- `struct gxfp`, as far as receiving goes. -/
structure RxState where
  removed : Bool
  suspended : Bool
  rxFifoReady : Bool
  rxOverflow : Bool
  queuedRecords : Nat
  rxFifo : List UInt8
  irq : IrqThread
  /-- How often the interrupt is disabled. -/
  irqDepth : Nat
  txLock : TxHolder
  /-- Calls of the flush that have passed its check. -/
  flushing : Nat
  deriving DecidableEq

/-- After `gxfp_probe`. -/
def RxState.probed : RxState where
  removed := false
  suspended := false
  rxFifoReady := true
  rxOverflow := false
  queuedRecords := 0
  rxFifo := []
  irq := .idle
  irqDepth := 0
  txLock := .free
  flushing := 0

/-! ### The sections under `rx_lock` -/

/-- The section of `gxfp_irq_thread`. -/
def rxEnqueue (s : RxState) (header window : List UInt8) : RxState :=
  if s.rxFifoReady ∧ rxRecordSize ≤ kfifoAvail rxFifoSize s.rxFifo then
    { s with
      rxFifo := kfifoIn rxFifoSize (kfifoIn rxFifoSize s.rxFifo header) window
      queuedRecords := s.queuedRecords + 1 }
  else { s with rxOverflow := true, rxFifo := [], queuedRecords := 0 }

/-- The section that `GXFP_IOCTL_FLUSH_RX` and `gxfp_suspend` share. -/
def rxDiscard (s : RxState) : RxState :=
  { s with
    rxFifo := if s.rxFifoReady then [] else s.rxFifo
    queuedRecords := 0
    rxOverflow := false }

/-- One turn of `gxfp_read`; with nothing queued it is `-EAGAIN`, or the wait. -/
def rxRead (s : RxState) (copied : Bool) : Except Errno (List UInt8) × RxState :=
  if s.removed then (.error .nodev, s)
  else if s.suspended then (.error .hostdown, s)
  else if ¬ s.rxFifoReady then (.error .nodev, s)
  else if s.rxOverflow then (.error .nobufs, { s with rxOverflow := false })
  else if 0 < s.queuedRecords then
    let (rec, rest) := kfifoOut s.rxFifo rxRecordSize
    if rec.length ≠ rxRecordSize then (.error .io, { s with rxFifo := [], queuedRecords := 0 })
    else
      let s := { s with rxFifo := rest, queuedRecords := s.queuedRecords - 1 }
      if copied then (.ok rec, s) else (.error .fault, s)
  else (.error .again, s)

/-! ### Steps -/

/-- Steps of `gxfp_irq_thread`, with what comes from outside. -/
inductive IrqAct
  | wake
  | sample (timestampNs : UInt64)
  | read (window : Window)
  | queue
  deriving DecidableEq

/-- Steps of `gxfp_suspend` and `gxfp_resume`. -/
inductive PmAct
  | suspendCheck
  | suspendFlag
  | suspendDisable
  | suspendSync
  | suspendDiscard
  | resumeCheck
  | resumeClear
  | resumeEnable
  deriving DecidableEq, Repr

/-- Steps of `gxfp_remove`. -/
inductive RemoveAct
  | flag
  | lock
  | disable
  | sync
  | discard
  deriving DecidableEq, Repr

/-- Steps of `gxfp_read`, which says whether `copy_to_user` succeeds, and of `gxfp_ioctl`. -/
inductive FileAct
  | read (copied : Bool)
  | flushCheck
  | flushDiscard
  deriving DecidableEq, Repr

inductive RxAct
  | irq (a : IrqAct)
  | pm (a : PmAct)
  | remove (a : RemoveAct)
  | file (a : FileAct)
  deriving DecidableEq

/-- What is seen from outside: a snapshot, with whether the device is active, and results. -/
inductive RxEvent
  | snapshot (active : Bool) (rec : List UInt8)
  | read (result : Except Errno (List UInt8))
  | flushed
  | suspended
  deriving DecidableEq

/-- The interrupt thread: it runs to its end once it has been woken. -/
def irqStep (s : RxState) : IrqAct → Option (RxState × Option RxEvent)
  | .wake => if s.irq = .idle ∧ s.irqDepth = 0 then some ({ s with irq := .woken }, none) else none
  | .sample ts =>
    if s.irq = .woken then
      some ({ s with irq := .sampled (!s.removed && !s.suspended) ts }, none)
    else none
  | .read window =>
    match s.irq with
    | .sampled queue ts =>
      some ({ s with irq := .read queue ts window },
        some (.snapshot (!s.removed && !s.suspended) (rxRecord ts window)))
    | _ => none
  | .queue =>
    match s.irq with
    | .read queue ts window =>
      let s := { s with irq := .idle }
      some (if queue then rxEnqueue s (rxHeader ts) window.val else s, none)
    | _ => none

/-- `gxfp_suspend` and `gxfp_resume`; enabling an interrupt that is enabled does nothing. -/
def pmStep (s : RxState) : PmAct → Option (RxState × Option RxEvent)
  | .suspendCheck =>
    if s.txLock = .free then
      some (if s.removed then s else { s with txLock := .suspend }, none)
    else none
  | .suspendFlag =>
    if s.txLock = .suspend then
      some ({ s with suspended := true, txLock := .suspendFlagged }, none)
    else none
  | .suspendDisable =>
    if s.txLock = .suspendFlagged then
      some ({ s with irqDepth := s.irqDepth + 1, txLock := .suspendDisabled }, none)
    else none
  | .suspendSync =>
    if s.txLock = .suspendDisabled ∧ s.irq = .idle then
      some ({ s with txLock := .suspendQuiet }, none)
    else none
  | .suspendDiscard =>
    if s.txLock = .suspendQuiet then
      some ({ rxDiscard s with txLock := .free }, some .suspended)
    else none
  | .resumeCheck =>
    if s.txLock = .free then
      some (if s.removed then s else { s with txLock := .resume }, none)
    else none
  | .resumeClear =>
    if s.txLock = .resume then
      some ({ s with suspended := false, txLock := .resumeCleared }, none)
    else none
  | .resumeEnable =>
    if s.txLock = .resumeCleared then
      some ({ s with irqDepth := s.irqDepth - 1, txLock := .free }, none)
    else none

/-- `gxfp_remove`; its first store is under `open_lock`, not `tx_lock`. -/
def removeStep (s : RxState) : RemoveAct → Option (RxState × Option RxEvent)
  | .flag => some ({ s with removed := true }, none)
  | .lock =>
    if s.removed ∧ s.txLock = .free then some ({ s with txLock := .remove }, none) else none
  | .disable =>
    if s.txLock = .remove then
      some (if s.suspended then { s with txLock := .removeQuiet }
        else { s with irqDepth := s.irqDepth + 1, txLock := .removeDisabled }, none)
    else none
  | .sync =>
    if s.txLock = .removeDisabled ∧ s.irq = .idle then
      some ({ s with txLock := .removeQuiet }, none)
    else none
  | .discard =>
    if s.txLock = .removeQuiet then
      some ({ rxDiscard s with rxFifoReady := false, txLock := .free }, none)
    else none

/-- `gxfp_read` and `gxfp_ioctl`. -/
def fileStep (s : RxState) : FileAct → Option (RxState × Option RxEvent)
  | .read copied => some ((rxRead s copied).2, some (.read (rxRead s copied).1))
  | .flushCheck => some (if s.removed then s else { s with flushing := s.flushing + 1 }, none)
  | .flushDiscard =>
    if 0 < s.flushing then
      some ({ rxDiscard s with flushing := s.flushing - 1 }, some .flushed)
    else none

/-- One step of one thread, if it can take it; what is seen of it. -/
def rxStep (s : RxState) : RxAct → Option (RxState × Option RxEvent)
  | .irq a => irqStep s a
  | .pm a => pmStep s a
  | .remove a => removeStep s a
  | .file a => fileStep s a

/-- An interleaving, and the events of it in order. -/
def rxRun : List RxAct → RxState → Option (RxState × List RxEvent)
  | [], s => some (s, [])
  | a :: as, s =>
    match rxStep s a with
    | none => none
    | some (s, event) =>
      match rxRun as s with
      | none => none
      | some (s, events) => some (s, event.toList ++ events)

end Gxfp
