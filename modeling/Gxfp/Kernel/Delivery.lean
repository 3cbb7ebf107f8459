/-
What userspace may rely on in the records it reads.

Two invariants hold over every interleaving.  `RxState.Threads` is about the
flags: an interrupt thread that has sampled `queue` as false did so while the device
was suspended or removed, and it still is when the thread takes its snapshot,
because nobody clears `suspended` before `disable_irq` has waited for the thread.
`RxRefines` is about the queue: the bytes in the FIFO are the records of the
arrivals that the ledger has pending, and a ledger that owes a notice has the
overflow flag set, unless the device is gone.

The rest is the ledger's: its rules are applied one for each step that takes,
stores or drops a record.
-/
import Gxfp.Kernel.RxQueue
import Gxfp.Library.LossyQueue

namespace Gxfp

open Bytes LossyQueue

/-! ### The flags -/

/-- What the flags say about the interrupt thread. -/
structure RxState.Threads (s : RxState) : Prop where
  /-- A snapshot that will not be queued is taken while the device is not active. -/
  off : ∀ ts, s.irq = .sampled false ts → s.suspended = true ∨ s.removed = true
  /-- After `disable_irq` has returned the thread does not run until `resume`. -/
  quiet : s.suspended = true → s.txLock ≠ .suspendFlagged → s.txLock ≠ .suspendDisabled →
    s.irq = .idle ∧ 0 < s.irqDepth
  disabled : s.txLock = .suspendDisabled → 0 < s.irqDepth
  cleared : s.txLock = .resumeCleared → s.suspended = false
  removing : s.txLock = .remove ∨ s.txLock = .removeDisabled ∨ s.txLock = .removeQuiet →
    s.removed = true
  ready : s.rxFifoReady = false → s.removed = true

/-- The holders about which the invariant says nothing of their own. -/
def TxHolder.plain : TxHolder → Bool
  | .free | .suspend | .suspendQuiet | .resume => true
  | _ => false

section Flags

variable {s s' : RxState} {event : Option RxEvent}

theorem threads_probed : RxState.probed.Threads := by
  constructor <;> simp [RxState.probed]

/-- The queue plays no part in it. -/
theorem RxState.Threads.queue (h : s.Threads) (overflow : Bool) (count : Nat) (fifo : List UInt8) :
    RxState.Threads
      { s with rxOverflow := overflow, queuedRecords := count, rxFifo := fifo } :=
  ⟨h.off, h.quiet, h.disabled, h.cleared, h.removing, h.ready⟩

/-- The lock changes hands. -/
theorem RxState.Threads.lock (h : s.Threads) {holder : TxHolder} (hholder : holder.plain = true)
    (hquiet : s.suspended = true → s.irq = .idle ∧ 0 < s.irqDepth) :
    RxState.Threads { s with txLock := holder } where
  off := h.off
  quiet := fun hsuspended _ _ => hquiet hsuspended
  disabled := by
    rintro rfl
    cases hholder
  cleared := by
    rintro rfl
    cases hholder
  removing := by
    rintro (rfl | rfl | rfl) <;> cases hholder
  ready := h.ready

/-- The thread goes on; it is not idle, so no suspend has been waited for. -/
theorem RxState.Threads.irq (h : s.Threads)
    (hrunning : s.suspended = true → s.txLock ≠ .suspendFlagged → s.txLock ≠ .suspendDisabled →
      ¬ (s.irq = .idle ∧ 0 < s.irqDepth)) {irq : IrqThread}
    (hoff : ∀ ts, irq = .sampled false ts → s.suspended = true ∨ s.removed = true) :
    RxState.Threads { s with irq } :=
  ⟨hoff, fun hs hf hd => absurd (h.quiet hs hf hd) (hrunning hs hf hd), h.disabled, h.cleared,
    h.removing, h.ready⟩

/-- The interrupt thread's section changes the queue only. -/
theorem rxEnqueue_frame (s : RxState) (header window : List UInt8) :
    ∃ overflow count fifo, rxEnqueue s header window =
      { s with rxOverflow := overflow, queuedRecords := count, rxFifo := fifo } := by
  unfold rxEnqueue
  split
  · exact ⟨_, _, _, rfl⟩
  · exact ⟨_, _, _, rfl⟩

/-- So does a read. -/
theorem rxRead_frame (s : RxState) (copied : Bool) :
    ∃ overflow count fifo, (rxRead s copied).2 =
      { s with rxOverflow := overflow, queuedRecords := count, rxFifo := fifo } := by
  have hsame : ∃ overflow count fifo,
      s = { s with rxOverflow := overflow, queuedRecords := count, rxFifo := fifo } :=
    ⟨_, _, _, rfl⟩
  unfold rxRead
  by_cases hremoved : s.removed = true
  · rw [if_pos hremoved]
    exact hsame
  by_cases hsuspended : s.suspended = true
  · rw [if_neg hremoved, if_pos hsuspended]
    exact hsame
  by_cases hready : s.rxFifoReady = true
  · by_cases hoverflow : s.rxOverflow = true
    · rw [if_neg hremoved, if_neg hsuspended, if_neg (not_not.mpr hready), if_pos hoverflow]
      exact ⟨_, _, _, rfl⟩
    by_cases hqueued : 0 < s.queuedRecords
    · rw [if_neg hremoved, if_neg hsuspended, if_neg (not_not.mpr hready), if_neg hoverflow,
        if_pos hqueued]
      dsimp only
      split
      · exact ⟨_, _, _, rfl⟩
      · split
        · exact ⟨_, _, _, rfl⟩
        · exact ⟨_, _, _, rfl⟩
    · rw [if_neg hremoved, if_neg hsuspended, if_neg (not_not.mpr hready), if_neg hoverflow,
        if_neg hqueued]
      exact hsame
  · rw [if_neg hremoved, if_neg hsuspended, if_pos hready]
    exact hsame

theorem RxState.Threads.irqStep {a : IrqAct} (h : s.Threads)
    (hs : irqStep s a = some (s', event)) : s'.Threads := by
  cases a with
  | wake =>
      rw [Gxfp.irqStep] at hs
      split at hs
      · rename_i hwake
        cases hs
        refine h.irq (fun _ _ _ hquiet => ?_) (fun ts hts => nomatch hts)
        rw [hwake.2] at hquiet
        exact Nat.lt_irrefl 0 hquiet.2
      · cases hs
  | sample ts =>
      rw [Gxfp.irqStep] at hs
      split at hs
      · rename_i hwoken
        cases hs
        refine h.irq (fun _ _ _ hquiet => ?_) ?_
        · rw [hwoken] at hquiet
          exact nomatch hquiet.1
        · intro ts' hts
          simp only [IrqThread.sampled.injEq] at hts
          cases hremoved : s.removed with
          | true => exact Or.inr rfl
          | false =>
              rw [hremoved] at hts
              cases hsuspended : s.suspended with
              | true => exact Or.inl rfl
              | false =>
                  rw [hsuspended] at hts
                  exact nomatch hts.1
      · cases hs
  | read window =>
      rw [Gxfp.irqStep] at hs
      split at hs
      · rename_i queue ts hirq
        cases hs
        refine h.irq (fun _ _ _ hquiet => ?_) (fun ts hts => nomatch hts)
        rw [hirq] at hquiet
        exact nomatch hquiet.1
      · cases hs
  | queue =>
      rw [Gxfp.irqStep] at hs
      split at hs
      · rename_i queue ts window hirq
        cases hs
        have hidle : RxState.Threads { s with irq := .idle } := by
          refine h.irq (fun _ _ _ hquiet => ?_) (fun ts hts => nomatch hts)
          rw [hirq] at hquiet
          exact nomatch hquiet.1
        cases queue with
        | true =>
            obtain ⟨overflow, count, fifo, hframe⟩ :=
              rxEnqueue_frame { s with irq := .idle } (rxHeader ts) window.val
            rw [if_pos rfl, hframe]
            exact hidle.queue overflow count fifo
        | false => exact hidle
      · cases hs

theorem RxState.Threads.pmStep {a : PmAct} (h : s.Threads)
    (hs : pmStep s a = some (s', event)) : s'.Threads := by
  cases a with
  | suspendCheck | resumeCheck =>
      rw [Gxfp.pmStep] at hs
      split at hs
      · rename_i hfree
        cases hs
        split
        · exact h
        · exact h.lock rfl fun hs => h.quiet hs (by rw [hfree]; simp) (by rw [hfree]; simp)
      · cases hs
  | suspendFlag =>
      rw [Gxfp.pmStep] at hs
      split at hs
      · cases hs
        exact ⟨fun _ _ => Or.inl rfl, fun _ hne _ => absurd rfl hne, nofun, nofun, nofun, h.ready⟩
      · cases hs
  | suspendDisable =>
      rw [Gxfp.pmStep] at hs
      split at hs
      · cases hs
        exact ⟨h.off, fun _ _ hne => absurd rfl hne, fun _ => Nat.succ_pos _, nofun, nofun, h.ready⟩
      · cases hs
  | suspendSync =>
      rw [Gxfp.pmStep] at hs
      split at hs
      · rename_i hidle
        cases hs
        exact h.lock rfl fun _ => ⟨hidle.2, h.disabled hidle.1⟩
      · cases hs
  | suspendDiscard =>
      rw [Gxfp.pmStep] at hs
      split at hs
      · rename_i hlock
        cases hs
        exact (h.queue _ _ _).lock rfl fun hs =>
          h.quiet hs (by rw [hlock]; simp) (by rw [hlock]; simp)
      · cases hs
  | resumeClear =>
      rw [Gxfp.pmStep] at hs
      split at hs
      · rename_i hlock
        cases hs
        refine ⟨?_, nofun, nofun, fun _ => rfl, nofun, h.ready⟩
        intro ts hirq
        rcases h.off ts hirq with hsuspended | hremoved
        · -- while it is suspended and nobody waits for the thread, the thread is idle
          have hquiet := h.quiet hsuspended (by rw [hlock]; simp) (by rw [hlock]; simp)
          rw [show s.irq = .sampled false ts from hirq] at hquiet
          exact nomatch hquiet.1
        · exact Or.inr hremoved
      · cases hs
  | resumeEnable =>
      rw [Gxfp.pmStep] at hs
      split at hs
      · rename_i hlock
        cases hs
        refine ⟨h.off, ?_, nofun, nofun, nofun, h.ready⟩
        intro hsuspended
        rw [h.cleared hlock] at hsuspended
        cases hsuspended
      · cases hs

theorem RxState.Threads.removeStep {a : RemoveAct} (h : s.Threads)
    (hs : removeStep s a = some (s', event)) : s'.Threads := by
  cases a with
  | flag =>
      cases hs
      exact ⟨fun _ _ => Or.inr rfl, h.quiet, h.disabled, h.cleared, fun _ => rfl, fun _ => rfl⟩
  | lock =>
      rw [Gxfp.removeStep] at hs
      split at hs
      · rename_i hlock
        cases hs
        exact ⟨h.off, fun hs _ _ => h.quiet hs (by rw [hlock.2]; simp) (by rw [hlock.2]; simp),
          nofun, nofun, fun _ => hlock.1, h.ready⟩
      · cases hs
  | disable =>
      rw [Gxfp.removeStep] at hs
      split at hs
      · rename_i hlock
        cases hs
        have hremoved : s.removed = true := h.removing (Or.inl hlock)
        split
        · exact ⟨h.off, fun hs _ _ => h.quiet hs (by rw [hlock]; simp) (by rw [hlock]; simp),
            nofun, nofun, fun _ => hremoved, h.ready⟩
        · rename_i hnot
          exact ⟨h.off, fun hs => absurd hs hnot, nofun, nofun, fun _ => hremoved, h.ready⟩
      · cases hs
  | sync =>
      rw [Gxfp.removeStep] at hs
      split at hs
      · rename_i hidle
        cases hs
        have hremoved : s.removed = true := h.removing (Or.inr (Or.inl hidle.1))
        exact ⟨h.off, fun hs _ _ => h.quiet hs (by rw [hidle.1]; simp) (by rw [hidle.1]; simp),
          nofun, nofun, fun _ => hremoved, h.ready⟩
      · cases hs
  | discard =>
      rw [Gxfp.removeStep] at hs
      split at hs
      · rename_i hlock
        cases hs
        have hremoved : s.removed = true := h.removing (Or.inr (Or.inr hlock))
        exact ⟨h.off, fun hs _ _ => h.quiet hs (by rw [hlock]; simp) (by rw [hlock]; simp),
          nofun, nofun, nofun, fun _ => hremoved⟩
      · cases hs

theorem RxState.Threads.fileStep {a : FileAct} (h : s.Threads)
    (hs : fileStep s a = some (s', event)) : s'.Threads := by
  cases a with
  | read copied =>
      obtain ⟨overflow, count, fifo, hframe⟩ := rxRead_frame s copied
      rw [Gxfp.fileStep, hframe] at hs
      cases hs
      exact h.queue overflow count fifo
  | flushCheck =>
      cases hs
      split
      · exact h
      · exact ⟨h.off, h.quiet, h.disabled, h.cleared, h.removing, h.ready⟩
  | flushDiscard =>
      rw [Gxfp.fileStep] at hs
      split at hs
      · cases hs
        exact ⟨h.off, h.quiet, h.disabled, h.cleared, h.removing, h.ready⟩
      · cases hs

/-- **Every step keeps the flags' invariant.** -/
theorem RxState.Threads.step {a : RxAct} (h : s.Threads) (hs : rxStep s a = some (s', event)) :
    s'.Threads := by
  cases a with
  | irq a => exact h.irqStep hs
  | pm a => exact h.pmStep hs
  | remove a => exact h.removeStep hs
  | file a => exact h.fileStep hs

end Flags

/-! ### The queue -/

/-- Records with the places in the log where they arrived. -/
abbrev Arrivals := List (Nat × List UInt8)

/-- The bytes of a run of records. -/
def fifoBytes (q : Arrivals) : List UInt8 := (q.map Prod.snd).flatten

theorem fifoBytes_append (q r : Arrivals) : fifoBytes (q ++ r) = fifoBytes q ++ fifoBytes r := by
  simp [fifoBytes]

theorem kfifoIn_of_le {size : Nat} {fifo bytes : List UInt8}
    (h : bytes.length ≤ kfifoAvail size fifo) : kfifoIn size fifo bytes = fifo ++ bytes := by
  rw [kfifoIn, List.take_of_length_le h]

/-- **A record that fits is appended as a whole.** -/
theorem kfifoIn_record {fifo : List UInt8} (h : rxRecordSize ≤ kfifoAvail rxFifoSize fifo)
    (ts : UInt64) (window : Window) :
    kfifoIn rxFifoSize (kfifoIn rxFifoSize fifo (rxHeader ts)) window.val =
      fifo ++ rxRecord ts window := by
  have hwindow : window.val.length = rxMax := window.property
  unfold kfifoAvail rxRecordSize at h
  have hheader : (rxHeader ts).length ≤ kfifoAvail rxFifoSize fifo := by
    rw [length_rxHeader, kfifoAvail]
    omega
  rw [kfifoIn_of_le hheader, kfifoIn_of_le, rxRecord, List.append_assoc]
  rw [kfifoAvail, List.length_append, length_rxHeader]
  omega

/-- What the events mean to a reader. -/
def rxVocabulary : Vocabulary RxEvent (List UInt8) where
  arrived
    | .snapshot active rec => some (active, rec)
    | _ => none
  delivered
    | .read (.ok rec) => some rec
    | _ => none
  notice
    | .read (.error .nobufs) | .read (.error .fault) | .flushed | .suspended => true
    | _ => false

/-- The record the interrupt thread holds and will queue. -/
def IrqThread.holds : IrqThread → Option (List UInt8)
  | .read true ts window => some (rxRecord ts window)
  | _ => none

/-- The FIFO holds the arrivals `q`; they and what the thread holds are all that is pending. -/
structure RxRefines (s : RxState) (l : Ledger RxEvent (List UInt8)) (q held : Arrivals) : Prop where
  ledger : l.Inv rxVocabulary
  pending : l.pending = q ++ held
  holds : held.map Prod.snd = s.irq.holds.toList
  fifo : s.rxFifo = fifoBytes q
  sizes : ∀ x ∈ q, x.2.length = rxRecordSize
  count : s.queuedRecords = q.length
  said : s.removed = false → s.rxOverflow = false → l.unsaid = false
  closed : s.rxFifoReady = false → q = []

/-- A state that some ledger with this log refines. -/
def RxState.Refined (s : RxState) (log : List RxEvent) : Prop :=
  ∃ l q held, RxRefines s l q held ∧ l.log = log

section Queue

variable {s s' : RxState} {l : Ledger RxEvent (List UInt8)} {q held : Arrivals}
  {log : List RxEvent}

theorem refined_probed : RxState.probed.Refined [] := by
  refine ⟨Ledger.empty, [], [], ?_, rfl⟩
  constructor
  case ledger => exact Ledger.Inv.empty
  case sizes =>
    intro x hx
    cases hx
  all_goals first | rfl | (intros; rfl)

/-- A step that does not touch the queue. -/
theorem RxRefines.frame (h : RxRefines s l q held) (hfifo : s'.rxFifo = s.rxFifo)
    (hcount : s'.queuedRecords = s.queuedRecords) (hready : s'.rxFifoReady = s.rxFifoReady)
    (hoverflow : s'.rxOverflow = s.rxOverflow) (hholds : s'.irq.holds = s.irq.holds)
    (hremoved : s'.removed = false → s.removed = false) : RxRefines s' l q held where
  ledger := h.ledger
  pending := h.pending
  holds := hholds ▸ h.holds
  fifo := hfifo.trans h.fifo
  sizes := h.sizes
  count := hcount.trans h.count
  said := fun hr ho => h.said (hremoved hr) (hoverflow ▸ ho)
  closed := fun hr => h.closed (hready ▸ hr)

/-- Discarding the queue is a notice, which leaves only what the thread holds. -/
theorem RxRefines.discard (h : RxRefines s l q held) {e : RxEvent}
    (harr : rxVocabulary.arrived e = none) (hdel : rxVocabulary.delivered e = none)
    (hnotice : rxVocabulary.notice e = true) :
    RxRefines (rxDiscard s) (l.note e held false) [] held where
  ledger := h.ledger.notice harr hdel hnotice (h.pending ▸ List.sublist_append_right q held)
  pending := rfl
  holds := h.holds
  fifo := by
    show (if s.rxFifoReady = true then [] else s.rxFifo) = []
    by_cases hready : s.rxFifoReady = true
    · rw [if_pos hready]
    · rw [if_neg hready, h.fifo, h.closed (Bool.not_eq_true _ ▸ hready)]
      rfl
  sizes := by
    intro x hx
    cases hx
  count := rfl
  said := fun _ _ => rfl
  closed := fun _ => rfl

/-- **The interrupt thread's section** appends its record or drops the queue. -/
theorem RxRefines.enqueue {ts : UInt64} {window : Window} (h : RxRefines s l q held)
    (hirq : s.irq = .read true ts window) :
    ∃ l' q', RxRefines (rxEnqueue { s with irq := .idle } (rxHeader ts) window.val) l' q' [] ∧
      l'.log = l.log := by
  have hheld : held.map Prod.snd = [rxRecord ts window] := by
    rw [h.holds, hirq]
    rfl
  obtain ⟨i, rfl⟩ : ∃ i, held = [(i, rxRecord ts window)] := by
    match held, hheld with
    | [(i, _)], rfl => exact ⟨i, rfl⟩
  by_cases hroom : s.rxFifoReady = true ∧ rxRecordSize ≤ kfifoAvail rxFifoSize s.rxFifo
  · refine ⟨l, q ++ [(i, rxRecord ts window)], ?_, rfl⟩
    rw [rxEnqueue, if_pos hroom]
    constructor
    case ledger => exact h.ledger
    case pending => rw [h.pending, List.append_nil]
    case holds => rfl
    case fifo =>
      dsimp only
      rw [kfifoIn_record hroom.2, h.fifo, fifoBytes_append]
      simp [fifoBytes]
    case sizes =>
      intro x hx
      rcases List.mem_append.mp hx with hx | hx
      · exact h.sizes x hx
      · rw [List.mem_singleton.mp hx]
        exact length_rxRecord ts window
    case count =>
      dsimp only
      rw [h.count, List.length_append, List.length_singleton]
    case said => exact h.said
    case closed =>
      intro hready
      rw [hroom.1] at hready
      cases hready
  · refine ⟨{ l with pending := [], unsaid := true }, [], ?_, rfl⟩
    rw [rxEnqueue, if_neg hroom]
    constructor
    case ledger => exact h.ledger.lose (List.nil_sublist _)
    case sizes =>
      intro x hx
      cases hx
    case said =>
      intro _ hoverflow
      cases hoverflow
    all_goals first | rfl | (intros; rfl)

/-- What a read finds on a queue that is not empty: the oldest record, whole. -/
theorem rxRead_queued (h : RxRefines s l q held) {x : Nat × List UInt8} {rest : Arrivals}
    (hq : q = x :: rest) (hactive : s.removed = false ∧ s.suspended = false)
    (hready : s.rxFifoReady = true) (hoverflow : s.rxOverflow = false) (copied : Bool) :
    rxRead s copied = (if copied then .ok x.2 else .error .fault,
      { s with rxFifo := fifoBytes rest, queuedRecords := rest.length }) := by
  have hsize : x.2.length = rxRecordSize := h.sizes x (by rw [hq]; exact List.mem_cons_self)
  have hfifo : s.rxFifo = x.2 ++ fifoBytes rest := by
    rw [h.fifo, hq]
    rfl
  have hcount : s.queuedRecords = rest.length + 1 := by rw [h.count, hq, List.length_cons]
  have htake : s.rxFifo.take rxRecordSize = x.2 := by rw [hfifo, ← hsize, List.take_left]
  have hdrop : s.rxFifo.drop rxRecordSize = fifoBytes rest := by
    rw [hfifo, ← hsize, List.drop_left]
  simp only [rxRead, kfifoOut, htake, hdrop, hactive.1, hactive.2, hready, hoverflow, hcount, hsize]
  cases copied <;> simp

/-- **A read** delivers the oldest record, or tells what happened to it. -/
theorem RxRefines.read (h : RxRefines s l q held) (ht : s.Threads) (copied : Bool) :
    (rxRead s copied).1 ≠ .error .io ∧
      (rxRead s copied).2.Refined (l.log ++ [.read (rxRead s copied).1]) := by
  -- a result that says nothing and changes nothing
  have hnothing : ∀ e, rxRead s copied = (.error e, s) → e ≠ .io → e ≠ .nobufs → e ≠ .fault →
      (rxRead s copied).1 ≠ .error .io ∧
        (rxRead s copied).2.Refined (l.log ++ [.read (rxRead s copied).1]) := by
    intro e he hio hnobufs hfault
    rw [he]
    refine ⟨fun hc => hio (by cases hc; rfl), l.note (.read (.error e)) l.pending l.unsaid, q, held,
      ?_, rfl⟩
    exact { h with ledger := h.ledger.neutral rfl rfl }
  by_cases hremoved : s.removed = true
  · exact hnothing .nodev (by simp [rxRead, hremoved]) (by decide) (by decide) (by decide)
  by_cases hsuspended : s.suspended = true
  · exact hnothing .hostdown (by simp [rxRead, hremoved, hsuspended]) (by decide) (by decide)
      (by decide)
  rw [Bool.not_eq_true] at hremoved hsuspended
  have hready : s.rxFifoReady = true := by
    by_contra hnot
    rw [ht.ready (Bool.not_eq_true _ ▸ hnot)] at hremoved
    cases hremoved
  by_cases hoverflow : s.rxOverflow = true
  · have hread : rxRead s copied = (.error .nobufs, { s with rxOverflow := false }) := by
      simp [rxRead, hremoved, hsuspended, hready, hoverflow]
    rw [hread]
    refine ⟨by simp, l.note (.read (.error .nobufs)) l.pending false, q, held, ?_, rfl⟩
    exact
      { h with
        ledger := h.ledger.notice rfl rfl rfl (List.Sublist.refl _)
        said := fun _ _ => rfl }
  rw [Bool.not_eq_true] at hoverflow
  match hq : q with
  | [] =>
      have hempty : s.queuedRecords = 0 := h.count
      exact hnothing .again (by simp [rxRead, hremoved, hsuspended, hready, hoverflow, hempty])
        (by decide) (by decide) (by decide)
  | x :: rest =>
      have hread := rxRead_queued h rfl ⟨hremoved, hsuspended⟩ hready hoverflow copied
      have hsizes : ∀ y ∈ rest, y.2.length = rxRecordSize :=
        fun y hy => h.sizes y (List.mem_cons_of_mem _ hy)
      have hclosed : s.rxFifoReady = false → rest = [] := by
        intro hnot
        rw [hready] at hnot
        cases hnot
      rw [hread]
      cases copied with
      | true =>
          refine ⟨by simp, l.deliver (.read (.ok x.2)), rest, held, ?_, rfl⟩
          exact
            { ledger := h.ledger.deliver (h.said hremoved hoverflow) h.pending rfl rfl
              pending := by rw [Ledger.deliver, h.pending]; rfl
              holds := h.holds
              fifo := rfl
              sizes := hsizes
              count := rfl
              said := h.said
              closed := hclosed }
      | false =>
          refine ⟨by simp, l.note (.read (.error .fault)) (rest ++ held) false, rest, held, ?_, rfl⟩
          exact
            { ledger := h.ledger.notice rfl rfl rfl (h.pending ▸ List.sublist_cons_self _ _)
              pending := rfl
              holds := h.holds
              fifo := rfl
              sizes := hsizes
              count := rfl
              said := fun _ _ => rfl
              closed := hclosed }

/-! ### Steps and runs -/

/-- After a step with this event: it is no `-EIO`, and the queue is refined by a ledger. -/
def RxState.Keeps (s : RxState) (log : List RxEvent) (event : Option RxEvent) : Prop :=
  event ≠ some (.read (.error .io)) ∧ s.Refined (log ++ event.toList)

variable {event : Option RxEvent}

/-- A step that does not touch the queue and is not seen. -/
theorem RxState.Refined.unseen (h : s.Refined log) (hfifo : s'.rxFifo = s.rxFifo)
    (hcount : s'.queuedRecords = s.queuedRecords) (hready : s'.rxFifoReady = s.rxFifoReady)
    (hoverflow : s'.rxOverflow = s.rxOverflow) (hholds : s'.irq.holds = s.irq.holds)
    (hremoved : s'.removed = false → s.removed = false) : s'.Keeps log none := by
  obtain ⟨l, q, held, hr, hlog⟩ := h
  refine ⟨by simp, l, q, held, ?_, hlog.trans (List.append_nil log).symm⟩
  exact hr.frame hfifo hcount hready hoverflow hholds hremoved

/-- Discarding the queue, seen as `e`, by a function that then only moves on. -/
theorem RxState.Refined.discard (h : s.Refined log) {e : RxEvent}
    (harr : rxVocabulary.arrived e = none) (hdel : rxVocabulary.delivered e = none)
    (hnotice : rxVocabulary.notice e = true) (hio : e ≠ .read (.error .io)) {holder : TxHolder}
    {flushing : Nat} :
    RxState.Keeps { rxDiscard s with txLock := holder, flushing } log (some e) := by
  obtain ⟨l, q, held, hr, rfl⟩ := h
  refine ⟨fun he => hio (Option.some.inj he), l.note e held false, [], held, ?_, rfl⟩
  exact (hr.discard harr hdel hnotice).frame rfl rfl rfl rfl rfl id

theorem RxState.Refined.irqRead {queue : Bool} {ts : UInt64} {window : Window}
    (h : s.Refined log) (ht : s.Threads) (hirq : s.irq = .sampled queue ts) :
    RxState.Keeps { s with irq := .read queue ts window } log
      (some (.snapshot (!s.removed && !s.suspended) (rxRecord ts window))) := by
  obtain ⟨l, q, held, hr, rfl⟩ := h
  have hheld : held = [] := by
    have hholds := hr.holds
    rw [hirq] at hholds
    exact List.map_eq_nil_iff.mp hholds
  rw [hheld] at hr
  refine ⟨by simp, ?_⟩
  cases queue with
  | true =>
      refine ⟨l.note _ (l.pending ++ [(l.log.length, rxRecord ts window)]) l.unsaid, q,
        [(l.log.length, rxRecord ts window)], ?_, rfl⟩
      exact
        { hr with
          ledger := hr.ledger.arrive rfl rfl
          pending := by
            show l.pending ++ _ = _
            rw [hr.pending, List.append_nil]
          holds := rfl }
  | false =>
      have hactive : (!s.removed && !s.suspended) = false := by
        rcases ht.off ts hirq with hoff | hoff
        · rw [hoff, Bool.not_true, Bool.and_false]
        · rw [hoff, Bool.not_true, Bool.false_and]
      rw [hactive]
      refine ⟨l.note _ l.pending l.unsaid, q, [], ?_, rfl⟩
      exact { hr with ledger := hr.ledger.ignore rfl rfl, holds := rfl }

theorem RxState.Refined.irqStep {a : IrqAct} (h : s.Refined log) (ht : s.Threads)
    (hs : irqStep s a = some (s', event)) : s'.Keeps log event := by
  cases a with
  | wake =>
      rw [Gxfp.irqStep] at hs
      split at hs
      · rename_i hwake
        cases hs
        refine h.unseen rfl rfl rfl rfl ?_ id
        rw [hwake.1]
        rfl
      · cases hs
  | sample ts =>
      rw [Gxfp.irqStep] at hs
      split at hs
      · rename_i hwoken
        cases hs
        refine h.unseen rfl rfl rfl rfl ?_ id
        rw [hwoken]
        rfl
      · cases hs
  | read window =>
      rw [Gxfp.irqStep] at hs
      split at hs
      · rename_i queue ts hirq
        cases hs
        exact h.irqRead ht hirq
      · cases hs
  | queue =>
      rw [Gxfp.irqStep] at hs
      split at hs
      · rename_i queue ts window hirq
        cases hs
        cases queue with
        | true =>
            obtain ⟨l, q, held, hr, rfl⟩ := h
            obtain ⟨l', q', hr', hlog'⟩ := hr.enqueue hirq
            exact ⟨by simp, l', q', [], hr', hlog'.trans (List.append_nil _).symm⟩
        | false =>
            refine h.unseen rfl rfl rfl rfl ?_ id
            rw [hirq]
            rfl
      · cases hs

theorem RxState.Refined.pmStep {a : PmAct} (h : s.Refined log)
    (hs : pmStep s a = some (s', event)) : s'.Keeps log event := by
  cases a with
  | suspendDiscard =>
      rw [Gxfp.pmStep] at hs
      split at hs
      · cases hs
        exact h.discard rfl rfl rfl (by simp)
      · cases hs
  | suspendCheck | resumeCheck =>
      rw [Gxfp.pmStep] at hs
      split at hs
      · cases hs
        split
        · exact h.unseen rfl rfl rfl rfl rfl id
        · exact h.unseen rfl rfl rfl rfl rfl id
      · cases hs
  | suspendFlag | suspendDisable | suspendSync | resumeClear | resumeEnable =>
      rw [Gxfp.pmStep] at hs
      split at hs
      · cases hs
        exact h.unseen rfl rfl rfl rfl rfl id
      · cases hs

/-- `gxfp_remove` drops the queue without a notice, but nothing is delivered behind it. -/
theorem RxState.Refined.shut (h : s.Refined log) (hremoved : s.removed = true) :
    RxState.Keeps { rxDiscard s with rxFifoReady := false, txLock := .free } log none := by
  obtain ⟨l, q, held, hr, rfl⟩ := h
  have hfifo : (rxDiscard s).rxFifo = [] := (hr.discard (e := .flushed) rfl rfl rfl).fifo
  refine ⟨by simp, { l with pending := held, unsaid := true }, [], held, ?_,
    (List.append_nil _).symm⟩
  exact
    { ledger := hr.ledger.lose (hr.pending ▸ List.sublist_append_right q held)
      pending := rfl
      holds := hr.holds
      fifo := hfifo
      sizes := fun x hx => absurd hx List.not_mem_nil
      count := rfl
      said := by
        intro hnot
        rw [show s.removed = false from hnot] at hremoved
        cases hremoved
      closed := fun _ => rfl }

theorem RxState.Refined.removeStep {a : RemoveAct} (h : s.Refined log) (ht : s.Threads)
    (hs : removeStep s a = some (s', event)) : s'.Keeps log event := by
  cases a with
  | flag =>
      cases hs
      exact h.unseen rfl rfl rfl rfl rfl nofun
  | lock | sync =>
      rw [Gxfp.removeStep] at hs
      split at hs
      · cases hs
        exact h.unseen rfl rfl rfl rfl rfl id
      · cases hs
  | disable =>
      rw [Gxfp.removeStep] at hs
      split at hs
      · cases hs
        split
        · exact h.unseen rfl rfl rfl rfl rfl id
        · exact h.unseen rfl rfl rfl rfl rfl id
      · cases hs
  | discard =>
      rw [Gxfp.removeStep] at hs
      split at hs
      · rename_i hlock
        cases hs
        exact h.shut (ht.removing (Or.inr (Or.inr hlock)))
      · cases hs

theorem RxState.Refined.fileStep {a : FileAct} (h : s.Refined log) (ht : s.Threads)
    (hs : fileStep s a = some (s', event)) : s'.Keeps log event := by
  cases a with
  | read copied =>
      cases hs
      obtain ⟨l, q, held, hr, rfl⟩ := h
      obtain ⟨hio, hrefined⟩ := hr.read ht copied
      refine ⟨?_, hrefined⟩
      intro hevent
      exact hio (RxEvent.read.inj (Option.some.inj hevent))
  | flushCheck =>
      cases hs
      split
      · exact h.unseen rfl rfl rfl rfl rfl id
      · exact h.unseen rfl rfl rfl rfl rfl id
  | flushDiscard =>
      rw [Gxfp.fileStep] at hs
      split at hs
      · cases hs
        exact h.discard rfl rfl rfl (by simp)
      · cases hs

/-- **Every step keeps the queue refined by a ledger, and no read is `-EIO`.** -/
theorem RxState.Refined.step {a : RxAct} (h : s.Refined log) (ht : s.Threads)
    (hs : rxStep s a = some (s', event)) : s'.Keeps log event := by
  cases a with
  | irq a => exact h.irqStep ht hs
  | pm a => exact h.pmStep hs
  | remove a => exact h.removeStep ht hs
  | file a => exact h.fileStep ht hs

/-- **So does every interleaving.** -/
theorem RxState.Refined.run {acts : List RxAct} {events : List RxEvent} (h : s.Refined log)
    (ht : s.Threads) (hrun : rxRun acts s = some (s', events)) :
    RxEvent.read (.error .io) ∉ events ∧ s'.Refined (log ++ events) := by
  induction acts generalizing s log events with
  | nil =>
      cases hrun
      refine ⟨List.not_mem_nil, ?_⟩
      rw [List.append_nil]
      exact h
  | cons a acts ih =>
      rw [rxRun] at hrun
      rcases hstep : rxStep s a with _ | ⟨s₁, event⟩
      · rw [hstep] at hrun
        cases hrun
      · rw [hstep] at hrun
        dsimp only at hrun
        obtain ⟨hio, hone⟩ := h.step ht hstep
        rcases hrest : rxRun acts s₁ with _ | ⟨s₂, rest⟩
        · rw [hrest] at hrun
          cases hrun
        · rw [hrest] at hrun
          cases hrun
          obtain ⟨hio', hall⟩ := ih hone (ht.step hstep) hrest
          rw [List.append_assoc] at hall
          refine ⟨?_, hall⟩
          intro hmem
          rcases List.mem_append.mp hmem with hmem | hmem
          · exact hio (Option.mem_toList.mp hmem)
          · exact hio' hmem

end Queue

/-! ### The result -/

/-- The FIFO consists of as many whole records as are counted. -/
def RxState.WholeRecords (s : RxState) : Prop :=
  ∃ records : List (List UInt8), s.rxFifo = records.flatten ∧
    records.length = s.queuedRecords ∧ ∀ r ∈ records, r.length = rxRecordSize

/-- A queue that a ledger refines is one of whole records. -/
theorem RxState.Refined.wholeRecords {s : RxState} {log : List RxEvent} (h : s.Refined log) :
    s.WholeRecords := by
  obtain ⟨l, q, held, hr, -⟩ := h
  refine ⟨q.map Prod.snd, hr.fifo, ?_, ?_⟩
  · rw [List.length_map, hr.count]
  · intro r hmem
    obtain ⟨x, hx, rfl⟩ := List.mem_map.mp hmem
    exact hr.sizes x hx

/--
**The queue delivers whole records in order and never loses one silently.**

In every interleaving the FIFO holds exactly the records that are counted, no read is
`-EIO`, and the reads deliver snapshots in the order they were taken; where one taken
while the device was active is skipped, a read has failed with `-ENOBUFS` or
`-EFAULT`, or a flush or a suspend has taken place, before the later one is delivered.
-/
theorem rxRun_delivers (acts : List RxAct) {s : RxState} {events : List RxEvent}
    (h : rxRun acts RxState.probed = some (s, events)) :
    s.WholeRecords ∧ RxEvent.read (.error .io) ∉ events ∧
      ∃ src, rxVocabulary.Faithful events src := by
  obtain ⟨hio, hrefined⟩ := refined_probed.run threads_probed h
  have hwhole := hrefined.wholeRecords
  obtain ⟨l, q, held, hr, hlog⟩ := hrefined
  rw [List.nil_append] at hlog
  exact ⟨hwhole, hio, l.src, hlog ▸ hr.ledger.faithful⟩

/-- A window of zeros. -/
def zeroWindow : Window := ⟨zeros rxMax, length_zeros rxMax⟩

/-- Two interrupts with a flush between them, and a read. -/
def flushedBetween : List RxAct :=
  [.irq .wake, .irq (.sample 1), .irq (.read zeroWindow), .irq .queue, .file .flushCheck,
    .irq .wake, .file .flushDiscard, .irq (.sample 2), .irq (.read zeroWindow), .irq .queue,
    .file (.read true)]

theorem rxRun_delivers_flushed :
    ∃ s events, rxRun flushedBetween RxState.probed = some (s, events) ∧ s.WholeRecords ∧
      RxEvent.read (.error .io) ∉ events ∧ ∃ src, rxVocabulary.Faithful events src := by
  have hrun : (rxRun flushedBetween RxState.probed).isSome = true := by decide +kernel
  obtain ⟨⟨s, events⟩, h⟩ := Option.isSome_iff_exists.mp hrun
  exact ⟨s, events, h, rxRun_delivers flushedBetween h⟩

end Gxfp
