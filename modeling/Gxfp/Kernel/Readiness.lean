/-
What `poll`, a read that does not block and a blocked read say of the same state.

`gxfp_poll`, the loop of `gxfp_read` and the condition it sleeps on look at the same five
variables, in another order each and not with the same terms.  They agree because the FIFO
is not given up before the device is removed, and because its bytes are whole records.

To say that no reader is left asleep, a reader in the loop is put beside the queue: where
it is, and who wakes it.  It holds `rx_read_lock` until it returns, so there is one of
them, and another one that waits for the lock has not looked at anything yet.  A section
that ends with `wake_up_interruptible` is one step with it.
-/
import Gxfp.Kernel.Delivery
import Gxfp.Library.Transducer

namespace Gxfp

/-! ### Three readings of a state -/

def epollIn : UInt32 := 0x1
def epollErr : UInt32 := 0x8
def epollHup : UInt32 := 0x10
def epollRdNorm : UInt32 := 0x40

/-- `gxfp_poll` on an open file. -/
def gxfpPoll (s : RxState) : UInt32 :=
  if s.removed then epollErr ||| epollHup
  else if s.suspended then epollErr
  else if s.rxOverflow then epollIn ||| epollErr
  else if s.rxFifoReady ∧ 0 < s.queuedRecords then epollIn ||| epollRdNorm
  else 0

/-- The condition that `gxfp_read` waits for. -/
def RxState.Wakes (s : RxState) : Prop :=
  0 < s.queuedRecords ∨ ¬ s.rxFifoReady ∨ s.rxOverflow ∨ s.removed ∨ s.suspended

instance (s : RxState) : Decidable s.Wakes := inferInstanceAs (Decidable (_ ∨ _ ∨ _ ∨ _ ∨ _))

/-! ### A reader in the loop -/

/-- Where a call of `gxfp_read` with `rx_read_lock` is. -/
inductive RxReader
  /-- There is none. -/
  | away
  /-- In front of its next turn. -/
  | looking
  /-- About to look at the condition. -/
  | deciding
  | asleep
  deriving DecidableEq, Repr

/-- `wake_up_interruptible` -/
def RxReader.wakeUp : RxReader → RxReader
  | .asleep => .deciding
  | r => r

structure WaitState where
  rx : RxState
  reader : RxReader
  deriving DecidableEq

/-- After `gxfp_probe`. -/
def WaitState.probed : WaitState where
  rx := .probed
  reader := .away

inductive WaitAct
  /-- A step of anybody else; a read that is one step needs `rx_read_lock`. -/
  | rx (a : RxAct)
  /-- A read takes `rx_read_lock`. -/
  | enter
  /-- A turn of the loop. -/
  | turn (nonblock copied : Bool)
  /-- The condition is looked at. -/
  | decide
  /-- A wake-up without a reason, or a signal. -/
  | spurious
  | signal
  deriving DecidableEq

/-- A read that is one step. -/
def RxAct.reads : RxAct → Bool
  | .file (.read _) => true
  | _ => false

/-- The steps that end with `wake_up_interruptible`. -/
def RxAct.wakesUp (s : RxState) : RxAct → Bool
  | .irq .queue =>
    match s.irq with
    | .read queue _ _ => queue
    | _ => false
  | .pm .suspendDiscard | .pm .resumeEnable | .remove .discard => true
  | _ => false

/-- One step, and what the reader returns in it, if it does. -/
def waitStep (s : WaitState) : WaitAct → Option (WaitState × Option (Except Errno (List UInt8)))
  | .rx a =>
    if a.reads ∧ s.reader ≠ .away then none
    else
      (rxStep s.rx a).map fun (rx, _) =>
        ({ rx, reader := if a.wakesUp s.rx then s.reader.wakeUp else s.reader }, none)
  | .enter => if s.reader = .away then some ({ s with reader := .looking }, none) else none
  | .turn nonblock copied =>
    if s.reader = .looking then
      let (result, rx) := rxRead s.rx copied
      if result = .error .again ∧ ¬ nonblock then some ({ rx, reader := .deciding }, none)
      else some ({ rx, reader := .away }, some result)
    else none
  | .decide =>
    if s.reader = .deciding then
      some ({ s with reader := if s.rx.Wakes then .looking else .asleep }, none)
    else none
  | .spurious => if s.reader = .asleep then some ({ s with reader := .deciding }, none) else none
  | .signal =>
    if s.reader = .asleep then some ({ s with reader := .away }, some (.error .intr)) else none

/-- An interleaving, and what the reader has returned. -/
def waitRun : List WaitAct → WaitState → Option (WaitState × List (Except Errno (List UInt8))) :=
  Transducer.run waitStep

/-! ### Agreement -/

section Agreement

variable {s : RxState}

/-- **A turn of the loop finds nothing exactly if the condition does not hold.** -/
theorem rxRead_again_iff (s : RxState) (copied : Bool) :
    (rxRead s copied).1 = .error .again ↔ ¬ s.Wakes := by
  unfold rxRead RxState.Wakes
  by_cases hremoved : s.removed = true
  · simp [hremoved]
  by_cases hsuspended : s.suspended = true
  · simp [hremoved, hsuspended]
  by_cases hready : s.rxFifoReady = true
  case neg => simp [hremoved, hsuspended, hready]
  by_cases hoverflow : s.rxOverflow = true
  · simp [hremoved, hsuspended, hready, hoverflow]
  by_cases hqueued : 0 < s.queuedRecords
  · rw [if_neg hremoved, if_neg hsuspended, if_neg (not_not.mpr hready), if_neg hoverflow,
      if_pos hqueued]
    dsimp only
    split_ifs <;> simp [hqueued]
  · simp [hremoved, hsuspended, hready, hoverflow, hqueued]

/-- **`poll` reports something exactly if the condition holds.** -/
theorem gxfpPoll_iff (ht : s.Threads) : gxfpPoll s ≠ 0 ↔ s.Wakes := by
  unfold gxfpPoll RxState.Wakes
  by_cases hremoved : s.removed = true
  · have hmask : epollErr ||| epollHup ≠ 0 := by decide
    simp [hremoved, hmask]
  by_cases hsuspended : s.suspended = true
  · have hmask : epollErr ≠ 0 := by decide
    simp [hremoved, hsuspended, hmask]
  -- the FIFO is given up only behind `removed`
  have hready : s.rxFifoReady = true := by
    by_contra hready
    exact hremoved (ht.ready (Bool.not_eq_true _ ▸ hready))
  by_cases hoverflow : s.rxOverflow = true
  · have hmask : epollIn ||| epollErr ≠ 0 := by decide
    simp [hremoved, hsuspended, hoverflow, hmask]
  by_cases hqueued : 0 < s.queuedRecords
  · have hmask : epollIn ||| epollRdNorm ≠ 0 := by decide
    simp [hremoved, hsuspended, hready, hoverflow, hqueued, hmask]
  · simp [hremoved, hsuspended, hready, hoverflow, hqueued]

/-- What a read takes off a queue with whole records is a record. -/
theorem RxState.WholeRecords.length_take (h : s.WholeRecords) (hqueued : 0 < s.queuedRecords) :
    (s.rxFifo.take rxRecordSize).length = rxRecordSize := by
  obtain ⟨records, hfifo, hcount, hsizes⟩ := h
  rcases records with _ | ⟨r, records⟩
  · rw [← hcount] at hqueued
    exact absurd hqueued (Nat.lt_irrefl 0)
  · have hr : r.length = rxRecordSize := hsizes r (List.mem_cons_self ..)
    rw [hfifo, List.flatten_cons, List.length_take, List.length_append, hr]
    omega

/-- **`poll` says `EPOLLIN` exactly if a read returns a record, or that one was lost.** -/
theorem gxfpPoll_in_iff (ht : s.Threads) (hwhole : s.WholeRecords) :
    gxfpPoll s &&& epollIn ≠ 0 ↔
      (∃ rec, (rxRead s true).1 = .ok rec) ∨ (rxRead s true).1 = .error .nobufs := by
  unfold gxfpPoll rxRead
  by_cases hremoved : s.removed = true
  · have hmask : (epollErr ||| epollHup) &&& epollIn = 0 := by decide
    simp [hremoved, hmask]
  by_cases hsuspended : s.suspended = true
  · have hmask : epollErr &&& epollIn = 0 := by decide
    simp [hremoved, hsuspended, hmask]
  have hready : s.rxFifoReady = true := by
    by_contra hready
    exact hremoved (ht.ready (Bool.not_eq_true _ ▸ hready))
  by_cases hoverflow : s.rxOverflow = true
  · have hmask : (epollIn ||| epollErr) &&& epollIn ≠ 0 := by decide
    simp [hremoved, hsuspended, hready, hoverflow, hmask]
  by_cases hqueued : 0 < s.queuedRecords
  · have hmask : (epollIn ||| epollRdNorm) &&& epollIn ≠ 0 := by decide
    simp [hremoved, hsuspended, hready, hoverflow, hqueued, hmask, kfifoOut,
      hwhole.length_take hqueued]
  · simp [hremoved, hsuspended, hready, hoverflow, hqueued]

end Agreement

/-! ### Wake-ups -/

/-- In `gxfp_suspend`, between its store and its wake-up. -/
def TxHolder.suspending : TxHolder → Bool
  | .suspendFlagged | .suspendDisabled | .suspendQuiet => true
  | _ => false

/-- `gxfp_suspend` or `gxfp_remove` has made the condition true, and is still to wake the
reader. -/
def RxState.WakeDue (s : RxState) : Prop :=
  s.txLock.suspending = true ∨ (s.removed = true ∧ s.rxFifoReady = true)

/-- What holds of the queue and its reader in every state reached. -/
structure WaitState.Inv (s : WaitState) : Prop where
  threads : s.rx.Threads
  refined : ∃ log, s.rx.Refined log
  /-- A reader that sleeps has nothing to do, or will be woken. -/
  asleep : s.reader = .asleep → s.rx.Wakes → s.rx.WakeDue

section Wake

variable {s s' : RxState} {a : RxAct} {event : Option RxEvent}

theorem irqStep_wakeDue {a : IrqAct} (h : s.Wakes → s.WakeDue)
    (hs : irqStep s a = some (s', event)) (hwake : RxAct.wakesUp s (.irq a) = false) :
    s'.Wakes → s'.WakeDue := by
  cases a with
  | wake | sample ts =>
      rw [irqStep] at hs
      split at hs
      · cases hs
        exact h
      · cases hs
  | read window =>
      rw [irqStep] at hs
      split at hs
      · cases hs
        exact h
      · cases hs
  | queue =>
      rw [irqStep] at hs
      split at hs
      · rename_i queue ts window hirq
        have hqueue : queue = false := by
          rw [RxAct.wakesUp, hirq] at hwake
          exact hwake
        cases hs
        rw [hqueue]
        exact h
      · cases hs

/-- Outside `gxfp_suspend` only a removal owes the wake-up, and it does so in any place. -/
theorem RxState.WakeDue.removing (h : s.WakeDue) {holder : TxHolder} (hlock : s.txLock = holder)
    (hholder : holder.suspending = false) (hremoved : s'.removed = s.removed)
    (hready : s'.rxFifoReady = s.rxFifoReady) : s'.WakeDue := by
  rcases h with hdue | hdue
  · rw [hlock, hholder] at hdue
    cases hdue
  · exact Or.inr ⟨hremoved.trans hdue.1, hready.trans hdue.2⟩

theorem pmStep_wakeDue {a : PmAct} (h : s.Wakes → s.WakeDue)
    (hs : pmStep s a = some (s', event)) (hwake : RxAct.wakesUp s (.pm a) = false) :
    s'.Wakes → s'.WakeDue := by
  cases a with
  | suspendCheck | resumeCheck =>
      rw [pmStep] at hs
      split at hs
      · rename_i hfree
        cases hs
        split
        · exact h
        · exact fun hwakes => (h hwakes).removing hfree rfl rfl rfl
      · cases hs
  | suspendFlag | suspendDisable | suspendSync =>
      rw [pmStep] at hs
      split at hs
      · cases hs
        exact fun _ => Or.inl rfl
      · cases hs
  | suspendDiscard | resumeEnable => cases hwake
  | resumeClear =>
      rw [pmStep] at hs
      split at hs
      · rename_i hlock
        cases hs
        intro hwakes
        have hbefore : s.Wakes := by
          rcases hwakes with hw | hw | hw | hw | hw
          · exact Or.inl hw
          · exact Or.inr (Or.inl hw)
          · exact Or.inr (Or.inr (Or.inl hw))
          · exact Or.inr (Or.inr (Or.inr (Or.inl hw)))
          · cases hw
        exact (h hbefore).removing hlock rfl rfl rfl
      · cases hs

theorem removeStep_wakeDue {a : RemoveAct} (h : s.Wakes → s.WakeDue)
    (hs : removeStep s a = some (s', event)) (hwake : RxAct.wakesUp s (.remove a) = false) :
    s'.Wakes → s'.WakeDue := by
  cases a with
  | flag =>
      cases hs
      intro _
      by_cases hready : s.rxFifoReady = true
      · exact Or.inr ⟨rfl, hready⟩
      · -- the FIFO is gone already, so the condition has held before
        rcases h (Or.inr (Or.inl hready)) with hdue | hdue
        · exact Or.inl hdue
        · exact absurd hdue.2 hready
  | lock =>
      rw [removeStep] at hs
      split at hs
      · rename_i hlock
        cases hs
        exact fun hwakes => (h hwakes).removing hlock.2 rfl rfl rfl
      · cases hs
  | disable =>
      rw [removeStep] at hs
      split at hs
      · rename_i hlock
        cases hs
        split
        · exact fun hwakes => (h hwakes).removing hlock rfl rfl rfl
        · exact fun hwakes => (h hwakes).removing hlock rfl rfl rfl
      · cases hs
  | sync =>
      rw [removeStep] at hs
      split at hs
      · rename_i hlock
        cases hs
        exact fun hwakes => (h hwakes).removing hlock.1 rfl rfl rfl
      · cases hs
  | discard => cases hwake

theorem fileStep_wakeDue {a : FileAct} (h : s.Wakes → s.WakeDue)
    (hs : fileStep s a = some (s', event)) (hread : RxAct.reads (.file a) = false) :
    s'.Wakes → s'.WakeDue := by
  cases a with
  | read copied => cases hread
  | flushCheck =>
      cases hs
      split
      · exact h
      · exact h
  | flushDiscard =>
      rw [fileStep] at hs
      split at hs
      · cases hs
        intro hwakes
        refine h ?_
        rcases hwakes with hw | hw | hw | hw | hw
        · exact absurd hw (Nat.lt_irrefl 0)
        · exact Or.inr (Or.inl hw)
        · cases hw
        · exact Or.inr (Or.inr (Or.inr (Or.inl hw)))
        · exact Or.inr (Or.inr (Or.inr (Or.inr hw)))
      · cases hs

/-- **A step that makes the condition true wakes the reader, or owes it the wake-up.** -/
theorem rxStep_wakeDue (h : s.Wakes → s.WakeDue) (hs : rxStep s a = some (s', event))
    (hread : a.reads = false) (hwake : a.wakesUp s = false) : s'.Wakes → s'.WakeDue := by
  cases a with
  | irq a => exact irqStep_wakeDue h hs hwake
  | pm a => exact pmStep_wakeDue h hs hwake
  | remove a => exact removeStep_wakeDue h hs hwake
  | file a => exact fileStep_wakeDue h hs hread

end Wake

/-! ### Runs -/

theorem waitInv_probed : WaitState.probed.Inv where
  threads := threads_probed
  refined := ⟨[], refined_probed⟩
  asleep := nofun

section Runs

variable {s s' : WaitState} {event : Option (Except Errno (List UInt8))}

theorem RxReader.wakeUp_ne_asleep (r : RxReader) : r.wakeUp ≠ .asleep := by
  cases r <;> nofun

theorem WaitState.Inv.rxStep (h : s.Inv) {a : RxAct} {rx : RxState} {e : Option RxEvent}
    (hs : rxStep s.rx a = some (rx, e)) {reader : RxReader}
    (hasleep : reader = .asleep → rx.Wakes → rx.WakeDue) : WaitState.Inv ⟨rx, reader⟩ where
  threads := h.threads.step hs
  refined := by
    obtain ⟨log, hlog⟩ := h.refined
    exact ⟨_, (hlog.step h.threads hs).2⟩
  asleep := hasleep

/-- **Every step keeps the invariant.** -/
theorem WaitState.Inv.step (h : s.Inv) {a : WaitAct} (hs : waitStep s a = some (s', event)) :
    s'.Inv := by
  cases a with
  | rx a =>
      rw [waitStep] at hs
      split at hs
      · cases hs
      · rename_i hread
        obtain ⟨⟨rx, e⟩, hstep, hs⟩ := Option.map_eq_some_iff.mp hs
        cases hs
        refine h.rxStep hstep fun hasleep => ?_
        by_cases hwake : a.wakesUp s.rx = true
        · rw [if_pos hwake] at hasleep
          exact absurd hasleep s.reader.wakeUp_ne_asleep
        · rw [if_neg hwake] at hasleep
          have hnotRead : a.reads = false := by
            by_contra hreads
            refine hread ⟨Bool.not_eq_false _ ▸ hreads, ?_⟩
            rw [hasleep]
            nofun
          exact rxStep_wakeDue (h.asleep hasleep) hstep hnotRead (Bool.not_eq_true _ ▸ hwake)
  | enter =>
      rw [waitStep] at hs
      split at hs
      · cases hs
        exact ⟨h.threads, h.refined, nofun⟩
      · cases hs
  | turn nonblock copied =>
      rw [waitStep] at hs
      have hread : Gxfp.rxStep s.rx (.file (.read copied)) =
        some ((rxRead s.rx copied).2, some (.read (rxRead s.rx copied).1)) := rfl
      split at hs
      · dsimp only at hs
        split at hs
        · cases hs
          exact h.rxStep hread nofun
        · cases hs
          exact h.rxStep hread nofun
      · cases hs
  | decide =>
      rw [waitStep] at hs
      split at hs
      · cases hs
        refine ⟨h.threads, h.refined, fun hasleep hwakes => ?_⟩
        rw [if_pos hwakes] at hasleep
        cases hasleep
      · cases hs
  | spurious | signal =>
      rw [waitStep] at hs
      split at hs
      · cases hs
        exact ⟨h.threads, h.refined, nofun⟩
      · cases hs

theorem WaitState.Inv.run {acts : List WaitAct} {log : List (Except Errno (List UInt8))}
    (h : waitRun acts .probed = some (s, log)) : s.Inv :=
  Transducer.run_keeps WaitState.Inv h waitInv_probed fun _ _ _ _ hinv hs _ => hinv.step hs

end Runs

/--
**`poll`, a read that does not block and the wait agree in every state.**

`poll` reports something exactly if a turn of the read's loop returns, and `EPOLLIN` exactly
if it returns a record or `-ENOBUFS`.  The condition that is slept on holds exactly if a turn
returns; while it holds nobody sleeps but one who will be woken.
-/
theorem waitRun_agrees (acts : List WaitAct) {s : WaitState}
    {log : List (Except Errno (List UInt8))} (h : waitRun acts .probed = some (s, log)) :
    (∀ copied, gxfpPoll s.rx ≠ 0 ↔ (rxRead s.rx copied).1 ≠ .error .again) ∧
      (gxfpPoll s.rx &&& epollIn ≠ 0 ↔
        (∃ rec, (rxRead s.rx true).1 = .ok rec) ∨ (rxRead s.rx true).1 = .error .nobufs) ∧
      (∀ copied, s.rx.Wakes ↔ (rxRead s.rx copied).1 ≠ .error .again) ∧
      (s.reader = .asleep → s.rx.Wakes → s.rx.WakeDue) := by
  have hinv : s.Inv := WaitState.Inv.run h
  obtain ⟨records, hrefined⟩ := hinv.refined
  have hturn (copied : Bool) : s.rx.Wakes ↔ (rxRead s.rx copied).1 ≠ .error .again := by
    rw [Ne, rxRead_again_iff, not_not]
  refine ⟨fun copied => ?_, gxfpPoll_in_iff hinv.threads hrefined.wholeRecords, hturn,
    hinv.asleep⟩
  rw [gxfpPoll_iff hinv.threads]
  exact hturn copied

/-- A reader goes to sleep, and an interrupt wakes it. -/
def wokenReader : List WaitAct :=
  [.enter, .turn false true, .decide, .rx (.irq .wake), .rx (.irq (.sample 1)),
    .rx (.irq (.read zeroWindow)), .rx (.irq .queue), .decide]

theorem waitRun_agrees_woken :
    ∃ s log, waitRun wokenReader .probed = some (s, log) ∧ s.reader = .looking ∧
      gxfpPoll s.rx ≠ 0 ∧ (rxRead s.rx true).1 ≠ .error .again := by
  have hrun : ((waitRun wokenReader .probed).map fun r => (r.1.reader, gxfpPoll r.1.rx)) =
      some (.looking, epollIn ||| epollRdNorm) := by decide +kernel
  obtain ⟨⟨s, log⟩, h, hs⟩ := Option.map_eq_some_iff.mp hrun
  obtain ⟨hreader, hpoll⟩ := Prod.mk.inj hs
  have hsome : gxfpPoll s.rx ≠ 0 := by
    rw [hpoll]
    decide
  exact ⟨s, log, h, hreader, hsome, ((waitRun_agrees wokenReader h).1 true).mp hsome⟩

end Gxfp
