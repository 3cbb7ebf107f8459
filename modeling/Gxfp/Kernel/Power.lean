/-
The hardware is left alone while the device is suspended, and once it is removed.

`HwState.Inv` says for each holder of `tx_lock` how often the interrupt is disabled,
and what the flags have to do with the calls of the PM core and the driver core.  Its
step lemma has one case for each function; the receive queue's own invariant, that the
thread does not run behind `disable_irq`, is taken from there.
-/
import Gxfp.Kernel.Hardware

namespace Gxfp

open Transducer

variable {s s' : HwState} {event : Option HwEvent}

/-! ### The receive queue underneath -/

theorem pmReturn_rx (s : HwState) (a : PmAct) : (pmReturn s a).1.rx = s.rx := by
  unfold pmReturn
  split
  · rfl
  · split
    · rfl
    · rfl

theorem hwRemoveStep_rx {a : RemoveAct} (h : hwRemoveStep s a = some (s', event)) :
    ∃ e, removeStep s.rx a = some (s'.rx, e) := by
  have hmap : ∀ {f : RxState × Option RxEvent → HwState × Option HwEvent},
      (removeStep s.rx a).map f = some (s', event) → (∀ r, (f r).1.rx = r.1) →
      ∃ e, removeStep s.rx a = some (s'.rx, e) := by
    intro f hf hrx
    obtain ⟨⟨rx, e⟩, hstep, heq⟩ := Option.map_eq_some_iff.mp hf
    have hsame : rx = s'.rx := (hrx _).symm.trans (congrArg (fun r => r.1.rx) heq)
    exact ⟨e, hsame ▸ hstep⟩
  cases a with
  | disable | sync => exact hmap h fun _ => rfl
  | _ =>
      simp only [hwRemoveStep] at h
      split at h
      · exact hmap h fun _ => rfl
      · cases h

/-- **Each step is one of the receive queue's model, or none of its business.** -/
theorem hwStep_rx {a : HwAct} (h : hwStep s a = some (s', event)) :
    s'.rx = s.rx ∨ ∃ b e, rxStep s.rx b = some (s'.rx, e) := by
  cases a with
  | irq a =>
      simp only [hwStep, hwIrqStep] at h
      split at h
      · obtain ⟨⟨rx, e⟩, hrx, heq⟩ := Option.map_eq_some_iff.mp h
        have hsame : rx = s'.rx := congrArg (fun r => r.1.rx) heq
        exact Or.inr ⟨.irq a, e, hsame ▸ hrx⟩
      · cases h
  | pm a =>
      simp only [hwStep, hwPmStep] at h
      split at h
      · obtain ⟨⟨rx, e⟩, hrx, heq⟩ := Option.map_eq_some_iff.mp h
        have hsame : rx = s'.rx := (pmReturn_rx ..).symm.trans (congrArg (fun r => r.1.rx) heq)
        exact Or.inr ⟨.pm a, e, hsame ▸ hrx⟩
      · cases h
  | remove a =>
      obtain ⟨e, hrx⟩ := hwRemoveStep_rx h
      exact Or.inr ⟨.remove a, e, hrx⟩
  | file a =>
      obtain ⟨⟨rx, e⟩, hrx, heq⟩ := Option.map_eq_some_iff.mp h
      have hsame : rx = s'.rx := congrArg (fun r => r.1.rx) heq
      exact Or.inr ⟨.file a, e, hsame ▸ hrx⟩
  | irqAccess =>
      simp only [hwStep] at h
      split at h
      · cases h
      · cases h
        exact Or.inl rfl
  | lockAccess =>
      simp only [hwStep] at h
      split at h
      · cases h
      · cases h
        exact Or.inl rfl
  | suspend =>
      simp only [hwStep] at h
      split at h
      · cases h
        exact Or.inl rfl
      · cases h
  | resume =>
      simp only [hwStep] at h
      split at h
      · cases h
        exact Or.inl rfl
      · cases h
  | write count copied =>
      simp only [hwStep, hwWrite] at h
      refine Or.inl ?_
      split_ifs at h <;> cases h <;> rfl
  | writeReturn =>
      simp only [hwStep] at h
      split at h
      · cases h
      · split at h
        · cases h
          exact Or.inl rfl
        · cases h

theorem hwStep_threads {a : HwAct} (hthreads : s.rx.Threads)
    (h : hwStep s a = some (s', event)) : s'.rx.Threads := by
  rcases hwStep_rx h with hsame | ⟨b, e, hrx⟩
  · exact hsame ▸ hthreads
  · exact hthreads.step hrx

/-! ### The invariant -/

/-- Between `gxfp_suspend` and `gxfp_resume`, or in the latter. -/
def PmCore.asleep : PmCore → Bool
  | .running | .suspending => false
  | .suspended _ | .resuming => true

/-- How often the interrupt is disabled, and what else the holder of `tx_lock` knows. -/
def HwState.Held (s : HwState) : Prop :=
  match s.rx.txLock with
  | .free =>
    (s.rx.removed = false → s.rx.suspended = s.pm.asleep) ∧
      s.rx.irqDepth = if s.rx.suspended = true ∨ s.remove = .returned then 1 else 0
  | .suspend => s.pm = .suspending ∧ s.rx.suspended = false ∧ s.rx.irqDepth = 0
  | .suspendFlagged => s.pm = .suspending ∧ s.rx.suspended = true ∧ s.rx.irqDepth = 0
  | .suspendDisabled => s.pm = .suspending ∧ s.rx.suspended = true ∧ s.rx.irqDepth = 1
  | .suspendQuiet => s.pm = .suspending ∧ s.rx.suspended = true ∧ s.rx.irqDepth = 1
  | .resume => s.pm = .resuming ∧ s.rx.suspended = true ∧ s.rx.irqDepth = 1
  | .resumeCleared => s.pm = .resuming ∧ s.rx.suspended = false ∧ s.rx.irqDepth = 1
  | .remove => s.rx.irqDepth = if s.rx.suspended = true then 1 else 0
  | .removeDisabled => s.rx.irqDepth = 1
  | .removeQuiet => s.rx.irqDepth = 1 ∧ s.rx.irq = .idle

/-- What `gxfp_suspend` has seen to, until `gxfp_resume` is called. -/
def HwState.Returned (s : HwState) : Prop :=
  match s.pm with
  | .suspended true => s.rx.suspended = true
  | .suspended false => s.rx.removed = true
  | _ => True

structure HwState.Inv (s : HwState) : Prop where
  threads : s.rx.Threads
  held : s.Held
  suspend : s.Returned
  thread : s.irqIo ≠ [] → s.rx.irq ≠ .idle
  flagged : s.remove ≠ .notCalled → s.rx.removed = true
  returned : s.remove = .returned → s.TxFree ∧ s.rx.irq = .idle ∧ s.lockIo = []
  writing : s.writing ≠ none →
    s.rx.txLock = .free ∧ s.rx.suspended = false ∧ ∀ done, s.pm ≠ .suspended done

/-- A step under `tx_lock` that is not the write's. -/
theorem HwState.Inv.lock (h : s.Inv) {rx : RxState} {lockIo : List HwAccess} {pm : PmCore}
    (hthreads : rx.Threads) (hwriting : s.writing = none) (hirq : rx.irq = s.rx.irq)
    (hremoved : rx.removed = s.rx.removed)
    (hreturned : s.remove = .returned → rx.txLock = .free ∧ lockIo = [])
    (held : HwState.Held { s with rx, lockIo, pm })
    (hsuspend : HwState.Returned { s with rx, lockIo, pm }) :
    HwState.Inv { s with rx, lockIo, pm } where
  threads := hthreads
  held := held
  suspend := hsuspend
  thread := fun hio => by
    rw [hirq]
    exact h.thread hio
  flagged := fun hcalled => by
    rw [hremoved]
    exact h.flagged hcalled
  returned := fun hreturn => by
    rw [hirq]
    exact ⟨⟨(hreturned hreturn).1, hwriting⟩, (h.returned hreturn).2.1, (hreturned hreturn).2⟩
  writing := fun hcount => absurd hwriting hcount

/-- While another function holds `tx_lock`, `gxfp_remove` has not returned. -/
theorem HwState.Inv.not_returned (h : s.Inv) (hlock : s.rx.txLock ≠ .free) :
    s.remove ≠ .returned := fun hreturn => hlock (h.returned hreturn).1.1

theorem HwState.Inv.not_writing (h : s.Inv) (hlock : s.rx.txLock ≠ .free) : s.writing = none := by
  by_contra hcount
  exact hlock (h.writing hcount).1

theorem HwState.Returned.of_call {a : PmAct} (h : s.pm = a.call) : s.Returned := by
  unfold HwState.Returned
  rw [h]
  cases a <;> trivial

/-! ### The PM core's calls -/

theorem pmReturn_busy {a : PmAct} (h : s.rx.txLock ≠ .free) : pmReturn s a = (s, none) := if_pos h

theorem pmReturn_suspend {a : PmAct} (h : s.rx.txLock = .free) (hcall : a.call = .suspending) :
    pmReturn s a = ({ s with pm := .suspended (a = .suspendDiscard) },
      some (.suspendReturned (a = .suspendDiscard))) :=
  (if_neg (not_not_intro h)).trans (if_pos hcall)

theorem pmReturn_resume {a : PmAct} (h : s.rx.txLock = .free) (hcall : a.call ≠ .suspending) :
    pmReturn s a = ({ s with pm := .running }, none) :=
  (if_neg (not_not_intro h)).trans (if_neg hcall)

theorem hwPmStep_eq_some {a : PmAct} (hs : hwPmStep s a = some (s', event)) :
    s.pm = a.call ∧ s.writing = none ∧ s.lockIo = [] ∧ ∃ rx e, Gxfp.pmStep s.rx a = some (rx, e) ∧
      pmReturn { s with rx, lockIo := if a = .suspendSync then gpiosLow else [] } a =
        (s', event) := by
  unfold hwPmStep at hs
  split at hs
  · rename_i hguard
    obtain ⟨⟨rx, e⟩, hrx, heq⟩ := Option.map_eq_some_iff.mp hs
    exact ⟨hguard.1, hguard.2.1, hguard.2.2, rx, e, hrx, heq⟩
  · cases hs

/-- A step of a call that goes on. -/
theorem HwState.Inv.goesOn (h : s.Inv) {a : PmAct} (hpm : s.pm = a.call) {rx : RxState}
    {lockIo : List HwAccess} (hthreads : rx.Threads) (hlock : s.rx.txLock ≠ .free)
    (hbusy : rx.txLock ≠ .free) (hirq : rx.irq = s.rx.irq) (hremoved : rx.removed = s.rx.removed)
    (held : HwState.Held { s with rx, lockIo })
    (heq : pmReturn { s with rx, lockIo } a = (s', event)) : s'.Inv := by
  rw [pmReturn_busy (by exact hbusy)] at heq
  cases heq
  exact h.lock hthreads (h.not_writing hlock) hirq hremoved
    (fun hreturn => absurd hreturn (h.not_returned hlock)) held (.of_call hpm)

/-- A call that finds `removed` set returns, and has done nothing. -/
theorem HwState.Inv.refused (h : s.Inv) (hwriting : s.writing = none)
    (hfree : s.rx.txLock = .free) (hremoved : s.rx.removed = true) {pm : PmCore}
    (hreturned : HwState.Returned { s with pm }) : HwState.Inv { s with lockIo := [], pm } := by
  have held := h.held
  unfold HwState.Held at held
  rw [hfree] at held
  refine h.lock h.threads hwriting rfl rfl (fun _ => ⟨hfree, rfl⟩) ?_ hreturned
  unfold HwState.Held
  dsimp only
  rw [hfree]
  exact ⟨fun hnot => absurd (hremoved.symm.trans hnot) (by simp), held.2⟩

/-- What a call knows that has got past its check. -/
theorem HwState.Inv.checked (h : s.Inv) (hfree : s.rx.txLock = .free)
    (hremoved : s.rx.removed ≠ true) :
    s.remove ≠ .returned ∧ s.rx.suspended = s.pm.asleep ∧
      s.rx.irqDepth = if s.pm.asleep = true then 1 else 0 := by
  have held := h.held
  unfold HwState.Held at held
  rw [hfree] at held
  have hnot : s.remove ≠ .returned := fun hreturn => hremoved (h.flagged (by rw [hreturn]; simp))
  have hasleep : s.rx.suspended = s.pm.asleep := held.1 (Bool.eq_false_iff.mpr hremoved)
  refine ⟨hnot, hasleep, held.2.trans ?_⟩
  rw [hasleep]
  simp [hnot]

theorem HwState.Inv.pmStep (h : s.Inv) {a : PmAct} (hs : hwPmStep s a = some (s', event)) :
    s'.Inv := by
  obtain ⟨hpm, hwriting, hio, rx, e, hrx, heq⟩ := hwPmStep_eq_some hs
  have hthreads : rx.Threads := h.threads.pmStep hrx
  have held := h.held
  unfold HwState.Held at held
  cases a with
  | suspendCheck =>
      rw [Gxfp.pmStep] at hrx
      split at hrx
      · rename_i hfree
        cases hrx
        by_cases hremoved : s.rx.removed = true
        · -- the device is gone, and nothing is done
          rw [if_pos hremoved, pmReturn_suspend (by exact hfree) (by rfl)] at heq
          cases heq
          exact h.refused hwriting hfree hremoved hremoved
        · rw [if_neg hremoved] at heq hthreads
          rw [pmReturn_busy (by simp)] at heq
          cases heq
          obtain ⟨hnot, hasleep, hdepth⟩ := h.checked hfree hremoved
          rw [hpm] at hasleep hdepth
          exact h.lock hthreads hwriting rfl rfl (fun hreturn => absurd hreturn hnot)
            ⟨hpm, hasleep, hdepth⟩ (.of_call (a := .suspendCheck) hpm)
      · cases hrx
  | suspendFlag =>
      rw [Gxfp.pmStep] at hrx
      split at hrx
      · rename_i hlock
        rw [hlock] at held
        cases hrx
        exact h.goesOn hpm hthreads (by simp [hlock]) (by simp) rfl rfl ⟨hpm, rfl, held.2.2⟩ heq
      · cases hrx
  | suspendDisable =>
      rw [Gxfp.pmStep] at hrx
      split at hrx
      · rename_i hlock
        rw [hlock] at held
        cases hrx
        exact h.goesOn hpm hthreads (by simp [hlock]) (by simp) rfl rfl
          ⟨hpm, held.2.1, congrArg (· + 1) held.2.2⟩ heq
      · cases hrx
  | suspendSync =>
      rw [Gxfp.pmStep] at hrx
      split at hrx
      · rename_i hlock
        rw [hlock.1] at held
        cases hrx
        exact h.goesOn hpm hthreads (by simp [hlock.1]) (by simp) rfl rfl held heq
      · cases hrx
  | suspendDiscard =>
      rw [Gxfp.pmStep] at hrx
      split at hrx
      · rename_i hlock
        rw [hlock] at held
        cases hrx
        rw [pmReturn_suspend (by rfl) (by rfl)] at heq
        cases heq
        have hsuspended : s.rx.suspended = true := held.2.1
        refine h.lock hthreads hwriting rfl rfl (fun _ => ⟨rfl, rfl⟩) ?_ hsuspended
        exact ⟨fun _ => hsuspended, held.2.2.trans (if_pos (Or.inl hsuspended)).symm⟩
      · cases hrx
  | resumeCheck =>
      rw [Gxfp.pmStep] at hrx
      split at hrx
      · rename_i hfree
        cases hrx
        by_cases hremoved : s.rx.removed = true
        · rw [if_pos hremoved, pmReturn_resume (by exact hfree) (by simp [PmAct.call])] at heq
          cases heq
          exact h.refused hwriting hfree hremoved trivial
        · rw [if_neg hremoved] at heq hthreads
          rw [pmReturn_busy (by simp)] at heq
          cases heq
          obtain ⟨hnot, hasleep, hdepth⟩ := h.checked hfree hremoved
          rw [hpm] at hasleep hdepth
          exact h.lock hthreads hwriting rfl rfl (fun hreturn => absurd hreturn hnot)
            ⟨hpm, hasleep, hdepth⟩ (.of_call (a := .resumeCheck) hpm)
      · cases hrx
  | resumeClear =>
      rw [Gxfp.pmStep] at hrx
      split at hrx
      · rename_i hlock
        rw [hlock] at held
        cases hrx
        exact h.goesOn hpm hthreads (by simp [hlock]) (by simp) rfl rfl ⟨hpm, rfl, held.2.2⟩ heq
      · cases hrx
  | resumeEnable =>
      rw [Gxfp.pmStep] at hrx
      split at hrx
      · rename_i hlock
        rw [hlock] at held
        cases hrx
        rw [pmReturn_resume (by rfl) (by simp [PmAct.call])] at heq
        cases heq
        have hnot : s.remove ≠ .returned := h.not_returned (by simp [hlock])
        refine h.lock hthreads hwriting rfl rfl (fun hreturn => absurd hreturn hnot) ?_ trivial
        refine ⟨fun _ => held.2.1, ?_⟩
        show s.rx.irqDepth - 1 = _
        rw [held.2.2, if_neg]
        rw [held.2.1]
        simpa using hnot
      · cases hrx

/-! ### The driver core's call -/

/-- The flag is set under another lock, whoever holds `tx_lock`. -/
theorem HwState.Held.flag (held : s.Held) (hnot : s.remove = .notCalled) :
    HwState.Held { s with rx := { s.rx with removed := true }, remove := .flagged } := by
  unfold HwState.Held at held ⊢
  dsimp only
  split
  · rename_i hfree
    rw [hfree] at held
    refine ⟨by simp, held.2.trans ?_⟩
    simp [hnot]
  all_goals
    rename_i hlock
    rw [hlock] at held
    exact held

theorem HwState.Returned.flag (h : s.Returned) :
    HwState.Returned { s with rx := { s.rx with removed := true }, remove := .flagged } := by
  unfold HwState.Returned at h ⊢
  dsimp only
  split
  · rename_i hpm
    rw [hpm] at h
    exact h
  · rfl
  · trivial

/-- A step of `gxfp_remove` under `tx_lock`. -/
theorem HwState.Inv.removing (h : s.Inv) (hlock : s.rx.txLock ≠ .free) {rx : RxState}
    {lockIo : List HwAccess} (hthreads : rx.Threads) (hirq : rx.irq = s.rx.irq)
    (hremoved : rx.removed = s.rx.removed) (hsuspended : rx.suspended = s.rx.suspended)
    (held : HwState.Held { s with rx, lockIo }) : HwState.Inv { s with rx, lockIo } := by
  refine h.lock hthreads (h.not_writing hlock) hirq hremoved
    (fun hreturn => absurd hreturn (h.not_returned hlock)) held ?_
  have hreturned := h.suspend
  unfold HwState.Returned at hreturned ⊢
  rw [hsuspended, hremoved]
  exact hreturned

theorem HwState.Inv.removeStep (h : s.Inv) {a : RemoveAct}
    (hs : hwRemoveStep s a = some (s', event)) : s'.Inv := by
  have hthreads := hwStep_threads (a := .remove a) h.threads hs
  have held := h.held
  unfold HwState.Held at held
  cases a with
  | flag =>
      simp only [hwRemoveStep] at hs
      split at hs
      · rename_i hnot
        cases hs
        exact ⟨hthreads, h.held.flag hnot, h.suspend.flag, h.thread, fun _ => rfl, by simp,
          h.writing⟩
      · cases hs
  | lock =>
      simp only [hwRemoveStep] at hs
      split at hs
      · rename_i hguard
        obtain ⟨⟨rx, e⟩, hrx, heq⟩ := Option.map_eq_some_iff.mp hs
        simp only [Gxfp.removeStep] at hrx
        split at hrx
        · rename_i hlock
          rw [hlock.2] at held
          cases hrx
          cases heq
          refine ⟨hthreads, ?_, h.suspend, h.thread, fun _ => hlock.1, by simp,
            fun hcount => absurd hguard.2 hcount⟩
          refine held.2.trans ?_
          simp [hguard.1]
        · cases hrx
      · cases hs
  | disable =>
      obtain ⟨⟨rx, e⟩, hrx, heq⟩ := Option.map_eq_some_iff.mp hs
      simp only [Gxfp.removeStep] at hrx
      split at hrx
      · rename_i hlock
        rw [hlock] at held
        by_cases hsuspended : s.rx.suspended = true
        · -- `gxfp_suspend` has disabled the interrupt, and waited for the thread
          have hquiet := h.threads.quiet hsuspended (by simp [hlock]) (by simp [hlock])
          rw [if_pos hsuspended] at hrx held
          cases hrx
          cases heq
          exact h.removing (by simp [hlock]) hthreads rfl rfl rfl ⟨held, hquiet.1⟩
        · rw [if_neg hsuspended] at hrx held
          cases hrx
          cases heq
          exact h.removing (by simp [hlock]) hthreads rfl rfl rfl (congrArg (· + 1) held)
      · cases hrx
  | sync =>
      obtain ⟨⟨rx, e⟩, hrx, heq⟩ := Option.map_eq_some_iff.mp hs
      simp only [Gxfp.removeStep] at hrx
      split at hrx
      · rename_i hlock
        rw [hlock.1] at held
        cases hrx
        cases heq
        exact h.removing (by simp [hlock.1]) hthreads rfl rfl rfl ⟨held, hlock.2⟩
      · cases hrx
  | discard =>
      simp only [hwRemoveStep] at hs
      split at hs
      · rename_i hio
        obtain ⟨⟨rx, e⟩, hrx, heq⟩ := Option.map_eq_some_iff.mp hs
        simp only [Gxfp.removeStep] at hrx
        split at hrx
        · rename_i hlock
          rw [hlock] at held
          have hremoved : s.rx.removed = true := h.threads.removing (Or.inr (Or.inr hlock))
          have hwriting : s.writing = none := h.not_writing (by simp [hlock])
          cases hrx
          cases heq
          refine ⟨hthreads, ⟨fun hnot => absurd (hremoved.symm.trans hnot) (by simp), ?_⟩,
            h.suspend, h.thread, fun _ => hremoved, fun _ => ⟨⟨rfl, hwriting⟩, held.2, hio⟩,
            fun hcount => absurd hwriting hcount⟩
          exact held.1.trans (if_pos (Or.inr rfl)).symm
        · cases hrx
      · cases hs

/-! ### The other steps -/

/-- Nothing that the invariant speaks of changes in the receive queue. -/
theorem HwState.Inv.queue (h : s.Inv) {rx : RxState} (hthreads : rx.Threads)
    (hsame : rx = { s.rx with
      rxFifoReady := rx.rxFifoReady, rxOverflow := rx.rxOverflow
      queuedRecords := rx.queuedRecords, rxFifo := rx.rxFifo, flushing := rx.flushing }) :
    HwState.Inv { s with rx } := by
  rw [hsame] at hthreads ⊢
  exact ⟨hthreads, h.held, h.suspend, h.thread, h.flagged, h.returned, h.writing⟩

theorem HwState.Inv.fileStep (h : s.Inv) {a : FileAct}
    (hs : hwStep s (.file a) = some (s', event)) : s'.Inv := by
  have hthreads := hwStep_threads h.threads hs
  obtain ⟨⟨rx, e⟩, hrx, heq⟩ := Option.map_eq_some_iff.mp hs
  cases heq
  refine h.queue hthreads ?_
  cases a with
  | read copied =>
      obtain ⟨overflow, count, fifo, hframe⟩ := rxRead_frame s.rx copied
      rw [Gxfp.fileStep, hframe] at hrx
      cases hrx
      rfl
  | flushCheck =>
      simp only [Gxfp.fileStep] at hrx
      split at hrx
      · cases hrx
        rfl
      · cases hrx
        rfl
  | flushDiscard =>
      simp only [Gxfp.fileStep] at hrx
      split at hrx
      · cases hrx
        rfl
      · cases hrx

/-- The interrupt thread changes the queue, and only starts while the interrupt is enabled. -/
theorem irqStep_frame {rx rx' : RxState} {a : IrqAct} {e : Option RxEvent}
    (hs : Gxfp.irqStep rx a = some (rx', e)) :
    rx' = { rx with
      rxOverflow := rx'.rxOverflow, queuedRecords := rx'.queuedRecords
      rxFifo := rx'.rxFifo, irq := rx'.irq } ∧
    (rx.irq = .idle → rx.irqDepth = 0) ∧ (irqAccesses a ≠ [] → rx'.irq ≠ .idle) := by
  cases a with
  | wake =>
      simp only [Gxfp.irqStep] at hs
      split at hs
      · rename_i hwake
        cases hs
        exact ⟨rfl, fun _ => hwake.2, fun hio => absurd rfl hio⟩
      · cases hs
  | sample ts =>
      simp only [Gxfp.irqStep] at hs
      split at hs
      · rename_i hwoken
        cases hs
        exact ⟨rfl, fun hidle => absurd (hwoken.symm.trans hidle) (by simp), fun _ => by simp⟩
      · cases hs
  | read window =>
      simp only [Gxfp.irqStep] at hs
      split at hs
      · rename_i hirq
        cases hs
        exact ⟨rfl, fun hidle => absurd (hirq.symm.trans hidle) (by simp), fun _ => by simp⟩
      · cases hs
  | queue =>
      simp only [Gxfp.irqStep] at hs
      split at hs
      · rename_i queue ts window hirq
        obtain ⟨overflow, count, fifo, hframe⟩ :=
          rxEnqueue_frame { rx with irq := .idle } (rxHeader ts) window.val
        refine ⟨?_, fun hidle => absurd (hirq.symm.trans hidle) (by simp),
          fun hio => absurd rfl hio⟩
        by_cases hqueue : queue = true
        · rw [if_pos hqueue, hframe] at hs
          cases hs
          rfl
        · rw [if_neg hqueue] at hs
          cases hs
          rfl
      · cases hs

/-- Where the thread is idle and the interrupt disabled, it makes no step. -/
theorem HwState.Inv.irqStep (h : s.Inv) {a : IrqAct} (hs : hwIrqStep s a = some (s', event)) :
    s'.Inv := by
  have hthreads := hwStep_threads (a := .irq a) h.threads hs
  unfold hwIrqStep at hs
  split at hs
  · obtain ⟨⟨rx, e⟩, hrx, heq⟩ := Option.map_eq_some_iff.mp hs
    obtain ⟨hframe, hwakes, hio⟩ := irqStep_frame hrx
    cases heq
    have held := h.held
    unfold HwState.Held at held
    have hnot : s.remove ≠ .returned := by
      intro hreturn
      have hfree := (h.returned hreturn).1.1
      rw [hfree] at held
      have hdepth := held.2.trans (if_pos (Or.inr hreturn))
      rw [hwakes (h.returned hreturn).2.1] at hdepth
      cases hdepth
    have hlock : s.rx.txLock ≠ .removeQuiet := by
      intro hquiet
      rw [hquiet] at held
      have hdepth := held.1
      rw [hwakes held.2] at hdepth
      cases hdepth
    dsimp only at hthreads hio hframe
    rw [hframe] at hthreads ⊢
    refine ⟨hthreads, ?_, h.suspend, hio, h.flagged, fun hreturn => absurd hreturn hnot, h.writing⟩
    unfold HwState.Held
    dsimp only
    split
    case h_10 hquiet => exact absurd hquiet hlock
    all_goals
      rename_i hother
      rw [hother] at held
      exact held
  · cases hs

theorem HwState.Inv.write (h : s.Inv) {count : Nat} {copied : Bool}
    (hs : hwWrite s count copied = some (s', event)) : s'.Inv := by
  unfold hwWrite at hs
  split at hs
  · cases hs
    exact h
  · split at hs
    · cases hs
    · rename_i hfree
      rw [not_or, not_not] at hfree
      split at hs
      · cases hs
        exact h
      · rename_i hremoved
        split at hs
        · cases hs
          exact h
        · rename_i hsuspended
          split at hs
          · cases hs
            exact h
          · cases hs
            refine ⟨h.threads, h.held, h.suspend, h.thread, h.flagged, fun hreturn => ?_,
              fun _ => ⟨hfree.1, Bool.eq_false_iff.mpr hsuspended, fun done hpm => ?_⟩⟩
            · exact absurd (h.flagged (by rw [show s.remove = .returned from hreturn]; nofun))
                hremoved
            · have hsuspend := h.suspend
              unfold HwState.Returned at hsuspend
              rw [show s.pm = .suspended done from hpm] at hsuspend
              cases done with
              | true => exact hsuspended hsuspend
              | false => exact hremoved hsuspend

/-- The PM core makes a call. -/
theorem HwState.Inv.call (h : s.Inv) {a : PmAct} (hbetween : ∀ b : PmAct, s.pm ≠ b.call)
    (hasleep : a.call.asleep = s.pm.asleep) : HwState.Inv { s with pm := a.call } := by
  refine ⟨h.threads, ?_, .of_call rfl, h.thread, h.flagged, h.returned, fun hcount => ?_⟩
  · have held := h.held
    unfold HwState.Held at held ⊢
    dsimp only
    split
    all_goals
      rename_i hlock
      rw [hlock] at held
    · exact ⟨fun hremoved => (held.1 hremoved).trans hasleep.symm, held.2⟩
    · exact absurd held.1 (hbetween .suspendCheck)
    · exact absurd held.1 (hbetween .suspendCheck)
    · exact absurd held.1 (hbetween .suspendCheck)
    · exact absurd held.1 (hbetween .suspendCheck)
    · exact absurd held.1 (hbetween .resumeCheck)
    · exact absurd held.1 (hbetween .resumeCheck)
    · exact held
    · exact held
    · exact held
  · obtain ⟨hfree, hawake, -⟩ := h.writing hcount
    exact ⟨hfree, hawake, fun done => by cases a <;> nofun⟩

/-- **Every step keeps the invariant.** -/
theorem HwState.Inv.step (h : s.Inv) {a : HwAct} (hs : hwStep s a = some (s', event)) :
    s'.Inv := by
  cases a with
  | irq a => exact h.irqStep hs
  | pm a => exact h.pmStep hs
  | remove a => exact h.removeStep hs
  | file a => exact h.fileStep hs
  | write count copied => exact h.write hs
  | irqAccess =>
      simp only [hwStep] at hs
      split at hs
      · cases hs
      · rename_i access rest hio
        cases hs
        have hrunning : s.rx.irq ≠ .idle := h.thread (by rw [hio]; simp)
        exact ⟨h.threads, h.held, h.suspend, fun _ => hrunning, h.flagged, h.returned, h.writing⟩
  | lockAccess =>
      simp only [hwStep] at hs
      split at hs
      · cases hs
      · rename_i access rest hio
        cases hs
        refine ⟨h.threads, h.held, h.suspend, h.thread, h.flagged, fun hreturn => ?_, h.writing⟩
        exact absurd (hio.symm.trans (h.returned hreturn).2.2) (by simp)
  | suspend =>
      simp only [hwStep] at hs
      split at hs
      · rename_i hpm
        cases hs
        refine h.call (a := .suspendCheck) (fun b => ?_) ?_
        · rw [hpm]
          cases b <;> nofun
        · rw [hpm]
          rfl
      · cases hs
  | resume =>
      simp only [hwStep] at hs
      split at hs
      · rename_i done hpm
        cases hs
        refine h.call (a := .resumeCheck) (fun b => ?_) ?_
        · rw [hpm]
          cases b <;> nofun
        · rw [hpm]
          rfl
      · cases hs
  | writeReturn =>
      simp only [hwStep] at hs
      split at hs
      · cases hs
      · split at hs
        · cases hs
          refine ⟨h.threads, h.held, h.suspend, h.thread, h.flagged, fun hreturn => ?_,
            fun hcount => absurd rfl hcount⟩
          obtain ⟨hfree, hirq, hio⟩ := h.returned hreturn
          exact ⟨⟨hfree.1, rfl⟩, hirq, hio⟩
        · cases hs

/-! ### What a step says -/

/-- What the events have to do with the state: who accesses the hardware, which calls
return, and that a write which finds `removed` set makes no access. -/
structure HwState.Tells (s s' : HwState) (event : Option HwEvent) : Prop where
  access : ∀ user access, event = some (.access user access) →
    (user = .irqThread ∧ s.irqIo ≠ []) ∨
      (user = (if s.writing.isSome then .write else .power) ∧ s.lockIo ≠ [])
  suspend : ∀ done, event = some (.suspendReturned done) →
    s'.pm = .suspended done ∧ s'.writing = none
  asleep : ∀ done, s.pm = .suspended done → event ≠ some .resumeStarted →
    s'.pm = .suspended done
  remove : s'.remove = .returned ↔ s.remove = .returned ∨ event = some .removeReturned
  write : s.rx.removed = true → s.writing = none → s'.writing = none

/-- A step that says nothing, and in which no call starts or returns. -/
theorem HwState.Tells.silent (hpm : s'.pm = s.pm) (hwriting : s'.writing = s.writing)
    (hremove : s'.remove = .returned ↔ s.remove = .returned) : s.Tells s' none where
  access := nofun
  suspend := nofun
  asleep := fun _ hasleep _ => hpm.trans hasleep
  remove := by simpa using hremove
  write := fun _ hnone => hwriting.trans hnone

theorem hwRemoveStep_tells {a : RemoveAct} (hs : hwRemoveStep s a = some (s', event)) :
    s.Tells s' event := by
  cases a with
  | flag =>
      simp only [hwRemoveStep] at hs
      split at hs
      · rename_i hnot
        cases hs
        exact .silent rfl rfl (by simp [hnot])
      · cases hs
  | lock =>
      simp only [hwRemoveStep] at hs
      split at hs
      · rename_i hguard
        obtain ⟨⟨rx, e⟩, -, heq⟩ := Option.map_eq_some_iff.mp hs
        cases heq
        exact .silent rfl rfl (by simp [hguard.1])
      · cases hs
  | disable | sync =>
      obtain ⟨⟨rx, e⟩, -, heq⟩ := Option.map_eq_some_iff.mp hs
      cases heq
      exact .silent rfl rfl Iff.rfl
  | discard =>
      simp only [hwRemoveStep] at hs
      split at hs
      · obtain ⟨⟨rx, e⟩, -, heq⟩ := Option.map_eq_some_iff.mp hs
        cases heq
        constructor <;> simp
      · cases hs

theorem hwWrite_tells {count : Nat} {copied : Bool}
    (hs : hwWrite s count copied = some (s', event)) : s.Tells s' event := by
  unfold hwWrite at hs
  split at hs
  · cases hs
    constructor <;> simp
  · split at hs
    · cases hs
    · split at hs
      · cases hs
        constructor <;> simp
      · rename_i hremoved
        split at hs
        · cases hs
          constructor <;> simp
        · split at hs
          · cases hs
            constructor <;> simp
          · cases hs
            constructor <;> simp [hremoved]

theorem hwStep_tells {a : HwAct} (hs : hwStep s a = some (s', event)) : s.Tells s' event := by
  cases a with
  | irq a =>
      simp only [hwStep, hwIrqStep] at hs
      split at hs
      · obtain ⟨⟨rx, e⟩, -, heq⟩ := Option.map_eq_some_iff.mp hs
        cases heq
        exact .silent rfl rfl Iff.rfl
      · cases hs
  | file a =>
      obtain ⟨⟨rx, e⟩, -, heq⟩ := Option.map_eq_some_iff.mp hs
      cases heq
      exact .silent rfl rfl Iff.rfl
  | irqAccess =>
      simp only [hwStep] at hs
      split at hs
      · cases hs
      · rename_i hio
        cases hs
        constructor <;> simp [hio]
  | lockAccess =>
      simp only [hwStep] at hs
      split at hs
      · cases hs
      · rename_i hio
        cases hs
        constructor <;> simp [hio]
  | suspend =>
      simp only [hwStep] at hs
      split at hs
      · rename_i hpm
        cases hs
        constructor <;> simp [hpm]
      · cases hs
  | resume =>
      simp only [hwStep] at hs
      split at hs
      · cases hs
        constructor <;> simp
      · cases hs
  | pm a =>
      obtain ⟨hpm, hwriting, -, rx, e, -, heq⟩ := hwPmStep_eq_some hs
      have hcall : ∀ done, s.pm ≠ .suspended done := by
        intro done
        rw [hpm]
        cases a <;> nofun
      by_cases hfree : rx.txLock = .free
      · by_cases hsuspend : a.call = .suspending
        · rw [pmReturn_suspend (by exact hfree) hsuspend] at heq
          cases heq
          constructor <;> simp [hcall, hwriting]
        · rw [pmReturn_resume (by exact hfree) hsuspend] at heq
          cases heq
          constructor <;> simp [hcall]
      · rw [pmReturn_busy (by exact hfree)] at heq
        cases heq
        exact .silent rfl rfl Iff.rfl
  | remove a => exact hwRemoveStep_tells hs
  | write count copied => exact hwWrite_tells hs
  | writeReturn =>
      simp only [hwStep] at hs
      split at hs
      · cases hs
      · split at hs
        · cases hs
          constructor <;> simp
        · cases hs

/-- `removed` is set for good. -/
theorem rxStep_removed {rx rx' : RxState} {b : RxAct} {e : Option RxEvent}
    (h : rxStep rx b = some (rx', e)) (hremoved : rx.removed = true) : rx'.removed = true := by
  cases b with
  | irq a =>
      rw [(irqStep_frame h).1]
      exact hremoved
  | pm a =>
      cases a with
      | suspendCheck | resumeCheck =>
          simp only [rxStep, Gxfp.pmStep, hremoved, if_true] at h
          split at h
          · cases h
            exact hremoved
          · cases h
      | _ =>
          simp only [rxStep, Gxfp.pmStep] at h
          split at h
          · cases h
            exact hremoved
          · cases h
  | remove a =>
      cases a with
      | flag =>
          cases h
          rfl
      | disable =>
          simp only [rxStep, Gxfp.removeStep] at h
          split at h
          · cases h
            split
            · exact hremoved
            · exact hremoved
          · cases h
      | _ =>
          simp only [rxStep, Gxfp.removeStep] at h
          split at h
          · cases h
            exact hremoved
          · cases h
  | file a =>
      cases a with
      | read copied =>
          obtain ⟨overflow, count, fifo, hframe⟩ := rxRead_frame rx copied
          simp only [rxStep, Gxfp.fileStep, hframe] at h
          cases h
          exact hremoved
      | flushCheck =>
          cases h
          rw [if_pos hremoved]
          exact hremoved
      | flushDiscard =>
          simp only [rxStep, Gxfp.fileStep] at h
          split at h
          · cases h
            exact hremoved
          · cases h

theorem hwStep_removed {a : HwAct} (hs : hwStep s a = some (s', event))
    (hremoved : s.rx.removed = true) : s'.rx.removed = true := by
  rcases hwStep_rx hs with hsame | ⟨b, e, hrx⟩
  · exact hsame ▸ hremoved
  · exact rxStep_removed hrx hremoved

/-! ### Runs -/

theorem probed_inv : HwState.probed.Inv where
  threads := threads_probed
  held := ⟨fun _ => rfl, rfl⟩
  suspend := trivial
  thread := fun hio => absurd rfl hio
  flagged := fun hcalled => absurd rfl hcalled
  returned := nofun
  writing := fun hcount => absurd rfl hcount

theorem HwState.Inv.run {acts : List HwAct} {log : List HwEvent} (h : s.Inv)
    (hrun : run hwStep acts s = some (s', log)) : s'.Inv :=
  run_keeps HwState.Inv hrun h fun _ _ _ _ hinv hs _ => hinv.step hs

/-- The interrupt thread does not run while it has been waited for. -/
theorem HwState.Inv.idle_of_suspended (h : s.Inv) (hpm : s.pm = .suspended true) :
    s.rx.irq = .idle := by
  have hsuspended : s.rx.suspended = true := by
    have hsuspend := h.suspend
    unfold HwState.Returned at hsuspend
    rw [hpm] at hsuspend
    exact hsuspend
  have held := h.held
  unfold HwState.Held at held
  refine (h.threads.quiet hsuspended (fun hlock => ?_) fun hlock => ?_).1
  · rw [hlock] at held
    exact absurd (hpm.symm.trans held.1) (by simp)
  · rw [hlock] at held
    exact absurd (hpm.symm.trans held.1) (by simp)

/-- **Whoever is suspended is left alone.** -/
theorem HwState.Inv.no_access_of_suspended (h : s.Inv) (hpm : s.pm = .suspended true) {a : HwAct}
    {user : HwUser} {access : HwAccess} (huser : user ≠ .power) :
    hwStep s a ≠ some (s', some (.access user access)) := by
  intro hs
  rcases (hwStep_tells hs).access user access rfl with ⟨-, hio⟩ | ⟨hholder, -⟩
  · exact h.thread hio (h.idle_of_suspended hpm)
  · by_cases hwriting : s.writing = none
    · rw [hwriting] at hholder
      exact huser hholder
    · exact (h.writing hwriting).2.2 true hpm

/-- So is a device that is gone. -/
theorem HwState.Inv.no_access_of_returned (h : s.Inv) (hreturn : s.remove = .returned) {a : HwAct}
    {user : HwUser} {access : HwAccess} : hwStep s a ≠ some (s', some (.access user access)) := by
  intro hs
  obtain ⟨hfree, hirq, hio⟩ := h.returned hreturn
  rcases (hwStep_tells hs).access user access rfl with ⟨-, hthread⟩ | ⟨-, hholder⟩
  · exact h.thread hthread hirq
  · exact hholder hio

/-- Neither `gxfp_write` nor the interrupt thread accesses the hardware from a return of
`gxfp_suspend` on, with the given outcome, until `gxfp_resume` is called. -/
def LeavesAlone (done : Bool) (log : List HwEvent) : Prop :=
  ∀ before mid after user access,
    log = before ++ .suspendReturned done :: (mid ++ .access user access :: after) →
    user ≠ .power → .resumeStarted ∈ mid

variable {acts : List HwAct} {log : List HwEvent}

theorem leavesAlone_suspended (h : s.Inv) (hrun : run hwStep acts s = some (s', log)) :
    LeavesAlone true log := by
  intro before mid after user access hlog huser
  rw [hlog] at hrun
  obtain ⟨as₁, a, as₂, s₁, s₂, hfirst, hreturns, hlast⟩ := run_split hrun
  have hinv₁ := h.run hfirst
  have hinv₂ := hinv₁.step hreturns
  have hpm := ((hwStep_tells hreturns).suspend true rfl).1
  obtain ⟨e, hmem, rfl⟩ := run_between (fun s => s.Inv ∧ s.pm = .suspended true)
    (fun e => e = .resumeStarted) hlast ⟨hinv₂, hpm⟩
    (fun s a s' event hs hstep hnot => ⟨hs.1.step hstep, (hwStep_tells hstep).asleep true hs.2
      fun hresume => hnot .resumeStarted hresume rfl⟩)
    (fun s a s' hs => hs.1.no_access_of_suspended hs.2 huser)
  exact hmem

/-- A `gxfp_suspend` that has not suspended the device has found `removed` set. -/
theorem no_write_of_notDone (h : s.Inv) (hrun : run hwStep acts s = some (s', log))
    {before rest : List HwEvent} {access : HwAccess}
    (hlog : log = before ++ .suspendReturned false :: rest) : .access .write access ∉ rest := by
  intro hmem
  obtain ⟨mid, after, rfl⟩ := List.append_of_mem hmem
  rw [hlog] at hrun
  obtain ⟨as₁, a, as₂, s₁, s₂, hfirst, hreturns, hlast⟩ := run_split hrun
  have hinv := (h.run hfirst).step hreturns
  obtain ⟨hpm, hwriting⟩ := (hwStep_tells hreturns).suspend false rfl
  have hremoved : s₂.rx.removed = true := by
    have hsuspend := hinv.suspend
    unfold HwState.Returned at hsuspend
    rw [hpm] at hsuspend
    exact hsuspend
  obtain ⟨e, -, hfalse⟩ := run_between (fun s => s.rx.removed = true ∧ s.writing = none)
    (fun _ => False) hlast ⟨hremoved, hwriting⟩
    (fun s a s' event hs hstep _ =>
      ⟨hwStep_removed hstep hs.1, (hwStep_tells hstep).write hs.1 hs.2⟩)
    (fun s a s' hs hstep => by
      rcases (hwStep_tells hstep).access _ _ rfl with ⟨huser, -⟩ | ⟨huser, -⟩
      · cases huser
      · rw [hs.2] at huser
        cases huser)
  exact hfalse

theorem no_access_of_removeReturned (h : s.Inv) (hrun : run hwStep acts s = some (s', log))
    {before rest : List HwEvent} {user : HwUser} {access : HwAccess}
    (hlog : log = before ++ .removeReturned :: rest) : .access user access ∉ rest := by
  intro hmem
  obtain ⟨mid, after, rfl⟩ := List.append_of_mem hmem
  rw [hlog] at hrun
  obtain ⟨as₁, a, as₂, s₁, s₂, hfirst, hreturns, hlast⟩ := run_split hrun
  have hinv := (h.run hfirst).step hreturns
  have hreturn : s₂.remove = .returned := (hwStep_tells hreturns).remove.mpr (Or.inr rfl)
  obtain ⟨e, -, hfalse⟩ := run_between (fun s => s.Inv ∧ s.remove = .returned)
    (fun _ => False) hlast ⟨hinv, hreturn⟩
    (fun s a s' event hs hstep _ =>
      ⟨hs.1.step hstep, (hwStep_tells hstep).remove.mpr (Or.inl hs.2)⟩)
    (fun s a s' hs => hs.1.no_access_of_returned hs.2)
  exact hfalse

/-- `gxfp_remove` has returned if and only if it has said so. -/
theorem returned_iff (hrun : run hwStep acts .probed = some (s, log)) :
    s.remove = .returned ↔ .removeReturned ∈ log := by
  constructor
  · intro hreturn
    by_contra hnot
    have hkeeps : s.remove ≠ .returned := by
      refine run_keeps (fun s => s.remove ≠ .returned) hrun nofun ?_
      intro s a s' event hs hstep hlog hreturn
      rcases (hwStep_tells hstep).remove.mp hreturn with hold | rfl
      · exact hs hold
      · exact hnot (hlog .removeReturned rfl)
    exact hkeeps hreturn
  · intro hmem
    obtain ⟨before, after, rfl⟩ := List.append_of_mem hmem
    obtain ⟨as₁, a, as₂, s₁, s₂, -, hreturns, hlast⟩ := run_split hrun
    refine run_keeps (fun s => s.remove = .returned) hlast
      ((hwStep_tells hreturns).remove.mpr (Or.inr rfl)) ?_
    exact fun s a s' event hs hstep _ => (hwStep_tells hstep).remove.mpr (Or.inl hs)

/-! ### The result -/

/-- What the log of a run says about the hardware, and how the interrupt is left. -/
structure HwState.LeftAlone (s : HwState) (log : List HwEvent) : Prop where
  suspended : LeavesAlone true log
  /-- `gxfp_suspend` has come between the two parts of `gxfp_remove`. -/
  notSuspended : ∀ before rest access, log = before ++ .suspendReturned false :: rest →
    .access .write access ∉ rest
  removed : ∀ before rest user access, log = before ++ .removeReturned :: rest →
    .access user access ∉ rest
  depth : s.TxFree →
    s.rx.irqDepth = if s.rx.suspended = true ∨ .removeReturned ∈ log then 1 else 0
  /-- `enable_irq` is called on an interrupt that is disabled once. -/
  enable : s.rx.txLock = .resumeCleared → s.rx.irqDepth = 1

/--
**The hardware is left alone, and the interrupt's disable count is balanced.**

In every interleaving of writes, interrupts, suspends and resumes by turns, and one
removal: once `gxfp_suspend` has suspended the device and returned, no write and no
interrupt thread accesses the mailbox or a GPIO until `gxfp_resume` is called; a
`gxfp_suspend` that finds the removal under way leaves the interrupt to it, but no write
makes an access after it either; nothing is accessed after `gxfp_remove` has returned;
and whenever `tx_lock` is free the interrupt is disabled once if the device is suspended
or removed, and not at all otherwise.
-/
theorem hwRun_leftAlone (acts : List HwAct) {s : HwState} {log : List HwEvent}
    (hrun : hwRun acts .probed = some (s, log)) : s.LeftAlone log := by
  have hinv : s.Inv := probed_inv.run hrun
  have held := hinv.held
  unfold HwState.Held at held
  refine ⟨leavesAlone_suspended probed_inv hrun, ?_, ?_, fun hfree => ?_, fun hlock => ?_⟩
  · exact fun before rest access hlog => no_write_of_notDone probed_inv hrun hlog
  · exact fun before rest user access hlog => no_access_of_removeReturned probed_inv hrun hlog
  · rw [hfree.1] at held
    exact held.2.trans (if_congr (or_congr_right (returned_iff hrun)) rfl rfl)
  · rw [hlock] at held
    exact held.2.2

/-- A suspend and a resume, with a write ahead and an interrupt behind. -/
def suspendAndResume : List HwAct :=
  [.write 8 true] ++ List.replicate 4 .lockAccess ++
    [.writeReturn, .suspend, .pm .suspendCheck, .pm .suspendFlag, .pm .suspendDisable,
      .pm .suspendSync, .lockAccess, .lockAccess, .pm .suspendDiscard, .resume,
      .pm .resumeCheck, .pm .resumeClear, .pm .resumeEnable, .irq .wake, .irq (.sample 0),
      .irqAccess]

theorem hwRun_leftAlone_resumed :
    ∃ s log, hwRun suspendAndResume .probed = some (s, log) ∧ s.LeftAlone log := by
  have hrun : (hwRun suspendAndResume .probed).isSome = true := by decide +kernel
  obtain ⟨⟨s, log⟩, h⟩ := Option.isSome_iff_exists.mp hrun
  exact ⟨s, log, h, hwRun_leftAlone suspendAndResume h⟩

/-- `gxfp_remove` has set `removed`, so `gxfp_suspend` returns at once; the interrupt is still
enabled, and its thread reads the mailbox. -/
theorem hwRun_reads_unsuspended :
    ∃ s log, hwRun [.remove .flag, .suspend, .pm .suspendCheck, .irq .wake, .irq (.sample 0),
      .irqAccess] .probed = some (s, log) ∧ ¬ LeavesAlone false log := by
  refine ⟨_, _, rfl, fun hleaves => ?_⟩
  have hresume := hleaves [] [] [] .irqThread (.readq rxOffset) rfl nofun
  cases hresume

end Gxfp
