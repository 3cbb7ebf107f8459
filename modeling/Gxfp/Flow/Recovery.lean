/-
Getting a controller back: `src/flow/device_recovery.c`, and the chip id as
`demos/recovery/main.c` reads it.

The controller may be stuck in any state when a recovery begins, so nothing the recovery
sends waits for anything: its steps are taken one after the other whether or not they are
answered, and only what the reset says is its result.  `deviceRecovery_sends` says so for
every controller, of the buffers that are handed to `write(2)`.

The chip id is read in rounds, because the sensor may need a few empty commands before it
answers.  A round goes on behind its reset only if that is acknowledged, and the chip id is
the one in the answer that was read; `readChipIdStable_sends` gives the word of all rounds,
with what has come back.
-/
import Gxfp.Cmd.Control
import Gxfp.Cmd.Sent

namespace Gxfp

open Trace

/-! ### `gxfp_device_recovery` -/

/-- The reset flag of a recovery: what is to be reset, as `GXFP_CMD_RESET_DEVICE` has it. -/
def recoveryResetFlag (resetMcu resetSensor : Bool) : UInt8 :=
  (if resetMcu then 0x02 else 0x00) ||| (if resetSensor then 0x01 else 0x00)

section Recovery

variable {σ : Type} (sys : Sys σ) (sleep : σ → σ) (fuel : Nat)

/-- The three commands of a recovery that get a TLS session unstuck. -/
def recoveryUnstick : CmdProg σ Unit := do
  let _ ← (cmdD01 sys fuel).attempt
  let _ ← (cmdSendNop sys).attempt
  let _ ← (cmdTlsUnlock sys fuel).attempt
  pure ()

/-- `gxfp_device_recovery` -/
def deviceRecovery (unstickTls resetMcu resetSensor : Bool) : CmdProg σ Unit := do
  let resetFlag := recoveryResetFlag resetMcu resetSensor
  let _ ← (flushRxq sys).attempt
  let _ ← (cmdNotifyPowerState sys fuel).attempt
  let _ ← (if unstickTls then recoveryUnstick sys fuel else pure ()).attempt
  let _ ← (asProg fun dev s => cmdSleepCleanup sys dev fuel s).attempt
  let rc ← (if resetFlag ≠ 0 then cmdResetDevice sys fuel resetFlag else pure ()).attempt
  let _ ← (flushRxq sys).attempt
  Prog.lift rc

/-! ### `read_chip_id_stable` -/

/-- An attempt of `read_chip_id_stable`, up to its retry. -/
def chipIdAttempt : CmdProg σ UInt16 := do
  cmdResetDevice sys fuel 0x01
  let _ ← (cmdImageModeSend sys).attempt
  let _ ← (sleepFor sleep).attempt
  let _ ← (flushRxq sys).attempt
  let chipId ← cmdReadChipId sys fuel
  Prog.lift (if chipId ≠ 0x0000 ∧ chipId ≠ 0xffff then .ok chipId else .error .nodata)

/-- What `read_chip_id_stable` does behind a failure: `NOPS_PER_FAILURE` empty commands. -/
def chipIdNops : CmdProg σ Unit := do
  let _ ← (cmdSendNop sys).attempt
  let _ ← (cmdSendNop sys).attempt
  let _ ← (cmdSendNop sys).attempt
  pure ()

/-- `read_chip_id_stable` -/
def readChipIdStable : CmdProg σ UInt16 :=
  (chipIdAttempt sys sleep fuel).retry (chipIdNops sys) 3 .nodata

end Recovery

/-! ### What the controller sees -/

/-- The commands of a recovery. -/
def recoveryStages (unstickTls resetMcu resetSensor : Bool) : List (Option SentMsg × Nat) :=
  [(command notifyPowerStateCmd [0x01], 1)] ++
    (if unstickTls then
      [(command d01Cmd [0x00, 0x00], 1), (nopMsg, 1), (command tlsUnlockCmd [0x00, 0x00], 1)]
    else []) ++
    [(command sleepCleanupCmd [0x00, 0x00], 1)] ++
    (if resetMcu || resetSensor then [(resetMsg (recoveryResetFlag resetMcu resetSensor), 6)]
    else [])

section Sends

variable {σ : Type} {sys : Sys σ} {sleep : σ → σ} {fuel : Nat}

/-- Either of two programs, with stages of its own. -/
theorem always_if {c : Prop} [Decidable c] {p q : CmdProg (σ × List (List UInt8)) Unit}
    {as bs : List (Option SentMsg × Nat)} (hp : c → Always (sentWatch σ) p as)
    (hq : ¬ c → Always (sentWatch σ) q bs) :
    Always (sentWatch σ) (if c then p else q) (if c then as else bs) := by
  by_cases hc : c
  · rw [if_pos hc, if_pos hc]
    exact hp hc
  · rw [if_neg hc, if_neg hc]
    exact hq hc

theorem always_sendNop : Always (sentWatch σ) (cmdSendNop sys.logged) [(nopMsg, 1)] :=
  always_sendPacket nopFrame (Nat.le_of_ble_eq_true rfl)

theorem always_expectAck (cmd : UInt8) {payload : List UInt8} {tries : Nat} (timeoutMs : Int)
    (h : payload.length ≤ cmdPayloadMax) (hpos : 0 < tries) :
    Always (sentWatch σ) (expectAck sys.logged fuel cmd payload tries timeoutMs)
      [(command cmd payload, tries)] :=
  always_of_emits (emits_expectAck sys.logged_kept cmd timeoutMs h hpos) fun _ _ hw => hw.runs

theorem always_resetDevice (resetFlag : UInt8) :
    Always (sentWatch σ) (cmdResetDevice sys.logged fuel resetFlag) [(resetMsg resetFlag, 6)] :=
  always_of_emits (emits_resetDevice sys.logged_kept resetFlag) fun _ _ hw => hw.runs

theorem always_recoveryUnstick :
    Always (sentWatch σ) (recoveryUnstick sys.logged fuel)
      [(command d01Cmd [0x00, 0x00], 1), (nopMsg, 1), (command tlsUnlockCmd [0x00, 0x00], 1)] :=
  (always_expectAck d01Cmd recoveryCmdTimeoutMs (Nat.le_of_ble_eq_true rfl)
    (Nat.succ_pos 0)).attempt_bind fun _ =>
    always_sendNop.attempt_bind fun _ =>
      (always_expectAck tlsUnlockCmd 500 (Nat.le_of_ble_eq_true rfl)
        (Nat.succ_pos 0)).attempt_bind fun _ => Always.pure ()

theorem recoveryResetFlag_ne (resetMcu resetSensor : Bool) :
    recoveryResetFlag resetMcu resetSensor ≠ 0 ↔ (resetMcu || resetSensor) = true := by
  cases resetMcu <;> cases resetSensor <;> decide

/-- The end of a recovery: its result is that of the reset. -/
theorem emits_recoveryReset (resetMcu resetSensor : Bool) :
    Emits (sentWatch σ)
      (do
        let rc ← (if recoveryResetFlag resetMcu resetSensor ≠ 0 then
          cmdResetDevice sys.logged fuel (recoveryResetFlag resetMcu resetSensor)
        else pure ()).attempt
        let _ ← (flushRxq sys.logged).attempt
        Prog.lift rc)
      fun r w =>
        Runs (if (resetMcu || resetSensor) = true then
          [(resetMsg (recoveryResetFlag resetMcu resetSensor), 6)] else []) w ∧
        ((resetMcu || resetSensor) = false → r = .ok ()) := by
  have hend : ∀ rc : Except Errno Unit, Emits (sentWatch σ)
      (do
        let _ ← (flushRxq sys.logged).attempt
        Prog.lift rc) fun r w => Runs [] w ∧ r = rc := fun rc =>
    always_flushRxq.attempt_ends fun _ => (Emits.lift rc).mono fun _ _ h => ⟨h.2, h.1⟩
  by_cases hreset : (resetMcu || resetSensor) = true
  · have hflag := (recoveryResetFlag_ne resetMcu resetSensor).mpr hreset
    rw [if_pos hflag, if_pos hreset]
    refine (always_resetDevice _).attempt_ends fun rc => (hend rc).mono fun _ _ h => ⟨h.1, ?_⟩
    exact fun hnot => absurd hreset (ne_true_of_eq_false hnot)
  · have hflag : ¬ recoveryResetFlag resetMcu resetSensor ≠ 0 := fun h =>
      hreset ((recoveryResetFlag_ne resetMcu resetSensor).mp h)
    rw [if_neg hflag, if_neg hreset]
    refine (Emits.anyway (Emits.pure ()) hend).mono ?_
    rintro r w ⟨rc, _, v, rfl, ⟨rfl, rfl⟩, hv, rfl⟩
    exact ⟨hv, fun _ => rfl⟩

/--
**A recovery says everything it has to say to every controller.**

Whatever the controller answers, to every command or to none, a recovery that comes back
has handed each of its commands to `write(2)`, in order, and without a reset it is a success.
-/
theorem deviceRecovery_sends (unstickTls resetMcu resetSensor : Bool) :
    Emits (sentWatch σ) (deviceRecovery sys.logged fuel unstickTls resetMcu resetSensor)
      fun r w => Runs (recoveryStages unstickTls resetMcu resetSensor) w ∧
        ((resetMcu || resetSensor) = false → r = .ok ()) := by
  have hsleep : Always (sentWatch σ)
      (asProg fun dev s => cmdSleepCleanup sys.logged dev fuel s)
      [(command sleepCleanupCmd [0x00, 0x00], 1)] :=
    always_expectAck sleepCleanupCmd recoveryCmdTimeoutMs (Nat.le_of_ble_eq_true rfl)
      (Nat.succ_pos 0)
  have hnotify : Always (sentWatch σ) (cmdNotifyPowerState sys.logged fuel)
      [(command notifyPowerStateCmd [0x01], 1)] :=
    always_expectAck notifyPowerStateCmd recoveryCmdTimeoutMs (Nat.le_of_ble_eq_true rfl)
      (Nat.succ_pos 0)
  have hunstick : Always (sentWatch σ)
      (if unstickTls then recoveryUnstick sys.logged fuel else pure ()) _ :=
    always_if (fun _ => always_recoveryUnstick) fun _ => Always.pure ()
  unfold recoveryStages
  rw [List.append_assoc, List.append_assoc]
  exact always_flushRxq.attempt_ends fun _ => hnotify.attempt_ends fun _ =>
    hunstick.attempt_ends fun _ => hsleep.attempt_ends fun _ =>
      emits_recoveryReset resetMcu resetSensor

end Sends

/-- A controller that takes every command and answers none, while time passes. -/
def deafSys : Sys Nat where
  poll _ s := (.timedOut, s)
  read s := (.failed .again, s)
  write b s := (.ok b.length, s)
  flushRx s := (.ok (), s)
  clock s := (UInt64.ofNat (s * 10000000000), s + 1)

/-- A recovery in front of it sends everything, the reset six times, and reports the reset. -/
theorem deviceRecovery_sends_deaf :
    ∃ st', deviceRecovery deafSys.logged 1 true true false (⟨3, 0, 500, true⟩, (0, [])) =
        some (.error .timedout, st') ∧
      Runs (recoveryStages true true false) (st'.2.2.map readMsg) := by
  have hrun : (deviceRecovery deafSys.logged 1 true true false
      (⟨3, 0, 500, true⟩, (0, []))).map Prod.fst = some (.error .timedout) := by
    decide +kernel
  obtain ⟨⟨r, st'⟩, hst, rfl⟩ := Option.map_eq_some_iff.mp hrun
  obtain ⟨-, w, hadds, hw, -⟩ :=
    deviceRecovery_sends true true false _ _ st' ⟨by decide, rfl⟩ hst
  refine ⟨st', hst, ?_⟩
  rw [show st'.2.2.map readMsg = [] ++ w from hadds]
  exact hw

/-! ### The rounds for the chip id -/

/-- A chip id as a sensor can have it. -/
def ChipIdStable (chipId : UInt16) : Prop := chipId ≠ 0x0000 ∧ chipId ≠ 0xffff

/--
A round that fails: its reset is not acknowledged and nothing comes behind it, or it is, and
the chip id is asked for behind an image command and not answered, or answered with one that
no sensor has.
-/
def ChipIdFails (w : List Wire) : Prop :=
  (∃ e, Resets 0x01 (.error e) w) ∨
    Then (Resets 0x01 (.ok ())) (Then (Writes imageMsg) fun v =>
      (∃ e, ReadsChipId (.error e) v) ∨
        ∃ chipId, ReadsChipId (.ok chipId) v ∧ ¬ ChipIdStable chipId) w

/-- A round that succeeds: behind an acknowledged reset the answer holds the chip id. -/
def ChipIdRead (chipId : UInt16) : List Wire → Prop :=
  Then (Resets 0x01 (.ok ())) (Then (Writes imageMsg) fun v =>
    ReadsChipId (.ok chipId) v ∧ ChipIdStable chipId)

section ChipId

variable {σ : Type} {sys : Sys σ} {L : Ledger σ Wire} {sleep : σ → σ} {fuel : Nat}

theorem emits_chipIdNops (h : sys.Kept L) :
    Emits (devWatch L) (chipIdNops sys) fun _ w => Times (Writes nopMsg) 3 w :=
  (emits_sendNop h).ignoring fun _ => (emits_sendNop h).ignoring fun _ =>
    (emits_sendNop h).ignoring fun _ => (Emits.pure ()).mono fun _ _ hw => hw.2

/-- What a round lets pass, whether it succeeds or fails. -/
theorem emits_chipIdAttempt (h : sys.Kept L) (hsleep : ∀ s, L.adds s [] (sleep s)) :
    Emits (devWatch L) (chipIdAttempt sys sleep fuel) fun r w =>
      match r with
      | .error _ => ChipIdFails w
      | .ok chipId => ChipIdRead chipId w := by
  refine Emits.mono ((emits_resetDevice h 0x01).inTurn fun _ =>
    (emits_imageModeSend h).ignoring fun _ => (emits_sleepFor hsleep).silently fun _ =>
      (emits_flushRxq h).silently fun _ => (emits_readChipId h).inTurn fun chipId =>
        Emits.lift _) ?_
  rintro r w (⟨e, rfl, hreset⟩ | ⟨_, u, _, rfl, hu, v, v', rfl, hv, hread⟩)
  · exact Or.inl ⟨e, hreset⟩
  rcases hread with ⟨e, rfl, hread⟩ | ⟨chipId, x, _, rfl, hx, rfl, rfl⟩
  · exact Or.inr ⟨u, _, rfl, hu, v, v', rfl, hv, Or.inl ⟨e, hread⟩⟩
  rw [List.append_nil]
  by_cases hstable : ChipIdStable chipId
  · rw [show (if chipId ≠ 0x0000 ∧ chipId ≠ 0xffff then Except.ok chipId
      else .error Errno.nodata) = .ok chipId from if_pos hstable]
    exact ⟨u, _, rfl, hu, v, x, rfl, hv, hx, hstable⟩
  · rw [show (if chipId ≠ 0x0000 ∧ chipId ≠ 0xffff then Except.ok chipId
      else .error Errno.nodata) = .error .nodata from if_neg hstable]
    exact Or.inr ⟨u, _, rfl, hu, v, x, rfl, hv, Or.inr ⟨chipId, hx, hstable⟩⟩

/--
**The chip id is read in at most three rounds.**

Whatever the controller answers and whenever it does, each round resets the sensor, and only
behind a reset that was acknowledged it sends the image command and asks for the chip id.
Behind each round that fails there are three empty commands.  A chip id that comes back is
the one in the answer to the last question, and none of the two that no sensor has.
-/
theorem readChipIdStable_sends :
    Emits (devWatch (wireLedger σ)) (readChipIdStable sys.wired (wiredSleep sleep) fuel)
      (Retried 3 (Then ChipIdFails (Times (Writes nopMsg) 3)) ChipIdRead) :=
  Emits.retry (emits_chipIdAttempt sys.wired_kept (wiredSleep_kept sleep))
    (emits_chipIdNops sys.wired_kept) (fun _ _ hw => hw) (fun _ _ hw => hw) 3 .nodata

end ChipId

/-- The same sensor, asleep until three seconds have passed. -/
def sleepyReply (looks : Nat) (msg : SentMsg) : List RxRecord :=
  if looks < 30 then [] else milangReply msg

/-- Its first reset is not acknowledged, and a later round reads its chip id. -/
theorem readChipIdStable_sends_sleepy :
    ∃ st', readChipIdStable (answeringSys sleepyReply).wired (wiredSleep id) 20 answeringStart =
        some (.ok 0x2208, st') ∧
      Retried 3 (Then ChipIdFails (Times (Writes nopMsg) 3)) ChipIdRead
        (.ok 0x2208 : Except Errno UInt16) st'.2.2 := by
  have hrun : (readChipIdStable (answeringSys sleepyReply).wired (wiredSleep id) 20
      answeringStart).map Prod.fst = some (.ok 0x2208) := by
    decide +kernel
  obtain ⟨⟨r, st'⟩, hst, rfl⟩ := Option.map_eq_some_iff.mp hrun
  obtain ⟨-, w, hadds, hw⟩ := readChipIdStable_sends answeringStart _ st' ⟨by decide, rfl⟩ hst
  refine ⟨st', hst, ?_⟩
  rw [show st'.2.2 = [] ++ w from hadds]
  exact hw

end Gxfp
