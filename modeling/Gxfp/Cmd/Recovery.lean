/-
Commands that wait for an acknowledgement: `src/cmd/device_recovery_cmd.c`.

`gxfp_goodix_wait_selected` passes over everything that is not the frame it waits for,
and what it has passed over is gone.  `waitTakes` says which records these are: it goes
the way of `waitLoop`, and keeps the records instead of the result.
-/
import Gxfp.Cmd.Xfer

namespace Gxfp

open Bytes

def ackCmd : UInt8 := 0xB0
def sleepCleanupCmd : UInt8 := 0xD2

def recoveryCmdTimeoutMs : Int := 500

/-- `gxfp_cmd_send_expect_ack`, behind the request. -/
def ackResult (rx : List UInt8) : Except Errno Unit :=
  match parseGoodixBody rx with
  | none => .error .badmsg
  | some frame =>
    if ¬ frame.valid then .error .badmsg
    else if frame.cmd ≠ ackCmd then .error .badmsg
    else .ok ()

section Recovery

variable {σ : Type} (sys : Sys σ) (dev : Dev) (fuel : Nat)

/-- `gxfp_cmd_send_expect_ack` -/
def cmdSendExpectAck (cmd : UInt8) (payload : List UInt8) (tries timeoutMs : Int) (s : σ) :
    Option (Except Errno Unit × Dev × σ) :=
  match goodixRequestSelected sys dev fuel cmd ackCmd payload mpFrameMax tries timeoutMs
    selectAnyFrame s with
  | none => none
  | some (.error e, dev, s) => some (.error e, dev, s)
  | some (.ok rx, dev, s) => some (ackResult rx, dev, s)

/-- `gxfp_cmd_sleep_cleanup` -/
def cmdSleepCleanup (s : σ) : Option (Except Errno Unit × Dev × σ) :=
  cmdSendExpectAck sys dev fuel sleepCleanupCmd [0x00, 0x00] 1 recoveryCmdTimeoutMs s

end Recovery

/-! ### What a wait takes -/

/-- The wait passes over a record. -/
def waitSkips (expectCmd : UInt8) (fn : FrameSelector) (rec : TapRecord) : Bool :=
  if rec.hdr.type ≠ mpTypeCmd.toUInt32 then true
  else
    match parseGoodixBody rec.payload with
    | none => true
    | some frame =>
      if ¬ frame.valid ∨ frame.cmd ≠ expectCmd then true
      else
        match fn frame with
        | .ok false => true
        | _ => false

section Takes

variable {σ : Type} (sys : Sys σ) (dev : Dev)

/-- The records that `waitLoop` takes, in order, and what it leaves. -/
def waitTakes (expectCmd : UInt8) (fn : FrameSelector) (deadline : Int) :
    Nat → σ → List TapRecord × σ
  | 0, s => ([], s)
  | fuel + 1, s =>
    let (now, s) := monotonicMs sys s
    let remain := deadline - now
    if remain ≤ 0 then ([], s)
    else
      match devPollReadable sys dev remain s with
      | (.error .again, s) => waitTakes expectCmd fn deadline fuel s
      | (.error _, s) => ([], s)
      | (.ok (), s) =>
        match devReadRecord sys dev tapCap s with
        | (.error .again, s) => waitTakes expectCmd fn deadline fuel s
        | (.error _, s) => ([], s)
        | (.ok rec, s) =>
          if waitSkips expectCmd fn rec then
            let (recs, s) := waitTakes expectCmd fn deadline fuel s
            (rec :: recs, s)
          else ([rec], s)

/-- The records that `gxfp_goodix_wait_selected` takes. -/
def waitSelectedTakes (fuel : Nat) (expectCmd : UInt8) (rxCap : Nat) (timeoutMs : Int)
    (selector : FrameSelector) (s : σ) : List TapRecord × σ :=
  if rxCap = 0 then ([], s)
  else
    let (now, s) := monotonicMs sys s
    let deadline := now + (if 0 < timeoutMs then timeoutMs else 1000)
    waitTakes sys dev expectCmd selector deadline fuel s

/-- The records that the attempts of `gxfp_goodix_request_selected` take. -/
def requestTakes (fuel : Nat) (reqCmd expectCmd : UInt8) (payload : List UInt8) (rxCap : Nat)
    (timeoutMs : Int) (selector : FrameSelector) : Nat → Dev → σ → List TapRecord × Dev × σ
  | 0, dev, s => ([], dev, s)
  | n + 1, dev, s =>
    match goodixSendAsync sys dev reqCmd payload s with
    | (.error _, dev, s) => ([], dev, s)
    | (.ok (), dev, s) =>
      let (recs, t) := waitSelectedTakes sys dev fuel expectCmd rxCap timeoutMs selector s
      match goodixWaitSelected sys dev fuel expectCmd rxCap timeoutMs selector s with
      | some (.error .timedout, _) =>
        let (more, dev, t) :=
          requestTakes fuel reqCmd expectCmd payload rxCap timeoutMs selector n dev t
        (recs ++ more, dev, t)
      | _ => (recs, dev, t)

/-- The records that `gxfp_cmd_sleep_cleanup` takes, and what it leaves. -/
def sleepCleanupTakes (fuel : Nat) (s : σ) : List TapRecord × Dev × σ :=
  requestTakes sys fuel sleepCleanupCmd ackCmd [0x00, 0x00] mpFrameMax recoveryCmdTimeoutMs
    selectAnyFrame 1 dev s

variable {sys dev} {expectCmd : UInt8} {fn : FrameSelector}

variable (expectCmd fn) in
/-- A record that is passed over leads to the next turn, and any other one ends the wait. -/
theorem waitRecord_cases (rxCap : Nat) (next : σ → Option (Except Errno (List UInt8) × σ))
    (rec : TapRecord) (s : σ) :
    (waitSkips expectCmd fn rec = true ∧ waitRecord expectCmd rxCap fn next rec s = next s) ∨
      (waitSkips expectCmd fn rec = false ∧
        ∃ r, waitRecord expectCmd rxCap fn next rec s = some (r, s)) := by
  unfold waitSkips waitRecord
  by_cases htype : rec.hdr.type ≠ mpTypeCmd.toUInt32
  · rw [if_pos htype, if_pos htype]
    exact Or.inl ⟨rfl, rfl⟩
  rw [if_neg htype, if_neg htype]
  rcases parseGoodixBody rec.payload with _ | frame
  · exact Or.inl ⟨rfl, rfl⟩
  dsimp only
  by_cases hcmd : ¬ frame.valid ∨ frame.cmd ≠ expectCmd
  · rw [if_pos hcmd, if_pos hcmd]
    exact Or.inl ⟨rfl, rfl⟩
  rw [if_neg hcmd, if_neg hcmd]
  rcases fn frame with e | _ | _
  · exact Or.inr ⟨rfl, _, rfl⟩
  · exact Or.inl ⟨rfl, rfl⟩
  · by_cases hlen : rxCap < rec.payload.length
    · exact Or.inr ⟨rfl, _, if_pos hlen⟩
    · exact Or.inr ⟨rfl, _, if_neg hlen⟩

/-- **The records are those of the loop: both leave the same.** -/
theorem waitLoop_takes {rxCap : Nat} {deadline : Int} {fuel : Nat} {s s' : σ}
    {r : Except Errno (List UInt8)}
    (h : waitLoop sys dev expectCmd rxCap fn deadline fuel s = some (r, s')) :
    (waitTakes sys dev expectCmd fn deadline fuel s).2 = s' := by
  induction fuel generalizing s with
  | zero => simp [waitLoop] at h
  | succ fuel ih =>
      rw [waitLoop_succ] at h
      simp only [waitTakes]
      by_cases hremain : deadline - (monotonicMs sys s).1 ≤ 0
      · rw [if_pos hremain] at h ⊢
        cases h
        rfl
      rw [if_neg hremain] at h ⊢
      rcases hpoll : devPollReadable sys dev (deadline - (monotonicMs sys s).1)
        (monotonicMs sys s).2 with ⟨e | _, s₁⟩
      · rw [hpoll] at h
        cases e <;> first | exact ih h | (cases h; rfl)
      rw [hpoll] at h
      dsimp only at h ⊢
      rcases hread : devReadRecord sys dev tapCap s₁ with ⟨e | rec, s₂⟩
      · rw [hread] at h
        cases e <;> first | exact ih h | (cases h; rfl)
      rw [hread] at h
      dsimp only at h ⊢
      rcases waitRecord_cases expectCmd fn rxCap
        (waitLoop sys dev expectCmd rxCap fn deadline fuel) rec s₂ with
        ⟨hskips, hnext⟩ | ⟨hskips, r', hend⟩
      · rw [hnext] at h
        rw [if_pos hskips]
        exact ih h
      · rw [hend] at h
        cases h
        rw [if_neg (by simp [hskips])]

theorem goodixWaitSelected_takes {fuel : Nat} {rxCap : Nat} {timeoutMs : Int} {s s' : σ}
    {r : Except Errno (List UInt8)}
    (h : goodixWaitSelected sys dev fuel expectCmd rxCap timeoutMs fn s = some (r, s')) :
    (waitSelectedTakes sys dev fuel expectCmd rxCap timeoutMs fn s).2 = s' := by
  unfold goodixWaitSelected at h
  unfold waitSelectedTakes
  by_cases hcap : rxCap = 0
  · rw [if_pos hcap] at h ⊢
    cases h
    rfl
  · rw [if_neg hcap] at h ⊢
    exact waitLoop_takes h

theorem requestAttempts_takes {fuel : Nat} {reqCmd : UInt8} {payload : List UInt8} {rxCap : Nat}
    {timeoutMs : Int} {n : Nat} {dev dev' : Dev} {s s' : σ} {r : Except Errno (List UInt8)}
    (h : requestAttempts sys fuel reqCmd expectCmd payload rxCap timeoutMs fn n dev s =
      some (r, dev', s')) :
    (requestTakes sys fuel reqCmd expectCmd payload rxCap timeoutMs fn n dev s).2 =
      (dev', s') := by
  induction n generalizing dev s with
  | zero =>
      cases h
      rfl
  | succ n ih =>
      unfold requestAttempts at h
      unfold requestTakes
      rcases hsend : goodixSendAsync sys dev reqCmd payload s with ⟨e | _, dev₁, s₁⟩
      · rw [hsend] at h
        cases h
        rfl
      rw [hsend] at h
      dsimp only at h ⊢
      rcases hwait : goodixWaitSelected sys dev₁ fuel expectCmd rxCap timeoutMs fn s₁
        with _ | ⟨r₁, s₂⟩
      · rw [hwait] at h
        cases h
      have htakes := goodixWaitSelected_takes hwait
      rw [hwait] at h
      rcases r₁ with e | response
      · cases e
        case timedout =>
          dsimp only at h ⊢
          rw [htakes]
          exact ih h
        all_goals
          cases h
          exact congrArg (Prod.mk _) htakes
      · cases h
        exact congrArg (Prod.mk _) htakes

/-- **The records are those of the command: it leaves what they leave.** -/
theorem cmdSleepCleanup_takes {fuel : Nat} {dev' : Dev} {s s' : σ} {r : Except Errno Unit}
    (h : cmdSleepCleanup sys dev fuel s = some (r, dev', s')) :
    (sleepCleanupTakes sys dev fuel s).2 = (dev', s') := by
  unfold cmdSleepCleanup cmdSendExpectAck at h
  split at h
  · cases h
  · rename_i e dev₁ s₁ hrequest
    cases h
    exact requestAttempts_takes hrequest
  · rename_i rx dev₁ s₁ hrequest
    cases h
    exact requestAttempts_takes hrequest

end Takes

end Gxfp
