/-
Reading registers: `src/cmd/register_cmd.c`.

A response to REG_READ carries the value and not the register, and the call takes
the first one that comes.  When an attempt times out the request is sent again, and
the response to the first one is still on its way.

The device here is a sensor that answers every 16-bit REG_READ once and in order,
after delays that are a parameter.  `sensorRead` says what a call does with it in
terms of the requests that are outstanding alone, and `cmdReadRegU16_sensor` that the
code does exactly that.  A call takes the oldest outstanding response, whoever asked
for it: its value is the register's if and only if that request was for it.
-/
import Gxfp.Cmd.Xfer
import Gxfp.Io.Reassembly
import Gxfp.Algo.SensorCfg

namespace Gxfp

open Bytes

/-! ### The functions of `register_cmd.c` -/

def cmdRegRead : UInt8 := 0x82

/-- The five bytes that ask for `outLen` bytes of a register. -/
def regReadPayload (reg outLen : UInt16) : List UInt8 :=
  [0x00, loByte reg.toNat, hiByte reg.toNat, loByte outLen.toNat, hiByte outLen.toNat]

section Register

variable {σ : Type} (sys : Sys σ) (dev : Dev) (fuel : Nat)

/-- `gxfp_cmd_read_reg` -/
def cmdReadReg (reg outLen : UInt16) (s : σ) : Option (Except Errno (List UInt8) × Dev × σ) :=
  if outLen = 0 then some (.error .inval, dev, s)
  else
    match goodixRequestSelected sys dev fuel cmdRegRead cmdRegRead (regReadPayload reg outLen)
      mpFrameMax 3 500 selectAnyFrame s with
    | none => none
    | some (.error e, dev, s) => some (.error e, dev, s)
    | some (.ok rx, dev, s) =>
      match parseGoodixBody rx with
      | none => some (.error .badmsg, dev, s)
      | some frame =>
        if frame.payload.length < outLen.toNat then some (.error .badmsg, dev, s)
        else some (.ok (frame.payload.take outLen.toNat), dev, s)

/-- `gxfp_cmd_read_reg_u16` -/
def cmdReadRegU16 (reg : UInt16) (s : σ) : Option (Except Errno UInt16 × Dev × σ) :=
  match cmdReadReg sys dev fuel reg 2 s with
  | none => none
  | some (.error e, dev, s) => some (.error e, dev, s)
  | some (.ok buf, dev, s) => some (.ok (le16At buf 0), dev, s)

end Register

/-! ### A sensor that answers late -/

/-- A 16-bit REG_READ the sensor has taken: what it answers, and when at the earliest. -/
structure RegRequest where
  reg : UInt16
  value : UInt16
  due : Nat
  deriving DecidableEq, Repr

/--
What a sensor does that is not up to the host: how long the answer to its `n`-th
request takes, what each register then holds, and how long the `n`-th wait is held
up.  Times are milliseconds.
-/
structure RegSensor where
  delay : Nat → Nat
  value : Nat → UInt16 → UInt16
  lag : Nat → Nat

/-- Time, what is outstanding in order, and what has been read so far. -/
structure RegState where
  now : Nat
  waits : Nat
  requests : Nat
  outstanding : List RegRequest
  taken : List RegRequest
  deriving DecidableEq, Repr

/-- The register a written buffer asks 16 bits of. -/
def regReadOf (tx : List UInt8) : Option UInt16 :=
  match decodeCommand tx with
  | none => none
  | some (type, frame) =>
    if type = mpTypeCmd ∧ frame.cmd = cmdRegRead ∧
        frame.payload = regReadPayload (le16At frame.payload 1) 2 then
      some (le16At frame.payload 1)
    else none

namespace RegRequest

/-- The response to a request. -/
def frame (p : RegRequest) : GoodixFrame :=
  GoodixFrame.built cmdRegRead [loByte p.value.toNat, hiByte p.value.toNat] (by simp)

def mpFrame (p : RegRequest) : MpFrame where
  type := mpTypeCmd
  payload := p.frame.bytes
  type_valid := rfl
  payload_lt := by
    rw [GoodixFrame.length_bytes]
    show 2 + 4 < mpLenMax
    decide

theorem length_encoded (p : RegRequest) : p.mpFrame.encoded.length = 10 := by
  rw [MpFrame.length_encoded]
  show 4 + p.frame.bytes.length = 10
  rw [GoodixFrame.length_bytes]
  rfl

/-- The mailbox record the response comes in. -/
def record (p : RegRequest) : RxRecord :=
  mailboxOf p.mpFrame.encoded (by rw [p.length_encoded]; decide)

end RegRequest

namespace RegState

variable (z : RegSensor)

/-- The state after a wait of `ms` milliseconds in which nothing came. -/
def waited (s : RegState) (ms : Nat) : RegState :=
  { s with now := s.now + z.lag s.waits + ms, waits := s.waits + 1 }

/-- The state after a wait that ends when `p` is there. -/
def waitedFor (s : RegState) (p : RegRequest) : RegState :=
  { s with now := max (s.now + z.lag s.waits) p.due, waits := s.waits + 1 }

/-- The state after a request for `reg`. -/
def asked (s : RegState) (reg : UInt16) : RegState :=
  { s with
    requests := s.requests + 1
    outstanding := s.outstanding ++
      [{ reg, value := z.value s.requests reg, due := s.now + z.delay s.requests }] }

/-- The state after the oldest response has been read. -/
def took (s : RegState) (p : RegRequest) : RegState :=
  { s with outstanding := s.outstanding.tail, taken := s.taken ++ [p] }

/-- `gxfp_monotonic_ms` in this state: the clock counts nanoseconds in 64 bits. -/
def ms (s : RegState) : Int := ((UInt64.ofNat (s.now * 1000000)).toNat / 1000000 : Nat)

end RegState

/-- The sensor behind the file descriptor. -/
def sensorSys (z : RegSensor) : Sys RegState where
  poll n s :=
    match s.outstanding with
    | [] => (.timedOut, s.waited z n)
    | p :: _ =>
      if p.due ≤ s.now + z.lag s.waits + n then (.ready true false, s.waitedFor z p)
      else (.timedOut, s.waited z n)
  read s :=
    match s.outstanding with
    | [] => (.failed .again, s)
    | p :: _ => if p.due ≤ s.now then (.record p.record, s.took p) else (.failed .again, s)
  write tx s :=
    (.ok tx.length, match regReadOf tx with
      | none => s
      | some reg => s.asked z reg)
  flushRx s := (.ok (), { s with outstanding := s.outstanding.dropWhile (·.due ≤ s.now) })
  clock s := (UInt64.ofNat (s.now * 1000000), s)

/-! ### What a call does with the sensor -/

section Sensor

variable (z : RegSensor)

/-- Waiting until `deadline`: the oldest response, if it comes in time. -/
def sensorWait (deadline : Int) : Nat → RegState → Option (Option RegRequest × RegState)
  | 0, _ => none
  | fuel + 1, s =>
    let remain := deadline - s.ms
    if remain ≤ 0 then some (none, s)
    else
      match s.outstanding with
      | [] => sensorWait deadline fuel (s.waited z remain.toNat)
      | p :: _ =>
        if p.due ≤ s.now + z.lag s.waits + remain.toNat then
          some (some p, ((s.waitedFor z p).waitedFor z p).took p)
        else sensorWait deadline fuel (s.waited z remain.toNat)

/-- `n` attempts: ask, wait, and ask again. -/
def sensorAttempts (fuel : Nat) (reg : UInt16) :
    Nat → RegState → Option (Option RegRequest × RegState)
  | 0, s => some (none, s)
  | n + 1, s =>
    match sensorWait z ((s.asked z reg).ms + 500) fuel (s.asked z reg) with
    | none => none
    | some (none, s) => sensorAttempts fuel reg n s
    | some (some p, s) => some (some p, s)

/-- One call. -/
def sensorRead (fuel : Nat) (reg : UInt16) (s : RegState) : Option (Option RegRequest × RegState) :=
  sensorAttempts z fuel reg 3 s

/-- What a call returns that has taken a response, or none. -/
def readResult : Option RegRequest → Except Errno UInt16
  | none => .error .timedout
  | some p => .ok p.value

end Sensor

/-! ### The code does it -/

section Refinement

variable {z : RegSensor} {dev : Dev} {s : RegState}

theorem monotonicMs_sensor (s : RegState) : monotonicMs (sensorSys z) s = (s.ms, s) := rfl

theorem regReadOf_commandBuffer {reg seq : UInt16}
    (h : (regReadPayload reg 2).length ≤ cmdPayloadMax) :
    regReadOf (commandBuffer cmdRegRead (regReadPayload reg 2) seq h) = some reg := by
  have hsent : SentCommand cmdRegRead (regReadPayload reg 2) seq
      (commandBuffer cmdRegRead (regReadPayload reg 2) seq h) :=
    frameBuffer_sent _ _ h (GoodixFrame.protoChecksumOk_built _ _ _)
  obtain ⟨frame, hdecode, hcmd, hpayload, -⟩ := hsent.decoded
  have hreg : le16At frame.payload 1 = reg := by
    rw [hpayload]
    exact le16_split reg
  rw [regReadOf, hdecode]
  dsimp only
  rw [hreg, if_pos ⟨rfl, hcmd, hpayload⟩]

/-- **Sending the request makes it outstanding.** -/
theorem goodixSendAsync_sensor (hd : dev.Opened) (reg : UInt16) (s : RegState) :
    goodixSendAsync (sensorSys z) dev cmdRegRead (regReadPayload reg 2) s =
      (.ok (), { dev with seq16 := dev.seq16 + 1 }, s.asked z reg) := by
  have hfits : (regReadPayload reg 2).length ≤ cmdPayloadMax := by
    show 5 ≤ cmdPayloadMax
    decide
  rw [goodixSendAsync_eq hd cmdRegRead hfits]
  simp only [sensorSys, regReadOf_commandBuffer hfits, ne_eq, not_true_eq_false, if_false]

/-- **Reading when a response is there takes it.** -/
theorem devReadRecord_sensor (hd : dev.Opened) {p : RegRequest} {rest : List RegRequest}
    (hs : s.outstanding = p :: rest) (hdue : p.due ≤ s.now) :
    ∃ ts, devReadRecord (sensorSys z) dev tapCap s =
      (.ok (tapRecordOf p.mpFrame ts), (s.waitedFor z p).took p) := by
  have hmail : p.record.Mailbox := mailboxOf_mailbox _ _
  have hfrag : Fragments p.mpFrame.encoded [p.record] := .last hmail rfl
  have hlen : p.mpFrame.encoded.length ≤ mpChunkMax := by
    rw [p.length_encoded]
    decide
  have hpoll : (sensorSys z).poll 1 s = (.ready true false, s.waitedFor z p) := by
    simp only [sensorSys, hs]
    rw [if_pos (by omega)]
  have houtstanding : (s.waitedFor z p).outstanding = p :: rest := hs
  have hthere : p.due ≤ (s.waitedFor z p).now := Nat.le_max_right _ _
  have hread : readChunk (sensorSys z) (s.waitedFor z p) =
      (.ok hmail.chunk, (s.waitedFor z p).took p) := by
    simp only [readChunk, sensorSys, houtstanding, if_pos hthere]
    rw [chunkOf_record hmail.reserved hmail.chunk.len_pos hmail.chunk.len_le]
    rfl
  rw [devReadRecord_eq hd, hpoll]
  exact ⟨_, rxAssemble_single p.mpFrame hmail hfrag hlen hread⟩

theorem parseGoodixBody_frame (p : RegRequest) :
    parseGoodixBody p.frame.bytes = some p.frame.parsed := by
  have h := p.frame.parseGoodixBody_bytes []
  rwa [List.append_nil] at h

/-- The result of the transfer layer for a response that was taken, or none. -/
def waitResult : Option RegRequest → Except Errno (List UInt8)
  | none => .error .timedout
  | some p => .ok p.frame.bytes

/-- **The wait takes the oldest response or none.** -/
theorem waitLoop_sensor (hd : dev.Opened) (deadline : Int) (fuel : Nat) (s : RegState) :
    waitLoop (sensorSys z) dev cmdRegRead mpFrameMax selectAnyFrame deadline fuel s =
      (sensorWait z deadline fuel s).map fun r => (waitResult r.1, r.2) := by
  induction fuel generalizing s with
  | zero => rfl
  | succ fuel ih =>
      rw [waitLoop, monotonicMs_sensor, sensorWait]
      dsimp only
      by_cases hremain : deadline - s.ms ≤ 0
      · rw [if_pos hremain, if_pos hremain]
        rfl
      · rw [if_neg hremain, if_neg hremain, devPollReadable_eq hd, if_pos (by omega)]
        cases hs : s.outstanding with
        | nil =>
            have hpoll : (sensorSys z).poll (deadline - s.ms).toNat s =
                (.timedOut, s.waited z (deadline - s.ms).toNat) := by
              simp only [sensorSys, hs]
            rw [hpoll]
            exact ih _
        | cons p rest =>
            by_cases hdue : p.due ≤ s.now + z.lag s.waits + (deadline - s.ms).toNat
            · have hpoll : (sensorSys z).poll (deadline - s.ms).toNat s =
                  (.ready true false, s.waitedFor z p) := by
                simp only [sensorSys, hs, if_pos hdue]
              obtain ⟨ts, hread⟩ := devReadRecord_sensor (z := z) hd
                (show (s.waitedFor z p).outstanding = p :: rest from hs) (Nat.le_max_right _ _)
              have hcap : ¬ mpFrameMax < p.frame.bytes.length := by
                rw [GoodixFrame.length_bytes]
                show ¬ mpFrameMax < 2 + 4
                decide
              have hframe :
                  ¬ (¬ p.frame.parsed.valid = true ∨ p.frame.parsed.cmd ≠ cmdRegRead) := by
                rintro (h | h)
                · exact h rfl
                · exact h rfl
              have htype : ¬ (tapRecordOf p.mpFrame ts).hdr.type ≠ mpTypeCmd.toUInt32 :=
                not_not.mpr rfl
              have hparse : parseGoodixBody (tapRecordOf p.mpFrame ts).payload =
                  some p.frame.parsed := parseGoodixBody_frame p
              have hlen : ¬ mpFrameMax < (tapRecordOf p.mpFrame ts).payload.length := hcap
              rw [hpoll]
              simp only [pollReadable, hread, if_true, if_pos hdue, if_neg htype, hparse,
                if_neg hframe, selectAnyFrame, if_neg hlen]
              rfl
            · have hpoll : (sensorSys z).poll (deadline - s.ms).toNat s =
                  (.timedOut, s.waited z (deadline - s.ms).toNat) := by
                simp only [sensorSys, hs, if_neg hdue]
              rw [hpoll]
              simp only [if_neg hdue]
              exact ih _

/-- **The attempts ask, and take the oldest response or none.** -/
theorem requestAttempts_sensor (hd : dev.Opened) (fuel : Nat) (reg : UInt16) (n : Nat)
    (s : RegState) :
    (sensorAttempts z fuel reg n s = none →
      requestAttempts (sensorSys z) fuel cmdRegRead cmdRegRead (regReadPayload reg 2) mpFrameMax
        500 selectAnyFrame n dev s = none) ∧
    ∀ r s', sensorAttempts z fuel reg n s = some (r, s') →
      ∃ dev', dev'.Opened ∧
        requestAttempts (sensorSys z) fuel cmdRegRead cmdRegRead (regReadPayload reg 2) mpFrameMax
          500 selectAnyFrame n dev s = some (waitResult r, dev', s') := by
  induction n generalizing dev s with
  | zero =>
      refine ⟨fun h => absurd h (by simp [sensorAttempts]), ?_⟩
      intro r s' h
      cases h
      exact ⟨dev, hd, rfl⟩
  | succ n ih =>
      have hsent : Dev.Opened { dev with seq16 := dev.seq16 + 1 } := ⟨hd.fd, hd.rxChunk⟩
      have hwait : goodixWaitSelected (sensorSys z) { dev with seq16 := dev.seq16 + 1 } fuel
          cmdRegRead mpFrameMax 500 selectAnyFrame (s.asked z reg) =
          (sensorWait z ((s.asked z reg).ms + 500) fuel (s.asked z reg)).map
            fun r => (waitResult r.1, r.2) := by
        rw [goodixWaitSelected, if_neg (by decide), monotonicMs_sensor]
        exact waitLoop_sensor hsent _ fuel _
      rw [sensorAttempts, requestAttempts, goodixSendAsync_sensor hd]
      dsimp only
      rw [hwait]
      rcases sensorWait z ((s.asked z reg).ms + 500) fuel (s.asked z reg) with _ | ⟨_ | p, s₁⟩
      · refine ⟨fun _ => rfl, ?_⟩
        intro r s' h
        cases h
      · exact ih hsent s₁
      · refine ⟨fun h => absurd h (by simp), ?_⟩
        intro r s' h
        cases h
        exact ⟨_, hsent, rfl⟩

/-- **One call of the code is one read of the sensor.** -/
theorem cmdReadRegU16_sensor (hd : dev.Opened) (fuel : Nat) (reg : UInt16) (s : RegState) :
    (sensorRead z fuel reg s = none → cmdReadRegU16 (sensorSys z) dev fuel reg s = none) ∧
    ∀ r s', sensorRead z fuel reg s = some (r, s') →
      ∃ dev', dev'.Opened ∧
        cmdReadRegU16 (sensorSys z) dev fuel reg s = some (readResult r, dev', s') := by
  obtain ⟨hnone, hsome⟩ := requestAttempts_sensor (z := z) hd fuel reg 3 s
  have hrequest : goodixRequestSelected (sensorSys z) dev fuel cmdRegRead cmdRegRead
      (regReadPayload reg 2) mpFrameMax 3 500 selectAnyFrame s =
      requestAttempts (sensorSys z) fuel cmdRegRead cmdRegRead (regReadPayload reg 2) mpFrameMax
        500 selectAnyFrame 3 dev s := by
    rw [goodixRequestSelected, if_neg (by decide)]
    rfl
  rw [cmdReadRegU16, cmdReadReg, if_neg (by decide), hrequest]
  constructor
  · intro h
    rw [hnone h]
  · intro r s' h
    obtain ⟨dev', hdev', hrun⟩ := hsome r s' h
    refine ⟨dev', hdev', ?_⟩
    rw [hrun]
    cases r with
    | none => rfl
    | some p =>
        have hlen : ¬ p.frame.parsed.payload.length < (2 : UInt16).toNat := by
          show ¬ 2 < 2
          omega
        have hvalue : le16At (p.frame.parsed.payload.take (2 : UInt16).toNat) 0 = p.value :=
          le16_split p.value
        simp only [waitResult, parseGoodixBody_frame, if_neg hlen, hvalue, readResult]

end Refinement

/-! ### What a call takes -/

section Oldest

variable {z : RegSensor}

theorem sensorWait_takes {deadline : Int} {fuel : Nat} {s s' : RegState} {r : Option RegRequest}
    (h : sensorWait z deadline fuel s = some (r, s')) :
    (r = none ∧ s'.outstanding = s.outstanding ∧ s'.taken = s.taken) ∨
      ∃ p, r = some p ∧ s.outstanding.head? = some p ∧ s'.outstanding = s.outstanding.tail ∧
        s'.taken = s.taken ++ [p] := by
  fun_induction sensorWait z deadline fuel s with
  | case1 => cases h
  | case2 =>
      cases h
      exact Or.inl ⟨rfl, rfl, rfl⟩
  | case3 fuel s remain hremain hs ih => exact ih h
  | case4 fuel s remain hremain p rest hs hdue =>
      cases h
      refine Or.inr ⟨p, rfl, ?_, rfl, rfl⟩
      rw [hs]
      rfl
  | case5 fuel s remain hremain p rest hs hdue ih => exact ih h

/-- The register whose response comes next, once `reg` has been asked for. -/
def RegState.next (s : RegState) (reg : UInt16) : UInt16 :=
  match s.outstanding with
  | [] => reg
  | p :: _ => p.reg

theorem next_asked (s : RegState) (reg reg' : UInt16) :
    (s.asked z reg).next reg' = s.next reg := by
  cases hs : s.outstanding <;> simp [RegState.next, RegState.asked, hs]

theorem next_congr {s s' : RegState} (h : s'.outstanding = s.outstanding) (reg : UInt16) :
    s'.next reg = s.next reg := by
  rw [RegState.next, RegState.next, h]

/-- **A read takes at most one response, and it is the oldest.** -/
theorem sensorAttempts_takes {fuel n : Nat} {reg : UInt16} {s s' : RegState}
    {r : Option RegRequest} (h : sensorAttempts z fuel reg n s = some (r, s')) :
    (r = none ∧ s'.taken = s.taken) ∨
      ∃ p, r = some p ∧ p.reg = s.next reg ∧ s'.taken = s.taken ++ [p] := by
  induction n generalizing s with
  | zero =>
      cases h
      exact Or.inl ⟨rfl, rfl⟩
  | succ n ih =>
      rw [sensorAttempts] at h
      rcases hwait : sensorWait z ((s.asked z reg).ms + 500) fuel (s.asked z reg) with
        _ | ⟨r₁, s₁⟩
      · rw [hwait] at h
        cases h
      · rw [hwait] at h
        rcases sensorWait_takes hwait with ⟨rfl, hout, htaken⟩ | ⟨p, rfl, hhead, -, htaken⟩
        · rcases ih h with ⟨rfl, htaken'⟩ | ⟨p, rfl, hreg, htaken'⟩
          · exact Or.inl ⟨rfl, htaken'.trans htaken⟩
          · refine Or.inr ⟨p, rfl, ?_, ?_⟩
            · rw [hreg, next_congr hout, next_asked]
            · rw [htaken', htaken]
              rfl
        · cases h
          refine Or.inr ⟨p, rfl, ?_, htaken⟩
          rw [← next_asked (z := z) s reg reg, RegState.next]
          cases hs : (s.asked z reg).outstanding with
          | nil =>
              rw [hs] at hhead
              cases hhead
          | cons q rest =>
              rw [hs] at hhead
              cases hhead
              rfl

end Oldest

/-! ### Runs of calls -/

/-- One call of a run: what was asked, and the states around it. -/
structure RegCall where
  reg : UInt16
  before : RegState
  result : Except Errno UInt16
  after : RegState

namespace RegCall

/-- If the call returns a value, it took one response, to a request for its register. -/
def Sound (c : RegCall) : Prop :=
  ∀ v, c.result = .ok v →
    ∃ p, c.after.taken = c.before.taken ++ [p] ∧ p.reg = c.reg ∧ p.value = v

/-- The oldest response outstanding at the start, if there is one, is for the register. -/
def Matches (c : RegCall) : Prop :=
  ∀ p, c.before.outstanding.head? = some p → p.reg = c.reg

end RegCall

/-- `gxfp_cmd_read_reg_u16` for each of `regs`, one after the other. -/
def regCalls (z : RegSensor) (fuel : Nat) : List UInt16 → Dev → RegState → Option (List RegCall)
  | [], _, _ => some []
  | reg :: regs, dev, s =>
    match cmdReadRegU16 (sensorSys z) dev fuel reg s with
    | none => none
    | some (result, dev', s') =>
      match regCalls z fuel regs dev' s' with
      | none => none
      | some calls => some ({ reg, before := s, result, after := s' } :: calls)

section Runs

variable {z : RegSensor} {dev : Dev} {fuel : Nat}

theorem matches_iff_next (c : RegCall) : c.Matches ↔ c.before.next c.reg = c.reg := by
  rw [RegCall.Matches, RegState.next]
  cases c.before.outstanding with
  | nil => simp
  | cons p rest => simp

/-- **One call.**  A value is the register's exactly when the oldest response was. -/
theorem sound_of_call (hd : dev.Opened) {reg : UInt16} {s s' : RegState} {dev' : Dev}
    {result : Except Errno UInt16}
    (h : cmdReadRegU16 (sensorSys z) dev fuel reg s = some (result, dev', s')) :
    dev'.Opened ∧
      ((RegCall.mk reg s result s').Matches → (RegCall.mk reg s result s').Sound) ∧
      (∀ v, result = .ok v → (RegCall.mk reg s result s').Sound →
        (RegCall.mk reg s result s').Matches) := by
  obtain ⟨hnone, hsome⟩ := cmdReadRegU16_sensor (z := z) hd fuel reg s
  rcases hread : sensorRead z fuel reg s with _ | ⟨r, s₁⟩
  · rw [hnone hread] at h
    cases h
  · obtain ⟨dev₁, hdev₁, hcall⟩ := hsome r s₁ hread
    rw [hcall] at h
    cases h
    refine ⟨hdev₁, ?_, ?_⟩
    · intro hmatch v hv
      rcases sensorAttempts_takes hread with ⟨rfl, -⟩ | ⟨p, rfl, hreg, htaken⟩
      · cases hv
      · cases hv
        refine ⟨p, htaken, ?_, rfl⟩
        rw [hreg]
        exact (matches_iff_next _).mp hmatch
    · intro v hv hsound
      obtain ⟨q, hq, hqreg, -⟩ := hsound v hv
      rcases sensorAttempts_takes hread with ⟨rfl, -⟩ | ⟨p, rfl, hreg, htaken⟩
      · cases hv
      · have hsame : s.taken ++ [q] = s.taken ++ [p] := hq.symm.trans htaken
        have hpq : q = p := by simpa using hsame
        rw [matches_iff_next]
        exact (hreg.symm.trans (congrArg RegRequest.reg hpq.symm)).trans hqreg

/--
**A run in which the oldest response is always for the register asked returns no
value of another register; and a call that starts otherwise and returns a value
returns another's.**
-/
theorem regCalls_sound (hd : dev.Opened) (regs : List UInt16) (s : RegState)
    (calls : List RegCall) (h : regCalls z fuel regs dev s = some calls) :
    ((∀ c ∈ calls, c.Matches) → ∀ c ∈ calls, c.Sound) ∧
      ∀ c ∈ calls, ∀ v, c.result = .ok v → (c.Sound ↔ c.Matches) := by
  suffices hall : ∀ c ∈ calls, (c.Matches → c.Sound) ∧
      ∀ v, c.result = .ok v → c.Sound → c.Matches by
    refine ⟨fun hm c hc => (hall c hc).1 (hm c hc), ?_⟩
    intro c hc v hv
    exact ⟨(hall c hc).2 v hv, (hall c hc).1⟩
  induction regs generalizing dev s calls with
  | nil =>
      cases h
      intro c hc
      cases hc
  | cons reg regs ih =>
      rw [regCalls] at h
      rcases hcall : cmdReadRegU16 (sensorSys z) dev fuel reg s with _ | ⟨result, dev', s'⟩
      · rw [hcall] at h
        cases h
      · rw [hcall] at h
        dsimp only at h
        obtain ⟨hdev', hone⟩ := sound_of_call hd hcall
        rcases hrest : regCalls z fuel regs dev' s' with _ | rest
        · rw [hrest] at h
          cases h
        · rw [hrest] at h
          cases h
          intro c hc
          rcases List.mem_cons.mp hc with rfl | hc
          · exact hone
          · exact ih hdev' s' rest hrest c hc

/-- A run of two calls, from the reads of the sensor it consists of. -/
theorem regCalls_two (hd : dev.Opened) {reg₁ reg₂ : UInt16} {s s₁ s₂ : RegState}
    {r₁ r₂ : Option RegRequest} (h₁ : sensorRead z fuel reg₁ s = some (r₁, s₁))
    (h₂ : sensorRead z fuel reg₂ s₁ = some (r₂, s₂)) :
    regCalls z fuel [reg₁, reg₂] dev s =
      some [⟨reg₁, s, readResult r₁, s₁⟩, ⟨reg₂, s₁, readResult r₂, s₂⟩] := by
  obtain ⟨dev₁, hdev₁, hcall₁⟩ := (cmdReadRegU16_sensor (z := z) hd fuel reg₁ s).2 r₁ s₁ h₁
  obtain ⟨dev₂, -, hcall₂⟩ := (cmdReadRegU16_sensor (z := z) hdev₁ fuel reg₂ s₁).2 r₂ s₂ h₂
  simp only [regCalls, hcall₁, hcall₂]

end Runs

/-- A sensor whose registers hold their own number; its first answer takes `first` ms. -/
def slowSensor (first : Nat) : RegSensor where
  delay n := if n = 0 then first else 0
  value _ reg := reg
  lag _ := 0

/-- A sensor no one has asked anything yet. -/
def RegState.start : RegState := ⟨0, 0, 0, [], []⟩

theorem regCalls_sound_prompt :
    ∃ calls, regCalls (slowSensor 20) 3 [milangRegDac, milangRegTcode] ⟨3, 0, 1000, true⟩
        RegState.start = some calls ∧
      ((∀ c ∈ calls, c.Matches) → ∀ c ∈ calls, c.Sound) ∧
        ∀ c ∈ calls, ∀ v, c.result = .ok v → (c.Sound ↔ c.Matches) := by
  have hopen : Dev.Opened ⟨3, 0, 1000, true⟩ := ⟨by decide, rfl⟩
  have hdac : sensorRead (slowSensor 20) 3 milangRegDac RegState.start =
      some (some ⟨0x0220, 0x0220, 20⟩, ⟨20, 2, 1, [], [⟨0x0220, 0x0220, 20⟩]⟩) := by
    decide +kernel
  have htcode : sensorRead (slowSensor 20) 3 milangRegTcode
      ⟨20, 2, 1, [], [⟨0x0220, 0x0220, 20⟩]⟩ =
      some (some ⟨0x005C, 0x005C, 20⟩,
        ⟨20, 4, 2, [], [⟨0x0220, 0x0220, 20⟩, ⟨0x005C, 0x005C, 20⟩]⟩) := by
    decide +kernel
  have hrun := regCalls_two hopen hdac htcode
  exact ⟨_, hrun, regCalls_sound hopen _ _ _ hrun⟩

/--
**The second answer to a request that was sent twice is the next register's value.**
The first answer takes 600 ms, so DAC is asked for twice; TCODE is then read as DAC.
-/
theorem regCalls_unsound :
    ∃ calls, regCalls (slowSensor 600) 3 [milangRegDac, milangRegTcode] ⟨3, 0, 1000, true⟩
        RegState.start = some calls ∧
      ¬ ∀ c ∈ calls, c.Sound := by
  have hopen : Dev.Opened ⟨3, 0, 1000, true⟩ := ⟨by decide, rfl⟩
  have hdac : sensorRead (slowSensor 600) 3 milangRegDac RegState.start =
      some (some ⟨0x0220, 0x0220, 600⟩,
        ⟨600, 3, 2, [⟨0x0220, 0x0220, 500⟩], [⟨0x0220, 0x0220, 600⟩]⟩) := by
    decide +kernel
  have htcode : sensorRead (slowSensor 600) 3 milangRegTcode
      ⟨600, 3, 2, [⟨0x0220, 0x0220, 500⟩], [⟨0x0220, 0x0220, 600⟩]⟩ =
      some (some ⟨0x0220, 0x0220, 500⟩,
        ⟨600, 5, 3, [⟨0x005C, 0x005C, 600⟩],
          [⟨0x0220, 0x0220, 600⟩, ⟨0x0220, 0x0220, 500⟩]⟩) := by
    decide +kernel
  refine ⟨_, regCalls_two hopen hdac htcode, ?_⟩
  intro hall
  obtain ⟨p, htaken, hreg, -⟩ :=
    hall _ (List.mem_cons_of_mem _ (List.mem_singleton_self _)) 0x0220 rfl
  have hp : (⟨0x0220, 0x0220, 500⟩ : RegRequest) = p := by simpa using htaken
  rw [← hp] at hreg
  exact absurd hreg (by decide)

end Gxfp
