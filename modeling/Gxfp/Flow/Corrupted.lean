/-
What becomes of a command frame with one other byte.

`gxfp_parse_goodix_body` reports the bad checksum in `proto_checksum_ok`, and nobody reads
that.  The wait takes the frame as a response if its command byte says so and the selector
likes it, and the finger detection believes what it reads off it.  So such a frame is not
acted on exactly where a good frame of these bytes would not be.
-/
import Gxfp.Cmd.Wait
import Gxfp.Flow.Arming
import Gxfp.Proto.Checksum

namespace Gxfp

open Bytes Loop

/-! ### Acting on a frame -/

section Returned

variable {σ : Type} (sys : Sys σ) (dev : Dev) (expectCmd : UInt8) (fn : FrameSelectorFn)
  (rx : List UInt8) (timeoutMs : Int)

/-- A call of `gxfp_goodix_wait_selected` returns `rec` as the response. -/
def WaitReturns (s : σ) (rec : TapRecord) : Prop :=
  rx ≠ [] ∧ ∃ taken s₁ out,
    Turns (Again (waitBody sys dev expectCmd fn rx (waitDeadline sys timeoutMs s)))
      (monotonicMs sys s).2 taken s₁ ∧
    waitBody sys dev expectCmd fn rx (waitDeadline sys timeoutMs s) s₁ = .done [rec] out ∧
    out.ret = 0

variable {sys dev expectCmd fn rx timeoutMs}

/-- A wait that ends well with a frame has been for it, and has it in the buffer. -/
theorem WaitEnd.of_zero {deadline : Int} {s : σ} {rec : TapRecord} {out : WaitOut σ}
    (h : WaitEnd sys dev expectCmd fn rx deadline s [rec] out) (hret : out.ret = 0) :
    ∃ frame, Awaited expectCmd fn rec frame ∧ 0 < fn frame ∧ rec.payload.length ≤ rx.length ∧
      out.rx.take out.outRxLen = rec.payload := by
  cases h with
  | refused _ _ hsel => exact absurd hret (Int.ne_of_lt hsel)
  | tooLong _ _ _ _ =>
      have hne : Errno.msgsize.neg ≠ 0 := by decide
      exact absurd hret hne
  | taken _ hrec hsel hlen => exact ⟨_, hrec, hsel, hlen, List.take_left⟩

/-- Such a call has the bytes of the frame in the caller's buffer. -/
theorem WaitReturns.run {s : σ} {rec : TapRecord}
    (h : WaitReturns sys dev expectCmd fn rx timeoutMs s rec) (outRxLen : Nat) :
    ∃ fuel out, goodixWaitSelectedRx sys dev fuel expectCmd rx outRxLen timeoutMs fn s = some out ∧
      out.ret = 0 ∧ out.rx.take out.outRxLen = rec.payload := by
  obtain ⟨hrx, taken, s₁, out, hturns, hdone, hret⟩ := h
  have hcap : rx.length ≠ 0 := by
    rw [Ne, List.length_eq_zero_iff]
    exact hrx
  obtain ⟨fuel, hrun⟩ := run_of_turns hturns hdone
  obtain ⟨frame, -, -, -, hbytes⟩ := (waitBody_done_iff.mp hdone).of_zero hret
  refine ⟨fuel, out, ?_, hret, hbytes⟩
  unfold goodixWaitSelectedRx
  rw [if_neg hcap]
  exact hrun

end Returned

/-- The finger detection is as it was, and has nothing to report. -/
structure FdtUnmoved (flow flow' : FdtFlow) (events : UInt32) : Prop where
  state : flow'.state = flow.state
  mode : flow'.mode = flow.mode
  downTable : flow'.cmd.downTable = flow.cmd.downTable
  upTable : flow'.cmd.upTable = flow.cmd.upTable
  manualTable : flow'.cmd.manualTable = flow.cmd.manualTable
  events : events = fdtEventNone

/-- The bad checksum is found, and nothing comes of the frame in any surroundings. -/
structure NotActedOn (f : MpFrame) (expectCmd : UInt8) (fn : FrameSelectorFn) (rx : List UInt8)
    (flow : FdtFlow) : Prop where
  detected : ∃ frame, parseGoodixBody f.payload = some frame ∧
    goodixProtoChecksum frame.cmd frame.declLen frame.payload ≠ frame.protoChecksum ∧
    frame.protoChecksumOk = false
  notReturned : ∀ (σ : Type) (sys : Sys σ) (dev : Dev) (timeoutMs : Int) (s : σ) (ts : UInt64),
    ¬ WaitReturns sys dev expectCmd fn rx timeoutMs s (tapRecordOf f ts)
  notFed : ∀ (σ : Type) (sys : Sys σ) (dev : Dev) (s : σ) (ts : UInt64),
    let out := fdtFlowFeedRecord sys dev flow (tapRecordOf f ts).hdr f.payload s
    FdtUnmoved flow out.2.2.1 out.2.1

/-! ### Where a frame is taken -/

section Taken

variable {f : MpFrame} {g : GoodixFrame} {expectCmd : UInt8} {fn : FrameSelectorFn}
  {rx : List UInt8} {flow : FdtFlow}

/-- The wait has been for a frame like this, and there is room for it. -/
structure AnswersWait (f : MpFrame) (g : GoodixFrame) (expectCmd : UInt8) (fn : FrameSelectorFn)
    (rx : List UInt8) : Prop where
  type : f.type = mpTypeCmd
  cmd : g.cmd = expectCmd
  selected : 0 < fn g.parsed
  room : f.payload.length ≤ rx.length

/-- The commands whose frames the finger detection reads. -/
def FdtCommand (cmd : UInt8) : Prop :=
  cmd = cmdFdtStatus ∨ cmd = cmdFdtDown ∨ cmd = cmdFdtMode ∨ cmd = cmdFdtUp

instance (cmd : UInt8) : Decidable (FdtCommand cmd) := inferInstanceAs (Decidable (_ ∨ _ ∨ _ ∨ _))

/-- The frame says something of the finger, whatever its base values. -/
structure ReportsFinger (f : MpFrame) (g : GoodixFrame) : Prop where
  type : f.type = mpTypeCmd ∨ f.type = mpTypeNotice
  cmd : FdtCommand g.cmd
  status : 2 ≤ g.payload.length
  decides : g.parsed.FdtDecides

/-- Any bytes can come through the mailbox. -/
theorem exists_fragments (bytes : List UInt8) : ∃ recs, Fragments bytes recs := by
  induction hn : bytes.length using Nat.strong_induction_on generalizing bytes with
  | _ n ih =>
    by_cases hlen : mpChunkMax < bytes.length
    · have hwindow : (bytes.take mpChunkMax).length = mpChunkMax := by
        rw [List.length_take]
        omega
      have hpos : 0 < mpChunkMax := by decide
      have hshorter : (bytes.drop mpChunkMax).length < n := by
        rw [List.length_drop]
        omega
      obtain ⟨recs, hrecs⟩ := ih _ hshorter _ rfl
      have hfits : (bytes.take mpChunkMax).length ≤ rxMax := by
        rw [hwindow]
        decide
      refine ⟨mailboxOf _ hfits :: recs, .more (mailboxOf_mailbox _ _) hlen ?_ hrecs⟩
      have hfull : rxMax - (bytes.take mpChunkMax).length = 0 := by
        rw [hwindow]
        rfl
      show bytes.take mpChunkMax ++ zeros (rxMax - (bytes.take mpChunkMax).length) = _
      rw [hfull]
      exact List.append_nil _
    · have hfits : bytes.length ≤ rxMax := Nat.le_trans (Nat.not_lt.mp hlen) (by decide)
      exact ⟨[mailboxOf bytes hfits], .last (mailboxOf_mailbox _ _) rfl⟩

theorem parse_delivered (hg : g.bytes = f.payload) : parseGoodixBody f.payload = some g.parsed := by
  have hparse := g.parseGoodixBody_bytes []
  rwa [List.append_nil, hg] at hparse

theorem hdr_type_iff (ts : UInt64) (type : UInt8) :
    (tapRecordOf f ts).hdr.type = type.toUInt32 ↔ f.type = type := by
  show f.type.toUInt32 = type.toUInt32 ↔ _
  exact UInt8.toUInt32_inj

/-- The wait is for this frame as far as it is for its command and the selector. -/
theorem awaited_delivered (hg : g.bytes = f.payload) (ts : UInt64) (frame : FrameParsed) :
    Awaited expectCmd fn (tapRecordOf f ts) frame ↔
      frame = g.parsed ∧ f.type = mpTypeCmd ∧ g.cmd = expectCmd ∧ fn g.parsed ≠ 0 := by
  constructor
  · rintro ⟨htype, hparse, -, hcmd, hsel⟩
    obtain rfl : g.parsed = frame := Option.some.inj ((parse_delivered hg).symm.trans hparse)
    exact ⟨rfl, (hdr_type_iff ts _).mp htype, hcmd, hsel⟩
  · rintro ⟨rfl, htype, hcmd, hsel⟩
    exact ⟨(hdr_type_iff ts _).mpr htype, parse_delivered hg, rfl, hcmd, hsel⟩

/-- **In some surroundings the wait returns the frame exactly if it was for one like it.** -/
theorem waitReturns_iff (hg : g.bytes = f.payload) :
    (∃ (σ : Type) (sys : Sys σ) (dev : Dev) (timeoutMs : Int) (s : σ) (ts : UInt64),
      WaitReturns sys dev expectCmd fn rx timeoutMs s (tapRecordOf f ts)) ↔
    AnswersWait f g expectCmd fn rx := by
  constructor
  · rintro ⟨σ, sys, dev, timeoutMs, s, ts, -, taken, s₁, out, -, hdone, hret⟩
    obtain ⟨frame, hawaited, hsel, hroom, -⟩ := (waitBody_done_iff.mp hdone).of_zero hret
    obtain ⟨rfl, htype, hcmd, -⟩ := (awaited_delivered hg ts frame).mp hawaited
    exact ⟨htype, hcmd, hsel, hroom⟩
  · intro h
    -- the frame is the only thing on the queue, and the clock stands still
    obtain ⟨recs, hrecs⟩ := exists_fragments f.encoded
    have hopen : Dev.Opened ⟨3, 0, 1000, true⟩ := ⟨by decide, rfl⟩
    have htime : (monotonicMs (queueSys fun _ => 0) (recs ++ [])).1 <
        waitDeadline (queueSys fun _ => 0) 500 (recs ++ []) := by
      simp [waitDeadline, monotonicMs_stopped]
    obtain ⟨ts, hreceive⟩ := waitReceive_frame hopen hrecs [] htime
    have hawaited : Awaited expectCmd fn (tapRecordOf f ts) g.parsed :=
      (awaited_delivered hg ts _).mpr ⟨rfl, h.type, h.cmd, Int.ne_of_gt h.selected⟩
    have hrx : rx ≠ [] := by
      rintro rfl
      have hlen : f.payload.length ≤ 0 := h.room
      rw [← hg, GoodixFrame.length_bytes] at hlen
      omega
    have hend : WaitEnd (queueSys fun _ => 0) ⟨3, 0, 1000, true⟩ expectCmd fn rx
        (waitDeadline (queueSys fun _ => 0) 500 (recs ++ [])) (recs ++ []) [tapRecordOf f ts] _ :=
      .taken hreceive hawaited h.selected h.room
    exact ⟨_, queueSys fun _ => 0, ⟨3, 0, 1000, true⟩, 500, recs ++ [], ts, hrx, [], _, _, .nil,
      waitBody_done_iff.mpr hend, rfl⟩

/-- A frame that decides has something to report, if only that its base is bad. -/
theorem FrameParsed.fdtEvents_ne_none (frame : FrameParsed) (h : frame.FdtDecides) :
    frame.fdtEvents ≠ fdtEventNone := by
  unfold FrameParsed.fdtEvents
  by_cases hbase : frame.FdtBase
  · rw [if_neg fun hbad => hbad.2 hbase]
    rcases fdtStatusToEvents_cases h with ⟨-, heq⟩ | ⟨-, heq⟩ | ⟨-, heq⟩ <;> rw [heq] <;> decide
  · rw [if_pos ⟨h, hbase⟩]
    decide

/-- The finger detection reads exactly its own commands off a delivered frame. -/
theorem fdtFrame_delivered (hg : g.bytes = f.payload) (ts : UInt64) :
    fdtFrame (tapRecordOf f ts).hdr f.payload =
      if (f.type = mpTypeCmd ∨ f.type = mpTypeNotice) ∧ 2 ≤ g.payload.length ∧ FdtCommand g.cmd
      then some g.parsed else none := by
  unfold fdtFrame
  simp only [hdr_type_iff]
  rw [parse_delivered hg]
  by_cases htype : f.type = mpTypeCmd ∨ f.type = mpTypeNotice
  case neg => rw [if_neg htype, if_neg fun h => htype h.1]
  rw [if_pos htype, Option.filter_some]
  have hread : (2 ≤ g.payload.length && (g.cmd == cmdFdtStatus || g.cmd == cmdFdtDown ||
      g.cmd == cmdFdtMode || g.cmd == cmdFdtUp)) = true ↔
      2 ≤ g.payload.length ∧ FdtCommand g.cmd := by
    simp [FdtCommand, or_assoc]
  by_cases hcan : 2 ≤ g.payload.length ∧ FdtCommand g.cmd
  · exact (if_pos (hread.mpr hcan)).trans (if_pos (And.intro htype hcan)).symm
  · exact (if_neg fun h => hcan (hread.mp h)).trans (if_neg fun h => hcan h.2).symm

/-- **In some surroundings the finger detection moves exactly if the frame reports.** -/
theorem fdtUnmoved_iff (hg : g.bytes = f.payload) (hflow : flow.Live) :
    (∀ (σ : Type) (sys : Sys σ) (dev : Dev) (s : σ) (ts : UInt64),
      let out := fdtFlowFeedRecord sys dev flow (tapRecordOf f ts).hdr f.payload s
      FdtUnmoved flow out.2.2.1 out.2.1) ↔
    ¬ ReportsFinger f g := by
  constructor
  · intro h hreports
    -- the events of a frame that reports are none only if a command fails to go out
    have hframe := fdtFrame_delivered hg 0
    rw [if_pos ⟨hreports.type, hreports.status, hreports.cmd⟩] at hframe
    have hwrite : ∀ b s, silentSys.write b s = (.ok b.length, s) := fun _ _ => rfl
    have hopen : Dev.Opened ⟨3, 0, 1000, true⟩ := ⟨by decide, rfl⟩
    obtain ⟨r, flow', dev', hfed, -⟩ :=
      fdtFlowFeedRecord_sent hwrite hopen hflow (tapRecordOf f 0).hdr f.payload ()
    have hevents := (h Unit silentSys ⟨3, 0, 1000, true⟩ () 0).events
    rw [hfed] at hevents
    have hsome : fdtRecordEvents (tapRecordOf f 0).hdr f.payload ≠ fdtEventNone := by
      unfold fdtRecordEvents
      rw [hframe]
      exact g.parsed.fdtEvents_ne_none hreports.decides
    exact hsome hevents
  · intro hsilent σ sys dev s ts
    have hframe := fdtFrame_delivered hg ts
    by_cases hread : (f.type = mpTypeCmd ∨ f.type = mpTypeNotice) ∧ 2 ≤ g.payload.length ∧
        FdtCommand g.cmd
    · rw [if_pos hread] at hframe
      have hother : ¬ g.parsed.FdtDecides := fun hdecides =>
        hsilent ⟨hread.1, hread.2.2, hread.2.1, hdecides⟩
      rw [fdtFlowFeedRecord_other sys dev hframe hflow.padded hother]
      exact ⟨rfl, rfl, rfl, rfl, rfl, rfl⟩
    · rw [if_neg hread] at hframe
      rw [fdtFlowFeedRecord_none sys dev hframe]
      exact ⟨rfl, rfl, rfl, rfl, rfl, rfl⟩

end Taken

/-! ### One other byte -/

section OneByte

variable {cmd : UInt8} {payload sent : List UInt8} {cap : Nat} {f : MpFrame} {flow : FdtFlow}

/--
**A frame with one other byte is acted on like any frame.**

Whatever byte of a built frame has changed, bar those of the length, the bytes are a frame
again and its checksum is found to be wrong.  Nothing comes of the frame exactly if no wait
is for a frame like this and it reports nothing to the finger detection.
-/
theorem notActedOn_iff (hbuild : goodixBuildFrame cmd payload cap = .ok sent)
    (hoff : OneByteOff sent f.payload) (hflow : flow.Live) (expectCmd : UInt8)
    (fn : FrameSelectorFn) (rx : List UInt8) :
    ∃ g : GoodixFrame, g.bytes = f.payload ∧
      (NotActedOn f expectCmd fn rx flow ↔
        ¬ AnswersWait f g expectCmd fn rx ∧ ¬ ReportsFinger f g) := by
  obtain ⟨hle, rfl⟩ := goodixBuildFrame_inv hbuild
  obtain ⟨g, hg, -⟩ := hoff.frame
  have hbad : g.parsed.protoChecksumOk = false := by
    rw [← hg] at hoff
    exact hoff.detected (GoodixFrame.protoChecksumOk_built cmd payload hle)
  refine ⟨g, hg, ?_⟩
  constructor
  · intro h
    refine ⟨fun hanswers => ?_, (fdtUnmoved_iff hg hflow).mp h.notFed⟩
    obtain ⟨σ, sys, dev, timeoutMs, s, ts, hreturns⟩ := (waitReturns_iff hg).mpr hanswers
    exact h.notReturned σ sys dev timeoutMs s ts hreturns
  · rintro ⟨hanswers, hreports⟩
    refine ⟨⟨g.parsed, parse_delivered hg, beq_eq_false_iff_ne.mp hbad, hbad⟩, ?_,
      (fdtUnmoved_iff hg hflow).mpr hreports⟩
    intro σ sys dev timeoutMs s ts hreturns
    exact hanswers ((waitReturns_iff hg).mp ⟨σ, sys, dev, timeoutMs, s, ts, hreturns⟩)

end OneByte

/-- An acknowledgement with a bad checksum byte, where the wait is for a version. -/
def badAck : MpFrame where
  type := mpTypeCmd
  payload := [0xB0, 0x03, 0x00, 0xD2, 0x01, 0x25]
  type_valid := mpTypeValid_cmd
  payload_lt := Nat.le_of_ble_eq_true rfl

theorem notActedOn_iff_badAck : NotActedOn badAck 0xA8 (fun _ => 1) (zeros 64) fdtFlowInit := by
  have hoff : OneByteOff ackPayload badAck.payload := ⟨5, by decide, 0x25, by decide⟩
  have hbuild : goodixBuildFrame 0xB0 [0xD2, 0x01] 64 = .ok ackPayload := rfl
  obtain ⟨g, hg, hiff⟩ :=
    notActedOn_iff hbuild hoff fdtFlowInit_live 0xA8 (fun _ => 1) (zeros 64)
  have hcmd : g.cmd = 0xB0 := (List.cons.inj hg).1
  refine hiff.mpr ⟨fun h => ?_, fun h => ?_⟩
  · have hother := h.cmd
    rw [hcmd] at hother
    cases hother
  · have hother := h.cmd
    rw [hcmd] at hother
    exact absurd hother (by decide)

/-- A report of nothing in which the status has become that of a touch. -/
def badReport : MpFrame where
  type := mpTypeCmd
  payload := [0xDA, 0x07, 0x00, 0x02, 0x00, 0x00, 0x00, 0x40, 0x00, 0x89]
  type_valid := mpTypeValid_cmd
  payload_lt := Nat.le_of_ble_eq_true rfl

/-- The finger detection takes it for a touch. -/
theorem notActedOn_badReport :
    ∃ sent, goodixBuildFrame 0xDA [0x00, 0x00, 0x00, 0x00, 0x40, 0x00] 64 = .ok sent ∧
      OneByteOff sent badReport.payload ∧
      (let out := fdtFlowFeedRecord silentSys ⟨3, 0, 1000, true⟩ fdtFlowInit
        (tapRecordOf badReport 0).hdr badReport.payload ()
      out.2.1 = fdtEventDown ∧ out.2.2.1.state = .down) ∧
      ¬ NotActedOn badReport 0xA8 (fun _ => 1) (zeros 64) fdtFlowInit := by
  refine ⟨_, rfl, ⟨3, by decide, 0x02, by decide⟩, by decide +kernel, fun h => ?_⟩
  have hevents := (h.notFed Unit silentSys ⟨3, 0, 1000, true⟩ () 0).events
  revert hevents
  decide +kernel

end Gxfp
