/-
What the session gets of the ciphertext.

Two loops read the one stream of records.  `tool_poll` feeds every TLS record to the
session, and the session takes it if its queue has room.  The wait for an acknowledgement
passes over it.  So what has been pushed is, in order, what `tool_poll` has taken while
there was room (`Fed`): every loop keeps that, turn by turn.  It is all the ciphertext
that has been taken exactly when nothing was taken in any other way.
-/
import Gxfp.Tool.Loops
import Gxfp.Flow.History
import Gxfp.Io.Reassembly
import Mathlib.Data.List.Flatten

namespace Gxfp

open Bytes

/-- `tool_poll` takes the record, and the session's queue has room for what is in it. -/
def Taken.Routed (x : Taken) : Prop :=
  x.taker = .poll ∧ ∃ n ∈ x.queued, n + x.cipher.length ≤ rxqCap

instance (x : Taken) : Decidable x.Routed := inferInstanceAs (Decidable (_ ∧ _))

/-- The ciphertext of the records that were routed. -/
def Tool.routed {σ τ : Type} (t : Tool σ τ) : List UInt8 :=
  (t.taken.filter fun x => x.Routed).flatMap Taken.cipher

/-- What has been pushed is the ciphertext that was routed. -/
def Tool.Fed {σ τ : Type} (t : Tool σ τ) : Prop := t.pushed = t.routed

/-! ### Lists -/

/-- Leaving elements out changes nothing exactly when nothing comes of those. -/
theorem flatMap_filter_eq_iff {α β : Type} (p : α → Bool) (f : α → List β) (l : List α) :
    (l.filter p).flatMap f = l.flatMap f ↔ ∀ x ∈ l, f x ≠ [] → p x = true := by
  induction l with
  | nil => simp
  | cons x l ih =>
      by_cases hp : p x = true
      · rw [List.filter_cons_of_pos hp, List.flatMap_cons, List.flatMap_cons,
          List.append_cancel_left_eq, ih, List.forall_mem_cons]
        exact (and_iff_right fun _ => hp).symm
      · rw [List.filter_cons_of_neg hp, List.flatMap_cons, List.forall_mem_cons]
        have hle : ((l.filter p).flatMap f).length ≤ (l.flatMap f).length :=
          (List.filter_sublist.flatMap f).length_le
        constructor
        · intro heq
          have hlen := congrArg List.length heq
          rw [List.length_append] at hlen
          have hnil : f x = [] := List.length_eq_zero_iff.mp (by omega)
          rw [hnil, List.nil_append] at heq
          exact ⟨fun hne => absurd hnil hne, ih.mp heq⟩
        · rintro ⟨hx, hl⟩
          have hnil : f x = [] := by
            by_contra hne
            exact hp (hx hne)
          rw [hnil, List.nil_append]
          exact ih.mpr hl

section Stream

variable {σ τ : Type} {m : Mbedtls τ} {sys : Sys σ} {t : Tool σ τ}

/-! ### One record -/

theorem connected_fed (dev : Dev) (tls : TlsSession τ) (plain : PlainSink) (fdt : FdtFlow)
    (world : σ) : (Tool.connected dev tls plain fdt world).Fed := rfl

theorem Tool.Fed.take_cons (h : t.Fed) {taker : Taker} {rec : TapRecord} :
    (t.take taker rec).routed =
      t.pushed ++ if (⟨rec, taker, (svcQueue t.tls).map List.length⟩ : Taken).Routed then
        (⟨rec, taker, (svcQueue t.tls).map List.length⟩ : Taken).cipher else [] := by
  rw [Tool.routed, Tool.take, List.filter_append, List.flatMap_append, h, Tool.routed]
  split
  · rename_i hrouted
    rw [List.filter_cons_of_pos (by simpa using hrouted)]
    simp
  · rename_i hnot
    rw [List.filter_cons_of_neg (by simpa using hnot)]
    simp

/-- A record that `tool_poll` does not feed leaves nothing to be pushed. -/
theorem Tool.Fed.take (h : t.Fed) {taker : Taker} {rec : TapRecord}
    (hx : taker = .poll → rec.hdr.type ≠ mpTypeTls.toUInt32) : (t.take taker rec).Fed := by
  rw [Tool.Fed, h.take_cons]
  split
  · rename_i hrouted
    rw [Taken.cipher, if_neg (hx hrouted.1), List.append_nil]
    rfl
  · rw [List.append_nil]
    rfl

/-- The session queues a record that there is room for, and nothing of one there is not. -/
theorem tlsSessionFeedCipher_rxq (tls : TlsSession τ) (rec : List UInt8) :
    (tlsSessionFeedCipher tls rec).2.backend.rxq =
      tls.backend.rxq ++ if tls.backend.rxq.length + rec.length ≤ rxqCap then rec else [] := by
  unfold tlsSessionFeedCipher tlsBackendFeedCipherRecord
  by_cases hfull : rxqCap < tls.backend.rxq.length + rec.length
  · have hneg : Errno.nospc.neg < 0 := by decide
    simp only [if_pos hfull, if_pos hneg]
    rw [if_neg (by omega), List.append_nil]
  · simp only [if_neg hfull, if_neg (Int.lt_irrefl 0)]
    rw [if_pos (Nat.le_of_not_lt hfull)]

/-- What is pushed of a record: all of it if there is a session with room, and else nothing. -/
theorem svcFeedCipher_growth (svc : Option (TlsSession τ)) (rec : List UInt8) :
    queueGrowth (svcQueue svc) (svcQueue (svcFeedCipher svc rec).2) =
      if ∃ n ∈ (svcQueue svc).map List.length, n + rec.length ≤ rxqCap then rec else [] := by
  rcases svc with _ | tls
  · rw [if_neg (by simp [svcQueue])]
    rfl
  have hroom : (∃ n ∈ (svcQueue (some tls)).map List.length, n + rec.length ≤ rxqCap) ↔
      tls.backend.rxq.length + rec.length ≤ rxqCap := by simp [svcQueue]
  unfold svcFeedCipher
  by_cases hempty : rec.length = 0
  · have hnil : rec = [] := List.length_eq_zero_iff.mp hempty
    subst hnil
    rw [ite_self]
    exact List.drop_length
  · simp only [if_neg hempty, hroom]
    show (tlsSessionFeedCipher tls rec).2.backend.rxq.drop tls.backend.rxq.length = _
    rw [tlsSessionFeedCipher_rxq, List.drop_left]

/-- **A TLS record that `tool_poll` takes is pushed if there is room.** -/
theorem Tool.Fed.feed (h : t.Fed) {rec : TapRecord}
    (htype : rec.hdr.type = mpTypeTls.toUInt32) :
    ((t.take .poll rec).feedCipher rec.payload).2.Fed := by
  have hcipher : (⟨rec, .poll, (svcQueue t.tls).map List.length⟩ : Taken).cipher = rec.payload :=
    if_pos htype
  show t.pushed ++ queueGrowth (svcQueue t.tls) (svcQueue (svcFeedCipher t.tls rec.payload).2) =
    (t.take .poll rec).routed
  rw [h.take_cons, svcFeedCipher_growth]
  simp only [Taken.Routed, hcipher, true_and]

theorem Tool.Fed.ackWait (h : t.Fed) (recs : List TapRecord) :
    (recs.foldl (fun t rec => t.take .ackWait rec) t).Fed := by
  induction recs generalizing t with
  | nil => exact h
  | cons rec recs ih => exact ih (h.take (by simp))

/-! ### The loops -/

theorem toolPoll_fed (h : t.Fed) (fuel : Nat) (timeoutMs : Int) (outEvents : UInt32) :
    (toolPoll sys fuel timeoutMs outEvents t).2.Fed := by
  induction fuel generalizing t timeoutMs outEvents with
  | zero => exact h
  | succ fuel ih =>
      unfold toolPoll
      rcases devPollReadable sys t.dev timeoutMs t.world with ⟨e | _, world⟩
      · cases e <;> exact h
      dsimp only
      rcases devReadRecord sys t.dev tapCap world with ⟨e | rec, read⟩
      · cases e <;> exact h
      dsimp only
      have hread : Tool.Fed { t with world := read } := h
      by_cases htype : rec.hdr.type = mpTypeTls.toUInt32
      · -- the finger detection leaves the record alone, and the session gets it
        have hnone : fdtFrame rec.hdr rec.payload = none := by
          rw [fdtFrame, if_neg]
          rw [htype]
          decide
        have hfeed := hread.feed htype
        have hfails : flowFails (.error .again) = none := rfl
        simp only [fdtFlowFeedRecord_none sys _ hnone, hfails, if_pos htype]
        rcases hcipher : (Tool.take { t with world := read } .poll rec).feedCipher rec.payload
          with ⟨r, fed⟩
        rw [hcipher] at hfeed
        by_cases hr : r < 0
        · rw [if_pos hr]
          exact hfeed
        · rw [if_neg hr]
          exact ih hfeed 0 _
      · have htake : (Tool.take { t with world := read } .poll rec).Fed := hread.take fun _ => htype
        rcases fdtFlowFeedRecord sys (Tool.take { t with world := read } .poll rec).dev
          (Tool.take { t with world := read } .poll rec).fdt rec.hdr rec.payload
          (Tool.take { t with world := read } .poll rec).world with ⟨r, events, fdt, dev, world⟩
        dsimp only
        rcases flowFails r with _ | e
        · simp only [if_neg htype, if_neg (Int.lt_irrefl 0)]
          have hflow : Tool.Fed { Tool.take { t with world := read } .poll rec with
            fdt, dev, world } := htake
          exact ih hflow 0 _
        · exact htake

theorem toolPullPlain_fed (h : t.Fed) (alloc : Nat → Nat → Bool) (fuel : Nat) :
    (toolPullPlain m alloc fuel t).2.Fed := by
  induction fuel generalizing t with
  | zero => exact h
  | succ fuel ih =>
      unfold toolPullPlain
      dsimp only
      split
      · exact ih h
      · split <;> exact h

theorem toolRemain_fed (h : t.Fed) (deadline : Int) : (toolRemain sys deadline t).2.Fed := by
  unfold toolRemain
  split <;> exact h

theorem toolDeadline_fed (h : t.Fed) (timeoutMs : Int) :
    (toolDeadline sys timeoutMs t).2.Fed := by
  unfold toolDeadline
  split <;> exact h

theorem toolWaitLoop_fed (h : t.Fed) (wanted : UInt32) (deadline : Int) (poll : Nat → Nat)
    (fuel : Nat) : (toolWaitLoop sys wanted deadline poll fuel t).2.Fed := by
  induction fuel generalizing t with
  | zero => exact h
  | succ fuel ih =>
      have hremain : (toolRemain sys deadline t).2.Fed := toolRemain_fed h deadline
      unfold toolWaitLoop
      generalize toolRemain sys deadline t = out at hremain ⊢
      rcases out with ⟨remain, t₁⟩
      dsimp only at hremain ⊢
      by_cases hexpired : remain ≤ 0
      · rw [if_pos hexpired]
        exact hremain
      rw [if_neg hexpired]
      have hpoll : (toolPoll sys (poll fuel) (min remain toolPollMs) fdtEventNone t₁).2.Fed :=
        toolPoll_fed hremain _ _ _
      generalize toolPoll sys (poll fuel) (min remain toolPollMs) fdtEventNone t₁ = out at hpoll ⊢
      rcases out with ⟨_ | ⟨r, events⟩, t₂⟩
      · exact hpoll
      dsimp only at hpoll ⊢
      split
      · exact hpoll
      · split
        · exact hpoll
        · exact ih hpoll

theorem toolCaptureLoop_fed (h : t.Fed) (alloc : Nat → Nat → Bool) (deadline : Int)
    (poll pull : Nat → Nat) (fuel : Nat) :
    (toolCaptureLoop m sys alloc deadline poll pull fuel t).2.Fed := by
  induction fuel generalizing t with
  | zero => exact h
  | succ fuel ih =>
      have hremain : (toolRemain sys deadline t).2.Fed := toolRemain_fed h deadline
      unfold toolCaptureLoop
      generalize toolRemain sys deadline t = out at hremain ⊢
      rcases out with ⟨remain, t₁⟩
      dsimp only at hremain ⊢
      by_cases hexpired : remain ≤ 0
      · rw [if_pos hexpired]
        exact hremain
      rw [if_neg hexpired]
      have hpoll : (toolPoll sys (poll fuel) (min remain toolPollMs) fdtEventNone t₁).2.Fed :=
        toolPoll_fed hremain _ _ _
      generalize toolPoll sys (poll fuel) (min remain toolPollMs) fdtEventNone t₁ = out at hpoll ⊢
      rcases out with ⟨_ | ⟨r, events⟩, t₂⟩
      · exact hpoll
      dsimp only at hpoll ⊢
      by_cases hr : r < 0
      · rw [if_pos hr]
        exact hpoll
      rw [if_neg hr]
      have hpull : (toolPullPlain m alloc (pull fuel) t₂).2.Fed := toolPullPlain_fed hpoll _ _
      generalize toolPullPlain m alloc (pull fuel) t₂ = out at hpull ⊢
      rcases out with ⟨_ | r, t₃⟩
      · exact hpull
      dsimp only at hpull ⊢
      split
      · exact hpull
      · split
        · exact hpull
        · exact ih hpull

theorem toolPovLoop_fed (h : t.Fed) (alloc : Nat → Nat → Bool) (deadline : Int)
    (poll pull : Nat → Nat) (fuel : Nat) :
    (toolPovLoop m sys alloc deadline poll pull fuel t).2.Fed := by
  induction fuel generalizing t with
  | zero => exact h
  | succ fuel ih =>
      unfold toolPovLoop
      by_cases hcount : plainMaxPovFrames ≤ t.plain.povCount
      · rw [if_pos hcount]
        exact h
      rw [if_neg hcount]
      rcases monotonicMs sys t.world with ⟨now, world⟩
      dsimp only
      by_cases hexpired : deadline ≤ now
      · rw [if_pos hexpired]
        exact h
      rw [if_neg hexpired]
      rcases monotonicMs sys world with ⟨now, world⟩
      dsimp only
      by_cases hwait : min (deadline - now) toolPollMs ≤ 0
      · rw [if_pos hwait]
        exact h
      rw [if_neg hwait]
      have hworld : Tool.Fed { t with world } := h
      have hpoll : (toolPoll sys (poll fuel) (min (deadline - now) toolPollMs) fdtEventNone
          { t with world }).2.Fed := toolPoll_fed hworld _ _ _
      generalize toolPoll sys (poll fuel) (min (deadline - now) toolPollMs) fdtEventNone
        { t with world } = out at hpoll ⊢
      rcases out with ⟨_ | ⟨r, events⟩, t₁⟩
      · exact hpoll
      dsimp only at hpoll ⊢
      by_cases hr : r < 0
      · rw [if_pos hr]
        exact hpoll
      rw [if_neg hr]
      have hpull : (toolPullPlain m alloc (pull fuel) t₁).2.Fed := toolPullPlain_fed hpoll _ _
      generalize toolPullPlain m alloc (pull fuel) t₁ = out at hpull ⊢
      rcases out with ⟨_ | r, t₂⟩
      · exact hpull
      dsimp only at hpull ⊢
      split
      · exact hpull
      · exact ih hpull

/-! ### The calls -/

theorem toolWaitFinger_fed (h : t.Fed) (present : Bool) (timeoutMs : Int) (fuel : ToolFuel) :
    (toolWaitFinger sys present timeoutMs fuel t).2.Fed := by
  unfold toolWaitFinger
  dsimp only
  split
  · exact h
  · rename_i fdt dev world hmode
    have hset : Tool.Fed { t with fdt, dev, world } := h
    exact toolWaitLoop_fed (toolDeadline_fed hset timeoutMs) _ _ _ _

theorem toolCapture_fed (h : t.Fed) (alloc : Nat → Nat → Bool) (extracts : Bool)
    (timeoutMs : Int) (fuel : ToolFuel) :
    (toolCapture m sys alloc extracts timeoutMs fuel t).2.Fed := by
  unfold toolCapture
  dsimp only
  split
  · exact h
  · rename_i dev world hsend
    have hsent : Tool.Fed { t with plain := plainSinkResetNormal t.plain, dev, world } := h
    have hdeadline : (toolDeadline sys timeoutMs
        { t with plain := plainSinkResetNormal t.plain, dev, world }).2.Fed :=
      toolDeadline_fed hsent timeoutMs
    generalize toolDeadline sys timeoutMs
      { t with plain := plainSinkResetNormal t.plain, dev, world } = out at hdeadline ⊢
    rcases out with ⟨deadline, t₁⟩
    dsimp only at hdeadline ⊢
    have hloop : (toolCaptureLoop m sys alloc deadline fuel.poll fuel.pull fuel.loop t₁).2.Fed :=
      toolCaptureLoop_fed hdeadline _ _ _ _ _
    generalize toolCaptureLoop m sys alloc deadline fuel.poll fuel.pull fuel.loop t₁ = out
      at hloop ⊢
    rcases out with ⟨_ | r, t₂⟩
    · exact hloop
    dsimp only at hloop ⊢
    split
    · exact hloop
    · exact hloop

theorem toolSleepCleanup_fed (h : t.Fed) (fuel : Nat) : (toolSleepCleanup sys fuel t).2.Fed :=
  h.ackWait (sleepCleanupTakes sys t.dev fuel t.world).1

theorem toolPovCapture_fed (h : t.Fed) (alloc : Nat → Nat → Bool) (timeoutMs : Int)
    (fuel : ToolFuel) : (toolPovCapture m sys alloc timeoutMs fuel t).2.Fed := by
  have hreset : Tool.Fed { t with plain := plainSinkResetPov t.plain } := h
  have hcleanup : (toolSleepCleanup sys fuel.wait
      { t with plain := plainSinkResetPov t.plain }).2.Fed := toolSleepCleanup_fed hreset _
  unfold toolPovCapture
  generalize toolSleepCleanup sys fuel.wait { t with plain := plainSinkResetPov t.plain } = out
    at hcleanup ⊢
  rcases out with ⟨_ | ⟨e | _⟩, t₁⟩
  · exact hcleanup
  · exact hcleanup
  · have hworld : Tool.Fed { t₁ with world := (monotonicMs sys t₁.world).2 } := hcleanup
    exact toolPovLoop_fed hworld _ _ _ _ _

theorem toolCall_fed (h : t.Fed) (c : ToolCall) : (toolCall m sys t c).2.Fed := by
  cases c with
  | waitFinger present timeoutMs fuel => exact toolWaitFinger_fed h present timeoutMs fuel
  | capture alloc extracts timeoutMs fuel =>
      exact toolCapture_fed h alloc extracts timeoutMs fuel
  | povCapture alloc timeoutMs fuel => exact toolPovCapture_fed h alloc timeoutMs fuel

/-- **However the calls follow, only what `tool_poll` takes is pushed.** -/
theorem toolRun_fed (h : t.Fed) (calls : List ToolCall) : (toolRun m sys t calls).Fed := by
  induction calls generalizing t with
  | nil => exact h
  | cons c calls ih =>
      have hcall : (toolCall m sys t c).2.Fed := toolCall_fed h c
      unfold toolRun
      generalize toolCall m sys t c = out at hcall ⊢
      rcases out with ⟨_ | r, t₁⟩
      · exact hcall
      · exact ih hcall

end Stream

/--
**The session gets the whole of the stream exactly when every record with ciphertext is taken
by `tool_poll`, and finds room in the queue.**

What has been taken is what `gxfp_dev_read_record` has returned; a frame that is lost inside
it, half read, is not among that.
-/
theorem toolRun_feedsAll_iff {σ τ : Type} (m : Mbedtls τ) (sys : Sys σ) (dev : Dev)
    (tls : TlsSession τ) (plain : PlainSink) (fdt : FdtFlow) (world : σ)
    (calls : List ToolCall) :
    (toolRun m sys (Tool.connected dev tls plain fdt world) calls).pushed =
        (toolRun m sys (Tool.connected dev tls plain fdt world) calls).taken.flatMap
          Taken.cipher ↔
      ∀ x ∈ (toolRun m sys (Tool.connected dev tls plain fdt world) calls).taken,
        x.cipher ≠ [] → x.Routed := by
  have hfed : (toolRun m sys (Tool.connected dev tls plain fdt world) calls).Fed :=
    toolRun_fed (connected_fed dev tls plain fdt world) calls
  rw [hfed, Tool.routed, flatMap_filter_eq_iff]
  simp only [decide_eq_true_eq]

/-! ### An image that comes late -/

section Queue

variable {now : List RxRecord → UInt64} {dev : Dev}

theorem devReadRecord_mailbox (now : List RxRecord → UInt64) (hd : dev.Opened) (f : MpFrame)
    (hlen : f.encoded.length ≤ rxMax) (q : List RxRecord) :
    ∃ ts, devReadRecord (queueSys now) dev tapCap (mailboxOf f.encoded hlen :: q) =
      (.ok (tapRecordOf f ts), q) :=
  devReadRecord_frame hd f (.last (mailboxOf_mailbox _ _) rfl) q

theorem goodixSendAsync_queue (hd : dev.Opened) (cmd : UInt8) {payload : List UInt8}
    (h : payload.length ≤ cmdPayloadMax) (q : List RxRecord) :
    goodixSendAsync (queueSys now) dev cmd payload q =
      (.ok (), { dev with seq16 := dev.seq16 + 1 }, q) :=
  goodixSendAsync_sent hd (fun _ _ => rfl) cmd h q

end Queue

theorem ackWait_eq {σ τ : Type} (t : Tool σ τ) (recs : List TapRecord) :
    recs.foldl (fun t rec => t.take .ackWait rec) t =
      { t with taken :=
          t.taken ++ recs.map fun rec => ⟨rec, .ackWait, (svcQueue t.tls).map List.length⟩ } := by
  induction recs generalizing t with
  | nil => simp
  | cons rec recs ih =>
      rw [List.foldl_cons, ih]
      simp [Tool.take]

theorem toolSleepCleanup_eq {σ τ : Type} {sys : Sys σ} {t : Tool σ τ} {fuel : Nat}
    {r : Except Errno Unit} {recs : List TapRecord} {dev : Dev} {world : σ}
    (hresult : cmdSleepCleanup sys t.dev fuel t.world = some (r, dev, world))
    (htakes : (sleepCleanupTakes sys t.dev fuel t.world).1 = recs) :
    toolSleepCleanup sys fuel t =
      (some r, { t with
        dev
        world
        taken :=
          t.taken ++ recs.map fun rec => ⟨rec, .ackWait, (svcQueue t.tls).map List.length⟩ }) := by
  have hleft := cmdSleepCleanup_takes hresult
  unfold toolSleepCleanup
  generalize sleepCleanupTakes sys t.dev fuel t.world = out at htakes hleft ⊢
  rcases out with ⟨recs', dev', world'⟩
  cases htakes
  cases hleft
  dsimp only
  rw [hresult, ackWait_eq]
  rfl

/-- A peer that has nothing to be read. -/
def quietPeer : Mbedtls Unit where
  setup _ := .ok ()
  sslHandshake _ rxq := (0, (), rxq)
  sslRead _ rxq _ := (sslWantRead, [], (), rxq)

def lateImage : MpFrame :=
  ⟨mpTypeTls, [0x17, 0x03, 0x03, 0x00, 0x01, 0x00], by decide, by decide⟩

theorem length_lateImage_le : lateImage.encoded.length ≤ rxMax := by decide

def cleanupAck : MpFrame :=
  ⟨mpTypeCmd, [0xB0, 0x03, 0x00, 0xD2, 0x01, 0x24], mpTypeValid_cmd, by decide⟩

def idleNotice : MpFrame := ⟨mpTypeNotice, [0x00], by decide, by decide⟩

/-- The image is there before the acknowledgement, and a notice behind it. -/
def lateRecords : List RxRecord :=
  [mailboxOf lateImage.encoded length_lateImage_le, mailboxOf cleanupAck.encoded (by decide),
    mailboxOf idleNotice.encoded (by decide)]

/-- Ten seconds have passed when there is nothing left. -/
def lateClock (q : List RxRecord) : UInt64 := if q.isEmpty then 10000000000 else 0

def lateTool : Tool (List RxRecord) Unit :=
  .connected ⟨3, 0, 1000, true⟩ ⟨.connected, 0, ⟨[], true, ()⟩⟩ .zeroed fdtFlowInit lateRecords

def lateFuel : ToolFuel := ⟨2, 2, fun _ => 2, fun _ => 1⟩

def lateCall : ToolCall := .povCapture (fun _ _ => true) 3000 lateFuel

/-- What `lateTool` is like when the wait has taken the image and the acknowledgement. -/
def lateAfter (ts₁ ts₂ : UInt64) (world : List RxRecord) (rest : List Taken) :
    Tool (List RxRecord) Unit :=
  { lateTool with
    dev := ⟨3, 1, 1000, true⟩
    plain := plainSinkResetPov .zeroed
    world
    taken := ⟨tapRecordOf lateImage ts₁, .ackWait, some 0⟩ ::
      ⟨tapRecordOf cleanupAck ts₂, .ackWait, some 0⟩ :: rest }

theorem monotonicMs_late_cons (r : RxRecord) (q : List RxRecord) :
    monotonicMs (queueSys lateClock) (r :: q) = (0, r :: q) := by
  simp [monotonicMs, queueSys, lateClock]

theorem monotonicMs_late_nil : monotonicMs (queueSys lateClock) [] = (10000, []) := by
  simp [monotonicMs, queueSys, lateClock]

/-- The wait takes two records, and does not say so. -/
theorem lateCleanup :
    ∃ ts₁ ts₂, toolSleepCleanup (queueSys lateClock) lateFuel.wait
      { lateTool with plain := plainSinkResetPov lateTool.plain } =
      (some (.ok ()), lateAfter ts₁ ts₂ [mailboxOf idleNotice.encoded (by decide)] []) := by
  have hopen : Dev.Opened ⟨3, 0, 1000, true⟩ := ⟨by decide, rfl⟩
  have hsent : Dev.Opened ⟨3, 1, 1000, true⟩ := ⟨by decide, rfl⟩
  obtain ⟨ts₁, himage⟩ := devReadRecord_mailbox lateClock hsent lateImage (by decide)
    [mailboxOf cleanupAck.encoded (by decide), mailboxOf idleNotice.encoded (by decide)]
  obtain ⟨ts₂, hack⟩ := devReadRecord_mailbox lateClock hsent cleanupAck (by decide)
    [mailboxOf idleNotice.encoded (by decide)]
  have hsend : goodixSendAsync (queueSys lateClock) ⟨3, 0, 1000, true⟩ sleepCleanupCmd
      [0x00, 0x00] lateRecords = (.ok (), ⟨3, 1, 1000, true⟩, lateRecords) :=
    goodixSendAsync_queue hopen _ (by decide) _
  have hwait : goodixWaitSelected (queueSys lateClock) ⟨3, 1, 1000, true⟩ 2 ackCmd mpFrameMax
      recoveryCmdTimeoutMs selectAnyFrame lateRecords =
        some (.ok cleanupAck.payload, [mailboxOf idleNotice.encoded (by decide)]) := by
    rw [goodixWaitSelected, if_neg (by decide)]
    unfold lateRecords
    simp only [waitLoop, monotonicMs_late_cons, devPollReadable_queue hsent, himage, hack]
    rfl
  have htakes : waitSelectedTakes (queueSys lateClock) ⟨3, 1, 1000, true⟩ 2 ackCmd mpFrameMax
      recoveryCmdTimeoutMs selectAnyFrame lateRecords =
        ([tapRecordOf lateImage ts₁, tapRecordOf cleanupAck ts₂],
          [mailboxOf idleNotice.encoded (by decide)]) := by
    rw [waitSelectedTakes, if_neg (by decide)]
    unfold lateRecords
    simp only [waitTakes, monotonicMs_late_cons, devPollReadable_queue hsent, himage, hack]
    rfl
  have hresult : cmdSleepCleanup (queueSys lateClock) lateTool.dev 2 lateTool.world =
      some (.ok (), ⟨3, 1, 1000, true⟩, [mailboxOf idleNotice.encoded (by decide)]) := by
    show cmdSleepCleanup (queueSys lateClock) ⟨3, 0, 1000, true⟩ 2 lateRecords = _
    have hack : ackResult cleanupAck.payload = .ok () := rfl
    rw [cmdSleepCleanup, cmdSendExpectAck, goodixRequestSelected, if_neg (by decide)]
    simp only [Int.zero_lt_one, if_true, Int.toNat_one, requestAttempts, hsend, hwait, hack]
  have hrecs : (sleepCleanupTakes (queueSys lateClock) lateTool.dev 2 lateTool.world).1 =
      [tapRecordOf lateImage ts₁, tapRecordOf cleanupAck ts₂] := by
    show (sleepCleanupTakes (queueSys lateClock) ⟨3, 0, 1000, true⟩ 2 lateRecords).1 = _
    simp only [sleepCleanupTakes, requestTakes, hsend, htakes, hwait]
  exact ⟨ts₁, ts₂, toolSleepCleanup_eq hresult hrecs⟩

theorem latePoll (ts₁ ts₂ : UInt64) :
    ∃ ts₃, toolPoll (queueSys lateClock) 2 toolPollMs fdtEventNone
        (lateAfter ts₁ ts₂ [mailboxOf idleNotice.encoded (by decide)] []) =
      (some (0, fdtEventNone),
        lateAfter ts₁ ts₂ [] [⟨tapRecordOf idleNotice ts₃, .poll, some 0⟩]) := by
  have hsent : Dev.Opened ⟨3, 1, 1000, true⟩ := ⟨by decide, rfl⟩
  obtain ⟨ts₃, hnotice⟩ :=
    devReadRecord_mailbox lateClock hsent idleNotice (by decide) []
  have hframe : fdtFrame (tapRecordOf idleNotice ts₃).hdr (tapRecordOf idleNotice ts₃).payload =
    none := rfl
  refine ⟨ts₃, ?_⟩
  simp only [toolPoll, lateAfter, devPollReadable_queue hsent, hnotice, Tool.take,
    fdtFlowFeedRecord_none (queueSys lateClock) _ hframe]
  rfl

/-- One turn takes the notice, and the next finds that time is up. -/
theorem latePovLoop (ts₁ ts₂ : UInt64) :
    ∃ ts₃, toolPovLoop quietPeer (queueSys lateClock) (fun _ _ => true) 3000 (fun _ => 2)
        (fun _ => 1) 2 (lateAfter ts₁ ts₂ [mailboxOf idleNotice.encoded (by decide)] []) =
      (some 0, lateAfter ts₁ ts₂ [] [⟨tapRecordOf idleNotice ts₃, .poll, some 0⟩]) := by
  obtain ⟨ts₃, hpoll⟩ := latePoll ts₁ ts₂
  refine ⟨ts₃, ?_⟩
  have hcount : ¬ plainMaxPovFrames ≤ (plainSinkResetPov PlainSink.zeroed).povCount := by decide
  have hpull : toolPullPlain quietPeer (fun _ _ => true) 1
      (lateAfter ts₁ ts₂ [] [⟨tapRecordOf idleNotice ts₃, .poll, some 0⟩]) =
        (some 0, lateAfter ts₁ ts₂ [] [⟨tapRecordOf idleNotice ts₃, .poll, some 0⟩]) := rfl
  have hwait : min ((3000 : Int) - 0) toolPollMs = toolPollMs := rfl
  have hpos : ¬ toolPollMs ≤ 0 := by decide
  unfold lateAfter at hpoll hpull ⊢
  simp only [toolPovLoop, monotonicMs_late_cons, monotonicMs_late_nil, if_neg hcount, hwait,
    if_neg hpos, hpoll, hpull]
  rfl

theorem lateCall_returns :
    ∃ ts₁ ts₂ ts₃, toolCall quietPeer (queueSys lateClock) lateTool lateCall =
      (some 0, lateAfter ts₁ ts₂ [] [⟨tapRecordOf idleNotice ts₃, .poll, some 0⟩]) := by
  obtain ⟨ts₁, ts₂, hcleanup⟩ := lateCleanup
  obtain ⟨ts₃, hloop⟩ := latePovLoop ts₁ ts₂
  refine ⟨ts₁, ts₂, ts₃, ?_⟩
  show toolPovCapture quietPeer (queueSys lateClock) (fun _ _ => true) 3000 lateFuel lateTool = _
  have hmono : monotonicMs (queueSys lateClock)
      (lateAfter ts₁ ts₂ [mailboxOf idleNotice.encoded (by decide)] []).world =
        (0, [mailboxOf idleNotice.encoded (by decide)]) := monotonicMs_late_cons _ _
  have hdeadline : (0 : Int) + (if (0 : Int) < 3000 then 3000 else 3000) = 3000 := by decide
  rw [toolPovCapture, hcleanup]
  simp only [hmono, hdeadline]
  exact hloop

/-- **An image that comes before the acknowledgement is lost, and the call returns zero.** -/
theorem toolRun_losesLateImage :
    (toolCall quietPeer (queueSys lateClock) lateTool lateCall).1 = some 0 ∧
      (toolRun quietPeer (queueSys lateClock) lateTool [lateCall]).pushed = [] ∧
      (toolRun quietPeer (queueSys lateClock) lateTool [lateCall]).taken.flatMap Taken.cipher =
        [0x17, 0x03, 0x03, 0x00, 0x01, 0x00] := by
  obtain ⟨ts₁, ts₂, ts₃, hcall⟩ := lateCall_returns
  rw [toolRun, hcall]
  exact ⟨rfl, rfl, rfl⟩

end Gxfp
