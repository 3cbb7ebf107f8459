/-
A command and what comes back for it, as both pass over the file descriptor.

The functions under `src/cmd/` are programs on the device and on whatever is behind its
file descriptor.  Each of them sends one command, some of them more than once: a request
that is not answered in time is repeated.  `Request` is the word of such a request.  The
command goes out at most so often; either none of the frames that are received behind it is
an answer and the request fails, or the first that is one is behind the last command, and
what comes back is made of it.  Which of the two has happened can be seen in what has passed:
`Request.unique` says that the same events do not allow for another result.

Nothing else in a command writes: a wait only reads, and what it reads it either passes
over or returns.
-/
import Gxfp.Cmd.Recovery
import Gxfp.Io.Wire

namespace Gxfp

open Bytes Trace

/-! ### Commands as they are decoded -/

/-- A Goodix frame as the controller gets it, with the channel it came on. -/
structure SentMsg where
  type : UInt8
  cmd : UInt8
  payload : List UInt8
  checksumOk : Bool
  deriving DecidableEq, Repr

/-- What the controller decodes from a buffer. -/
def readMsg (tx : List UInt8) : Option SentMsg :=
  (decodeCommand tx).map fun decoded =>
    ⟨decoded.1, decoded.2.cmd, decoded.2.payload, decoded.2.protoChecksumOk⟩

/-- A command on the command channel. -/
def command (cmd : UInt8) (payload : List UInt8) : Option SentMsg :=
  some ⟨mpTypeCmd, cmd, payload, true⟩

/-- **Any frame that fits is decoded as what it is**, its checksum looked at. -/
theorem readMsg_frameBuffer (frame : GoodixFrame) (seq : UInt16)
    (h : frame.payload.length ≤ cmdPayloadMax) :
    readMsg (frameBuffer frame seq) =
      some ⟨mpTypeCmd, frame.cmd, frame.payload, frame.parsed.protoChecksumOk⟩ := by
  have hfits : frame.payload.length ≤ 496 := h
  have hlen : frame.bytes.length = frame.payload.length + 4 := frame.length_bytes
  have htype : mpTypeValid mpTypeCmd = true := rfl
  have hlt : frame.bytes.length < mpLenMax := by
    rw [hlen]
    exact Nat.lt_of_le_of_lt (Nat.add_le_add_right hfits 4) (by decide)
  obtain ⟨mpLen, hhead, htoNat⟩ := mpCheckHead_mpHead htype hlt frame.bytes
  have hsmall : (mpHead mpTypeCmd frame.bytes.length ++ frame.bytes).length < 65536 := by
    rw [List.length_append, length_mpHead, hlen]
    omega
  have hbody : ((mpHead mpTypeCmd frame.bytes.length ++ frame.bytes).drop 4).take mpLen.toNat =
      frame.bytes ++ [] := by
    rw [htoNat, List.append_nil]
    exact List.take_length
  have hnibble : (mpHead mpTypeCmd frame.bytes.length ++ frame.bytes).getD 0 0 >>> 4 =
      mpTypeCmd := mpType_nibble htype
  unfold frameBuffer readMsg
  simp only [decodeCommand, unwrap_wrapped hsmall, hhead, hbody, frame.parseGoodixBody_bytes,
    hnibble]
  rfl

/-! ### Programs that send and wait -/

/-- A function of `src/cmd/`, on the device and what is behind it. -/
abbrev CmdProg (σ α : Type) := Prog Errno (Dev × σ) α

section Programs

variable {σ : Type} (sys : Sys σ) (fuel : Nat)

/-- `gxfp_goodix_send_async`, as a program. -/
def send (cmd : UInt8) (payload : List UInt8) : CmdProg σ Unit := fun st =>
  some (goodixSendAsync sys st.1 cmd payload st.2)

/-- `gxfp_dev_send_packet` on the command channel, as a program. -/
def sendPacket (payload : List UInt8) : CmdProg σ Unit := fun st =>
  some (devSendPacket sys st.1 mpTypeCmd payload st.2)

/-- `gxfp_goodix_wait_selected` without a selector, as a program. -/
def waitSelected (expectCmd : UInt8) (timeoutMs : Int) : CmdProg σ (List UInt8) := fun st =>
  match goodixWaitSelected sys st.1 fuel expectCmd mpFrameMax timeoutMs selectAnyFrame st.2 with
  | none => none
  | some (r, s) => some (r, (st.1, s))

/-- `gxfp_goodix_request_selected` into `rx[GXFP_MP_FRAME_MAX]`, as a program. -/
def requestSelected (reqCmd expectCmd : UInt8) (payload : List UInt8) (tries timeoutMs : Int) :
    CmdProg σ (List UInt8) := fun st =>
  goodixRequestSelected sys st.1 fuel reqCmd expectCmd payload mpFrameMax tries timeoutMs
    selectAnyFrame st.2

/-- `gxfp_dev_flush_rxq`, as a program. -/
def flushRxq : CmdProg σ Unit := fun st =>
  let (r, s) := devFlushRxq sys st.1 st.2
  some (r, (st.1, s))

/-- `usleep` and `nanosleep`: the other side goes on. -/
def sleepFor (sleep : σ → σ) : CmdProg σ Unit := fun st => some (.ok (), (st.1, sleep st.2))

end Programs

/-! ### What passes -/

/-- An open device, and what has passed over its file descriptor. -/
def devWatch {σ : Type} (L : Ledger σ Wire) : Watch (Dev × σ) Wire where
  adds st w st' := L.adds st.2 w st'.2
  adds_nil st := L.adds_nil st.2
  adds_append := L.adds_append
  inv st := st.1.Opened

/-- One buffer goes out, and the controller decodes `msg` from it. -/
def Writes (msg : Option SentMsg) (w : List Wire) : Prop :=
  ∃ tx, readMsg tx = msg ∧ w = [.wrote tx]

/-- A frame is the response that a wait takes: a valid command that its selector accepts. -/
def Responds (fn : FrameSelector) (expectCmd : UInt8) (frame : List UInt8) : Prop :=
  frame.getD 0 0 >>> 4 = mpTypeCmd ∧
    ∃ parsed, parseGoodixBody (frame.drop 4) = some parsed ∧ parsed.valid ∧
      parsed.cmd = expectCmd ∧ fn parsed = .ok true

/-- Reading, with none of the frames that are received an answer. -/
def Deaf (A : List UInt8 → Prop) (w : List Wire) : Prop :=
  Listens w ∧ ∀ frame ∈ framesIn w, ¬ A frame

/-- Reading up to the first frame that is an answer, whose body is `rx`. -/
def Hears (A : List UInt8 → Prop) (rx : List UInt8) (w : List Wire) : Prop :=
  Listens w ∧ ∃ before frame, framesIn w = before ++ [frame] ∧
    (∀ other ∈ before, ¬ A other) ∧ A frame ∧ rx = frame.drop 4

/-- `msg` goes out, and is not answered. -/
def Unheard (msg : Option SentMsg) (A : List UInt8 → Prop) : List Wire → Prop :=
  Then (Writes msg) (Deaf A)

/-- `msg` goes out, and is answered. -/
def Heard (msg : Option SentMsg) (A : List UInt8 → Prop) (rx : List UInt8) : List Wire → Prop :=
  Then (Writes msg) (Hears A rx)

/--
The word of a request that sends `msg` at most `tries` times and waits for `expectCmd`: it
fails unheard, or its last attempt is answered and `g` makes the result of the answer.
-/
def Request {α : Type} (msg : Option SentMsg) (expectCmd : UInt8) (tries : Nat)
    (g : List UInt8 → Except Errno α) (r : Except Errno α) (w : List Wire) : Prop :=
  let A := Responds selectAnyFrame expectCmd
  (∃ e k, r = .error e ∧ 1 ≤ k ∧ k ≤ tries ∧ Times (Unheard msg A) k w) ∨
    ∃ rx k, r = g rx ∧ k < tries ∧ Then (Times (Unheard msg A) k) (Heard msg A rx) w

/-- A request whose answer is only an acknowledgement. -/
def Acked (msg : Option SentMsg) (expectCmd : UInt8) (tries : Nat) :
    Except Errno Unit → List Wire → Prop :=
  Request msg expectCmd tries fun _ => .ok ()

section Words

variable {A : List UInt8 → Prop} {msg : Option SentMsg} {rx : List UInt8} {u v w : List Wire}

theorem Deaf.nil : Deaf A [] := ⟨Listens.nil, fun _ hf => absurd hf List.not_mem_nil⟩

theorem Deaf.append (hu : Deaf A u) (hv : Deaf A v) : Deaf A (u ++ v) := by
  refine ⟨hu.1.append hv.1, fun frame hf => ?_⟩
  rw [hu.1.framesIn_append] at hf
  exact (List.mem_append.mp hf).elim (hu.2 frame) (hv.2 frame)

theorem Deaf.hears_append (hu : Deaf A u) (hv : Hears A rx v) : Hears A rx (u ++ v) := by
  obtain ⟨hlistens, before, frame, hframes, hbefore, hframe, hrx⟩ := hv
  refine ⟨hu.1.append hlistens, framesIn u ++ before, frame, ?_, ?_, hframe, hrx⟩
  · rw [hu.1.framesIn_append, hframes, List.append_assoc]
  · exact fun other ho => (List.mem_append.mp ho).elim (hu.2 other) (hbefore other)

/-- What is heard is in the frames, so it is not both heard and unheard. -/
theorem Hears.not_deaf (h : Hears A rx w) : ¬ Deaf A w := by
  obtain ⟨-, before, frame, hframes, -, hframe, -⟩ := h
  intro hdeaf
  refine hdeaf.2 frame ?_ hframe
  rw [hframes]
  exact List.mem_append_right before (List.mem_singleton.mpr rfl)

/-- The answer is the one in the frames. -/
theorem Hears.unique {rx' : List UInt8} (h : Hears A rx w) (h' : Hears A rx' w) : rx = rx' := by
  obtain ⟨-, before, frame, hframes, -, -, rfl⟩ := h
  obtain ⟨-, before', frame', hframes', -, -, rfl⟩ := h'
  have hlast := (List.append_inj' (hframes.symm.trans hframes') rfl).2
  rw [List.singleton_inj.mp hlast]

/-- What holds of the message and of all that is read holds of all that passes. -/
theorem forall_writes_listens {B : Wire → Prop} (h : Then (Writes msg) Listens w)
    (hmsg : ∀ tx, readMsg tx = msg → B (.wrote tx))
    (hreads : ∀ e, (∀ tx, e ≠ .wrote tx) → B e) : ∀ e ∈ w, B e := by
  refine Then.forall h ?_ fun v hv e he => hreads e (hv.reads e he)
  rintro u ⟨tx, htx, rfl⟩ e he
  rw [List.mem_singleton.mp he]
  exact hmsg tx htx

theorem Unheard.listens (h : Unheard msg A w) : Then (Writes msg) Listens w :=
  h.mono (fun _ hu => hu) fun _ hv => hv.1

theorem Heard.listens (h : Heard msg A rx w) : Then (Writes msg) Listens w :=
  h.mono (fun _ hu => hu) fun _ hv => hv.1

/-- Behind its last buffer a word has one part only. -/
theorem append_wrote_inj {u' v' : List Wire} {tx tx' : List UInt8}
    (h : u ++ .wrote tx :: v = u' ++ .wrote tx' :: v') (hv : Listens v) (hv' : Listens v') :
    v = v' := by
  rcases List.append_eq_append_iff.mp h with ⟨x, -, hx⟩ | ⟨x, -, hx⟩
  · cases x with
    | nil => exact (List.cons.inj hx).2
    | cons e x =>
        have hmem : Wire.wrote tx' ∈ v := by
          rw [(List.cons.inj hx).2]
          exact List.mem_append_right x List.mem_cons_self
        exact absurd rfl (hv.reads _ hmem tx')
  · cases x with
    | nil => exact (List.cons.inj hx).2.symm
    | cons e x =>
        have hmem : Wire.wrote tx ∈ v' := by
          rw [(List.cons.inj hx).2]
          exact List.mem_append_right x List.mem_cons_self
        exact absurd rfl (hv'.reads _ hmem tx)

/-- What is behind the last buffer of attempts that are not answered. -/
theorem unheard_last {k : Nat} (hpos : 1 ≤ k) (h : Times (Unheard msg A) k w) :
    ∃ u tx v, w = u ++ .wrote tx :: v ∧ Deaf A v := by
  induction k generalizing w with
  | zero => cases hpos
  | succ k ih =>
      obtain ⟨_, y, rfl, ⟨_, v, rfl, ⟨tx, -, rfl⟩, hv⟩, hy⟩ := h
      rcases Nat.eq_zero_or_pos k with rfl | hk
      · cases hy
        exact ⟨[], tx, v, by rw [List.append_nil]; rfl, hv⟩
      · obtain ⟨u, tx', v', rfl, hv'⟩ := ih hk hy
        exact ⟨[.wrote tx] ++ v ++ u, tx', v', (List.append_assoc ..).symm, hv'⟩

/-- What is behind the last buffer of a request that is answered. -/
theorem heard_last {L : List Wire → Prop} (h : Then L (Heard msg A rx) w) :
    ∃ u tx v, w = u ++ .wrote tx :: v ∧ Hears A rx v := by
  obtain ⟨u, _, rfl, -, _, v, rfl, ⟨tx, -, rfl⟩, hv⟩ := h
  exact ⟨u, tx, v, rfl, hv⟩

end Words

section Request

variable {α : Type} {msg : Option SentMsg} {expectCmd : UInt8} {tries : Nat}
  {g : List UInt8 → Except Errno α} {r : Except Errno α} {w : List Wire}

/-- **What is made of the answer may be made in two steps.** -/
theorem Request.bind {γ : Type} (h : Request msg expectCmd tries g r w) (f : α → Except Errno γ) :
    Request msg expectCmd tries (fun rx => (g rx).bind f) (r.bind f) w := by
  rcases h with ⟨e, k, rfl, hk⟩ | ⟨rx, k, rfl, hk⟩
  · exact Or.inl ⟨e, k, rfl, hk⟩
  · exact Or.inr ⟨rx, k, rfl, hk⟩

/-- The answer of a request is a frame with the command it waits for. -/
theorem Request.congr {g' : List UInt8 → Except Errno α} (h : Request msg expectCmd tries g r w)
    (hg : ∀ rx parsed, parseGoodixBody rx = some parsed → parsed.valid →
      parsed.cmd = expectCmd → g rx = g' rx) :
    Request msg expectCmd tries g' r w := by
  rcases h with h | ⟨rx, k, rfl, hk, hthen⟩
  · exact Or.inl h
  have hsame : g rx = g' rx := by
    obtain ⟨u, tx, v, -, -, before, frame, -, -, ⟨-, parsed, hparse, hvalid, hcmd, -⟩, rfl⟩ :=
      heard_last hthen
    exact hg _ parsed hparse hvalid hcmd
  exact Or.inr ⟨rx, k, hsame, hk, hthen⟩

/--
**What passes says what comes of it.**  A request fails or has one result only, and which of
the two it is can be seen in what is behind its last buffer.
-/
theorem Request.unique {tries' : Nat} {r' : Except Errno α}
    (h : Request msg expectCmd tries g r w) (h' : Request msg expectCmd tries' g r' w) :
    r = r' ∨ ∃ e e', r = .error e ∧ r' = .error e' := by
  rcases h with ⟨e, k, rfl, hpos, -, hu⟩ | ⟨rx, k, rfl, -, hu⟩
  · rcases h' with ⟨e', k', rfl, -⟩ | ⟨rx', k', rfl, -, hu'⟩
    · exact Or.inr ⟨e, e', rfl, rfl⟩
    · obtain ⟨u, tx, v, rfl, hv⟩ := unheard_last hpos hu
      obtain ⟨u', tx', v', heq, hv'⟩ := heard_last hu'
      cases append_wrote_inj heq hv.1 hv'.1
      exact absurd hv hv'.not_deaf
  · obtain ⟨u, tx, v, rfl, hv⟩ := heard_last hu
    rcases h' with ⟨e', k', rfl, hpos', -, hu'⟩ | ⟨rx', k', rfl, -, hu'⟩
    · obtain ⟨u', tx', v', heq, hv'⟩ := unheard_last hpos' hu'
      cases append_wrote_inj heq hv.1 hv'.1
      exact absurd hv' hv.not_deaf
    · obtain ⟨u', tx', v', heq, hv'⟩ := heard_last hu'
      cases append_wrote_inj heq hv.1 hv'.1
      exact Or.inl (congrArg g (hv.unique hv'))

/-- What holds of the message and of all that is read holds of all that passes. -/
theorem Request.forall {B : Wire → Prop} (h : Request msg expectCmd tries g r w)
    (hmsg : ∀ tx, readMsg tx = msg → B (.wrote tx))
    (hreads : ∀ e, (∀ tx, e ≠ .wrote tx) → B e) : ∀ e ∈ w, B e := by
  have htimes : ∀ {A k u}, Times (Unheard msg A) k u → ∀ e ∈ u, B e := fun hu =>
    hu.forall fun _ hv => forall_writes_listens hv.listens hmsg hreads
  rcases h with ⟨_, _, -, -, -, hu⟩ | ⟨rx, k, -, -, hthen⟩
  · exact htimes hu
  · exact hthen.forall (fun _ => htimes) fun v hv =>
      forall_writes_listens hv.listens hmsg hreads

end Request

/-- The same other side, with all that passes kept. -/
def wiredSleep {σ : Type} (sleep : σ → σ) : σ × List Wire → σ × List Wire :=
  fun s => (sleep s.1, s.2)

theorem wiredSleep_kept {σ : Type} (sleep : σ → σ) (s : σ × List Wire) :
    (wireLedger σ).adds s [] (wiredSleep sleep s) :=
  (List.append_nil _).symm

section Passes

variable {σ : Type} {sys : Sys σ} {L : Ledger σ Wire} {fuel : Nat}

theorem emits_flushRxq (h : sys.Kept L) :
    Emits (devWatch L) (flushRxq sys) fun _ w => w = [] := by
  intro st r st' hd hrun
  cases hrun
  exact ⟨hd, [], devFlushRxq_passes h st.1 st.2, rfl⟩

theorem emits_sleepFor {sleep : σ → σ} (hsleep : ∀ s, L.adds s [] (sleep s)) :
    Emits (devWatch L) (sleepFor sleep) fun _ w => w = [] := by
  intro st r st' hd hrun
  cases hrun
  exact ⟨hd, [], hsleep st.2, rfl⟩

/-- **A frame that fits is handed to `write(2)` once**, and the device stays open. -/
theorem emits_sendPacket (h : sys.Kept L) (frame : GoodixFrame)
    (hfits : frame.payload.length ≤ cmdPayloadMax) :
    Emits (devWatch L) (sendPacket sys frame.bytes) fun _ => Writes
      (some ⟨mpTypeCmd, frame.cmd, frame.payload, frame.parsed.protoChecksumOk⟩) := by
  intro st r st' hd hrun
  have hroom : frame.bytes.length ≤ mpMaxPayload := by
    rw [GoodixFrame.length_bytes]
    exact Nat.add_le_add_right hfits 4
  have hwrite := h.write (frameBuffer frame (st.1.seq16 + 1)) st.2
  have hsend : devSendPacket sys st.1 mpTypeCmd frame.bytes st.2 = (r, st') :=
    Option.some.inj hrun
  rw [devSendPacket_eq hd hroom, show wrapped _ _ = frameBuffer frame (st.1.seq16 + 1) from rfl]
    at hsend
  have hword : Writes (some ⟨mpTypeCmd, frame.cmd, frame.payload, frame.parsed.protoChecksumOk⟩)
      [.wrote (frameBuffer frame (st.1.seq16 + 1))] := ⟨_, readMsg_frameBuffer frame _ hfits, rfl⟩
  rcases hres : sys.write (frameBuffer frame (st.1.seq16 + 1)) st.2 with ⟨e | wr, t⟩ <;>
    rw [hres] at hsend hwrite
  · cases hsend
    exact ⟨⟨hd.fd, hd.rxChunk⟩, _, hwrite, hword⟩
  · dsimp only at hsend
    split at hsend <;> cases hsend <;> exact ⟨⟨hd.fd, hd.rxChunk⟩, _, hwrite, hword⟩

/-- A send: its command goes out once. -/
theorem goodixSendAsync_passes (h : sys.Kept L) {dev dev' : Dev} (hd : dev.Opened) {cmd : UInt8}
    {payload : List UInt8} (hfits : payload.length ≤ cmdPayloadMax) {s s' : σ}
    {r : Except Errno Unit} (hrun : goodixSendAsync sys dev cmd payload s = (r, dev', s')) :
    dev'.Opened ∧ ∃ w, L.adds s w s' ∧ Writes (command cmd payload) w := by
  rw [goodixSendAsync_frame cmd (Nat.le_trans hfits (by decide))] at hrun
  have hpacket := emits_sendPacket h (GoodixFrame.built cmd payload
    (Nat.le_trans hfits (by decide))) hfits (dev, s) r (dev', s') hd (congrArg some hrun)
  rwa [GoodixFrame.protoChecksumOk_built] at hpacket

theorem emits_send (h : sys.Kept L) (cmd : UInt8) {payload : List UInt8}
    (hfits : payload.length ≤ cmdPayloadMax) :
    Emits (devWatch L) (send sys cmd payload) fun _ => Writes (command cmd payload) := by
  intro st r st' hd hrun
  exact goodixSendAsync_passes h hd hfits (Option.some.inj hrun)

/-! ### Waiting -/

/-- A record is of the channel its frame came on. -/
theorem TapRecord.From.type_iff {rec : TapRecord} {frame : List UInt8} (h : rec.From frame) :
    rec.hdr.type = mpTypeCmd.toUInt32 ↔ frame.getD 0 0 >>> 4 = mpTypeCmd := by
  rw [h.type]
  constructor
  · intro heq
    have hnat := congrArg UInt32.toNat heq
    rw [UInt8.toNat_toUInt32, UInt8.toNat_toUInt32] at hnat
    exact UInt8.toNat_inj.mp hnat
  · exact congrArg UInt8.toUInt32

/-- **A record is returned if its frame is the response, and passed over or refused if not.** -/
theorem waitRecord_responds (expectCmd : UInt8) (fn : FrameSelector)
    (next : σ → Option (Except Errno (List UInt8) × σ)) {rec : TapRecord} {frame : List UInt8}
    (hfrom : rec.From frame) (s : σ) :
    (¬ Responds fn expectCmd frame ∧ (waitRecord expectCmd mpFrameMax fn next rec s = next s ∨
        ∃ e, waitRecord expectCmd mpFrameMax fn next rec s = some (.error e, s))) ∨
      (Responds fn expectCmd frame ∧
        waitRecord expectCmd mpFrameMax fn next rec s = some (.ok (frame.drop 4), s)) := by
  have hroom : ¬ mpFrameMax < (frame.drop 4).length := by
    have hfits := hfrom.fits
    rw [List.length_drop]
    omega
  unfold waitRecord
  rw [hfrom.payload]
  by_cases htype : rec.hdr.type ≠ mpTypeCmd.toUInt32
  · rw [if_pos htype]
    exact Or.inl ⟨fun h => htype (hfrom.type_iff.mpr h.1), Or.inl rfl⟩
  rw [if_neg htype]
  rcases hparse : parseGoodixBody (frame.drop 4) with _ | parsed
  · refine Or.inl ⟨?_, Or.inl rfl⟩
    rintro ⟨-, parsed, hparsed, -⟩
    rw [hparse] at hparsed
    cases hparsed
  -- the frame is parsed in one way only
  have honly : ∀ {parsed'}, parseGoodixBody (frame.drop 4) = some parsed' → parsed' = parsed :=
    fun h => Option.some.inj (h.symm.trans hparse)
  dsimp only
  by_cases hcmd : ¬ parsed.valid ∨ parsed.cmd ≠ expectCmd
  · rw [if_pos hcmd]
    refine Or.inl ⟨?_, Or.inl rfl⟩
    rintro ⟨-, parsed', hparsed, hvalid, hsame, -⟩
    cases honly hparsed
    exact hcmd.elim (fun h => h hvalid) fun h => h hsame
  rw [if_neg hcmd]
  rcases hfn : fn parsed with e | _ | _
  · refine Or.inl ⟨?_, Or.inr ⟨e, rfl⟩⟩
    rintro ⟨-, parsed', hparsed, -, -, hok⟩
    cases honly hparsed
    cases hfn.symm.trans hok
  · refine Or.inl ⟨?_, Or.inl rfl⟩
    rintro ⟨-, parsed', hparsed, -, -, hok⟩
    cases honly hparsed
    cases hfn.symm.trans hok
  · obtain ⟨hvalid, hsame⟩ := not_or.mp hcmd
    exact Or.inr ⟨⟨hfrom.type_iff.mp (not_not.mp htype), parsed, hparse, not_not.mp hvalid,
      not_not.mp hsame, hfn⟩, if_neg hroom⟩

/-- What a wait has added, by what it returns. -/
structure Waited (A : List UInt8 → Prop) (r : Except Errno (List UInt8)) (w : List Wire) :
    Prop where
  deaf : ∀ e, r = .error e → Deaf A w
  hears : ∀ rx, r = .ok rx → Hears A rx w

section Waited

variable {A : List UInt8 → Prop} {r : Except Errno (List UInt8)} {u v w : List Wire}

theorem Waited.failed {e : Errno} (h : Deaf A w) : Waited A (.error e) w where
  deaf _ _ := h
  hears _ hok := by cases hok

theorem Waited.answered {rx : List UInt8} (h : Hears A rx w) : Waited A (.ok rx) w where
  deaf _ herr := by cases herr
  hears _ hok := by
    cases hok
    exact h

theorem Waited.append (hu : Deaf A u) (hv : Waited A r v) : Waited A r (u ++ v) where
  deaf e herr := hu.append (hv.deaf e herr)
  hears rx hok := hu.hears_append (hv.hears rx hok)

end Waited

/-- The look before a record is read says nothing. -/
theorem deaf_polled {A : List UInt8 → Prop} (out : PollOutcome) : Deaf A [.polled out] := by
  have hlook := Assembles.look out
  refine ⟨hlook.listens, fun frame hf => ?_⟩
  rw [hlook.framesIn_eq] at hf
  exact absurd hf List.not_mem_nil

/-- **A wait sends nothing, and takes the first frame it receives that is the response.** -/
theorem waitLoop_passes (h : sys.Kept L) {dev : Dev} (hd : dev.Opened) {expectCmd : UInt8}
    {fn : FrameSelector} {deadline : Int} {s s' : σ} {r : Except Errno (List UInt8)}
    (hrun : waitLoop sys dev expectCmd mpFrameMax fn deadline fuel s = some (r, s')) :
    ∃ w, L.adds s w s' ∧ Waited (Responds fn expectCmd) r w := by
  induction fuel generalizing s with
  | zero => simp [waitLoop] at hrun
  | succ fuel ih =>
      rw [waitLoop_succ] at hrun
      have hclock : L.adds s [] (monotonicMs sys s).2 := h.clock s
      by_cases hremain : deadline - (monotonicMs sys s).1 ≤ 0
      · rw [if_pos hremain] at hrun
        cases hrun
        exact ⟨[], hclock, .failed Deaf.nil⟩
      rw [if_neg hremain] at hrun
      -- a turn that ends with nothing is the turns behind it, with what it has read in front
      have hnext : ∀ {u : List Wire} {t : σ}, L.adds s u t → Deaf (Responds fn expectCmd) u →
          waitLoop sys dev expectCmd mpFrameMax fn deadline fuel t = some (r, s') →
          ∃ w, L.adds s w s' ∧ Waited (Responds fn expectCmd) r w := by
        intro u t hu hdeaf hrest
        obtain ⟨v, hv, hwaited⟩ := ih hrest
        exact ⟨u ++ v, L.adds_append hu hv, hwaited.append hdeaf⟩
      obtain ⟨out, -, hlook⟩ := devPollReadable_passes h hd
        (deadline - (monotonicMs sys s).1) (monotonicMs sys s).2
      have hquiet := L.adds_append hclock hlook
      rcases hpoll : devPollReadable sys dev (deadline - (monotonicMs sys s).1)
        (monotonicMs sys s).2 with ⟨e | _, s₁⟩ <;> rw [hpoll] at hrun hquiet
      · cases e <;> first
          | exact hnext hquiet (deaf_polled out) hrun
          | (cases hrun; exact ⟨_, hquiet, .failed (deaf_polled out)⟩)
      dsimp only at hrun
      rcases hread : devReadRecord sys dev tapCap s₁ with ⟨r₂, s₂⟩
      obtain ⟨w, hw, hreceived⟩ := devReadRecord_passes h hd hread
      have hadds := L.adds_append hquiet hw
      rw [hread] at hrun
      rcases r₂ with e | rec
      · have hdeaf : Deaf (Responds fn expectCmd) w := by
          refine ⟨hreceived.listens, fun frame hf => ?_⟩
          rw [hreceived.silent e rfl] at hf
          exact absurd hf List.not_mem_nil
        have hturn := (deaf_polled out).append hdeaf
        cases e <;> first
          | exact hnext hadds hturn hrun
          | (cases hrun; exact ⟨_, hadds, .failed hturn⟩)
      dsimp only at hrun
      obtain ⟨frame, hframes, hfrom⟩ := hreceived.one rec rfl
      rcases waitRecord_responds expectCmd fn
        (waitLoop sys dev expectCmd mpFrameMax fn deadline fuel) hfrom s₂ with
        ⟨hother, hturn⟩ | ⟨hresponds, hend⟩
      · have hdeaf : Deaf (Responds fn expectCmd) w := by
          refine ⟨hreceived.listens, fun frame' hf => ?_⟩
          rw [hframes] at hf
          rwa [List.mem_singleton.mp hf]
        rcases hturn with hskip | ⟨e, hend⟩
        · rw [hskip] at hrun
          exact hnext hadds ((deaf_polled out).append hdeaf) hrun
        · rw [hend] at hrun
          cases hrun
          exact ⟨_, hadds, .failed ((deaf_polled out).append hdeaf)⟩
      · rw [hend] at hrun
        cases hrun
        refine ⟨_, hadds, .answered ((deaf_polled out).hears_append ?_)⟩
        exact ⟨hreceived.listens, [], frame, hframes, fun _ ho => absurd ho List.not_mem_nil,
          hresponds, rfl⟩

theorem goodixWaitSelected_passes (h : sys.Kept L) {dev : Dev} (hd : dev.Opened)
    {expectCmd : UInt8} {fn : FrameSelector} {timeoutMs : Int} {s s' : σ}
    {r : Except Errno (List UInt8)}
    (hrun : goodixWaitSelected sys dev fuel expectCmd mpFrameMax timeoutMs fn s = some (r, s')) :
    ∃ w, L.adds s w s' ∧ Waited (Responds fn expectCmd) r w := by
  have hcap : ¬ mpFrameMax = 0 := by
    decide
  unfold goodixWaitSelected at hrun
  rw [if_neg hcap] at hrun
  have hclock : L.adds s [] (monotonicMs sys s).2 := h.clock s
  obtain ⟨w, hw, hwaited⟩ := waitLoop_passes h hd hrun
  exact ⟨w, L.adds_append hclock hw, hwaited⟩

theorem emits_waitSelected (h : sys.Kept L) (expectCmd : UInt8) (timeoutMs : Int) :
    Emits (devWatch L) (waitSelected sys fuel expectCmd timeoutMs)
      (Waited (Responds selectAnyFrame expectCmd)) := by
  intro st r st' hd hrun
  unfold waitSelected at hrun
  rcases hwait : goodixWaitSelected sys st.1 fuel expectCmd mpFrameMax timeoutMs selectAnyFrame
    st.2 with _ | ⟨r', s⟩ <;> rw [hwait] at hrun
  · cases hrun
  · cases hrun
    exact ⟨hd, goodixWaitSelected_passes h hd hwait⟩

/-! ### Requests -/

/-- **The attempts of a request**: unheard ones, and one that is answered if any is. -/
theorem requestAttempts_passes (h : sys.Kept L) {reqCmd expectCmd : UInt8}
    {payload : List UInt8} {timeoutMs : Int} {fn : FrameSelector}
    (hfits : payload.length ≤ cmdPayloadMax) {n : Nat} {dev dev' : Dev} (hd : dev.Opened)
    {s s' : σ} {r : Except Errno (List UInt8)}
    (hrun : requestAttempts sys fuel reqCmd expectCmd payload mpFrameMax timeoutMs fn n dev s =
      some (r, dev', s')) :
    dev'.Opened ∧ ∃ w, L.adds s w s' ∧
      ((∃ e k, r = .error e ∧ (0 < n → 1 ≤ k) ∧ k ≤ n ∧
        Times (Unheard (command reqCmd payload) (Responds fn expectCmd)) k w) ∨
      ∃ rx k, r = .ok rx ∧ k < n ∧
        Then (Times (Unheard (command reqCmd payload) (Responds fn expectCmd)) k)
          (Heard (command reqCmd payload) (Responds fn expectCmd) rx) w) := by
  induction n generalizing dev s with
  | zero =>
      cases hrun
      exact ⟨hd, [], L.adds_nil _, Or.inl ⟨_, 0, rfl, fun hpos => hpos, Nat.le_refl 0, rfl⟩⟩
  | succ n ih =>
      rw [requestAttempts] at hrun
      rcases hsend : goodixSendAsync sys dev reqCmd payload s with ⟨e | _, dev₁, s₁⟩ <;>
        rw [hsend] at hrun <;>
        obtain ⟨hopened, u, hu, hwrites⟩ := goodixSendAsync_passes h hd hfits hsend
      · cases hrun
        refine ⟨hopened, u, hu, Or.inl ⟨e, 1, rfl, fun _ => Nat.le_refl 1,
          Nat.succ_le_succ (Nat.zero_le n), u, [], (List.append_nil u).symm, ?_, rfl⟩⟩
        exact ⟨u, [], (List.append_nil u).symm, hwrites, Deaf.nil⟩
      dsimp only at hrun
      rcases hwait : goodixWaitSelected sys dev₁ fuel expectCmd mpFrameMax timeoutMs fn s₁ with
        _ | ⟨r₁, s₂⟩ <;> rw [hwait] at hrun
      · cases hrun
      obtain ⟨v, hv, hwaited⟩ := goodixWaitSelected_passes h hopened hwait
      have hadds := L.adds_append hu hv
      rcases r₁ with e | rx
      · have hunheard : Unheard (command reqCmd payload) (Responds fn expectCmd) (u ++ v) :=
          ⟨u, v, rfl, hwrites, hwaited.deaf e rfl⟩
        by_cases htimedout : e = .timedout
        · subst htimedout
          obtain ⟨hopened', w, hw, ⟨e, k, rfl, -, hle, htimes⟩ | ⟨rx, k, rfl, hlt, hthen⟩⟩ :=
            ih hopened hrun
          · exact ⟨hopened', _, L.adds_append hadds hw, Or.inl ⟨e, k + 1, rfl,
              fun _ => Nat.succ_le_succ (Nat.zero_le k), Nat.succ_le_succ hle, _, w, rfl, hunheard,
              htimes⟩⟩
          · obtain ⟨x, y, rfl, hx, hy⟩ := hthen
            exact ⟨hopened', _, L.adds_append hadds hw, Or.inr ⟨rx, k + 1, rfl,
              Nat.succ_lt_succ hlt, u ++ v ++ x, y, (List.append_assoc ..).symm,
              ⟨u ++ v, x, rfl, hunheard, hx⟩, hy⟩⟩
        · have hdone : r = .error e ∧ s' = s₂ ∧ dev' = dev₁ := by
            cases e <;> first | exact absurd rfl htimedout | (cases hrun; exact ⟨rfl, rfl, rfl⟩)
          obtain ⟨rfl, rfl, rfl⟩ := hdone
          exact ⟨hopened, _, hadds, Or.inl ⟨e, 1, rfl, fun _ => Nat.le_refl 1,
            Nat.succ_le_succ (Nat.zero_le n), u ++ v, [], (List.append_nil _).symm, hunheard, rfl⟩⟩
      · cases hrun
        exact ⟨hopened, _, hadds, Or.inr ⟨rx, 0, rfl, Nat.succ_pos n, [], u ++ v, rfl, rfl, u, v,
          rfl, hwrites, hwaited.hears rx rfl⟩⟩

/-- **A request is the word of its attempts.** -/
theorem emits_requestSelected (h : sys.Kept L) (reqCmd expectCmd : UInt8) {payload : List UInt8}
    {tries : Nat} (timeoutMs : Int) (hfits : payload.length ≤ cmdPayloadMax) (hpos : 0 < tries) :
    Emits (devWatch L) (requestSelected sys fuel reqCmd expectCmd payload tries timeoutMs)
      (Request (command reqCmd payload) expectCmd tries .ok) := by
  intro st r st' hd hrun
  have hcap : ¬ mpFrameMax = 0 := by
    decide
  have htries : (if (0 : Int) < tries then (tries : Int).toNat else 1) = tries := by
    rw [if_pos (Int.natCast_pos.mpr hpos)]
    exact Int.toNat_natCast tries
  unfold requestSelected goodixRequestSelected at hrun
  rw [if_neg hcap, htries] at hrun
  obtain ⟨hopened, w, hw, ⟨e, k, rfl, hone, hle, htimes⟩ | hanswered⟩ :=
    requestAttempts_passes h hfits hd hrun
  · exact ⟨hopened, w, hw, Or.inl ⟨e, k, rfl, hone hpos, hle, htimes⟩⟩
  · exact ⟨hopened, w, hw, Or.inr hanswered⟩

/-- A request, and a look at its answer. -/
theorem emits_request {α : Type} (h : sys.Kept L) (reqCmd expectCmd : UInt8)
    {payload : List UInt8} {tries : Nat} (timeoutMs : Int)
    (hfits : payload.length ≤ cmdPayloadMax) (hpos : 0 < tries) (g : List UInt8 → Except Errno α) :
    Emits (devWatch L)
      (requestSelected sys fuel reqCmd expectCmd payload tries timeoutMs >>= fun rx =>
        Prog.lift (g rx)) (Request (command reqCmd payload) expectCmd tries g) := by
  refine ((emits_requestSelected h reqCmd expectCmd timeoutMs hfits hpos).check g).mono ?_
  rintro r w ⟨r', rfl, hw⟩
  exact hw.bind g

end Passes

end Gxfp
