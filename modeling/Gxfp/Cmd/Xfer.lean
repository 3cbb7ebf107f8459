/-
Commands and responses: `src/cmd/goodix_xfer.c`.

A command goes out through three encoders.  `goodixBuildFrame` makes a Goodix
frame of it, `mpBuild` puts that into an MP frame on the command channel, and
`mpWrap` gives it the eSPI wrapper; each has a limit of its own.  `SentCommand`
says what the buffer handed to `write(2)` must be for the other side to decode it,
and `goodixSendAsync_decodes` that it always is, or that nothing was written at all.

Waiting for a response is a loop without a bound in the source: it ends when a
matching frame arrives or the clock passes the deadline.  `waitLoop` counts turns
with fuel, and `none` is the answer that there was not enough.
-/
import Gxfp.Io.Dev
import Gxfp.Proto.Goodix

namespace Gxfp

open Bytes

/-! ### The functions of `goodix_xfer.c` -/

/-- `gxfp_goodix_frame_selector_fn` with its context: reject, pass over or take a frame. -/
abbrev FrameSelector := FrameParsed → Except Errno Bool

/-- `select_any_frame` -/
def selectAnyFrame : FrameSelector := fun _ => .ok true

section Xfer

variable {σ : Type} (sys : Sys σ) (dev : Dev)

/-- `gxfp_monotonic_ms` -/
def monotonicMs (s : σ) : Int × σ :=
  let (ns, s) := sys.clock s
  ((ns.toNat / 1000000 : Nat), s)

/-- `gxfp_goodix_send_async` -/
def goodixSendAsync (cmd : UInt8) (payload : List UInt8) (s : σ) : Except Errno Unit × Dev × σ :=
  match goodixBuildFrame cmd payload (1 + 2 + goodixPayloadMax + 1) with
  | .error e => (.error e, dev, s)
  | .ok buf => devSendPacket sys dev mpTypeCmd (buf.take buf.length.toUInt16.toNat) s

/-- The loop of `gxfp_goodix_wait_selected`, at most `fuel` turns of it. -/
def waitLoop (expectCmd : UInt8) (rxCap : Nat) (fn : FrameSelector) (deadline : Int) :
    Nat → σ → Option (Except Errno (List UInt8) × σ)
  | 0, _ => none
  | fuel + 1, s =>
    let (now, s) := monotonicMs sys s
    let remain := deadline - now
    if remain ≤ 0 then some (.error .timedout, s)
    else
      match devPollReadable sys dev remain s with
      | (.error .again, s) => waitLoop expectCmd rxCap fn deadline fuel s
      | (.error e, s) => some (.error e, s)
      | (.ok (), s) =>
        match devReadRecord sys dev tapCap s with
        | (.error .again, s) => waitLoop expectCmd rxCap fn deadline fuel s
        | (.error e, s) => some (.error e, s)
        | (.ok rec, s) =>
          if rec.hdr.type ≠ mpTypeCmd.toUInt32 then waitLoop expectCmd rxCap fn deadline fuel s
          else
            match parseGoodixBody rec.payload with
            | none => waitLoop expectCmd rxCap fn deadline fuel s
            | some frame =>
              if ¬ frame.valid ∨ frame.cmd ≠ expectCmd then
                waitLoop expectCmd rxCap fn deadline fuel s
              else
                match fn frame with
                | .error e => some (.error e, s)
                | .ok false => waitLoop expectCmd rxCap fn deadline fuel s
                | .ok true =>
                  if rxCap < rec.payload.length then some (.error .msgsize, s)
                  else some (.ok rec.payload, s)

/-- What a turn of `waitLoop` does with a record; `next` is the turn behind it. -/
def waitRecord (expectCmd : UInt8) (rxCap : Nat) (fn : FrameSelector)
    (next : σ → Option (Except Errno (List UInt8) × σ)) (rec : TapRecord) (s : σ) :
    Option (Except Errno (List UInt8) × σ) :=
  if rec.hdr.type ≠ mpTypeCmd.toUInt32 then next s
  else
    match parseGoodixBody rec.payload with
    | none => next s
    | some frame =>
      if ¬ frame.valid ∨ frame.cmd ≠ expectCmd then next s
      else
        match fn frame with
        | .error e => some (.error e, s)
        | .ok false => next s
        | .ok true =>
          if rxCap < rec.payload.length then some (.error .msgsize, s)
          else some (.ok rec.payload, s)

theorem waitLoop_succ (expectCmd : UInt8) (rxCap : Nat) (fn : FrameSelector) (deadline : Int)
    (fuel : Nat) (s : σ) :
    waitLoop sys dev expectCmd rxCap fn deadline (fuel + 1) s =
      if deadline - (monotonicMs sys s).1 ≤ 0 then
        some (.error .timedout, (monotonicMs sys s).2)
      else
        match devPollReadable sys dev (deadline - (monotonicMs sys s).1) (monotonicMs sys s).2 with
        | (.error .again, s) => waitLoop sys dev expectCmd rxCap fn deadline fuel s
        | (.error e, s) => some (.error e, s)
        | (.ok (), s) =>
          match devReadRecord sys dev tapCap s with
          | (.error .again, s) => waitLoop sys dev expectCmd rxCap fn deadline fuel s
          | (.error e, s) => some (.error e, s)
          | (.ok rec, s) =>
            waitRecord expectCmd rxCap fn (waitLoop sys dev expectCmd rxCap fn deadline fuel) rec
              s := rfl

/-- `gxfp_goodix_wait_selected`: the response that was copied into `rx`. -/
def goodixWaitSelected (fuel : Nat) (expectCmd : UInt8) (rxCap : Nat) (timeoutMs : Int)
    (selector : FrameSelector) (s : σ) : Option (Except Errno (List UInt8) × σ) :=
  if rxCap = 0 then some (.error .inval, s)
  else
    let (now, s) := monotonicMs sys s
    let deadline := now + (if 0 < timeoutMs then timeoutMs else 1000)
    waitLoop sys dev expectCmd rxCap selector deadline fuel s

/-- The attempts of `gxfp_goodix_request_selected`: send, wait, and send again on a time-out. -/
def requestAttempts (fuel : Nat) (reqCmd expectCmd : UInt8) (payload : List UInt8)
    (rxCap : Nat) (timeoutMs : Int) (selector : FrameSelector) :
    Nat → Dev → σ → Option (Except Errno (List UInt8) × Dev × σ)
  | 0, dev, s => some (.error .timedout, dev, s)
  | n + 1, dev, s =>
    match goodixSendAsync sys dev reqCmd payload s with
    | (.error e, dev, s) => some (.error e, dev, s)
    | (.ok (), dev, s) =>
      match goodixWaitSelected sys dev fuel expectCmd rxCap timeoutMs selector s with
      | none => none
      | some (.error .timedout, s) =>
        requestAttempts fuel reqCmd expectCmd payload rxCap timeoutMs selector n dev s
      | some (r, s) => some (r, dev, s)

/-- `gxfp_goodix_request_selected` -/
def goodixRequestSelected (fuel : Nat) (reqCmd expectCmd : UInt8) (payload : List UInt8)
    (rxCap : Nat) (tries timeoutMs : Int) (selector : FrameSelector) (s : σ) :
    Option (Except Errno (List UInt8) × Dev × σ) :=
  if rxCap = 0 then some (.error .inval, dev, s)
  else
    requestAttempts sys fuel reqCmd expectCmd payload rxCap timeoutMs selector
      (if 0 < tries then tries.toNat else 1) dev s

end Xfer

/-! ### What the other side decodes -/

/-- The length of the MP frame, as the wrapper's bytes 1 and 2 give it. -/
def wrapperFrameLen (tx : List UInt8) : Nat := (le16 (tx.getD 1 0) (tx.getD 2 0)).toNat

/-- The MP frame inside a wrapped buffer. -/
def unwrap (tx : List UInt8) : List UInt8 := (tx.drop 8).take (wrapperFrameLen tx)

/-- The reference decoder: unwrap, check the head, parse the Goodix frame behind it. -/
def decodeCommand (tx : List UInt8) : Option (UInt8 × FrameParsed) :=
  match mpCheckHead (unwrap tx) with
  | none => none
  | some mpLen =>
    match parseGoodixBody (((unwrap tx).drop 4).take mpLen.toNat) with
    | none => none
    | some frame => some ((unwrap tx).getD 0 0 >>> 4, frame)

/-- `tx` is a buffer the driver accepts and the controller decodes as this command. -/
structure SentCommand (cmd : UInt8) (payload : List UInt8) (seq16 : UInt16)
    (tx : List UInt8) : Prop where
  len_pos : 0 < tx.length
  len_mod : tx.length % 8 = 0
  len_le : tx.length ≤ 0x200
  decoded : ∃ frame, decodeCommand tx = some (mpTypeCmd, frame) ∧
    frame.cmd = cmd ∧ frame.payload = payload ∧ frame.protoChecksumOk = true
  padding : ∀ b ∈ tx.drop (8 + wrapperFrameLen tx), b = 0
  reserved : tx.getD 6 0 = 0 ∧ tx.getD 7 0 = 0
  seq : le16 (tx.getD 4 0) (tx.getD 5 0) = seq16

/-- The largest command payload that fits the transmit window. -/
def cmdPayloadMax : Nat := mpMaxPayload - 4

/-- The system calls, with every buffer that was handed to `write(2)` kept in order. -/
def Sys.logged {σ : Type} (sys : Sys σ) : Sys (σ × List (List UInt8)) where
  poll n s := let (r, t) := sys.poll n s.1; (r, (t, s.2))
  read s := let (r, t) := sys.read s.1; (r, (t, s.2))
  write b s := let (r, t) := sys.write b s.1; (r, (t, s.2 ++ [b]))
  flushRx s := let (r, t) := sys.flushRx s.1; (r, (t, s.2))
  clock s := let (r, t) := sys.clock s.1; (r, (t, s.2))

/-! ### The wrapper read back -/

theorem mpWrappedLen_le {n : Nat} (h : n ≤ 4 + mpMaxPayload) :
    mpWrappedLen n ≤ mpTxBufferSize := by
  have hmod : (8 + n + mpPad n) % 8 = 0 := mpWrappedLen_mod n
  have hpad : mpPad n < 8 := mpPad_lt n
  have hn : n ≤ 504 := h
  show 8 + n + mpPad n ≤ 512
  omega

/-- The buffer `gxfp_mp_wrap` fills. -/
def wrapped (mp : List UInt8) (seq : UInt16) : List UInt8 :=
  [mpWrapperMagic, loByte mp.length, hiByte mp.length,
    mpWrapperMagic + loByte mp.length + hiByte mp.length,
    loByte seq.toNat, hiByte seq.toNat, 0, 0] ++ mp ++ zeros (mpPad mp.length)

theorem mpWrap_ok {mp : List UInt8} (hpos : mp.length ≠ 0) (hle : mp.length ≤ 4 + mpMaxPayload)
    (seq16 : UInt16) :
    mpWrap mp seq16 mpTxBufferSize = .ok (wrapped mp (seq16 + 1), seq16 + 1) := by
  have hfit : ¬ mpTxBufferSize < mpWrappedLen mp.length := Nat.not_lt.mpr (mpWrappedLen_le hle)
  rw [mpWrap, if_neg hpos, if_neg hfit, if_neg hfit]
  rfl

theorem length_wrapped (mp : List UInt8) (seq : UInt16) :
    (wrapped mp seq).length = mpWrappedLen mp.length := by
  simp only [wrapped, mpWrappedLen, List.length_append, List.length_cons, List.length_nil,
    length_zeros]

theorem wrapperFrameLen_wrapped {mp : List UInt8} (h : mp.length < 65536) (seq : UInt16) :
    wrapperFrameLen (wrapped mp seq) = mp.length :=
  toNat_le16_split h

/-- **Unwrapping takes exactly the frame that was wrapped.** -/
theorem unwrap_wrapped {mp : List UInt8} (h : mp.length < 65536) (seq : UInt16) :
    unwrap (wrapped mp seq) = mp := by
  rw [unwrap, wrapperFrameLen_wrapped h]
  exact List.take_left

theorem drop_wrapped (mp : List UInt8) (seq : UInt16) :
    (wrapped mp seq).drop (8 + mp.length) = zeros (mpPad mp.length) := by
  have hfront : 8 + mp.length = ([mpWrapperMagic, loByte mp.length, hiByte mp.length,
      mpWrapperMagic + loByte mp.length + hiByte mp.length,
      loByte seq.toNat, hiByte seq.toNat, 0, 0] ++ mp).length := by
    rw [List.length_append]
    rfl
  rw [hfront]
  exact List.drop_left

/-! ### One command -/

/-- The buffer that carries a Goodix frame on the command channel. -/
def frameBuffer (frame : GoodixFrame) (seq : UInt16) : List UInt8 :=
  wrapped (mpHead mpTypeCmd frame.bytes.length ++ frame.bytes) seq

theorem frameBuffer_sent (frame : GoodixFrame) (seq : UInt16)
    (h : frame.payload.length ≤ cmdPayloadMax) (hck : frame.parsed.protoChecksumOk = true) :
    SentCommand frame.cmd frame.payload seq (frameBuffer frame seq) := by
  have hfits : frame.payload.length ≤ 496 := h
  have hlen : frame.bytes.length = frame.payload.length + 4 := frame.length_bytes
  unfold frameBuffer
  generalize hmp : mpHead mpTypeCmd frame.bytes.length ++ frame.bytes = mp
  have hmplen : mp.length = frame.payload.length + 8 := by
    rw [← hmp, List.length_append, length_mpHead, hlen]
    omega
  have hsmall : mp.length < 65536 := by omega
  constructor
  case len_pos => rw [length_wrapped, mpWrappedLen]; omega
  case len_mod => rw [length_wrapped]; exact mpWrappedLen_mod mp.length
  case len_le =>
    rw [length_wrapped]
    refine mpWrappedLen_le ?_
    show mp.length ≤ 504
    omega
  case decoded =>
    have hlt : frame.bytes.length < mpLenMax := by
      rw [hlen]
      exact Nat.lt_of_le_of_lt (Nat.add_le_add_right hfits 4) (by decide)
    have htype : mpTypeValid mpTypeCmd = true := rfl
    obtain ⟨mpLen, hhead, htoNat⟩ := mpCheckHead_mpHead htype hlt frame.bytes
    rw [hmp] at hhead
    have hbody : (mp.drop 4).take mpLen.toNat = frame.bytes ++ [] := by
      rw [← hmp, htoNat, List.append_nil]
      exact List.take_length
    have hnibble : mp.getD 0 0 >>> 4 = mpTypeCmd := by
      rw [← hmp]
      exact mpType_nibble htype
    refine ⟨frame.parsed, ?_, rfl, rfl, hck⟩
    simp only [decodeCommand, unwrap_wrapped hsmall, hhead, hbody, frame.parseGoodixBody_bytes,
      hnibble]
  case padding =>
    rw [wrapperFrameLen_wrapped hsmall, drop_wrapped]
    intro b hb
    exact mem_zeros hb
  case reserved => exact ⟨rfl, rfl⟩
  case seq => exact le16_split seq

section Send

variable {σ : Type} {sys : Sys σ} {dev : Dev}

/-- What is left of `gxfp_dev_send_packet` once the payload is known to fit. -/
theorem devSendPacket_eq (hd : dev.Opened) {payload : List UInt8}
    (hle : payload.length ≤ mpMaxPayload) (s : σ) :
    let mp := mpHead mpTypeCmd payload.length ++ payload
    let tx := wrapped mp (dev.seq16 + 1)
    devSendPacket sys dev mpTypeCmd payload s =
      match sys.write tx s with
      | (.error e, s) => (.error e, { dev with seq16 := dev.seq16 + 1 }, s)
      | (.ok wr, s) =>
        if wr ≠ tx.length then (.error .io, { dev with seq16 := dev.seq16 + 1 }, s)
        else (.ok (), { dev with seq16 := dev.seq16 + 1 }, s) := by
  intro mp tx
  have hbuild : mpBuild mpTypeCmd payload (4 + mpMaxPayload) = .ok mp :=
    mpBuild_ok rfl (Nat.lt_of_le_of_lt hle (by decide)) (Nat.add_le_add_left hle 4)
  have hmplen : mp.length = 4 + payload.length := by
    rw [List.length_append, length_mpHead]
  have hwrap : mpWrap mp dev.seq16 mpTxBufferSize = .ok (tx, dev.seq16 + 1) :=
    mpWrap_ok (by omega) (by omega) dev.seq16
  rw [devSendPacket, if_neg hd.fd, if_neg (Nat.not_lt.mpr hle)]
  rcases hw : sys.write tx s with ⟨_ | wr, s'⟩
  · simp only [hbuild, hwrap, hw]
  · simp only [hbuild, hwrap, hw]

/-- The Goodix layer of `gxfp_goodix_send_async`: its frame is handed on unaltered. -/
theorem goodixSendAsync_frame (cmd : UInt8) {payload : List UInt8}
    (h : payload.length ≤ goodixPayloadMax) (s : σ) :
    goodixSendAsync sys dev cmd payload s =
      devSendPacket sys dev mpTypeCmd
        (GoodixFrame.built cmd payload (Nat.le_trans h (by decide))).bytes s := by
  have hmax : payload.length ≤ 65280 := h
  have hcap : payload.length + 4 ≤ 1 + 2 + goodixPayloadMax + 1 := by
    show _ ≤ 65284
    omega
  have hlen : (GoodixFrame.built cmd payload (Nat.le_trans h (by decide))).bytes.length
      = payload.length + 4 := GoodixFrame.length_bytes _
  unfold goodixSendAsync
  simp only [goodixBuildFrame_ok h hcap]
  rw [hlen, Nat.toUInt16_eq, UInt16.toNat_ofNat', Nat.mod_eq_of_lt (by omega), ← hlen,
    List.take_length]

/-- The buffer that carries a command whose payload fits. -/
def commandBuffer (cmd : UInt8) (payload : List UInt8) (seq : UInt16)
    (h : payload.length ≤ cmdPayloadMax) : List UInt8 :=
  frameBuffer (GoodixFrame.built cmd payload (Nat.le_trans h (by decide))) seq

theorem goodixSendAsync_eq (hd : dev.Opened) (cmd : UInt8) {payload : List UInt8}
    (h : payload.length ≤ cmdPayloadMax) (s : σ) :
    goodixSendAsync sys dev cmd payload s =
      match sys.write (commandBuffer cmd payload (dev.seq16 + 1) h) s with
      | (.error e, s) => (.error e, { dev with seq16 := dev.seq16 + 1 }, s)
      | (.ok wr, s) =>
        if wr ≠ (commandBuffer cmd payload (dev.seq16 + 1) h).length then
          (.error .io, { dev with seq16 := dev.seq16 + 1 }, s)
        else (.ok (), { dev with seq16 := dev.seq16 + 1 }, s) := by
  have hmax : payload.length ≤ goodixPayloadMax := Nat.le_trans h (by decide)
  have hroom : (GoodixFrame.built cmd payload (Nat.le_trans h (by decide))).bytes.length
      ≤ mpMaxPayload := by
    rw [GoodixFrame.length_bytes]
    exact Nat.add_le_add_right h 4
  rw [goodixSendAsync_frame cmd hmax, devSendPacket_eq hd hroom]
  rfl

/-- A command that fits goes out if writing works. -/
theorem goodixSendAsync_sent (hd : dev.Opened) (hwrite : ∀ b s, sys.write b s = (.ok b.length, s))
    (cmd : UInt8) {payload : List UInt8} (h : payload.length ≤ cmdPayloadMax) (s : σ) :
    goodixSendAsync sys dev cmd payload s = (.ok (), { dev with seq16 := dev.seq16 + 1 }, s) := by
  rw [goodixSendAsync_eq hd cmd h, hwrite]
  exact if_neg (not_not.mpr rfl)

/-- A command that is too long is refused before anything moves. -/
theorem goodixSendAsync_refused (hd : dev.Opened) (cmd : UInt8) {payload : List UInt8}
    (h : cmdPayloadMax < payload.length) (s : σ) :
    ∃ e, goodixSendAsync sys dev cmd payload s = (.error e, dev, s) := by
  have hlong : 496 < payload.length := h
  by_cases hmax : payload.length ≤ goodixPayloadMax
  · have hroom : mpMaxPayload
        < (GoodixFrame.built cmd payload (Nat.le_trans hmax (by decide))).bytes.length := by
      rw [GoodixFrame.length_bytes]
      show 500 < payload.length + 4
      omega
    refine ⟨.msgsize, ?_⟩
    rw [goodixSendAsync_frame cmd hmax, devSendPacket, if_neg hd.fd, if_pos hroom]
  · refine ⟨.overflow, ?_⟩
    unfold goodixSendAsync
    rw [goodixBuildFrame_overflow (Nat.lt_of_not_le hmax)]

/--
**A command that fits is written once and can be decoded back; one that does not
fit has no effect.**
-/
theorem goodixSendAsync_decodes (hd : dev.Opened)
    (hwrite : ∀ b s, (sys.write b s).1 = .ok b.length)
    (cmd : UInt8) (payload : List UInt8) (s : σ) (log : List (List UInt8)) :
    (payload.length ≤ 496 →
      ∃ tx s', goodixSendAsync sys.logged dev cmd payload (s, log)
          = (.ok (), { dev with seq16 := dev.seq16 + 1 }, (s', log ++ [tx])) ∧
        SentCommand cmd payload (dev.seq16 + 1) tx) ∧
    (496 < payload.length → payload.length ≤ 65535 →
      ∃ e, goodixSendAsync sys.logged dev cmd payload (s, log) = (.error e, dev, (s, log))) := by
  constructor
  · intro h
    have hsent : SentCommand cmd payload (dev.seq16 + 1)
        (commandBuffer cmd payload (dev.seq16 + 1) h) :=
      frameBuffer_sent _ _ h (GoodixFrame.protoChecksumOk_built cmd payload _)
    refine ⟨_, (sys.write (commandBuffer cmd payload (dev.seq16 + 1) h) s).2, ?_, hsent⟩
    rw [goodixSendAsync_eq hd cmd h]
    simp only [Sys.logged, hwrite, ne_eq, not_true_eq_false, if_false]
  · intro h _
    exact goodixSendAsync_refused hd cmd h (s, log)

end Send

/-- A device that takes every command and never answers. -/
def silentSys : Sys Unit where
  poll _ s := (.timedOut, s)
  read s := (.failed .again, s)
  write b s := (.ok b.length, s)
  flushRx s := (.ok (), s)
  clock s := (0, s)

/-- A register is written with the last sequence number, so that the counter wraps; and a
payload of 497 bytes is refused. -/
theorem goodixSendAsync_decodes_register :
    (∃ tx s', goodixSendAsync silentSys.logged ⟨3, 0xFFFF, 1000, true⟩ 0x80
        [0x00, 0x20, 0x02, 0x18, 0x08] ((), []) =
          (.ok (), ⟨3, 0xFFFF + 1, 1000, true⟩, (s', [] ++ [tx])) ∧
        SentCommand 0x80 [0x00, 0x20, 0x02, 0x18, 0x08] (0xFFFF + 1) tx) ∧
      ∃ e, goodixSendAsync silentSys.logged ⟨3, 0xFFFF, 1000, true⟩ 0x80
        (List.replicate 497 0x5A) ((), []) = (.error e, ⟨3, 0xFFFF, 1000, true⟩, ((), [])) := by
  have hopen : Dev.Opened ⟨3, 0xFFFF, 1000, true⟩ := ⟨by decide, rfl⟩
  have hwrite : ∀ b s, (silentSys.write b s).1 = .ok b.length := fun _ _ => rfl
  have hlong : (List.replicate 497 (0x5A : UInt8)).length = 497 := List.length_replicate
  refine ⟨(goodixSendAsync_decodes hopen hwrite 0x80 _ () []).1 (by decide), ?_⟩
  exact (goodixSendAsync_decodes hopen hwrite 0x80 _ () []).2 (by omega) (by omega)

end Gxfp
