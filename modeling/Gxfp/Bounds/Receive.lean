/-
The receive path with its array accesses checked.

Here every function of the path is written once more, in `Check`: an index into a received
array or a buffer, a `memcpy` and a subtraction of unsigned numbers each stop the
computation where C would be out of bounds.  The definitions have the names of the ones
they follow, and for each there is one theorem: it is `.ok` of what that one computes.

A buffer that a function fills is a list of its whole length, of any contents.
`rxAssembleLoop` stores into it behind a tap header, and what the other model calls
the frame is what is in the buffer there.
-/
import Gxfp.Cmd.Xfer
import Gxfp.Library.Checked
import Mathlib.Data.Vector.Defs

namespace Gxfp.Bounds

open Bytes Checked

/-! ### Bytes and words -/

/-- `gxfp_le16` of the bytes from an index on. -/
def le16At (p : List UInt8) (i : Nat) : Check UInt16 := do
  let lo ← fetch p i
  let hi ← fetch p (i + 1)
  pure (le16 lo hi)

theorem fetch_byteAt {p : List UInt8} {i : Nat} (h : i < p.length) :
    fetch p i = .ok (byteAt p i) := fetch_of_lt h 0

theorem le16At_eq {p : List UInt8} {i : Nat} (h : i + 1 < p.length) :
    le16At p i = .ok (Bytes.le16At p i) := by
  rw [le16At, fetch_byteAt (by omega), ok_bind, fetch_byteAt h]
  rfl

/-! ### Heads and frames -/

/-- `gxfp_mp_check_head` -/
def mpCheckHead (buf : List UInt8) : Check (Option UInt16) :=
  if buf.length < 4 then pure none
  else do
    let flags ← fetch buf 0
    if ¬ mpTypeValid (flags >>> 4) then pure none
    else
      let mpLen ← le16At buf 1
      if mpLenMax ≤ mpLen.toNat then pure none
      else
        let lo ← fetch buf 1
        let hi ← fetch buf 2
        let checksum := flags + lo + hi
        let ck ← fetch buf 3
        if ck ≠ checksum then pure none else pure (some mpLen)

/-- `gxfp_goodix_proto_checksum` -/
def goodixProtoChecksum (cmd : UInt8) (declLen : UInt16) (payload : List UInt8)
    (payloadLen : Nat) : Check UInt8 := do
  let sum ← (List.range payloadLen).foldlM (fun sum i => do
      let b ← fetch payload i
      pure (sum + b.toUInt32))
    (cmd.toUInt32 + (loByte declLen.toNat).toUInt32 + (hiByte declLen.toNat).toUInt32)
  pure (goodixChecksumSeed - sum.toUInt8)

/-- `gxfp_parse_goodix_body`; the payload is the slice of the input it denotes. -/
def parseGoodixBody (buf : List UInt8) : Check (Option FrameParsed) :=
  if buf.length < 4 then pure none
  else do
    let cmd ← fetch buf 0
    let declLen ← le16At buf 1
    if declLen.toNat < 1 then pure none
    else
      let payloadLen ← diff declLen.toNat 1
      if buf.length < 3 + payloadLen + 1 then pure none
      else
        let payload ← slice buf 3 payloadLen
        let protoCk ← fetch buf (3 + payloadLen)
        let sum ← goodixProtoChecksum cmd declLen payload payloadLen
        pure (some {
          valid := true
          protoChecksumOk := sum == protoCk
          cmd := cmd
          declLen := declLen
          payload := payload
          protoChecksum := protoCk })

theorem mpCheckHead_eq (buf : List UInt8) : mpCheckHead buf = .ok (Gxfp.mpCheckHead buf) := by
  match buf with
  | [] | [_] | [_, _] | [_, _, _] => rfl
  | flags :: lo :: hi :: ck :: rest =>
      have hlong : ¬ (flags :: lo :: hi :: ck :: rest).length < 4 := by
        simp only [List.length_cons]
        omega
      rw [mpCheckHead, if_neg hlong, Gxfp.mpCheckHead]
      simp only [le16At, fetch, List.getElem?_cons_zero, List.getElem?_cons_succ, ok_bind,
        pure_eq_ok]
      split_ifs <;> rfl

theorem goodixProtoChecksum_eq (cmd : UInt8) (declLen : UInt16) (payload : List UInt8) :
    goodixProtoChecksum cmd declLen payload payload.length =
      .ok (Gxfp.goodixProtoChecksum cmd declLen payload) := by
  rw [goodixProtoChecksum, foldlM_fetch _ _ (Nat.le_refl _), List.take_length]
  rfl

theorem parseGoodixBody_eq (buf : List UInt8) :
    parseGoodixBody buf = .ok (Gxfp.parseGoodixBody buf) := by
  match buf with
  | [] | [_] | [_, _] => rfl
  | cmd :: lo :: hi :: body =>
      have hcmd : fetch (cmd :: lo :: hi :: body) 0 = .ok cmd := rfl
      have hdeclLen : le16At (cmd :: lo :: hi :: body) 1 = .ok (le16 lo hi) := rfl
      rw [parseGoodixBody, Gxfp.parseGoodixBody]
      refine ite_eq_ok (fun _ => rfl) fun _ => ?_
      rw [hcmd, ok_bind, hdeclLen, ok_bind]
      refine ite_eq_ok (fun _ => rfl) fun hdecl => ?_
      rw [diff_of_le (by omega), ok_bind]
      generalize (le16 lo hi).toNat - 1 = payloadLen
      refine ite_eq_ok (fun _ => rfl) fun hneed => ?_
      have hck : 3 + payloadLen < (cmd :: lo :: hi :: body).length := by omega
      have hbody : byteAt (cmd :: lo :: hi :: body) (3 + payloadLen) = body.getD payloadLen 0 := by
        rw [Nat.add_comm]
        rfl
      have hlen : (body.take payloadLen).length = payloadLen := by
        rw [List.length_cons, List.length_cons, List.length_cons] at hck
        rw [List.length_take]
        omega
      have hsum := goodixProtoChecksum_eq cmd (le16 lo hi) (body.take payloadLen)
      rw [hlen] at hsum
      rw [slice_of_le (by omega), ok_bind, fetch_byteAt hck, ok_bind, hbody]
      simp only [List.drop_succ_cons, List.drop_zero, hsum, ok_bind, pure_eq_ok]

/-! ### Records -/

section Records

variable {σ : Type} (sys : Sys σ) (dev : Dev)

/-- The loop of `gxfp_rx_assemble`: `copied` bytes of the frame are in `buf`. -/
def rxAssembleLoop (total : Nat) (buf : List UInt8) (copied : Nat) (s : σ) :
    Check (Except Errno (List UInt8) × σ) :=
  if copied < total then
    match _hremain : diff total copied with
    | .error fault => .error fault
    | .ok remain =>
      match devPollReadable sys dev dev.irqTimeoutMs s with
      | (.error e, s) => pure (.error e, s)
      | (.ok (), s) =>
        match readChunk sys s with
        | (.error e, s) => pure (.error e, s)
        | (.ok c, s) => do
          let chunk := min (mpRxChunk remain) c.len.toNat
          let buf ← copy buf (sizeofTapHdr + copied) c.bytes 0 chunk
          rxAssembleLoop total buf (copied + chunk) s
  else pure (.ok buf, s)
termination_by total - copied
decreasing_by
  have hpos := c.len_pos
  have hdiff : remain = total - copied := by
    rw [diff_of_le (by omega)] at _hremain
    exact (Except.ok.inj _hremain).symm
  have hchunk : 0 < mpRxChunk remain := mpRxChunk_pos (by omega)
  omega

/-- `gxfp_rx_assemble` -/
def rxAssemble (buf : List UInt8) (s : σ) : Check (Except Errno TapRecord × σ) :=
  if buf.length < sizeofTapHdr + mpChunkMax then pure (.error .msgsize, s)
  else
    match readChunk sys s with
    | (.error e, s) => pure (.error e, s)
    | (.ok c, s) => do
      match ← mpCheckHead c.bytes with
      | none => pure (.error .again, s)
      | some mpLen =>
        let total := 4 + mpLen.toNat
        let room ← diff buf.length sizeofTapHdr
        if room < total then pure (.error .msgsize, s)
        else
          let copied := min (mpRxChunk total) c.len.toNat
          let buf ← copy buf sizeofTapHdr c.bytes 0 copied
          match ← rxAssembleLoop sys dev total buf copied s with
          | (.error e, s) => pure (.error e, s)
          | (.ok buf, s) =>
            let flags ← fetch buf sizeofTapHdr
            let (tsNs, s) := sys.clock s
            let head16 ← copy (zeros 16) 0 buf (sizeofTapHdr + 4) (min mpLen.toNat 16)
            let payload ← slice buf (sizeofTapHdr + 4) mpLen.toNat
            pure (.ok {
              hdr := { len := mpLen.toUInt32, type := (flags >>> 4).toUInt32, tsNs, head16 }
              payload
              ret := sizeofTapHdr + mpLen.toNat }, s)

/-- `gxfp_dev_read_record` -/
def devReadRecord (buf : List UInt8) (s : σ) : Check (Except Errno TapRecord × σ) :=
  if dev.fd < 0 ∨ ¬ dev.rxChunk then pure (.error .inval, s)
  else
    match devPollReadable sys dev 0 s with
    | (.error e, s) => pure (.error e, s)
    | (.ok (), s) => rxAssemble sys dev buf s

theorem length_take_bytes (c : RxChunk) (n : Nat) :
    (c.bytes.take n).length = min n c.len.toNat := by
  rw [List.length_take, c.length_bytes]

/-- Copying no more than `rec->len` bytes of a record. -/
theorem copy_bytes (c : RxChunk) {buf : List UInt8} {i n : Nat}
    (h : i + min n c.len.toNat ≤ buf.length) :
    copy buf i c.bytes 0 (min n c.len.toNat) = .ok (overwrite buf i (c.bytes.take n)) := by
  rw [copy_of_le (by rw [c.length_bytes]; omega) h, List.drop_zero, ← c.length_bytes,
    ← List.take_take, List.take_length]

variable {sys dev}

theorem rxAssembleLoop_eq {total : Nat} {frame buf : List UInt8} {s : σ}
    (hle : frame.length ≤ total) (hroom : sizeofTapHdr + total ≤ buf.length) :
    rxAssembleLoop sys dev total (overwrite buf sizeofTapHdr frame) frame.length s =
      .ok ((Gxfp.rxAssembleLoop sys dev total frame s).1.map (overwrite buf sizeofTapHdr),
        (Gxfp.rxAssembleLoop sys dev total frame s).2) := by
  fun_induction Gxfp.rxAssembleLoop sys dev total frame s with
  | case1 frame s hlt e s₁ hpoll =>
      rw [rxAssembleLoop, if_pos hlt, diff_of_le hle]
      simp only [hpoll]
      rfl
  | case2 frame s hlt s₁ hpoll e s₂ hread =>
      rw [rxAssembleLoop, if_pos hlt, diff_of_le hle]
      simp only [hpoll, hread]
      rfl
  | case3 frame s hlt s₁ hpoll c s₂ hread ih =>
      rw [rxAssembleLoop, if_pos hlt, diff_of_le hle]
      simp only [hpoll, hread]
      have hchunk := mpRxChunk_le (total - frame.length)
      have hlen := length_take_bytes c (mpRxChunk (total - frame.length))
      have hfit : frame.length + (c.bytes.take (mpRxChunk (total - frame.length))).length ≤
          total := by omega
      have hroom' : sizeofTapHdr + frame.length + min (mpRxChunk (total - frame.length))
          c.len.toNat ≤ (overwrite buf sizeofTapHdr frame).length := by
        rw [length_overwrite (by omega)]
        omega
      rw [copy_bytes c hroom', ok_bind, overwrite_overwrite (by omega), ← hlen,
        ← List.length_append]
      exact ih (List.length_append ▸ hfit)
  | case4 frame s hge =>
      rw [rxAssembleLoop, if_neg hge]
      rfl

theorem rxAssemble_eq (buf : List UInt8) (s : σ) :
    rxAssemble sys dev buf s = .ok (Gxfp.rxAssemble sys dev buf.length s) := by
  unfold rxAssemble Gxfp.rxAssemble
  refine ite_eq_ok (fun _ => rfl) fun hcap => ?_
  rcases readChunk sys s with ⟨e | c, s⟩
  · rfl
  dsimp only
  rw [mpCheckHead_eq, ok_bind]
  cases Gxfp.mpCheckHead c.bytes with
  | none => rfl
  | some mpLen =>
      dsimp only
      rw [diff_of_le (by omega), ok_bind]
      refine ite_eq_ok (fun _ => rfl) fun htotal => ?_
      have hchunk := mpRxChunk_le (4 + mpLen.toNat)
      have hlen := length_take_bytes c (mpRxChunk (4 + mpLen.toNat))
      have hfit : (c.bytes.take (mpRxChunk (4 + mpLen.toNat))).length ≤ 4 + mpLen.toNat := by
        omega
      rw [copy_bytes c (by omega), ok_bind, ← hlen, rxAssembleLoop_eq hfit (by omega), ok_bind]
      rcases hloop : Gxfp.rxAssembleLoop sys dev (4 + mpLen.toNat)
        (c.bytes.take (mpRxChunk (4 + mpLen.toNat))) s with ⟨e | frame, s'⟩
      · rfl
      have hframe : frame.length = 4 + mpLen.toNat := rxAssembleLoop_length hfit hloop
      have hroom : sizeofTapHdr + frame.length ≤ buf.length := by omega
      have hflags : fetch (overwrite buf sizeofTapHdr frame) sizeofTapHdr =
          .ok (frame.getD 0 0) := by
        have hfirst := getD_overwrite hroom (k := 0) (by omega) 0
        rw [fetch_of_lt (by rw [length_overwrite hroom]; omega) 0]
        exact congrArg Except.ok hfirst
      have hpayload : slice (overwrite buf sizeofTapHdr frame) (sizeofTapHdr + 4) mpLen.toNat =
          .ok (frame.drop 4) := by
        rw [slice_overwrite hroom (by omega), List.take_of_length_le]
        rw [List.length_drop]
        omega
      have hhead : ((frame.drop 4).take (min mpLen.toNat 16)).length = min mpLen.toNat 16 := by
        rw [List.length_take, List.length_drop]
        omega
      simp only [Except.map, hflags, ok_bind]
      rw [copy, slice_overwrite hroom (by omega), ok_bind,
        store_of_le (by rw [hhead, length_zeros]; omega), ok_bind, hpayload, ok_bind,
        overwrite_start, hhead, zeros, List.drop_replicate]
      rfl

theorem devReadRecord_eq (buf : List UInt8) (s : σ) :
    devReadRecord sys dev buf s = .ok (Gxfp.devReadRecord sys dev buf.length s) := by
  unfold devReadRecord Gxfp.devReadRecord
  refine ite_eq_ok (fun _ => rfl) fun _ => ?_
  rcases devPollReadable sys dev 0 s with ⟨e | _, s⟩
  · rfl
  · exact rxAssemble_eq buf s

end Records

/-! ### Responses -/

/-- `gxfp_goodix_frame_selector_fn` -/
abbrev FrameSelector := FrameParsed → Check (Except Errno Bool)

/-- `select_any_frame` -/
def selectAnyFrame : FrameSelector := fun _ => pure (.ok true)

section Responses

variable {σ : Type} (sys : Sys σ) (dev : Dev) (tapBuf : List.Vector UInt8 tapCap)

/-- The loop of `gxfp_goodix_wait_selected`, whose buffer is `tap_buf`; the response is in `rx`. -/
def waitLoop (expectCmd : UInt8) (rx : List UInt8) (fn : FrameSelector) (deadline : Int) :
    Nat → σ → Check (Option (Except Errno (List UInt8) × σ))
  | 0, _ => pure none
  | fuel + 1, s =>
    let (now, s) := monotonicMs sys s
    let remain := deadline - now
    if remain ≤ 0 then pure (some (.error .timedout, s))
    else
      match devPollReadable sys dev remain s with
      | (.error .again, s) => waitLoop expectCmd rx fn deadline fuel s
      | (.error e, s) => pure (some (.error e, s))
      | (.ok (), s) => do
        match ← devReadRecord sys dev tapBuf.toList s with
        | (.error .again, s) => waitLoop expectCmd rx fn deadline fuel s
        | (.error e, s) => pure (some (.error e, s))
        | (.ok rec, s) =>
          if rec.hdr.type ≠ mpTypeCmd.toUInt32 then
            waitLoop expectCmd rx fn deadline fuel s
          else
            match ← parseGoodixBody rec.payload with
            | none => waitLoop expectCmd rx fn deadline fuel s
            | some frame =>
              if ¬ frame.valid ∨ frame.cmd ≠ expectCmd then
                waitLoop expectCmd rx fn deadline fuel s
              else
                match ← fn frame with
                | .error e => pure (some (.error e, s))
                | .ok false => waitLoop expectCmd rx fn deadline fuel s
                | .ok true =>
                  if rx.length < rec.payload.length then pure (some (.error .msgsize, s))
                  else
                    let rx ← copy rx 0 rec.payload 0 rec.payload.length
                    let response ← slice rx 0 rec.payload.length
                    pure (some (.ok response, s))

/-- `gxfp_goodix_wait_selected` -/
def goodixWaitSelected (fuel : Nat) (expectCmd : UInt8) (rx : List UInt8)
    (timeoutMs : Int) (selector : FrameSelector) (s : σ) :
    Check (Option (Except Errno (List UInt8) × σ)) :=
  if rx.length = 0 then pure (some (.error .inval, s))
  else
    let (now, s) := monotonicMs sys s
    let deadline := now + (if 0 < timeoutMs then timeoutMs else 1000)
    waitLoop sys dev tapBuf expectCmd rx selector deadline fuel s

/-- The attempts of `gxfp_goodix_request_selected`. -/
def requestAttempts (fuel : Nat) (reqCmd expectCmd : UInt8) (payload rx : List UInt8)
    (timeoutMs : Int) (selector : FrameSelector) :
    Nat → Dev → σ → Check (Option (Except Errno (List UInt8) × Dev × σ))
  | 0, dev, s => pure (some (.error .timedout, dev, s))
  | n + 1, dev, s =>
    match goodixSendAsync sys dev reqCmd payload s with
    | (.error e, dev, s) => pure (some (.error e, dev, s))
    | (.ok (), dev, s) => do
      match ← goodixWaitSelected sys dev tapBuf fuel expectCmd rx timeoutMs selector s with
      | none => pure none
      | some (.error .timedout, s) =>
        requestAttempts fuel reqCmd expectCmd payload rx timeoutMs selector n dev s
      | some (r, s) => pure (some (r, dev, s))

/-- `gxfp_goodix_request_selected` -/
def goodixRequestSelected (fuel : Nat) (reqCmd expectCmd : UInt8)
    (payload rx : List UInt8) (tries timeoutMs : Int) (selector : FrameSelector) (s : σ) :
    Check (Option (Except Errno (List UInt8) × Dev × σ)) :=
  if rx.length = 0 then pure (some (.error .inval, dev, s))
  else
    requestAttempts sys tapBuf fuel reqCmd expectCmd payload rx timeoutMs selector
      (if 0 < tries then tries.toNat else 1) dev s

variable {sys dev} {fn : FrameSelector} {selector : Gxfp.FrameSelector}
  {tapBuf : List.Vector UInt8 tapCap}

theorem waitLoop_eq (hfn : ∀ frame, fn frame = .ok (selector frame)) (fuel : Nat)
    (expectCmd : UInt8) (rx : List UInt8) (deadline : Int) (s : σ) :
    waitLoop sys dev tapBuf expectCmd rx fn deadline fuel s =
      .ok (Gxfp.waitLoop sys dev expectCmd rx.length selector deadline fuel s) := by
  induction fuel generalizing s with
  | zero => rfl
  | succ fuel ih =>
      unfold waitLoop Gxfp.waitLoop
      simp only [devReadRecord_eq, tapBuf.toList_length, parseGoodixBody_eq, hfn, ok_bind,
        pure_eq_ok, ih]
      refine ite_eq_ok (fun _ => rfl) fun _ => ?_
      rcases devPollReadable sys dev (deadline - (monotonicMs sys s).1) (monotonicMs sys s).2
        with ⟨e | _, s⟩
      · cases e <;> rfl
      dsimp only
      rcases Gxfp.devReadRecord sys dev tapCap s with ⟨e | rec, s⟩
      · cases e <;> rfl
      dsimp only
      refine ite_eq_ok (fun _ => rfl) fun _ => ?_
      rcases Gxfp.parseGoodixBody rec.payload with _ | frame
      · rfl
      dsimp only
      refine ite_eq_ok (fun _ => rfl) fun _ => ?_
      rcases selector frame with e | _ | _
      · rfl
      · rfl
      dsimp only
      refine ite_eq_ok (fun _ => rfl) fun hcap => ?_
      rw [copy_of_le (by omega) (by omega), ok_bind, List.drop_zero,
        List.take_length, slice_stored rfl (by omega), ok_bind]

theorem goodixWaitSelected_eq (hfn : ∀ frame, fn frame = .ok (selector frame))
    (fuel : Nat) (expectCmd : UInt8) (rx : List UInt8)
    (timeoutMs : Int) (s : σ) :
    goodixWaitSelected sys dev tapBuf fuel expectCmd rx timeoutMs fn s =
      .ok (Gxfp.goodixWaitSelected sys dev fuel expectCmd rx.length timeoutMs selector s) := by
  unfold goodixWaitSelected Gxfp.goodixWaitSelected
  exact ite_eq_ok (fun _ => rfl) fun _ => waitLoop_eq hfn fuel expectCmd rx _ _

theorem requestAttempts_eq (hfn : ∀ frame, fn frame = .ok (selector frame))
    (fuel : Nat) (reqCmd expectCmd : UInt8)
    (payload rx : List UInt8) (timeoutMs : Int) (n : Nat) (dev : Dev) (s : σ) :
    requestAttempts sys tapBuf fuel reqCmd expectCmd payload rx timeoutMs fn n dev s =
      .ok (Gxfp.requestAttempts sys fuel reqCmd expectCmd payload rx.length timeoutMs selector
        n dev s) := by
  induction n generalizing dev s with
  | zero => rfl
  | succ n ih =>
      unfold requestAttempts Gxfp.requestAttempts
      rcases goodixSendAsync sys dev reqCmd payload s with ⟨e | _, dev, s⟩
      · rfl
      simp only [goodixWaitSelected_eq hfn, ok_bind, ih]
      rcases Gxfp.goodixWaitSelected sys dev fuel expectCmd rx.length timeoutMs selector s
        with _ | ⟨e | response, s⟩
      · rfl
      · cases e <;> rfl
      · rfl

theorem goodixRequestSelected_eq (hfn : ∀ frame, fn frame = .ok (selector frame))
    (fuel : Nat) (reqCmd expectCmd : UInt8)
    (payload rx : List UInt8) (tries timeoutMs : Int) (s : σ) :
    goodixRequestSelected sys dev tapBuf fuel reqCmd expectCmd payload rx tries timeoutMs fn s =
      .ok (Gxfp.goodixRequestSelected sys dev fuel reqCmd expectCmd payload rx.length tries
        timeoutMs selector s) := by
  unfold goodixRequestSelected Gxfp.goodixRequestSelected
  refine ite_eq_ok (fun _ => rfl) fun _ => ?_
  exact requestAttempts_eq hfn fuel reqCmd expectCmd payload rx timeoutMs _ dev s

end Responses

end Gxfp.Bounds
