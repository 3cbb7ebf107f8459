/-
The character device as `src/io/dev.c` uses it.

`gxfp_dev_read_record` waits for a mailbox record, checks that it starts an MP
frame, and collects as many further records as the frame needs;
`gxfp_dev_send_packet` wraps a payload and writes it.  Both talk to the other side
of the file descriptor through system calls only, so the model takes those calls
as a parameter: a `Sys σ` says what each of them returns and how the state `σ` of
the other side moves.  Nothing is assumed about it here.  A queue of records, a
script of time-outs and a device that answers late are instances, chosen where a
result needs one.

The reassembly loop recurses on the bytes still missing.  It makes progress
because `readChunk` only ever returns a record with at least one valid byte, which
is why its result type carries that fact.
-/
import Gxfp.Proto.Mp

namespace Gxfp

open Bytes

/-! ### The device and its system calls -/

def rxMax : Nat := 0xE00

/-- `struct gxfp_rx_record`; the data window always has `GXFP_RX_MAX` bytes. -/
structure RxRecord where
  len : UInt32
  reserved : UInt32
  timestampNs : UInt64
  data : List UInt8
  size_data : data.length = rxMax
  deriving DecidableEq

/-- `struct gxfp_dev`; of the receive buffer only whether it was allocated. -/
structure Dev where
  fd : Int
  seq16 : UInt16
  irqTimeoutMs : Nat
  rxChunk : Bool
  deriving DecidableEq, Repr

/-- What `poll(2)` reports: failure, time-out, or the events that are set. -/
inductive PollOutcome
  | failed (e : Errno)
  | timedOut
  | ready (pollin pollerr : Bool)
  deriving DecidableEq, Repr

/-- What `read(2)` reports: failure, some other count than asked for, or a record. -/
inductive ReadOutcome
  | failed (e : Errno)
  | short (n : Nat)
  | record (rec : RxRecord)
  deriving DecidableEq

/-- The system calls of `dev.c`, over the state `σ` of the other side. -/
structure Sys (σ : Type) where
  poll : Nat → σ → PollOutcome × σ
  read : σ → ReadOutcome × σ
  write : List UInt8 → σ → Except Errno Nat × σ
  flushRx : σ → Except Errno Unit × σ
  clock : σ → UInt64 × σ

/-- A record whose header `gxfp_read_chunk` accepted. -/
structure RxChunk extends RxRecord where
  len_pos : 0 < len.toNat
  len_le : len.toNat ≤ rxMax

/--
The valid bytes of a chunk: `rec->data` up to `rec->len`.  Taking `n` of them is
the `memcpy` of the smaller of `n` and `rec->len` bytes.
-/
def RxChunk.bytes (c : RxChunk) : List UInt8 := c.data.take c.len.toNat

@[simp] theorem RxChunk.length_bytes (c : RxChunk) : c.bytes.length = c.len.toNat := by
  rw [bytes, List.length_take, c.size_data]
  exact Nat.min_eq_left c.len_le

/-- `struct gxfp_tap_hdr` -/
structure TapHdr where
  len : UInt32
  type : UInt32
  tsNs : UInt64
  head16 : List UInt8
  deriving DecidableEq, Repr

def sizeofTapHdr : Nat := 40

/-- The buffer both receive loops pass: a tap header and the largest frame. -/
def tapCap : Nat := sizeofTapHdr + mpFrameMax

/-- What a successful `gxfp_dev_read_record` leaves in its out arguments, and its result. -/
structure TapRecord where
  hdr : TapHdr
  payload : List UInt8
  ret : Nat
  deriving DecidableEq, Repr

section Receive

variable {σ : Type} (sys : Sys σ) (dev : Dev)

/-- What `gxfp_dev_poll_readable` makes of `poll(2)`. -/
def pollReadable : PollOutcome → Except Errno Unit
  | .failed e => .error e
  | .timedOut => .error .again
  | .ready pollin pollerr =>
    if pollin then .ok () else if pollerr then .error .io else .error .again

/-- `gxfp_dev_poll_readable` -/
def devPollReadable (timeoutMs : Int) (s : σ) : Except Errno Unit × σ :=
  if dev.fd < 0 then (.error .inval, s)
  else
    let waitMs := if 0 < timeoutMs then timeoutMs.toNat else 1
    let (out, s) := sys.poll waitMs s
    (pollReadable out, s)

/-- What `gxfp_read_chunk` makes of `read(2)`. -/
def chunkOf : ReadOutcome → Except Errno RxChunk
  | .failed e => .error e
  | .short _ => .error .io
  | .record rec =>
    if h : rec.reserved ≠ 0 ∨ rec.len = 0 ∨ rxMax < rec.len.toNat then .error .badmsg
    else .ok
      { rec with
        len_pos := Nat.pos_of_ne_zero fun h0 => h (Or.inr (Or.inl (UInt32.toNat_inj.mp h0)))
        len_le := Nat.le_of_not_lt fun hlt => h (Or.inr (Or.inr hlt)) }

/-- `gxfp_read_chunk` -/
def readChunk (s : σ) : Except Errno RxChunk × σ :=
  let (out, s) := sys.read s
  (chunkOf out, s)

/-- The loop of `gxfp_rx_assemble`: collect records until `total` bytes are there. -/
def rxAssembleLoop (total : Nat) (frame : List UInt8) (s : σ) : Except Errno (List UInt8) × σ :=
  if frame.length < total then
    match devPollReadable sys dev dev.irqTimeoutMs s with
    | (.error e, s) => (.error e, s)
    | (.ok (), s) =>
      match readChunk sys s with
      | (.error e, s) => (.error e, s)
      | (.ok c, s) =>
        rxAssembleLoop total
          (frame ++ c.bytes.take (mpRxChunk (total - frame.length))) s
  else (.ok frame, s)
termination_by total - frame.length
decreasing_by
  have hpos := c.len_pos
  have hchunk : 0 < mpRxChunk (total - frame.length) := mpRxChunk_pos (by omega)
  simp only [List.length_append, List.length_take, RxChunk.length_bytes]
  omega

/-- The tap header of a complete frame. -/
def tapHdr (frame : List UInt8) (mpLen : UInt16) (tsNs : UInt64) : TapHdr where
  len := mpLen.toUInt32
  type := (frame.getD 0 0 >>> 4).toUInt32
  tsNs := tsNs
  head16 := (frame.drop 4).take (min mpLen.toNat 16) ++ zeros (16 - min mpLen.toNat 16)

/-- `gxfp_rx_assemble` -/
def rxAssemble (bufCap : Nat) (s : σ) : Except Errno TapRecord × σ :=
  if bufCap < sizeofTapHdr + mpChunkMax then (.error .msgsize, s)
  else
    match readChunk sys s with
    | (.error e, s) => (.error e, s)
    | (.ok c, s) =>
      match mpCheckHead c.bytes with
      | none => (.error .again, s)
      | some mpLen =>
        let total := 4 + mpLen.toNat
        if bufCap - sizeofTapHdr < total then (.error .msgsize, s)
        else
          match rxAssembleLoop sys dev total (c.bytes.take (mpRxChunk total)) s with
          | (.error e, s) => (.error e, s)
          | (.ok frame, s) =>
            let (tsNs, s) := sys.clock s
            (.ok {
              hdr := tapHdr frame mpLen tsNs
              payload := frame.drop 4
              ret := sizeofTapHdr + mpLen.toNat }, s)

/-- `gxfp_dev_read_record` -/
def devReadRecord (bufCap : Nat) (s : σ) : Except Errno TapRecord × σ :=
  if dev.fd < 0 ∨ ¬ dev.rxChunk then (.error .inval, s)
  else
    match devPollReadable sys dev 0 s with
    | (.error e, s) => (.error e, s)
    | (.ok (), s) => rxAssemble sys dev bufCap s

/-- `gxfp_dev_send_packet`: its result, and the device with its sequence number moved on. -/
def devSendPacket (mpType : UInt8) (payload : List UInt8) (s : σ) : Except Errno Unit × Dev × σ :=
  if dev.fd < 0 then (.error .inval, dev, s)
  else if mpMaxPayload < payload.length then (.error .msgsize, dev, s)
  else
    match mpBuild mpType payload (4 + mpMaxPayload) with
    | .error e => (.error e, dev, s)
    | .ok mp =>
      match mpWrap mp dev.seq16 mpTxBufferSize with
      | .error e => (.error e, dev, s)
      | .ok (tx, seq16) =>
        let dev := { dev with seq16 }
        match sys.write tx s with
        | (.error e, s) => (.error e, dev, s)
        | (.ok wr, s) => if wr ≠ tx.length then (.error .io, dev, s) else (.ok (), dev, s)

/-- `gxfp_dev_flush_rxq` -/
def devFlushRxq (s : σ) : Except Errno Unit × σ :=
  if dev.fd < 0 then (.error .inval, s) else sys.flushRx s

end Receive

/-! ### Reading the definitions -/

section Lemmas

variable {σ : Type} {sys : Sys σ} {dev : Dev}

/-- The state of a device between `gxfp_dev_open` and `gxfp_dev_close`. -/
structure Dev.Opened (dev : Dev) : Prop where
  fd : ¬ dev.fd < 0
  rxChunk : dev.rxChunk = true

theorem devPollReadable_eq (hd : dev.Opened) (t : Int) (s : σ) :
    devPollReadable sys dev t s =
      (pollReadable (sys.poll (if 0 < t then t.toNat else 1) s).1,
        (sys.poll (if 0 < t then t.toNat else 1) s).2) := by
  simp [devPollReadable, hd.fd]

theorem devReadRecord_eq (hd : dev.Opened) (cap : Nat) (s : σ) :
    devReadRecord sys dev cap s =
      match pollReadable (sys.poll 1 s).1 with
      | .error e => (.error e, (sys.poll 1 s).2)
      | .ok () => rxAssemble sys dev cap (sys.poll 1 s).2 := by
  rw [devReadRecord, if_neg (by simp [hd.fd, hd.rxChunk]), devPollReadable_eq hd]
  simp only [Int.lt_irrefl, if_false]
  cases pollReadable (sys.poll 1 s).1 <;> rfl

/-- A record as the kernel makes it is always accepted. -/
theorem chunkOf_record {rec : RxRecord} (hres : rec.reserved = 0) (hpos : 0 < rec.len.toNat)
    (hle : rec.len.toNat ≤ rxMax) :
    chunkOf (.record rec) = .ok ⟨rec, hpos, hle⟩ := by
  have hne : rec.len ≠ 0 := by
    rintro h
    rw [h] at hpos
    exact absurd hpos (by decide)
  simp [chunkOf, hres, hne, Nat.not_lt.mpr hle]

theorem rxAssembleLoop_done {total : Nat} {frame : List UInt8} (h : ¬ frame.length < total)
    (s : σ) : rxAssembleLoop sys dev total frame s = (.ok frame, s) := by
  rw [rxAssembleLoop, if_neg h]

/-- **A frame the loop completes has exactly the length its head announced.** -/
theorem rxAssembleLoop_length {total : Nat} {frame out : List UInt8} {s s' : σ}
    (hle : frame.length ≤ total)
    (h : rxAssembleLoop sys dev total frame s = (.ok out, s')) : out.length = total := by
  fun_induction rxAssembleLoop sys dev total frame s with
  | case1 | case2 => simp at h
  | case3 frame s hlt s₁ hpoll c s₂ hread ih =>
    refine ih ?_ h
    have := mpRxChunk_le (total - frame.length)
    simp only [List.length_append, List.length_take]
    omega
  | case4 frame s hge =>
    simp only [Prod.mk.injEq, Except.ok.injEq] at h
    rw [← h.1]
    omega

end Lemmas

end Gxfp
