/-
Receive reassembly is the inverse of framing and fragmentation.

The controller cuts an encoded MP frame into mailbox windows of `mpChunkMax`
bytes, and fills what the last one leaves over with whatever was there before.
`Fragments` is that cutting.  A stream is then a list of frames with junk records
between them, `Carries`, and the result here is that calling `devReadRecord` once
for each item of the stream gives the items back: a frame as its type and payload,
a junk record as one `-EAGAIN`.

The loop's invariant is that it holds the part of the frame before the records
still queued, so that the bytes to come are exactly the ones those records are
fragments of.  `rxAssembleLoop_fragments` is the induction; the stream theorem is
a second induction over the items, with the rest of the queue as a suffix that no
call may touch.
-/
import Gxfp.Io.Dev

namespace Gxfp

open Bytes

/-! ### Frames, fragments and streams -/

/-- A frame that `gxfp_mp_build` accepts. -/
structure MpFrame where
  type : UInt8
  payload : List UInt8
  type_valid : mpTypeValid type = true
  payload_lt : payload.length < mpLenMax

theorem mpTypeValid_cmd : mpTypeValid mpTypeCmd = true := rfl
theorem mpTypeValid_tls : mpTypeValid mpTypeTls = true := rfl
theorem mpTypeValid_notice : mpTypeValid mpTypeNotice = true := rfl

/-- The frame's bytes. -/
def MpFrame.encoded (f : MpFrame) : List UInt8 := mpHead f.type f.payload.length ++ f.payload

theorem MpFrame.mpBuild_eq (f : MpFrame) : mpBuild f.type f.payload mpFrameMax = .ok f.encoded :=
  mpBuild_ok f.type_valid f.payload_lt (Nat.add_le_add_left (Nat.le_of_lt f.payload_lt) 4)

@[simp] theorem MpFrame.length_encoded (f : MpFrame) :
    f.encoded.length = 4 + f.payload.length := by
  simp [encoded]

/-- A record as the kernel fills it in: the whole window is valid. -/
structure RxRecord.Mailbox (r : RxRecord) : Prop where
  len : r.len.toNat = rxMax
  reserved : r.reserved = 0

/-- `recs` carry `bytes`, cut into full windows, the last one padded with anything. -/
inductive Fragments : List UInt8 → List RxRecord → Prop
  | last {bytes filler : List UInt8} {r : RxRecord} (hr : r.Mailbox)
      (hdata : r.data = bytes ++ filler) : Fragments bytes [r]
  | more {bytes : List UInt8} {r : RxRecord} {rs : List RxRecord} (hr : r.Mailbox)
      (hlen : mpChunkMax < bytes.length) (hdata : r.data = bytes.take mpChunkMax)
      (hrest : Fragments (bytes.drop mpChunkMax) rs) : Fragments bytes (r :: rs)

/-- One thing on the stream. -/
inductive Item
  | frame (f : MpFrame)
  | junk

/-- `recs` are the records of the items, in order. -/
inductive Carries : List Item → List RxRecord → Prop
  | nil : Carries [] []
  | frame {f : MpFrame} {recs rest : List RxRecord} {items : List Item}
      (hf : ∀ bytes, mpBuild f.type f.payload mpFrameMax = .ok bytes → Fragments bytes recs)
      (hrest : Carries items rest) : Carries (.frame f :: items) (recs ++ rest)
  | junk {r : RxRecord} {rest : List RxRecord} {items : List Item} (hr : r.Mailbox)
      (hhead : mpCheckHead (r.data.take 4) = none)
      (hrest : Carries items rest) : Carries (.junk :: items) (r :: rest)

/-- The kernel queue with every record already there. -/
def queueSys (now : List RxRecord → UInt64) : Sys (List RxRecord) where
  poll _ q := (if q = [] then .timedOut else .ready true false, q)
  read
    | [] => (.failed .again, [])
    | r :: q => (.record r, q)
  write b q := (.ok b.length, q)
  flushRx _ := (.ok (), [])
  clock q := (now q, q)

/-- `n` calls of `gxfp_dev_read_record`, one after the other. -/
def readRecords {σ : Type} (sys : Sys σ) (dev : Dev) (cap : Nat) :
    Nat → σ → List (Except Errno TapRecord) × σ
  | 0, s => ([], s)
  | n + 1, s =>
    let (r, s) := devReadRecord sys dev cap s
    let (rs, s) := readRecords sys dev cap n s
    (r :: rs, s)

/-- What a call that completes `f` at time `ts` returns. -/
def tapRecordOf (f : MpFrame) (ts : UInt64) : TapRecord where
  hdr :=
    { len := f.payload.length.toUInt32
      type := f.type.toUInt32
      tsNs := ts
      head16 := f.payload.take 16 ++ zeros (16 - f.payload.length) }
  payload := f.payload
  ret := sizeofTapHdr + f.payload.length

/-- The result a call owes an item. -/
def Item.Answered : Item → Except Errno TapRecord → Prop
  | .frame f, r => ∃ ts, r = .ok (tapRecordOf f ts)
  | .junk, r => r = .error .again

/-! ### One record -/

section Queue

variable {now : List RxRecord → UInt64} {dev : Dev}

theorem mpRxChunk_of_le {n : Nat} (h : n ≤ mpChunkMax) : mpRxChunk n = n := by
  unfold mpRxChunk
  split <;> omega

theorem mpRxChunk_of_ge {n : Nat} (h : mpChunkMax ≤ n) : mpRxChunk n = mpChunkMax := by
  unfold mpRxChunk
  split <;> omega

/-- The chunk a mailbox record reads as. -/
def RxRecord.Mailbox.chunk {r : RxRecord} (h : r.Mailbox) : RxChunk :=
  { r with
    len_pos := by rw [h.len]; decide
    len_le := Nat.le_of_eq h.len }

theorem RxRecord.Mailbox.bytes_chunk {r : RxRecord} (h : r.Mailbox) : h.chunk.bytes = r.data := by
  show r.data.take r.len.toNat = r.data
  rw [h.len, ← r.size_data]
  exact List.take_length

theorem readChunk_queue {r : RxRecord} (h : r.Mailbox) (q : List RxRecord) :
    readChunk (queueSys now) (r :: q) = (.ok h.chunk, q) := by
  show (chunkOf (.record r), q) = _
  rw [chunkOf_record h.reserved h.chunk.len_pos h.chunk.len_le]
  rfl

theorem pollReadable_queue {q : List RxRecord} (hq : q ≠ []) (n : Nat) :
    pollReadable ((queueSys now).poll n q).1 = .ok () := by
  simp [queueSys, hq, pollReadable]

theorem poll_queue_state (n : Nat) (q : List RxRecord) : ((queueSys now).poll n q).2 = q := rfl

theorem devPollReadable_queue (hd : dev.Opened) (timeoutMs : Int) (r : RxRecord)
    (q : List RxRecord) :
    devPollReadable (queueSys now) dev timeoutMs (r :: q) = (.ok (), r :: q) := by
  rw [devPollReadable, if_neg hd.fd]
  rfl

theorem Fragments.ne_nil {bytes : List UInt8} {recs : List RxRecord} (h : Fragments bytes recs) :
    recs ≠ [] := by
  cases h <;> simp

/-- The bytes the loop copies out of the first record, and what is then still to come. -/
theorem Fragments.head {bytes : List UInt8} {r : RxRecord} {rs : List RxRecord}
    (h : Fragments bytes (r :: rs)) :
    ∃ hr : r.Mailbox, hr.chunk.bytes.take (mpRxChunk bytes.length) = bytes.take mpChunkMax ∧
      ((bytes.length ≤ mpChunkMax ∧ rs = []) ∨
        (mpChunkMax < bytes.length ∧ Fragments (bytes.drop mpChunkMax) rs)) := by
  cases h with
  | @last _ filler _ hr hdata =>
      have hlen : bytes.length ≤ mpChunkMax := by
        have hsize := r.size_data
        rw [hdata, List.length_append] at hsize
        exact Nat.le_trans (Nat.le_add_right _ _) (Nat.le_of_eq hsize)
      refine ⟨hr, ?_, Or.inl ⟨hlen, rfl⟩⟩
      rw [hr.bytes_chunk, hdata, mpRxChunk_of_le hlen, List.take_left,
        List.take_of_length_le hlen]
  | more hr hlen hdata hrest =>
      refine ⟨hr, ?_, Or.inr ⟨hlen, hrest⟩⟩
      rw [hr.bytes_chunk, hdata, mpRxChunk_of_ge (Nat.le_of_lt hlen), List.take_take, Nat.min_self]

/-! ### The loop -/

/--
**The loop takes exactly the records that carry the rest of the frame.**
`pre` is what it has collected, `bytes` what is missing, `suffix` what follows on
the queue.
-/
theorem rxAssembleLoop_fragments (hd : dev.Opened) {bytes : List UInt8} {recs : List RxRecord}
    (h : Fragments bytes recs) (hne : bytes ≠ []) (pre : List UInt8) (suffix : List RxRecord) :
    rxAssembleLoop (queueSys now) dev (pre.length + bytes.length) pre (recs ++ suffix)
      = (.ok (pre ++ bytes), suffix) := by
  induction recs generalizing bytes pre with
  | nil => exact absurd rfl h.ne_nil
  | cons r rs ih =>
      have hpos : 0 < bytes.length := List.length_pos_iff.mpr hne
      obtain ⟨hr, htake, hrest⟩ := h.head
      have hsub : pre.length + bytes.length - pre.length = bytes.length := by omega
      rw [rxAssembleLoop, if_pos (by omega), devPollReadable_eq hd, List.cons_append,
        pollReadable_queue (by simp), poll_queue_state]
      simp only [readChunk_queue hr, hsub, htake]
      rcases hrest with ⟨hle, rfl⟩ | ⟨hlt, hfrag⟩
      · rw [List.take_of_length_le hle, List.nil_append]
        exact rxAssembleLoop_done (by simp) suffix
      · have hdrop : bytes.drop mpChunkMax ≠ [] := by
          rw [Ne, List.drop_eq_nil_iff]
          omega
        have htotal : pre.length + bytes.length
            = (pre ++ bytes.take mpChunkMax).length + (bytes.drop mpChunkMax).length := by
          simp only [List.length_append, List.length_take, List.length_drop]
          omega
        rw [htotal, ih hfrag hdrop, List.append_assoc, List.take_append_drop]

/-! ### One call -/

theorem head16_of_encoded (f : MpFrame) {len : UInt16} (hlen : len.toNat = f.payload.length)
    (ts : UInt64) : tapHdr f.encoded len ts = (tapRecordOf f ts).hdr := by
  have htype : (f.encoded.getD 0 0 >>> 4) = f.type := mpType_nibble f.type_valid
  have hdrop : f.encoded.drop 4 = f.payload := rfl
  have htake : f.payload.take (min f.payload.length 16) = f.payload.take 16 := by
    rcases Nat.le_total f.payload.length 16 with h | h
    · rw [Nat.min_eq_left h, List.take_length, List.take_of_length_le h]
    · rw [Nat.min_eq_right h]
  have hpad : 16 - min f.payload.length 16 = 16 - f.payload.length := by omega
  have hlen32 : len.toUInt32 = f.payload.length.toUInt32 := by
    rw [← hlen]
    refine UInt32.toNat_inj.mp ?_
    have := len.toNat_lt
    simp only [UInt16.toNat_toUInt32, Nat.toUInt32_eq, UInt32.toNat_ofNat']
    exact (Nat.mod_eq_of_lt (by omega)).symm
  simp only [tapHdr, tapRecordOf, htype, hdrop, hlen, htake, hpad, hlen32]

/-- The head lies inside the first window, so the first record announces the length. -/
theorem mpCheckHead_first (f : MpFrame) {c : RxChunk}
    (htake : c.bytes.take (mpRxChunk f.encoded.length) = f.encoded.take mpChunkMax) :
    ∃ len, mpCheckHead c.bytes = some len ∧ len.toNat = f.payload.length := by
  obtain ⟨len, hhead, hlen⟩ := mpCheckHead_mpHead f.type_valid f.payload_lt f.payload
  have hfour : 4 ≤ mpRxChunk f.encoded.length := by
    unfold mpRxChunk
    rw [MpFrame.length_encoded]
    split
    · omega
    · decide
  refine ⟨len, ?_, hlen⟩
  rw [← hhead, ← mpCheckHead_take hfour, htake]
  exact mpCheckHead_take (by decide)

/--
**A frame is complete once the loop has its bytes**, whatever the other side is.
`c` is the chunk that the frame begins with.
-/
theorem rxAssemble_frame {σ : Type} {sys : Sys σ} (f : MpFrame) {c : RxChunk} {s s₁ s₂ : σ}
    (hread : readChunk sys s = (.ok c, s₁))
    (htake : c.bytes.take (mpRxChunk f.encoded.length) = f.encoded.take mpChunkMax)
    (hloop : rxAssembleLoop sys dev f.encoded.length (f.encoded.take mpChunkMax) s₁ =
      (.ok f.encoded, s₂)) :
    rxAssemble sys dev tapCap s = (.ok (tapRecordOf f (sys.clock s₂).1), (sys.clock s₂).2) := by
  obtain ⟨len, hfirst, hlen⟩ := mpCheckHead_first f htake
  have htotal : 4 + len.toNat = f.encoded.length := by
    rw [hlen, MpFrame.length_encoded]
  have hfits : ¬ tapCap - sizeofTapHdr < f.encoded.length := by
    have hpay := f.payload_lt
    rw [MpFrame.length_encoded]
    simp only [tapCap, mpFrameMax, Nat.add_sub_cancel_left]
    omega
  rw [rxAssemble, if_neg (by decide), hread]
  simp only [hfirst, htotal, if_neg hfits, htake, hloop, head16_of_encoded f hlen]
  rw [hlen]
  rfl

/-- **A frame that one record carries is complete with it.** -/
theorem rxAssemble_single {σ : Type} {sys : Sys σ} (f : MpFrame) {r : RxRecord}
    (hr : r.Mailbox) (h : Fragments f.encoded [r]) {s s' : σ} (hlen : f.encoded.length ≤ mpChunkMax)
    (hread : readChunk sys s = (.ok hr.chunk, s')) :
    rxAssemble sys dev tapCap s = (.ok (tapRecordOf f (sys.clock s').1), (sys.clock s').2) := by
  obtain ⟨_, htake, -⟩ := h.head
  refine rxAssemble_frame f hread htake ?_
  rw [List.take_of_length_le hlen]
  exact rxAssembleLoop_done (by simp) s'

/-- The records after the first carry what the first has left. -/
theorem rxAssembleLoop_rest (hd : dev.Opened) {bytes : List UInt8} {rs : List RxRecord}
    (h : (bytes.length ≤ mpChunkMax ∧ rs = []) ∨
      (mpChunkMax < bytes.length ∧ Fragments (bytes.drop mpChunkMax) rs)) (suffix : List RxRecord) :
    rxAssembleLoop (queueSys now) dev bytes.length (bytes.take mpChunkMax) (rs ++ suffix)
      = (.ok bytes, suffix) := by
  rcases h with ⟨hle, rfl⟩ | ⟨hlt, hfrag⟩
  · rw [List.take_of_length_le hle]
    exact rxAssembleLoop_done (by simp) suffix
  · have hdrop : bytes.drop mpChunkMax ≠ [] := by
      rw [Ne, List.drop_eq_nil_iff]
      omega
    have hsplit : bytes.length =
        (bytes.take mpChunkMax).length + (bytes.drop mpChunkMax).length := by
      simp only [List.length_take, List.length_drop]
      omega
    rw [hsplit, rxAssembleLoop_fragments hd hfrag hdrop, List.take_append_drop]

/-- **A call on a queue that starts with a frame returns that frame and takes its records.** -/
theorem devReadRecord_frame (hd : dev.Opened) (f : MpFrame) {recs : List RxRecord}
    (h : Fragments f.encoded recs) (suffix : List RxRecord) :
    ∃ ts, devReadRecord (queueSys now) dev tapCap (recs ++ suffix)
      = (.ok (tapRecordOf f ts), suffix) := by
  cases recs with
  | nil => exact absurd rfl h.ne_nil
  | cons r rs =>
      obtain ⟨hr, htake, hrest⟩ := h.head
      refine ⟨now suffix, ?_⟩
      rw [devReadRecord_eq hd, List.cons_append, pollReadable_queue (by simp), poll_queue_state]
      exact rxAssemble_frame f (readChunk_queue hr _) htake (rxAssembleLoop_rest hd hrest suffix)

/-- A call on a queue that starts with a junk record takes that record and says `-EAGAIN`. -/
theorem devReadRecord_junk (hd : dev.Opened) {r : RxRecord} (hr : r.Mailbox)
    (hhead : mpCheckHead (r.data.take 4) = none) (suffix : List RxRecord) :
    devReadRecord (queueSys now) dev tapCap (r :: suffix) = (.error .again, suffix) := by
  rw [mpCheckHead_take (Nat.le_refl 4)] at hhead
  rw [devReadRecord_eq hd, pollReadable_queue (by simp), poll_queue_state]
  simp only [rxAssemble, if_neg (show ¬ tapCap < sizeofTapHdr + mpChunkMax by decide),
    readChunk_queue hr, hr.bytes_chunk, hhead]

/-! ### The whole stream -/

/--
**Receive reassembly inverts framing and fragmentation.**

One call for each item of the stream takes exactly the stream's records off the
queue, and answers each item in order: a frame with its type and payload, a junk
record with `-EAGAIN`.
-/
theorem readRecords_carries (hd : dev.Opened) {items : List Item} {recs : List RxRecord}
    (h : Carries items recs) (suffix : List RxRecord) :
    ∃ results, readRecords (queueSys now) dev tapCap items.length (recs ++ suffix)
        = (results, suffix) ∧
      List.Forall₂ Item.Answered items results := by
  induction h with
  | nil => exact ⟨[], rfl, List.Forall₂.nil⟩
  | @frame f recs rest items hf hrest ih =>
      obtain ⟨results, hrun, hall⟩ := ih
      have hone : ∃ ts, devReadRecord (queueSys now) dev tapCap (recs ++ (rest ++ suffix))
          = (.ok (tapRecordOf f ts), rest ++ suffix) :=
        devReadRecord_frame hd f (hf _ f.mpBuild_eq) (rest ++ suffix)
      obtain ⟨ts, hcall⟩ := hone
      refine ⟨.ok (tapRecordOf f ts) :: results, ?_, List.Forall₂.cons ⟨ts, rfl⟩ hall⟩
      rw [List.append_assoc, List.length_cons, readRecords, hcall]
      simp only [hrun]
  | @junk r rest items hr hhead hrest ih =>
      obtain ⟨results, hrun, hall⟩ := ih
      refine ⟨.error .again :: results, ?_, List.Forall₂.cons rfl hall⟩
      rw [List.cons_append, List.length_cons, readRecords, devReadRecord_junk hd hr hhead]
      simp only [hrun]

/-- A record that starts with `bytes` and is zero behind them. -/
def mailboxOf (bytes : List UInt8) (h : bytes.length ≤ rxMax) : RxRecord where
  len := 0xE00
  reserved := 0
  timestampNs := 0
  data := bytes ++ zeros (rxMax - bytes.length)
  size_data := by rw [List.length_append, length_zeros]; omega

theorem mailboxOf_mailbox (bytes : List UInt8) (h : bytes.length ≤ rxMax) :
    (mailboxOf bytes h).Mailbox :=
  ⟨rfl, rfl⟩

def emptyFrame : MpFrame := ⟨mpTypeCmd, [], by decide, by decide⟩

/-- A TLS frame that takes two windows. -/
def longFrame : MpFrame where
  type := mpTypeTls
  payload := List.replicate 5000 0x5A
  type_valid := mpTypeValid_tls
  payload_lt := by rw [List.length_replicate]; decide

theorem length_longFrame : longFrame.encoded.length = 5004 := by
  rw [MpFrame.length_encoded, longFrame, List.length_replicate]

/-- Its first window. -/
def longHead : RxRecord where
  len := 0xE00
  reserved := 0
  timestampNs := 0
  data := longFrame.encoded.take mpChunkMax
  size_data := by rw [List.length_take, length_longFrame]; rfl

/-- Its second one, with whatever was in the mailbox behind it. -/
def longTail : RxRecord where
  len := 0xE00
  reserved := 0
  timestampNs := 0
  data := longFrame.encoded.drop mpChunkMax ++ List.replicate 2164 0xEE
  size_data := by
    rw [List.length_append, List.length_drop, length_longFrame, List.length_replicate]
    rfl

theorem longFrame_fragments : Fragments longFrame.encoded [longHead, longTail] :=
  .more ⟨rfl, rfl⟩ (by rw [length_longFrame]; decide) rfl (.last ⟨rfl, rfl⟩ rfl)

/-- A frame of two windows, a record of zeros, and an empty frame. -/
theorem readRecords_carries_long :
    ∃ results, readRecords (queueSys fun _ => 0) ⟨3, 0, 1000, true⟩ tapCap 3
        ([longHead, longTail, mailboxOf [] (by decide),
          mailboxOf emptyFrame.encoded (by decide)] ++ [longHead])
        = (results, [longHead]) ∧
      List.Forall₂ Item.Answered [.frame longFrame, .junk, .frame emptyFrame] results := by
  have hlong : ∀ bytes, mpBuild longFrame.type longFrame.payload mpFrameMax = .ok bytes →
      Fragments bytes [longHead, longTail] := by
    intro bytes h
    rw [longFrame.mpBuild_eq] at h
    cases h
    exact longFrame_fragments
  have hempty : ∀ bytes, mpBuild emptyFrame.type emptyFrame.payload mpFrameMax = .ok bytes →
      Fragments bytes [mailboxOf emptyFrame.encoded (by decide)] := by
    intro bytes h
    cases h
    exact .last (mailboxOf_mailbox _ _) rfl
  have hjunk : mpCheckHead ((mailboxOf [] (by decide)).data.take 4) = none := rfl
  have hopen : Dev.Opened ⟨3, 0, 1000, true⟩ := ⟨by decide, rfl⟩
  have hitems : Carries [.frame longFrame, .junk, .frame emptyFrame]
      ([longHead, longTail] ++ mailboxOf [] (by decide) ::
        ([mailboxOf emptyFrame.encoded (by decide)] ++ [])) :=
    .frame hlong (.junk (mailboxOf_mailbox _ _) hjunk (.frame hempty .nil))
  exact readRecords_carries hopen hitems [longHead]

end Queue

end Gxfp
