/-
What `-EAGAIN` from `gxfp_dev_read_record` means.

Both receive loops of the repository take `-EAGAIN` as "nothing to read yet" and
go on.  The same value is also what a time-out in the middle of a frame returns,
after the record with the frame's head has left the kernel queue.  `Call.Sound` is
what the loops rely on; `devReadRecord_sound_iff` says that a call keeps it exactly
when the wait for a further record of a frame it has begun does not time out.

The other side is any `Sys`, so a record stream with its arrival times is one
choice of it.  `Sys.observed` keeps the records that were read, which is how a
statement can speak about what a call has consumed.
-/
import Gxfp.Io.Reassembly

namespace Gxfp

open Bytes

/-! ### Calls and what they consume -/

/-- The head a record carries, when its header is good and it starts an MP frame. -/
def RxRecord.head (r : RxRecord) : Option UInt16 :=
  match chunkOf (.record r) with
  | .ok c => mpCheckHead c.bytes
  | .error _ => none

/-- The valid bytes of a run of records. -/
def streamOf (recs : List RxRecord) : List UInt8 := recs.flatMap fun r => r.data.take r.len.toNat

/-- One call of `gxfp_dev_read_record`: its result and the records it took off the queue. -/
structure Call where
  result : Except Errno TapRecord
  taken : List RxRecord

/--
No frame is lost behind an `-EAGAIN`: that result means no head was consumed, and
a frame whose head was consumed is returned complete or reported by another error.
-/
structure Call.Sound (c : Call) : Prop where
  again : c.result = .error .again → ∀ r ∈ c.taken, r.head = none
  complete : ∀ r len, c.taken.head? = some r → r.head = some len →
    (∃ t, c.result = .ok t ∧ t.payload.length = len.toNat ∧
      t.payload = ((streamOf c.taken).take (4 + len.toNat)).drop 4) ∨
    ∃ e, c.result = .error e ∧ e ≠ .again

/-- The same system calls, with the records that `read(2)` returned kept in order. -/
def Sys.observed {σ : Type} (sys : Sys σ) : Sys (σ × List RxRecord) where
  poll n s := ((sys.poll n s.1).1, ((sys.poll n s.1).2, s.2))
  read s := ((sys.read s.1).1, ((sys.read s.1).2,
    match (sys.read s.1).1 with
    | .record r => s.2 ++ [r]
    | _ => s.2))
  write b s := ((sys.write b s.1).1, ((sys.write b s.1).2, s.2))
  flushRx s := ((sys.flushRx s.1).1, ((sys.flushRx s.1).2, s.2))
  clock s := ((sys.clock s.1).1, ((sys.clock s.1).2, s.2))

/-- What the receive loops do with the device between two commands. -/
inductive DevOp
  | poll (timeoutMs : Int)
  | readRecord
  | flushRxq
  deriving DecidableEq

section Calls

variable {σ : Type} (sys : Sys σ) (dev : Dev)

/-- A call from `s`, and the state it leaves. -/
def callReadRecord (s : σ) : Call × σ :=
  let out := devReadRecord sys.observed dev tapCap (s, [])
  (⟨out.1, out.2.2⟩, out.2.1)

/-- The state after one operation. -/
def DevOp.after : DevOp → σ → σ
  | .poll t, s => (devPollReadable sys dev t s).2
  | .readRecord, s => (callReadRecord sys dev s).2
  | .flushRxq, s => (devFlushRxq sys dev s).2

/-- The `gxfp_dev_read_record` calls of a run, in order. -/
def readCalls : List DevOp → σ → List Call
  | [], _ => []
  | .readRecord :: ops, s =>
    (callReadRecord sys dev s).1 :: readCalls ops (DevOp.readRecord.after sys dev s)
  | op :: ops, s => readCalls ops (op.after sys dev s)

/-- How long the wait for a further record lasts. -/
def Dev.waitMs (dev : Dev) : Nat := if 0 < (dev.irqTimeoutMs : Int) then dev.irqTimeoutMs else 1

/-- With `got` of `total` bytes there, some wait for a further record runs into a time-out. -/
inductive WaitTimesOut (total : Nat) : Nat → σ → Prop
  | poll {got : Nat} {s : σ} (hlt : got < total)
      (hpoll : pollReadable (sys.poll dev.waitMs s).1 = .error .again) : WaitTimesOut total got s
  | read {got : Nat} {s : σ} (hlt : got < total)
      (hpoll : pollReadable (sys.poll dev.waitMs s).1 = .ok ())
      (hread : chunkOf (sys.read (sys.poll dev.waitMs s).2).1 = .error .again) :
      WaitTimesOut total got s
  | later {got : Nat} {s : σ} {c : RxChunk} (hlt : got < total)
      (hpoll : pollReadable (sys.poll dev.waitMs s).1 = .ok ())
      (hread : chunkOf (sys.read (sys.poll dev.waitMs s).2).1 = .ok c)
      (hrest : WaitTimesOut total (got + min (mpRxChunk (total - got)) c.len.toNat)
        (sys.read (sys.poll dev.waitMs s).2).2) :
      WaitTimesOut total got s

/-- The next record starts a frame, and the wait for the rest of that frame times out. -/
def HeadTimesOut (s : σ) : Prop :=
  ∃ c len, pollReadable (sys.poll 1 s).1 = .ok () ∧
    chunkOf (sys.read (sys.poll 1 s).2).1 = .ok c ∧ mpCheckHead c.bytes = some len ∧
    WaitTimesOut sys dev (4 + len.toNat) (min (mpRxChunk (4 + len.toNat)) c.len.toNat)
      (sys.read (sys.poll 1 s).2).2

/-- No call of the run begins a frame whose rest does not arrive in time. -/
def NoHeadTimesOut : List DevOp → σ → Prop
  | [], _ => True
  | .readRecord :: ops, s =>
    ¬ HeadTimesOut sys dev s ∧ NoHeadTimesOut ops (DevOp.readRecord.after sys dev s)
  | op :: ops, s => NoHeadTimesOut ops (op.after sys dev s)

end Calls

/-! ### The loop -/

section Loop

variable {σ : Type} {sys : Sys σ} {dev : Dev}

theorem devPollReadable_irqTimeout (hd : dev.Opened) (s : σ) :
    devPollReadable sys dev dev.irqTimeoutMs s =
      (pollReadable (sys.poll dev.waitMs s).1, (sys.poll dev.waitMs s).2) := by
  rw [devPollReadable_eq hd, Int.toNat_natCast]
  rfl

theorem chunkOf_eq_ok {o : ReadOutcome} {c : RxChunk} (h : chunkOf o = .ok c) :
    o = .record c.toRxRecord := by
  unfold chunkOf at h
  split at h
  · simp at h
  · simp at h
  · split at h
    · simp at h
    · simp only [Except.ok.injEq] at h
      rw [← h]

/-- A chunk that was read is the last record kept. -/
theorem readChunk_observed {st st' : σ × List RxRecord} {c : RxChunk}
    (h : readChunk sys.observed st = (.ok c, st')) :
    chunkOf (sys.read st.1).1 = .ok c ∧ st' = ((sys.read st.1).2, st.2 ++ [c.toRxRecord]) := by
  simp only [readChunk, Sys.observed, Prod.mk.injEq] at h
  obtain ⟨hchunk, rfl⟩ := h
  refine ⟨hchunk, ?_⟩
  rw [chunkOf_eq_ok hchunk]

theorem devPollReadable_keeps (st : σ × List RxRecord) :
    (devPollReadable sys.observed dev dev.irqTimeoutMs st).2.2 = st.2 := by
  unfold devPollReadable
  split <;> rfl

theorem readChunk_keeps (st : σ × List RxRecord) : st.2 <+: (readChunk sys.observed st).2.2 := by
  simp only [readChunk, Sys.observed]
  split
  · exact List.prefix_append _ _
  · exact List.prefix_rfl

/-- A wait whose poll failed times out only if that was the failure. -/
theorem WaitTimesOut.of_poll_error {total got : Nat} {s : σ} {e : Errno}
    (hpoll : pollReadable (sys.poll dev.waitMs s).1 = .error e)
    (h : WaitTimesOut sys dev total got s) : e = .again := by
  cases h with
  | poll _ hagain =>
      rw [hpoll] at hagain
      exact Except.error.inj hagain
  | read _ hok _ | later _ hok _ _ =>
      rw [hpoll] at hok
      simp at hok

theorem WaitTimesOut.of_read_error {total got : Nat} {s : σ} {e : Errno}
    (hpoll : pollReadable (sys.poll dev.waitMs s).1 = .ok ())
    (hread : chunkOf (sys.read (sys.poll dev.waitMs s).2).1 = .error e)
    (h : WaitTimesOut sys dev total got s) : e = .again := by
  cases h with
  | poll _ hagain =>
      rw [hpoll] at hagain
      simp at hagain
  | read _ _ hagain =>
      rw [hread] at hagain
      exact Except.error.inj hagain
  | later _ _ hok _ =>
      rw [hread] at hok
      simp at hok

theorem WaitTimesOut.of_read_ok {total got : Nat} {s : σ} {c : RxChunk}
    (hpoll : pollReadable (sys.poll dev.waitMs s).1 = .ok ())
    (hread : chunkOf (sys.read (sys.poll dev.waitMs s).2).1 = .ok c)
    (h : WaitTimesOut sys dev total got s) :
    WaitTimesOut sys dev total (got + min (mpRxChunk (total - got)) c.len.toNat)
      (sys.read (sys.poll dev.waitMs s).2).2 := by
  cases h with
  | poll _ hagain =>
      rw [hpoll] at hagain
      simp at hagain
  | read _ _ hagain =>
      rw [hread] at hagain
      simp at hagain
  | later _ _ hok hrest =>
      rw [hread] at hok
      cases hok
      exact hrest

/-- **The loop says `-EAGAIN` exactly when one of its waits times out.** -/
theorem rxAssembleLoop_again_iff (hd : dev.Opened) (total : Nat) (frame : List UInt8)
    (st : σ × List RxRecord) :
    (rxAssembleLoop sys.observed dev total frame st).1 = .error .again ↔
      WaitTimesOut sys dev total frame.length st.1 := by
  fun_induction rxAssembleLoop sys.observed dev total frame st with
  | case1 frame st hlt e st' hpoll =>
      rw [devPollReadable_irqTimeout hd] at hpoll
      have he : pollReadable (sys.poll dev.waitMs st.1).1 = .error e := congrArg Prod.fst hpoll
      constructor
      · intro h
        cases h
        exact .poll hlt he
      · intro h
        rw [h.of_poll_error he]
  | case2 frame st hlt st₁ hpoll e st₂ hread =>
      rw [devPollReadable_irqTimeout hd] at hpoll
      have hok : pollReadable (sys.poll dev.waitMs st.1).1 = .ok () := congrArg Prod.fst hpoll
      have hst : ((sys.poll dev.waitMs st.1).2, st.2) = st₁ := congrArg Prod.snd hpoll
      have he : chunkOf (sys.read (sys.poll dev.waitMs st.1).2).1 = .error e := by
        rw [← hst] at hread
        exact congrArg Prod.fst hread
      constructor
      · intro h
        cases h
        exact .read hlt hok he
      · intro h
        rw [h.of_read_error hok he]
  | case3 frame st hlt st₁ hpoll c st₂ hread ih =>
      rw [devPollReadable_irqTimeout hd] at hpoll
      have hok : pollReadable (sys.poll dev.waitMs st.1).1 = .ok () := congrArg Prod.fst hpoll
      have hst : ((sys.poll dev.waitMs st.1).2, st.2) = st₁ := congrArg Prod.snd hpoll
      rw [← hst] at hread
      obtain ⟨hc, rfl⟩ := readChunk_observed hread
      rw [ih, List.length_append, List.length_take, RxChunk.length_bytes]
      constructor
      · exact .later hlt hok hc
      · exact .of_read_ok hok hc
  | case4 frame st hge =>
      constructor
      · intro h
        simp at h
      · intro h
        cases h <;> contradiction

/-- What is copied out of a window is all of it, or all that is still missing. -/
theorem take_append_take {frame bytes rest : List UInt8} {total n : Nat}
    (h : bytes.length ≤ n ∨ n = total - frame.length) :
    (frame ++ (bytes.take n ++ rest)).take total = (frame ++ (bytes ++ rest)).take total := by
  by_cases hn : bytes.length ≤ n
  · rw [List.take_of_length_le hn]
  · have hmissing : n = total - frame.length := h.resolve_left hn
    have hlt : n ≤ bytes.length := Nat.le_of_not_le hn
    have hsplit : ∀ l, (frame ++ l).take total = frame.take total ++ l.take n := by
      intro l
      rw [List.take_append, ← hmissing]
    rw [hsplit, hsplit, List.take_append_of_le_length hlt,
      List.take_append_of_le_length (by rw [List.length_take]; omega), List.take_take,
      Nat.min_self]

/-- **A frame the loop completes is the beginning of the records it took.** -/
theorem rxAssembleLoop_taken {total : Nat} {frame out : List UInt8} {st st' : σ × List RxRecord}
    (hle : frame.length ≤ total)
    (h : rxAssembleLoop sys.observed dev total frame st = (.ok out, st')) :
    ∃ recs, st'.2 = st.2 ++ recs ∧ out = (frame ++ streamOf recs).take total := by
  fun_induction rxAssembleLoop sys.observed dev total frame st with
  | case1 | case2 => simp at h
  | case3 frame st hlt st₁ hpoll c st₂ hread ih =>
      have hchunk : mpRxChunk (total - frame.length) ≤ total - frame.length := mpRxChunk_le _
      have hlen : (frame ++ c.bytes.take (mpRxChunk (total - frame.length))).length ≤ total := by
        rw [List.length_append, List.length_take]
        omega
      obtain ⟨recs, htaken, hout⟩ := ih hlen h
      obtain ⟨-, rfl⟩ := readChunk_observed hread
      have hst : st₁.2 = st.2 := by
        rw [← devPollReadable_keeps st, hpoll]
      have hwhole : c.bytes.length ≤ mpRxChunk (total - frame.length) ∨
          mpRxChunk (total - frame.length) = total - frame.length := by
        unfold mpRxChunk
        rw [RxChunk.length_bytes]
        split
        · exact Or.inr rfl
        · exact Or.inl c.len_le
      refine ⟨c.toRxRecord :: recs, ?_, ?_⟩
      · rw [htaken, hst, List.append_assoc]
        rfl
      · rw [hout, List.append_assoc, take_append_take hwhole]
        rfl
  | case4 frame st hge =>
      simp only [Prod.mk.injEq, Except.ok.injEq] at h
      obtain ⟨rfl, rfl⟩ := h
      refine ⟨[], (List.append_nil _).symm, ?_⟩
      rw [streamOf, List.flatMap_nil, List.append_nil, List.take_of_length_le hle]

/-- The loop never puts a record back. -/
theorem rxAssembleLoop_keeps (total : Nat) (frame : List UInt8) (st : σ × List RxRecord) :
    st.2 <+: (rxAssembleLoop sys.observed dev total frame st).2.2 := by
  fun_induction rxAssembleLoop sys.observed dev total frame st with
  | case1 frame st hlt e st' hpoll =>
      have hsame : st'.2 = st.2 := by
        rw [← devPollReadable_keeps st, hpoll]
      exact hsame ▸ List.prefix_rfl
  | case2 frame st hlt st₁ hpoll e st₂ hread =>
      have hkeeps : st₁.2 <+: (readChunk sys.observed st₁).2.2 := readChunk_keeps st₁
      rw [hread] at hkeeps
      rw [← devPollReadable_keeps st, hpoll]
      exact hkeeps
  | case3 frame st hlt st₁ hpoll c st₂ hread ih =>
      have hkeeps : st₁.2 <+: (readChunk sys.observed st₁).2.2 := readChunk_keeps st₁
      rw [hread] at hkeeps
      rw [← devPollReadable_keeps st, hpoll]
      exact hkeeps.trans ih
  | case4 => exact List.prefix_rfl

end Loop

/-! ### One call -/

section OneCall

variable {σ : Type} {sys : Sys σ} {dev : Dev}

/-- The head of a record that was read is the head of its chunk. -/
theorem RxRecord.head_of_chunkOf {o : ReadOutcome} {c : RxChunk} (h : chunkOf o = .ok c) :
    c.toRxRecord.head = mpCheckHead c.bytes := by
  have hrecord : chunkOf (.record c.toRxRecord) = .ok c := by
    rw [← chunkOf_eq_ok h]
    exact h
  rw [RxRecord.head, hrecord]

/-- A call whose first record starts no frame is sound. -/
theorem Call.sound_of_headless {c : Call} (h : ∀ r ∈ c.taken, r.head = none) : c.Sound := by
  constructor
  · intro _
    exact h
  · intro r len hfirst hhead
    have hmem : r ∈ c.taken := List.mem_of_head? hfirst
    rw [h r hmem] at hhead
    simp at hhead

/-- **A failed call that has taken a head** is sound unless it says `-EAGAIN`. -/
theorem Call.sound_of_error {e : Errno} {taken : List RxRecord} {r : RxRecord} {len : UInt16}
    (hmem : r ∈ taken) (hhead : r.head = some len) :
    (Call.mk (.error e) taken).Sound ↔ e ≠ .again := by
  constructor
  · intro hsound hagain
    have hnone := hsound.again (congrArg Except.error hagain) r hmem
    rw [hhead] at hnone
    cases hnone
  · intro hne
    constructor
    · intro h
      exact absurd (Except.error.inj h) hne
    · intro r len' _ _
      exact Or.inr ⟨e, rfl, hne⟩

/-- **A call that returns a frame** is sound if the frame is what the first record announces. -/
theorem Call.sound_of_frame {t : TapRecord} {r : RxRecord} {rs : List RxRecord} {len : UInt16}
    (hhead : r.head = some len) (hlen : t.payload.length = len.toNat)
    (hpayload : t.payload = ((streamOf (r :: rs)).take (4 + len.toNat)).drop 4) :
    (Call.mk (.ok t) (r :: rs)).Sound := by
  constructor
  · intro h
    cases h
  · intro r' len' hfirst hhead'
    cases hfirst
    have hsame : len' = len := Option.some.inj (hhead'.symm.trans hhead)
    rw [hsame]
    exact Or.inl ⟨t, rfl, hlen, hpayload⟩

theorem callReadRecord_eq (hd : dev.Opened) (s : σ) :
    (callReadRecord sys dev s).1 =
      match pollReadable (sys.poll 1 s).1 with
      | .error e => ⟨.error e, []⟩
      | .ok () =>
        let out := rxAssemble sys.observed dev tapCap ((sys.poll 1 s).2, [])
        ⟨out.1, out.2.2⟩ := by
  have hpoll : sys.observed.poll 1 (s, []) = ((sys.poll 1 s).1, ((sys.poll 1 s).2, [])) := rfl
  simp only [callReadRecord, devReadRecord_eq hd, hpoll]
  cases pollReadable (sys.poll 1 s).1 <;> rfl

/-- The state in which the loop starts, once a head has been read. -/
def afterHead (sys : Sys σ) (s : σ) (c : RxChunk) : σ × List RxRecord :=
  ((sys.read (sys.poll 1 s).2).2, [c.toRxRecord])

/-- What a call becomes once it has read a head: the loop's result. -/
theorem callReadRecord_head (hd : dev.Opened) {s : σ} {c : RxChunk} {len : UInt16}
    (hpoll : pollReadable (sys.poll 1 s).1 = .ok ())
    (hread : chunkOf (sys.read (sys.poll 1 s).2).1 = .ok c)
    (hhead : mpCheckHead c.bytes = some len) :
    (callReadRecord sys dev s).1 =
      match rxAssembleLoop sys.observed dev (4 + len.toNat)
        (c.bytes.take (mpRxChunk (4 + len.toNat))) (afterHead sys s c) with
      | (.error e, st) => ⟨.error e, st.2⟩
      | (.ok frame, st) => ⟨.ok {
          hdr := tapHdr frame len (sys.clock st.1).1
          payload := frame.drop 4
          ret := sizeofTapHdr + len.toNat }, st.2⟩ := by
  have hchunk : chunkOf (.record c.toRxRecord) = .ok c := by
    rw [← chunkOf_eq_ok hread]
    exact hread
  have hrecord : readChunk sys.observed ((sys.poll 1 s).2, []) = (.ok c, afterHead sys s c) := by
    simp only [readChunk, Sys.observed, chunkOf_eq_ok hread, hchunk, List.nil_append, afterHead]
  have hfits : ¬ tapCap - sizeofTapHdr < 4 + len.toNat := by
    have hlt : len.toNat < 0x6C00 := mpCheckHead_lt hhead
    show ¬ 4 + 0x6C00 < 4 + len.toNat
    omega
  rw [callReadRecord_eq hd, hpoll]
  simp only [rxAssemble, if_neg (show ¬ tapCap < sizeofTapHdr + mpChunkMax by decide), hrecord,
    hhead, if_neg hfits]
  rcases rxAssembleLoop sys.observed dev (4 + len.toNat)
    (c.bytes.take (mpRxChunk (4 + len.toNat))) (afterHead sys s c) with ⟨_ | frame, st⟩ <;> rfl

/-- A call that never gets to read a head consumes none. -/
theorem callReadRecord_headless (hd : dev.Opened) {s : σ}
    (h : ∀ c, pollReadable (sys.poll 1 s).1 = .ok () →
      chunkOf (sys.read (sys.poll 1 s).2).1 = .ok c → mpCheckHead c.bytes = none) :
    ∀ r ∈ (callReadRecord sys dev s).1.taken, r.head = none := by
  rw [callReadRecord_eq hd]
  cases hpoll : pollReadable (sys.poll 1 s).1 with
  | error e => simp
  | ok u =>
      have hread : readChunk sys.observed ((sys.poll 1 s).2, []) =
          (chunkOf (sys.read (sys.poll 1 s).2).1, ((sys.read (sys.poll 1 s).2).2,
            match (sys.read (sys.poll 1 s).2).1 with
            | .record r => [r]
            | _ => [])) := rfl
      simp only [rxAssemble, if_neg (show ¬ tapCap < sizeofTapHdr + mpChunkMax by decide), hread]
      cases hchunk : chunkOf (sys.read (sys.poll 1 s).2).1 with
      | error e =>
          intro r hr
          simp only at hr
          split at hr
          · rename_i r' heq
            rw [List.mem_singleton] at hr
            rw [heq, ← hr] at hchunk
            rw [RxRecord.head, hchunk]
          · simp at hr
      | ok c =>
          have hnone : mpCheckHead c.bytes = none := h c hpoll hchunk
          simp only [hnone, chunkOf_eq_ok hchunk, List.mem_singleton]
          intro r hr
          rw [hr, RxRecord.head_of_chunkOf hchunk, hnone]

/-- Once a head has been read, only an `-EAGAIN` of the loop makes the call unsound. -/
theorem callReadRecord_sound_of_head (hd : dev.Opened) {s : σ} {c : RxChunk} {len : UInt16}
    (hpoll : pollReadable (sys.poll 1 s).1 = .ok ())
    (hread : chunkOf (sys.read (sys.poll 1 s).2).1 = .ok c)
    (hhead : mpCheckHead c.bytes = some len) :
    (callReadRecord sys dev s).1.Sound ↔
      ¬ WaitTimesOut sys dev (4 + len.toNat) (min (mpRxChunk (4 + len.toNat)) c.len.toNat)
        (sys.read (sys.poll 1 s).2).2 := by
  have hrecord : c.toRxRecord.head = some len := by
    rw [RxRecord.head_of_chunkOf hread, hhead]
  have hlen : (c.bytes.take (mpRxChunk (4 + len.toNat))).length
      = min (mpRxChunk (4 + len.toNat)) c.len.toNat := by
    rw [List.length_take, RxChunk.length_bytes]
  have hle : (c.bytes.take (mpRxChunk (4 + len.toNat))).length ≤ 4 + len.toNat := by
    have hchunk : mpRxChunk (4 + len.toNat) ≤ 4 + len.toNat := mpRxChunk_le _
    omega
  have hkeeps : [c.toRxRecord] <+: (rxAssembleLoop sys.observed dev (4 + len.toNat)
      (c.bytes.take (mpRxChunk (4 + len.toNat))) (afterHead sys s c)).2.2 :=
    rxAssembleLoop_keeps _ _ (afterHead sys s c)
  have hwait : (rxAssembleLoop sys.observed dev (4 + len.toNat)
      (c.bytes.take (mpRxChunk (4 + len.toNat))) (afterHead sys s c)).1 = .error .again ↔ _ :=
    rxAssembleLoop_again_iff hd _ _ _
  rw [hlen] at hwait
  show _ ↔ ¬ WaitTimesOut sys dev _ _ (afterHead sys s c).1
  rw [← hwait, callReadRecord_head hd hpoll hread hhead]
  rcases hout : rxAssembleLoop sys.observed dev (4 + len.toNat)
    (c.bytes.take (mpRxChunk (4 + len.toNat))) (afterHead sys s c) with ⟨e | frame, st⟩
  · rw [hout] at hkeeps
    have hmem : c.toRxRecord ∈ st.2 := hkeeps.subset (List.mem_singleton.mpr rfl)
    refine (Call.sound_of_error hmem hrecord).trans (not_congr ?_)
    exact ⟨fun he => congrArg Except.error he, fun he => Except.error.inj he⟩
  · refine iff_of_true ?_ (by simp)
    obtain ⟨recs, htaken, hframe⟩ := rxAssembleLoop_taken hle hout
    have hwhole : c.bytes.length ≤ mpRxChunk (4 + len.toNat) ∨
        mpRxChunk (4 + len.toNat) = 4 + len.toNat - ([] : List UInt8).length := by
      unfold mpRxChunk
      rw [RxChunk.length_bytes]
      split
      · exact Or.inr rfl
      · exact Or.inl c.len_le
    have hsame : ([] ++ (c.bytes.take (mpRxChunk (4 + len.toNat)) ++ streamOf recs)).take
        (4 + len.toNat) = ([] ++ (c.bytes ++ streamOf recs)).take (4 + len.toNat) :=
      take_append_take hwhole
    have htotal : frame.length = 4 + len.toNat := rxAssembleLoop_length hle hout
    have htaken' : st.2 = c.toRxRecord :: recs := htaken
    show (Call.mk (.ok _) st.2).Sound
    rw [htaken']
    refine Call.sound_of_frame hrecord ?_ ?_
    · rw [List.length_drop, htotal]
      omega
    · rw [hframe]
      exact congrArg (List.drop 4) hsame

/-- **A call is sound exactly when it does not time out behind a head.** -/
theorem callReadRecord_sound_iff (hd : dev.Opened) (s : σ) :
    (callReadRecord sys dev s).1.Sound ↔ ¬ HeadTimesOut sys dev s := by
  by_cases hbegun : ∃ c len, pollReadable (sys.poll 1 s).1 = .ok () ∧
      chunkOf (sys.read (sys.poll 1 s).2).1 = .ok c ∧ mpCheckHead c.bytes = some len
  · obtain ⟨c, len, hpoll, hread, hhead⟩ := hbegun
    rw [callReadRecord_sound_of_head hd hpoll hread hhead]
    refine not_congr ⟨fun hwait => ⟨c, len, hpoll, hread, hhead, hwait⟩, ?_⟩
    rintro ⟨c', len', -, hread', hhead', hwait⟩
    rw [hread] at hread'
    cases hread'
    rw [hhead] at hhead'
    cases hhead'
    exact hwait
  · have hnone : ∀ c, pollReadable (sys.poll 1 s).1 = .ok () →
        chunkOf (sys.read (sys.poll 1 s).2).1 = .ok c → mpCheckHead c.bytes = none := by
      intro c hpoll hread
      rw [← Option.not_isSome_iff_eq_none, Option.isSome_iff_exists]
      rintro ⟨len, hhead⟩
      exact hbegun ⟨c, len, hpoll, hread, hhead⟩
    have hsound := Call.sound_of_headless (callReadRecord_headless hd hnone)
    refine iff_of_true hsound ?_
    rintro ⟨c, len, hpoll, hread, hhead, -⟩
    exact hbegun ⟨c, len, hpoll, hread, hhead⟩

end OneCall

/-! ### Runs -/

/--
**A run loses no frame behind an `-EAGAIN` exactly when no wait for the rest of a
frame times out in it.**
-/
theorem readCalls_sound_iff {σ : Type} {sys : Sys σ} {dev : Dev} (hd : dev.Opened)
    (ops : List DevOp) (s : σ) :
    (∀ c ∈ readCalls sys dev ops s, c.Sound) ↔ NoHeadTimesOut sys dev ops s := by
  induction ops generalizing s with
  | nil => simp [readCalls, NoHeadTimesOut]
  | cons op ops ih =>
      cases op with
      | poll t => exact ih _
      | flushRxq => exact ih _
      | readRecord =>
          rw [readCalls, NoHeadTimesOut, List.forall_mem_cons, callReadRecord_sound_iff hd, ih]

section Complete

variable {now : List RxRecord → UInt64} {dev : Dev} {bytes : List UInt8}

/-- A record with all that it can hold leaves what is behind the first window. -/
theorem WaitTimesOut.behind {got : Nat} {q : List RxRecord}
    (h : WaitTimesOut (queueSys now) dev (got + bytes.length)
      (got + min (mpRxChunk bytes.length) mpChunkMax) q) :
    mpChunkMax < bytes.length ∧ WaitTimesOut (queueSys now) dev
      (got + mpChunkMax + (bytes.drop mpChunkMax).length) (got + mpChunkMax) q := by
  rcases Nat.lt_or_ge mpChunkMax bytes.length with hlt | hle
  · have htotal : got + bytes.length = got + mpChunkMax + (bytes.drop mpChunkMax).length := by
      rw [List.length_drop]
      omega
    rw [mpRxChunk_of_ge (Nat.le_of_lt hlt), Nat.min_self, htotal] at h
    exact ⟨hlt, h⟩
  · rw [mpRxChunk_of_le hle, Nat.min_eq_left hle] at h
    cases h <;> omega

/-- **No wait for the rest of a frame times out while the records of the rest are there.** -/
theorem not_waitTimesOut {recs : List RxRecord} (h : Fragments bytes recs) (got : Nat)
    (suffix : List RxRecord) :
    ¬ WaitTimesOut (queueSys now) dev (got + bytes.length) got (recs ++ suffix) := by
  induction recs generalizing bytes got with
  | nil => exact absurd rfl h.ne_nil
  | cons r rs ih =>
      obtain ⟨hr, -, hrest⟩ := h.head
      have hchunk : chunkOf (.record r) = .ok hr.chunk :=
        chunkOf_record hr.reserved hr.chunk.len_pos hr.chunk.len_le
      have hlen : hr.chunk.len.toNat = mpChunkMax := hr.len
      intro hout
      cases hout with
      | poll hlt hpoll => cases hpoll
      | read hlt hpoll hread => exact absurd (hchunk.symm.trans hread) (by simp)
      | later hlt hpoll hread hlater =>
          rw [← Except.ok.inj (hchunk.symm.trans hread), Nat.add_sub_cancel_left, hlen] at hlater
          obtain ⟨hlt, hbehind⟩ := WaitTimesOut.behind hlater
          rcases hrest with ⟨hle, -⟩ | ⟨-, hfrag⟩
          · omega
          · exact ih hfrag _ hbehind

theorem not_headTimesOut (f : MpFrame) {recs : List RxRecord} (h : Fragments f.encoded recs)
    (suffix : List RxRecord) : ¬ HeadTimesOut (queueSys now) dev (recs ++ suffix) := by
  rcases recs with _ | ⟨r, rs⟩
  · exact absurd rfl h.ne_nil
  obtain ⟨hr, htake, hrest⟩ := h.head
  have hchunk : chunkOf (.record r) = .ok hr.chunk :=
    chunkOf_record hr.reserved hr.chunk.len_pos hr.chunk.len_le
  have hlen : hr.chunk.len.toNat = mpChunkMax := hr.len
  rintro ⟨c, len, -, hread, hhead, hout⟩
  cases Except.ok.inj (hchunk.symm.trans hread)
  obtain ⟨_, hfirst, hpayload⟩ := mpCheckHead_first f htake
  cases Option.some.inj (hfirst.symm.trans hhead)
  have htotal : 4 + len.toNat = f.encoded.length := by
    rw [hpayload, MpFrame.length_encoded]
  have hzero : WaitTimesOut (queueSys now) dev (0 + f.encoded.length)
      (0 + min (mpRxChunk f.encoded.length) mpChunkMax) (rs ++ suffix) := by
    rw [hlen, htotal] at hout
    rw [Nat.zero_add, Nat.zero_add]
    exact hout
  obtain ⟨hlt, hbehind⟩ := hzero.behind
  rcases hrest with ⟨hle, -⟩ | ⟨-, hfrag⟩
  · omega
  · exact not_waitTimesOut hfrag _ suffix hbehind

end Complete

/-- Both windows of a long frame are there, and a record of zeros behind them. -/
def longQueue : List RxRecord :=
  [longHead, longTail, mailboxOf [] (by decide)]

theorem readCalls_sound_iff_long :
    NoHeadTimesOut (queueSys fun _ => 0) ⟨3, 0, 1000, true⟩ [.poll 10, .readRecord, .flushRxq]
        longQueue ∧
      ((∀ c ∈ readCalls (queueSys fun _ => 0) ⟨3, 0, 1000, true⟩
          [.poll 10, .readRecord, .flushRxq] longQueue, c.Sound) ↔
        NoHeadTimesOut (queueSys fun _ => 0) ⟨3, 0, 1000, true⟩
          [.poll 10, .readRecord, .flushRxq] longQueue) := by
  have hopen : Dev.Opened ⟨3, 0, 1000, true⟩ := ⟨by decide, rfl⟩
  refine ⟨⟨?_, trivial⟩, readCalls_sound_iff hopen [.poll 10, .readRecord, .flushRxq] longQueue⟩
  exact not_headTimesOut longFrame longFrame_fragments [mailboxOf [] (by decide)]

/-- The first window of a command frame of `0x1000` payload bytes. -/
def firstWindow : RxRecord := mailboxOf (mpHead mpTypeCmd 0x1000) (by decide)

/-- Its second window has not come when the wait for it ends. -/
theorem firstWindow_timesOut : HeadTimesOut (queueSys fun _ => 0) ⟨3, 0, 1000, true⟩
    [firstWindow] := by
  have hmailbox : firstWindow.Mailbox := mailboxOf_mailbox _ _
  have hread : chunkOf (.record firstWindow) = .ok hmailbox.chunk :=
    chunkOf_record hmailbox.reserved hmailbox.chunk.len_pos hmailbox.chunk.len_le
  have htype : mpTypeValid mpTypeCmd = true := rfl
  obtain ⟨len, hhead, hlen⟩ := mpCheckHead_mpHead htype
    (show 0x1000 < mpLenMax by decide) (zeros (rxMax - 4))
  refine ⟨hmailbox.chunk, len, rfl, hread, ?_, .poll ?_ rfl⟩
  · rw [hmailbox.bytes_chunk]
    exact hhead
  · rw [hlen]
    exact Nat.lt_of_le_of_lt (Nat.min_le_left _ _) (by decide)

/-- The frame is lost: its head is gone, and the caller is told there was nothing. -/
theorem readCalls_unsound : ¬ ∀ c ∈ readCalls (queueSys fun _ => 0) ⟨3, 0, 1000, true⟩
    [.readRecord] [firstWindow], c.Sound := by
  have hopen : Dev.Opened ⟨3, 0, 1000, true⟩ := ⟨by decide, rfl⟩
  intro h
  have hsound := h _ (List.mem_singleton.mpr rfl)
  exact (callReadRecord_sound_iff hopen [firstWindow]).mp hsound firstWindow_timesOut

end Gxfp
