/-
The plaintext sink of `src/algo/image/plain.c`.

`gxfp_plain_scan_chunks` walks over decrypted bytes, takes complete Goodix frames
off them and hands image payloads to the sink.  The sink keeps one normal image
and up to five frames of the other kind, and it takes a body only if its CRC is
right.

`malloc` may fail.  An operation that allocates once takes the outcome as a `Bool`;
the scan, which may allocate at every frame, takes one for every offset.
-/
import Gxfp.Image.Crc
import Gxfp.Proto.Goodix

namespace Gxfp

open Bytes

/-! ### The sink -/

/-- `struct gxfp_plain_frame`; the body is `none` while the pointer is null. -/
structure PlainFrame where
  hdr : List UInt8
  body : Option (List UInt8)
  deriving DecidableEq, Repr

/-- A frame after `plain_frame_reset`. -/
def plainFrameReset : PlainFrame := { hdr := zeros 5, body := none }

def plainMaxPovFrames : Nat := 5

/-- `struct gxfp_plain_sink` -/
structure PlainSink where
  normal : PlainFrame
  haveNormal : Bool
  pov : List PlainFrame
  povCount : Nat
  povCrcFail : Nat
  deriving DecidableEq, Repr

/-- The sink after `memset`. -/
def PlainSink.zeroed : PlainSink where
  normal := plainFrameReset
  haveNormal := false
  pov := List.replicate plainMaxPovFrames plainFrameReset
  povCount := 0
  povCrcFail := 0

/-- `plain_frame_store`: whether it stored the body, and the frame. -/
def plainFrameStore (f : PlainFrame) (payload : List UInt8) (bodyLen : Nat) (alloc : Bool) :
    Except Errno Bool × PlainFrame :=
  if payload.length < 5 ∨ bodyLen = 0 then (.ok false, f)
  else if payload.length - 5 < bodyLen then (.error .inval, f)
  else
    let body := (payload.drop 5).take bodyLen
    if ¬ imageCrcCheck body then (.ok false, f)
    else if ¬ alloc then (.error .nomem, f)
    else (.ok true, { hdr := payload.take 5, body := some body })

/-- `gxfp_plain_sink_reset_normal` -/
def plainSinkResetNormal (s : PlainSink) : PlainSink :=
  { s with normal := plainFrameReset, haveNormal := false }

/-- `gxfp_plain_sink_reset_pov` -/
def plainSinkResetPov (s : PlainSink) : PlainSink :=
  { s with pov := List.replicate plainMaxPovFrames plainFrameReset, povCount := 0, povCrcFail := 0 }

/-- `gxfp_plain_sink_reset` -/
def plainSinkReset (s : PlainSink) : PlainSink := plainSinkResetPov (plainSinkResetNormal s)

/-- `gxfp_plain_sink_append_normal` -/
def plainSinkAppendNormal (s : PlainSink) (payload : List UInt8) (alloc : Bool) : PlainSink :=
  if payload.length < 5 then s
  else if s.haveNormal then s
  else
    match plainFrameStore s.normal payload (payload.length - 5) alloc with
    | (.ok true, normal) => { s with normal, haveNormal := true }
    | (_, normal) => { s with normal }

/-- `gxfp_plain_sink_append_pov` -/
def plainSinkAppendPov (s : PlainSink) (payload : List UInt8) (alloc : Bool) : PlainSink :=
  if payload.length < 5 then s
  else if plainMaxPovFrames ≤ s.povCount then s
  else
    match plainFrameStore (s.pov.getD s.povCount plainFrameReset) payload (payload.length - 5)
      alloc with
    | (.ok true, f) => { s with pov := s.pov.set s.povCount f, povCount := s.povCount + 1 }
    | (.ok false, f) => { s with pov := s.pov.set s.povCount f, povCrcFail := s.povCrcFail + 1 }
    | (.error _, f) => { s with pov := s.pov.set s.povCount f }

/-- `gxfp_plain_sink_extract_normal`: header and body, if there are any, and the sink. -/
def plainSinkExtractNormal (s : PlainSink) (alloc : Bool) :
    Except Errno (Option (List UInt8 × List UInt8)) × PlainSink :=
  match s.normal.body with
  | none => (.ok none, s)
  | some body =>
    if ¬ s.haveNormal ∨ body.length = 0 then (.ok none, s)
    else if ¬ alloc then (.error .nomem, s)
    else (.ok (some (s.normal.hdr, body)), plainSinkResetNormal s)

/-! ### The scan -/

/-- What `gxfp_plain_scan_chunks` does with one frame. -/
def plainScanFrame (frame : FrameParsed) (alloc : Bool) (s : PlainSink) : PlainSink :=
  let cmd0 := (frame.cmd >>> 4) &&& 0x0F
  let cmd1 := (frame.cmd &&& 0x0F) >>> 1
  if cmd0 = 0x2 ∧ 5 ≤ frame.payload.length ∧ byteAt frame.payload 0 ≠ 0xAA then
    plainSinkAppendNormal s frame.payload alloc
  else if cmd0 = 0xD ∧ cmd1 = 0x1 ∧ 5 ≤ frame.payload.length ∧ byteAt frame.payload 0 = 0xAA then
    plainSinkAppendPov s frame.payload alloc
  else s

/-- The loop of `gxfp_plain_scan_chunks`, from `off` on. -/
def plainScanLoop (alloc : Nat → Bool) (buf : List UInt8) (off : Nat) (s : PlainSink) : PlainSink :=
  if off + 4 ≤ buf.length then
    match parseGoodixBody (buf.drop off) with
    | none => plainScanLoop alloc buf (off + 1) s
    | some frame =>
      if ¬ frame.valid then plainScanLoop alloc buf (off + 1) s
      else
        let total := frame.payload.length + 4
        let s := plainScanFrame frame (alloc off) s
        if off + total ≤ buf.length then plainScanLoop alloc buf (off + total) s
        else plainScanLoop alloc buf (off + 1) s
  else s
termination_by buf.length - off

/-- `gxfp_plain_scan_chunks` -/
def plainScanChunks (alloc : Nat → Bool) (buf : List UInt8) (s : PlainSink) : PlainSink :=
  if buf.length < 8 then s else plainScanLoop alloc buf 0 s

/-! ### Scanning frames -/

/-- Scanning a list of frames one after the other, the first one at `off`. -/
def plainScanFrames (alloc : Nat → Bool) (off : Nat) (s : PlainSink) : List GoodixFrame → PlainSink
  | [] => s
  | f :: fs =>
    plainScanFrames alloc (off + f.bytes.length) (plainScanFrame f.parsed (alloc off) s) fs

/-- **The scan takes a complete frame as a whole.** -/
theorem plainScanLoop_frame (alloc : Nat → Bool) (pre rest : List UInt8) (f : GoodixFrame)
    (s : PlainSink) :
    plainScanLoop alloc (pre ++ (f.bytes ++ rest)) pre.length s =
      plainScanLoop alloc (pre ++ (f.bytes ++ rest)) (pre.length + f.bytes.length)
        (plainScanFrame f.parsed (alloc pre.length) s) := by
  have hlen : f.bytes.length = f.payload.length + 4 := f.length_bytes
  have hbuf : (pre ++ (f.bytes ++ rest)).length =
      pre.length + (f.payload.length + 4 + rest.length) := by
    rw [List.length_append, List.length_append, hlen]
  have hdrop : (pre ++ (f.bytes ++ rest)).drop pre.length = f.bytes ++ rest := List.drop_left
  have hvalid : f.parsed.valid = true := rfl
  have htotal : f.parsed.payload.length + 4 = f.bytes.length := hlen.symm
  rw [plainScanLoop, if_pos (by omega), hdrop, f.parseGoodixBody_bytes]
  dsimp only
  rw [if_neg (not_not.mpr hvalid), htotal, if_pos (by omega)]

/--
**A run of complete frames is scanned frame by frame.**
Bytes too few for another frame may follow it.
-/
theorem plainScanLoop_frames (alloc : Nat → Bool) (frames : List GoodixFrame) {stray : List UInt8}
    (hstray : stray.length < 4) (pre : List UInt8) (s : PlainSink) :
    plainScanLoop alloc (pre ++ (frames.flatMap GoodixFrame.bytes ++ stray)) pre.length s =
      plainScanFrames alloc pre.length s frames := by
  induction frames generalizing pre s with
  | nil =>
      rw [List.flatMap_nil, List.nil_append, plainScanLoop, List.length_append,
        if_neg (by omega)]
      rfl
  | cons f fs ih =>
      have hnext := ih (pre ++ f.bytes) (plainScanFrame f.parsed (alloc pre.length) s)
      rw [List.length_append, List.append_assoc] at hnext
      rw [List.flatMap_cons, List.append_assoc, plainScanLoop_frame, hnext]
      rfl

/-- A frame without room for a header and a body is no image. -/
theorem plainScanFrame_short {f : GoodixFrame} (h : f.payload.length < 5) (alloc : Bool)
    (s : PlainSink) : plainScanFrame f.parsed alloc s = s := by
  have hshort : ¬ 5 ≤ f.parsed.payload.length := Nat.not_le.mpr h
  unfold plainScanFrame
  dsimp only
  rw [if_neg fun himage => hshort himage.2.1, if_neg fun himage => hshort himage.2.2.1]

theorem plainScanFrames_short {frames : List GoodixFrame}
    (h : ∀ f ∈ frames, f.payload.length < 5) (alloc : Nat → Bool) (off : Nat) (s : PlainSink) :
    plainScanFrames alloc off s frames = s := by
  induction frames generalizing off with
  | nil => rfl
  | cons f fs ih =>
      rw [List.forall_mem_cons] at h
      rw [plainScanFrames, plainScanFrame_short h.1]
      exact ih h.2 _

/-- A frame is no longer than the run it is in. -/
theorem GoodixFrame.length_bytes_le {f : GoodixFrame} {frames : List GoodixFrame}
    (h : f ∈ frames) : f.payload.length + 4 ≤ (frames.flatMap GoodixFrame.bytes).length := by
  obtain ⟨before, after, rfl⟩ := List.append_of_mem h
  rw [List.flatMap_append, List.flatMap_cons, List.length_append, List.length_append,
    f.length_bytes]
  omega

/--
**Scanning frames and stray bytes is scanning the frames.**
The early return loses nothing: in fewer than eight bytes no frame has room for an image.
-/
theorem plainScanChunks_frames_append (alloc : Nat → Bool) (frames : List GoodixFrame)
    {stray : List UInt8} (hstray : stray.length < 4) (s : PlainSink) :
    plainScanChunks alloc (frames.flatMap GoodixFrame.bytes ++ stray) s =
      plainScanFrames alloc 0 s frames := by
  unfold plainScanChunks
  split
  · rename_i hshort
    rw [List.length_append] at hshort
    refine (plainScanFrames_short (fun f hf => ?_) alloc 0 s).symm
    have hle := GoodixFrame.length_bytes_le hf
    omega
  · exact plainScanLoop_frames alloc frames hstray [] s

theorem plainScanChunks_frames (alloc : Nat → Bool) (frames : List GoodixFrame) (s : PlainSink) :
    plainScanChunks alloc (frames.flatMap GoodixFrame.bytes) s =
      plainScanFrames alloc 0 s frames := by
  have hnone : ([] : List UInt8).length < 4 := by decide
  have h := plainScanChunks_frames_append alloc frames hnone s
  rwa [List.append_nil] at h

theorem plainScanFrames_append (alloc : Nat → Bool) (fs gs : List GoodixFrame) (off : Nat)
    (s : PlainSink) :
    plainScanFrames alloc off s (fs ++ gs) =
      plainScanFrames alloc (off + (fs.flatMap GoodixFrame.bytes).length)
        (plainScanFrames alloc off s fs) gs := by
  induction fs generalizing off s with
  | nil => rfl
  | cons f fs ih =>
      rw [List.cons_append, plainScanFrames, ih, List.flatMap_cons, List.length_append,
        ← Nat.add_assoc]
      rfl

/-! ### Normal images -/

/-- A frame the scan stores as the normal image: right command, right header, right CRC. -/
structure NormalImage (f : GoodixFrame) : Prop where
  cmd : (f.cmd >>> 4) &&& 0x0F = 0x2
  len : 5 < f.payload.length
  first : byteAt f.payload 0 ≠ 0xAA
  crc : imageCrcCheck (f.payload.drop 5) = true

theorem plainFrameStore_whole (f : PlainFrame) {payload : List UInt8} (h : 5 ≤ payload.length)
    (alloc : Bool) :
    plainFrameStore f payload (payload.length - 5) alloc =
      if payload.length = 5 then (.ok false, f)
      else if ¬ imageCrcCheck (payload.drop 5) then (.ok false, f)
      else if ¬ alloc then (.error .nomem, f)
      else (.ok true, { hdr := payload.take 5, body := some (payload.drop 5) }) := by
  have hwhole : (payload.drop 5).take (payload.length - 5) = payload.drop 5 := by
    rw [← List.length_drop, List.take_length]
  rw [plainFrameStore, hwhole]
  by_cases hfive : payload.length = 5
  · rw [if_pos (Or.inr (by omega)), if_pos hfive]
  · rw [if_neg (by omega), if_neg (Nat.lt_irrefl _), if_neg hfive]

theorem plainSinkAppendPov_normal (s : PlainSink) (payload : List UInt8) (alloc : Bool) :
    (plainSinkAppendPov s payload alloc).haveNormal = s.haveNormal ∧
      (plainSinkAppendPov s payload alloc).normal = s.normal := by
  unfold plainSinkAppendPov
  split
  · exact ⟨rfl, rfl⟩
  · split
    · exact ⟨rfl, rfl⟩
    · split <;> exact ⟨rfl, rfl⟩

/-- What the append does with a payload that has room for a body. -/
theorem plainSinkAppendNormal_eq {s : PlainSink} {payload : List UInt8} (h : 5 ≤ payload.length)
    (hs : s.haveNormal = false) (alloc : Bool) :
    plainSinkAppendNormal s payload alloc =
      if payload.length = 5 ∨ ¬ imageCrcCheck (payload.drop 5) ∨ ¬ alloc then s
      else
        { s with
          normal := { hdr := payload.take 5, body := some (payload.drop 5) }
          haveNormal := true } := by
  rw [plainSinkAppendNormal, if_neg (Nat.not_lt.mpr h), if_neg (by rw [hs]; decide),
    plainFrameStore_whole s.normal h]
  by_cases hfive : payload.length = 5
  · simp only [hfive, if_true, true_or]
  · by_cases hcrc : imageCrcCheck (payload.drop 5) = true
    · cases alloc
      · simp [hfive, hcrc]
      · simp [hfive, hcrc]
    · simp [hfive, hcrc]

/-- **Only a normal image changes whether there is one.** -/
theorem plainScanFrame_keeps {f : GoodixFrame} (h : ¬ NormalImage f) (alloc : Bool)
    (s : PlainSink) :
    (plainScanFrame f.parsed alloc s).haveNormal = s.haveNormal ∧
      (plainScanFrame f.parsed alloc s).normal = s.normal := by
  unfold plainScanFrame
  dsimp only
  split
  · rename_i hcmd
    cases hs : s.haveNormal with
    | true =>
        have hfull : plainSinkAppendNormal s f.parsed.payload alloc = s := by
          rw [plainSinkAppendNormal, if_neg (Nat.not_lt.mpr hcmd.2.1), if_pos hs]
        rw [hfull]
        exact ⟨hs, rfl⟩
    | false =>
        have hrefused : f.parsed.payload.length = 5 ∨
            ¬ imageCrcCheck (f.parsed.payload.drop 5) = true := by
          by_contra hboth
          rw [not_or, not_not] at hboth
          have hlen : 5 ≤ f.payload.length := hcmd.2.1
          have hne : f.payload.length ≠ 5 := hboth.1
          exact h ⟨hcmd.1, by omega, hcmd.2.2, hboth.2⟩
        rw [plainSinkAppendNormal_eq hcmd.2.1 hs, if_pos (by tauto)]
        exact ⟨hs, rfl⟩
  · split
    · exact plainSinkAppendPov_normal s _ alloc
    · exact ⟨rfl, rfl⟩

/-- **A normal image goes into an empty sink.** -/
theorem plainScanFrame_stores {f : GoodixFrame} (h : NormalImage f) {s : PlainSink}
    (hs : s.haveNormal = false) :
    plainScanFrame f.parsed true s =
      { s with
        normal := { hdr := f.payload.take 5, body := some (f.payload.drop 5) }
        haveNormal := true } := by
  have hlen : 5 < f.payload.length := h.len
  unfold plainScanFrame
  dsimp only
  rw [if_pos ⟨h.cmd, Nat.le_of_lt hlen, h.first⟩]
  refine (plainSinkAppendNormal_eq (Nat.le_of_lt hlen) hs true).trans ?_
  rw [if_neg]
  · rintro (hfive | hcrc | halloc)
    · exact absurd hfive (Nat.ne_of_gt hlen)
    · exact hcrc h.crc
    · exact halloc rfl

theorem plainScanFrames_keeps {fs : List GoodixFrame} (h : ∀ f ∈ fs, ¬ NormalImage f)
    (alloc : Nat → Bool) (off : Nat) (s : PlainSink) :
    (plainScanFrames alloc off s fs).haveNormal = s.haveNormal ∧
      (plainScanFrames alloc off s fs).normal = s.normal := by
  induction fs generalizing off s with
  | nil => exact ⟨rfl, rfl⟩
  | cons f fs ih =>
      rw [List.forall_mem_cons] at h
      obtain ⟨hhave, hnormal⟩ := plainScanFrame_keeps h.1 (alloc off) s
      obtain ⟨hhave', hnormal'⟩ := ih h.2 (off + f.bytes.length)
        (plainScanFrame f.parsed (alloc off) s)
      exact ⟨hhave'.trans hhave, hnormal'.trans hnormal⟩

/-- What a sink holds it held before, or the frame is where it is from. -/
theorem plainScanFrame_source (f : GoodixFrame) (alloc : Bool) (s : PlainSink)
    (h : (plainScanFrame f.parsed alloc s).haveNormal = true) :
    s.haveNormal = true ∧ (plainScanFrame f.parsed alloc s).normal = s.normal ∨
      NormalImage f ∧ (plainScanFrame f.parsed alloc s).normal.body = some (f.payload.drop 5) := by
  by_cases hf : NormalImage f
  · have hlen : 5 ≤ f.payload.length := Nat.le_of_lt hf.len
    have happend : plainScanFrame f.parsed alloc s = plainSinkAppendNormal s f.payload alloc := by
      unfold plainScanFrame
      exact if_pos ⟨hf.cmd, hlen, hf.first⟩
    rw [happend] at h ⊢
    cases hs : s.haveNormal with
    | true =>
        rw [plainSinkAppendNormal, if_neg (Nat.not_lt.mpr hlen), if_pos hs]
        exact Or.inl ⟨rfl, rfl⟩
    | false =>
        rw [plainSinkAppendNormal_eq hlen hs] at h ⊢
        split at h
        · rw [hs] at h
          cases h
        · rename_i hstores
          rw [if_neg hstores]
          exact Or.inr ⟨hf, rfl⟩
  · obtain ⟨hhave, hnormal⟩ := plainScanFrame_keeps hf alloc s
    exact Or.inl ⟨hhave.symm.trans h, hnormal⟩

theorem plainScanFrames_source (fs : List GoodixFrame) (alloc : Nat → Bool) (off : Nat)
    (s : PlainSink) (h : (plainScanFrames alloc off s fs).haveNormal = true) :
    s.haveNormal = true ∧ (plainScanFrames alloc off s fs).normal = s.normal ∨
      ∃ f ∈ fs, NormalImage f ∧
        (plainScanFrames alloc off s fs).normal.body = some (f.payload.drop 5) := by
  induction fs generalizing off s with
  | nil => exact Or.inl ⟨h, rfl⟩
  | cons f fs ih =>
      rcases ih (off + f.bytes.length) (plainScanFrame f.parsed (alloc off) s) h with
        ⟨hhave, hnormal⟩ | ⟨g, hg, hnormal, hbody⟩
      · rcases plainScanFrame_source f (alloc off) s hhave with ⟨hs, hsame⟩ | ⟨hf, hbody⟩
        · exact Or.inl ⟨hs, hnormal.trans hsame⟩
        · refine Or.inr ⟨f, List.mem_cons_self, hf, ?_⟩
          exact (congrArg PlainFrame.body hnormal).trans hbody
      · exact Or.inr ⟨g, List.mem_cons_of_mem _ hg, hnormal, hbody⟩

/-- **Where the image in a sink is from.** -/
theorem plainScanChunks_source (fs : List GoodixFrame) (alloc : Nat → Bool) (s : PlainSink)
    (h : (plainScanChunks alloc (fs.flatMap GoodixFrame.bytes) s).haveNormal = true) :
    s.haveNormal = true ∧
        (plainScanChunks alloc (fs.flatMap GoodixFrame.bytes) s).normal = s.normal ∨
      ∃ f ∈ fs, NormalImage f ∧
        (plainScanChunks alloc (fs.flatMap GoodixFrame.bytes) s).normal.body =
          some (f.payload.drop 5) := by
  rw [plainScanChunks_frames] at h ⊢
  exact plainScanFrames_source fs alloc 0 s h

/-- An image that is extracted was in the sink, and is not any more. -/
theorem plainSinkExtractNormal_some {s s' : PlainSink} {alloc : Bool} {hdr body : List UInt8}
    (h : plainSinkExtractNormal s alloc = (.ok (some (hdr, body)), s')) :
    s.haveNormal = true ∧ s.normal.body = some body ∧ s' = plainSinkResetNormal s := by
  rw [plainSinkExtractNormal] at h
  cases hbody : s.normal.body with
  | none =>
      rw [hbody] at h
      cases h
  | some b =>
      rw [hbody] at h
      dsimp only at h
      split at h
      · cases h
      · rename_i hfull
        rw [not_or, not_not] at hfull
        split at h
        · cases h
        · cases h
          exact ⟨hfull.1, rfl, rfl⟩

/-- Extracting leaves the sink as it is, or without an image. -/
theorem plainSinkExtractNormal_snd (s : PlainSink) (alloc : Bool) :
    (plainSinkExtractNormal s alloc).2 = s ∨
      (plainSinkExtractNormal s alloc).2 = plainSinkResetNormal s := by
  rw [plainSinkExtractNormal]
  cases s.normal.body with
  | none => exact Or.inl rfl
  | some body =>
      dsimp only
      split
      · exact Or.inl rfl
      · split
        · exact Or.inl rfl
        · exact Or.inr rfl

/--
**The first normal image of a scan is the one that is extracted.**
Frames that are no normal image may come before it.
-/
theorem plainSinkExtractNormal_scan {fs : List GoodixFrame} (hfs : ∀ f ∈ fs, ¬ NormalImage f)
    {f : GoodixFrame} (hf : NormalImage f) {s : PlainSink} (hs : s.haveNormal = false) :
    (plainSinkExtractNormal
      (plainScanChunks (fun _ => true) ((fs ++ [f]).flatMap GoodixFrame.bytes) s) true).1 =
      .ok (some (f.payload.take 5, f.payload.drop 5)) := by
  have hlen : 5 < f.payload.length := hf.len
  obtain ⟨hhave, -⟩ := plainScanFrames_keeps hfs (fun _ => true) 0 s
  have hbody : (f.payload.drop 5).length ≠ 0 := by
    rw [List.length_drop]
    omega
  rw [plainScanChunks_frames, plainScanFrames_append, plainScanFrames, plainScanFrames,
    plainScanFrame_stores hf (hhave.trans hs), plainSinkExtractNormal]
  dsimp only
  rw [if_neg (by rintro (h | h); exacts [h rfl, hbody h]), if_neg (not_not.mpr rfl)]

end Gxfp
