/-
The plaintext scan with its array accesses checked.

`gxfp_plain_scan_chunks` hands payloads of at least five bytes to the sink.  The sink takes
the five off their length again, and the CRC check the four of the trailer, which it looks
for itself.  A frame of the other kind goes to the next of five places.
-/
import Gxfp.Bounds.Receive
import Gxfp.Image.Plain

namespace Gxfp.Bounds

open Bytes Checked

/-- The arrays of the sink have the sizes that they are declared with. -/
structure SizedSink (s : PlainSink) : Prop where
  normal : s.normal.hdr.length = 5
  pov : s.pov.length = plainMaxPovFrames
  frames : ∀ f ∈ s.pov, f.hdr.length = 5

/-- `struct gxfp_plain_sink`, with the sizes of its arrays. -/
structure PlainArrays extends PlainSink where
  sized : SizedSink toPlainSink

/-- `crc32_mpeg2` -/
def crc32Mpeg2 (buf : List UInt8) (len : Nat) : Check UInt32 :=
  (List.range len).foldlM (fun crc i => do
    let b ← fetch buf i
    let entry ← fetch crc32Mpeg2Table (((crc >>> 24) ^^^ b.toUInt32) &&& 0xFF).toNat
    pure (entry ^^^ (crc <<< 8))) 0xFFFFFFFF

/-- `gxfp_image_crc_check` -/
def imageCrcCheck (buf : List UInt8) : Check Bool :=
  let len := buf.length
  if len < 4 then pure false
  else do
    let end4 ← diff len 4
    let crc ← crc32Mpeg2 buf end4
    let b2 ← fetch buf (← diff len 2)
    let b3 ← fetch buf (← diff len 1)
    let b0 ← fetch buf (← diff len 4)
    let b1 ← fetch buf (← diff len 3)
    pure (crc == crcTrailerValue b0 b1 b2 b3)

/-- `plain_frame_store` -/
def plainFrameStore (f : PlainFrame) (payload : List UInt8) (bodyLen : Nat) (alloc : Bool) :
    Check (Except Errno Bool × PlainFrame) :=
  if payload.length < 5 ∨ bodyLen = 0 then pure (.ok false, f)
  else do
    let room ← diff payload.length 5
    if room < bodyLen then pure (.error .inval, f)
    else
      let body ← slice payload 5 bodyLen
      let good ← imageCrcCheck body
      if ¬ good then pure (.ok false, f)
      else if ¬ alloc then pure (.error .nomem, f)
      else
        let buf ← copy (zeros bodyLen) 0 body 0 bodyLen
        let hdr ← copy f.hdr 0 payload 0 5
        pure (.ok true, { hdr, body := some buf })

/-- `gxfp_plain_sink_append_normal` -/
def plainSinkAppendNormal (s : PlainSink) (payload : List UInt8) (alloc : Bool) :
    Check PlainSink :=
  if payload.length < 5 then pure s
  else if s.haveNormal then pure s
  else do
    let bodyLen ← diff payload.length 5
    match ← plainFrameStore s.normal payload bodyLen alloc with
    | (.ok true, normal) => pure { s with normal, haveNormal := true }
    | (_, normal) => pure { s with normal }

/-- `gxfp_plain_sink_append_pov` -/
def plainSinkAppendPov (s : PlainSink) (payload : List UInt8) (alloc : Bool) : Check PlainSink :=
  if payload.length < 5 then pure s
  else if plainMaxPovFrames ≤ s.povCount then pure s
  else do
    let bodyLen ← diff payload.length 5
    let f ← fetch s.pov s.povCount
    let (r, f) ← plainFrameStore f payload bodyLen alloc
    let pov ← store s.pov s.povCount [f]
    match r with
    | .ok true => pure { s with pov, povCount := s.povCount + 1 }
    | .ok false => pure { s with pov, povCrcFail := s.povCrcFail + 1 }
    | .error _ => pure { s with pov }

/-- What `gxfp_plain_scan_chunks` does with one frame. -/
def plainScanFrame (frame : FrameParsed) (alloc : Bool) (s : PlainSink) : Check PlainSink := do
  let cmd0 := (frame.cmd >>> 4) &&& 0x0F
  let cmd1 := (frame.cmd &&& 0x0F) >>> 1
  if cmd0 = 0x2 ∧ 5 ≤ frame.payload.length then
    let first ← fetch frame.payload 0
    if first ≠ 0xAA then plainSinkAppendNormal s frame.payload alloc else pure s
  else if cmd0 = 0xD ∧ cmd1 = 0x1 ∧ 5 ≤ frame.payload.length then
    let first ← fetch frame.payload 0
    if first = 0xAA then plainSinkAppendPov s frame.payload alloc else pure s
  else pure s

/-- The loop of `gxfp_plain_scan_chunks`, from `off` on. -/
def plainScanLoop (alloc : Nat → Bool) (buf : List UInt8) (off : Nat) (s : PlainSink) :
    Check PlainSink :=
  if off + 4 ≤ buf.length then do
    let rest ← diff buf.length off
    let window ← slice buf off rest
    match ← parseGoodixBody window with
    | none => plainScanLoop alloc buf (off + 1) s
    | some frame =>
      if ¬ frame.valid then plainScanLoop alloc buf (off + 1) s
      else
        let total := frame.payload.length + 4
        let s ← plainScanFrame frame (alloc off) s
        if off + total ≤ buf.length then
          let skip ← diff total 1
          plainScanLoop alloc buf (off + skip + 1) s
        else plainScanLoop alloc buf (off + 1) s
  else pure s
termination_by buf.length - off

/-- `gxfp_plain_scan_chunks` -/
def plainScanChunks (alloc : Nat → Bool) (buf : List UInt8) (s : PlainSink) : Check PlainSink :=
  if buf.length < 8 then pure s else plainScanLoop alloc buf 0 s

/-! ### In bounds -/

theorem crc32Mpeg2_eq {buf : List UInt8} {len : Nat} (h : len ≤ buf.length) :
    crc32Mpeg2 buf len = .ok (Gxfp.crc32Mpeg2 (buf.take len)) := by
  have hentry : ∀ (crc : UInt32) (b : UInt8),
      (do
        let entry ← fetch crc32Mpeg2Table (((crc >>> 24) ^^^ b.toUInt32) &&& 0xFF).toNat
        pure (entry ^^^ (crc <<< 8)) : Check UInt32) = pure (crc32Mpeg2Byte crc b) := by
    intro crc b
    have hindex : (((crc >>> 24) ^^^ b.toUInt32) &&& 0xFF).toNat < crc32Mpeg2Table.length := by
      rw [UInt32.toNat_and, crc32Mpeg2Table, List.length_map, List.length_range]
      exact Nat.lt_succ_of_le Nat.and_le_right
    rw [fetch_of_lt hindex 0]
    rfl
  simp only [crc32Mpeg2, hentry]
  exact foldlM_fetch crc32Mpeg2Byte _ h

theorem imageCrcCheck_eq (buf : List UInt8) :
    imageCrcCheck buf = .ok (Gxfp.imageCrcCheck buf) := by
  unfold imageCrcCheck Gxfp.imageCrcCheck
  refine ite_eq_ok (fun _ => rfl) fun hshort => ?_
  rw [diff_of_le (by omega), ok_bind, crc32Mpeg2_eq (by omega), ok_bind, diff_of_le (by omega),
    ok_bind, fetch_byteAt (by omega), ok_bind, diff_of_le (by omega), ok_bind,
    fetch_byteAt (by omega), ok_bind, ok_bind, fetch_byteAt (by omega), ok_bind,
    diff_of_le (by omega), ok_bind, fetch_byteAt (by omega)]
  rfl

theorem plainFrameStore_eq {f : PlainFrame} (hf : f.hdr.length = 5) (payload : List UInt8)
    (bodyLen : Nat) (alloc : Bool) :
    plainFrameStore f payload bodyLen alloc =
      .ok (Gxfp.plainFrameStore f payload bodyLen alloc) := by
  unfold plainFrameStore Gxfp.plainFrameStore
  refine ite_eq_ok (fun _ => rfl) fun hshort => ?_
  rw [diff_of_le (by omega), ok_bind]
  refine ite_eq_ok (fun _ => rfl) fun hroom => ?_
  rw [slice_of_le (by omega), ok_bind, imageCrcCheck_eq, ok_bind]
  refine ite_eq_ok (fun _ => rfl) fun _ => ?_
  refine ite_eq_ok (fun _ => rfl) fun _ => ?_
  have hbody : ((payload.drop 5).take bodyLen).length = bodyLen := length_drop_take (by omega)
  rw [copy_all (by omega) (length_zeros bodyLen), ok_bind, copy_all (by omega) hf, ok_bind,
    List.drop_zero, List.drop_zero, List.take_of_length_le (Nat.le_of_eq hbody)]
  rfl

/-- Storing a frame keeps the size of its header. -/
theorem plainFrameStore_hdr {f : PlainFrame} (hf : f.hdr.length = 5) (payload : List UInt8)
    (bodyLen : Nat) (alloc : Bool) :
    (Gxfp.plainFrameStore f payload bodyLen alloc).2.hdr.length = 5 := by
  unfold Gxfp.plainFrameStore
  split
  · exact hf
  rename_i hshort
  split
  · exact hf
  dsimp only
  split
  · exact hf
  split
  · exact hf
  · exact List.length_take_of_le (by omega)

theorem plainSinkAppendNormal_eq {s : PlainSink} (hs : SizedSink s) (payload : List UInt8)
    (alloc : Bool) :
    plainSinkAppendNormal s payload alloc = .ok (Gxfp.plainSinkAppendNormal s payload alloc) ∧
      SizedSink (Gxfp.plainSinkAppendNormal s payload alloc) := by
  unfold plainSinkAppendNormal Gxfp.plainSinkAppendNormal
  by_cases hshort : payload.length < 5
  · rw [if_pos hshort, if_pos hshort]
    exact ⟨rfl, hs⟩
  rw [if_neg hshort, if_neg hshort]
  by_cases hhave : s.haveNormal
  · rw [if_pos hhave, if_pos hhave]
    exact ⟨rfl, hs⟩
  rw [if_neg hhave, if_neg hhave, diff_of_le (by omega), ok_bind, plainFrameStore_eq hs.normal,
    ok_bind]
  have hhdr := plainFrameStore_hdr hs.normal payload (payload.length - 5) alloc
  generalize Gxfp.plainFrameStore s.normal payload (payload.length - 5) alloc = stored at hhdr ⊢
  rcases stored with ⟨e | _ | _, normal⟩
  · exact ⟨rfl, { hs with normal := hhdr }⟩
  · exact ⟨rfl, { hs with normal := hhdr }⟩
  · exact ⟨rfl, { hs with normal := hhdr }⟩

theorem plainSinkAppendPov_eq {s : PlainSink} (hs : SizedSink s) (payload : List UInt8)
    (alloc : Bool) :
    plainSinkAppendPov s payload alloc = .ok (Gxfp.plainSinkAppendPov s payload alloc) ∧
      SizedSink (Gxfp.plainSinkAppendPov s payload alloc) := by
  unfold plainSinkAppendPov Gxfp.plainSinkAppendPov
  by_cases hshort : payload.length < 5
  · rw [if_pos hshort, if_pos hshort]
    exact ⟨rfl, hs⟩
  rw [if_neg hshort, if_neg hshort]
  by_cases hfull : plainMaxPovFrames ≤ s.povCount
  · rw [if_pos hfull, if_pos hfull]
    exact ⟨rfl, hs⟩
  have hindex : s.povCount < s.pov.length := by
    rw [hs.pov]
    omega
  have hold : (s.pov.getD s.povCount plainFrameReset).hdr.length = 5 := by
    rw [List.getD_eq_getElem?_getD, List.getElem?_eq_getElem hindex]
    exact hs.frames _ (List.getElem_mem hindex)
  have hhdr := plainFrameStore_hdr hold payload (payload.length - 5) alloc
  rw [if_neg hfull, if_neg hfull, diff_of_le (by omega), ok_bind,
    fetch_of_lt hindex plainFrameReset, ok_bind, plainFrameStore_eq hold, ok_bind]
  generalize Gxfp.plainFrameStore (s.pov.getD s.povCount plainFrameReset) payload
    (payload.length - 5) alloc = stored at hhdr ⊢
  obtain ⟨r, f⟩ := stored
  have hone : s.povCount + [f].length ≤ s.pov.length := hindex
  have hframes : ∀ g ∈ s.pov.set s.povCount f, g.hdr.length = 5 := by
    intro g hg
    rcases List.mem_or_eq_of_mem_set hg with hmem | rfl
    · exact hs.frames g hmem
    · exact hhdr
  have hlen : (s.pov.set s.povCount f).length = plainMaxPovFrames := List.length_set.trans hs.pov
  simp only [store_of_le hone, ok_bind, overwrite_one hindex]
  rcases r with e | _ | _
  · exact ⟨rfl, ⟨hs.normal, hlen, hframes⟩⟩
  · exact ⟨rfl, ⟨hs.normal, hlen, hframes⟩⟩
  · exact ⟨rfl, ⟨hs.normal, hlen, hframes⟩⟩

theorem plainScanFrame_eq (frame : FrameParsed) (alloc : Bool) {s : PlainSink}
    (hs : SizedSink s) :
    plainScanFrame frame alloc s = .ok (Gxfp.plainScanFrame frame alloc s) ∧
      SizedSink (Gxfp.plainScanFrame frame alloc s) := by
  unfold plainScanFrame Gxfp.plainScanFrame
  by_cases hfive : 5 ≤ frame.payload.length
  · have hfirst : fetch frame.payload 0 = .ok (byteAt frame.payload 0) :=
      fetch_byteAt (by omega)
    simp only [hfive, hfirst, ok_bind, true_and, and_true]
    by_cases hnormal : (frame.cmd >>> 4) &&& 0x0F = 0x2
    · have hother : (0x2 : UInt8) ≠ 0xD := by decide
      simp only [hnormal, if_true, true_and]
      split
      · exact plainSinkAppendNormal_eq hs frame.payload alloc
      · simp only [hother, false_and, if_false]
        exact ⟨rfl, hs⟩
    simp only [hnormal, if_false, false_and]
    by_cases hpov : (frame.cmd >>> 4) &&& 0x0F = 0xD ∧ (frame.cmd &&& 0x0F) >>> 1 = 0x1
    · simp only [hpov, and_self, if_true, true_and]
      split
      · exact plainSinkAppendPov_eq hs frame.payload alloc
      · exact ⟨rfl, hs⟩
    · simp only [← and_assoc, hpov, if_false, false_and]
      exact ⟨rfl, hs⟩
  · simp only [hfive, and_false, false_and, if_false]
    exact ⟨rfl, hs⟩

/-- One turn of the loop, with what is in front of the frame cut off. -/
theorem plainScanLoop_turn (alloc : Nat → Bool) {buf : List UInt8} {off : Nat}
    (hlt : off + 4 ≤ buf.length) (s : PlainSink) :
    plainScanLoop alloc buf off s =
      (match Gxfp.parseGoodixBody (buf.drop off) with
      | none => plainScanLoop alloc buf (off + 1) s
      | some frame =>
        if ¬ frame.valid then plainScanLoop alloc buf (off + 1) s
        else do
          let s ← plainScanFrame frame (alloc off) s
          if off + (frame.payload.length + 4) ≤ buf.length then
            plainScanLoop alloc buf (off + (frame.payload.length + 4)) s
          else plainScanLoop alloc buf (off + 1) s) := by
  rw [plainScanLoop, if_pos hlt, diff_of_le (by omega), ok_bind, slice_rest (by omega), ok_bind,
    parseGoodixBody_eq, ok_bind]
  rcases Gxfp.parseGoodixBody (buf.drop off) with _ | frame
  · rfl
  · rfl

theorem plainScanLoop_eq (alloc : Nat → Bool) (buf : List UInt8) (off : Nat) {s : PlainSink}
    (hs : SizedSink s) :
    plainScanLoop alloc buf off s = .ok (Gxfp.plainScanLoop alloc buf off s) ∧
      SizedSink (Gxfp.plainScanLoop alloc buf off s) := by
  fun_induction Gxfp.plainScanLoop alloc buf off s with
  | case1 off s hlt hparse ih =>
      rw [plainScanLoop_turn alloc hlt, hparse]
      exact ih hs
  | case2 off s hlt frame hparse hvalid ih =>
      rw [plainScanLoop_turn alloc hlt, hparse]
      dsimp only
      rw [if_pos hvalid]
      exact ih hs
  | case3 off s hlt frame hparse hvalid total s₁ hfit ih =>
      obtain ⟨hframe, hs₁⟩ := plainScanFrame_eq frame (alloc off) hs
      rw [plainScanLoop_turn alloc hlt, hparse]
      dsimp only
      rw [if_neg hvalid, hframe, ok_bind, if_pos hfit]
      exact ih hs₁
  | case4 off s hlt frame hparse hvalid total s₁ hfit ih =>
      obtain ⟨hframe, hs₁⟩ := plainScanFrame_eq frame (alloc off) hs
      rw [plainScanLoop_turn alloc hlt, hparse]
      dsimp only
      rw [if_neg hvalid, hframe, ok_bind, if_neg hfit]
      exact ih hs₁
  | case5 off s hge =>
      rw [plainScanLoop, if_neg hge]
      exact ⟨rfl, hs⟩

theorem plainScanChunks_eq (alloc : Nat → Bool) (buf : List UInt8) {s : PlainSink}
    (hs : SizedSink s) :
    plainScanChunks alloc buf s = .ok (Gxfp.plainScanChunks alloc buf s) ∧
      SizedSink (Gxfp.plainScanChunks alloc buf s) := by
  unfold plainScanChunks Gxfp.plainScanChunks
  by_cases hshort : buf.length < 8
  · rw [if_pos hshort, if_pos hshort]
    exact ⟨rfl, hs⟩
  · rw [if_neg hshort, if_neg hshort]
    exact plainScanLoop_eq alloc buf 0 hs

end Gxfp.Bounds
