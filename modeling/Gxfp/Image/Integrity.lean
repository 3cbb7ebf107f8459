/-
What the image CRC is worth.

`gxfp_image_crc_check` stands alone between the decrypted stream and the matcher.  It
takes a body exactly when its trailer is the CRC of the rest, and since the polynomial's
lowest bit is set, two bodies that differ only inside four bytes never have the same CRC.
-/
import Gxfp.Image.Crc

namespace Gxfp

open Bytes

/-! ### The trailer -/

/-- The CRC that a trailer stands for has that trailer. -/
theorem crcTrailer_crcTrailerValue (b0 b1 b2 b3 : UInt8) :
    crcTrailer (crcTrailerValue b0 b1 b2 b3) = [b0, b1, b2, b3] := by
  obtain ⟨h2, h3, h0, h1⟩ := bytes_or32 b2.toBitVec b3.toBitVec b0.toBitVec b1.toBitVec
    (x := (crcTrailerValue b0 b1 b2 b3).toBitVec) rfl
  have hb0 : (crcTrailerValue b0 b1 b2 b3 >>> 8).toUInt8 = b0 := UInt8.toBitVec_inj.mp h0
  have hb1 : (crcTrailerValue b0 b1 b2 b3).toUInt8 = b1 := UInt8.toBitVec_inj.mp h1
  have hb2 : (crcTrailerValue b0 b1 b2 b3 >>> 24).toUInt8 = b2 := UInt8.toBitVec_inj.mp h2
  have hb3 : (crcTrailerValue b0 b1 b2 b3 >>> 16).toUInt8 = b3 := UInt8.toBitVec_inj.mp h3
  rw [crcTrailer, hb0, hb1, hb2, hb3]

theorem exists_trailer {buf : List UInt8} (h : 4 ≤ buf.length) :
    ∃ b0 b1 b2 b3, buf.drop (buf.length - 4) = [b0, b1, b2, b3] := by
  have hfour : (buf.drop (buf.length - 4)).length = 4 := by
    rw [List.length_drop]
    omega
  rcases hbuf : buf.drop (buf.length - 4) with
    _ | ⟨b0, _ | ⟨b1, _ | ⟨b2, _ | ⟨b3, _ | ⟨b4, rest⟩⟩⟩⟩⟩
  case cons.cons.cons.cons.nil => exact ⟨b0, b1, b2, b3, rfl⟩
  all_goals
    rw [hbuf] at hfour
    simp at hfour

/-- **The check compares the trailer with the CRC of what comes before it.** -/
theorem imageCrcCheck_iff {buf : List UInt8} (h : 4 ≤ buf.length) :
    imageCrcCheck buf = true ↔ buf.drop (buf.length - 4) =
      crcTrailer ⟨crc32Mpeg2Serial (buf.take (buf.length - 4))⟩ := by
  obtain ⟨b0, b1, b2, b3, htrailer⟩ := exists_trailer h
  have hserial : (⟨crc32Mpeg2Serial (buf.take (buf.length - 4))⟩ : UInt32) =
      crc32Mpeg2 (buf.take (buf.length - 4)) := by
    rw [← crc32Mpeg2_eq_serial]
  have hcheck : imageCrcCheck buf =
      (crc32Mpeg2 (buf.take (buf.length - 4)) == crcTrailerValue b0 b1 b2 b3) := by
    rw [← imageCrcCheck_append, ← htrailer, List.take_append_drop]
  rw [hcheck, beq_iff_eq, htrailer, hserial]
  constructor
  · intro hcrc
    rw [hcrc, crcTrailer_crcTrailerValue]
  · intro hbytes
    rw [crcTrailer] at hbytes
    injection hbytes with h0 hbytes
    injection hbytes with h1 hbytes
    injection hbytes with h2 hbytes
    injection hbytes with h3 _
    rw [h0, h1, h2, h3, crcTrailerValue_crcTrailer]

/-! ### Bursts -/

theorem byteBits_injective : Function.Injective Crc.byteBits := by
  intro b b' h
  refine BitVec.eq_of_getMsbD_eq fun i hi => ?_
  have hbit := congrArg (fun bits => bits[i]?) h
  simpa [Crc.byteBits, hi] using hbit

/-- The bits of a message. -/
def messageBits (buf : List UInt8) : List Bool := buf.flatMap fun b => Crc.byteBits b.toBitVec

theorem length_messageBits (buf : List UInt8) : (messageBits buf).length = 8 * buf.length := by
  induction buf with
  | nil => rfl
  | cons b buf ih =>
      rw [messageBits, List.flatMap_cons, List.length_append, List.length_cons]
      rw [messageBits] at ih
      rw [ih, Crc.byteBits, List.length_map, List.length_range]
      omega

theorem messageBits_injective : Function.Injective messageBits := by
  intro buf buf' h
  induction buf generalizing buf' with
  | nil =>
      have hlen := congrArg List.length h
      rw [length_messageBits, length_messageBits, List.length_nil] at hlen
      exact (List.length_eq_zero_iff.mp (by omega)).symm
  | cons b buf ih =>
      cases buf' with
      | nil =>
          have hlen := congrArg List.length h
          rw [length_messageBits, length_messageBits, List.length_cons, List.length_nil] at hlen
          omega
      | cons b' buf' =>
          rw [messageBits, messageBits, List.flatMap_cons, List.flatMap_cons] at h
          obtain ⟨hb, hbuf⟩ := List.append_inj h (by simp [Crc.byteBits])
          rw [UInt8.toBitVec_inj.mp (byteBits_injective hb), ih hbuf]

/-- **Four bytes decide the CRC of everything around them.** -/
theorem crc32Mpeg2_burst {pre window window' post : List UInt8}
    (hsame : window.length = window'.length) (hfour : window.length ≤ 4)
    (h : crc32Mpeg2 (pre ++ (window ++ post)) = crc32Mpeg2 (pre ++ (window' ++ post))) :
    window = window' := by
  have hpoly : crc32Poly.getLsbD 0 = true := by decide
  have hserial := congrArg UInt32.toBitVec h
  simp only [crc32Mpeg2_eq_serial, crc32Mpeg2Serial, List.flatMap_append, List.foldl_append]
    at hserial
  refine messageBits_injective (Crc.feedBits_burst crc32Poly hpoly ?_ ?_
    (Crc.foldl_feedBit_injective crc32Poly hpoly _ hserial))
  · rw [length_messageBits, length_messageBits, hsame]
  · rw [length_messageBits]
    omega

/-- Lists that agree outside a window, cut at the window. -/
theorem cut_window {buf buf' : List UInt8} {k n : Nat}
    (h : ∀ i, ¬ (k ≤ i ∧ i < k + n) → buf[i]? = buf'[i]?) :
    buf.take k = buf'.take k ∧ buf.drop (k + n) = buf'.drop (k + n) := by
  constructor
  · refine List.ext_getElem? fun i => ?_
    rw [List.getElem?_take, List.getElem?_take]
    split
    · exact h i (by omega)
    · rfl
  · refine List.ext_getElem? fun i => ?_
    rw [List.getElem?_drop, List.getElem?_drop]
    exact h _ (by omega)

theorem append_window (buf : List UInt8) (k n : Nat) :
    buf = buf.take k ++ ((buf.drop k).take n ++ buf.drop (k + n)) := by
  rw [← List.drop_drop, List.take_append_drop, List.take_append_drop]

/-- **Two accepted bodies with one trailer do not differ in four bytes only.** -/
theorem imageCrcCheck_burst {buf buf' : List UInt8} {k : Nat} (hlen : buf.length = buf'.length)
    (hfour : 4 ≤ buf.length) (haccepted : imageCrcCheck buf = true)
    (haccepted' : imageCrcCheck buf' = true)
    (htrailer : buf.drop (buf.length - 4) = buf'.drop (buf.length - 4))
    (h : ∀ i, i < buf.length - 4 → ¬ (k ≤ i ∧ i < k + 4) → buf[i]? = buf'[i]?) : buf = buf' := by
  rw [imageCrcCheck_iff hfour] at haccepted
  rw [imageCrcCheck_iff (hlen ▸ hfour), ← hlen, ← htrailer, haccepted] at haccepted'
  have hcrc : crc32Mpeg2 (buf.take (buf.length - 4)) = crc32Mpeg2 (buf'.take (buf.length - 4)) := by
    have hvalue := congrArg (fun bytes => crcTrailerValue (byteAt bytes 0) (byteAt bytes 1)
      (byteAt bytes 2) (byteAt bytes 3)) haccepted'
    have hread : ∀ crc : UInt32, crcTrailerValue (byteAt (crcTrailer crc) 0)
        (byteAt (crcTrailer crc) 1) (byteAt (crcTrailer crc) 2) (byteAt (crcTrailer crc) 3) = crc :=
      crcTrailerValue_crcTrailer
    simp only [hread, ← crc32Mpeg2_eq_serial] at hvalue
    exact hvalue
  have hagree : ∀ i, ¬ (k ≤ i ∧ i < k + 4) →
      (buf.take (buf.length - 4))[i]? = (buf'.take (buf.length - 4))[i]? := by
    intro i hi
    rw [List.getElem?_take, List.getElem?_take]
    split
    · rename_i hlt
      exact h i hlt hi
    · rfl
  obtain ⟨hbefore, hafter⟩ := cut_window hagree
  rw [append_window (buf.take (buf.length - 4)) k 4,
    append_window (buf'.take (buf.length - 4)) k 4, ← hbefore, ← hafter] at hcrc
  have hwindow := crc32Mpeg2_burst (by simp only [List.length_take, List.length_drop, hlen])
    (by rw [List.length_take]; exact Nat.min_le_left _ _) hcrc
  have hsame : buf.take (buf.length - 4) = buf'.take (buf.length - 4) := by
    rw [append_window (buf.take (buf.length - 4)) k 4,
      append_window (buf'.take (buf.length - 4)) k 4, hbefore, hafter, hwindow]
  rw [← List.take_append_drop (buf.length - 4) buf, hsame, htrailer, List.take_append_drop]

/-! ### The result -/

/--
**The image check is the real CRC and catches bursts.**

The table gives CRC-32/MPEG-2; a body is taken exactly if its trailer is that CRC in the
device's order; and of two bodies that are taken, with one trailer, neither is the other
with up to four bytes in a row changed.
-/
theorem imageCrcCheck_sound :
    (∀ buf, (crc32Mpeg2 buf).toBitVec = crc32Mpeg2Serial buf) ∧
    (∀ buf : List UInt8, 4 ≤ buf.length →
      (imageCrcCheck buf = true ↔ buf.drop (buf.length - 4) =
        crcTrailer ⟨crc32Mpeg2Serial (buf.take (buf.length - 4))⟩)) ∧
    ∀ (buf buf' : List UInt8) (k : Nat), 4 ≤ buf.length → buf.length = buf'.length →
      imageCrcCheck buf = true → imageCrcCheck buf' = true →
      buf.drop (buf.length - 4) = buf'.drop (buf.length - 4) →
      (∀ i, i < buf.length - 4 → ¬ (k ≤ i ∧ i < k + 4) → buf[i]? = buf'[i]?) → buf = buf' := by
  refine ⟨crc32Mpeg2_eq_serial, fun buf h => imageCrcCheck_iff h, ?_⟩
  intro buf buf' k hfour hlen haccepted haccepted' htrailer h
  exact imageCrcCheck_burst hlen hfour haccepted haccepted' htrailer h

/-- The digits `123456789`, with the CRC 0x0376E6E7. -/
def digitsBody : List UInt8 :=
  [0x31, 0x32, 0x33, 0x34, 0x35, 0x36, 0x37, 0x38, 0x39, 0xE6, 0xE7, 0x03, 0x76]

/-- With four of the digits changed. -/
def changedBody : List UInt8 :=
  [0x31, 0x32, 0x39, 0x30, 0x30, 0x30, 0x37, 0x38, 0x39, 0xE6, 0xE7, 0x03, 0x76]

/-- The digits are taken, and no longer when four of them have changed. -/
theorem imageCrcCheck_sound_digits :
    (crc32Mpeg2 [0x31, 0x32, 0x33, 0x34, 0x35, 0x36, 0x37, 0x38, 0x39]).toBitVec = 0x0376E6E7 ∧
      imageCrcCheck digitsBody = true ∧ imageCrcCheck changedBody ≠ true := by
  obtain ⟨hserial, htaken, hburst⟩ := imageCrcCheck_sound
  have hbody : imageCrcCheck digitsBody = true :=
    (htaken digitsBody (by decide)).mpr (by decide +kernel)
  refine ⟨(hserial _).trans (by decide +kernel), hbody, fun hchanged => ?_⟩
  have hsame := hburst digitsBody changedBody 2 (by decide) rfl hbody hchanged rfl
    (by decide +kernel)
  exact absurd hsame (by decide)

end Gxfp
