/-
What a scan of the decrypted stream amounts to.

`gxfp_plain_scan_chunks` finds the frames by itself: it goes on by one byte where
nothing parses and by a frame where something does, and it takes the size from the
frame.  Over frames that `gxfp_goodix_build_frame` has built it never loses its
place, whatever the payloads look like, so it does one step for each of them.
-/
import Gxfp.Image.Plain

namespace Gxfp

open Bytes

/-! ### One message -/

/-- A command and the payload that is sent under it. -/
abbrev Message := UInt8 × List UInt8

/-- What a message means to the sink. -/
def scanMessage (m : Message) (alloc : Bool) (s : PlainSink) : PlainSink :=
  if m.1 >>> 4 = 2 ∧ 5 ≤ m.2.length ∧ byteAt m.2 0 ≠ 0xAA then plainSinkAppendNormal s m.2 alloc
  else if (m.1 = 0xD2 ∨ m.1 = 0xD3) ∧ 5 ≤ m.2.length ∧ byteAt m.2 0 = 0xAA then
    plainSinkAppendPov s m.2 alloc
  else s

/-- One step over the messages; the first component is where in the buffer the next one starts. -/
def scanMessageStep (alloc : Nat → Bool) (at' : Nat × PlainSink) (m : Message) : Nat × PlainSink :=
  (at'.1 + (m.2.length + 4), scanMessage m (alloc at'.1) at'.2)

theorem cmdHigh_eq (cmd : UInt8) : (cmd >>> 4) &&& (0x0F : UInt8) = cmd >>> 4 := by
  apply UInt8.toNat.inj
  have hlt := cmd.toNat_lt
  have hand : ∀ n : Nat, n &&& 15 = n % 16 := fun n => Nat.and_two_pow_sub_one_eq_mod n 4
  simp only [UInt8.toNat_and, UInt8.toNat_shiftRight, UInt8.reduceToNat, Nat.reduceMod, hand,
    Nat.shiftRight_eq_div_pow, Nat.reducePow]
  omega

/-- The two halves of the command byte, put together. -/
theorem cmdPov_iff (cmd : UInt8) :
    (cmd >>> 4) &&& 0x0F = 0xD ∧ (cmd &&& 0x0F) >>> 1 = 0x1 ↔ cmd = 0xD2 ∨ cmd = 0xD3 := by
  have hand : ∀ n : Nat, n &&& 15 = n % 16 := fun n => Nat.and_two_pow_sub_one_eq_mod n 4
  have hlt := cmd.toNat_lt
  simp only [← UInt8.toNat_inj, UInt8.toNat_and, UInt8.toNat_shiftRight, UInt8.reduceToNat,
    Nat.reduceMod, hand, Nat.shiftRight_eq_div_pow, Nat.reducePow]
  omega

theorem plainScanFrame_eq (f : GoodixFrame) (alloc : Bool) (s : PlainSink) :
    plainScanFrame f.parsed alloc s = scanMessage (f.cmd, f.payload) alloc s := by
  have hcmd : f.parsed.cmd = f.cmd := rfl
  have hpayload : f.parsed.payload = f.payload := rfl
  unfold plainScanFrame scanMessage
  simp only [hcmd, hpayload, cmdHigh_eq]
  refine if_congr Iff.rfl rfl (if_congr ?_ rfl rfl)
  rw [← and_assoc, ← cmdPov_iff f.cmd, cmdHigh_eq]

/-! ### Frames that were built -/

/-- `bytes` is what `gxfp_goodix_build_frame` made of the message, in some buffer. -/
def Message.Built (m : Message) (bytes : List UInt8) : Prop :=
  ∃ cap, goodixBuildFrame m.1 m.2 cap = .ok bytes

/-- **What is built is the bytes of a complete frame.** -/
theorem Message.Built.frame {m : Message} {bytes : List UInt8} (h : m.Built bytes) :
    ∃ f : GoodixFrame, (f.cmd, f.payload) = m ∧ f.bytes = bytes := by
  obtain ⟨cap, hok⟩ := h
  obtain ⟨hle, hbytes⟩ := goodixBuildFrame_inv hok
  exact ⟨.built m.1 m.2 hle, rfl, hbytes.symm⟩

/-- A list of messages and what was built of them, as frames. -/
theorem exists_frames {messages : List Message} {encoded : List (List UInt8)}
    (h : List.Forall₂ Message.Built messages encoded) :
    ∃ frames : List GoodixFrame,
      messages = frames.map (fun f => (f.cmd, f.payload)) ∧
        encoded.flatten = frames.flatMap GoodixFrame.bytes := by
  induction h with
  | nil => exact ⟨[], rfl, rfl⟩
  | cons hbuilt _ ih =>
      obtain ⟨f, hm, hbytes⟩ := hbuilt.frame
      obtain ⟨frames, hms, hrest⟩ := ih
      refine ⟨f :: frames, ?_, ?_⟩
      · rw [List.map_cons, hm, hms]
      · rw [List.flatten_cons, List.flatMap_cons, hbytes, hrest]

/-- The frames of a run, folded over. -/
theorem plainScanFrames_eq_foldl (alloc : Nat → Bool) (frames : List GoodixFrame) (off : Nat)
    (s : PlainSink) :
    plainScanFrames alloc off s frames =
      ((frames.map fun f => (f.cmd, f.payload)).foldl (scanMessageStep alloc) (off, s)).2 := by
  induction frames generalizing off s with
  | nil => rfl
  | cons f fs ih =>
      rw [plainScanFrames, ih, plainScanFrame_eq, f.length_bytes]
      rfl

/--
**A scan takes every frame once and in order.**

Over frames that were built, and up to three stray bytes, the scan is the fold of
`scanMessage`.  Allocation may fail anywhere.
-/
theorem plainScanChunks_built (alloc : Nat → Bool) (s : PlainSink) {messages : List Message}
    {encoded : List (List UInt8)} (hbuilt : List.Forall₂ Message.Built messages encoded)
    {stray : List UInt8} (hstray : stray.length ≤ 3) :
    plainScanChunks alloc (encoded.flatten ++ stray) s =
      (messages.foldl (scanMessageStep alloc) (0, s)).2 := by
  obtain ⟨frames, hmessages, hencoded⟩ := exists_frames hbuilt
  rw [hencoded, plainScanChunks_frames_append alloc frames (Nat.lt_succ_of_le hstray), hmessages]
  exact plainScanFrames_eq_foldl alloc frames 0 s

/-- A payload that looks like a frame, between two stray bytes. -/
theorem plainScanChunks_built_nested :
    plainScanChunks (fun _ => true)
        ([[0x20, 0x06, 0x00, 0xD2, 0x02, 0x00, 0xAA, 0x01, 0x05]].flatten ++ [0xD2, 0x09])
        .zeroed =
      ([(0x20, [0xD2, 0x02, 0x00, 0xAA, 0x01])].foldl (scanMessageStep fun _ => true)
        (0, .zeroed)).2 :=
  plainScanChunks_built _ _ (List.Forall₂.cons ⟨9, by decide⟩ List.Forall₂.nil) (by decide)

end Gxfp
