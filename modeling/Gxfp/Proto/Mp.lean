/-
The mailbox protocol of `src/proto/mp_proto.c`.

A message to or from the controller is an MP frame: a flags byte whose high nibble
is the channel type, a little-endian payload length, a checksum over those three
bytes, and the payload.  Towards the controller the frame travels inside an eSPI
wrapper of eight more header bytes, padded to a multiple of eight; from the
controller it arrives cut into mailbox chunks of `mpChunkMax` bytes.

A C buffer and its length are one `List UInt8` here, so `buf_len` is the length of
the list and a null buffer does not exist.  What `gxfp_mp_build` writes into `out`
is what `mpBuild` returns.
-/
import Gxfp.Library.Bytes
import Gxfp.Errno

namespace Gxfp

open Bytes

/-! ### Constants -/

def mpTypeCmd : UInt8 := 0x0A
def mpTypeTls : UInt8 := 0x0B
def mpTypeNotice : UInt8 := 0x0C

def mpChunkMax : Nat := 0xE00
def mpAlign : Nat := 8
def mpTxBufferSize : Nat := 0x200
def mpWrapperMagic : UInt8 := 0xF0
def mpLenMax : Nat := 0x6C00
def mpFrameMax : Nat := 4 + mpLenMax
def mpMaxPayload : Nat := mpTxBufferSize - 8 - 4

/-! ### The functions of `mp_proto.c` -/

/-- `gxfp_mp_type_valid` -/
def mpTypeValid (type : UInt8) : Bool :=
  type == mpTypeCmd || type == mpTypeTls || type == mpTypeNotice

/-- `gxfp_mp_check_head`: the payload length a valid head announces. -/
def mpCheckHead (buf : List UInt8) : Option UInt16 :=
  match buf with
  | flags :: lo :: hi :: ck :: _ =>
    let type := flags >>> 4
    let mpLen := le16 lo hi
    if ¬ mpTypeValid type then none
    else if mpLenMax ≤ mpLen.toNat then none
    else if ck ≠ flags + lo + hi then none
    else some mpLen
  | _ => none

/-- The four head bytes `gxfp_mp_build` writes. -/
def mpHead (mpType : UInt8) (payloadLen : Nat) : List UInt8 :=
  let flags := (mpType &&& 0x0F) <<< 4
  [flags, loByte payloadLen, hiByte payloadLen, flags + loByte payloadLen + hiByte payloadLen]

/-- `gxfp_mp_build` -/
def mpBuild (mpType : UInt8) (payload : List UInt8) (outCap : Nat) : Except Errno (List UInt8) :=
  if mpLenMax ≤ payload.length then .error .overflow
  else if ¬ mpTypeValid mpType then .error .inval
  else if outCap < 4 + payload.length then .error .msgsize
  else .ok (mpHead mpType payload.length ++ payload)

/-- The zero bytes after a frame of `mpFrameLen` bytes. -/
def mpPad (mpFrameLen : Nat) : Nat :=
  (mpAlign - (mpFrameLen &&& (mpAlign - 1))) &&& (mpAlign - 1)

/-- `gxfp_mp_wrapped_len` -/
def mpWrappedLen (mpFrameLen : Nat) : Nat := 8 + mpFrameLen + mpPad mpFrameLen

/-- `gxfp_mp_wrap`: the wrapped frame, and the sequence number it moved on to. -/
def mpWrap (mpFrame : List UInt8) (seq16 : UInt16) (outCap : Nat) :
    Except Errno (List UInt8 × UInt16) :=
  if mpFrame.length = 0 then .error .inval
  else if mpTxBufferSize < mpWrappedLen mpFrame.length then .error .overflow
  else if outCap < mpWrappedLen mpFrame.length then .error .msgsize
  else
    let seq := seq16 + 1
    let lo := loByte mpFrame.length
    let hi := hiByte mpFrame.length
    .ok ([mpWrapperMagic, lo, hi, mpWrapperMagic + lo + hi,
      loByte seq.toNat, hiByte seq.toNat, 0, 0] ++ mpFrame ++ zeros (mpPad mpFrame.length), seq)

/-- `gxfp_mp_rx_chunk` -/
def mpRxChunk (remain : Nat) : Nat := if remain < mpChunkMax then remain else mpChunkMax

/-! ### What a built frame reads as -/

@[simp] theorem length_mpHead (ty : UInt8) (n : Nat) : (mpHead ty n).length = 4 := rfl

/-- The channel types are nibbles, so the shift up and back loses nothing. -/
theorem mpType_nibble {ty : UInt8} (h : mpTypeValid ty = true) :
    ((ty &&& 0x0F) <<< 4) >>> 4 = ty := by
  simp only [mpTypeValid, Bool.or_eq_true, beq_iff_eq] at h
  rcases h with (rfl | rfl) | rfl <;> decide

/-- **A built head is accepted, and announces the length it was built with.** -/
theorem mpCheckHead_mpHead {ty : UInt8} (hty : mpTypeValid ty = true) {n : Nat}
    (hn : n < mpLenMax) (rest : List UInt8) :
    ∃ len, mpCheckHead (mpHead ty n ++ rest) = some len ∧ len.toNat = n := by
  have hlen : (le16 (loByte n) (hiByte n)).toNat = n :=
    toNat_le16_split (Nat.lt_trans hn (by decide))
  refine ⟨le16 (loByte n) (hiByte n), ?_, hlen⟩
  simp [mpHead, mpCheckHead, mpType_nibble hty, hty, hlen, hn]

/-- The first four bytes decide. -/
theorem mpCheckHead_take {buf : List UInt8} {n : Nat} (h : 4 ≤ n) :
    mpCheckHead (buf.take n) = mpCheckHead buf := by
  obtain ⟨m, rfl⟩ : ∃ m, n = m + 4 := ⟨n - 4, by omega⟩
  match buf with
  | [] => rfl
  | [_] => rfl
  | [_, _] => rfl
  | [_, _, _] => rfl
  | a :: b :: c :: d :: rest => rfl

theorem mpCheckHead_lt {buf : List UInt8} {len : UInt16} (h : mpCheckHead buf = some len) :
    len.toNat < mpLenMax := by
  unfold mpCheckHead at h
  split at h
  · simp only [Option.ite_none_left_eq_some] at h
    obtain ⟨-, hlt, -, hlen⟩ := h
    simp only [Option.some.injEq] at hlen
    subst hlen
    exact Nat.lt_of_not_le hlt
  · simp at h

theorem mpBuild_ok {ty : UInt8} {payload : List UInt8} {cap : Nat}
    (hty : mpTypeValid ty = true) (hlen : payload.length < mpLenMax)
    (hcap : 4 + payload.length ≤ cap) :
    mpBuild ty payload cap = .ok (mpHead ty payload.length ++ payload) := by
  simp [mpBuild, hty, Nat.not_le.mpr hlen, Nat.not_lt.mpr hcap]

/-! ### The wrapper -/

theorem mpPad_lt (n : Nat) : mpPad n < mpAlign := by
  have h : mpPad n = (mpAlign - (n &&& (mpAlign - 1))) % 2 ^ 3 := by
    rw [mpPad, show mpAlign - 1 = 2 ^ 3 - 1 from rfl, Nat.and_two_pow_sub_one_eq_mod]
  rw [h]
  exact Nat.mod_lt _ (by decide)

/-- **A wrapped frame is a whole number of 8-byte words.** -/
theorem mpWrappedLen_mod (n : Nat) : mpWrappedLen n % mpAlign = 0 := by
  have hpad : mpPad n = (8 - n % 8) % 8 := by
    rw [mpPad, show mpAlign - 1 = 2 ^ 3 - 1 from rfl, Nat.and_two_pow_sub_one_eq_mod,
      Nat.and_two_pow_sub_one_eq_mod]
    rfl
  rw [mpWrappedLen, hpad, show mpAlign = 8 from rfl]
  omega

theorem mpRxChunk_le (remain : Nat) : mpRxChunk remain ≤ remain := by
  unfold mpRxChunk
  split <;> omega

theorem mpRxChunk_pos {remain : Nat} (h : 0 < remain) : 0 < mpRxChunk remain := by
  unfold mpRxChunk
  split
  · exact h
  · decide

end Gxfp
