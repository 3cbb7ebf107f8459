/-
The white-box data of `src/algo/payload/provision.c`: the PSK, sealed for the sensor.

From a seed that both sides have come two keys.  The PSK is encrypted with the one, and
what goes to the sensor is authenticated with the other.  How the sensor opens it is not
part of the repository, so `wbOpen` says what it is for: whoever has the seed derives the
keys, checks the authentication and decrypts.

The keys are cut out of one run of key material, and they overlap
(`payloadDeriveKeyMaterial_overlap`).  The nonce of the encryption is made of the length and the
first quarter of the PSK, so that keys which begin alike are encrypted with one stream
(`payloadBuildBb010003_sameStream`).

mbedTLS is not part of the repository.  What it computes is a parameter, and so is which
of the calls succeed.
-/
import Gxfp.Algo.Provision
import Gxfp.Library.Symmetric

namespace Gxfp

open Bytes Symmetric

/-! ### mbedTLS -/

/-- What mbedTLS computes, and what opens what it encrypts. -/
structure Crypto where
  sha256 : List UInt8 → Block UInt8 32
  hmacSha256 : List UInt8 → List UInt8 → Block UInt8 32
  /-- Key, nonce, associated data and message: the cipher text and the tag. -/
  gcmEncrypt : Block UInt8 32 → Block UInt8 16 → List UInt8 → Block UInt8 32 →
    Block UInt8 32 × Block UInt8 16
  gcmDecrypt : Block UInt8 32 → Block UInt8 16 → List UInt8 → Block UInt8 32 × Block UInt8 16 →
    Option (Block UInt8 32)

/-- Decrypting undoes encrypting. -/
def Crypto.Inverse (c : Crypto) : Prop :=
  ∀ key iv aad msg, c.gcmDecrypt key iv aad (c.gcmEncrypt key iv aad msg) = some msg

/-- Encrypting adds a stream that depends on the key and the nonce alone. -/
def Crypto.Streams (c : Crypto) : Prop :=
  ∃ stream : Block UInt8 32 → Block UInt8 16 → Block UInt8 32, ∀ key iv aad msg,
    (c.gcmEncrypt key iv aad msg).1 = add msg (stream key iv)

/-- The calls of a build that may fail, each of which is made once. -/
inductive BuildCall
  | round1 | round2 | seedBuffer | seedDigest | setkey | cryptAndTag | payload | wbHmac | wb
  deriving DecidableEq, Repr

/-- A call into mbedTLS that comes back with a value or with an error. -/
def mbed {α : Type} (ok : Bool) (a : α) : Except Errno α := if ok then .ok a else .error .io

/-- `malloc` -/
def mallocs (ok : Bool) : Except Errno Unit := if ok then .ok () else .error .nomem

/-! ### The keys -/

/-- `local78_from_ctr` -/
def local78FromCtr (ctr : UInt32) : List UInt8 :=
  let uvar6 := (ctr * (0x10000 : UInt32) ||| ctr >>> 16) &&& (0xFFFFFFFF : UInt32)
  let local78 := ((uvar6 >>> 8 ^^^ uvar6 <<< 8) &&& (0x00FF00FF : UInt32)) ^^^ uvar6 <<< 8
  le32Bytes local78

/-- `base` of `gxfp_payload_derive_key_material` -/
def keyBase : List UInt8 :=
  ['k', 'g', 'o', 'o', 'd', 'w', 'i', 'x', 'g', '\x00', 'k', 'a', 'e', 'l', 'r', 'g', 'n', 'o',
    'e', 'r', 'l', 'i', 't', 'h', 'm'].map (fun ch => ch.toNat.toUInt8) ++ [0x00, 0x00, 0x01, 0x80]

section Build

variable (c : Crypto) (works : BuildCall → Bool)

/-- `gxfp_payload_derive_key_material`: the AES key and the HMAC key. -/
def payloadDeriveKeyMaterial (seed32 : Block UInt8 32) :
    Except Errno (Block UInt8 32 × Block UInt8 32) := do
  let round1 ← mbed (works .round1) (c.hmacSha256 seed32.val (local78FromCtr 1 ++ keyBase))
  let round2 ← mbed (works .round2) (c.hmacSha256 seed32.val (local78FromCtr 2 ++ keyBase))
  return (round1, ⟨round1.val.drop 16 ++ round2.val.take 16, by
    rw [List.length_append, List.length_drop, List.length_take, round1.property,
      round2.property]
    rfl⟩)

/-! ### The nonce -/

/-- What `gxfp_payload_calc_seed16` hashes, in the order it is copied. -/
def seed16Chunks (psk : List UInt8) : List (List UInt8) :=
  [[0x02, 0xFF], le32Bytes psk.length.toUInt32, psk.take (psk.length >>> 2),
    (List.replicate 16 (le32Bytes 3)).flatten]

/-- `gxfp_payload_calc_seed16` -/
def payloadCalcSeed16 (psk : List UInt8) : Except Errno (Block UInt8 16) :=
  if psk.length = 0 then .error .inval
  else do
    mallocs (works .seedBuffer)
    let digest ← mbed (works .seedDigest) (c.sha256 (seed16Chunks psk).flatten)
    return ⟨digest.val.take 16, by rw [List.length_take, digest.property]; rfl⟩

/-! ### The white-box data -/

/-- `fill_tls_gcm_aad` -/
def fillTlsGcmAad : List UInt8 :=
  le32Bytes 0xF0C12D52 ++ le32Bytes 0x077D5699 ++ le32Bytes 0xA3377FF4 ++ le32Bytes 0x7D42842A

/-- `fill_ff02_len_hdr` -/
def fillFf02LenHdr (dataLen : UInt32) : Block UInt8 6 := ⟨[0x02, 0xFF] ++ le32Bytes dataLen, rfl⟩

/-- `compute_bb010003_wb_hmac`, with the offsets it copies from. -/
def computeBb010003WbHmac (keyHmac : Block UInt8 32) (payload : List UInt8) : Block UInt8 32 :=
  c.hmacSha256 keyHmac.val
    (payload.take 6 ++ (payload.drop (6 + 16)).take 32 ++ (payload.drop (6 + 16 + 32)).take 16)

/-- `gxfp_payload_build_bb010003`: `wb_data` and `inner_payload`. -/
def payloadBuildBb010003 (psk32 seed32 : Block UInt8 32) :
    Except Errno (List UInt8 × List UInt8) := do
  let (keyAes, keyHmac) ← payloadDeriveKeyMaterial c works seed32
  let seed16 ← payloadCalcSeed16 c works psk32.val
  let hdr := fillFf02LenHdr 32
  let aad := fillTlsGcmAad
  mbed (works .setkey) ()
  let (cipher, tag) ← mbed (works .cryptAndTag) (c.gcmEncrypt keyAes seed16 aad psk32)
  mallocs (works .payload)
  let payload := hdr.val ++ seed16.val ++ cipher.val ++ tag.val
  let hmacOut ← mbed (works .wbHmac) (computeBb010003WbHmac c keyHmac payload)
  mallocs (works .wb)
  return (hmacOut.val ++ payload, payload)

end Build

/-! ### What the data are for -/

/-- The parts of white-box data. -/
structure WhiteBox where
  hmac : Block UInt8 32
  hdr : Block UInt8 6
  seed16 : Block UInt8 16
  cipher : Block UInt8 32
  tag : Block UInt8 16

def WhiteBox.payload (w : WhiteBox) : List UInt8 :=
  w.hdr.val ++ w.seed16.val ++ w.cipher.val ++ w.tag.val

def WhiteBox.bytes (w : WhiteBox) : List UInt8 := w.hmac.val ++ w.payload

/-- The part of `n` bytes at an offset. -/
def partAt (l : List UInt8) (i n : Nat) (h : i + n ≤ l.length) : Block UInt8 n :=
  ⟨(l.drop i).take n, Checked.length_drop_take h⟩

/-- Data that are as long as white-box data are, taken apart. -/
def readWhiteBox (l : List UInt8) : Option WhiteBox :=
  if h : l.length = 102 then
    some ⟨partAt l 0 32 (by omega), partAt l 32 6 (by omega), partAt l 38 16 (by omega),
      partAt l 54 32 (by omega), partAt l 86 16 (by omega)⟩
  else none

section Open

variable (c : Crypto)

/-- The input of the pseudo-random function for a counter: the counter, what the key is for,
and how many bits of it there are. -/
def kdfInput (ctr : Nat) : List UInt8 := (leBytes 4 ctr).reverse ++ keyBase

/-- The key material that both sides derive from the seed: 384 bits, as its input says. -/
def wbMaterial (seed32 : Block UInt8 32) : List UInt8 :=
  keyMaterial (c.hmacSha256 seed32.val) kdfInput 48

theorem length_wbMaterial (seed32 : Block UInt8 32) : (wbMaterial c seed32).length = 48 :=
  length_keyMaterial _ _ (by decide) 48

def wbKeyAes (seed32 : Block UInt8 32) : Block UInt8 32 :=
  partAt (wbMaterial c seed32) 0 32 (by have h := length_wbMaterial c seed32; omega)

def wbKeyHmac (seed32 : Block UInt8 32) : Block UInt8 32 :=
  partAt (wbMaterial c seed32) 16 32 (by have h := length_wbMaterial c seed32; omega)

/-- The PSK in white-box data, for whoever has the seed. -/
def wbOpen (seed32 : Block UInt8 32) (data : List UInt8) : Option (Block UInt8 32) := do
  let w ← readWhiteBox data
  if c.hmacSha256 (wbKeyHmac c seed32).val (w.hdr.val ++ w.cipher.val ++ w.tag.val) = w.hmac then
    c.gcmDecrypt (wbKeyAes c seed32) w.seed16 fillTlsGcmAad (w.cipher, w.tag)
  else none

end Open

/-! ### The counter -/

/-- `local78`, of a word of bits. -/
def local78Bits (x : BitVec 32) : BitVec 32 :=
  let uvar6 := (x * 0x10000#32 ||| x >>> 16) &&& 0xFFFFFFFF#32
  ((uvar6 >>> 8 ^^^ uvar6 <<< 8) &&& 0x00FF00FF#32) ^^^ uvar6 <<< 8

/-- The halves are swapped, and then the bytes of each. -/
theorem local78Bits_eq (x : BitVec 32) :
    local78Bits x =
      (x.setWidth 8).setWidth 32 <<< 24 ||| ((x >>> 8).setWidth 8).setWidth 32 <<< 16 |||
        ((x >>> 16).setWidth 8).setWidth 32 <<< 8 ||| ((x >>> 24).setWidth 8).setWidth 32 := by
  have hmul : x * 0x10000#32 = x <<< 16 := by
    rw [show (0x10000#32) = BitVec.twoPow 32 16 from rfl, BitVec.mul_twoPow_eq_shiftLeft]
  have hones : ∀ y : BitVec 32, y &&& 0xFFFFFFFF#32 = y := fun y => BitVec.and_allOnes
  have hmask : ∀ i < 32, (0x00FF00FF#32).getLsbD i =
      (decide (i < 8) || decide (16 ≤ i) && decide (i < 24)) := by decide
  have hbeyond : ∀ k, 32 ≤ k → x.getLsbD k = false := fun k hk => BitVec.getLsbD_of_ge x k hk
  unfold local78Bits
  rw [hmul, hones]
  refine BitVec.eq_of_getLsbD_eq fun i hi => ?_
  simp only [BitVec.getLsbD_or, BitVec.getLsbD_xor, BitVec.getLsbD_and, BitVec.getLsbD_shiftLeft,
    BitVec.getLsbD_setWidth, BitVec.getLsbD_ushiftRight, hmask i hi]
  by_cases h8 : i < 8
  · simp [h8, hi, show i < 16 by omega, show i < 24 by omega, show 8 + i < 16 by omega]
    congr 1
    omega
  · by_cases h16 : i < 16
    · simp [h8, h16, hi, hbeyond (16 + (8 + i)) (by omega), show i < 24 by omega,
        show i - 8 < 32 by omega, show i - 8 < 16 by omega, show ¬ 16 ≤ i by omega,
        show i - 8 < 8 by omega]
    · have hlow : 8 + (i - 16) = i - 8 := by omega
      by_cases h24 : i < 24
      · simp [h8, h16, h24, hi, hbeyond (16 + (8 + i)) (by omega), hlow,
          show 8 + i < 32 by omega, show ¬ 8 + i < 16 by omega, show 8 + i - 16 = i - 8 by omega,
          show i - 8 < 32 by omega, show i - 8 < 16 by omega, show 16 ≤ i by omega,
          show i - 16 < 32 by omega, show i - 16 < 8 by omega, show ¬ i - 8 < 8 by omega]
      · simp [h8, h16, h24, hi, hbeyond (16 + (i - 8)) (by omega), show ¬ i - 8 < 16 by omega,
          show i - 8 < 32 by omega, show i - 24 < 32 by omega, show ¬ i - 16 < 8 by omega,
          show ¬ i - 8 < 8 by omega, show i - 8 - 16 = i - 24 by omega, show i - 24 < 8 by omega]

/-- **What is written for a counter is the counter, highest byte first.** -/
theorem local78FromCtr_eq (ctr : UInt32) :
    local78FromCtr ctr = (leBytes 4 ctr.toNat).reverse := by
  have hbyte : ∀ (a b : BitVec 32) (j k : Nat), (a >>> j).setWidth 8 = (b >>> k).setWidth 8 →
      a.toNat / 2 ^ j % 256 = b.toNat / 2 ^ k % 256 := by
    intro a b j k h
    have hnat := congrArg BitVec.toNat h
    simpa only [BitVec.toNat_setWidth, BitVec.toNat_ushiftRight, Nat.shiftRight_eq_div_pow]
      using hnat
  obtain ⟨h₀, h₁, h₂, h₃⟩ := bytes_or32 _ _ _ _ (local78Bits_eq ctr.toBitVec)
  have hword : ∀ w : UInt32, w.toBitVec = local78Bits ctr.toBitVec →
      le32Bytes w = (leBytes 4 ctr.toNat).reverse := by
    intro w hw
    have e₀ := hbyte (local78Bits ctr.toBitVec) ctr.toBitVec 24 0 h₀
    have e₁ := hbyte (local78Bits ctr.toBitVec) ctr.toBitVec 16 8 h₁
    have e₂ := hbyte (local78Bits ctr.toBitVec) ctr.toBitVec 8 16 h₂
    have e₃ := hbyte (local78Bits ctr.toBitVec) ctr.toBitVec 0 24 h₃
    rw [← hw] at e₀ e₁ e₂ e₃
    simp only [UInt32.toNat_toBitVec, Nat.pow_zero, Nat.div_one, show 2 ^ 8 = 256 from rfl,
      show 2 ^ 16 = 256 * 256 from rfl, show 2 ^ 24 = 256 * 256 * 256 from rfl] at e₀ e₁ e₂ e₃
    rw [le32Bytes_eq]
    simp only [leBytes, List.reverse_cons, List.reverse_nil, List.nil_append, List.cons_append,
      Nat.div_div_eq_div_mul, e₀, e₁, e₂, e₃]
  exact hword _ rfl

/-! ### The keys that are derived -/

section Keys

variable (c : Crypto) (works : BuildCall → Bool) (seed32 : Block UInt8 32)

/-- A key of 32 bytes out of the two rounds. -/
theorem window_wbMaterial (i : Nat) (h : i ≤ 16) :
    ((wbMaterial c seed32).drop i).take 32 =
      (((c.hmacSha256 seed32.val (kdfInput 1)).val ++
        (c.hmacSha256 seed32.val (kdfInput 2)).val).drop i).take 32 :=
  window_keyMaterial (c.hmacSha256 seed32.val) kdfInput (by decide : 48 ≤ 2 * 32) i 32 (by omega)

theorem kdfInput_eq (ctr : UInt32) : local78FromCtr ctr ++ keyBase = kdfInput ctr.toNat := by
  rw [local78FromCtr_eq]
  rfl

/-- Both rounds, or an error of either. -/
theorem payloadDeriveKeyMaterial_eq :
    payloadDeriveKeyMaterial c works seed32 =
      if works .round1 ∧ works .round2 then .ok (wbKeyAes c seed32, wbKeyHmac c seed32)
      else .error .io := by
  have h₁ : local78FromCtr 1 ++ keyBase = kdfInput 1 := kdfInput_eq 1
  have h₂ : local78FromCtr 2 ++ keyBase = kdfInput 2 := kdfInput_eq 2
  have hlen₁ := (c.hmacSha256 seed32.val (kdfInput 1)).property
  have haes : (wbKeyAes c seed32).val = (c.hmacSha256 seed32.val (kdfInput 1)).val := by
    refine (window_wbMaterial c seed32 0 (by decide)).trans ?_
    rw [List.drop_zero, List.take_left' hlen₁]
  have hhmac : (wbKeyHmac c seed32).val = (c.hmacSha256 seed32.val (kdfInput 1)).val.drop 16 ++
      (c.hmacSha256 seed32.val (kdfInput 2)).val.take 16 := by
    refine (window_wbMaterial c seed32 16 (Nat.le_refl 16)).trans ?_
    rw [List.drop_append_of_le_length (by omega), List.take_append,
      List.take_of_length_le (by rw [List.length_drop]; omega), List.length_drop, hlen₁]
  unfold payloadDeriveKeyMaterial
  rw [h₁, h₂]
  cases works .round1
  · rfl
  · cases works .round2
    · rfl
    · rw [if_pos ⟨rfl, rfl⟩]
      exact congrArg Except.ok (Prod.ext (Subtype.ext haes.symm) (Subtype.ext hhmac.symm))

/-- **Both keys are cut out of the same 384 bits, and they overlap by half a key**: the one is
the front of them and the other the end.  A counter is written highest byte first. -/
theorem payloadDeriveKeyMaterial_overlap {keyAes keyHmac : Block UInt8 32}
    (h : payloadDeriveKeyMaterial c works seed32 = .ok (keyAes, keyHmac)) :
    (∀ ctr : UInt32, local78FromCtr ctr = (leBytes 4 ctr.toNat).reverse) ∧
      keyAes.val = (keyMaterial (c.hmacSha256 seed32.val) kdfInput 48).take 32 ∧
      keyHmac.val = (keyMaterial (c.hmacSha256 seed32.val) kdfInput 48).drop 16 ∧
      keyAes.val.drop 16 = keyHmac.val.take 16 := by
  rw [payloadDeriveKeyMaterial_eq] at h
  split at h
  · obtain ⟨rfl, rfl⟩ := Prod.mk.inj (Except.ok.inj h)
    have haes : (wbKeyAes c seed32).val =
        (keyMaterial (c.hmacSha256 seed32.val) kdfInput 48).take 32 := rfl
    have hhmac : (wbKeyHmac c seed32).val =
        (keyMaterial (c.hmacSha256 seed32.val) kdfInput 48).drop 16 := by
      have hlen := length_wbMaterial c seed32
      refine List.take_of_length_le ?_
      rw [List.length_drop]
      omega
    refine ⟨local78FromCtr_eq, haes, hhmac, ?_⟩
    rw [haes, hhmac, List.drop_take]
  · exact absurd h (by simp)

end Keys

/-! ### What is built -/

/-- What a call that fails is reported as. -/
def BuildCall.errno : BuildCall → Errno
  | .seedBuffer | .payload | .wb => .nomem
  | .round1 | .round2 | .seedDigest | .setkey | .cryptAndTag | .wbHmac => .io

/-- The calls of a build, in the order they are made. -/
def buildCalls : List BuildCall :=
  [.round1, .round2, .seedBuffer, .seedDigest, .setkey, .cryptAndTag, .payload, .wbHmac, .wb]

/-- What is copied for the nonce is as long as the buffer that is allocated for it. -/
theorem length_seed16Chunks (psk : List UInt8) :
    (seed16Chunks psk).flatten.length = 6 + (psk.length >>> 2) + 64 := by
  have hquarter : (psk.take (psk.length >>> 2)).length = psk.length >>> 2 := by
    rw [List.length_take, Nat.shiftRight_eq_div_pow]
    omega
  simp only [seed16Chunks, List.flatten_cons, List.flatten_nil, List.length_append, hquarter]
  show 2 + (4 + (psk.length >>> 2 + (64 + 0))) = _
  omega

/-- The nonce that is made of a PSK. -/
def wbNonce (c : Crypto) (psk : List UInt8) : Block UInt8 16 :=
  partAt (c.sha256 (seed16Chunks psk).flatten).val 0 16
    (by have h := (c.sha256 (seed16Chunks psk).flatten).property; omega)

section WhiteBoxes

variable (c : Crypto) (psk32 seed32 : Block UInt8 32)

/-- The data of a build whose calls all succeed. -/
def whiteBoxOf : WhiteBox :=
  let sealedPsk := c.gcmEncrypt (wbKeyAes c seed32) (wbNonce c psk32.val) fillTlsGcmAad psk32
  { hmac := c.hmacSha256 (wbKeyHmac c seed32).val
      ((fillFf02LenHdr 32).val ++ sealedPsk.1.val ++ sealedPsk.2.val)
    hdr := fillFf02LenHdr 32
    seed16 := wbNonce c psk32.val
    cipher := sealedPsk.1
    tag := sealedPsk.2 }

theorem WhiteBox.length_bytes (w : WhiteBox) : w.bytes.length = 102 := by
  simp only [bytes, payload, List.length_append, w.hmac.property, w.hdr.property,
    w.seed16.property, w.cipher.property, w.tag.property]

/-- The payload, cut where `compute_bb010003_wb_hmac` cuts it. -/
theorem computeBb010003WbHmac_payload (key : Block UInt8 32) (w : WhiteBox) :
    computeBb010003WbHmac c key w.payload =
      c.hmacSha256 key.val (w.hdr.val ++ w.cipher.val ++ w.tag.val) := by
  have hhdr : w.payload.take 6 = w.hdr.val := by
    rw [WhiteBox.payload, List.append_assoc, List.append_assoc, List.take_left' w.hdr.property]
  have hcipher : (w.payload.drop (6 + 16)).take 32 = w.cipher.val := by
    have hlen : (w.hdr.val ++ w.seed16.val).length = 6 + 16 := by
      rw [List.length_append, w.hdr.property, w.seed16.property]
    rw [WhiteBox.payload, List.append_assoc, List.drop_left' hlen,
      List.take_left' w.cipher.property]
  have htag : (w.payload.drop (6 + 16 + 32)).take 16 = w.tag.val := by
    have hlen : (w.hdr.val ++ w.seed16.val ++ w.cipher.val).length = 6 + 16 + 32 := by
      rw [List.length_append, List.length_append, w.hdr.property, w.seed16.property,
        w.cipher.property]
    rw [WhiteBox.payload, List.drop_left' hlen,
      List.take_of_length_le (Nat.le_of_eq w.tag.property)]
  rw [computeBb010003WbHmac, hhdr, hcipher, htag]

/-- **What is put together is taken apart again.** -/
theorem readWhiteBox_bytes (w : WhiteBox) : readWhiteBox w.bytes = some w := by
  have hpart : ∀ (l a b rest : List UInt8) (i n : Nat) (h : i + n ≤ l.length),
      l = a ++ (b ++ rest) → a.length = i → b.length = n → (partAt l i n h).val = b := by
    rintro l a b rest i n h rfl rfl rfl
    show ((a ++ (b ++ rest)).drop a.length).take b.length = b
    rw [List.drop_left, List.take_left]
  obtain ⟨hmac, hdr, seed16, cipher, tag⟩ := w
  unfold readWhiteBox
  rw [dif_pos (WhiteBox.length_bytes _)]
  refine congrArg some ?_
  rw [WhiteBox.mk.injEq]
  refine ⟨Subtype.ext ?_, Subtype.ext ?_, Subtype.ext ?_, Subtype.ext ?_, Subtype.ext ?_⟩
  · exact hpart _ [] hmac.val (hdr.val ++ seed16.val ++ cipher.val ++ tag.val) 0 32 _ rfl rfl
      hmac.property
  · refine hpart _ hmac.val hdr.val (seed16.val ++ cipher.val ++ tag.val) 32 6 _ ?_ hmac.property
      hdr.property
    simp only [WhiteBox.bytes, WhiteBox.payload, List.append_assoc]
  · refine hpart _ (hmac.val ++ hdr.val) seed16.val (cipher.val ++ tag.val) 38 16 _ ?_ ?_
      seed16.property
    · simp only [WhiteBox.bytes, WhiteBox.payload, List.append_assoc]
    · rw [List.length_append, hmac.property, hdr.property]
  · refine hpart _ (hmac.val ++ hdr.val ++ seed16.val) cipher.val tag.val 54 32 _ ?_ ?_
      cipher.property
    · simp only [WhiteBox.bytes, WhiteBox.payload, List.append_assoc]
    · rw [List.length_append, List.length_append, hmac.property, hdr.property, seed16.property]
  · refine hpart _ (hmac.val ++ hdr.val ++ seed16.val ++ cipher.val) tag.val [] 86 16 _ ?_ ?_
      tag.property
    · simp only [WhiteBox.bytes, WhiteBox.payload, List.append_assoc, List.append_nil]
    · rw [List.length_append, List.length_append, List.length_append, hmac.property,
        hdr.property, seed16.property, cipher.property]

/-- A build stops at its first call that fails. -/
theorem payloadBuildBb010003_eq (works : BuildCall → Bool) :
    payloadBuildBb010003 c works psk32 seed32 =
      match buildCalls.find? fun call => !works call with
      | some call => .error call.errno
      | none => .ok ((whiteBoxOf c psk32 seed32).bytes, (whiteBoxOf c psk32 seed32).payload) := by
  have hpsk : ¬ psk32.val.length = 0 := by
    rw [psk32.property]
    decide
  unfold payloadBuildBb010003 payloadCalcSeed16 buildCalls
  rw [payloadDeriveKeyMaterial_eq, if_neg hpsk]
  simp only [List.find?_cons]
  cases works .round1
  · rfl
  cases works .round2
  · rfl
  cases works .seedBuffer
  · rfl
  cases works .seedDigest
  · rfl
  cases works .setkey
  · rfl
  cases works .cryptAndTag
  · rfl
  cases works .payload
  · rfl
  cases works .wbHmac
  · rfl
  cases works .wb
  · rfl
  have hhmac := computeBb010003WbHmac_payload c (wbKeyHmac c seed32) (whiteBoxOf c psk32 seed32)
  have hbytes : (whiteBoxOf c psk32 seed32).bytes =
      (computeBb010003WbHmac c (wbKeyHmac c seed32) (whiteBoxOf c psk32 seed32).payload).val ++
        (whiteBoxOf c psk32 seed32).payload := by
    rw [hhmac]
    rfl
  rw [hbytes]
  rfl

/-- Data that hold a PSK for whoever has the seed. -/
structure Sealed (data : List UInt8) : Prop where
  length : data.length = 102
  opens : wbOpen c seed32 data = some psk32
  /-- The HMAC lets any other nonce pass, and only the tag is left to stand for it. -/
  nonce : ∀ w iv, readWhiteBox data = some w → wbOpen c seed32 { w with seed16 := iv }.bytes =
    c.gcmDecrypt (wbKeyAes c seed32) iv fillTlsGcmAad (w.cipher, w.tag)

theorem wbOpen_bytes (w : WhiteBox)
    (h : c.hmacSha256 (wbKeyHmac c seed32).val (w.hdr.val ++ w.cipher.val ++ w.tag.val) =
      w.hmac) :
    wbOpen c seed32 w.bytes =
      c.gcmDecrypt (wbKeyAes c seed32) w.seed16 fillTlsGcmAad (w.cipher, w.tag) := by
  unfold wbOpen
  rw [readWhiteBox_bytes]
  exact if_pos h

theorem sealed_whiteBoxOf (hinv : c.Inverse) :
    Sealed c psk32 seed32 (whiteBoxOf c psk32 seed32).bytes := by
  constructor
  case length => exact WhiteBox.length_bytes _
  case opens =>
    rw [wbOpen_bytes c seed32 _ rfl]
    exact hinv _ _ _ _
  case nonce =>
    intro w iv hw
    rw [readWhiteBox_bytes] at hw
    obtain rfl := Option.some.inj hw
    exact wbOpen_bytes c seed32 _ rfl

/-- What a build returns, and what it took. -/
theorem payloadBuildBb010003_ok {works : BuildCall → Bool} {data payload : List UInt8}
    (h : payloadBuildBb010003 c works psk32 seed32 = .ok (data, payload)) :
    (∀ call, works call = true) ∧ data = (whiteBoxOf c psk32 seed32).bytes ∧
      payload = (whiteBoxOf c psk32 seed32).payload := by
  rw [payloadBuildBb010003_eq] at h
  cases hfind : buildCalls.find? fun call => !works call with
  | some call =>
      rw [hfind] at h
      exact absurd h (by simp)
  | none =>
      rw [hfind] at h
      obtain ⟨rfl, rfl⟩ := Prod.mk.inj (Except.ok.inj h)
      refine ⟨fun call => ?_, rfl, rfl⟩
      have hmem : call ∈ buildCalls := by cases call <;> decide
      simpa using List.find?_eq_none.mp hfind call hmem

/-- **A build seals the PSK or reports a call that failed**, and it does the one exactly where
there is no such call. -/
theorem payloadBuildBb010003_sealed (hinv : c.Inverse) (works : BuildCall → Bool) :
    (∀ e, payloadBuildBb010003 c works psk32 seed32 = .error e →
        ∃ call, works call = false ∧ e = call.errno) ∧
      ∀ data payload, payloadBuildBb010003 c works psk32 seed32 = .ok (data, payload) →
        (∀ call, works call = true) ∧ payload = data.drop 32 ∧ Sealed c psk32 seed32 data := by
  constructor
  · intro e he
    rw [payloadBuildBb010003_eq] at he
    cases hfind : buildCalls.find? fun call => !works call with
    | some call =>
        rw [hfind] at he
        exact ⟨call, by simpa using List.find?_some hfind, (Except.error.inj he).symm⟩
    | none =>
        rw [hfind] at he
        exact absurd he (by simp)
  · intro data payload hok
    obtain ⟨hworks, rfl, rfl⟩ := payloadBuildBb010003_ok c psk32 seed32 hok
    refine ⟨hworks, ?_, sealed_whiteBoxOf c psk32 seed32 hinv⟩
    rw [WhiteBox.bytes, List.drop_left' (whiteBoxOf c psk32 seed32).hmac.property]

/-- The nonce is made of the length and the first quarter. -/
theorem seed16Chunks_congr {psk psk' : List UInt8} (hlen : psk.length = psk'.length)
    (h : psk.take (psk.length >>> 2) = psk'.take (psk.length >>> 2)) :
    seed16Chunks psk = seed16Chunks psk' := by
  unfold seed16Chunks
  rw [h, ← hlen]

/-- **PSKs with the same first eight bytes are encrypted with the same stream**: what they
differ in can be read off the data without any key. -/
theorem payloadBuildBb010003_sameStream (hstreams : c.Streams) {psk32 psk32' : Block UInt8 32}
    (hsame : psk32.val.take 8 = psk32'.val.take 8) {works works' : BuildCall → Bool}
    {data data' payload payload' : List UInt8}
    (h : payloadBuildBb010003 c works psk32 seed32 = .ok (data, payload))
    (h' : payloadBuildBb010003 c works' psk32' seed32 = .ok (data', payload')) :
    ∃ w w', readWhiteBox data = some w ∧ readWhiteBox data' = some w' ∧
      w.seed16 = w'.seed16 ∧ add w.cipher w'.cipher = add psk32 psk32' := by
  obtain ⟨-, hdata, -⟩ := payloadBuildBb010003_ok c psk32 seed32 h
  obtain ⟨-, hdata', -⟩ := payloadBuildBb010003_ok c psk32' seed32 h'
  have hquarter : psk32.val.length >>> 2 = 8 := by rw [psk32.property]; rfl
  have hnonce : wbNonce c psk32.val = wbNonce c psk32'.val := by
    have hchunks : seed16Chunks psk32.val = seed16Chunks psk32'.val := by
      refine seed16Chunks_congr (psk32.property.trans psk32'.property.symm) ?_
      rw [hquarter]
      exact hsame
    refine Subtype.ext ?_
    show ((c.sha256 (seed16Chunks psk32.val).flatten).val.drop 0).take 16 = _
    rw [hchunks]
    rfl
  obtain ⟨stream, hadd⟩ := hstreams
  refine ⟨whiteBoxOf c psk32 seed32, whiteBoxOf c psk32' seed32, ?_, ?_, hnonce, ?_⟩
  · rw [hdata, readWhiteBox_bytes]
  · rw [hdata', readWhiteBox_bytes]
  · show add (c.gcmEncrypt _ (wbNonce c psk32.val) _ psk32).1
      (c.gcmEncrypt _ (wbNonce c psk32'.val) _ psk32').1 = _
    rw [hadd, hadd, hnonce, add_cancel]

end WhiteBoxes

/-! ### Two PSKs -/

/-- The bytes of a number, the highest first. -/
def beBlock (n w : Nat) : Block UInt8 n :=
  ⟨(leBytes n w).reverse, by rw [List.length_reverse, length_leBytes]⟩

/-- `gxfp_payload_seed32_runtime` -/
def payloadSeed32Runtime : Block UInt8 32 :=
  beBlock 32 0x5CBA6E25819518DE2D53E96DC0347AB0D427D4084BDA4FAE1BFF2B09112A57E5

def zeroPsk : Block UInt8 32 := beBlock 32 0
def onePsk : Block UInt8 32 := beBlock 32 1

/-- The stream that both are encrypted with. -/
def sampleStream : Block UInt8 32 :=
  beBlock 32 0x0C00F3E899251599207FCA1503AA098F5F9C92F2F7D54A1383513E4877A48F5F

def sampleTag (psk : Block UInt8 32) : Block UInt8 16 :=
  if psk = zeroPsk then beBlock 16 0xE4946975D486475E9775E0E0530EE9F4
  else beBlock 16 0x277598294B4170531BA61EC08BD50B9F

/-- SHA-256, HMAC and AES-GCM where the builds of the two PSKs use them. -/
def sampleCrypto : Crypto where
  sha256 _ := beBlock 32 0xAEFE57607C64A6E63B1F6D9A7B73F6166757824E80845AF6886CA25256F35EAE
  hmacSha256 key msg :=
    if key = payloadSeed32Runtime.val then
      if msg = kdfInput 1 then
        beBlock 32 0x58F013EEB7E216E2C1CD0E8FFFA7DBD6799CD92AA149013EA0E9F9FD7DC6D94E
      else
        beBlock 32 0x3EF63A7598C2A4933129E871EA03043BF9326B4DEA65DB1E083F4E651E330E87
    else if msg = (fillFf02LenHdr 32).val ++ sampleStream.val ++ (sampleTag zeroPsk).val then
      beBlock 32 0x194D152EA08BCCA2D886538BE4CA6B15C6097848E56CFB6341278F1537FB029B
    else
      beBlock 32 0xDBA33CA41E0F8548F6F5B7F8785ECA79FD1F1F303C09280DABA83FE4BADFCA5F
  gcmEncrypt _ _ _ psk := (add psk sampleStream, sampleTag psk)
  gcmDecrypt _ _ _ sealedPsk :=
    if sealedPsk.2 = sampleTag (add sealedPsk.1 sampleStream) then
      some (add sealedPsk.1 sampleStream)
    else none

theorem sampleCrypto_inverse : sampleCrypto.Inverse := by
  intro key iv aad psk
  show (if sampleTag psk = sampleTag (add (add psk sampleStream) sampleStream) then
    some (add (add psk sampleStream) sampleStream) else none) = some psk
  rw [add_twice, if_pos rfl]

theorem sampleCrypto_streams : sampleCrypto.Streams := ⟨fun _ _ => sampleStream, fun _ _ _ _ => rfl⟩

/-- The keys of the seed that the tools use. -/
theorem payloadDeriveKeyMaterial_overlap_runtime :
    (∀ ctr : UInt32, local78FromCtr ctr = (leBytes 4 ctr.toNat).reverse) ∧
      (wbKeyAes sampleCrypto payloadSeed32Runtime).val =
        (keyMaterial (sampleCrypto.hmacSha256 payloadSeed32Runtime.val) kdfInput 48).take 32 ∧
      (wbKeyHmac sampleCrypto payloadSeed32Runtime).val =
        (keyMaterial (sampleCrypto.hmacSha256 payloadSeed32Runtime.val) kdfInput 48).drop 16 ∧
      (wbKeyAes sampleCrypto payloadSeed32Runtime).val.drop 16 =
        (wbKeyHmac sampleCrypto payloadSeed32Runtime).val.take 16 :=
  payloadDeriveKeyMaterial_overlap sampleCrypto (fun _ => true) payloadSeed32Runtime
    (payloadDeriveKeyMaterial_eq sampleCrypto (fun _ => true) payloadSeed32Runtime)

/-- The build of the PSK of zero bytes, with the seed that the tools use. -/
theorem payloadBuildBb010003_sealed_zero :
    (∀ e, payloadBuildBb010003 sampleCrypto (fun _ => true) zeroPsk payloadSeed32Runtime =
          .error e → ∃ call : BuildCall, true = false ∧ e = call.errno) ∧
      ∀ data payload, payloadBuildBb010003 sampleCrypto (fun _ => true) zeroPsk
          payloadSeed32Runtime = .ok (data, payload) →
        (∀ _ : BuildCall, true = true) ∧ payload = data.drop 32 ∧
          Sealed sampleCrypto zeroPsk payloadSeed32Runtime data :=
  payloadBuildBb010003_sealed sampleCrypto zeroPsk payloadSeed32Runtime sampleCrypto_inverse
    fun _ => true

/-- The two PSKs differ in their last bit, and so do the data. -/
theorem payloadBuildBb010003_sameStream_zero_one :
    ∃ w w', readWhiteBox (whiteBoxOf sampleCrypto zeroPsk payloadSeed32Runtime).bytes = some w ∧
      readWhiteBox (whiteBoxOf sampleCrypto onePsk payloadSeed32Runtime).bytes = some w' ∧
      w.seed16 = w'.seed16 ∧ add w.cipher w'.cipher = add zeroPsk onePsk :=
  payloadBuildBb010003_sameStream sampleCrypto payloadSeed32Runtime sampleCrypto_streams (by decide)
    (payloadBuildBb010003_eq sampleCrypto zeroPsk payloadSeed32Runtime fun _ => true)
    (payloadBuildBb010003_eq sampleCrypto onePsk payloadSeed32Runtime fun _ => true)

end Gxfp
