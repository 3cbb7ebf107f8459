/-
How TLS records leave: `bio_send` of `src/tls/tls_backend_mbedtls.c`.

mbedTLS hands over a buffer of whole records and is told how many of its bytes are gone,
or that it has to call again with the same buffer.  `bio_send` sends the records one by
one.  A record that the device refuses for now ends the call with "call again", and
nothing keeps how far the call has got: the next one starts with the first record.

The caller is modelled by its contract, `bioCalls`.  What the calls do to the records is
what passes over a list do (`bioCalls_eq`), and `Resend.once_iff` says when that sends
nothing twice.
-/
import Gxfp.Library.Resend
import Gxfp.Library.Bytes
import Gxfp.Tls.Backend

namespace Gxfp

open Bytes

/-! ### `bio_send` -/

def tlsRecHdrLen : Nat := 5

def sslInternalError : Int := -0x6C00

/-- A `size_t` cast to `int`. -/
def castInt (n : Nat) : Int := (BitVec.ofNat 32 n).toInt

/-- `(uint16_t)buf[i] << 8 | (uint16_t)buf[i + 1]` -/
def be16At (l : List UInt8) (i : Nat) : UInt16 :=
  ((byteAt l i).toUInt16 <<< 8) ||| (byteAt l (i + 1)).toUInt16

section BioSend

variable {σ : Type} (sendFn : σ → Nat → List UInt8 → Int × σ)

/-- What `bio_send` returns behind its loop. -/
def bioSendEnd (buf : List UInt8) (off : Nat) : Int :=
  if off ≠ buf.length then sslInternalError else castInt buf.length

/-- The loop of `bio_send`; `send_fn` gets a record with its place in the buffer. -/
def bioSendLoop (buf : List UInt8) (off : Nat) (s : σ) : Int × σ :=
  if off + tlsRecHdrLen ≤ buf.length then
    let recLen := be16At buf (off + 3)
    let total := tlsRecHdrLen + recLen.toNat
    if buf.length < off + total then (bioSendEnd buf off, s)
    else
      let (r, s) := sendFn s off ((buf.drop off).take total)
      if r < 0 then
        if r = Errno.again.neg ∨ r = Errno.intr.neg then (sslWantWrite, s)
        else (sslInternalError, s)
      else bioSendLoop buf (off + total) s
  else (bioSendEnd buf off, s)
termination_by buf.length - off
decreasing_by
  have hhdr : tlsRecHdrLen = 5 := rfl
  omega

/-- `bio_send` -/
def bioSend (buf : List UInt8) (s : σ) : Int × σ := bioSendLoop sendFn buf 0 s

end BioSend

/-! ### The caller and the device -/

/-- What `send_fn` answers. -/
inductive SendOutcome
  | success
  | again
  | intr
  deriving DecidableEq, Repr

def SendOutcome.code : SendOutcome → Int
  | .success => 0
  | .again => Errno.again.neg
  | .intr => Errno.intr.neg

/-- A `send_fn` with these answers, and the records it answered `success` for. -/
def sendLogged (outcomes : Nat → SendOutcome) (s : Resend.State (Nat × List UInt8)) (off : Nat)
    (rec : List UInt8) : Int × Resend.State (Nat × List UInt8) :=
  ((outcomes s.asked).code,
    { asked := s.asked + 1
      sent := if outcomes s.asked = .success then s.sent ++ [(off, rec)] else s.sent })

/--
`n` calls by mbedTLS: after `WANT_WRITE` it calls again with the same buffer.  The first
component is what the last call returned.
-/
def bioCalls (outcomes : Nat → SendOutcome) (buf : List UInt8) :
    Nat → Int × Resend.State (Nat × List UInt8)
  | 0 => (sslWantWrite, { asked := 0, sent := [] })
  | n + 1 =>
    if (bioCalls outcomes buf n).1 = sslWantWrite then
      bioSend (sendLogged outcomes) buf (bioCalls outcomes buf n).2
    else bioCalls outcomes buf n

/-- A whole TLS record. -/
structure SentRecord where
  bytes : List UInt8
  length_eq : bytes.length = tlsRecHdrLen + (be16At bytes 3).toNat

/-- The buffer that records make. -/
def recordBuffer (records : List SentRecord) : List UInt8 := records.flatMap SentRecord.bytes

/-- The records with their places in the buffer, the first one at `off`. -/
def recordsAt (off : Nat) : List SentRecord → List (Nat × List UInt8)
  | [] => []
  | r :: records => (off, r.bytes) :: recordsAt (off + r.bytes.length) records

/-- What is sent is the records in order, each once, and all once the length is returned. -/
def SentOnce (outcomes : Nat → SendOutcome) (records : List SentRecord) : Prop :=
  ∀ n, (bioCalls outcomes (recordBuffer records) n).2.sent <+: recordsAt 0 records ∧
    ((bioCalls outcomes (recordBuffer records) n).1 = (recordBuffer records).length →
      (bioCalls outcomes (recordBuffer records) n).2.sent = recordsAt 0 records)

/-- Whether `send_fn` takes the record it gets in its `n`-th call. -/
def takes (outcomes : Nat → SendOutcome) (n : Nat) : Bool := outcomes n == .success

/-! ### Records in a buffer -/

section Records

variable {outcomes : Nat → SendOutcome} {records : List SentRecord}

theorem be16At_append_left {l : List UInt8} {i : Nat} (h : i + 1 < l.length) (t : List UInt8) :
    be16At (l ++ t) i = be16At l i := by
  rw [be16At, be16At, byteAt_append_left (by omega), byteAt_append_left h]

theorem be16At_append_right (l t : List UInt8) (k : Nat) :
    be16At (l ++ t) (l.length + k) = be16At t k := by
  rw [be16At, be16At, byteAt_append_right, Nat.add_assoc, byteAt_append_right]

theorem le_recordsAt {off : Nat} {x : Nat × List UInt8} (hx : x ∈ recordsAt off records) :
    off ≤ x.1 := by
  induction records generalizing off with
  | nil => exact absurd hx (by simp [recordsAt])
  | cons r records ih =>
      rw [recordsAt] at hx
      rcases List.mem_cons.mp hx with rfl | hx
      · exact Nat.le_refl _
      · exact Nat.le_trans (Nat.le_add_right _ _) (ih hx)

/-- **No record is in the buffer twice.** -/
theorem nodup_recordsAt (off : Nat) : (recordsAt off records).Nodup := by
  induction records generalizing off with
  | nil => exact List.nodup_nil
  | cons r records ih =>
      rw [recordsAt, List.nodup_cons]
      refine ⟨fun hx => ?_, ih _⟩
      have hle := le_recordsAt hx
      have hlen := r.length_eq
      have hhdr : tlsRecHdrLen = 5 := rfl
      dsimp only at hle
      omega

/-- An answer other than `success` asks for another call. -/
theorem SendOutcome.code_refused {o : SendOutcome} (h : o ≠ .success) :
    o.code < 0 ∧ (o.code = Errno.again.neg ∨ o.code = Errno.intr.neg) := by
  cases o with
  | success => exact absurd rfl h
  | again => exact ⟨by decide, Or.inl rfl⟩
  | intr => exact ⟨by decide, Or.inr rfl⟩

theorem length_recordsAt (off : Nat) : (recordsAt off records).length = records.length := by
  induction records generalizing off with
  | nil => rfl
  | cons r records ih => rw [recordsAt, List.length_cons, ih, List.length_cons]

/-! ### The calls -/

/-- **The loop passes over the records that are left.** -/
theorem bioSendLoop_eq (front : List UInt8) (s : Resend.State (Nat × List UInt8)) :
    bioSendLoop (sendLogged outcomes) (front ++ recordBuffer records) front.length s =
      (if (Resend.pass (takes outcomes) (recordsAt front.length records) s).1 then
          castInt (front ++ recordBuffer records).length
        else sslWantWrite,
        (Resend.pass (takes outcomes) (recordsAt front.length records) s).2) := by
  have hhdr : tlsRecHdrLen = 5 := rfl
  induction records generalizing front s with
  | nil =>
      have hend : front ++ recordBuffer [] = front := List.append_nil front
      rw [bioSendLoop, hend, if_neg (by omega), bioSendEnd, if_neg (not_not.mpr rfl)]
      rfl
  | cons r records ih =>
      have hlen := r.length_eq
      have hbuf : recordBuffer (r :: records) = r.bytes ++ recordBuffer records := rfl
      have hfield : be16At (front ++ (r.bytes ++ recordBuffer records)) (front.length + 3) =
          be16At r.bytes 3 := by
        rw [be16At_append_right, be16At_append_left (by omega)]
      have hslice : ((front ++ (r.bytes ++ recordBuffer records)).drop front.length).take
          r.bytes.length = r.bytes := by
        rw [List.drop_left, List.take_left]
      have hroom : (front ++ (r.bytes ++ recordBuffer records)).length =
          front.length + r.bytes.length + (recordBuffer records).length := by
        rw [List.length_append, List.length_append, Nat.add_assoc]
      rw [hbuf, bioSendLoop, if_pos (by omega)]
      dsimp only
      rw [hfield, ← hlen, if_neg (by omega), hslice, recordsAt, Resend.pass]
      by_cases hout : outcomes s.asked = .success
      · have htakes : takes outcomes s.asked = true := by rw [takes, hout]; rfl
        have hsend : sendLogged outcomes s front.length r.bytes =
            (0, { asked := s.asked + 1, sent := s.sent ++ [(front.length, r.bytes)] }) := by
          rw [sendLogged, if_pos hout, hout]
          rfl
        have hrest := ih (front ++ r.bytes)
          { asked := s.asked + 1, sent := s.sent ++ [(front.length, r.bytes)] }
        rw [List.append_assoc, List.length_append] at hrest
        rw [hsend, if_neg (by omega), hrest, if_pos htakes]
      · have htakes : ¬ takes outcomes s.asked = true := fun h => hout (eq_of_beq h)
        have hsend : sendLogged outcomes s front.length r.bytes =
            ((outcomes s.asked).code, { s with asked := s.asked + 1 }) := by
          rw [sendLogged, if_neg hout]
        obtain ⟨hneg, hagain⟩ := SendOutcome.code_refused hout
        rw [hsend, if_pos hneg, if_pos hagain, if_neg htakes]
        rfl

/-- A length that an `int` holds is cast to itself. -/
theorem castInt_eq {n : Nat} (h : n < 2 ^ 31) : castInt n = n := by
  have hlt : (BitVec.ofNat 32 n).toNat = n := by
    rw [BitVec.toNat_ofNat]
    omega
  rw [castInt, BitVec.toInt_eq_toNat_of_lt (by omega), hlt]

theorem castInt_ne_wantWrite {n : Nat} (h : n < 2 ^ 31) : castInt n ≠ sslWantWrite := by
  rw [castInt_eq h]
  have hwant : sslWantWrite = -0x6880 := rfl
  omega

/-- **What mbedTLS's calls do is what passes over the records do.** -/
theorem bioCalls_eq (hint : (recordBuffer records).length < 2 ^ 31) (n : Nat) :
    bioCalls outcomes (recordBuffer records) n =
      (if (Resend.run (takes outcomes) (recordsAt 0 records) n).1 then
          castInt (recordBuffer records).length
        else sslWantWrite,
        (Resend.run (takes outcomes) (recordsAt 0 records) n).2) := by
  induction n with
  | zero => rfl
  | succ n ih =>
      rw [bioCalls, Resend.run, ih]
      by_cases hdone : (Resend.run (takes outcomes) (recordsAt 0 records) n).1 = true
      · simp only [if_pos hdone]
        rw [if_neg (castInt_ne_wantWrite hint)]
      · simp only [if_neg hdone]
        rw [if_pos trivial]
        exact bioSendLoop_eq [] _

theorem sentOnce_iff_once (hint : (recordBuffer records).length < 2 ^ 31) :
    SentOnce outcomes records ↔ Resend.Once (takes outcomes) (recordsAt 0 records) := by
  have hreturned : ∀ n, (bioCalls outcomes (recordBuffer records) n).1 =
      (recordBuffer records).length ↔
        (Resend.run (takes outcomes) (recordsAt 0 records) n).1 = true := by
    intro n
    have hwant : sslWantWrite = -0x6880 := rfl
    rw [bioCalls_eq hint]
    dsimp only
    by_cases hdone : (Resend.run (takes outcomes) (recordsAt 0 records) n).1 = true
    · rw [if_pos hdone, castInt_eq hint]
      exact ⟨fun _ => hdone, fun _ => rfl⟩
    · rw [if_neg hdone]
      exact ⟨fun h => by omega, fun h => absurd h hdone⟩
  refine forall_congr' fun n => ?_
  rw [hreturned, bioCalls_eq hint]

/--
**Records are sent once each exactly if `send_fn` takes none any more after it has taken
some of them and refused one.**

The length is the `int` that `bio_send` returns.
-/
theorem sentOnce_iff (hint : (recordBuffer records).length < 2 ^ 31) :
    SentOnce outcomes records ↔ Resend.NeverAgain (takes outcomes) records.length := by
  rw [sentOnce_iff_once hint, Resend.once_iff (nodup_recordsAt 0), length_recordsAt]

end Records

/-- The records of a flight: one byte each, behind their headers. -/
def changeCipherSpec : SentRecord := ⟨[0x14, 0x03, 0x03, 0x00, 0x01, 0x01], rfl⟩

def finished : SentRecord := ⟨[0x16, 0x03, 0x03, 0x00, 0x01, 0x14], rfl⟩

/-- The first of two records is refused twice, and then both are taken. -/
theorem sentOnce_iff_refused :
    SentOnce (fun n => if n = 0 then .again else if n = 1 then .intr else .success)
      [changeCipherSpec, finished] := by
  refine (sentOnce_iff (by decide)).mpr ?_
  intro a j hj _ hbefore htaken hrefused
  -- from the third call on everything is taken
  have hlate : a + j < 2 := by
    by_contra hlt
    have hone : takes (fun n => if n = 0 then .again else if n = 1 then .intr else .success)
        (a + j) = true := by
      rw [takes, if_neg (by omega), if_neg (by omega)]
      rfl
    rw [hone] at hrefused
    cases hrefused
  have hnone : takes (fun n => if n = 0 then .again else if n = 1 then .intr else .success) a =
      false := by
    obtain rfl : a = 0 := by omega
    rfl
  exact absurd ((htaken a (Nat.le_refl a) (by omega)).symm.trans hnone) (by simp)

/-- **The second of two records is refused once, and the first one goes out twice.** -/
theorem sentOnce_flight :
    ¬ SentOnce (fun n => if n = 1 then .again else .success) [changeCipherSpec, finished] := by
  intro h
  have honce := (sentOnce_iff_once (by decide)).mp h
  exact absurd (honce 2).1 (by decide)

end Gxfp
