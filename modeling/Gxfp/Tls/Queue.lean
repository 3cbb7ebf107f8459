/-
What mbedTLS is handed of the ciphertext: `rxq_pop` and `bio_recv` of
`src/tls/tls_backend_mbedtls.c`, and the session around them.

mbedTLS calls back for ciphertext and to send.  Here it is whatever calls back: a tree of
callbacks for each of `mbedtls_ssl_handshake` and `mbedtls_ssl_read`, of which nothing is
known.  It takes as much as it likes, in pieces that have nothing to do with the records.

`bio_recv` is the only way to the queue, so nothing of what was fed is left out, handed
over twice or out of turn: what has been handed over, followed by the queue, is what the
queue has taken in (`Bio.bytes`).  A record that there is no room for is refused as a
whole, and the session is in the state `error` from then on.
-/
import Gxfp.Library.Client
import Gxfp.Tls.Send
import Gxfp.Tls.Session

namespace Gxfp

/-! ### The callbacks -/

def sslBadInputData : Int := -0x7100

/-- `rxq_pop`: its result, what it copies, and the queue. -/
def rxqPop (rxq : List UInt8) (outCap : Nat) : Int × List UInt8 × List UInt8 :=
  if outCap = 0 then (Errno.inval.neg, [], rxq)
  else if rxq.length = 0 then (0, [], rxq)
  else
    let n := if outCap < rxq.length then outCap else rxq.length
    (castInt n, rxq.take n, rxq.drop n)

/-- `bio_recv`: its result, what is in the buffer, and the queue. -/
def bioRecv (rxq : List UInt8) (len : Nat) : Int × List UInt8 × List UInt8 :=
  if len = 0 then (sslBadInputData, [], rxq)
  else
    let (n, out, rxq) := rxqPop rxq len
    if 0 < n then (n, out, rxq)
    else if n < 0 then (sslInternalError, out, rxq)
    else (sslWantRead, out, rxq)

/-- What mbedTLS calls back for. -/
inductive BioCall
  | recv (len : Nat)
  | send (buf : List UInt8)

/-- A result, and with `recv` what is in the buffer. -/
def BioCall.Answer : BioCall → Type
  | .recv _ => Int × List UInt8
  | .send _ => Int

/-- What the callbacks work on, and what `bio_recv` has handed over with success. -/
structure Bio (σ : Type) where
  rxq : List UInt8
  received : List UInt8
  world : σ

section Callbacks

variable {σ : Type} (sendFn : σ → Nat → List UInt8 → Int × σ)

/-- The callbacks that `setup_ssl` sets. -/
def bioCallback : (c : BioCall) → Bio σ → c.Answer × Bio σ
  | .recv len, b =>
    let (r, out, rxq) := bioRecv b.rxq len
    ((r, out), { b with rxq, received := if 0 < r then b.received ++ out else b.received })
  | .send buf, b =>
    let (r, world) := bioSend sendFn buf b.world
    (r, { b with world })

end Callbacks

/-! ### mbedTLS -/

/-- A call of mbedTLS. -/
abbrev SslProgram (α : Type) := Client.Program BioCall BioCall.Answer α

/-- mbedTLS, over its own contexts. -/
structure SslLibrary (γ : Type) where
  setup : List UInt8 → Except Errno γ
  handshake : γ → SslProgram (Int × γ)
  /-- Its result, the plaintext, and the context. -/
  read : γ → Nat → SslProgram (Int × List UInt8 × γ)

/-- A context with what it has been handed. -/
structure SslContext (γ σ : Type) where
  ctx : γ
  received : List UInt8
  world : σ

section Library

variable {γ σ : Type} (lib : SslLibrary γ) (sendFn : σ → Nat → List UInt8 → Int × σ) (world : σ)

/-- mbedTLS with the callbacks of the backend. -/
def SslLibrary.mbedtls : Mbedtls (SslContext γ σ) where
  setup psk := (lib.setup psk).map fun ctx => { ctx, received := [], world }
  sslHandshake c rxq :=
    let ((r, ctx), b) := Client.run (bioCallback sendFn) (lib.handshake c.ctx)
      { rxq, received := c.received, world := c.world }
    (r, { ctx, received := b.received, world := b.world }, b.rxq)
  sslRead c rxq len :=
    let ((r, out, ctx), b) := Client.run (bioCallback sendFn) (lib.read c.ctx len)
      { rxq, received := c.received, world := c.world }
    (r, out, { ctx, received := b.received, world := b.world }, b.rxq)

end Library

/-! ### One callback -/

section OneCall

variable {σ : Type} {sendFn : σ → Nat → List UInt8 → Int × σ}

/-- What has come in, in order: what has been handed over, and what is queued. -/
def Bio.bytes (b : Bio σ) : List UInt8 := b.received ++ b.rxq

/-- The queue fits its buffer. -/
def Bio.Fits (b : Bio σ) : Prop := b.rxq.length ≤ rxqCap

/-- What `bio_recv` does with a queue that fits: a piece off its front, or nothing. -/
theorem bioRecv_cases {rxq : List UInt8} (hfits : rxq.length ≤ rxqCap) (len : Nat) :
    (0 < (bioRecv rxq len).1 ∧ (bioRecv rxq len).2.1 ++ (bioRecv rxq len).2.2 = rxq) ∨
      ¬ 0 < (bioRecv rxq len).1 ∧ (bioRecv rxq len).2.2 = rxq := by
  have hcap : rxqCap < 2 ^ 31 := by decide
  unfold bioRecv
  by_cases hlen : len = 0
  · rw [if_pos hlen]
    exact Or.inr ⟨of_decide_eq_false rfl, rfl⟩
  rw [if_neg hlen, rxqPop, if_neg hlen]
  by_cases hempty : rxq.length = 0
  · rw [if_pos hempty]
    exact Or.inr ⟨of_decide_eq_false rfl, rfl⟩
  rw [if_neg hempty]
  generalize hn : (if len < rxq.length then len else rxq.length) = n
  have hbounds : 0 < n ∧ n ≤ rxq.length := by
    rw [← hn]
    split <;> omega
  have hcast : castInt n = n := castInt_eq (by omega)
  have hpos : (0 : Int) < castInt n := by omega
  dsimp only
  rw [if_pos hpos]
  exact Or.inl ⟨hpos, List.take_append_drop n rxq⟩

/-- **A callback keeps what has come in, and the queue gets no longer.** -/
theorem bioCallback_keeps (bytes : List UInt8) (c : BioCall) (b : Bio σ)
    (h : b.bytes = bytes ∧ b.Fits) :
    (bioCallback sendFn c b).2.bytes = bytes ∧ (bioCallback sendFn c b).2.Fits := by
  obtain ⟨hbytes, hfits⟩ := h
  cases c with
  | send buf => exact ⟨hbytes, hfits⟩
  | recv len =>
      simp only [bioCallback, Bio.bytes, Bio.Fits] at hbytes hfits ⊢
      rcases bioRecv_cases hfits len with ⟨hpos, hcut⟩ | ⟨hnone, hsame⟩
      · have hlen := congrArg List.length hcut
        rw [List.length_append] at hlen
        have hle : (bioRecv b.rxq len).2.2.length ≤ rxqCap := by omega
        rw [if_pos hpos, List.append_assoc, hcut]
        exact ⟨hbytes, hle⟩
      · rw [if_neg hnone, hsame]
        exact ⟨hbytes, hfits⟩

end OneCall

/-! ### The backend -/

section Backend

variable {γ σ : Type} {lib : SslLibrary γ} {sendFn : σ → Nat → List UInt8 → Int × σ} {world : σ}

/-- What the backend's queue has taken in, in order. -/
def TlsBackend.bytes (e : TlsBackend (SslContext γ σ)) : List UInt8 := e.ssl.received ++ e.rxq

variable (sendFn) in
/-- Whatever mbedTLS does with the callbacks, what has come in stays as it is. -/
theorem run_keepsBytes {α : Type} (p : SslProgram α) (e : TlsBackend (SslContext γ σ))
    (hfits : e.rxq.length ≤ rxqCap) :
    (Client.run (bioCallback sendFn) p
        { rxq := e.rxq, received := e.ssl.received, world := e.ssl.world }).2.bytes = e.bytes ∧
      (Client.run (bioCallback sendFn) p
        { rxq := e.rxq, received := e.ssl.received, world := e.ssl.world }).2.Fits :=
  Client.run_keeps (bioCallback_keeps e.bytes) p ⟨rfl, hfits⟩

variable (lib sendFn world) in
theorem tlsBackendHandshakeStep_keeps (e : TlsBackend (SslContext γ σ))
    (hfits : e.rxq.length ≤ rxqCap) :
    (tlsBackendHandshakeStep (lib.mbedtls sendFn world) e).2.bytes = e.bytes ∧
      (tlsBackendHandshakeStep (lib.mbedtls sendFn world) e).2.rxq.length ≤ rxqCap := by
  unfold tlsBackendHandshakeStep
  by_cases hdone : e.hsDone = true
  · rw [if_pos hdone]
    exact ⟨rfl, hfits⟩
  · have hrun := run_keepsBytes sendFn (lib.handshake e.ssl.ctx) e hfits
    rw [if_neg hdone]
    dsimp only
    split
    · exact hrun
    · split <;> exact hrun

variable (lib sendFn world) in
theorem tlsBackendPullPlain_keeps (e : TlsBackend (SslContext γ σ)) (cap : Nat)
    (hfits : e.rxq.length ≤ rxqCap) :
    (tlsBackendPullPlain (lib.mbedtls sendFn world) e cap).2.2.bytes = e.bytes ∧
      (tlsBackendPullPlain (lib.mbedtls sendFn world) e cap).2.2.rxq.length ≤ rxqCap := by
  have hrun := run_keepsBytes sendFn (lib.read e.ssl.ctx cap) e hfits
  unfold tlsBackendPullPlain
  dsimp only
  split
  · exact hrun
  · split
    · exact hrun
    · split <;> exact hrun

/-- **A record is queued behind the others, or refused as a whole.** -/
theorem tlsSessionFeedCipher_cases (s : TlsSession (SslContext γ σ)) (rec : List UInt8) :
    ((tlsSessionFeedCipher s rec).1 = 0 ∧
        (tlsSessionFeedCipher s rec).2.backend.rxq = s.backend.rxq ++ rec ∧
        (tlsSessionFeedCipher s rec).2.backend.bytes = s.backend.bytes ++ rec ∧
        (tlsSessionFeedCipher s rec).2.backend.rxq.length ≤ rxqCap) ∨
      (tlsSessionFeedCipher s rec).1 < 0 ∧
        (tlsSessionFeedCipher s rec).2.backend = s.backend ∧
        (tlsSessionFeedCipher s rec).2.state = .error := by
  unfold tlsSessionFeedCipher tlsBackendFeedCipherRecord
  by_cases hfull : rxqCap < s.backend.rxq.length + rec.length
  · have hneg : Errno.nospc.neg < 0 := by decide
    rw [if_pos hfull]
    dsimp only
    rw [if_pos hneg]
    exact Or.inr ⟨hneg, rfl, rfl⟩
  · rw [if_neg hfull]
    dsimp only
    rw [if_neg (Int.lt_irrefl 0)]
    refine Or.inl ⟨rfl, rfl, (List.append_assoc _ _ _).symm, ?_⟩
    rw [List.length_append]
    exact Nat.le_of_not_lt hfull

end Backend

/-! ### Runs of a session -/

/-- What a call feeds. -/
def TlsOp.fed : TlsOp → List UInt8
  | .feedCipher rec => rec
  | .handshakeStep => []
  | .pullPlain _ => []

section Runs

variable {τ : Type} (m : Mbedtls τ)

/-- The session after a run of calls. -/
def sessionAfter : List TlsOp → TlsSession τ → TlsSession τ
  | [], s => s
  | op :: ops, s => sessionAfter ops (op.run m s).2

/-- What is fed by the calls of a run that do not fail. -/
def acceptedBytes : List TlsOp → TlsSession τ → List UInt8
  | [], _ => []
  | op :: ops, s => (if (op.run m s).1 < 0 then [] else op.fed) ++ acceptedBytes ops (op.run m s).2

end Runs

section Conserves

variable {γ σ : Type} {lib : SslLibrary γ} {sendFn : σ → Nat → List UInt8 → Int × σ} {world : σ}

variable (lib sendFn world) in
/-- What a call does to what has come in; only a refusal leaves out what it feeds. -/
theorem TlsOp.run_bytes (op : TlsOp) {s : TlsSession (SslContext γ σ)}
    (hfits : s.backend.rxq.length ≤ rxqCap) :
    (op.run (lib.mbedtls sendFn world) s).2.backend.bytes =
        s.backend.bytes ++ (if (op.run (lib.mbedtls sendFn world) s).1 < 0 then [] else op.fed) ∧
      (op.run (lib.mbedtls sendFn world) s).2.backend.rxq.length ≤ rxqCap ∧
      ((op.run (lib.mbedtls sendFn world) s).1 < 0 → op.fed ≠ [] →
        (op.run (lib.mbedtls sendFn world) s).2.state = .error) := by
  cases op with
  | feedCipher rec =>
      have hrun : (feedCipher rec).run (lib.mbedtls sendFn world) s =
        tlsSessionFeedCipher s rec := rfl
      rw [hrun, fed]
      rcases tlsSessionFeedCipher_cases s rec with ⟨hok, -, hbytes, hle⟩ | ⟨hneg, hsame, herror⟩
      · have hnot : ¬ (tlsSessionFeedCipher s rec).1 < 0 := by omega
        rw [if_neg hnot]
        exact ⟨hbytes, hle, fun hneg => absurd hneg hnot⟩
      · rw [if_pos hneg, List.append_nil, hsame]
        exact ⟨rfl, hfits, fun _ _ => herror⟩
  | handshakeStep =>
      have hnone : s.backend.bytes ++ (if ((handshakeStep).run (lib.mbedtls sendFn world) s).1 < 0
          then [] else (handshakeStep).fed) = s.backend.bytes := by
        rw [fed, ite_self, List.append_nil]
      rw [hnone]
      have hstep := tlsBackendHandshakeStep_keeps lib sendFn world s.backend hfits
      simp only [run, tlsSessionHandshakeStep]
      split
      · exact ⟨rfl, hfits, fun _ hne => absurd rfl hne⟩
      · split
        · exact ⟨rfl, hfits, fun _ hne => absurd rfl hne⟩
        · split
          · exact ⟨hstep.1, hstep.2, fun _ hne => absurd rfl hne⟩
          · split <;> exact ⟨hstep.1, hstep.2, fun _ hne => absurd rfl hne⟩
  | pullPlain cap =>
      have hpull := tlsBackendPullPlain_keeps lib sendFn world s.backend cap hfits
      rw [fed, ite_self, List.append_nil]
      exact ⟨hpull.1, hpull.2, fun _ hne => absurd rfl hne⟩

variable (lib sendFn world) in
/-- A run of calls, from any session whose queue fits. -/
theorem sessionAfter_bytes (ops : List TlsOp) {s : TlsSession (SslContext γ σ)}
    (hfits : s.backend.rxq.length ≤ rxqCap) :
    (sessionAfter (lib.mbedtls sendFn world) ops s).backend.bytes =
        s.backend.bytes ++ acceptedBytes (lib.mbedtls sendFn world) ops s ∧
      (sessionAfter (lib.mbedtls sendFn world) ops s).backend.rxq.length ≤ rxqCap := by
  induction ops generalizing s with
  | nil => exact ⟨(List.append_nil _).symm, hfits⟩
  | cons op ops ih =>
      obtain ⟨hbytes, hle, -⟩ := op.run_bytes lib sendFn world hfits
      obtain ⟨hrest, hle⟩ := ih hle
      refine ⟨?_, hle⟩
      rw [sessionAfter, hrest, hbytes, acceptedBytes, List.append_assoc]

theorem sessionAfter_error (ops : List TlsOp) {m : Mbedtls (SslContext γ σ)}
    {s : TlsSession (SslContext γ σ)} (h : s.state = .error) :
    (sessionAfter m ops s).state = .error := by
  induction ops generalizing s with
  | nil => exact h
  | cons op ops ih => exact ih (op.run_error h)

/-- **Whatever is not accepted has put the session into the state `error`.** -/
theorem acceptedBytes_eq (ops : List TlsOp) {s : TlsSession (SslContext γ σ)}
    (hfits : s.backend.rxq.length ≤ rxqCap)
    (hstate : (sessionAfter (lib.mbedtls sendFn world) ops s).state ≠ .error) :
    acceptedBytes (lib.mbedtls sendFn world) ops s = ops.flatMap TlsOp.fed := by
  induction ops generalizing s with
  | nil => rfl
  | cons op ops ih =>
      obtain ⟨-, hle, hrefused⟩ := op.run_bytes lib sendFn world hfits
      rw [acceptedBytes, ih hle hstate, List.flatMap_cons]
      by_cases hneg : (op.run (lib.mbedtls sendFn world) s).1 < 0
      · have hnone : op.fed = [] := by
          by_contra hne
          exact hstate (sessionAfter_error ops (hrefused hneg hne))
        rw [if_pos hneg, hnone]
      · rw [if_neg hneg]

/-- A new session has taken in nothing. -/
theorem tlsSessionInit_empty {psk : List UInt8} {s : TlsSession (SslContext γ σ)}
    (h : tlsSessionInit (lib.mbedtls sendFn world) none psk = .ok s) :
    s.state = .connecting ∧ s.backend.rxq = [] ∧ s.backend.ssl.received = [] := by
  unfold tlsSessionInit tlsBackendCreate at h
  by_cases hlen : psk.length ≠ pskLen
  · rw [if_pos hlen] at h
    exact absurd h (by simp)
  · rw [if_neg hlen] at h
    simp only [Option.isSome_none, Bool.false_eq_true, if_false, SslLibrary.mbedtls] at h
    rcases hsetup : lib.setup psk with e | ctx
    · rw [hsetup] at h
      exact absurd h (by simp [Except.map])
    · rw [hsetup] at h
      cases h
      exact ⟨rfl, rfl, rfl⟩

/--
**In every run of a session mbedTLS is handed the accepted records, in order and once.**

What is not handed over yet is in the queue, which never overflows; and while the session
does not say `error`, every record has been accepted.
-/
theorem sessionRun_handsOver {psk : List UInt8} {s : TlsSession (SslContext γ σ)}
    (hinit : tlsSessionInit (lib.mbedtls sendFn world) none psk = .ok s) (ops : List TlsOp) :
    let s' := sessionAfter (lib.mbedtls sendFn world) ops s
    s'.backend.ssl.received ++ s'.backend.rxq = acceptedBytes (lib.mbedtls sendFn world) ops s ∧
      s'.backend.rxq.length ≤ rxqCap ∧
      (s'.state ≠ .error → s'.backend.ssl.received ++ s'.backend.rxq = ops.flatMap TlsOp.fed) := by
  intro s'
  obtain ⟨-, hrxq, hreceived⟩ := tlsSessionInit_empty hinit
  have hfits : s.backend.rxq.length ≤ rxqCap := by
    rw [hrxq]
    exact Nat.zero_le _
  have hnew : s.backend.bytes = [] := by
    rw [TlsBackend.bytes, hrxq, hreceived, List.append_nil]
  obtain ⟨hbytes, hle⟩ := sessionAfter_bytes lib sendFn world ops hfits
  rw [hnew, List.nil_append] at hbytes
  refine ⟨hbytes, hle, ?_⟩
  intro hstate
  rw [← acceptedBytes_eq ops hfits hstate]
  exact hbytes

end Conserves

/-- mbedTLS without any cryptography: a read asks for as much as there is room for. -/
def clearLibrary : SslLibrary Unit where
  setup _ := .ok ()
  handshake _ := .done (0, ())
  read _ len := .call (.recv len) fun (r, out) => .done (r, out, ())

def clearMbedtls : Mbedtls (SslContext Unit Unit) :=
  clearLibrary.mbedtls (fun world _ _ => (0, world)) ()

/-- Its session after `gxfp_tls_session_init`. -/
def clearSession : TlsSession (SslContext Unit Unit) :=
  { state := .connecting, err := 0
    backend := { rxq := [], hsDone := false, ssl := { ctx := (), received := [], world := () } } }

/-- A read ends inside the first of two records. -/
theorem sessionRun_handsOver_pieces :
    let s' := sessionAfter clearMbedtls
      [.feedCipher [1, 2, 3], .pullPlain 2, .handshakeStep, .feedCipher [4]] clearSession
    s'.backend.ssl.received ++ s'.backend.rxq = [1, 2, 3, 4] ∧ s'.backend.rxq = [3, 4] := by
  have hinit : tlsSessionInit clearMbedtls none (Bytes.zeros 32) = .ok clearSession := rfl
  have h := sessionRun_handsOver hinit
    [.feedCipher [1, 2, 3], .pullPlain 2, .handshakeStep, .feedCipher [4]]
  refine ⟨h.2.2 (by decide), ?_⟩
  decide

end Gxfp
