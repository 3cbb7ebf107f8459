/-
The TLS backend of `src/tls/tls_backend_mbedtls.c`.

The backend is a receive queue of ciphertext with an mbedTLS context behind it.
mbedTLS itself is not part of the repository, so it is a parameter: a type `τ` of
contexts, what `mbedtls_ssl_handshake` and `mbedtls_ssl_read` return for a context
and the queue they may read from, and whether setting a context up succeeds.  No
property of it is assumed.  What it sends leaves through the device and changes
nothing here.
-/
import Gxfp.Errno

namespace Gxfp

/-! ### mbedTLS -/

def sslWantRead : Int := -0x6900
def sslWantWrite : Int := -0x6880

/-- The calls into mbedTLS, over its context `τ` and the bytes of the receive queue. -/
structure Mbedtls (τ : Type) where
  /-- The allocations of `gxfp_tls_backend_create`, and `setup_ssl`. -/
  setup : List UInt8 → Except Errno τ
  /-- `mbedtls_ssl_handshake` -/
  sslHandshake : τ → List UInt8 → Int × τ × List UInt8
  /-- `mbedtls_ssl_read`, with the plaintext it writes. -/
  sslRead : τ → List UInt8 → Nat → Int × List UInt8 × τ × List UInt8

/-! ### The backend -/

def rxqCap : Nat := 256 * 1024

/-- `struct gxfp_tls_backend` -/
structure TlsBackend (τ : Type) where
  rxq : List UInt8
  hsDone : Bool
  ssl : τ

section Backend

variable {τ : Type} (m : Mbedtls τ)

/-- `gxfp_tls_backend_create` -/
def tlsBackendCreate (psk : List UInt8) : Except Errno (TlsBackend τ) :=
  match m.setup psk with
  | .error e => .error e
  | .ok ssl => .ok { rxq := [], hsDone := false, ssl }

/-- `gxfp_tls_backend_feed_cipher_record`, which is `rxq_push`. -/
def tlsBackendFeedCipherRecord (e : TlsBackend τ) (rec : List UInt8) : Int × TlsBackend τ :=
  if rxqCap < e.rxq.length + rec.length then (Errno.nospc.neg, e)
  else (0, { e with rxq := e.rxq ++ rec })

/-- `gxfp_tls_backend_handshake_step` -/
def tlsBackendHandshakeStep (e : TlsBackend τ) : Int × TlsBackend τ :=
  if e.hsDone then (1, e)
  else
    let (r, ssl, rxq) := m.sslHandshake e.ssl e.rxq
    if r = 0 then (1, { rxq, ssl, hsDone := true })
    else if r = sslWantRead ∨ r = sslWantWrite then (Errno.again.neg, { e with rxq, ssl })
    else (r, { e with rxq, ssl })

/-- `gxfp_tls_backend_pull_plain`: its result, the plaintext, and the backend. -/
def tlsBackendPullPlain (e : TlsBackend τ) (outCap : Nat) : Int × List UInt8 × TlsBackend τ :=
  let (r, out, ssl, rxq) := m.sslRead e.ssl e.rxq outCap
  let e := { e with rxq, ssl }
  if 0 < r then (1, out.take r.toNat, e)
  else if r = sslWantRead ∨ r = sslWantWrite then (Errno.again.neg, [], e)
  else if r = 0 then (Errno.pipe.neg, [], e)
  else (r, [], e)

/-- What `mbedtls_ssl_read` answers a read that fails: the peer closed, or an error code. -/
def SslReadFails (e : TlsBackend τ) (outCap : Nat) : Prop :=
  let r := (m.sslRead e.ssl e.rxq outCap).1
  r ≤ 0 ∧ r ≠ sslWantRead ∧ r ≠ sslWantWrite ∧ r ≠ Errno.again.neg

end Backend

end Gxfp
