/-
The TLS session of `src/tls/tls_session.c`, and the driver's `gxfp_rearm_tls`.

A session is a backend with a handshake state on top.  `gxfp_rearm_tls` decides by
that state alone whether an activation keeps the session or makes a new one, so a
session that has failed must say so.  Feeding it and stepping its handshake record
their failures; pulling plaintext does not.  `recorded_iff` is the exact condition
that follows: the state tells the truth in a run exactly when no read of plaintext
fails while the state is not already `error`.
-/
import Gxfp.Tls.Backend
import Gxfp.Cmd.Xfer

namespace Gxfp

/-! ### The session -/

/-- `enum gxfp_tls_hs_state` -/
inductive TlsHsState
  | init
  | connecting
  | connected
  | error
  deriving DecidableEq, Repr

/-- `struct gxfp_tls_session_impl` -/
structure TlsSession (τ : Type) where
  state : TlsHsState
  err : Int
  backend : TlsBackend τ

def pskLen : Nat := 32

section Session

variable {τ : Type} (m : Mbedtls τ)

/-- `gxfp_tls_session_init`; the session is `none` while `svc->impl` is null. -/
def tlsSessionInit (svc : Option (TlsSession τ)) (psk : List UInt8) :
    Except Errno (TlsSession τ) :=
  if psk.length ≠ pskLen then .error .inval
  else if svc.isSome then .error .already
  else
    match tlsBackendCreate m psk with
    | .error e => .error e
    | .ok backend => .ok { state := .connecting, err := 0, backend }

/-- `gxfp_tls_session_feed_cipher` -/
def tlsSessionFeedCipher (s : TlsSession τ) (rec : List UInt8) : Int × TlsSession τ :=
  let (r, backend) := tlsBackendFeedCipherRecord s.backend rec
  let s := { s with backend }
  if r < 0 then (r, { s with err := r, state := .error }) else (r, s)

/-- `gxfp_tls_session_handshake_step` -/
def tlsSessionHandshakeStep (s : TlsSession τ) : Int × TlsSession τ :=
  if s.state = .error then (if s.err ≠ 0 then s.err else Errno.io.neg, s)
  else if s.state = .connected then (1, s)
  else
    let (r, backend) := tlsBackendHandshakeStep m s.backend
    let s := { s with backend }
    if r = 1 then (1, { s with state := .connected })
    else if r = Errno.again.neg then (Errno.again.neg, s)
    else (r, { s with err := r, state := .error })

/-- `gxfp_tls_session_pull_plain` -/
def tlsSessionPullPlain (s : TlsSession τ) (outCap : Nat) : Int × List UInt8 × TlsSession τ :=
  let (r, out, backend) := tlsBackendPullPlain m s.backend outCap
  (r, out, { s with backend })

/-- `gxfp_tls_session_state` -/
def tlsSessionState (svc : Option (TlsSession τ)) : TlsHsState :=
  match svc with
  | none => .init
  | some s => s.state

/-- `gxfp_tls_session_feed_cipher`, with the checks of its arguments. -/
def svcFeedCipher (svc : Option (TlsSession τ)) (rec : List UInt8) :
    Int × Option (TlsSession τ) :=
  match svc with
  | none => (Errno.inval.neg, none)
  | some s =>
    if rec.length = 0 then (Errno.inval.neg, some s)
    else
      let (r, s) := tlsSessionFeedCipher s rec
      (r, some s)

/-- `gxfp_tls_session_handshake_step`, with the check of its argument. -/
def svcHandshakeStep (svc : Option (TlsSession τ)) : Int × Option (TlsSession τ) :=
  match svc with
  | none => (Errno.inval.neg, none)
  | some s =>
    let (r, s) := tlsSessionHandshakeStep m s
    (r, some s)

/-- `gxfp_tls_session_pull_plain`, with the checks of its arguments. -/
def svcPullPlain (svc : Option (TlsSession τ)) (outCap : Nat) :
    Int × List UInt8 × Option (TlsSession τ) :=
  match svc with
  | none => (Errno.inval.neg, [], none)
  | some s =>
    if outCap = 0 then (Errno.inval.neg, [], some s)
    else
      let (r, out, s) := tlsSessionPullPlain m s outCap
      (r, out, some s)

/-- `gxfp_tls_session_error` -/
def svcError (svc : Option (TlsSession τ)) : Int :=
  match svc with
  | none => Errno.inval.neg
  | some s => s.err

def cmdTlsServerInit : UInt8 := 0xD0

/-- `gxfp_rearm_tls`: its result, the session, and the device. -/
def rearmTls {σ : Type} (sys : Sys σ) (dev : Dev) (psk : Option (List UInt8))
    (svc : Option (TlsSession τ)) (w : σ) :
    Except Errno Unit × Option (TlsSession τ) × Dev × σ :=
  match psk with
  | none => (.error .inval, svc, dev, w)
  | some psk =>
    let state := tlsSessionState svc
    if state = .connecting ∨ state = .connected then (.ok (), svc, dev, w)
    else
      let (_, w) := devFlushRxq sys dev w
      match tlsSessionInit m none psk with
      | .error e => (.error e, none, dev, w)
      | .ok s =>
        let (r, dev, w) := goodixSendAsync sys dev cmdTlsServerInit [0, 0] w
        (r, some s, dev, w)

end Session

/-! ### Runs of a session -/

/-- One call on an initialised session, with arguments that are not null and not empty. -/
inductive TlsOp
  | feedCipher (rec : List UInt8)
  | handshakeStep
  | pullPlain (outCap : Nat)

/-- A negative result other than `-EAGAIN`. -/
def Fatal (r : Int) : Prop := r < 0 ∧ r ≠ Errno.again.neg

instance (r : Int) : Decidable (Fatal r) := inferInstanceAs (Decidable (_ ∧ _))

section Runs

variable {τ : Type} (m : Mbedtls τ)

/-- A call's result and the session after it. -/
def TlsOp.run : TlsOp → TlsSession τ → Int × TlsSession τ
  | .feedCipher rec, s => tlsSessionFeedCipher s rec
  | .handshakeStep, s => tlsSessionHandshakeStep m s
  | .pullPlain cap, s => ((tlsSessionPullPlain m s cap).1, (tlsSessionPullPlain m s cap).2.2)

/-- The results of a run of calls, each with the session after it. -/
def sessionRun : List TlsOp → TlsSession τ → List (Int × TlsSession τ)
  | [], _ => []
  | op :: ops, s => op.run m s :: sessionRun ops (op.run m s).2

/-- The session says that it has failed, and the next activation throws it away. -/
structure Reported (s : TlsSession τ) : Prop where
  state : tlsSessionState (some s) = .error
  rearm : ∀ {σ : Type} (sys : Sys σ) (dev : Dev) (psk : List UInt8) (w : σ),
    rearmTls m sys dev (some psk) (some s) w = rearmTls m sys dev (some psk) none w

/-- Once a call of the run has failed, every session from there on reports it. -/
structure Recorded (ops : List TlsOp) (s : TlsSession τ) : Prop where
  atOnce : ∀ a ∈ sessionRun m ops s, Fatal a.1 → Reported m a.2
  later : (sessionRun m ops s).Pairwise fun a b => Fatal a.1 → Reported m b.2

/-- No read of plaintext fails while the session does not say `error` already. -/
def NoPullFails : List TlsOp → TlsSession τ → Prop
  | [], _ => True
  | .pullPlain cap :: ops, s =>
    (s.state ≠ .error → ¬ SslReadFails m s.backend cap) ∧
      NoPullFails ops ((TlsOp.pullPlain cap).run m s).2
  | op :: ops, s => NoPullFails ops (op.run m s).2

end Runs

/-! ### One call -/

section OneCall

variable {τ : Type} {m : Mbedtls τ}

/-- A session in the state `error` is thrown away by the next activation. -/
theorem reported_of_error {s : TlsSession τ} (h : s.state = .error) : Reported m s := by
  constructor
  · exact h
  · intro σ sys dev psk w
    simp [rearmTls, tlsSessionState, h]

/-- A session that is connecting or connected is kept. -/
theorem rearmTls_keeps {σ : Type} (sys : Sys σ) (dev : Dev) (psk : List UInt8) (w : σ)
    {s : TlsSession τ} (h : s.state = .connecting ∨ s.state = .connected) :
    rearmTls m sys dev (some psk) (some s) w = (.ok (), some s, dev, w) := by
  simp [rearmTls, tlsSessionState, h]

/-- **The state `error` is never left.** -/
theorem TlsOp.run_error (op : TlsOp) {s : TlsSession τ} (h : s.state = .error) :
    (op.run m s).2.state = .error := by
  cases op with
  | feedCipher rec =>
      simp only [run, tlsSessionFeedCipher]
      split
      · rfl
      · exact h
  | handshakeStep =>
      simp only [run, tlsSessionHandshakeStep, if_pos h]
      exact h
  | pullPlain cap => exact h

/-- A failed feed is recorded. -/
theorem feedCipher_fatal {s : TlsSession τ} {rec : List UInt8}
    (h : Fatal (tlsSessionFeedCipher s rec).1) : (tlsSessionFeedCipher s rec).2.state = .error := by
  simp only [tlsSessionFeedCipher] at h ⊢
  split
  · rfl
  · rename_i hr
    rw [if_neg hr] at h
    exact absurd h.1 hr

/-- A failed handshake step is recorded. -/
theorem handshakeStep_fatal {s : TlsSession τ} (h : Fatal (tlsSessionHandshakeStep m s).1) :
    (tlsSessionHandshakeStep m s).2.state = .error := by
  by_cases herr : s.state = .error
  · rw [tlsSessionHandshakeStep, if_pos herr]
    exact herr
  · rw [tlsSessionHandshakeStep, if_neg herr] at h ⊢
    by_cases hconn : s.state = .connected
    · rw [if_pos hconn] at h
      exact absurd h (by simp [Fatal])
    · rw [if_neg hconn] at h ⊢
      dsimp only at h ⊢
      -- of the three outcomes only the last is a failure
      by_cases hone : (tlsBackendHandshakeStep m s.backend).1 = 1
      · rw [if_pos hone] at h
        exact absurd h (by simp [Fatal])
      · rw [if_neg hone] at h ⊢
        by_cases hagain : (tlsBackendHandshakeStep m s.backend).1 = Errno.again.neg
        · rw [if_pos hagain] at h
          exact absurd rfl h.2
        · rw [if_neg hagain]

/-- Pulling plaintext leaves the state as it was. -/
theorem pullPlain_state (s : TlsSession τ) (cap : Nat) :
    ((TlsOp.pullPlain cap).run m s).2.state = s.state := rfl

/-- **A pull fails exactly when the read behind it does.** -/
theorem pullPlain_fatal_iff (s : TlsSession τ) (cap : Nat) :
    Fatal ((TlsOp.pullPlain cap).run m s).1 ↔ SslReadFails m s.backend cap := by
  have hagain : Errno.again.neg = -11 := rfl
  have hpipe : Errno.pipe.neg = -32 := rfl
  have hread : sslWantRead = -26880 := rfl
  have hwrite : sslWantWrite = -26752 := rfl
  simp only [TlsOp.run, tlsSessionPullPlain, tlsBackendPullPlain, SslReadFails, Fatal]
  generalize (m.sslRead s.backend.ssl s.backend.rxq cap).1 = r
  split
  · dsimp only
    omega
  · split
    · dsimp only
      omega
    · split
      · dsimp only
        omega
      · dsimp only
        omega

end OneCall

/-! ### Runs -/

section RunLemmas

variable {τ : Type} {m : Mbedtls τ}

/-- From the state `error` on, every session of the run is in it. -/
theorem sessionRun_error (ops : List TlsOp) {s : TlsSession τ} (h : s.state = .error) :
    ∀ a ∈ sessionRun m ops s, a.2.state = .error := by
  induction ops generalizing s with
  | nil => simp [sessionRun]
  | cons op ops ih =>
      intro a ha
      rcases List.mem_cons.mp ha with rfl | hrest
      · exact op.run_error h
      · exact ih (op.run_error h) a hrest

/-- What a run owes is what its first call owes, and what the rest of it owes. -/
theorem recorded_cons (op : TlsOp) (ops : List TlsOp) (s : TlsSession τ) :
    Recorded m (op :: ops) s ↔
      (Fatal (op.run m s).1 → (op.run m s).2.state = .error) ∧ Recorded m ops (op.run m s).2 := by
  constructor
  · rintro ⟨hatOnce, hlater⟩
    rw [sessionRun, List.forall_mem_cons] at hatOnce
    rw [sessionRun, List.pairwise_cons] at hlater
    exact ⟨fun h => (hatOnce.1 h).state, hatOnce.2, hlater.2⟩
  · rintro ⟨hfirst, hatOnce, hlater⟩
    constructor
    · rw [sessionRun, List.forall_mem_cons]
      exact ⟨fun h => reported_of_error (hfirst h), hatOnce⟩
    · rw [sessionRun, List.pairwise_cons]
      refine ⟨?_, hlater⟩
      intro b hb hfatal
      exact reported_of_error (sessionRun_error ops (hfirst hfatal) b hb)

/--
**A failed session is never reported usable, exactly when no read of plaintext
fails outside the state `error`.**
-/
theorem recorded_iff (ops : List TlsOp) (s : TlsSession τ) :
    Recorded m ops s ↔ NoPullFails m ops s := by
  induction ops generalizing s with
  | nil =>
      refine iff_of_true ⟨?_, .nil⟩ trivial
      simp [sessionRun]
  | cons op ops ih =>
      rw [recorded_cons, ih]
      cases op with
      | feedCipher rec => exact and_iff_right feedCipher_fatal
      | handshakeStep => exact and_iff_right handshakeStep_fatal
      | pullPlain cap =>
          refine and_congr_left fun _ => ?_
          rw [pullPlain_fatal_iff, pullPlain_state]
          constructor
          · intro h hne hfails
            exact hne (h hfails)
          · intro h hfails
            by_contra hne
            exact h hne hfails

end RunLemmas

/-- A peer that completes the handshake and then closes. -/
def closingPeer : Mbedtls Unit where
  setup _ := .ok ()
  sslHandshake _ rxq := (0, (), rxq)
  sslRead _ rxq _ := (0, [], (), rxq)

/-- The session of `closingPeer` after `gxfp_tls_session_init`. -/
def freshSession : TlsSession Unit :=
  { state := .connecting, err := 0, backend := { rxq := [], hsDone := false, ssl := () } }

/--
After the handshake the peer closes: the pull says `-EPIPE`, the session says
`connected`, and the next activation keeps it.
-/
theorem closingPeer_not_recorded :
    tlsSessionInit closingPeer none (Bytes.zeros 32) = .ok freshSession ∧
      ¬ Recorded closingPeer [.handshakeStep, .pullPlain 4096] freshSession := by
  refine ⟨rfl, ?_⟩
  intro h
  have hreported := h.atOnce _ (List.mem_cons_of_mem _ (List.mem_singleton.mpr rfl)) (by decide)
  exact absurd hreported.state (by decide)

end Gxfp
