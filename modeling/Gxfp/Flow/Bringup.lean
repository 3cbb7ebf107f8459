/-
Bringing a sensor up: `src/flow/milang_init.c`, and how the driver's `gxfp_img_open` and the
tools' `gxfp_tool_open` use it.

A sensor of the right kind gets a configuration before anything else is done with it.  The
configuration is made from what its OTP holds, sent, and read back.  The results here are
about every controller and every way it may answer, and name the answers: what is sent is
made of the OTP that was read from the controller and of nothing else, and only if that
passes its checks; and a TLS session is asked for behind a configuration that has been read
back, unless the chip id that was read is another one or was not read at all.
-/
import Gxfp.Cmd.Control
import Gxfp.Cmd.Fdt
import Gxfp.Flow.Fdt
import Gxfp.Tls.Session

namespace Gxfp

open Bytes Trace

/-! ### The functions -/

/-- What `gxfp_apply_milang_cfg` and `gxfp_img_open` write of `struct _FpiDeviceGxfp`. -/
structure BringupSelf (τ : Type) where
  fdt : FdtFlow
  otpTcode : UInt16
  otpFdtDelta : UInt16
  otpHasTcodeDelta : Bool
  psk : Option (List UInt8)
  tls : Option (TlsSession τ)

def otpBufSize : Nat := 256
def milangChipId : UInt16 := 0x2208

/-- `gxfp_milang_apply_otp_patch`, whose blob is of use only if it succeeds. -/
def milangPatched (cfg : List UInt8) (otpCfg : MilangOtpCfg) : Except Errno (List UInt8) :=
  match milangApplyOtpPatch cfg otpCfg with
  | (.error e, _) => .error e
  | (.ok (), cfg) => .ok cfg

section Bringup

variable {σ τ : Type} (sys : Sys σ) (sleep : σ → σ) (fuel : Nat)

/-- `gxfp_milang_prepare_config` -/
def milangPrepareConfig (dac : UInt16) : CmdProg σ Unit := do
  cmdResetDevice sys fuel 0x01
  let _ ← (sleepFor sleep).attempt
  cmdSetDac sys fuel dac
  cmdResetDevice sys fuel 0x01
  let _ ← (sleepFor sleep).attempt
  cmdImageModeSend sys
  cmdImageModeWait sys fuel 200

/-- A part of the driver: programs on the device and on the driver's own fields. -/
abbrev SelfProg (σ τ α : Type) := Prog Errno (BringupSelf τ × (Dev × σ)) α

/-- `gxfp_apply_milang_cfg`, which is `tool_apply_milang_cfg` but for the three last fields. -/
def applyMilangCfg : SelfProg σ τ Unit := do
  let otp ← (asProg fun dev s => cmdReadOtp sys dev fuel otpBufSize s).inner
  let otpCfg ← Prog.lift (milangParseOtp otp)
  let blob ← Prog.lift (milangPrepareCfgBlob milangCfgTemplate milangCfgLen)
  let blob ← Prog.lift (milangPatched blob otpCfg)
  Prog.modify fun self => { self with
    fdt.cmd := cmdFdtStateSetRuntime self.fdt.cmd false false false
      (if otpCfg.hasTcodeDelta then otpCfg.fdtDelta.toInt16 else 0) }
  (milangPrepareConfig sys sleep fuel otpCfg.dac).inner
  let _ ← (cmdUploadConfigMcu sys fuel blob).inner
  (cmdVerifySensorCfg sys fuel otpCfg.dac otpCfg.tcode).inner
  Prog.modify fun self => { self with
    otpTcode := otpCfg.tcode
    otpFdtDelta := otpCfg.fdtDelta
    otpHasTcodeDelta := otpCfg.hasTcodeDelta }

/-- What both openings do once the chip id has been asked for. -/
def configureMilang : SelfProg σ τ Unit := do
  let chipId ← (cmdReadChipId sys fuel).inner.attempt
  match chipId with
  | .error _ => Prog.lift (.ok ())
  | .ok chipId =>
    if chipId = milangChipId then applyMilangCfg sys sleep fuel else Prog.lift (.ok ())

/-- `gxfp_rearm_tls`, as a program. -/
def rearmTlsProg (m : Mbedtls τ) : SelfProg σ τ Unit := fun st =>
  let (r, tls, dev, s) := rearmTls m sys st.2.1 st.1.psk st.1.tls st.2.2
  some (r, ({ st.1 with tls }, (dev, s)))

/-- `gxfp_img_open` between the device's opening and the end or the failure. -/
def imgBringup (m : Mbedtls τ) (pskRaw : List UInt8) : SelfProg σ τ Unit := do
  Prog.modify fun self => { self with fdt := fdtFlowInit }
  let _ ← (flushRxq sys).inner.attempt
  configureMilang sys sleep fuel
  Prog.modify fun self => { self with psk := some pskRaw }
  rearmTlsProg sys m

end Bringup

/-! ### What the controller sees -/

/-- The configuration is the template with the numbers of an OTP that passes its checks. -/
structure FromOtp (otp : List UInt8) (otpCfg : MilangOtpCfg) (blob : List UInt8) : Prop where
  parsed : milangParseOtp otp = .ok otpCfg
  patched : milangPatched milangCfgTemplate otpCfg = .ok blob
  length : blob.length = milangCfgLen
  checksum : CfgChecksumOk blob
  dac : cfgReadReg blob cfgSectionDac milangRegDac = some otpCfg.dac
  tcode : cfgReadReg blob cfgSectionTcode milangRegTcode = some otpCfg.tcode

/-- What passes behind an OTP: the first step that fails ends it. -/
def MilangSteps (otpCfg : MilangOtpCfg) (blob : List UInt8) :
    Except Errno Unit → List Wire → Prop :=
  InTurn (Resets 0x01) fun _ =>
    InTurn (Acked (setDacMsg otpCfg.dac) setDacCmd 3) fun _ =>
      InTurn (Resets 0x01) fun _ =>
        InTurn (Acked imageMsg ackCmd 1) fun _ =>
          InTurn (Request (command uploadConfigMcuCmd blob) uploadConfigMcuCmd 3 uploadStatus)
            fun _ => Verification otpCfg.dac otpCfg.tcode

/-- What passes in `gxfp_apply_milang_cfg`: the OTP, and what is made of the one in the answer. -/
def MilangWord : Except Errno Unit → List Wire → Prop :=
  InTurn (ReadsOtp otpBufSize) fun otp r w =>
    (∃ e, milangParseOtp otp = .error e ∧ r = .error e ∧ w = []) ∨
      ∃ otpCfg blob, FromOtp otp otpCfg blob ∧ MilangSteps otpCfg blob r w

/-- The chip id is asked for, and what comes back is not that of the sensor with an OTP. -/
def NoMilang (w : List Wire) : Prop :=
  (∃ chipId, ReadsChipId chipId w) ∧ ¬ ReadsChipId (.ok milangChipId) w

/--
The question for the chip id, and `T` behind it: behind a configuration that succeeds if the
answer holds that of the sensor that gets one, and directly if it holds another one or there
is no answer.
-/
def Configured (T : Except Errno Unit → List Wire → Prop) (r : Except Errno Unit) :
    List Wire → Prop := fun w =>
  Then (ReadsChipId (.ok milangChipId)) (InTurn MilangWord (fun _ => T) r) w ∨
    Then NoMilang (T r) w

def tlsServerInitMsg : Option SentMsg := command cmdTlsServerInit [0, 0]

/-- The same of the driver, which keeps a session that is there. -/
def RearmWord (w : List Wire) : Prop := w = [] ∨ Writes tlsServerInitMsg w

/-- The event is a buffer that asks for the handshake. -/
def AsksHandshake (e : Wire) : Prop := ∃ tx, e = .wrote tx ∧ readMsg tx = tlsServerInitMsg

section Sends

variable {σ τ : Type} {sys : Sys σ} {L : Ledger σ Wire} {sleep : σ → σ} {fuel : Nat}

theorem length_cfgPatchReg (cfg : List UInt8) (reg val : UInt16) (i : Nat) (mode : CfgWrite) :
    (cfgPatchReg cfg reg val i mode).2.length = cfg.length := by
  unfold cfgPatchReg
  split
  · rfl
  split
  · rfl
  split
  · rfl
  dsimp only
  split
  · rfl
  · exact length_cfgPatched cfg _ val mode

/-- A patched blob is as long as it was. -/
theorem length_milangApplyOtpPatch (cfg : List UInt8) (otpCfg : MilangOtpCfg) :
    (milangApplyOtpPatch cfg otpCfg).2.length = cfg.length := by
  unfold milangApplyOtpPatch
  split
  · rfl
  have hlen := length_cfgPatchReg cfg milangRegDac otpCfg.dac cfgSectionDac .both
  rcases hdac : cfgPatchReg cfg milangRegDac otpCfg.dac cfgSectionDac .both with ⟨e | _, cfg₁⟩ <;>
    rw [hdac] at hlen
  · exact hlen
  dsimp only
  split
  · have hlen' := length_cfgPatchReg cfg₁ milangRegTcode otpCfg.tcode cfgSectionTcode .both
    rcases htcode : cfgPatchReg cfg₁ milangRegTcode otpCfg.tcode cfgSectionTcode .both with
      ⟨e | _, cfg₂⟩ <;> rw [htcode] at hlen'
    · exact hlen'.trans hlen
    · exact (length_cfgPatchReg cfg₂ _ _ _ _).trans (hlen'.trans hlen)
  · exact hlen

/-- **An OTP that passes its checks makes a configuration.** -/
theorem fromOtp {otp : List UInt8} {otpCfg : MilangOtpCfg}
    (hotp : milangParseOtp otp = .ok otpCfg) : ∃ blob, FromOtp otp otpCfg blob := by
  obtain ⟨-, -, hdelta⟩ := milangParseOtp_ok hotp
  obtain ⟨blob, before, hpatch, hsum, hdac, htcode, -⟩ :=
    milangApplyOtpPatch_ok milangCfgTemplate_template hdelta
  have hlength := length_milangApplyOtpPatch milangCfgTemplate otpCfg
  rw [hpatch] at hlength
  refine ⟨blob, hotp, ?_, hlength.trans rfl, hsum, hdac, htcode⟩
  unfold milangPatched
  rw [hpatch]

theorem emits_milangPrepareConfig (h : sys.Kept L) (hsleep : ∀ s, L.adds s [] (sleep s))
    (dac : UInt16) :
    Emits (devWatch L) (milangPrepareConfig sys sleep fuel dac)
      (InTurn (Resets 0x01) fun _ => InTurn (Acked (setDacMsg dac) setDacCmd 3) fun _ =>
        InTurn (Resets 0x01) fun _ => Acked imageMsg ackCmd 1) :=
  (emits_resetDevice h 0x01).inTurn fun _ => (emits_sleepFor hsleep).silently fun _ =>
    (emits_setDac h dac).inTurn fun _ =>
      (emits_resetDevice h 0x01).inTurn fun _ => (emits_sleepFor hsleep).silently fun _ =>
        emits_imageMode h 200

/-- The steps behind the OTP. -/
theorem emits_milangSteps (h : sys.Kept L) (hsleep : ∀ s, L.adds s [] (sleep s))
    {otp : List UInt8} {otpCfg : MilangOtpCfg} {blob : List UInt8}
    (hotp : FromOtp otp otpCfg blob) :
    Emits (devWatch L).inner
      (do
        (milangPrepareConfig sys sleep fuel otpCfg.dac).inner
        let _ ← (cmdUploadConfigMcu sys fuel blob).inner
        (cmdVerifySensorCfg sys fuel otpCfg.dac otpCfg.tcode).inner
        Prog.modify fun self => { self with
          otpTcode := otpCfg.tcode
          otpFdtDelta := otpCfg.fdtDelta
          otpHasTcodeDelta := otpCfg.hasTcodeDelta } : SelfProg _ τ Unit)
      (MilangSteps otpCfg blob) := by
  have hfits : blob.length ≤ cmdPayloadMax := by
    rw [hotp.length]
    decide
  refine Emits.mono ((emits_milangPrepareConfig h hsleep otpCfg.dac).inner.inTurn fun _ =>
    (emits_uploadConfigMcu h hfits).inner.inTurn fun _ =>
      Emits.bind_modify _ (emits_verifySensorCfg h otpCfg.dac otpCfg.tcode).inner) ?_
  intro r w hw
  refine hw.assoc.mono (fun _ _ hu => hu) fun _ _ hw => ?_
  refine hw.assoc.mono (fun _ _ hu => hu) fun _ _ hw => ?_
  exact hw.assoc

/-- The bootstrap, for whatever is kept of what passes. -/
theorem emits_applyMilangCfg (h : sys.Kept L) (hsleep : ∀ s, L.adds s [] (sleep s)) :
    Emits (devWatch L).inner (applyMilangCfg sys sleep fuel : SelfProg _ τ Unit) MilangWord := by
  refine (emits_readOtp h (by decide)).inner.inTurn fun otp => ?_
  rcases hotp : milangParseOtp otp with e | otpCfg
  · refine (Emits.lift (.error e)).mono ?_
    rintro r w ⟨rfl, rfl⟩
    exact Or.inl ⟨e, rfl, rfl, rfl⟩
  · obtain ⟨blob, hfrom⟩ := fromOtp hotp
    rw [Prog.lift_ok_bind, milangPrepareCfgBlob_ok rfl, Prog.lift_ok_bind, hfrom.patched,
      Prog.lift_ok_bind]
    refine Emits.modify_bind _ ((emits_milangSteps h hsleep hfrom).mono fun r w hw => ?_)
    exact Or.inr ⟨otpCfg, blob, hfrom, hw⟩

/--
**The configuration goes out behind an OTP that passes its checks, and is made of it.**

Whatever the controller answers and whenever it does, the OTP is asked for first.  If the
answer, or its lack, is no OTP that passes its checks nothing else goes out and the result is
an error.  Otherwise what is sent is made of the OTP in that very answer, each step only
behind a frame that was read as the answer to the one before it, and success means that both
registers were read back with the values of that OTP.
-/
theorem applyMilangCfg_sends :
    Emits (devWatch (wireLedger σ)).inner
      (applyMilangCfg sys.wired (wiredSleep sleep) fuel : SelfProg _ τ Unit) MilangWord :=
  emits_applyMilangCfg sys.wired_kept (wiredSleep_kept sleep)

end Sends

/-- An opening's own fields at the beginning, in front of a sensor that gets a configuration. -/
def bringupStart : BringupSelf Unit × Dev × (List RxRecord × Nat) × List Wire :=
  (⟨fdtFlowInit, 0, 0, false, none, none⟩, answeringStart)

/-- The configuration of a sensor that answers everything. -/
theorem applyMilangCfg_sends_answered :
    ∃ st', applyMilangCfg (answeringSys fun _ => milangReply).wired (wiredSleep id) 20
        bringupStart = some (.ok (), st') ∧ MilangWord (.ok ()) st'.2.2.2 := by
  have hrun : (applyMilangCfg (answeringSys fun _ => milangReply).wired (wiredSleep id) 20
      bringupStart).map Prod.fst = some (.ok ()) := by
    decide +kernel
  obtain ⟨⟨r, st'⟩, hst, rfl⟩ := Option.map_eq_some_iff.mp hrun
  obtain ⟨-, w, hadds, hw⟩ := applyMilangCfg_sends bringupStart _ st' ⟨by decide, rfl⟩ hst
  refine ⟨st', hst, ?_⟩
  rw [show st'.2.2.2 = [] ++ w from hadds]
  exact hw

/-! ### The handshake -/

section Handshake

variable {σ τ : Type} {sys : Sys σ} {L : Ledger σ Wire} {sleep : σ → σ} {fuel : Nat}

theorem rearmTls_passes (h : sys.Kept L) (m : Mbedtls τ) {dev : Dev} (hd : dev.Opened)
    (psk : Option (List UInt8)) (svc : Option (TlsSession τ)) (s : σ) :
    (rearmTls m sys dev psk svc s).2.2.1.Opened ∧
      ∃ w, L.adds s w (rearmTls m sys dev psk svc s).2.2.2 ∧ RearmWord w := by
  cases psk with
  | none => exact ⟨hd, [], L.adds_nil s, Or.inl rfl⟩
  | some psk =>
      unfold rearmTls
      dsimp only
      split
      · exact ⟨hd, [], L.adds_nil s, Or.inl rfl⟩
      have hflush := devFlushRxq_passes h dev s
      cases tlsSessionInit m none psk with
      | error e => exact ⟨hd, [], hflush, Or.inl rfl⟩
      | ok tls =>
          rcases hsend : goodixSendAsync sys dev cmdTlsServerInit [0, 0] (devFlushRxq sys dev s).2
            with ⟨r', dev', s'⟩
          obtain ⟨hopened, w, hw, hwrites⟩ :=
            goodixSendAsync_passes h hd (Nat.le_of_ble_eq_true rfl) hsend
          exact ⟨hopened, w, L.adds_append hflush hw, Or.inr hwrites⟩

theorem emits_rearmTls (h : sys.Kept L) (m : Mbedtls τ) :
    Emits (devWatch L).inner (rearmTlsProg sys m) fun _ w => RearmWord w := by
  rintro ⟨self, dev, s⟩ r st' hd hrun
  have hrearm := rearmTls_passes h m hd self.psk self.tls s
  rw [rearmTlsProg] at hrun
  rcases hout : rearmTls m sys dev self.psk self.tls s with ⟨r', tls, dev', s'⟩
  simp only [hout] at hrun hrearm
  cases hrun
  exact hrearm

/-- Another result of the question says that the answer does not hold the sensor's chip id. -/
theorem ReadsChipId.noMilang {chipId : Except Errno UInt16} {w : List Wire}
    (h : ReadsChipId chipId w) (hother : chipId ≠ .ok milangChipId) : NoMilang w := by
  refine ⟨⟨chipId, h⟩, fun hmilang => ?_⟩
  rcases Request.unique h hmilang with heq | ⟨_, _, -, herr⟩
  · exact hother heq
  · cases herr

/-- **What comes behind the chip id comes behind the configuration.** -/
theorem emits_configureMilang (h : sys.Kept L) (hsleep : ∀ s, L.adds s [] (sleep s))
    {T : Except Errno Unit → List Wire → Prop} {q : Unit → SelfProg σ τ Unit}
    (hq : ∀ u, Emits (devWatch L).inner (q u) T) :
    Emits (devWatch L).inner (configureMilang sys sleep fuel >>= q) (Configured T) := by
  have hbody : Emits (devWatch L).inner
      (configureMilang sys sleep fuel : SelfProg _ τ Unit)
      (Anyway ReadsChipId fun chipId r v => (chipId = .ok milangChipId ∧ MilangWord r v) ∨
        (chipId ≠ .ok milangChipId ∧ r = .ok () ∧ v = [])) := by
    refine Emits.anyway (emits_readChipId h).inner ?_
    rintro (e | chipId)
    · exact (Emits.lift (.ok ())).mono fun _ _ hw => Or.inr ⟨(fun hc => by cases hc), hw⟩
    · dsimp only
      split
      · next hkind =>
          rw [hkind]
          exact (emits_applyMilangCfg h hsleep).mono fun _ _ hw => Or.inl ⟨rfl, hw⟩
      · next hkind =>
          exact (Emits.lift (.ok ())).mono fun _ _ hw =>
            Or.inr ⟨fun hc => hkind (Except.ok.inj hc), hw⟩
  refine (hbody.inTurn hq).mono ?_
  rintro r w (⟨e, rfl, chipId, u, v, rfl, hu, ⟨rfl, hv⟩ | ⟨-, hok, -⟩⟩ | ⟨_, x, y, rfl, hx, hy⟩)
  · exact Or.inl ⟨u, v, rfl, hu, Or.inl ⟨e, rfl, hv⟩⟩
  · cases hok
  obtain ⟨chipId, u, v, rfl, hu, ⟨rfl, hv⟩ | ⟨hother, -, rfl⟩⟩ := hx
  · exact Or.inl ⟨u, v ++ y, List.append_assoc .., hu, Or.inr ⟨(), v, y, rfl, hv, hy⟩⟩
  · exact Or.inr ⟨u, y, by rw [List.append_nil], ReadsChipId.noMilang hu hother, hy⟩

/-- **What passes when the driver's device is opened.** -/
theorem imgBringup_sends (m : Mbedtls τ) (pskRaw : List UInt8) :
    Emits (devWatch (wireLedger σ)).inner
      (imgBringup sys.wired (wiredSleep sleep) fuel m pskRaw) (Configured fun _ => RearmWord) :=
  Emits.modify_bind _ ((emits_flushRxq sys.wired_kept).inner.silently fun _ =>
    emits_configureMilang sys.wired_kept (wiredSleep_kept sleep) fun _ =>
      Emits.modify_bind _ (emits_rearmTls sys.wired_kept m))

/-! ### Where the handshake stands -/

/-- No other command is one that asks for the handshake. -/
theorem not_asksHandshake {cmd : UInt8} {payload tx : List UInt8} (h : cmd ≠ cmdTlsServerInit)
    (htx : readMsg tx = command cmd payload) : ¬ AsksHandshake (.wrote tx) := by
  rintro ⟨tx', heq, htx'⟩
  cases heq
  have hsame := htx.symm.trans htx'
  exact h (congrArg SentMsg.cmd (Option.some.inj hsame))

/-- What is read does not either. -/
theorem not_asksHandshake_reads (e : Wire) (h : ∀ tx, e ≠ .wrote tx) : ¬ AsksHandshake e := by
  rintro ⟨tx, heq, -⟩
  exact h tx heq

/-- A request for something else does not ask for it. -/
theorem Request.quiet {α : Type} {cmd expectCmd : UInt8} {payload : List UInt8} {tries : Nat}
    {g : List UInt8 → Except Errno α} {r : Except Errno α} {w : List Wire}
    (h : Request (command cmd payload) expectCmd tries g r w) (hcmd : cmd ≠ cmdTlsServerInit) :
    ∀ e ∈ w, ¬ AsksHandshake e :=
  Request.forall h (fun _ => not_asksHandshake hcmd) not_asksHandshake_reads

theorem VerifyRound.quiet {dac tcode : UInt16} {r : Except Errno Unit} {w : List Wire}
    (h : VerifyRound dac tcode r w) : ∀ e ∈ w, ¬ AsksHandshake e := by
  obtain ⟨_, hthen⟩ := h
  refine hthen.forall (fun _ hu => Request.quiet hu (by decide)) fun _ hv => hv.forall
    (fun _ _ hu => Request.quiet hu (by decide)) fun _ _ _ hv => hv.forall
      (fun _ _ hu => Request.quiet hu (by decide)) ?_
  rintro _ _ _ ⟨-, rfl⟩ e he
  exact absurd he List.not_mem_nil

/-- **A configuration does not ask for the handshake.** -/
theorem MilangWord.quiet {r : Except Errno Unit} {w : List Wire} (h : MilangWord r w) :
    ∀ e ∈ w, ¬ AsksHandshake e := by
  refine h.forall (fun _ _ hu => Request.quiet hu (by decide)) ?_
  rintro otp r v (⟨e, -, -, rfl⟩ | ⟨otpCfg, blob, -, hsteps⟩)
  · exact fun e he => absurd he List.not_mem_nil
  refine hsteps.forall (fun _ _ hu => Request.quiet hu (by decide)) fun _ _ _ hv => ?_
  refine hv.forall (fun _ _ hu => Request.quiet hu (by decide)) fun _ _ _ hv => ?_
  refine hv.forall (fun _ _ hu => Request.quiet hu (by decide)) fun _ _ _ hv => ?_
  refine hv.forall (fun _ _ hu => Request.quiet hu (by decide)) fun _ _ _ hv => ?_
  refine hv.forall (fun _ _ hu => Request.quiet hu (by decide)) fun _ _ _ hv => ?_
  refine Retried.forall hv ?_ fun _ _ hv => hv.quiet
  rintro u ⟨e, hu⟩
  exact hu.quiet

/-- What is behind the chip id, if the handshake is asked for in it. -/
theorem RearmWord.handshake {w : List Wire} (h : RearmWord w) (hasks : ∃ e ∈ w, AsksHandshake e) :
    ∃ e, w = [e] ∧ AsksHandshake e := by
  rcases h with rfl | ⟨tx, htx, rfl⟩
  · obtain ⟨e, he, -⟩ := hasks
    exact absurd he List.not_mem_nil
  · exact ⟨_, rfl, tx, rfl, htx⟩

/--
**The handshake is asked for last, and where it must be only behind a configuration.**

Whatever the controller answers, opening the device asks for a handshake at most once and
lets nothing pass behind it.  In front of it there is the question for the chip id, and either
no answer to it, or one that holds another chip id, or one that holds the sensor's that needs
a configuration; and then a configuration that was made of the OTP in the controller's answer
and read back without an error.
-/
theorem imgBringup_handshake (m : Mbedtls τ) (pskRaw : List UInt8) :
    Emits (devWatch (wireLedger σ)).inner
      (imgBringup sys.wired (wiredSleep sleep) fuel m pskRaw) fun _ w =>
        (∃ e ∈ w, AsksHandshake e) →
          ∃ u e, w = u ++ [e] ∧ AsksHandshake e ∧ (∀ e' ∈ u, ¬ AsksHandshake e') ∧
            (NoMilang u ∨
              Then (ReadsChipId (.ok milangChipId)) (MilangWord (.ok ())) u) := by
  refine (imgBringup_sends m pskRaw).mono ?_
  rintro r w hw ⟨e, he, hasks⟩
  -- the question for the chip id asks for no handshake, so what asks is behind it
  have hbehind : ∀ {u v}, w = u ++ v → (∀ e ∈ u, ¬ AsksHandshake e) → ∃ e ∈ v, AsksHandshake e := by
    rintro u v rfl hu
    rcases List.mem_append.mp he with he | he
    · exact absurd hasks (hu e he)
    · exact ⟨e, he, hasks⟩
  rcases hw with ⟨u, _, rfl, hu, ⟨_, -, hv⟩ | ⟨_, x, y, rfl, hx, hy⟩⟩ | ⟨u, v, rfl, hu, hv⟩
  · obtain ⟨e, he, hasks⟩ := hbehind rfl (Request.quiet hu (by decide))
    exact absurd hasks (hv.quiet e he)
  · have hfront : ∀ e ∈ u ++ x, ¬ AsksHandshake e := fun e he =>
      (List.mem_append.mp he).elim (Request.quiet hu (by decide) e) (hx.quiet e)
    obtain ⟨e, rfl, hasks⟩ := hy.handshake (hbehind (List.append_assoc ..).symm hfront)
    exact ⟨u ++ x, e, (List.append_assoc ..).symm, hasks, hfront, Or.inr ⟨u, x, rfl, hu, hx⟩⟩
  · obtain ⟨⟨chipId, hread⟩, -⟩ := id hu
    have hfront := Request.quiet hread (by decide)
    obtain ⟨e, rfl, hasks⟩ := hv.handshake (hbehind rfl hfront)
    exact ⟨u, e, rfl, hasks, hfront, Or.inl hu⟩

end Handshake

instance (e : Wire) : Decidable (AsksHandshake e) :=
  match e with
  | .wrote tx => decidable_of_iff (readMsg tx = tlsServerInitMsg)
      ⟨fun h => ⟨tx, rfl, h⟩, fun ⟨_, heq, h⟩ => by cases heq; exact h⟩
  | .polled _ | .got _ => isFalse fun ⟨_, heq, _⟩ => by cases heq

/-- A sensor that answers everything is asked for the handshake behind its configuration. -/
theorem imgBringup_handshake_answered :
    ∃ st', imgBringup (answeringSys fun _ => milangReply).wired (wiredSleep id) 20 closingPeer
        (List.replicate pskLen 0x00) bringupStart = some (.ok (), st') ∧
      (∃ e ∈ st'.2.2.2, AsksHandshake e) ∧
      ∃ u e, st'.2.2.2 = u ++ [e] ∧ AsksHandshake e ∧ (∀ e' ∈ u, ¬ AsksHandshake e') ∧
        (NoMilang u ∨
          Then (ReadsChipId (.ok milangChipId)) (MilangWord (.ok ())) u) := by
  have hrun : (imgBringup (answeringSys fun _ => milangReply).wired (wiredSleep id) 20 closingPeer
      (List.replicate pskLen 0x00) bringupStart).map (fun out =>
        (out.1, decide (∃ e ∈ out.2.2.2.2, AsksHandshake e))) = some (.ok (), true) := by
    decide +kernel
  obtain ⟨⟨r, st'⟩, hst, hout⟩ := Option.map_eq_some_iff.mp hrun
  obtain ⟨rfl, hasks⟩ := Prod.mk.inj hout
  obtain ⟨-, w, hadds, hw⟩ := imgBringup_handshake closingPeer (List.replicate pskLen 0x00)
    bringupStart _ st' ⟨by decide, rfl⟩ hst
  have hlog : st'.2.2.2 = w := hadds
  have hin := of_decide_eq_true hasks
  refine ⟨st', hst, hin, ?_⟩
  rw [hlog] at hin ⊢
  exact hw hin

section Tool

variable {σ τ : Type} {sys : Sys σ} {sleep : σ → σ} {fuel : Nat}

end Tool

end Gxfp
