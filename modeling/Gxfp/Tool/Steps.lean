/-
What the operations of the demo tool do, one thing at a time.

`ToolStep` lists it: something is asked of the device, a record is taken and routed,
ciphertext is decrypted and scanned for images, the sink is emptied.  Every loop of
`gxfp_tool.c` is a chain of such steps, whatever fuel it gets and wherever it stops
(`toolCall_steps`), so that what each step keeps is kept by every call.  mbedTLS need not
be the same from one step to the next; all that is said of it is which ones it may be.

Three things are: what has been pushed is what `tool_poll` took while there was room, what
has come in is what was pushed, and the images in the sink have passed their checks.
-/
import Gxfp.Image.Sink
import Gxfp.Tls.Queue
import Gxfp.Tool.Stream
import Mathlib.Logic.Relation

namespace Gxfp

open Bytes Relation

section Steps

variable {σ τ : Type}

/-- One turn of `tool_pull_plain`: what is decrypted is scanned. -/
def Tool.pull (m : Mbedtls τ) (alloc : Nat → Bool) (t : Tool σ τ) : Tool σ τ :=
  let (r, plain, tls) := svcPullPlain m t.tls tlsRecMaxPlain
  if r = 1 then { t with tls, plain := plainScanChunks alloc plain t.plain } else { t with tls }

/-- A tool with another session, or with none; what was noted of the old one is gone. -/
def Tool.renew (tls : Option (TlsSession τ)) (t : Tool σ τ) : Tool σ τ :=
  { t with tls, taken := [], pushed := [] }

variable (M : Mbedtls τ → Prop)

/-- One thing that is done to a tool. -/
inductive ToolStep : Tool σ τ → Tool σ τ → Prop
  /-- The device is asked or told something, and the finger detection goes on. -/
  | device (t : Tool σ τ) (dev : Dev) (fdt : FdtFlow) (world : σ) :
      ToolStep t { t with dev, fdt, world }
  /-- A record is taken that the session is not fed. -/
  | take (t : Tool σ τ) (taker : Taker) (rec : TapRecord)
      (hnot : taker = .poll → rec.hdr.type ≠ mpTypeTls.toUInt32) : ToolStep t (t.take taker rec)
  /-- A record is taken that it is fed. -/
  | feed (t : Tool σ τ) (rec : TapRecord) (htype : rec.hdr.type = mpTypeTls.toUInt32) :
      ToolStep t ((t.take .poll rec).feedCipher rec.payload).2
  | handshake (t : Tool σ τ) {m : Mbedtls τ} (hm : M m) :
      ToolStep t { t with tls := (svcHandshakeStep m t.tls).2 }
  | pull (t : Tool σ τ) {m : Mbedtls τ} (hm : M m) (alloc : Nat → Bool) :
      ToolStep t (t.pull m alloc)
  /-- The sink is reset, or the image is taken out of it. -/
  | sink (t : Tool σ τ) (op : SinkOp) (hop : op.dropsNormal = true ∨ op.dropsPov = true) :
      ToolStep t { t with plain := op.apply t.plain }
  /-- The session is thrown away, and another one made if that works. -/
  | rearm (t : Tool σ τ) {tls : Option (TlsSession τ)}
      (hinit : ∀ s ∈ tls, ∃ m psk, M m ∧ tlsSessionInit m none psk = .ok s) :
      ToolStep t (t.renew tls)

/-- Any number of steps. -/
abbrev ToolSteps : Tool σ τ → Tool σ τ → Prop := ReflTransGen (ToolStep M)

variable {M} {t t' : Tool σ τ}

/-- **What every step keeps, steps keep.** -/
theorem ToolSteps.keeps {P : Tool σ τ → Prop} (hsteps : ToolSteps M t t')
    (hkeeps : ∀ t t', ToolStep M t t' → P t → P t') (h : P t) : P t' := by
  induction hsteps with
  | refl => exact h
  | tail _ hstep ih => exact hkeeps _ _ hstep ih

theorem ToolSteps.device (h : ToolSteps M t t') (dev : Dev) (fdt : FdtFlow) (world : σ) :
    ToolSteps M t { t' with dev, fdt, world } := h.tail (.device t' dev fdt world)

theorem ToolSteps.world (h : ToolSteps M t t') (world : σ) : ToolSteps M t { t' with world } :=
  h.tail (.device t' t'.dev t'.fdt world)

theorem ToolSteps.sink (h : ToolSteps M t t') (op : SinkOp)
    (hop : op.dropsNormal = true ∨ op.dropsPov = true) :
    ToolSteps M t { t' with plain := op.apply t'.plain } := h.tail (.sink t' op hop)

/-! ### The loops -/

variable {sys : Sys σ} {m : Mbedtls τ}

theorem ackWait_steps (recs : List TapRecord) (t : Tool σ τ) :
    ToolSteps M t (recs.foldl (fun t rec => t.take .ackWait rec) t) := by
  induction recs generalizing t with
  | nil => exact .refl
  | cons rec recs ih => exact .head (.take t .ackWait rec (by simp)) (ih _)

variable (sys) in
theorem toolPoll_steps (fuel : Nat) (timeoutMs : Int) (outEvents : UInt32) (t : Tool σ τ) :
    ToolSteps M t (toolPoll sys fuel timeoutMs outEvents t).2 := by
  induction fuel generalizing t timeoutMs outEvents with
  | zero => exact .refl
  | succ fuel ih =>
      unfold toolPoll
      rcases devPollReadable sys t.dev timeoutMs t.world with ⟨e | _, world⟩
      · cases e <;> exact ToolSteps.world .refl world
      dsimp only
      rcases devReadRecord sys t.dev tapCap world with ⟨e | rec, read⟩
      · cases e <;> exact ToolSteps.world .refl read
      dsimp only
      have hread : ToolSteps M t { t with world := read } := ToolSteps.world .refl read
      by_cases htype : rec.hdr.type = mpTypeTls.toUInt32
      · -- the finger detection leaves the record alone, and the session gets it
        have hnone : fdtFrame rec.hdr rec.payload = none := by
          rw [fdtFrame, if_neg]
          rw [htype]
          decide
        have hfeed := hread.tail (.feed { t with world := read } rec htype)
        have hfails : flowFails (.error .again) = none := rfl
        simp only [fdtFlowFeedRecord_none sys _ hnone, hfails, if_pos htype]
        rcases hcipher : (Tool.take { t with world := read } .poll rec).feedCipher rec.payload
          with ⟨r, fed⟩
        rw [hcipher] at hfeed
        by_cases hr : r < 0
        · rw [if_pos hr]
          exact hfeed
        · rw [if_neg hr]
          exact hfeed.trans (ih 0 _ fed)
      · have htake := hread.tail (.take { t with world := read } .poll rec fun _ => htype)
        rcases fdtFlowFeedRecord sys (Tool.take { t with world := read } .poll rec).dev
          (Tool.take { t with world := read } .poll rec).fdt rec.hdr rec.payload
          (Tool.take { t with world := read } .poll rec).world with ⟨r, events, fdt, dev, world⟩
        have hflow := ToolSteps.device htake dev fdt world
        dsimp only
        rcases flowFails r with _ | e
        · simp only [if_neg htype, if_neg (Int.lt_irrefl 0)]
          exact hflow.trans (ih 0 _ _)
        · exact hflow

theorem toolPullPlain_steps (hm : M m) (alloc : Nat → Nat → Bool) (fuel : Nat) (t : Tool σ τ) :
    ToolSteps M t (toolPullPlain m alloc fuel t).2 := by
  induction fuel generalizing t with
  | zero => exact .refl
  | succ fuel ih =>
      have hpull : ToolSteps M t (t.pull m (alloc fuel)) := .single (.pull t hm (alloc fuel))
      rw [Tool.pull] at hpull
      unfold toolPullPlain
      dsimp only at hpull ⊢
      split
      · rename_i hone
        rw [if_pos hone] at hpull
        exact hpull.trans (ih _)
      · rename_i hone
        rw [if_neg hone] at hpull
        split <;> exact hpull

theorem toolRemain_steps (deadline : Int) (t : Tool σ τ) :
    ToolSteps M t (toolRemain sys deadline t).2 := by
  unfold toolRemain
  split
  · exact ToolSteps.world .refl _
  · exact .refl

variable (sys) in
theorem toolDeadline_steps (timeoutMs : Int) (t : Tool σ τ) :
    ToolSteps M t (toolDeadline sys timeoutMs t).2 := by
  unfold toolDeadline
  split
  · exact ToolSteps.world .refl _
  · exact .refl

theorem toolWaitLoop_steps (wanted : UInt32) (deadline : Int) (poll : Nat → Nat) (fuel : Nat)
    (t : Tool σ τ) : ToolSteps M t (toolWaitLoop sys wanted deadline poll fuel t).2 := by
  induction fuel generalizing t with
  | zero => exact .refl
  | succ fuel ih =>
      have hremain : ToolSteps M t (toolRemain sys deadline t).2 := toolRemain_steps deadline t
      unfold toolWaitLoop
      generalize toolRemain sys deadline t = out at hremain ⊢
      rcases out with ⟨remain, t₁⟩
      dsimp only at hremain ⊢
      split
      · exact hremain
      · have hpoll := hremain.trans (toolPoll_steps sys (poll fuel) (min remain toolPollMs)
          fdtEventNone t₁)
        generalize toolPoll sys (poll fuel) (min remain toolPollMs) fdtEventNone t₁ = out
          at hpoll ⊢
        rcases out with ⟨_ | ⟨r, events⟩, t₂⟩
        · exact hpoll
        dsimp only at hpoll ⊢
        split
        · exact hpoll
        · split
          · exact hpoll
          · exact hpoll.trans (ih t₂)

/-- One turn of the loops that wait for an image: poll, then decrypt. -/
theorem pollPull_steps (hm : M m) (alloc : Nat → Nat → Bool) {fuel : Nat} (pull : Nat)
    {waitMs : Int} {t₁ t₂ : Tool σ τ} {r : Option (Int × UInt32)} (h : ToolSteps M t t₁)
    (hpoll : toolPoll sys fuel waitMs fdtEventNone t₁ = (r, t₂)) :
    ToolSteps M t t₂ ∧ ToolSteps M t (toolPullPlain m alloc pull t₂).2 := by
  have hpolled : ToolSteps M t t₂ := by
    have hsteps := h.trans (toolPoll_steps sys fuel waitMs fdtEventNone t₁)
    rwa [hpoll] at hsteps
  exact ⟨hpolled, hpolled.trans (toolPullPlain_steps hm alloc pull t₂)⟩

variable (sys) in
theorem toolCaptureLoop_steps (hm : M m) (alloc : Nat → Nat → Bool) (deadline : Int)
    (poll pull : Nat → Nat) (fuel : Nat) (t : Tool σ τ) :
    ToolSteps M t (toolCaptureLoop m sys alloc deadline poll pull fuel t).2 := by
  induction fuel generalizing t with
  | zero => exact .refl
  | succ fuel ih =>
      have hremain : ToolSteps M t (toolRemain sys deadline t).2 := toolRemain_steps deadline t
      unfold toolCaptureLoop
      generalize toolRemain sys deadline t = out at hremain ⊢
      rcases out with ⟨remain, t₁⟩
      dsimp only at hremain ⊢
      split
      · exact hremain
      · rcases hpoll : toolPoll sys (poll fuel) (min remain toolPollMs) fdtEventNone t₁
          with ⟨_ | ⟨r, events⟩, t₂⟩
        · exact (pollPull_steps hm alloc (pull fuel) hremain hpoll).1
        obtain ⟨hpolled, hpulled⟩ := pollPull_steps hm alloc (pull fuel) hremain hpoll
        dsimp only
        split
        · exact hpolled
        · generalize toolPullPlain m alloc (pull fuel) t₂ = out at hpulled ⊢
          rcases out with ⟨_ | r, t₃⟩
          · exact hpulled
          dsimp only at hpulled ⊢
          split
          · exact hpulled
          · split
            · exact hpulled
            · exact hpulled.trans (ih t₃)

theorem toolPovLoop_steps (hm : M m) (alloc : Nat → Nat → Bool) (deadline : Int)
    (poll pull : Nat → Nat) (fuel : Nat) (t : Tool σ τ) :
    ToolSteps M t (toolPovLoop m sys alloc deadline poll pull fuel t).2 := by
  induction fuel generalizing t with
  | zero => exact .refl
  | succ fuel ih =>
      have hclock := ToolSteps.world (.refl (r := ToolStep M) (a := t)) (monotonicMs sys t.world).2
      unfold toolPovLoop
      split
      · exact .refl
      · dsimp only
        split
        · exact hclock
        · have hclock₂ := hclock.world (monotonicMs sys (monotonicMs sys t.world).2).2
          split
          · exact hclock₂
          · rcases hpoll : toolPoll sys (poll fuel) _ fdtEventNone _ with ⟨_ | ⟨r, events⟩, t₂⟩
            · exact (pollPull_steps hm alloc (pull fuel) hclock₂ hpoll).1
            obtain ⟨hpolled, hpulled⟩ := pollPull_steps hm alloc (pull fuel) hclock₂ hpoll
            dsimp only
            split
            · exact hpolled
            · generalize toolPullPlain m alloc (pull fuel) t₂ = out at hpulled ⊢
              rcases out with ⟨_ | r, t₃⟩
              · exact hpulled
              dsimp only at hpulled ⊢
              split
              · exact hpulled
              · exact hpulled.trans (ih t₃)

/-! ### The calls -/

variable (sys) in
theorem toolWaitFinger_steps (present : Bool) (timeoutMs : Int) (fuel : ToolFuel)
    (t : Tool σ τ) : ToolSteps M t (toolWaitFinger sys present timeoutMs fuel t).2 := by
  unfold toolWaitFinger
  dsimp only
  split
  · exact ToolSteps.device .refl _ _ _
  · rename_i fdt dev world hmode
    have hset : ToolSteps M t { t with fdt, dev, world } := ToolSteps.device .refl dev fdt world
    exact (hset.trans (toolDeadline_steps sys timeoutMs _)).trans (toolWaitLoop_steps _ _ _ _ _)

theorem toolCapture_steps (hm : M m) (alloc : Nat → Nat → Bool) (extracts : Bool)
    (timeoutMs : Int) (fuel : ToolFuel) (t : Tool σ τ) :
    ToolSteps M t (toolCapture m sys alloc extracts timeoutMs fuel t).2 := by
  have hreset : ToolSteps M t { t with plain := plainSinkResetNormal t.plain } :=
    ToolSteps.sink .refl .resetNormal (Or.inl rfl)
  unfold toolCapture
  dsimp only
  split
  · rename_i dev world hsend
    exact hreset.device dev t.fdt world
  · rename_i dev world hsend
    have hdeadline := (hreset.device dev t.fdt world).trans
      (toolDeadline_steps sys timeoutMs _)
    dsimp only at hdeadline
    generalize toolDeadline sys timeoutMs
      { t with plain := plainSinkResetNormal t.plain, dev, world } = out at hdeadline ⊢
    rcases out with ⟨deadline, t₁⟩
    dsimp only at hdeadline ⊢
    have hloop := hdeadline.trans
      (toolCaptureLoop_steps sys hm alloc deadline fuel.poll fuel.pull fuel.loop t₁)
    generalize toolCaptureLoop m sys alloc deadline fuel.poll fuel.pull fuel.loop t₁ = out
      at hloop ⊢
    rcases out with ⟨_ | r, t₂⟩
    · exact hloop
    dsimp only at hloop ⊢
    split
    · exact hloop
    · exact ToolSteps.sink hloop (.extractNormal extracts) (Or.inl rfl)

variable (sys) in
theorem toolSleepCleanup_steps (fuel : Nat) (t : Tool σ τ) :
    ToolSteps M t (toolSleepCleanup sys fuel t).2 :=
  (ackWait_steps (sleepCleanupTakes sys t.dev fuel t.world).1 t).device _ _ _

theorem toolPovCapture_steps (hm : M m) (alloc : Nat → Nat → Bool) (timeoutMs : Int)
    (fuel : ToolFuel) (t : Tool σ τ) :
    ToolSteps M t (toolPovCapture m sys alloc timeoutMs fuel t).2 := by
  have hreset : ToolSteps M t { t with plain := plainSinkResetPov t.plain } :=
    ToolSteps.sink .refl .resetPov (Or.inr rfl)
  have hcleanup := hreset.trans (toolSleepCleanup_steps sys fuel.wait _)
  unfold toolPovCapture
  generalize toolSleepCleanup sys fuel.wait { t with plain := plainSinkResetPov t.plain } = out
    at hcleanup ⊢
  rcases out with ⟨_ | ⟨e | _⟩, t₁⟩
  · exact hcleanup
  · exact hcleanup
  · have hclock := ToolSteps.world hcleanup (monotonicMs sys t₁.world).2
    exact hclock.trans (toolPovLoop_steps hm _ _ _ _ _ _)

/-- **A call is a chain of steps**, as far as it gets. -/
theorem toolCall_steps (hm : M m) (c : ToolCall) (t : Tool σ τ) :
    ToolSteps M t (toolCall m sys t c).2 := by
  cases c with
  | waitFinger present timeoutMs fuel => exact toolWaitFinger_steps sys present timeoutMs fuel t
  | capture alloc extracts timeoutMs fuel =>
      exact toolCapture_steps hm alloc extracts timeoutMs fuel t
  | povCapture alloc timeoutMs fuel => exact toolPovCapture_steps hm alloc timeoutMs fuel t

/-! ### What the steps keep -/

theorem ToolStep.fed (hstep : ToolStep M t t') (h : t.Fed) : t'.Fed := by
  cases hstep with
  | device dev fdt world => exact h
  | take taker rec hnot => exact h.take hnot
  | feed rec htype => exact h.feed htype
  | handshake hm => exact h
  | pull hm alloc =>
      unfold Tool.pull
      dsimp only
      split <;> exact h
  | sink op hop => exact h
  | rearm hinit => rfl

/-- Images are stored only if they pass their checks, whoever stores them. -/
theorem ToolStep.sound (hstep : ToolStep M t t') (h : t.plain.Sound) : t'.plain.Sound := by
  cases hstep with
  | device dev fdt world => exact h
  | take taker rec hnot => exact h
  | feed rec htype => exact h
  | handshake hm => exact h
  | pull hm alloc =>
      unfold Tool.pull
      dsimp only
      split
      · exact (SinkOp.scan _ alloc).apply_sound h
      · exact h
  | sink op hop => exact op.apply_sound h
  | rearm hinit => exact h

theorem ToolSteps.sound (hsteps : ToolSteps M t t') (h : t.plain.Sound) : t'.plain.Sound :=
  hsteps.keeps (fun _ _ hstep h => hstep.sound h) h

end Steps

section HandedOver

variable {σ γ ω : Type}

/-- mbedTLS as a call finds it: the library, how it sends, and where a new context starts. -/
structure SslSetup (γ ω : Type) where
  lib : SslLibrary γ
  sendFn : ω → Nat → List UInt8 → Int × ω
  world : ω

/-- It, behind the callbacks of the backend. -/
def SslSetup.mbedtls (e : SslSetup γ ω) : Mbedtls (SslContext γ ω) :=
  e.lib.mbedtls e.sendFn e.world

/-- mbedTLS behind the callbacks, whichever it is. -/
def CallsBack (m : Mbedtls (SslContext γ ω)) : Prop := ∃ e : SslSetup γ ω, m = e.mbedtls

/-- What a session has taken in: what mbedTLS has been handed, followed by the queue. -/
def svcBytes (svc : Option (TlsSession (SslContext γ ω))) : List UInt8 :=
  svc.elim [] fun s => s.backend.bytes

/-- A queue fits its buffer. -/
def SvcFits (svc : Option (TlsSession (SslContext γ ω))) : Prop :=
  ∀ s ∈ svc, s.backend.rxq.length ≤ rxqCap

/-- What mbedTLS has been handed, followed by the queue, is what was pushed. -/
structure Tool.HandedOver (t : Tool σ (SslContext γ ω)) : Prop where
  bytes : svcBytes t.tls = t.pushed
  fits : SvcFits t.tls

variable {t t' : Tool σ (SslContext γ ω)} {m : Mbedtls (SslContext γ ω)}

theorem SvcFits.some {s : TlsSession (SslContext γ ω)} (h : s.backend.rxq.length ≤ rxqCap) :
    SvcFits (some s) := by
  intro s' hs'
  cases hs'
  exact h

/-- Feeding a session makes its queue longer by what is taken in. -/
theorem svcFeedCipher_keeps {svc : Option (TlsSession (SslContext γ ω))} (hfits : SvcFits svc)
    (rec : List UInt8) :
    svcBytes (svcFeedCipher svc rec).2 =
        svcBytes svc ++ queueGrowth (svcQueue svc) (svcQueue (svcFeedCipher svc rec).2) ∧
      SvcFits (svcFeedCipher svc rec).2 := by
  rcases svc with _ | tls
  · exact ⟨rfl, hfits⟩
  unfold svcFeedCipher
  by_cases hempty : rec.length = 0
  · simp only [if_pos hempty]
    refine ⟨?_, hfits⟩
    show tls.backend.bytes = tls.backend.bytes ++ tls.backend.rxq.drop tls.backend.rxq.length
    rw [List.drop_length, List.append_nil]
  · simp only [if_neg hempty]
    show (tlsSessionFeedCipher tls rec).2.backend.bytes = tls.backend.bytes ++
      (tlsSessionFeedCipher tls rec).2.backend.rxq.drop tls.backend.rxq.length ∧ _
    rcases tlsSessionFeedCipher_cases tls rec with ⟨-, hrxq, hmore, hle⟩ | ⟨-, hsame, -⟩
    · rw [hmore, hrxq, List.drop_left]
      exact ⟨rfl, SvcFits.some hle⟩
    · refine ⟨?_, SvcFits.some (hsame ▸ hfits tls rfl)⟩
      rw [hsame, List.drop_length, List.append_nil]

/-- A handshake takes ciphertext out of the queue, and a session keeps what it has taken in. -/
theorem svcHandshakeStep_keeps (hm : CallsBack m)
    {svc : Option (TlsSession (SslContext γ ω))} (hfits : SvcFits svc) :
    svcBytes (svcHandshakeStep m svc).2 = svcBytes svc ∧ SvcFits (svcHandshakeStep m svc).2 := by
  obtain ⟨e, rfl⟩ := hm
  rcases svc with _ | s
  · exact ⟨rfl, hfits⟩
  · have hrun := TlsOp.handshakeStep.run_bytes e.lib e.sendFn e.world (hfits s rfl)
    rw [TlsOp.fed, ite_self, List.append_nil] at hrun
    exact ⟨hrun.1, SvcFits.some hrun.2.1⟩

theorem svcPullPlain_keeps (hm : CallsBack m) {svc : Option (TlsSession (SslContext γ ω))}
    (hfits : SvcFits svc) (cap : Nat) :
    svcBytes (svcPullPlain m svc cap).2.2 = svcBytes svc ∧
      SvcFits (svcPullPlain m svc cap).2.2 := by
  obtain ⟨e, rfl⟩ := hm
  rcases svc with _ | s
  · exact ⟨rfl, hfits⟩
  unfold svcPullPlain
  dsimp only
  by_cases hcap : cap = 0
  · rw [if_pos hcap]
    exact ⟨rfl, hfits⟩
  · rw [if_neg hcap]
    have hrun := (TlsOp.pullPlain cap).run_bytes e.lib e.sendFn e.world (hfits s rfl)
    rw [TlsOp.fed, ite_self, List.append_nil] at hrun
    exact ⟨hrun.1, SvcFits.some hrun.2.1⟩

/-- A session that has just been made has taken in nothing. -/
theorem svcBytes_init {svc : Option (TlsSession (SslContext γ ω))}
    (hinit : ∀ s ∈ svc, ∃ m psk, CallsBack m ∧ tlsSessionInit m none psk = .ok s) :
    svcBytes svc = [] ∧ SvcFits svc := by
  rcases svc with _ | s
  · exact ⟨rfl, nofun⟩
  obtain ⟨_, psk, ⟨e, rfl⟩, hs⟩ := hinit s rfl
  obtain ⟨-, hrxq, hreceived⟩ := tlsSessionInit_empty hs
  constructor
  · show s.backend.ssl.received ++ s.backend.rxq = []
    rw [hrxq, hreceived, List.append_nil]
  · refine SvcFits.some ?_
    rw [hrxq]
    exact Nat.zero_le _

/-- **Whatever is done, the ciphertext is handed over in order and once.** -/
theorem ToolStep.handedOver (hstep : ToolStep CallsBack t t') (h : t.HandedOver) :
    t'.HandedOver := by
  cases hstep with
  | device dev fdt world => exact ⟨h.bytes, h.fits⟩
  | take taker rec hnot => exact ⟨h.bytes, h.fits⟩
  | feed rec htype =>
      obtain ⟨hbytes, hfits⟩ := svcFeedCipher_keeps h.fits rec.payload
      rw [h.bytes] at hbytes
      exact ⟨hbytes, hfits⟩
  | handshake hm =>
      obtain ⟨hbytes, hfits⟩ := svcHandshakeStep_keeps hm h.fits
      exact ⟨hbytes.trans h.bytes, hfits⟩
  | pull hm alloc =>
      obtain ⟨hbytes, hfits⟩ := svcPullPlain_keeps hm h.fits tlsRecMaxPlain
      unfold Tool.pull
      dsimp only
      split <;> exact ⟨hbytes.trans h.bytes, hfits⟩
  | sink op hop => exact ⟨h.bytes, h.fits⟩
  | rearm hinit => exact ⟨(svcBytes_init hinit).1, (svcBytes_init hinit).2⟩

end HandedOver

end Gxfp
