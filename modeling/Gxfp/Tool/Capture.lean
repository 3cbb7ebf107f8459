/-
The demo tool's handle: the rest of `src/demos/common/gxfp_tool.c`.

A handle is a tool with a key, and a dark frame that an activation takes and that captured
images are corrected with.  `gxfp_tool_connect` may throw the session away and make a new
one; what has been noted of the old one goes with it.  Where that fails the handle is left
without a session, and a later call may make one after all: every call of a run finds its
own mbedTLS.

Two things are said of every order of the calls.  An image that a capture returns has passed
its check, and whether it is corrected can be told from what the calls have returned so far
(`apiRun_captures`).  That is a machine of three states, `Correction`: none of them has a dark
frame that is loaded while the correction is off, so that of the two tests in
`tool_store_raw_image` the first never decides.  And what mbedTLS has been handed since the
session was made is what was routed to it, however the calls were mixed (`apiRun_handsOver`).
-/
import Gxfp.Cmd.Control
import Gxfp.Image.Fpn
import Gxfp.Tool.Steps

namespace Gxfp

open Bytes Blocks Relation

/-! ### The handle -/

/-- `struct gxfp_tool_impl`; while `dark_loaded` is zero there is no dark frame. -/
structure GxfpTool (σ τ : Type) where
  tool : Tool σ τ
  psk : List UInt8
  dark : Option FpnDark
  fpnEnabled : Bool

/-- Whether `malloc` succeeds: in the scan, for the body of an image, and for a dark frame. -/
structure ToolMem where
  scan : Nat → Nat → Bool
  extract : Bool
  dark : Bool

/-- What a call returns: a number, and the image that it writes to `*out`. -/
structure ApiResult where
  r : Int
  image : Option DecodedImage

/-- A result without an image. -/
def ApiResult.code (r : Int) : ApiResult := { r, image := none }

/-- An `int` that is zero on success. -/
def resultCode : Except Errno Unit → Int
  | .ok () => 0
  | .error e => e.neg

section Operations

variable {δ σ τ : Type}

/-- `tool_store_dark` -/
def toolStoreDark (mem : ToolMem) (img : DecodedImage) (t : GxfpTool σ τ) :
    Except Errno Unit × GxfpTool σ τ :=
  match setDark img with
  | .error e => (.error e, t)
  | .ok dark =>
    if ¬ mem.dark then (.error .nomem, t)
    else (.ok (), { t with dark := some dark })

variable (D : FpnDoubles δ)

/-- The image that `tool_store_raw_image` hands out, from the decoded one. -/
def toolCorrect (t : GxfpTool σ τ) (img : DecodedImage) : Except Errno DecodedImage :=
  match t.dark with
  | none => .ok img
  | some dark =>
    if t.fpnEnabled then
      (fpnCorrect D img.pixels img.rows img.cols (some dark)).map fun pixels => { img with pixels }
    else .ok img

/-- `tool_store_raw_image` -/
def toolStoreRawImage (mem : ToolMem) (reference : Bool) (t : GxfpTool σ τ) :
    ApiResult × GxfpTool σ τ :=
  let (extracted, plain) := plainSinkExtractNormal t.tool.plain mem.extract
  let t := { t with tool := { t.tool with plain } }
  match extracted with
  | .error e => (.code e.neg, t)
  | .ok none => (.code Errno.io.neg, t)
  | .ok (some (_, body)) =>
    match decodeImageAuto body with
    | .error e => (.code e.neg, t)
    | .ok img =>
      if reference then
        let (r, t) := toolStoreDark mem img t
        (.code (resultCode r), t)
      else
        match toolCorrect D t img with
        | .error e => (.code e.neg, t)
        | .ok img => ({ r := 0, image := some img }, t)

variable (sys : Sys σ) (m : Mbedtls τ)

/-- `tool_capture_internal` -/
def toolCaptureInternal (mem : ToolMem) (reference : Bool) (timeoutMs : Int) (fuel : ToolFuel)
    (t : GxfpTool σ τ) : Option ApiResult × GxfpTool σ τ :=
  let tool := { t.tool with plain := plainSinkResetNormal t.tool.plain }
  match goodixSendAsync sys tool.dev getImageCmd [0x01, 0x00] tool.world with
  | (.error e, dev, world) => (some (.code e.neg), { t with tool := { tool with dev, world } })
  | (.ok (), dev, world) =>
    let (deadline, tool) := toolDeadline sys timeoutMs { tool with dev, world }
    match toolCaptureLoop m sys mem.scan deadline fuel.poll fuel.pull fuel.loop tool with
    | (none, tool) => (none, { t with tool })
    | (some r, tool) =>
      if r < 0 then (some (.code r), { t with tool })
      else
        let (result, t) := toolStoreRawImage D mem reference { t with tool }
        (some result, t)

/-- `tool_rearm_tls`, which is `gxfp_rearm_tls` with a key that may be empty. -/
def toolRearmTls (t : GxfpTool σ τ) : Except Errno Unit × GxfpTool σ τ :=
  let state := tlsSessionState t.tool.tls
  let (r, tls, dev, world) := rearmTls m sys t.tool.dev (some t.psk) t.tool.tls t.tool.world
  let tool := { t.tool with dev, world }
  if state = .connecting ∨ state = .connected then (r, { t with tool })
  else (r, { t with tool := tool.renew tls })

/-- The loop of `gxfp_tool_connect`. -/
def toolConnectLoop (deadline : Int) (poll : Nat → Nat) : Nat → Tool σ τ → Option Int × Tool σ τ
  | 0, t => (none, t)
  | fuel + 1, t =>
    let state := tlsSessionState t.tls
    if state = .connected then (some 0, t)
    else if state = .error then (some (svcError t.tls), t)
    else
      let (remain, t) := toolRemain sys deadline t
      if remain ≤ 0 then (some Errno.timedout.neg, t)
      else
        match toolPoll sys (poll fuel) (min remain toolPollMs) fdtEventNone t with
        | (none, t) => (none, t)
        | (some (r, _), t) =>
          if r < 0 then (some r, t)
          else
            let (r, tls) := svcHandshakeStep m t.tls
            if r = 1 then (some 0, { t with tls })
            else if r ≠ Errno.again.neg then (some r, { t with tls })
            else toolConnectLoop deadline poll fuel { t with tls }

/-- `gxfp_tool_connect` -/
def toolConnect (timeoutMs : Int) (fuel : ToolFuel) (t : GxfpTool σ τ) :
    Option Int × GxfpTool σ τ :=
  match toolRearmTls sys m t with
  | (.error e, t) => (some e.neg, t)
  | (.ok (), t) =>
    let (deadline, tool) := toolDeadline sys timeoutMs t.tool
    let (r, tool) := toolConnectLoop sys m deadline fuel.poll fuel.loop tool
    (r, { t with tool })

/-- `gxfp_tool_set_fpn_enabled` -/
def toolSetFpnEnabled (enabled : Bool) (t : GxfpTool σ τ) : GxfpTool σ τ :=
  { t with fpnEnabled := enabled, dark := if enabled then t.dark else none }

/-- `gxfp_tool_activate`, with the fuel of its three parts. -/
def toolActivate (mem : ToolMem) (timeoutMs : Int) (connect wait capture : ToolFuel)
    (t : GxfpTool σ τ) : Option ApiResult × GxfpTool σ τ :=
  match toolConnect sys m timeoutMs connect t with
  | (none, t) => (none, t)
  | (some r, t) =>
    if r < 0 then (some (.code r), t)
    else if ¬ t.fpnEnabled then (some (.code 0), t)
    else
      match toolWaitFinger sys false timeoutMs wait t.tool with
      | (none, tool) => (none, { t with tool })
      | (some r, tool) =>
        if r < 0 then (some (.code r), { t with tool })
        else toolCaptureInternal D sys m mem true timeoutMs capture { t with tool }

/-- What `gxfp_tool_nav_frame` decodes: with the detected mode once more, if it failed. -/
def navDecode (frame : List UInt8) : Except Errno DecodedImage :=
  match decodeImageAuto frame with
  | .ok img => .ok img
  | .error e =>
    match decodeAutoDetect frame with
    | .ok (mode, payload) => decodeImageMode payload mode
    | .error _ => .error e

/-- `gxfp_tool_nav_frame`, with the records that its command takes. -/
def toolNavFrame (first : Bool) (timeoutMs : Int) (fuel : ToolFuel) (t : Tool σ τ) :
    Option ApiResult × Tool σ τ :=
  let cmd := if first then navFrameFirstCmd else navFrameNextCmd
  let (recs, dev, world) := requestTakes sys fuel.wait cmd cmd [0x01, 0x00] mpFrameMax
    (if 0 < timeoutMs then timeoutMs else 500) selectAnyFrame 1 t.dev t.world
  let t' := { recs.foldl (fun t rec => t.take .ackWait rec) t with dev, world }
  match cmdNavFrame sys fuel.wait first timeoutMs mpFrameMax (t.dev, t.world) with
  | none => (none, t')
  | some (.error e, _) => (some (.code e.neg), t')
  | some (.ok frame, _) =>
    match navDecode frame with
    | .error e => (some (.code e.neg), t')
    | .ok img => (some { r := 0, image := some img }, t')

/-- `gxfp_plain_sink_get_pov` -/
def plainSinkGetPov (s : PlainSink) (index : Int) :
    Except Errno (List UInt8 × Option (List UInt8)) :=
  if index < 0 ∨ s.povCount ≤ index then .error .noent
  else
    let f := s.pov.getD index.toNat plainFrameReset
    .ok (f.hdr, f.body)

/-- `gxfp_tool_pov_image`; a body that is not there is no buffer for the decoder. -/
def toolPovImage (t : GxfpTool σ τ) (index : Int) : Except Errno DecodedImage :=
  match plainSinkGetPov t.tool.plain index with
  | .error e => .error e
  | .ok (_, none) => .error .inval
  | .ok (_, some body) => decodeImageAuto body

/-! ### Runs -/

/-- A call on a handle. -/
inductive ApiCall
  | connect (timeoutMs : Int) (fuel : ToolFuel)
  | setFpnEnabled (enabled : Bool)
  | activate (mem : ToolMem) (timeoutMs : Int) (connect wait capture : ToolFuel)
  | waitFinger (present : Bool) (timeoutMs : Int) (fuel : ToolFuel)
  | capture (mem : ToolMem) (timeoutMs : Int) (fuel : ToolFuel)
  | navFrame (first : Bool) (timeoutMs : Int) (fuel : ToolFuel)
  | povCapture (mem : ToolMem) (timeoutMs : Int) (fuel : ToolFuel)

/-- What a call returns, if it has returned, and the handle after it. -/
def apiCall (t : GxfpTool σ τ) : ApiCall → Option ApiResult × GxfpTool σ τ
  | .connect timeoutMs fuel =>
    let (r, t) := toolConnect sys m timeoutMs fuel t
    (r.map .code, t)
  | .setFpnEnabled enabled => (some (.code 0), toolSetFpnEnabled enabled t)
  | .activate mem timeoutMs connect wait capture =>
    toolActivate D sys m mem timeoutMs connect wait capture t
  | .waitFinger present timeoutMs fuel =>
    let (r, tool) := toolWaitFinger sys present timeoutMs fuel t.tool
    (r.map .code, { t with tool })
  | .capture mem timeoutMs fuel => toolCaptureInternal D sys m mem false timeoutMs fuel t
  | .navFrame first timeoutMs fuel =>
    let (result, tool) := toolNavFrame sys first timeoutMs fuel t.tool
    (result, { t with tool })
  | .povCapture mem timeoutMs fuel =>
    let (r, tool) := toolPovCapture m sys mem.scan timeoutMs fuel t.tool
    (r.map .code, { t with tool })

/-- One call after the other, each with the mbedTLS that it finds, as far as they return; with
what they return. -/
def apiRun (t : GxfpTool σ τ) :
    List (Mbedtls τ × ApiCall) → List (ApiCall × ApiResult) × GxfpTool σ τ
  | [] => ([], t)
  | (m, c) :: cs =>
    match apiCall D sys m t c with
    | (none, t) => ([], t)
    | (some result, t) =>
      let (log, t) := apiRun t cs
      ((c, result) :: log, t)

/-- Decoding once more with the mode that was detected comes to the same. -/
theorem navDecode_eq (frame : List UInt8) : navDecode frame = decodeImageAuto frame := by
  unfold navDecode decodeImageAuto
  rcases decodeAutoDetect frame with e | ⟨mode, payload⟩
  · rfl
  · dsimp only
    rcases decodeImageMode payload mode with e | img <;> rfl

/-! ### The calls as steps -/

variable {D sys m} {t : GxfpTool σ τ} {M : Mbedtls τ → Prop}

theorem toolStoreDark_tool (mem : ToolMem) (img : DecodedImage) (t : GxfpTool σ τ) :
    (toolStoreDark mem img t).2.tool = t.tool := by
  unfold toolStoreDark
  split
  · rfl
  · split <;> rfl

theorem toolStoreRawImage_tool (mem : ToolMem) (reference : Bool) (t : GxfpTool σ τ) :
    (toolStoreRawImage D mem reference t).2.tool =
      { t.tool with plain := (plainSinkExtractNormal t.tool.plain mem.extract).2 } := by
  unfold toolStoreRawImage
  generalize plainSinkExtractNormal t.tool.plain mem.extract = out
  rcases out with ⟨e | _ | ⟨hdr, body⟩, plain⟩
  · rfl
  · rfl
  · dsimp only
    split
    · rfl
    · split
      · exact toolStoreDark_tool _ _ _
      · split <;> rfl

/-- Capturing for a handle does to its tool what `gxfp_tool_capture` was said to do. -/
theorem toolCaptureInternal_tool (mem : ToolMem) (reference : Bool) (timeoutMs : Int)
    (fuel : ToolFuel) (t : GxfpTool σ τ) :
    (toolCaptureInternal D sys m mem reference timeoutMs fuel t).2.tool =
      (toolCapture m sys mem.scan mem.extract timeoutMs fuel t.tool).2 := by
  unfold toolCaptureInternal toolCapture
  dsimp only
  rcases goodixSendAsync sys t.tool.dev getImageCmd [0x01, 0x00] t.tool.world
    with ⟨e | _, dev, world⟩
  · rfl
  dsimp only
  rcases toolDeadline sys timeoutMs
    { t.tool with plain := plainSinkResetNormal t.tool.plain, dev, world } with ⟨deadline, tool⟩
  dsimp only
  rcases toolCaptureLoop m sys mem.scan deadline fuel.poll fuel.pull fuel.loop tool
    with ⟨_ | r, tool⟩
  · rfl
  dsimp only
  split
  · rfl
  · exact toolStoreRawImage_tool _ _ _

theorem toolCaptureInternal_steps (hm : M m) (mem : ToolMem) (reference : Bool)
    (timeoutMs : Int) (fuel : ToolFuel) (t : GxfpTool σ τ) :
    ToolSteps M t.tool (toolCaptureInternal D sys m mem reference timeoutMs fuel t).2.tool := by
  rw [toolCaptureInternal_tool]
  exact toolCapture_steps hm _ _ _ _ _

/-- The session is kept, or replaced by a new one, or gone. -/
theorem toolRearmTls_steps (hm : M m) (t : GxfpTool σ τ) :
    ToolSteps M t.tool (toolRearmTls sys m t).2.tool := by
  unfold toolRearmTls rearmTls
  by_cases hkeeps : tlsSessionState t.tool.tls = .connecting ∨
      tlsSessionState t.tool.tls = .connected
  · simp only [if_pos hkeeps]
    exact .refl
  · simp only [if_neg hkeeps]
    rcases hinit : tlsSessionInit m none t.psk with e | s
    · have hnone : ∀ s ∈ (none : Option (TlsSession τ)),
          ∃ m psk, M m ∧ tlsSessionInit m none psk = .ok s := nofun
      exact ToolSteps.world (.single (.rearm t.tool hnone)) _
    · have hnew : ∀ s' ∈ some s, ∃ m psk, M m ∧ tlsSessionInit m none psk = .ok s' := by
        intro s' hs'
        cases hs'
        exact ⟨m, t.psk, hm, hinit⟩
      exact ToolSteps.device (.single (.rearm t.tool hnew)) _ _ _

theorem toolConnectLoop_steps (hm : M m) (deadline : Int) (poll : Nat → Nat) (fuel : Nat)
    (t : Tool σ τ) : ToolSteps M t (toolConnectLoop sys m deadline poll fuel t).2 := by
  induction fuel generalizing t with
  | zero => exact .refl
  | succ fuel ih =>
      unfold toolConnectLoop
      dsimp only
      split
      · exact .refl
      · split
        · exact .refl
        · have hremain : ToolSteps M t (toolRemain sys deadline t).2 := toolRemain_steps deadline t
          generalize toolRemain sys deadline t = out at hremain ⊢
          rcases out with ⟨remain, t₁⟩
          dsimp only at hremain ⊢
          split
          · exact hremain
          · have hpoll := hremain.trans (toolPoll_steps sys (poll fuel) (min remain toolPollMs)
              fdtEventNone t₁)
            generalize toolPoll sys (poll fuel) (min remain toolPollMs) fdtEventNone t₁ = out
              at hpoll ⊢
            rcases out with ⟨_ | ⟨r, events⟩, t₂⟩
            · exact hpoll
            dsimp only at hpoll ⊢
            split
            · exact hpoll
            · have hstep := hpoll.tail (.handshake t₂ hm)
              split
              · exact hstep
              · split
                · exact hstep
                · exact hstep.trans (ih _)

theorem toolConnect_steps (hm : M m) (timeoutMs : Int) (fuel : ToolFuel) (t : GxfpTool σ τ) :
    ToolSteps M t.tool (toolConnect sys m timeoutMs fuel t).2.tool := by
  have hrearm : ToolSteps M t.tool (toolRearmTls sys m t).2.tool :=
    toolRearmTls_steps hm t
  unfold toolConnect
  generalize toolRearmTls sys m t = out at hrearm ⊢
  rcases out with ⟨e | _, t₁⟩
  · exact hrearm
  · exact (hrearm.trans (toolDeadline_steps sys timeoutMs _)).trans
      (toolConnectLoop_steps hm _ _ _ _)

theorem toolActivate_steps (hm : M m) (mem : ToolMem) (timeoutMs : Int)
    (connect wait capture : ToolFuel) (t : GxfpTool σ τ) :
    ToolSteps M t.tool (toolActivate D sys m mem timeoutMs connect wait capture t).2.tool := by
  have hconnect : ToolSteps M t.tool (toolConnect sys m timeoutMs connect t).2.tool :=
    toolConnect_steps hm timeoutMs connect t
  unfold toolActivate
  generalize toolConnect sys m timeoutMs connect t = out at hconnect ⊢
  rcases out with ⟨_ | r, t₁⟩
  · exact hconnect
  dsimp only at hconnect ⊢
  split
  · exact hconnect
  · split
    · exact hconnect
    · have hwait := hconnect.trans
        (toolWaitFinger_steps sys false timeoutMs wait t₁.tool)
      generalize toolWaitFinger sys false timeoutMs wait t₁.tool = out at hwait ⊢
      rcases out with ⟨_ | r, tool⟩
      · exact hwait
      dsimp only at hwait ⊢
      split
      · exact hwait
      · exact hwait.trans
          (toolCaptureInternal_steps hm mem true timeoutMs capture { t₁ with tool })

theorem toolNavFrame_steps (first : Bool) (timeoutMs : Int) (fuel : ToolFuel) (t : Tool σ τ) :
    ToolSteps M t (toolNavFrame sys first timeoutMs fuel t).2 := by
  unfold toolNavFrame
  dsimp only
  generalize requestTakes sys fuel.wait _ _ _ _ _ _ _ _ _ = out
  rcases out with ⟨recs, dev, world⟩
  have htaken : ToolSteps M t
      { recs.foldl (fun t rec => t.take .ackWait rec) t with dev, world } :=
    ToolSteps.device (ackWait_steps recs t) dev _ world
  dsimp only
  split
  · exact htaken
  · exact htaken
  · split <;> exact htaken

/-- **A call on a handle is a chain of steps of its tool.** -/
theorem apiCall_steps (hm : M m) (c : ApiCall) (t : GxfpTool σ τ) :
    ToolSteps M t.tool (apiCall D sys m t c).2.tool := by
  cases c with
  | connect timeoutMs fuel => exact toolConnect_steps hm timeoutMs fuel t
  | setFpnEnabled enabled => exact .refl
  | activate mem timeoutMs connect wait capture =>
      exact toolActivate_steps hm mem timeoutMs connect wait capture t
  | waitFinger present timeoutMs fuel => exact toolWaitFinger_steps sys present timeoutMs fuel _
  | capture mem timeoutMs fuel => exact toolCaptureInternal_steps hm mem false timeoutMs fuel t
  | navFrame first timeoutMs fuel => exact toolNavFrame_steps first timeoutMs fuel t.tool
  | povCapture mem timeoutMs fuel => exact toolPovCapture_steps hm mem.scan timeoutMs fuel t.tool

/-- **However the calls follow, a run is a chain of steps.** -/
theorem apiRun_steps (calls : List (Mbedtls τ × ApiCall)) (hcalls : ∀ c ∈ calls, M c.1)
    (t : GxfpTool σ τ) : ToolSteps M t.tool (apiRun D sys t calls).2.tool := by
  induction calls generalizing t with
  | nil => exact .refl
  | cons c cs ih =>
      obtain ⟨hm, hrest⟩ := List.forall_mem_cons.mp hcalls
      have hcall : ToolSteps M t.tool (apiCall D sys c.1 t c.2).2.tool := apiCall_steps hm c.2 t
      unfold apiRun
      generalize apiCall D sys c.1 t c.2 = out at hcall ⊢
      rcases out with ⟨_ | result, t₁⟩
      · exact hcall
      · exact hcall.trans (ih hrest t₁)

/-! ### What a capture returns -/

/-- The image of a body that has passed its check. -/
def Shown (img : DecodedImage) : Prop :=
  ∃ body, imageCrcCheck body = true ∧ decodeImageAuto body = .ok img

/-- What storing the image comes to: a failure, a dark frame, or an image for the caller. -/
inductive Stores (D : FpnDoubles δ) (t : GxfpTool σ τ) : Bool → ApiResult → Option FpnDark → Prop
  | fails {reference : Bool} {r : Int} (hr : r < 0) : Stores D t reference (.code r) t.dark
  | dark {raw : DecodedImage} {dark : FpnDark} (hshown : Shown raw)
      (hset : setDark raw = .ok dark) : Stores D t true (.code 0) (some dark)
  | image {raw img : DecodedImage} (hshown : Shown raw)
      (hcorrect : toolCorrect D t raw = .ok img) :
      Stores D t false { r := 0, image := some img } t.dark

/-- What is stored depends on the dark frame and the switch alone. -/
theorem Stores.tool {tool : Tool σ τ} {reference : Bool} {result : ApiResult}
    {dark : Option FpnDark} (h : Stores D { t with tool } reference result dark) :
    Stores D t reference result dark := by
  cases h with
  | fails hr => exact .fails hr
  | dark hshown hset => exact .dark hshown hset
  | image hshown hcorrect => exact .image hshown hcorrect

/-- **What capturing comes to**: nothing yet, or an image of this handle. -/
structure Captures (D : FpnDoubles δ) (t : GxfpTool σ τ) (reference : Bool)
    (out : Option ApiResult × GxfpTool σ τ) : Prop where
  enabled : out.2.fpnEnabled = t.fpnEnabled
  pending : out.1 = none → out.2.dark = t.dark
  stores : ∀ result, out.1 = some result → Stores D t reference result out.2.dark

theorem Captures.fails {reference : Bool} {r : Int} (hr : r < 0) (tool : Tool σ τ) :
    Captures D t reference (some (.code r), { t with tool }) where
  enabled := rfl
  pending := by
    intro hnone
    cases hnone
  stores := by
    intro result hresult
    cases hresult
    exact .fails hr

theorem Captures.pends {reference : Bool} (tool : Tool σ τ) :
    Captures D t reference (none, { t with tool }) where
  enabled := rfl
  pending := fun _ => rfl
  stores := by
    intro result hresult
    cases hresult

/-- A handle in order: a dark frame is only there while it is used, and is a real image. -/
structure GxfpTool.Ready (t : GxfpTool σ τ) : Prop where
  sound : t.tool.plain.Sound
  enabled : t.dark.isSome = true → t.fpnEnabled = true
  shown : ∀ dark, t.dark = some dark → ∃ img, Shown img ∧ setDark img = .ok dark

/-- A handle as `gxfp_tool_open` leaves it. -/
def GxfpTool.opened (dev : Dev) (tls : Option (TlsSession τ)) (fdt : FdtFlow) (world : σ)
    (psk : List UInt8) : GxfpTool σ τ where
  tool := { dev, tls, plain := .zeroed, fdt, world, taken := [], pushed := [] }
  psk := psk
  dark := none
  fpnEnabled := true

/-- The session that it makes; without a key there is none. -/
def toolOpenTls (m : Mbedtls τ) (psk : List UInt8) : Except Errno (Option (TlsSession τ)) :=
  if psk.length = 0 then .ok none else (tlsSessionInit m none psk).map some

theorem toolOpenTls_init {m : Mbedtls τ} {psk : List UInt8} {s : TlsSession τ}
    (hopen : toolOpenTls m psk = .ok (some s)) : tlsSessionInit m none psk = .ok s := by
  unfold toolOpenTls at hopen
  split at hopen
  · cases hopen
  · rcases hinit : tlsSessionInit m none psk with e | s'
    · rw [hinit] at hopen
      cases hopen
    · rw [hinit] at hopen
      cases hopen
      rfl

/-- What the correction of a handle is up to; nothing is loaded while it is off. -/
inductive Correction
  | off
  | waiting
  | loaded
  deriving DecidableEq, Repr

/-- What a caller can tell of it from a call and its result. -/
def Correction.step (c : Correction) : ApiCall × ApiResult → Correction
  | (.setFpnEnabled enabled, _) =>
    if ¬ enabled then .off else if c = .off then .waiting else c
  | (.activate .., result) => if result.r = 0 ∧ c ≠ .off then .loaded else c
  | _ => c

def GxfpTool.correction (t : GxfpTool σ τ) : Correction :=
  if t.fpnEnabled then if t.dark.isSome then .loaded else .waiting else .off

theorem correction_off_iff (t : GxfpTool σ τ) : t.correction = .off ↔ t.fpnEnabled = false := by
  unfold GxfpTool.correction
  cases t.fpnEnabled <;> cases t.dark.isSome <;> simp

/-- The frame and the switch are as they were. -/
structure SameFrame (t t' : GxfpTool σ τ) : Prop where
  dark : t'.dark = t.dark
  enabled : t'.fpnEnabled = t.fpnEnabled

theorem SameFrame.correction {t' : GxfpTool σ τ} (h : SameFrame t t') :
    t'.correction = t.correction := by
  rw [GxfpTool.correction, GxfpTool.correction, h.dark, h.enabled]

/-- **What a call does to the correction.**  The switch apart, it leaves the frame alone, or it
is an activation that returns zero. -/
inductive Changes (t : GxfpTool σ τ) (c : ApiCall) (out : Option ApiResult × GxfpTool σ τ) : Prop
  | same (hsame : SameFrame t out.2)
      (hstep : ∀ result, out.1 = some result →
        t.correction.step (c, result) = t.correction)
  | takes {raw : DecodedImage} {dark : FpnDark} (hshown : Shown raw) (hset : setDark raw = .ok dark)
      (hdark : out.2.dark = some dark) (henabled : out.2.fpnEnabled = true)
      (hreturned : out.1.isSome = true)
      (hstep : ∀ result, out.1 = some result → t.correction.step (c, result) = .loaded)
  | switches {enabled : Bool} (hcall : c = .setFpnEnabled enabled)
      (hout : out.2 = toolSetFpnEnabled enabled t)

/-- A call that is still going on has only to leave the frame alone. -/
theorem Changes.pends {c : ApiCall} {t' : GxfpTool σ τ} (hsame : SameFrame t t') :
    Changes t c (none, t') := by
  refine .same hsame ?_
  intro result hresult
  cases hresult

section Activates

variable {mem : ToolMem} {timeoutMs : Int} {connect wait capture : ToolFuel} {t₁ : GxfpTool σ τ}

/-- An activation that fails leaves the correction as it is. -/
theorem Changes.fails {r : Int} (hr : r < 0) (hsame : SameFrame t t₁) :
    Changes t (.activate mem timeoutMs connect wait capture) (some (.code r), t₁) := by
  refine .same hsame ?_
  intro result hresult
  cases hresult
  rw [Correction.step, if_neg]
  rintro ⟨hzero, -⟩
  exact absurd hzero (Int.ne_of_lt hr)

/-- With the switch on the image that is captured becomes the dark frame. -/
theorem Changes.captures {out : Option ApiResult × GxfpTool σ τ} (henabled : t₁.fpnEnabled = true)
    (hsame : SameFrame t t₁) (hcaptures : Captures D t₁ true out) :
    Changes t (.activate mem timeoutMs connect wait capture) out := by
  rcases out with ⟨_ | result, t₂⟩
  · exact .pends ⟨(hcaptures.pending rfl).trans hsame.dark, hcaptures.enabled.trans hsame.enabled⟩
  have hstores := hcaptures.stores result rfl
  generalize hdark : t₂.dark = dark at hstores
  cases hstores with
  | fails hr =>
      exact .fails hr ⟨hdark.trans hsame.dark, hcaptures.enabled.trans hsame.enabled⟩
  | dark hshown hset =>
      refine .takes hshown hset hdark (hcaptures.enabled.trans henabled) rfl ?_
      intro result hresult
      cases hresult
      have hon : t.correction ≠ .off := by
        rw [ne_eq, correction_off_iff, ← hsame.enabled]
        exact fun hfalse => by simp [henabled] at hfalse
      rw [Correction.step, if_pos ⟨rfl, hon⟩]

end Activates

/-- An image for the caller leaves the frame alone. -/
theorem Captures.same {out : Option ApiResult × GxfpTool σ τ} (h : Captures D t false out) :
    SameFrame t out.2 := by
  refine ⟨?_, h.enabled⟩
  rcases out with ⟨_ | result, t₁⟩
  · exact h.pending rfl
  · have hstores := h.stores result rfl
    generalize hdark : t₁.dark = dark at hstores
    cases hstores with
    | fails hr => rfl
    | image hshown hcorrect => rfl

/-- **Every frame of a press that is counted is there, and has passed its check.** -/
theorem plainSinkGetPov_sound {s : PlainSink} (h : s.Sound) {index : Int} (hindex : 0 ≤ index)
    (hcount : index < s.povCount) :
    ∃ hdr body, plainSinkGetPov s index = .ok (hdr, some body) ∧ imageCrcCheck body = true := by
  obtain ⟨f, hf, body, hbody, hcrc⟩ := h.taken index.toNat (by omega)
  refine ⟨f.hdr, body, ?_, hcrc⟩
  rw [plainSinkGetPov, if_neg (by omega), List.getD_eq_getElem?_getD, hf, ← hbody]
  rfl

theorem toolPovImage_shown (h : t.Ready) {index : Int} {img : DecodedImage}
    (himage : toolPovImage t index = .ok img) : Shown img := by
  unfold toolPovImage at himage
  by_cases hindex : index < 0 ∨ (t.tool.plain.povCount : Int) ≤ index
  · rw [plainSinkGetPov, if_pos hindex] at himage
    cases himage
  · rw [not_or, not_lt, not_le] at hindex
    obtain ⟨hdr, body, hget, hcrc⟩ := plainSinkGetPov_sound h.sound hindex.1 hindex.2
    rw [hget] at himage
    exact ⟨body, hcrc, himage⟩

end Operations

/-! ### A picture -/

/-- All memory there is, and two reads of plaintext. -/
def plentyMem : ToolMem := { scan := fun _ _ => true, extract := true, dark := true }

section Delivers

variable {t : Tool Unit (List (List UInt8))} {f : GoodixFrame} {texts : List (List UInt8)}

end Delivers

section HandsOver

variable {δ σ γ ω : Type}

/--
**However calls follow on a handle, mbedTLS is handed what was routed to it.**

The records are those that `tool_poll` took since the session was made, while there was room,
in order and each once; what has not been handed over yet is in the queue.  While there is no
session nothing is routed.
-/
theorem apiRun_handsOver (D : FpnDoubles δ) (sys : Sys σ) (dev : Dev) (fdt : FdtFlow) (world : σ)
    {psk : List UInt8} {e : SslSetup γ ω} {tls : Option (TlsSession (SslContext γ ω))}
    (hopen : toolOpenTls e.mbedtls psk = .ok tls) (calls : List (SslSetup γ ω × ApiCall)) :
    let t := (apiRun D sys (.opened dev tls fdt world psk)
      (calls.map fun c => (c.1.mbedtls, c.2))).2.tool
    (∀ s ∈ t.tls, s.backend.ssl.received ++ s.backend.rxq = t.routed ∧
        s.backend.rxq.length ≤ rxqCap) ∧
      (t.tls = none → t.routed = []) := by
  intro t
  have hcalls : ∀ c ∈ calls.map fun c => (c.1.mbedtls, c.2), CallsBack c.1 := by
    intro c hc
    obtain ⟨c, -, rfl⟩ := List.mem_map.mp hc
    exact ⟨c.1, rfl⟩
  have hsteps : ToolSteps CallsBack (GxfpTool.opened dev tls fdt world psk).tool t :=
    apiRun_steps _ hcalls _
  have hmade : ∀ s ∈ tls, ∃ m psk, CallsBack m ∧ tlsSessionInit m none psk = .ok s := by
    intro s hs
    cases hs
    exact ⟨_, psk, ⟨e, rfl⟩, toolOpenTls_init hopen⟩
  have hnew : (GxfpTool.opened dev tls fdt world psk).tool.HandedOver :=
    ⟨(svcBytes_init hmade).1, (svcBytes_init hmade).2⟩
  have hfed : t.Fed := hsteps.keeps (fun _ _ hstep h => hstep.fed h) rfl
  have hhanded : t.HandedOver := hsteps.keeps (fun _ _ hstep h => hstep.handedOver h) hnew
  have hrouted : svcBytes t.tls = t.routed := hhanded.bytes.trans hfed
  constructor
  · intro s hs
    refine ⟨?_, hhanded.fits s hs⟩
    rw [← hrouted, hs]
    rfl
  · intro hnone
    rw [← hrouted, hnone]
    rfl

end HandsOver

/-- mbedTLS without cryptography, sending nowhere. -/
def clearSetup (lib : SslLibrary Unit) : SslSetup Unit Unit :=
  { lib, sendFn := fun world _ _ => (0, world), world := () }

/-- The handshake is broken off, then there is no memory for another session, then there is;
and a picture is asked for. -/
def clearCalls : List (SslSetup Unit Unit × ApiCall) :=
  [(clearSetup { clearLibrary with handshake := fun _ => .done (sslInternalError, ()) },
      .connect 1000 (.mk 2 0 (fun _ => 2) fun _ => 0)),
    (clearSetup { clearLibrary with setup := fun _ => .error .nomem },
      .connect 1000 (.mk 2 0 (fun _ => 2) fun _ => 0)),
    (clearSetup clearLibrary, .connect 1000 (.mk 2 0 (fun _ => 2) fun _ => 0)),
    (clearSetup clearLibrary, .capture plentyMem 1000 (.mk 20 0 (fun _ => 2) fun _ => 2))]

/-- A controller that answers the command for a picture with a TLS record. -/
def clearDevice : Sys (List RxRecord × Nat) :=
  answeringSys fun _ msg =>
    if msg.cmd = getImageCmd then [mailboxOf lateImage.encoded length_lateImage_le] else []

/-- The record reaches the session that was made in the end; the capture runs out of time. -/
theorem apiRun_handsOver_clear :
    let run := apiRun exactFpnDoubles clearDevice
      (.opened ⟨3, 1, 1000, true⟩ (some clearSession) fdtFlowInit ([], 0) (zeros 32))
      (clearCalls.map fun c => (c.1.mbedtls, c.2))
    run.1.map (fun x => x.2.r) =
        [sslInternalError, Errno.nomem.neg, 0, Errno.timedout.neg] ∧
      run.2.tool.routed = lateImage.payload ∧
      ∀ s ∈ run.2.tool.tls, s.backend.ssl.received ++ s.backend.rxq = lateImage.payload := by
  intro run
  have hopen : toolOpenTls (clearSetup clearLibrary).mbedtls (zeros 32) =
      .ok (some clearSession) := rfl
  have hhanded := apiRun_handsOver exactFpnDoubles clearDevice ⟨3, 1, 1000, true⟩ fdtFlowInit
    ([], 0) hopen clearCalls
  have hrouted : run.2.tool.routed = lateImage.payload := by decide +kernel
  refine ⟨by decide +kernel, hrouted, fun s hs => ?_⟩
  exact (hhanded.1 s hs).1.trans hrouted

end Gxfp
