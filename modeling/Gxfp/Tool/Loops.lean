/-
The demo tool's operations: `src/demos/common/gxfp_tool.c`.

Every operation sends a command and then polls the device until something has come of it.
`tool_poll` reads records and routes them: what carries a touch goes to the finger
detection, and what carries TLS to the session.  `gxfp_tool_pov_capture` first waits for
an acknowledgement, with a loop that routes nothing.  A tool may be without a session, and
then what is routed to it fails.

Each record that is taken is noted with the loop that takes it and with what the
session's queue holds, and so is what is pushed onto that queue.  Nothing reads these
notes.  None of the loops has a bound, so that each gets fuel.  A call that runs out of it
is looked at while it is going on.
-/
import Gxfp.Cmd.Recovery
import Gxfp.Flow.Fdt
import Gxfp.Image.Plain
import Gxfp.Tls.Session

namespace Gxfp

open Bytes

def toolPollMs : Int := 50
def tlsRecMaxPlain : Nat := 16 * 1024
def getImageCmd : UInt8 := 0x20

/-- The loops that read records. -/
inductive Taker
  | poll
  | ackWait
  deriving DecidableEq, Repr

/-- A record that has been taken, by whom, and how much the queue of the session held, if
there was a session. -/
structure Taken where
  record : TapRecord
  taker : Taker
  queued : Option Nat

/-- The ciphertext of a record. -/
def Taken.cipher (x : Taken) : List UInt8 :=
  if x.record.hdr.type = mpTypeTls.toUInt32 then x.record.payload else []

/-- `struct gxfp_tool_impl`, as far as the session is concerned, with what it talks to. -/
structure Tool (σ τ : Type) where
  dev : Dev
  /-- `none` while `tls.impl` is null. -/
  tls : Option (TlsSession τ)
  plain : PlainSink
  fdt : FdtFlow
  world : σ
  /-- What has been taken from the device, in order. -/
  taken : List Taken
  /-- What `gxfp_tls_session_feed_cipher` has pushed. -/
  pushed : List UInt8

section Tool

variable {σ τ : Type}

/-- A tool whose `gxfp_tool_connect` has returned. -/
def Tool.connected (dev : Dev) (tls : TlsSession τ) (plain : PlainSink) (fdt : FdtFlow)
    (world : σ) : Tool σ τ :=
  { dev, tls := some tls, plain, fdt, world, taken := [], pushed := [] }

/-- The queue of a session. -/
def svcQueue (svc : Option (TlsSession τ)) : Option (List UInt8) :=
  svc.map fun s => s.backend.rxq

/-- A record is taken. -/
def Tool.take (t : Tool σ τ) (taker : Taker) (rec : TapRecord) : Tool σ τ :=
  { t with taken := t.taken ++ [⟨rec, taker, (svcQueue t.tls).map List.length⟩] }

/-- What a queue has more than before. -/
def queueGrowth : Option (List UInt8) → Option (List UInt8) → List UInt8
  | some before, some after => after.drop before.length
  | _, _ => []

/-- `gxfp_tls_session_feed_cipher`; what the queue has more is what has been pushed. -/
def Tool.feedCipher (t : Tool σ τ) (rec : List UInt8) : Int × Tool σ τ :=
  let (r, tls) := svcFeedCipher t.tls rec
  (r, { t with tls, pushed := t.pushed ++ queueGrowth (svcQueue t.tls) (svcQueue tls) })

variable (m : Mbedtls τ) (sys : Sys σ)

/-- A result of the finger detection that ends `tool_poll`. -/
def flowFails : Except Errno Unit → Option Errno
  | .ok () => none
  | .error e => if e = .again then none else some e

/-- `tool_poll`: its result, and the events. -/
def toolPoll : Nat → Int → UInt32 → Tool σ τ → Option (Int × UInt32) × Tool σ τ
  | 0, _, _, t => (none, t)
  | fuel + 1, timeoutMs, outEvents, t =>
    match devPollReadable sys t.dev timeoutMs t.world with
    | (.error .again, world) => (some (0, outEvents), { t with world })
    | (.error e, world) => (some (e.neg, outEvents), { t with world })
    | (.ok (), world) =>
      match devReadRecord sys t.dev tapCap world with
      | (.error .again, world) => (some (0, outEvents), { t with world })
      | (.error e, world) => (some (e.neg, outEvents), { t with world })
      | (.ok rec, world) =>
        let t := { t with world }.take .poll rec
        let (r, events, fdt, dev, world) :=
          fdtFlowFeedRecord sys t.dev t.fdt rec.hdr rec.payload t.world
        let t := { t with fdt, dev, world }
        match flowFails r with
        | some e => (some (e.neg, outEvents), t)
        | none =>
          let (r, t) :=
            if rec.hdr.type = mpTypeTls.toUInt32 then t.feedCipher rec.payload else (0, t)
          if r < 0 then (some (r, outEvents), t)
          else toolPoll fuel 0 (outEvents ||| events) t

/-- `tool_pull_plain`; `alloc` is whether `malloc` succeeds, at a turn and an offset. -/
def toolPullPlain (alloc : Nat → Nat → Bool) : Nat → Tool σ τ → Option Int × Tool σ τ
  | 0, t => (none, t)
  | fuel + 1, t =>
    let (r, plain, tls) := svcPullPlain m t.tls tlsRecMaxPlain
    let t := { t with tls }
    if r = 1 then
      toolPullPlain alloc fuel { t with plain := plainScanChunks (alloc fuel) plain t.plain }
    else if r = Errno.again.neg ∨ r = 0 then (some 0, t)
    else (some r, t)

/-- How far a call gets: the turns of its loop, of its wait, and of the loops in each turn. -/
structure ToolFuel where
  loop : Nat
  wait : Nat
  poll : Nat → Nat
  pull : Nat → Nat

/-- What is left of a timeout, `deadline` being zero where there is none. -/
def toolRemain (deadline : Int) (t : Tool σ τ) : Int × Tool σ τ :=
  if deadline ≠ 0 then
    let (now, world) := monotonicMs sys t.world
    (deadline - now, { t with world })
  else (toolPollMs, t)

/-- The loop of `gxfp_tool_wait_finger`. -/
def toolWaitLoop (wanted : UInt32) (deadline : Int) (poll : Nat → Nat) :
    Nat → Tool σ τ → Option Int × Tool σ τ
  | 0, t => (none, t)
  | fuel + 1, t =>
    let (remain, t) := toolRemain sys deadline t
    if remain ≤ 0 then (some Errno.timedout.neg, t)
    else
      match toolPoll sys (poll fuel) (min remain toolPollMs) fdtEventNone t with
      | (none, t) => (none, t)
      | (some (r, events), t) =>
        if r < 0 then (some r, t)
        else if events &&& wanted ≠ 0 then (some 0, t)
        else toolWaitLoop wanted deadline poll fuel t

/-- A deadline of a timeout, zero where there is none. -/
def toolDeadline (timeoutMs : Int) (t : Tool σ τ) : Int × Tool σ τ :=
  if 0 < timeoutMs then
    let (now, world) := monotonicMs sys t.world
    (now + timeoutMs, { t with world })
  else (0, t)

/-- `gxfp_tool_wait_finger` -/
def toolWaitFinger (present : Bool) (timeoutMs : Int) (fuel : ToolFuel) (t : Tool σ τ) :
    Option Int × Tool σ τ :=
  let mode := if present then .waitDown else .waitUp
  let wanted := if present then fdtEventDown else fdtEventUp ||| fdtEventReverse
  match fdtFlowSetMode sys t.dev { t.fdt with mode := .idle } mode t.world with
  | (.error e, fdt, dev, world) => (some e.neg, { t with fdt, dev, world })
  | (.ok (), fdt, dev, world) =>
    let (deadline, t) := toolDeadline sys timeoutMs { t with fdt, dev, world }
    toolWaitLoop sys wanted deadline fuel.poll fuel.loop t

/-- The loop of `tool_capture_internal`. -/
def toolCaptureLoop (alloc : Nat → Nat → Bool) (deadline : Int) (poll pull : Nat → Nat) :
    Nat → Tool σ τ → Option Int × Tool σ τ
  | 0, t => (none, t)
  | fuel + 1, t =>
    let (remain, t) := toolRemain sys deadline t
    if remain ≤ 0 then (some Errno.timedout.neg, t)
    else
      match toolPoll sys (poll fuel) (min remain toolPollMs) fdtEventNone t with
      | (none, t) => (none, t)
      | (some (r, _), t) =>
        if r < 0 then (some r, t)
        else
          match toolPullPlain m alloc (pull fuel) t with
          | (none, t) => (none, t)
          | (some r, t) =>
            if r < 0 then (some r, t)
            else if t.plain.haveNormal then (some 0, t)
            else toolCaptureLoop alloc deadline poll pull fuel t

/-- What `tool_store_raw_image` makes of the result of `gxfp_plain_sink_extract_normal`. -/
def extractResult : Except Errno (Option (List UInt8 × List UInt8)) → Int
  | .error e => e.neg
  | .ok none => Errno.io.neg
  | .ok (some _) => 0

/-- `gxfp_tool_capture`, up to the body that is decoded; `extracts` is whether there is memory
for it. -/
def toolCapture (alloc : Nat → Nat → Bool) (extracts : Bool) (timeoutMs : Int)
    (fuel : ToolFuel) (t : Tool σ τ) : Option Int × Tool σ τ :=
  let t := { t with plain := plainSinkResetNormal t.plain }
  match goodixSendAsync sys t.dev getImageCmd [0x01, 0x00] t.world with
  | (.error e, dev, world) => (some e.neg, { t with dev, world })
  | (.ok (), dev, world) =>
    let (deadline, t) := toolDeadline sys timeoutMs { t with dev, world }
    match toolCaptureLoop m sys alloc deadline fuel.poll fuel.pull fuel.loop t with
    | (none, t) => (none, t)
    | (some r, t) =>
      if r < 0 then (some r, t)
      else
        let (r, plain) := plainSinkExtractNormal t.plain extracts
        (some (extractResult r), { t with plain })

/-- The loop of `gxfp_tool_pov_capture`. -/
def toolPovLoop (alloc : Nat → Nat → Bool) (deadline : Int) (poll pull : Nat → Nat) :
    Nat → Tool σ τ → Option Int × Tool σ τ
  | 0, t => (none, t)
  | fuel + 1, t =>
    if plainMaxPovFrames ≤ t.plain.povCount then (some 0, t)
    else
      let (now, world) := monotonicMs sys t.world
      let t := { t with world }
      if deadline ≤ now then (some 0, t)
      else
        let (now, world) := monotonicMs sys t.world
        let t := { t with world }
        let waitMs := min (deadline - now) toolPollMs
        if waitMs ≤ 0 then (some 0, t)
        else
          match toolPoll sys (poll fuel) waitMs fdtEventNone t with
          | (none, t) => (none, t)
          | (some (r, _), t) =>
            if r < 0 then (some r, t)
            else
              match toolPullPlain m alloc (pull fuel) t with
              | (none, t) => (none, t)
              | (some r, t) =>
                if r < 0 then (some r, t)
                else toolPovLoop alloc deadline poll pull fuel t

/-- `gxfp_cmd_sleep_cleanup` on the live session, with the records that its wait takes. -/
def toolSleepCleanup (fuel : Nat) (t : Tool σ τ) : Option (Except Errno Unit) × Tool σ τ :=
  let (recs, dev, world) := sleepCleanupTakes sys t.dev fuel t.world
  ((cmdSleepCleanup sys t.dev fuel t.world).map Prod.fst,
    { recs.foldl (fun t rec => t.take .ackWait rec) t with dev, world })

/-- `gxfp_tool_pov_capture` -/
def toolPovCapture (alloc : Nat → Nat → Bool) (timeoutMs : Int) (fuel : ToolFuel)
    (t : Tool σ τ) : Option Int × Tool σ τ :=
  match toolSleepCleanup sys fuel.wait { t with plain := plainSinkResetPov t.plain } with
  | (none, t) => (none, t)
  | (some (.error e), t) => (some e.neg, t)
  | (some (.ok ()), t) =>
    let (now, world) := monotonicMs sys t.world
    let deadline := now + (if 0 < timeoutMs then timeoutMs else 3000)
    toolPovLoop m sys alloc deadline fuel.poll fuel.pull fuel.loop { t with world }

/-! ### Runs -/

/-- A call of one of the operations. -/
inductive ToolCall
  | waitFinger (present : Bool) (timeoutMs : Int) (fuel : ToolFuel)
  | capture (alloc : Nat → Nat → Bool) (extracts : Bool) (timeoutMs : Int) (fuel : ToolFuel)
  | povCapture (alloc : Nat → Nat → Bool) (timeoutMs : Int) (fuel : ToolFuel)

/-- What a call returns, if it has returned, and the tool after it. -/
def toolCall (t : Tool σ τ) : ToolCall → Option Int × Tool σ τ
  | .waitFinger present timeoutMs fuel => toolWaitFinger sys present timeoutMs fuel t
  | .capture alloc extracts timeoutMs fuel => toolCapture m sys alloc extracts timeoutMs fuel t
  | .povCapture alloc timeoutMs fuel => toolPovCapture m sys alloc timeoutMs fuel t

/-- One call after the other; the one that has not returned is the last. -/
def toolRun (t : Tool σ τ) : List ToolCall → Tool σ τ
  | [] => t
  | c :: cs =>
    match toolCall m sys t c with
    | (none, t) => t
    | (some _, t) => toolRun t cs

end Tool

end Gxfp
