/-
Waiting for a response: `gxfp_goodix_wait_selected`, in the terms of its caller.

`waitLoop` follows the loop with results that are errors or responses.  Here it is the loop
of the source once more, with the `int` that the selector and the wait return, and with the
caller's buffer, so that what the buffer holds afterwards can be said of every way out.

What the wait does is then said without the loop.  A frame is `Awaited` if it is a command
frame that parses, has the command and is not refused by the selector.  The wait lets
frames that are not pass, and its first frame that is one ends it.
-/
import Gxfp.Cmd.Xfer
import Gxfp.Io.Reassembly
import Gxfp.Library.Loop

namespace Gxfp

open Bytes Loop

/-! ### The loop -/

/-- `gxfp_goodix_frame_selector_fn` with its context, and what it returns. -/
abbrev FrameSelectorFn := FrameParsed → Int

/-- What a wait returns, and what it leaves. -/
structure WaitOut (σ : Type) where
  ret : Int
  rx : List UInt8
  outRxLen : Nat
  world : σ

/-- What there is to receive in one turn. -/
inductive Received
  | expired
  | idle
  | failed (e : Errno)
  | frame (rec : TapRecord)

/-- What the loop makes of an `int` that `dev.c` returns: `-EAGAIN` is no failure. -/
def receivedOf : Except Errno TapRecord → Received
  | .error .again => .idle
  | .error e => .failed e
  | .ok rec => .frame rec

section Wait

variable {σ : Type} (sys : Sys σ) (dev : Dev)

/-- A turn of the loop as far as `gxfp_dev_read_record`; `remain` fits an `int`. -/
def waitReceive (deadline : Int) (s : σ) : Received × σ :=
  let (now, s) := monotonicMs sys s
  let remain := deadline - now
  if remain ≤ 0 then (.expired, s)
  else
    match devPollReadable sys dev remain s with
    | (.error e, s) => (receivedOf (.error e), s)
    | (.ok (), s) =>
      let (r, s) := devReadRecord sys dev tapCap s
      (receivedOf r, s)

/-- A turn of the loop behind `gxfp_dev_read_record`. -/
def waitExamine (expectCmd : UInt8) (fn : FrameSelectorFn) (rx : List UInt8) (rec : TapRecord)
    (s : σ) : Turn σ TapRecord (WaitOut σ) :=
  if rec.hdr.type ≠ mpTypeCmd.toUInt32 then .again [rec] s
  else
    match parseGoodixBody rec.payload with
    | none => .again [rec] s
    | some frame =>
      if ¬ frame.valid then .again [rec] s
      else if frame.cmd ≠ expectCmd then .again [rec] s
      else
        let sel := fn frame
        if sel < 0 then .done [rec] ⟨sel, rx, 0, s⟩
        else if sel = 0 then .again [rec] s
        else if rx.length < rec.payload.length then .done [rec] ⟨Errno.msgsize.neg, rx, 0, s⟩
        else
          .done [rec] ⟨0, rec.payload ++ rx.drop rec.payload.length, rec.payload.length, s⟩

/-- A turn of the loop of `gxfp_goodix_wait_selected`. -/
def waitBody (expectCmd : UInt8) (fn : FrameSelectorFn) (rx : List UInt8) (deadline : Int)
    (s : σ) : Turn σ TapRecord (WaitOut σ) :=
  match waitReceive sys dev deadline s with
  | (.expired, s) => .done [] ⟨Errno.timedout.neg, rx, 0, s⟩
  | (.idle, s) => .again [] s
  | (.failed e, s) => .done [] ⟨e.neg, rx, 0, s⟩
  | (.frame rec, s) => waitExamine expectCmd fn rx rec s

/-- When a wait that starts now is over. -/
def waitDeadline (timeoutMs : Int) (s : σ) : Int :=
  (monotonicMs sys s).1 + (if 0 < timeoutMs then timeoutMs else 1000)

/-- `gxfp_goodix_wait_selected`; `rx` is what the caller's `rx_cap` bytes hold before. -/
def goodixWaitSelectedRx (fuel : Nat) (expectCmd : UInt8) (rx : List UInt8) (outRxLen : Nat)
    (timeoutMs : Int) (fn : FrameSelectorFn) (s : σ) : Option (WaitOut σ) :=
  if rx.length = 0 then some ⟨Errno.inval.neg, rx, outRxLen, s⟩
  else
    let deadline := waitDeadline sys timeoutMs s
    run (waitBody sys dev expectCmd fn rx deadline) fuel (monotonicMs sys s).2

end Wait

/-! ### Frames that are awaited -/

/-- `rec` carries `frame`, and the wait is for it. -/
structure Awaited (expectCmd : UInt8) (fn : FrameSelectorFn) (rec : TapRecord)
    (frame : FrameParsed) : Prop where
  type : rec.hdr.type = mpTypeCmd.toUInt32
  parses : parseGoodixBody rec.payload = some frame
  valid : frame.valid = true
  cmd : frame.cmd = expectCmd
  selected : fn frame ≠ 0

theorem Awaited.frame_eq {expectCmd : UInt8} {fn : FrameSelectorFn} {rec : TapRecord}
    {frame frame' : FrameParsed} (h : Awaited expectCmd fn rec frame)
    (h' : Awaited expectCmd fn rec frame') : frame = frame' := by
  have heq : some frame = some frame' := h.parses.symm.trans h'.parses
  injection heq

section Spec

variable {σ : Type} (sys : Sys σ) (dev : Dev) (expectCmd : UInt8) (fn : FrameSelectorFn)
  (rx : List UInt8) (deadline : Int)

/-- Nothing is there yet, or a frame that is not awaited passes. -/
inductive WaitPass : σ → List TapRecord → σ → Prop
  | idle {s s' : σ} (h : waitReceive sys dev deadline s = (.idle, s')) : WaitPass s [] s'
  | passedOver {s s' : σ} {rec : TapRecord} (h : waitReceive sys dev deadline s = (.frame rec, s'))
      (hover : ∀ frame, ¬ Awaited expectCmd fn rec frame) : WaitPass s [rec] s'

/-- The ways a wait ends, with the frame it has taken last. -/
inductive WaitEnd : σ → List TapRecord → WaitOut σ → Prop
  | expired {s s' : σ} (h : waitReceive sys dev deadline s = (.expired, s')) :
      WaitEnd s [] ⟨Errno.timedout.neg, rx, 0, s'⟩
  | failed {s s' : σ} {e : Errno} (h : waitReceive sys dev deadline s = (.failed e, s')) :
      WaitEnd s [] ⟨e.neg, rx, 0, s'⟩
  | refused {s s' : σ} {rec : TapRecord} {frame : FrameParsed}
      (h : waitReceive sys dev deadline s = (.frame rec, s'))
      (hrec : Awaited expectCmd fn rec frame) (hsel : fn frame < 0) :
      WaitEnd s [rec] ⟨fn frame, rx, 0, s'⟩
  | tooLong {s s' : σ} {rec : TapRecord} {frame : FrameParsed}
      (h : waitReceive sys dev deadline s = (.frame rec, s'))
      (hrec : Awaited expectCmd fn rec frame) (hsel : 0 < fn frame)
      (hlen : rx.length < rec.payload.length) :
      WaitEnd s [rec] ⟨Errno.msgsize.neg, rx, 0, s'⟩
  | taken {s s' : σ} {rec : TapRecord} {frame : FrameParsed}
      (h : waitReceive sys dev deadline s = (.frame rec, s'))
      (hrec : Awaited expectCmd fn rec frame) (hsel : 0 < fn frame)
      (hlen : rec.payload.length ≤ rx.length) :
      WaitEnd s [rec]
        ⟨0, rec.payload ++ rx.drop rec.payload.length, rec.payload.length, s'⟩

end Spec

/-! ### One turn -/

section Turn

variable {σ : Type} {sys : Sys σ} {dev : Dev} {expectCmd : UInt8} {fn : FrameSelectorFn}
  {rx : List UInt8} {deadline : Int}

/-- What becomes of a frame that is awaited. -/
theorem waitExamine_awaited {rec : TapRecord} {frame : FrameParsed}
    (h : Awaited expectCmd fn rec frame) (s : σ) :
    waitExamine expectCmd fn rx rec s =
      if fn frame < 0 then .done [rec] ⟨fn frame, rx, 0, s⟩
      else if rx.length < rec.payload.length then .done [rec] ⟨Errno.msgsize.neg, rx, 0, s⟩
      else .done [rec] ⟨0, rec.payload ++ rx.drop rec.payload.length, rec.payload.length, s⟩ := by
  unfold waitExamine
  rw [if_neg (not_not.mpr h.type), h.parses]
  dsimp only
  rw [if_neg (not_not.mpr h.valid), if_neg (not_not.mpr h.cmd), if_neg h.selected]

/-- A frame that is not awaited passes. -/
theorem waitExamine_over {rec : TapRecord} (h : ∀ frame, ¬ Awaited expectCmd fn rec frame)
    (s : σ) : waitExamine expectCmd fn rx rec s = .again [rec] s := by
  unfold waitExamine
  by_cases htype : rec.hdr.type = mpTypeCmd.toUInt32
  · rw [if_neg (not_not.mpr htype)]
    rcases hparse : parseGoodixBody rec.payload with _ | frame
    · rfl
    dsimp only
    by_cases hvalid : frame.valid = true
    · rw [if_neg (not_not.mpr hvalid)]
      by_cases hcmd : frame.cmd = expectCmd
      · have hsel : fn frame = 0 := by
          by_contra hsel
          exact h frame ⟨htype, hparse, hvalid, hcmd, hsel⟩
        have hnonneg : ¬ fn frame < 0 := by
          rw [hsel]
          exact Int.lt_irrefl 0
        rw [if_neg (not_not.mpr hcmd), if_neg hnonneg, if_pos hsel]
      · rw [if_pos hcmd]
    · rw [if_pos hvalid]
  · rw [if_pos htype]

/-- What passes goes round again. -/
theorem WaitPass.waitBody_eq {s s' : σ} {taken : List TapRecord}
    (h : WaitPass sys dev expectCmd fn deadline s taken s') :
    waitBody sys dev expectCmd fn rx deadline s = .again taken s' := by
  unfold waitBody
  cases h with
  | idle h => rw [h]
  | passedOver h hover =>
      rw [h]
      exact waitExamine_over hover _

/-- What ends a wait is returned. -/
theorem WaitEnd.waitBody_eq {s : σ} {taken : List TapRecord} {out : WaitOut σ}
    (h : WaitEnd sys dev expectCmd fn rx deadline s taken out) :
    waitBody sys dev expectCmd fn rx deadline s = .done taken out := by
  unfold waitBody
  cases h with
  | expired h => rw [h]
  | failed h => rw [h]
  | refused h hrec hsel =>
      rw [h]
      exact (waitExamine_awaited hrec _).trans (if_pos hsel)
  | tooLong h hrec hsel hlen =>
      rw [h]
      refine (waitExamine_awaited hrec _).trans ?_
      rw [if_neg (Int.lt_asymm hsel), if_pos hlen]
  | taken h hrec hsel hlen =>
      rw [h]
      refine (waitExamine_awaited hrec _).trans ?_
      rw [if_neg (Int.lt_asymm hsel), if_neg (Nat.not_lt.mpr hlen)]

variable (sys dev expectCmd fn rx deadline) in
/-- Something passes, or the wait ends. -/
theorem waitPass_or_end (s : σ) :
    (∃ taken s', WaitPass sys dev expectCmd fn deadline s taken s') ∨
      ∃ taken out, WaitEnd sys dev expectCmd fn rx deadline s taken out := by
  rcases hreceive : waitReceive sys dev deadline s with ⟨_ | _ | e | rec, s₁⟩
  · exact Or.inr ⟨_, _, .expired hreceive⟩
  · exact Or.inl ⟨_, _, .idle hreceive⟩
  · exact Or.inr ⟨_, _, .failed hreceive⟩
  · by_cases hrec : ∃ frame, Awaited expectCmd fn rec frame
    · obtain ⟨frame, hrec⟩ := hrec
      by_cases hneg : fn frame < 0
      · exact Or.inr ⟨_, _, .refused hreceive hrec hneg⟩
      have hpos : 0 < fn frame := by
        have hsel := hrec.selected
        omega
      by_cases hlen : rx.length < rec.payload.length
      · exact Or.inr ⟨_, _, .tooLong hreceive hrec hpos hlen⟩
      · exact Or.inr ⟨_, _, .taken hreceive hrec hpos (Nat.le_of_not_lt hlen)⟩
    · rw [not_exists] at hrec
      exact Or.inl ⟨_, _, .passedOver hreceive hrec⟩

/-- **A turn goes round again exactly if it lets something pass.** -/
theorem again_waitBody_iff {s s' : σ} {taken : List TapRecord} :
    Again (waitBody sys dev expectCmd fn rx deadline) s taken s' ↔
      WaitPass sys dev expectCmd fn deadline s taken s' := by
  constructor
  · intro h
    unfold Again at h
    rcases waitPass_or_end sys dev expectCmd fn rx deadline s with ⟨_, _, hpass⟩ | ⟨_, _, hend⟩
    · rw [hpass.waitBody_eq] at h
      cases h
      exact hpass
    · rw [hend.waitBody_eq] at h
      cases h
  · exact WaitPass.waitBody_eq

/-- **A turn returns exactly in the ways a wait ends.** -/
theorem waitBody_done_iff {s : σ} {taken : List TapRecord} {out : WaitOut σ} :
    waitBody sys dev expectCmd fn rx deadline s = .done taken out ↔
      WaitEnd sys dev expectCmd fn rx deadline s taken out := by
  constructor
  · intro h
    rcases waitPass_or_end sys dev expectCmd fn rx deadline s with ⟨_, _, hpass⟩ | ⟨_, _, hend⟩
    · rw [hpass.waitBody_eq] at h
      cases h
    · rw [hend.waitBody_eq] at h
      cases h
      exact hend
  · exact WaitEnd.waitBody_eq

end Turn

/-! ### The loop of results that are errors or responses -/

/-- What a selector of the model says, as the `int` of the source. -/
def FrameSelector.fn (selector : FrameSelector) : FrameSelectorFn := fun frame =>
  match selector frame with
  | .error e => e.neg
  | .ok false => 0
  | .ok true => 1

/-- An error or a response, as the wait reports it to its caller. -/
def waitOutOf {σ : Type} (rx : List UInt8) : Except Errno (List UInt8) × σ → WaitOut σ
  | (.error e, s) => ⟨e.neg, rx, 0, s⟩
  | (.ok payload, s) => ⟨0, payload ++ rx.drop payload.length, payload.length, s⟩

section Loop

variable {σ : Type} (sys : Sys σ) (dev : Dev) (expectCmd : UInt8) (selector : FrameSelector)
  (rx : List UInt8)

/-- The two do the same with a record. -/
theorem waitExamine_selector (rec : TapRecord) (s : σ)
    (next : σ → Option (Except Errno (List UInt8) × σ)) :
    (match waitExamine expectCmd selector.fn rx rec s with
      | .again _ s => (next s).map (waitOutOf rx)
      | .done _ out => some out) =
      (waitRecord expectCmd rx.length selector next rec s).map (waitOutOf rx) := by
  unfold waitRecord
  unfold waitExamine
  by_cases htype : rec.hdr.type ≠ mpTypeCmd.toUInt32
  · rw [if_pos htype, if_pos htype]
  rw [if_neg htype, if_neg htype]
  rcases parseGoodixBody rec.payload with _ | frame
  · rfl
  dsimp only
  by_cases hvalid : frame.valid = true
  · by_cases hcmd : frame.cmd = expectCmd
    · have hmatch : ¬ (¬ frame.valid = true ∨ frame.cmd ≠ expectCmd) := by
        rintro (h | h)
        · exact h hvalid
        · exact h hcmd
      rw [if_neg (not_not.mpr hvalid), if_neg (not_not.mpr hcmd), if_neg hmatch]
      unfold FrameSelector.fn
      rcases selector frame with e | _ | _
      · have hneg : e.neg < 0 := by
          cases e <;> decide
        simp only [hneg, if_true]
        rfl
      · rfl
      · by_cases hlen : rx.length < rec.payload.length
        · simp only [hlen, if_true]
          rfl
        · simp only [hlen, if_false]
          rfl
    · rw [if_neg (not_not.mpr hvalid), if_pos hcmd, if_pos (Or.inr hcmd)]
  · rw [if_pos hvalid, if_pos (Or.inl hvalid)]

/-- **The two loops are the same.** -/
theorem run_waitBody (deadline : Int) (fuel : Nat) (s : σ) :
    run (waitBody sys dev expectCmd selector.fn rx deadline) fuel s =
      (waitLoop sys dev expectCmd rx.length selector deadline fuel s).map (waitOutOf rx) := by
  induction fuel generalizing s with
  | zero => rfl
  | succ fuel ih =>
      rw [run, waitLoop_succ, waitBody, waitReceive]
      dsimp only
      by_cases hremain : deadline - (monotonicMs sys s).1 ≤ 0
      · rw [if_pos hremain, if_pos hremain]
        rfl
      rw [if_neg hremain, if_neg hremain]
      rcases devPollReadable sys dev (deadline - (monotonicMs sys s).1)
        (monotonicMs sys s).2 with ⟨e | _, s₁⟩
      · cases e <;> first | exact ih s₁ | rfl
      dsimp only
      rcases devReadRecord sys dev tapCap s₁ with ⟨e | rec, s₂⟩
      · cases e <;> first | exact ih s₂ | rfl
      dsimp only [receivedOf]
      refine Eq.trans ?_ (waitExamine_selector expectCmd selector rx rec s₂
        (waitLoop sys dev expectCmd rx.length selector deadline fuel))
      rcases waitExamine expectCmd selector.fn rx rec s₂ with ⟨_, s₃⟩ | ⟨_, out⟩
      · exact ih s₃
      · rfl

/-- The wait that the commands use is this one, with an error for a negative result. -/
theorem goodixWaitSelectedRx_eq (hrx : rx ≠ []) (fuel outRxLen : Nat) (timeoutMs : Int) (s : σ) :
    goodixWaitSelectedRx sys dev fuel expectCmd rx outRxLen timeoutMs selector.fn s =
      (goodixWaitSelected sys dev fuel expectCmd rx.length timeoutMs selector s).map
        (waitOutOf rx) := by
  have hcap : rx.length ≠ 0 := by
    rw [Ne, List.length_eq_zero_iff]
    exact hrx
  unfold goodixWaitSelectedRx goodixWaitSelected
  rw [if_neg hcap, if_neg hcap]
  exact run_waitBody sys dev expectCmd selector rx _ fuel _

end Loop

/-! ### The first match -/

section FirstMatch

variable {σ : Type} (sys : Sys σ) (dev : Dev) (expectCmd : UInt8) (fn : FrameSelectorFn)
  (rx : List UInt8)

/-- The wait, as passes and an end. -/
theorem goodixWaitSelectedRx_iff (hrx : rx ≠ []) (outRxLen : Nat) (timeoutMs : Int) (s : σ)
    (out : WaitOut σ) :
    (∃ fuel, goodixWaitSelectedRx sys dev fuel expectCmd rx outRxLen timeoutMs fn s = some out) ↔
      ∃ recs s₁ last,
        Turns (WaitPass sys dev expectCmd fn (waitDeadline sys timeoutMs s)) (monotonicMs sys s).2
          recs s₁ ∧
        WaitEnd sys dev expectCmd fn rx (waitDeadline sys timeoutMs s) s₁ last out := by
  have hcap : rx.length ≠ 0 := by
    rw [Ne, List.length_eq_zero_iff]
    exact hrx
  have hpass : Again (waitBody sys dev expectCmd fn rx (waitDeadline sys timeoutMs s)) =
      WaitPass sys dev expectCmd fn (waitDeadline sys timeoutMs s) := by
    funext s₁ taken s₂
    exact propext again_waitBody_iff
  unfold goodixWaitSelectedRx
  simp only [if_neg hcap, run_iff, hpass, waitBody_done_iff]

variable {sys dev expectCmd fn rx} {deadline : Int}

/-- What passes is not awaited. -/
theorem WaitPass.not_awaited {s s' : σ} {recs : List TapRecord}
    (h : WaitPass sys dev expectCmd fn deadline s recs s') :
    ∀ rec ∈ recs, ∀ frame, ¬ Awaited expectCmd fn rec frame := by
  intro rec hrec
  rcases h with _ | ⟨_, hover⟩
  · cases hrec
  · rw [List.mem_singleton.mp hrec]
    exact hover

/-- A wait that times out has not touched the buffer, and has taken nothing it was for. -/
theorem WaitEnd.of_timedout {s : σ} {last : List TapRecord} {out : WaitOut σ}
    (h : WaitEnd sys dev expectCmd fn rx deadline s last out)
    (hret : out.ret = Errno.timedout.neg) :
    out.rx = rx ∧ ∀ rec ∈ last, ∀ frame, Awaited expectCmd fn rec frame →
      fn frame = Errno.timedout.neg := by
  have hnone : ∀ rec ∈ ([] : List TapRecord), ∀ frame, Awaited expectCmd fn rec frame →
      fn frame = Errno.timedout.neg := by
    intro rec hrec
    cases hrec
  cases h with
  | expired _ => exact ⟨rfl, hnone⟩
  | failed _ => exact ⟨rfl, hnone⟩
  | refused _ hrec _ =>
      refine ⟨rfl, ?_⟩
      intro rec' hmem frame' hrec'
      rw [List.mem_singleton.mp hmem] at hrec'
      rw [hrec'.frame_eq hrec]
      exact hret
  | tooLong _ _ _ _ =>
      have hne : Errno.msgsize.neg ≠ Errno.timedout.neg := by decide
      exact absurd hret hne
  | taken _ _ _ _ =>
      have hne : 0 ≠ Errno.timedout.neg := by decide
      exact absurd hret hne

variable (sys dev expectCmd fn rx)

/--
**The first match ends a wait.**

With no room at all the wait is refused before it has begun.  Otherwise it returns what
passes and an end lead to: the frames that pass are not awaited, the first one that is
ends it with the selector's error, with `-EMSGSIZE` or with its bytes in the buffer, and
what follows has not been read.  Where it returns `-ETIMEDOUT`, the buffer is as it was,
and a frame that it has taken was awaited only if the selector itself said `-ETIMEDOUT`.
-/
theorem goodixWaitSelectedRx_firstMatch (outRxLen : Nat) (timeoutMs : Int) (s : σ) :
    (rx = [] → ∀ fuel,
      goodixWaitSelectedRx sys dev fuel expectCmd rx outRxLen timeoutMs fn s =
        some ⟨Errno.inval.neg, rx, outRxLen, s⟩) ∧
    (rx ≠ [] → ∀ out,
      (∃ fuel,
        goodixWaitSelectedRx sys dev fuel expectCmd rx outRxLen timeoutMs fn s = some out) ↔
      ∃ recs s₁ last,
        Turns (WaitPass sys dev expectCmd fn (waitDeadline sys timeoutMs s)) (monotonicMs sys s).2
          recs s₁ ∧
        WaitEnd sys dev expectCmd fn rx (waitDeadline sys timeoutMs s) s₁ last out) ∧
    (∀ recs s₁ last out,
      Turns (WaitPass sys dev expectCmd fn (waitDeadline sys timeoutMs s)) (monotonicMs sys s).2
        recs s₁ →
      WaitEnd sys dev expectCmd fn rx (waitDeadline sys timeoutMs s) s₁ last out →
      (∀ rec ∈ recs, ∀ frame, ¬ Awaited expectCmd fn rec frame) ∧
      (out.ret = Errno.timedout.neg →
        out.rx = rx ∧ ∀ rec ∈ last, ∀ frame, Awaited expectCmd fn rec frame →
          fn frame = Errno.timedout.neg)) := by
  refine ⟨?_, ?_, ?_⟩
  · intro hrx fuel
    unfold goodixWaitSelectedRx
    rw [if_pos (List.length_eq_zero_iff.mpr hrx)]
  · intro hrx out
    exact goodixWaitSelectedRx_iff sys dev expectCmd fn rx hrx outRxLen timeoutMs s out
  · intro recs s₁ last out hpasses hend
    exact ⟨hpasses.forall_taken fun _ _ _ hpass => hpass.not_awaited, hend.of_timedout⟩

end FirstMatch

/-! ### On a queue -/

section Queue

variable {now : List RxRecord → UInt64} {dev : Dev} {expectCmd : UInt8} {fn : FrameSelectorFn}
  {deadline : Int}

theorem waitReceive_queue (hd : dev.Opened) {q q' : List RxRecord} (hq : q ≠ [])
    (htime : (monotonicMs (queueSys now) q).1 < deadline) {r : Except Errno TapRecord}
    (hread : devReadRecord (queueSys now) dev tapCap q = (r, q')) :
    waitReceive (queueSys now) dev deadline q = (receivedOf r, q') := by
  have hremain : ¬ deadline - (monotonicMs (queueSys now) q).1 ≤ 0 := by omega
  have hsame : (monotonicMs (queueSys now) q).2 = q := rfl
  obtain ⟨r₁, rest, rfl⟩ := List.exists_cons_of_ne_nil hq
  unfold waitReceive
  dsimp only
  rw [if_neg hremain, hsame, devPollReadable_queue hd]
  dsimp only
  rw [hread]

/-- A turn on a queue that starts with a frame receives it. -/
theorem waitReceive_frame (hd : dev.Opened) {f : MpFrame} {recs : List RxRecord}
    (h : Fragments f.encoded recs) (suffix : List RxRecord)
    (htime : (monotonicMs (queueSys now) (recs ++ suffix)).1 < deadline) :
    ∃ ts, waitReceive (queueSys now) dev deadline (recs ++ suffix) =
      (.frame (tapRecordOf f ts), suffix) := by
  obtain ⟨ts, hread⟩ := devReadRecord_frame hd f h suffix
  refine ⟨ts, waitReceive_queue hd ?_ htime hread⟩
  intro hnil
  exact h.ne_nil (List.append_eq_nil_iff.mp hnil).1

/-- A stream without a frame that is awaited passes, and what is behind it stays. -/
theorem waitPasses_queue (hd : dev.Opened)
    (htime : ∀ q, (monotonicMs (queueSys now) q).1 < deadline) {items : List Item}
    {recs : List RxRecord} (h : Carries items recs)
    (hover : ∀ f, Item.frame f ∈ items → ∀ ts frame,
      ¬ Awaited expectCmd fn (tapRecordOf f ts) frame) (suffix : List RxRecord) :
    ∃ taken, Turns (WaitPass (queueSys now) dev expectCmd fn deadline) (recs ++ suffix) taken
      suffix := by
  induction h with
  | nil => exact ⟨[], .nil⟩
  | @frame f recs rest items hf hrest ih =>
      have hfragments : Fragments f.encoded recs := hf _ f.mpBuild_eq
      obtain ⟨taken, hturns⟩ := ih fun g hg => hover g (List.mem_cons_of_mem _ hg)
      obtain ⟨ts, hreceive⟩ := waitReceive_frame hd hfragments (rest ++ suffix) (htime _)
      rw [List.append_assoc]
      exact ⟨[tapRecordOf f ts] ++ taken,
        .cons (.passedOver hreceive (hover f (List.mem_cons_self ..) ts)) hturns⟩
  | @junk r rest items hr hhead hrest ih =>
      obtain ⟨taken, hturns⟩ := ih fun g hg => hover g (List.mem_cons_of_mem _ hg)
      have hreceive : waitReceive (queueSys now) dev deadline (r :: (rest ++ suffix)) =
          (receivedOf (.error .again), rest ++ suffix) :=
        waitReceive_queue hd (List.cons_ne_nil r _) (htime _) (devReadRecord_junk hd hr hhead _)
      exact ⟨[] ++ taken, .cons (.idle hreceive) hturns⟩

/--
**On a queue, the first frame that is awaited ends the wait.**  What comes before it is
gone, and what comes behind it stays queued.
-/
theorem goodixWaitSelectedRx_queue (hd : dev.Opened) {rx : List UInt8} (hrx : rx ≠ [])
    {items : List Item} {before recs after : List RxRecord} {f : MpFrame} {frame : FrameParsed}
    {timeoutMs : Int} (hitems : Carries items before) (hrecs : Fragments f.encoded recs)
    (htime : ∀ q, (monotonicMs (queueSys now) q).1 <
      waitDeadline (queueSys now) timeoutMs (before ++ (recs ++ after)))
    (hover : ∀ g, Item.frame g ∈ items → ∀ ts frame,
      ¬ Awaited expectCmd fn (tapRecordOf g ts) frame)
    (hf : ∀ ts, Awaited expectCmd fn (tapRecordOf f ts) frame) (outRxLen : Nat) :
    ∃ fuel, goodixWaitSelectedRx (queueSys now) dev fuel expectCmd rx outRxLen timeoutMs fn
      (before ++ (recs ++ after)) = some
        (if fn frame < 0 then ⟨fn frame, rx, 0, after⟩
        else if rx.length < f.payload.length then ⟨Errno.msgsize.neg, rx, 0, after⟩
        else ⟨0, f.payload ++ rx.drop f.payload.length, f.payload.length, after⟩) := by
  rw [goodixWaitSelectedRx_iff _ _ _ _ _ hrx]
  obtain ⟨taken, hturns⟩ := waitPasses_queue hd htime hitems hover (recs ++ after)
  obtain ⟨ts, hreceive⟩ := waitReceive_frame hd hrecs after (htime _)
  refine ⟨taken, recs ++ after, [tapRecordOf f ts], hturns, ?_⟩
  by_cases hneg : fn frame < 0
  · rw [if_pos hneg]
    exact .refused hreceive (hf ts) hneg
  have hpos : 0 < fn frame := by
    have hsel := (hf ts).selected
    omega
  rw [if_neg hneg]
  by_cases hlen : rx.length < f.payload.length
  · rw [if_pos hlen]
    exact .tooLong hreceive (hf ts) hpos hlen
  · rw [if_neg hlen]
    exact .taken hreceive (hf ts) hpos (Nat.le_of_not_lt hlen)

end Queue

def ackPayload : List UInt8 := [0xB0, 0x03, 0x00, 0xD2, 0x01, 0x24]

theorem length_ackPayload : ackPayload.length < mpLenMax := by decide

def ackFrame : MpFrame := ⟨mpTypeCmd, ackPayload, mpTypeValid_cmd, length_ackPayload⟩

/-- What `gxfp_parse_goodix_body` reads off it. -/
def ackParsed : FrameParsed where
  valid := true
  cmd := 0xB0
  declLen := 3
  payload := [0xD2, 0x01]
  protoChecksum := 0x24
  protoChecksumOk := true

def ackRecord : RxRecord := mailboxOf ackFrame.encoded (by decide)

theorem awaited_ack {fn : FrameSelectorFn} (h : fn ackParsed ≠ 0) (ts : UInt64) :
    Awaited 0xB0 fn (tapRecordOf ackFrame ts) ackParsed where
  type := rfl
  parses := rfl
  valid := rfl
  cmd := rfl
  selected := h

theorem monotonicMs_stopped (q : List RxRecord) :
    monotonicMs (queueSys fun _ => 0) q = (0, q) := by
  simp [monotonicMs, queueSys]

/-- A selector that says `-ETIMEDOUT` is believed, and no room is not a frame too long. -/
theorem goodixWaitSelectedRx_selectorTimesOut :
    (∀ ts, Awaited 0xB0 (fun _ => Errno.timedout.neg) (tapRecordOf ackFrame ts) ackParsed) ∧
    (∃ fuel, goodixWaitSelectedRx (queueSys fun _ => 0) ⟨3, 0, 1000, true⟩ fuel 0xB0 (zeros 8) 0
      500 (fun _ => Errno.timedout.neg) [ackRecord] =
        some ⟨Errno.timedout.neg, zeros 8, 0, []⟩) ∧
    (∀ ts, Awaited 0xB0 (fun _ => 1) (tapRecordOf ackFrame ts) ackParsed) ∧
    (∀ fuel, goodixWaitSelectedRx (queueSys fun _ => 0) ⟨3, 0, 1000, true⟩ fuel 0xB0 [] 0
      500 (fun _ => 1) [ackRecord] = some ⟨Errno.inval.neg, [], 0, [ackRecord]⟩) := by
  have hopen : Dev.Opened ⟨3, 0, 1000, true⟩ := ⟨by decide, rfl⟩
  have hfragments : Fragments ackFrame.encoded [ackRecord] := .last (mailboxOf_mailbox _ _) rfl
  have htime : ∀ q, (monotonicMs (queueSys fun _ => 0) q).1 <
      waitDeadline (queueSys fun _ => 0) 500 ([] ++ ([ackRecord] ++ [])) := by
    intro q
    simp [waitDeadline, monotonicMs_stopped]
  have hawaited : ∀ ts, Awaited 0xB0 (fun _ => Errno.timedout.neg) (tapRecordOf ackFrame ts)
      ackParsed := awaited_ack (by decide)
  have hover : ∀ g, Item.frame g ∈ [] → ∀ ts frame,
      ¬ Awaited 0xB0 (fun _ => Errno.timedout.neg) (tapRecordOf g ts) frame := by
    intro g hg
    cases hg
  have hrx : zeros 8 ≠ [] := by decide
  exact ⟨hawaited, goodixWaitSelectedRx_queue hopen hrx .nil hfragments htime hover hawaited 0,
    awaited_ack (by decide), fun _ => rfl⟩

/-- The acknowledgement and eight bytes for it. -/
theorem goodixWaitSelectedRx_firstMatch_ack :
    (∀ fuel, goodixWaitSelectedRx (queueSys fun _ => 0) ⟨3, 0, 1000, true⟩ fuel 0xB0 [] 7
      500 (fun _ => 1) [ackRecord] = some ⟨Errno.inval.neg, [], 7, [ackRecord]⟩) ∧
    (∃ fuel, goodixWaitSelectedRx (queueSys fun _ => 0) ⟨3, 0, 1000, true⟩ fuel 0xB0 (zeros 8) 7
      500 (fun _ => 1) [ackRecord] = some ⟨0, ackFrame.payload ++ [0, 0], 6, []⟩) ∧
    (∃ rec out, WaitEnd (queueSys fun _ => 0) ⟨3, 0, 1000, true⟩ 0xB0
        (fun _ => Errno.timedout.neg) (zeros 8) 500 [ackRecord] [rec] out ∧
      out.ret = Errno.timedout.neg ∧ out.rx = zeros 8) := by
  have hopen : Dev.Opened ⟨3, 0, 1000, true⟩ := ⟨by decide, rfl⟩
  have hfragments : Fragments ackFrame.encoded [ackRecord] := .last (mailboxOf_mailbox _ _) rfl
  have htime : (monotonicMs (queueSys fun _ => 0) ([ackRecord] ++ [])).1 < 500 := by
    rw [monotonicMs_stopped]
    decide
  obtain ⟨ts, hreceive⟩ := waitReceive_frame hopen hfragments [] htime
  have hrx : zeros 8 ≠ [] := by decide
  have hlen : (tapRecordOf ackFrame ts).payload.length ≤ (zeros 8).length := by
    show 6 ≤ 8
    decide
  refine ⟨?_, ?_, ?_⟩
  · exact (goodixWaitSelectedRx_firstMatch (queueSys fun _ => 0) ⟨3, 0, 1000, true⟩ 0xB0
      (fun _ => 1) [] 7 500 [ackRecord]).1 rfl
  · exact ((goodixWaitSelectedRx_firstMatch (queueSys fun _ => 0) ⟨3, 0, 1000, true⟩ 0xB0
      (fun _ => 1) (zeros 8) 7 500 [ackRecord]).2.1 hrx _).mpr
        ⟨[], [ackRecord], _, .nil, .taken hreceive (awaited_ack (by decide) ts) (by decide) hlen⟩
  · have hneg : Errno.timedout.neg < 0 := by decide
    have hawaited : Awaited 0xB0 (fun _ => Errno.timedout.neg) (tapRecordOf ackFrame ts)
        ackParsed := awaited_ack (Int.ne_of_lt hneg) ts
    have hend : WaitEnd (queueSys fun _ => 0) ⟨3, 0, 1000, true⟩ 0xB0
        (fun _ => Errno.timedout.neg) (zeros 8) 500 [ackRecord] [tapRecordOf ackFrame ts]
        ⟨Errno.timedout.neg, zeros 8, 0, []⟩ := .refused hreceive hawaited hneg
    exact ⟨_, _, hend, rfl, (((goodixWaitSelectedRx_firstMatch (queueSys fun _ => 0)
      ⟨3, 0, 1000, true⟩ 0xB0 (fun _ => Errno.timedout.neg) (zeros 8) 7 500
        [ackRecord]).2.2 [] _ _ _ .nil hend).2 rfl).1⟩

end Gxfp
