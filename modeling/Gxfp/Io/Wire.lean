/-
What passes over the file descriptor, in both directions.

An event is a buffer that is handed to `write(2)`, what `poll(2)` has reported or what a call
of `read(2)` gave.  `Sys.wired` keeps all of them in order, and a `Ledger` of the state may
keep less: `Sys.Kept` says that it keeps what it keeps of each of the calls, so that what is
proved here of the functions of `dev.c` is proved once for every ledger.

What was sent can be read off the buffers alone.  What the other side has answered has to
be put together from the records it came in, and `hear` does that event by event, as
`gxfp_dev_read_record` does: it has a part of a frame in hand or nothing, and drops the part
when the rest does not come.  So the frames that were received are a function of the events
(`framesIn`), and `devReadRecord_passes` says that a record that is returned is the one frame
of what the call has added, that a call that fails has added none, and that neither sends.
-/
import Gxfp.Io.Dev
import Gxfp.Library.Trace

namespace Gxfp

open Bytes Trace

/-! ### Events -/

/-- What passes over the file descriptor. -/
inductive Wire
  | wrote (tx : List UInt8)
  | polled (out : PollOutcome)
  | got (out : ReadOutcome)

/-- The system calls, with all that passes kept in order. -/
def Sys.wired {σ : Type} (sys : Sys σ) : Sys (σ × List Wire) where
  poll n s := let (r, t) := sys.poll n s.1; (r, (t, s.2 ++ [.polled r]))
  read s := let (r, t) := sys.read s.1; (r, (t, s.2 ++ [.got r]))
  write b s := let (r, t) := sys.write b s.1; (r, (t, s.2 ++ [.wrote b]))
  flushRx s := let (r, t) := sys.flushRx s.1; (r, (t, s.2))
  clock s := let (r, t) := sys.clock s.1; (r, (t, s.2))

/-- A ledger is kept by the system calls: what passes in one is what it adds. -/
structure Sys.Kept {σ : Type} (sys : Sys σ) (L : Ledger σ Wire) : Prop where
  poll : ∀ n s, L.adds s [.polled (sys.poll n s).1] (sys.poll n s).2
  read : ∀ s, L.adds s [.got (sys.read s).1] (sys.read s).2
  write : ∀ b s, L.adds s [.wrote b] (sys.write b s).2
  flushRx : ∀ s, L.adds s [] (sys.flushRx s).2
  clock : ∀ s, L.adds s [] (sys.clock s).2

/-- All that passes. -/
def wireLedger (σ : Type) : Ledger (σ × List Wire) Wire where
  adds s w s' := s'.2 = s.2 ++ w
  adds_nil _ := (List.append_nil _).symm
  adds_append h h' := by rw [h', h, List.append_assoc]

theorem Sys.wired_kept {σ : Type} (sys : Sys σ) : sys.wired.Kept (wireLedger σ) where
  poll _ _ := rfl
  read _ := rfl
  write _ _ := rfl
  flushRx _ := (List.append_nil _).symm
  clock _ := (List.append_nil _).symm

/-! ### Frames -/

/-- A part of a frame: how long the frame is, and what there is of it. -/
structure FramePart where
  total : Nat
  bytes : List UInt8

/-- What is in hand, and the frame that is complete, with these bytes of one. -/
def framePart (total : Nat) (bytes : List UInt8) : Option FramePart × Option (List UInt8) :=
  if bytes.length < total then (some ⟨total, bytes⟩, none) else (none, some bytes)

/-- A record behind a part of a frame. -/
def FramePart.hear (part : FramePart) (c : RxChunk) : Option FramePart × Option (List UInt8) :=
  framePart part.total
    (part.bytes ++ c.bytes.take (mpRxChunk (part.total - part.bytes.length)))

/-- A record that has to start a frame, and one that the receive loops have room for. -/
def hearHead (c : RxChunk) : Option FramePart × Option (List UInt8) :=
  match mpCheckHead c.bytes with
  | none => (none, none)
  | some mpLen =>
    if mpFrameMax < 4 + mpLen.toNat then (none, none)
    else framePart (4 + mpLen.toNat) (c.bytes.take (mpRxChunk (4 + mpLen.toNat)))

/-- What is in hand behind an event, and the frame that it completes. -/
def hear (hand : Option FramePart) : Wire → Option FramePart × Option (List UInt8)
  | .wrote _ => (hand, none)
  | .polled out =>
    match pollReadable out with
    | .error _ => (none, none)
    | .ok () => (hand, none)
  | .got out =>
    match chunkOf out with
    | .error _ => (none, none)
    | .ok c =>
      match hand with
      | none => hearHead c
      | some part => part.hear c

def handAfter : Option FramePart → List Wire → Option FramePart
  | hand, [] => hand
  | hand, e :: w => handAfter (hear hand e).1 w

def framesFrom : Option FramePart → List Wire → List (List UInt8)
  | _, [] => []
  | hand, e :: w => (hear hand e).2.toList ++ framesFrom (hear hand e).1 w

/-- The frames that are received, in order. -/
def framesIn (w : List Wire) : List (List UInt8) := framesFrom none w

theorem polled_ne_wrote {out : PollOutcome} (tx : List UInt8) : Wire.polled out ≠ .wrote tx := by
  intro heq
  cases heq

theorem got_ne_wrote {out : ReadOutcome} (tx : List UInt8) : Wire.got out ≠ .wrote tx := by
  intro heq
  cases heq

/-- Nothing is sent, and no frame is left in the middle. -/
structure Listens (w : List Wire) : Prop where
  reads : ∀ e ∈ w, ∀ tx, e ≠ .wrote tx
  whole : handAfter none w = none

theorem handAfter_append (hand : Option FramePart) (u v : List Wire) :
    handAfter hand (u ++ v) = handAfter (handAfter hand u) v := by
  induction u generalizing hand with
  | nil => rfl
  | cons e u ih => exact ih _

theorem framesFrom_append (hand : Option FramePart) (u v : List Wire) :
    framesFrom hand (u ++ v) = framesFrom hand u ++ framesFrom (handAfter hand u) v := by
  induction u generalizing hand with
  | nil => rfl
  | cons e u ih =>
      show (hear hand e).2.toList ++ framesFrom _ (u ++ v) = _
      rw [ih, ← List.append_assoc]
      rfl

theorem Listens.nil : Listens [] := ⟨fun _ he => absurd he List.not_mem_nil, rfl⟩

theorem Listens.append {u v : List Wire} (hu : Listens u) (hv : Listens v) : Listens (u ++ v) where
  reads e he := (List.mem_append.mp he).elim (hu.reads e) (hv.reads e)
  whole := by rw [handAfter_append, hu.whole, hv.whole]

theorem Listens.framesIn_append {u : List Wire} (hu : Listens u) (v : List Wire) :
    framesIn (u ++ v) = framesIn u ++ framesIn v := by
  rw [framesIn, framesFrom_append, hu.whole]
  rfl

/-! ### What reading adds -/

/-- `rec` is made of a frame. -/
structure TapRecord.From (rec : TapRecord) (frame : List UInt8) : Prop where
  payload : rec.payload = frame.drop 4
  type : rec.hdr.type = (frame.getD 0 0 >>> 4).toUInt32
  fits : frame.length ≤ mpFrameMax

/-- Events behind which nothing is in hand, and the frames that come of what was and of them. -/
structure Assembles (hand : Option FramePart × Option (List UInt8)) (frames : List (List UInt8))
    (w : List Wire) : Prop where
  reads : ∀ e ∈ w, ∀ tx, e ≠ .wrote tx
  whole : handAfter hand.1 w = none
  frames : hand.2.toList ++ framesFrom hand.1 w = frames

theorem Assembles.nil (frame : Option (List UInt8)) : Assembles (none, frame) frame.toList [] where
  reads _ he := absurd he List.not_mem_nil
  whole := rfl
  frames := List.append_nil _

theorem Assembles.cons {hand : Option FramePart} {frames : List (List UInt8)} {e : Wire}
    {w : List Wire} (he : ∀ tx, e ≠ .wrote tx) (h : Assembles (hear hand e) frames w) :
    Assembles (hand, none) frames (e :: w) where
  reads := List.forall_mem_cons.mpr ⟨he, h.reads⟩
  whole := h.whole
  frames := h.frames

theorem Assembles.listens {frames : List (List UInt8)} {w : List Wire}
    (h : Assembles (none, none) frames w) : Listens w := ⟨h.reads, h.whole⟩

theorem Assembles.framesIn_eq {frames : List (List UInt8)} {w : List Wire}
    (h : Assembles (none, none) frames w) : framesIn w = frames := h.frames

section Hear

variable {hand : Option FramePart}

theorem hear_polled {out : PollOutcome} (h : pollReadable out = .ok ()) :
    hear hand (.polled out) = (hand, none) := by
  rw [hear, h]

theorem hear_polled_error {out : PollOutcome} {e : Errno} (h : pollReadable out = .error e) :
    hear hand (.polled out) = (none, none) := by
  rw [hear, h]

theorem hear_got_error {out : ReadOutcome} {e : Errno} (h : chunkOf out = .error e) :
    hear hand (.got out) = (none, none) := by
  rw [hear, h]

theorem hear_got_head {out : ReadOutcome} {c : RxChunk} (h : chunkOf out = .ok c) :
    hear none (.got out) = hearHead c := by
  rw [hear, h]

theorem hear_got_part {out : ReadOutcome} {c : RxChunk} (part : FramePart)
    (h : chunkOf out = .ok c) : hear (some part) (.got out) = part.hear c := by
  rw [hear, h]

end Hear

/-- A look in front of a frame leaves nothing in hand. -/
theorem Assembles.look (out : PollOutcome) : Assembles (none, none) [] [.polled out] := by
  refine .cons polled_ne_wrote ?_
  cases hout : pollReadable out with
  | error e =>
      rw [hear_polled_error hout]
      exact .nil none
  | ok _ =>
      rw [hear_polled hout]
      exact .nil none

section Reading

variable {σ : Type} {sys : Sys σ} {L : Ledger σ Wire} {dev : Dev}

theorem devPollReadable_passes (h : sys.Kept L) (hd : dev.Opened) (n : Int) (s : σ) :
    ∃ out, (devPollReadable sys dev n s).1 = pollReadable out ∧
      L.adds s [.polled out] (devPollReadable sys dev n s).2 := by
  rw [devPollReadable_eq hd]
  exact ⟨_, rfl, h.poll _ s⟩

theorem devFlushRxq_passes (h : sys.Kept L) (dev : Dev) (s : σ) :
    L.adds s [] (devFlushRxq sys dev s).2 := by
  unfold devFlushRxq
  split
  · exact L.adds_nil s
  · exact h.flushRx s

theorem readChunk_passes (h : sys.Kept L) (s : σ) :
    ∃ out, (readChunk sys s).1 = chunkOf out ∧ L.adds s [.got out] (readChunk sys s).2 :=
  ⟨(sys.read s).1, rfl, h.read s⟩

/-- **The loop reads on until its frame is there, or drops what there is of it.** -/
theorem rxAssembleLoop_passes (h : sys.Kept L) (hd : dev.Opened) {total : Nat}
    {frame : List UInt8} {s s' : σ} {r : Except Errno (List UInt8)}
    (hrun : rxAssembleLoop sys dev total frame s = (r, s')) :
    ∃ w, L.adds s w s' ∧ Assembles (framePart total frame) r.toOption.toList w := by
  fun_induction rxAssembleLoop sys dev total frame s generalizing s' r with
  | case1 frame s hlt e s₁ hpoll =>
      cases hrun
      obtain ⟨out, hout, hadds⟩ := devPollReadable_passes h hd dev.irqTimeoutMs s
      rw [hpoll] at hout hadds
      refine ⟨_, hadds, ?_⟩
      rw [framePart, if_pos hlt]
      refine .cons polled_ne_wrote ?_
      rw [hear_polled_error hout.symm]
      exact .nil none
  | case2 frame s hlt s₁ hpoll e s₂ hread =>
      cases hrun
      obtain ⟨out, hout, hadds⟩ := devPollReadable_passes h hd dev.irqTimeoutMs s
      obtain ⟨out', hout', hadds'⟩ := readChunk_passes h s₁
      rw [hpoll] at hout hadds
      rw [hread] at hout' hadds'
      refine ⟨_, L.adds_append hadds hadds', ?_⟩
      rw [framePart, if_pos hlt]
      refine .cons polled_ne_wrote ?_
      rw [hear_polled hout.symm]
      refine .cons got_ne_wrote ?_
      rw [hear_got_error hout'.symm]
      exact .nil none
  | case3 frame s hlt s₁ hpoll c s₂ hread ih =>
      obtain ⟨out, hout, hadds⟩ := devPollReadable_passes h hd dev.irqTimeoutMs s
      obtain ⟨out', hout', hadds'⟩ := readChunk_passes h s₁
      obtain ⟨w, hw, hrest⟩ := ih hrun
      rw [hpoll] at hout hadds
      rw [hread] at hout' hadds'
      refine ⟨_, L.adds_append (L.adds_append hadds hadds') hw, ?_⟩
      rw [framePart, if_pos hlt]
      refine .cons polled_ne_wrote ?_
      rw [hear_polled hout.symm]
      refine .cons got_ne_wrote ?_
      rw [hear_got_part _ hout'.symm]
      exact hrest
  | case4 frame s hge =>
      cases hrun
      refine ⟨[], L.adds_nil s, ?_⟩
      rw [framePart, if_neg hge]
      exact .nil (some frame)

/-- What a call that reads a record has added, by what it returns. -/
structure Delivers (r : Except Errno TapRecord) (w : List Wire) : Prop where
  listens : Listens w
  silent : ∀ e, r = .error e → framesIn w = []
  one : ∀ rec, r = .ok rec → ∃ frame, framesIn w = [frame] ∧ rec.From frame

theorem Delivers.failed {e : Errno} {w : List Wire} (h : Assembles (none, none) [] w) :
    Delivers (.error e) w := by
  refine ⟨h.listens, fun _ _ => h.framesIn_eq, ?_⟩
  intro rec hok
  cases hok

theorem rxAssemble_passes (h : sys.Kept L) (hd : dev.Opened) {s s' : σ}
    {r : Except Errno TapRecord} (hrun : rxAssemble sys dev tapCap s = (r, s')) :
    ∃ w, L.adds s w s' ∧ Delivers r w := by
  have hcap : ¬ tapCap < sizeofTapHdr + mpChunkMax := by
    decide
  have hroom : tapCap - sizeofTapHdr = mpFrameMax := rfl
  unfold rxAssemble at hrun
  rw [if_neg hcap, hroom] at hrun
  obtain ⟨out, hout, hgot⟩ := readChunk_passes h s
  rcases hread : readChunk sys s with ⟨e | c, s₁⟩ <;> rw [hread] at hrun hout hgot
  · cases hrun
    refine ⟨_, hgot, .failed (.cons got_ne_wrote ?_)⟩
    rw [hear_got_error hout.symm]
    exact .nil none
  have hhear := hear_got_head hout.symm
  dsimp only at hrun
  unfold hearHead at hhear
  rcases hhead : mpCheckHead c.bytes with _ | mpLen <;> rw [hhead] at hrun hhear
  · cases hrun
    refine ⟨_, hgot, .failed (.cons got_ne_wrote ?_)⟩
    rw [hhear]
    exact .nil none
  dsimp only at hrun hhear
  by_cases htotal : mpFrameMax < 4 + mpLen.toNat
  · rw [if_pos htotal] at hrun hhear
    cases hrun
    refine ⟨_, hgot, .failed (.cons got_ne_wrote ?_)⟩
    rw [hhear]
    exact .nil none
  rw [if_neg htotal] at hrun hhear
  rcases hloop : rxAssembleLoop sys dev (4 + mpLen.toNat)
    (c.bytes.take (mpRxChunk (4 + mpLen.toNat))) s₁ with ⟨r₂, s₂⟩
  obtain ⟨w, hw, hassembles⟩ := rxAssembleLoop_passes h hd hloop
  rw [← hhear] at hassembles
  have hall : Assembles (none, none) r₂.toOption.toList (.got out :: w) :=
    .cons got_ne_wrote hassembles
  rw [hloop] at hrun
  rcases r₂ with e | frame
  · cases hrun
    exact ⟨_, L.adds_append hgot hw, .failed hall⟩
  cases hrun
  have hadds := L.adds_append (L.adds_append hgot hw) (h.clock s₂)
  rw [List.append_nil] at hadds
  have hstart : (c.bytes.take (mpRxChunk (4 + mpLen.toNat))).length ≤ 4 + mpLen.toNat := by
    have hle := mpRxChunk_le (4 + mpLen.toNat)
    rw [List.length_take]
    omega
  have hlength : frame.length = 4 + mpLen.toNat := rxAssembleLoop_length hstart hloop
  refine ⟨_, hadds, hall.listens, ?_, ?_⟩
  · intro e herr
    cases herr
  · intro rec hok
    cases hok
    exact ⟨frame, hall.framesIn_eq, rfl, rfl, by omega⟩

/-- **What is returned is the frame that was received, and nothing is sent.** -/
theorem devReadRecord_passes (h : sys.Kept L) (hd : dev.Opened) {s s' : σ}
    {r : Except Errno TapRecord} (hrun : devReadRecord sys dev tapCap s = (r, s')) :
    ∃ w, L.adds s w s' ∧ Delivers r w := by
  have hfd : ¬ (dev.fd < 0 ∨ ¬ dev.rxChunk = true) :=
    not_or.mpr ⟨hd.fd, not_not.mpr hd.rxChunk⟩
  unfold devReadRecord at hrun
  rw [if_neg hfd] at hrun
  obtain ⟨out, -, hlook⟩ := devPollReadable_passes h hd 0 s
  have hone := Assembles.look out
  rcases hpoll : devPollReadable sys dev 0 s with ⟨e | _, s₁⟩ <;> rw [hpoll] at hrun hlook
  · cases hrun
    exact ⟨_, hlook, .failed hone⟩
  obtain ⟨w, hw, hrest⟩ := rxAssemble_passes h hd hrun
  have hsame : framesIn ([.polled out] ++ w) = framesIn w := by
    rw [hone.listens.framesIn_append, hone.framesIn_eq, List.nil_append]
  refine ⟨_, L.adds_append hlook hw, hone.listens.append hrest.listens, ?_, ?_⟩
  · exact fun e herr => hsame.trans (hrest.silent e herr)
  · exact fun rec hok => hsame ▸ hrest.one rec hok

end Reading

end Gxfp
