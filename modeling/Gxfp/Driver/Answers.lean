/-
Whose answer is stored.

A task that waits for its image stores the next one that comes.  That is its own if no
earlier answer is still on its way when it asks; nothing in the driver sees to that.
`Answers` holds in every run in which it is so: the last request is the only one with an
answer on its way or in the sink, and a machine that waits for an image has made it.
-/
import Gxfp.Driver.Images
import Gxfp.Driver.Tasks
import Gxfp.Image.RoundTrip

namespace Gxfp

open Monitor FpiDeviceGxfp Bytes Blocks

/-! ### What the log says -/

/-- The body of the answer to request `n`. -/
def answerBody (answer : Nat → ImageFrame) (n : Nat) : List UInt8 := (answer n).1.payload.drop 5

namespace ImageEvent

def asked? : ImageEvent → Option (Nat × Nat)
  | .asked task request => some (task, request)
  | _ => none

/-- The task that has stored an image, and the body it is made of. -/
def stored? : ImageEvent → Option (Nat × List UInt8)
  | .dark task body => some (task, body)
  | .image task body => some (task, body)
  | .asked _ _ => none

end ImageEvent

/-- The last request, with the task that has made it. -/
def lastAsked (log : List ImageEvent) : Option (Nat × Nat) :=
  (log.filterMap ImageEvent.asked?).getLast?

/-- **Every image stored answers the last request, which the task that stores it has made.** -/
def StoresOwn (answer : Nat → ImageFrame) (log : List ImageEvent) : Prop :=
  ∀ before e after task body, log = before ++ e :: after → e.stored? = some (task, body) →
    ∃ n, lastAsked before = some (task, n) ∧ body = answerBody answer n

section Log

variable {answer : Nat → ImageFrame} {log : List ImageEvent} {e : ImageEvent}

theorem lastAsked_asked (log : List ImageEvent) (task n : Nat) :
    lastAsked (log ++ [.asked task n]) = some (task, n) := by
  rw [lastAsked, List.filterMap_append]
  exact List.getLast?_concat

theorem lastAsked_other (log : List ImageEvent) (he : e.asked? = none) :
    lastAsked (log ++ [e]) = lastAsked log := by
  rw [lastAsked, List.filterMap_append, List.filterMap_cons, he]
  simp [lastAsked]

theorem StoresOwn.snoc (h : StoresOwn answer log)
    (he : ∀ task body, e.stored? = some (task, body) →
      ∃ n, lastAsked log = some (task, n) ∧ body = answerBody answer n) :
    StoresOwn answer (log ++ [e]) := by
  intro before e' after task body hlog hstored
  rcases List.eq_nil_or_concat after with rfl | ⟨after', last, rfl⟩
  · obtain ⟨hbefore, hlast⟩ := List.append_inj' hlog rfl
    cases hlast
    rw [← hbefore]
    exact he task body hstored
  · rw [List.concat_eq_append, ← List.cons_append, ← List.append_assoc] at hlog
    obtain ⟨hbefore, -⟩ := List.append_inj' hlog rfl
    exact h before e' after' task body hbefore hstored

end Log

/-! ### The way of an image -/

/-- The requests whose answers are on their way. -/
def ImagePath.outstanding (p : ImagePath) : List Nat :=
  (p.rxq ++ p.fifo).filterMap TlsRecord.request ++ p.owed

/-- Only the last request has an answer on its way or in the sink. -/
structure ImagePath.Ok (p : ImagePath) (answer : Nat → ImageFrame) (last : Option (Nat × Nat)) :
    Prop where
  outstanding : ∀ n ∈ p.outstanding, last.map Prod.snd = some n
  sink : p.sink.haveNormal = true →
    ∃ n, last.map Prod.snd = some n ∧ p.sink.normal.body = some (answerBody answer n)

namespace ImagePath

variable {answer : Nat → ImageFrame} {p : ImagePath} {last : Option (Nat × Nat)}

theorem Ok.gxfpPollRecords (h : p.Ok answer last) (polled : Nat) :
    (p.gxfpPollRecords polled).Ok answer last := by
  have hsame : (p.gxfpPollRecords polled).outstanding = p.outstanding := by
    rw [ImagePath.outstanding, ImagePath.outstanding, ImagePath.gxfpPollRecords, List.append_assoc,
      List.take_append_drop]
  refine ⟨?_, h.sink⟩
  rw [hsame]
  exact h.outstanding

/-- The frames of a record that is no answer, or answers the last request. -/
theorem image_of_record {r : TlsRecord} (hr : ∀ n, r.request = some n → last.map Prod.snd = some n)
    {f : GoodixFrame} (hf : f ∈ r.frames answer) (hnormal : NormalImage f) :
    ∃ n, last.map Prod.snd = some n ∧ f.payload.drop 5 = answerBody answer n := by
  rw [TlsRecord.frames, List.mem_append, List.mem_append] at hf
  rcases hf with (hf | hf) | hf
  · exact absurd hnormal (r.before.2 f hf)
  · obtain ⟨n, hn, rfl⟩ := List.mem_map.mp hf
    exact ⟨n, hr n (Option.mem_toList.mp hn), rfl⟩
  · exact absurd hnormal (r.after.2 f hf)

/-- **Scanning records that answer no other request.** -/
theorem scanRecords_ok (alloc : Nat → Nat → Bool) {rs : List TlsRecord}
    (hrs : ∀ r ∈ rs, ∀ n, r.request = some n → last.map Prod.snd = some n) {s : PlainSink}
    (hs : s.haveNormal = true →
      ∃ n, last.map Prod.snd = some n ∧ s.normal.body = some (answerBody answer n))
    (h : (scanRecords answer alloc s rs).haveNormal = true) :
    ∃ n, last.map Prod.snd = some n ∧
      (scanRecords answer alloc s rs).normal.body = some (answerBody answer n) := by
  induction rs generalizing s with
  | nil => exact hs h
  | cons r rs ih =>
      rw [List.forall_mem_cons] at hrs
      refine ih hrs.2 (fun hhave => ?_) h
      rcases plainScanChunks_source _ _ _ hhave with ⟨hsink, hsame⟩ | ⟨f, hf, hnormal, hbody⟩
      · obtain ⟨n, hn, hbody⟩ := hs hsink
        exact ⟨n, hn, (congrArg PlainFrame.body hsame).trans hbody⟩
      · obtain ⟨n, hn, heq⟩ := image_of_record hrs.1 hf hnormal
        exact ⟨n, hn, hbody.trans (congrArg some heq)⟩

theorem Ok.gxfpPullPlain (h : p.Ok answer last) (alloc : Nat → Nat → Bool) (pulled : Nat) :
    (p.gxfpPullPlain answer alloc pulled).Ok answer last := by
  constructor
  case outstanding =>
    intro n hn
    refine h.outstanding n ?_
    rw [ImagePath.outstanding, List.mem_append] at hn ⊢
    refine hn.imp_left fun hn => ?_
    obtain ⟨r, hr, hrequest⟩ := List.mem_filterMap.mp hn
    refine List.mem_filterMap.mpr ⟨r, ?_, hrequest⟩
    rw [List.mem_append] at hr ⊢
    exact hr.imp_left List.mem_of_mem_drop
  case sink =>
    refine scanRecords_ok alloc (fun r hr n hrequest => h.outstanding n ?_) h.sink
    rw [ImagePath.outstanding, List.mem_append]
    refine Or.inl (List.mem_filterMap.mpr ⟨r, ?_, hrequest⟩)
    exact List.mem_append_left _ (List.mem_of_mem_take hr)

theorem Ok.noImage (h : p.Ok answer last) {sink : PlainSink}
    (hsink : sink = p.sink ∨ sink = plainSinkResetNormal p.sink) :
    Ok { p with sink } answer last := by
  refine ⟨h.outstanding, fun hhave => ?_⟩
  rcases hsink with rfl | rfl
  · exact h.sink hhave
  · cases hhave

/-- An answer that comes was on its way before. -/
theorem outstanding_answer {n : Nat} {owed : List Nat} {before after : QuietFrames}
    (howed : p.owed = n :: owed) :
    outstanding { p with owed, fifo := p.fifo ++ [⟨before, some n, after⟩] } = p.outstanding := by
  simp [outstanding, howed, List.filterMap_append]

theorem outstanding_other {before after : QuietFrames} :
    outstanding { p with fifo := p.fifo ++ [⟨before, none, after⟩] } = p.outstanding := by
  simp [outstanding, List.filterMap_append]

theorem closed_ok : p.closed.Ok answer last := ⟨nofun, nofun⟩

/-! ### The states of a task -/

/-- Waiting for the image leaves the last request the only one. -/
theorem Ok.imageWait (h : p.Ok answer last) (io : IoChoice) :
    (p.imageWait answer io).path.Ok answer last ∧ (p.imageWait answer io).events = [] := by
  have hpolled := h.gxfpPollRecords io.polled
  unfold ImagePath.imageWait
  cases io.result with
  | failed error => exact ⟨hpolled, rfl⟩
  | done | again =>
      cases io.pullFails with
      | some pulled => exact ⟨hpolled.gxfpPullPlain _ _, rfl⟩
      | none => exact ⟨hpolled.gxfpPullPlain _ _, rfl⟩

/-- **Asking with nothing on its way.** -/
theorem Ok.imageStart (h : p.outstanding = []) (task : Nat) (io : IoChoice) :
    (p.imageStart task io).path.Ok answer (some (task, p.requests)) := by
  refine ⟨fun n hn => ?_, nofun⟩
  rw [ImagePath.outstanding, List.append_eq_nil_iff] at h
  rw [ImagePath.outstanding, List.mem_append] at hn
  show some p.requests = some n
  rcases hn with hn | hn
  · have hnone : n ∈ (p.rxq ++ p.fifo).filterMap TlsRecord.request := hn
    rw [h.1] at hnone
    cases hnone
  · have howed : n ∈ if io.reaches then p.owed ++ [p.requests] else p.owed := hn
    rw [h.2] at howed
    split at howed
    · rw [List.mem_singleton.mp howed]
    · cases howed

/-- **What is extracted answers the last request.** -/
theorem Ok.extractImage (h : p.Ok answer last) (io : IoChoice) :
    (p.extractImage io).2.Ok answer last ∧
      ∀ body img, (p.extractImage io).1 = some (body, img) →
        ∃ n, last.map Prod.snd = some n ∧ body = answerBody answer n := by
  have hsink := h.noImage (plainSinkExtractNormal_snd p.sink io.extracts)
  unfold ImagePath.extractImage
  rcases hextract : plainSinkExtractNormal p.sink io.extracts with ⟨r, sink⟩
  rw [hextract] at hsink
  dsimp only
  split
  · rename_i body
    obtain ⟨hhave, hbody, -⟩ := plainSinkExtractNormal_some hextract
    obtain ⟨n, hn, hanswer⟩ := h.sink hhave
    have hown : body = answerBody answer n := Option.some.inj (hbody.symm.trans hanswer)
    split
    · refine ⟨hsink, fun body' img' heq => ?_⟩
      cases heq
      exact ⟨n, hn, hown⟩
    · exact ⟨hsink, nofun⟩
  · exact ⟨hsink, nofun⟩
  · exact ⟨hsink, nofun⟩

theorem Ok.gxfpStoreReferenceImage (h : p.Ok answer last) (task : Nat) (io : IoChoice) :
    (p.gxfpStoreReferenceImage task io).path.Ok answer last ∧
      ((p.gxfpStoreReferenceImage task io).events = [] ∨
        ∃ n, last.map Prod.snd = some n ∧
          (p.gxfpStoreReferenceImage task io).events = [.dark task (answerBody answer n)]) := by
  obtain ⟨hpath, himage⟩ := h.extractImage io
  unfold ImagePath.gxfpStoreReferenceImage
  rcases hextract : p.extractImage io with ⟨_ | ⟨body, img⟩, p'⟩
  · rw [hextract] at hpath
    exact ⟨hpath, Or.inl rfl⟩
  · rw [hextract] at hpath himage
    obtain ⟨n, hn, rfl⟩ := himage body img rfl
    dsimp only
    split
    · exact ⟨hpath, Or.inl rfl⟩
    · exact ⟨⟨hpath.outstanding, hpath.sink⟩, Or.inr ⟨n, hn, rfl⟩⟩

theorem Ok.gxfpStoreImage (h : p.Ok answer last) (task : Nat) (io : IoChoice) :
    (p.gxfpStoreImage task io).path.Ok answer last ∧
      ((p.gxfpStoreImage task io).events = [] ∨
        ∃ n, last.map Prod.snd = some n ∧
          (p.gxfpStoreImage task io).events = [.image task (answerBody answer n)]) := by
  obtain ⟨hpath, himage⟩ := h.extractImage io
  unfold ImagePath.gxfpStoreImage
  rcases hextract : p.extractImage io with ⟨_ | ⟨body, img⟩, p'⟩
  · rw [hextract] at hpath
    exact ⟨hpath, Or.inl rfl⟩
  · rw [hextract] at hpath himage
    obtain ⟨n, hn, rfl⟩ := himage body img rfl
    dsimp only
    split
    · exact ⟨hpath, Or.inl rfl⟩
    · exact ⟨hpath, Or.inr ⟨n, hn, rfl⟩⟩

end ImagePath

/-! ### Handlers -/

/-- The states in which a machine waits for its image or stores it. -/
def awaitsImage : SsmHandler → Nat → Bool
  | .activate, state => state == activateReferenceWait || state == activateReferenceStore
  | .capture, state => state == captureWait || state == captureStore
  | .wait, _ => false

/-- A running machine that waits for its image has made the last request. -/
def askedLast (last : Option (Nat × Nat)) : Place where
  holds m handler state := awaitsImage handler state = true → last.map Prod.fst = some m
  start m handler := by cases handler <;> nofun

/-- Whether the state that the machine is in sends a `GET_IMAGE`. -/
def asks (dev : FpiDeviceGxfp) (ssm : FpiSsm) (io : IoChoice) : Bool :=
  !(dev.taskDeadline && io.expired) &&
    match ssm.handler with
    | .activate => ssm.curState == activateReferenceStart
    | .capture => ssm.curState == captureStart && !dev.deactivating
    | .wait => false

/-- What a state's input and output leave: what is stored is the machine's own, and the
machine has made the last request if it waits for the image in this state or the next. -/
structure ImageIo.Ok (r : ImageIo) (answer : Nat → ImageFrame) (log : List ImageEvent) (m : Nat)
    (ssm : FpiSsm) : Prop where
  path : r.path.Ok answer (lastAsked (log ++ r.events))
  own : StoresOwn answer (log ++ r.events)
  place : (askedLast (lastAsked (log ++ r.events))).holds m ssm.handler ssm.curState
  next : r.result = .done →
    (askedLast (lastAsked (log ++ r.events))).holds m ssm.handler (ssm.curState + 1)

section Handlers

variable {answer : Nat → ImageFrame} {log : List ImageEvent} {m : Nat} {ssm : FpiSsm}
  {p : ImagePath} {dev : FpiDeviceGxfp} {io : IoChoice} {r : ImageIo}

/-- A state that asks for nothing and stores nothing. -/
theorem ImageIo.Ok.of_nil (hevents : r.events = []) (hpath : r.path.Ok answer (lastAsked log))
    (hown : StoresOwn answer log)
    (hplace : (askedLast (lastAsked log)).holds m ssm.handler ssm.curState)
    (hnext : r.result = .done → awaitsImage ssm.handler (ssm.curState + 1) = true →
      awaitsImage ssm.handler ssm.curState = true) : r.Ok answer log m ssm := by
  constructor
  case path =>
    rw [hevents, List.append_nil]
    exact hpath
  case own =>
    rw [hevents, List.append_nil]
    exact hown
  case place =>
    rw [hevents, List.append_nil]
    exact hplace
  case next =>
    rw [hevents, List.append_nil]
    exact fun hdone hawaits => hplace (hnext hdone hawaits)

/-- The machine that stores and the one that has asked are the same. -/
theorem lastAsked_of_parts {n : Nat} {last : Option (Nat × Nat)} (hm : last.map Prod.fst = some m)
    (hn : last.map Prod.snd = some n) : last = some (m, n) := by
  obtain ⟨⟨m', n'⟩, hlast, rfl⟩ := Option.map_eq_some_iff.mp hm
  rw [hlast] at hn
  cases hn
  exact hlast

/-- A state that stores the machine's image, if it does, and after which it awaits none. -/
theorem ImageIo.Ok.of_store {event : List UInt8 → ImageEvent}
    (hstored : ∀ body, (event body).stored? = some (m, body))
    (hasked : ∀ body, (event body).asked? = none)
    (hstore : r.path.Ok answer (lastAsked log) ∧ (r.events = [] ∨
      ∃ n, (lastAsked log).map Prod.snd = some n ∧ r.events = [event (answerBody answer n)]))
    (hown : StoresOwn answer log)
    (hplace : (askedLast (lastAsked log)).holds m ssm.handler ssm.curState)
    (hawaits : awaitsImage ssm.handler ssm.curState = true)
    (hnext : awaitsImage ssm.handler (ssm.curState + 1) = false) : r.Ok answer log m ssm := by
  obtain ⟨hpath, hnone | ⟨n, hn, hevents⟩⟩ := hstore
  · exact .of_nil hnone hpath hown hplace fun _ _ => hawaits
  have hlast : lastAsked log = some (m, n) := lastAsked_of_parts (hplace hawaits) hn
  have hsame : lastAsked (log ++ r.events) = lastAsked log := by
    rw [hevents]
    exact lastAsked_other log (hasked _)
  constructor
  case path =>
    rw [hsame]
    exact hpath
  case own =>
    rw [hevents]
    refine hown.snoc fun task body heq => ?_
    rw [hstored] at heq
    cases heq
    exact ⟨n, hlast, rfl⟩
  case place =>
    rw [hsame]
    exact hplace
  case next =>
    intro _ hwait
    exact absurd (hnext.symm.trans hwait) nofun

/-- A state that asks: the machine has made the last request now. -/
theorem ImageIo.Ok.of_asked (hclear : p.outstanding = []) (hown : StoresOwn answer log) :
    (p.imageStart m io).Ok answer log m ssm := by
  have hlast : lastAsked (log ++ (p.imageStart m io).events) = some (m, p.requests) :=
    lastAsked_asked log m p.requests
  constructor
  case path =>
    rw [hlast]
    exact ImagePath.Ok.imageStart hclear m io
  case own => exact hown.snoc nofun
  case place =>
    rw [hlast]
    exact fun _ => rfl
  case next =>
    rw [hlast]
    exact fun _ _ => rfl

/-- The states before those in which the image is awaited. -/
theorem activate_of_awaits_next {state : Nat} (h : awaitsImage .activate (state + 1) = true) :
    state = activateReferenceStart ∨ state = activateReferenceWait := by
  simp only [awaitsImage, Bool.or_eq_true, beq_iff_eq] at h
  exact h.imp Nat.succ.inj Nat.succ.inj

theorem capture_of_awaits_next {state : Nat} (h : awaitsImage .capture (state + 1) = true) :
    state = captureStart ∨ state = captureWait := by
  simp only [awaitsImage, Bool.or_eq_true, beq_iff_eq] at h
  exact h.imp Nat.succ.inj Nat.succ.inj

/-- **The input and output of every state of every handler.** -/
theorem handlerIo_ok (hpath : p.Ok answer (lastAsked log)) (hown : StoresOwn answer log)
    (hplace : (askedLast (lastAsked log)).holds m ssm.handler ssm.curState)
    (hclear : asks dev ssm io = true → p.outstanding = []) :
    (handlerIo answer dev m ssm p io).Ok answer log m ssm := by
  have hno : (noIo p).Ok answer log m ssm := .of_nil rfl hpath hown hplace nofun
  have hother (hnext : awaitsImage ssm.handler (ssm.curState + 1) = true →
      awaitsImage ssm.handler ssm.curState = true) : (otherIo p io).Ok answer log m ssm :=
    .of_nil rfl hpath hown hplace fun _ => hnext
  have hpoll (hnext : awaitsImage ssm.handler (ssm.curState + 1) = true →
      awaitsImage ssm.handler ssm.curState = true) : (pollIo p io).Ok answer log m ssm :=
    .of_nil rfl (hpath.gxfpPollRecords _) hown hplace fun _ => hnext
  have hwait (hawaits : awaitsImage ssm.handler ssm.curState = true) :
      (p.imageWait answer io).Ok answer log m ssm :=
    .of_nil (hpath.imageWait io).2 (hpath.imageWait io).1 hown hplace fun _ _ => hawaits
  unfold handlerIo
  by_cases hexpired : dev.taskDeadline ∧ io.expired
  · rw [if_pos hexpired]
    exact hno
  rw [if_neg hexpired]
  have hintime : (dev.taskDeadline && io.expired) = false := by
    rw [Bool.eq_false_iff]
    exact fun h => hexpired (Bool.and_eq_true_iff.mp h)
  rcases hhandler : ssm.handler with _ | _ | _
  case activate =>
    rw [hhandler] at hother hpoll hwait
    dsimp only
    split
    · rename_i hstate
      refine hpoll fun hawaits => ?_
      rw [hstate] at hawaits
      cases hawaits
    · rename_i hstate
      refine hpoll fun hawaits => ?_
      rw [hstate] at hawaits
      cases hawaits
    · rename_i hstate
      refine .of_asked (hclear ?_) hown
      rw [asks, hhandler, hstate, hintime]
      rfl
    · rename_i hstate
      refine hwait ?_
      rw [hstate]
      rfl
    · rename_i hstate
      refine .of_store (fun _ => rfl) (fun _ => rfl) (hpath.gxfpStoreReferenceImage m io) hown
        hplace ?_ ?_
      · rw [hhandler, hstate]
        rfl
      · rw [hhandler, hstate]
        rfl
    · rename_i hstart hawait _
      refine hother fun hawaits => ?_
      rcases activate_of_awaits_next hawaits with hstate | hstate
      · exact absurd hstate hstart
      · exact absurd hstate hawait
  case wait =>
    rw [hhandler] at hother hpoll
    dsimp only
    split
    · exact hpoll id
    · exact hother id
  case capture =>
    rw [hhandler] at hother hwait
    dsimp only
    split
    · rename_i hstate
      by_cases hdeactivating : dev.deactivating = true
      · rw [if_pos hdeactivating]
        exact hno
      · rw [if_neg hdeactivating]
        refine .of_asked (hclear ?_) hown
        rw [asks, hhandler, hstate, Bool.eq_false_iff.mpr hdeactivating, hintime]
        rfl
    · rename_i hstate
      refine hwait ?_
      rw [hstate]
      rfl
    · rename_i hstate
      by_cases hdeactivating : dev.deactivating = true
      · rw [if_pos hdeactivating]
        exact hno
      · rw [if_neg hdeactivating]
        refine .of_store (fun _ => rfl) (fun _ => rfl) (hpath.gxfpStoreImage m io) hown hplace ?_ ?_
        · rw [hhandler, hstate]
          rfl
        · rw [hhandler, hstate]
          rfl
    · rename_i hstart hawait _
      refine hother fun hawaits => ?_
      rcases capture_of_awaits_next hawaits with hstate | hstate
      · exact absurd hstate hstart
      · exact absurd hstate hawait

end Handlers

/-! ### Runs -/

/-- If the step asks for an image, no answer is on its way. -/
def ImageDriver.clear (s : ImageDriver) : ImageInput → Bool
  | .call io =>
    match s.driver.calls with
    | .handler m :: _ =>
      (s.driver.dev.ssms m).all fun ssm => !asks s.driver.dev ssm io || s.path.outstanding.isEmpty
    | _ => true
  | .main _ | .cancel | .answer _ _ | .other _ => true

/-- Whenever an image is asked for in the run, no answer is on its way. -/
def clearRun (answer : Nat → ImageFrame) (s : ImageDriver) : List ImageInput → Bool
  | [] => true
  | input :: inputs =>
    s.clear input &&
      match imageStep answer s input with
      | none => true
      | some s => clearRun answer s inputs

/-- The invariant. -/
structure Answers (answer : Nat → ImageFrame) (s : ImageDriver) : Prop where
  driver : s.driver.Ok (askedLast (lastAsked s.log))
  path : s.path.Ok answer (lastAsked s.log)
  own : StoresOwn answer s.log

section Runs

variable {answer : Nat → ImageFrame} {s s' : ImageDriver} {input : ImageInput} {io : IoChoice}

/-- A call that is not a handler does nothing for which something would have to be known. -/
theorem driverStep_ok_call {Q : Place} {d d' : Driver} {io : IoOutcome} (h : d.Ok Q)
    (hcalls : ∀ m calls, d.calls ≠ .handler m :: calls)
    (hstep : driverStep d (.call io) = some d') : d'.Ok Q :=
  driverStep_ok h hstep fun _ m calls _ heq => absurd heq (hcalls m calls)

/-- What a call of another kind does to the images. -/
theorem ImageDriver.io_other (hcalls : ∀ m calls, s.driver.calls ≠ .handler m :: calls) :
    (s.io answer io).events = [] ∧
      ((s.io answer io).path = s.path ∨ (s.io answer io).path = s.path.closed) := by
  unfold ImageDriver.io
  split
  · rename_i m calls heq
    exact absurd heq (hcalls m calls)
  · exact ⟨rfl, Or.inr rfl⟩
  · exact ⟨rfl, Or.inl rfl⟩

theorem Answers.callOther (h : Answers answer s)
    (hcalls : ∀ m calls, s.driver.calls ≠ .handler m :: calls)
    (hstep : imageStep answer s (.call io) = some s') : Answers answer s' := by
  obtain ⟨driver, hdriver, rfl⟩ := Option.map_eq_some_iff.mp hstep
  obtain ⟨hevents, hpath⟩ := @ImageDriver.io_other answer s io hcalls
  have hlog : s.log ++ (s.io answer io).events = s.log := by
    rw [hevents, List.append_nil]
  constructor
  case driver =>
    rw [hlog]
    exact driverStep_ok_call h.driver hcalls hdriver
  case path =>
    rw [hlog]
    rcases hpath with hpath | hpath
    · rw [hpath]
      exact h.path
    · rw [hpath]
      exact ImagePath.closed_ok
  case own =>
    rw [hlog]
    exact h.own

/-- **A handler is called.** -/
theorem Answers.callHandler (h : Answers answer s) {m : Nat} {calls : List PendingCall}
    (hcalls : s.driver.calls = .handler m :: calls) (hclear : s.clear (.call io) = true)
    (hstep : imageStep answer s (.call io) = some s') : Answers answer s' := by
  obtain ⟨driver, hdriver, rfl⟩ := Option.map_eq_some_iff.mp hstep
  obtain ⟨ssm, hssm, hplace, hmove⟩ := h.driver.handler hcalls
  have hio : s.io answer io = handlerIo answer s.driver.dev m ssm s.path io := by
    rw [ImageDriver.io, hcalls]
    dsimp only
    rw [hssm]
  have hclear' : asks s.driver.dev ssm io = true → s.path.outstanding = [] := by
    rw [ImageDriver.clear, hcalls] at hclear
    dsimp only at hclear
    rw [hssm, Option.all_some, Bool.or_eq_true, Bool.not_eq_true', List.isEmpty_iff] at hclear
    intro hasks
    exact hclear.resolve_left fun hnot => absurd (hnot.symm.trans hasks) nofun
  have hok := handlerIo_ok h.path h.own hplace hclear'
  rw [hio] at hdriver ⊢
  refine ⟨?_, hok.path, hok.own⟩
  refine driverStep_ok (hmove _ hok.place) hdriver fun io' m' calls' hinput hcalls' ssm' hssm' => ?_
  rw [hcalls] at hcalls'
  cases hcalls'
  cases hinput
  rw [hssm] at hssm'
  cases hssm'
  exact hok.next

theorem imageStep_answers (h : Answers answer s) (hclear : s.clear input = true)
    (hstep : imageStep answer s input = some s') : Answers answer s' := by
  cases input with
  | call io =>
      by_cases hhandler : ∃ m calls, s.driver.calls = .handler m :: calls
      · obtain ⟨m, calls, hcalls⟩ := hhandler
        exact h.callHandler hcalls hclear hstep
      · push Not at hhandler
        exact h.callOther hhandler hstep
  | main event =>
      obtain ⟨driver, hdriver, rfl⟩ := Option.map_eq_some_iff.mp hstep
      have hok := driverStep_ok h.driver hdriver fun _ _ _ hinput => nomatch hinput
      cases event with
      | openDevice error => exact ⟨hok, ImagePath.closed_ok, h.own⟩
      | closeDevice => exact ⟨hok, h.path, h.own⟩
      | startAction action waitForFinger rearm => exact ⟨hok, h.path, h.own⟩
      | cancelInIdle => exact ⟨hok, h.path, h.own⟩
      | timeout m => exact ⟨hok, h.path, h.own⟩
      | minutiaeDetected result => exact ⟨hok, h.path, h.own⟩
      | returnInIdle => exact ⟨hok, h.path, h.own⟩
  | cancel =>
      obtain ⟨driver, hdriver, rfl⟩ := Option.map_eq_some_iff.mp hstep
      exact ⟨driverStep_ok h.driver hdriver (fun _ _ _ hinput => nomatch hinput), h.path,
        h.own⟩
  | answer before after =>
      rw [imageStep] at hstep
      cases howed : s.path.owed with
      | nil =>
          rw [howed] at hstep
          cases hstep
      | cons n owed =>
          rw [howed] at hstep
          cases hstep
          refine ⟨h.driver, ⟨fun k hk => h.path.outstanding k ?_, h.path.sink⟩, h.own⟩
          rw [ImagePath.outstanding_answer howed] at hk
          exact hk
  | other frames =>
      cases hstep
      refine ⟨h.driver, ⟨fun k hk => h.path.outstanding k ?_, h.path.sink⟩, h.own⟩
      rw [ImagePath.outstanding_other] at hk
      exact hk

theorem imageRun_answers {inputs : List ImageInput} (h : Answers answer s)
    (hclear : clearRun answer s inputs = true)
    (hrun : inputs.foldlM (imageStep answer) s = some s') : Answers answer s' := by
  induction inputs generalizing s with
  | nil =>
      cases hrun
      exact h
  | cons input inputs ih =>
      obtain ⟨s₁, hstep, hrest⟩ := watch_cons_eq_some hrun
      rw [clearRun, hstep, Bool.and_eq_true] at hclear
      exact ih (imageStep_answers h hclear.1 hstep) hclear.2 hrest

end Runs

/-! ### An answer is stored -/

section Store

variable {answer : Nat → ImageFrame} {s : ImageDriver} {d : Driver} {m n : Nat}
  {calls : List PendingCall} {ssm : FpiSsm} {inputs inputs' : List ImageInput}

theorem clearRun_append :
    clearRun answer s (inputs ++ inputs') =
      (clearRun answer s inputs &&
        match inputs.foldlM (imageStep answer) s with
        | none => true
        | some s' => clearRun answer s' inputs') := by
  induction inputs generalizing s with
  | nil => rfl
  | cons input inputs ih =>
      rw [List.cons_append, clearRun, clearRun, List.foldlM_cons]
      cases hstep : imageStep answer s input with
      | none => simp
      | some s₁ =>
          dsimp only
          rw [ih, Bool.and_assoc]
          rfl

/-- A record with nothing but the answer to request `n`. -/
def answerRecord (n : Nat) : TlsRecord := ⟨.none, some n, .none⟩

/-- One record is read, and all goes well. -/
def smoothIo : IoChoice := ⟨false, .done, 1, none, true, fun _ _ => true, true⟩

theorem scan_answerRecord (answer : Nat → ImageFrame) (n : Nat) {sink : PlainSink}
    (hsink : sink.haveNormal = false) :
    plainScanChunks (fun _ => true) ((answerRecord n).plain answer) sink =
      { sink with
        normal := { hdr := (answer n).1.payload.take 5, body := some (answerBody answer n) }
        haveNormal := true } := by
  have hplain : (answerRecord n).plain answer = [(answer n).1].flatMap GoodixFrame.bytes := rfl
  rw [hplain, plainScanChunks_frames]
  exact plainScanFrame_stores (answer n).2 hsink

/-- The answer to request `n` is in the sink, and nothing is on its way. -/
def ImagePath.holding (answer : Nat → ImageFrame) (p : ImagePath) (n : Nat) : ImagePath :=
  { p with
    fifo := []
    rxq := []
    sink :=
      { p.sink with
        normal := { hdr := (answer n).1.payload.take 5, body := some (answerBody answer n) }
        haveNormal := true } }

/-- The answer is read, decrypted and taken. -/
theorem imageWait_answer {p : ImagePath} (hfifo : p.fifo = [answerRecord n]) (hrxq : p.rxq = [])
    (hsink : p.sink.haveNormal = false) :
    p.imageWait answer smoothIo = ⟨.done, p.holding answer n, []⟩ := by
  have hpolled : p.gxfpPollRecords 1 = { p with fifo := [], rxq := [answerRecord n] } := by
    rw [ImagePath.gxfpPollRecords, hfifo, hrxq]
    rfl
  have hpulled : (p.gxfpPollRecords 1).gxfpPullPlain answer (fun _ _ => true)
      (p.gxfpPollRecords 1).rxq.length = p.holding answer n := by
    rw [hpolled, ImagePath.holding, ← scan_answerRecord answer n hsink]
    rfl
  unfold ImagePath.imageWait
  show (⟨if ((p.gxfpPollRecords 1).gxfpPullPlain answer (fun _ _ => true)
      (p.gxfpPollRecords 1).rxq.length).sink.haveNormal then .done else .again,
    (p.gxfpPollRecords 1).gxfpPullPlain answer (fun _ _ => true)
      (p.gxfpPollRecords 1).rxq.length, []⟩ : ImageIo) = _
  rw [hpulled]
  rfl

/-- The answer in the sink is made the dark frame. -/
theorem storeReferenceImage_answer (p : ImagePath) (m : Nat) {img : DecodedImage}
    (hdecode : decodeImageAuto (answerBody answer n) = .ok img) (hrows : img.rows ≠ 0)
    (hcols : img.cols ≠ 0) (hbody : (answerBody answer n).length ≠ 0) :
    ∃ p', (p.holding answer n).gxfpStoreReferenceImage m smoothIo =
      ⟨.done, p', [.dark m (answerBody answer n)]⟩ := by
  have hextract : (p.holding answer n).extractImage smoothIo = (some (answerBody answer n, img),
      { p.holding answer n with sink := plainSinkResetNormal (p.holding answer n).sink }) := by
    have hfull : ¬ (¬ true = true ∨ (answerBody answer n).length = 0) := by
      simp [hbody]
    rw [ImagePath.extractImage, plainSinkExtractNormal, ImagePath.holding]
    dsimp only
    rw [if_neg hfull, if_neg (by simp [smoothIo])]
    dsimp only
    rw [hdecode]
  rw [ImagePath.gxfpStoreReferenceImage, hextract]
  dsimp only
  rw [if_neg (by simp [smoothIo, hrows, hcols])]
  exact ⟨_, rfl⟩

/-- The machine goes on from `GXFP_ACTIVATE_REFERENCE_WAIT`. -/
theorem driverStep_referenceWait (hcalls : d.calls = .handler m :: calls)
    (hssm : d.dev.ssms m = some ssm) (hhandler : ssm.handler = .activate)
    (hstate : ssm.curState = activateReferenceWait) (hstates : ssm.nrStates = activateNumStates) :
    ∃ d', driverStep d (.call ⟨false, .done⟩) = some d' ∧ d'.calls = .handler m :: calls ∧
      ∃ bugs, d'.dev.ssms m =
        some { ssm with timeout := none, curState := activateReferenceStore, bugs } := by
  have hmove : ssm.nextState = ({ ssm with
      timeout := none, curState := activateReferenceStore
      bugs := ssm.bugs + ssm.completed.toNat + ssm.timeout.isSome.toNat }, .handler) := by
    unfold FpiSsm.nextState FpiSsm.enterState FpiSsm.bugOn
    dsimp only
    rw [hstate, hstates]
    rfl
  have hperform : d.dev.perform ⟨false, .done⟩ (.handler m) = ⟨{ d.dev with
      ssms := Function.update d.dev.ssms m (some { ssm with
        timeout := none, curState := activateReferenceStore
        bugs := ssm.bugs + ssm.completed.toNat + ssm.timeout.isSome.toNat }) },
      [.handler m], []⟩ := by
    show d.dev.callHandler m ⟨false, .done⟩ = _
    rw [callHandler, hssm]
    dsimp only
    rw [hhandler]
    dsimp only
    unfold gxfpActivateSsmHandler
    rw [if_neg (by simp), hstate]
    show d.dev.ssmDo m FpiSsm.nextState = _
    rw [ssmDo, hssm]
    dsimp only
    rw [hmove, hhandler]
    rfl
  refine ⟨d.add (d.dev.perform ⟨false, .done⟩ (.handler m)) calls, ?_, ?_, ?_⟩
  · rw [driverStep, hcalls]
  · rw [hperform]
    rfl
  · rw [hperform]
    exact ⟨_, Function.update_self ..⟩

theorem io_handler (answer : Nat → ImageFrame) (io : IoChoice)
    (hcalls : s.driver.calls = .handler m :: calls) (hssm : s.driver.dev.ssms m = some ssm) :
    s.io answer io = handlerIo answer s.driver.dev m ssm s.path io := by
  rw [ImageDriver.io, hcalls]
  dsimp only
  rw [hssm]

/-- A machine that awaits its image asks for none. -/
theorem clear_of_awaits (hcalls : s.driver.calls = .handler m :: calls)
    (hssm : s.driver.dev.ssms m = some ssm)
    (hawaits : awaitsImage ssm.handler ssm.curState = true) (io : IoChoice) :
    s.clear (.call io) = true := by
  have hasks : asks s.driver.dev ssm io = false := by
    unfold asks
    rcases hhandler : ssm.handler with _ | _ | _
    case wait => exact Bool.and_false _
    all_goals
      rw [hhandler] at hawaits
      simp only [awaitsImage, Bool.or_eq_true, beq_iff_eq] at hawaits
      rcases hawaits with hstate | hstate <;> rw [hstate] <;> exact Bool.and_false _
  rw [ImageDriver.clear, hcalls]
  dsimp only
  rw [hssm, Option.all_some, hasks]
  rfl

/-- **Whatever answer comes first is made the dark frame.** -/
theorem referenceWait_stores (hcalls : s.driver.calls = .handler m :: calls)
    (hssm : s.driver.dev.ssms m = some ssm) (hhandler : ssm.handler = .activate)
    (hstate : ssm.curState = activateReferenceWait) (hstates : ssm.nrStates = activateNumStates)
    (hfifo : s.path.fifo = [answerRecord n]) (hrxq : s.path.rxq = [])
    (hsink : s.path.sink.haveNormal = false) {img : DecodedImage}
    (hdecode : decodeImageAuto (answerBody answer n) = .ok img) (hrows : img.rows ≠ 0)
    (hcols : img.cols ≠ 0) (hbody : (answerBody answer n).length ≠ 0) :
    ∃ s', [.call smoothIo, .call smoothIo].foldlM (imageStep answer) s = some s' ∧
      s'.log = s.log ++ [.dark m (answerBody answer n)] ∧
      clearRun answer s [.call smoothIo, .call smoothIo] = true := by
  obtain ⟨d', hdriver, hcalls', bugs, hssm'⟩ :=
    driverStep_referenceWait hcalls hssm hhandler hstate hstates
  have hwait : s.io answer smoothIo = ⟨.done, s.path.holding answer n, []⟩ := by
    rw [io_handler answer smoothIo hcalls hssm]
    unfold handlerIo
    rw [if_neg (by simp [smoothIo]), hhandler, hstate]
    exact imageWait_answer hfifo hrxq hsink
  have hstep : imageStep answer s (.call smoothIo) =
      some ⟨d', s.path.holding answer n, s.log⟩ := by
    have hgo : driverStep s.driver (.call ⟨smoothIo.expired, .done⟩) = some d' := hdriver
    rw [imageStep, hwait]
    dsimp only
    rw [hgo, List.append_nil]
    rfl
  obtain ⟨p', hp'⟩ := storeReferenceImage_answer s.path m hdecode hrows hcols hbody
  have hstore : ImageDriver.io answer ⟨d', s.path.holding answer n, s.log⟩ smoothIo =
      ⟨.done, p', [.dark m (answerBody answer n)]⟩ := by
    rw [io_handler answer smoothIo hcalls' hssm']
    unfold handlerIo
    rw [if_neg (by simp [smoothIo])]
    dsimp only
    rw [hhandler]
    exact hp'
  obtain ⟨d'', hdriver'⟩ : ∃ d'', driverStep d' (.call ⟨smoothIo.expired, .done⟩) = some d'' := by
    rw [driverStep, hcalls']
    exact ⟨_, rfl⟩
  have hstep' : imageStep answer ⟨d', s.path.holding answer n, s.log⟩ (.call smoothIo) =
      some ⟨d'', p', s.log ++ [.dark m (answerBody answer n)]⟩ := by
    rw [imageStep, hstore]
    dsimp only
    rw [hdriver']
    rfl
  refine ⟨⟨d'', p', s.log ++ [.dark m (answerBody answer n)]⟩, ?_, rfl, ?_⟩
  · rw [List.foldlM_cons, hstep]
    show List.foldlM (imageStep answer) ⟨d', s.path.holding answer n, s.log⟩ [.call smoothIo] = _
    rw [List.foldlM_cons, hstep']
    rfl
  · have hclear := clear_of_awaits hcalls hssm (by rw [hhandler, hstate]; rfl) smoothIo
    have hclear' := clear_of_awaits (s := ⟨d', s.path.holding answer n, s.log⟩) hcalls' hssm'
      (by rw [hhandler]; rfl) smoothIo
    rw [clearRun, hclear, hstep, Bool.true_and]
    dsimp only
    rw [clearRun, hclear', hstep']
    rfl

end Store

/-! ### The result -/

/-- **Every image that is stored answers the request of the task that stores it**, in a run
in which no earlier answer is on its way when an image is asked for. -/
theorem imageRun_storesOwn (answer : Nat → ImageFrame) (inputs : List ImageInput) {s : ImageDriver}
    (hrun : imageRun answer inputs = some s)
    (hclear : clearRun answer ImageDriver.constructed inputs = true) : StoresOwn answer s.log := by
  have hpath : ImageDriver.constructed.path.Ok answer (lastAsked []) := by
    refine ⟨fun n hn => ?_, nofun⟩
    cases hn
  have hown : StoresOwn answer [] := by
    intro before e after task body hlog
    cases before <;> cases hlog
  exact (imageRun_answers ⟨constructed_ok, hpath, hown⟩ hclear hrun).own

section Examples

/-- The device is opened. -/
def opened : List ImageInput := [.main (.openDevice none), .main .returnInIdle]

/-- A verification is started and goes as far as asking for the reference image. -/
def activation : List ImageInput :=
  [.main (.startAction .verify true none), .call smoothIo, .call smoothIo, .call smoothIo,
    .call smoothIo]

/-- The deadline passes while the task waits for the image, and the action is returned. -/
def timedOut : List ImageInput :=
  [.call { smoothIo with result := .again }, .main (.timeout 0),
    .call { smoothIo with expired := true }, .call smoothIo, .call smoothIo, .main .returnInIdle]

/-- The sensor answers. -/
def answered : ImageInput := .answer .none .none

/-- Plain navigation images, of another brightness each. -/
def plainAnswers (n : Nat) : ImageFrame :=
  ⟨imageFrame .milangNav (fun _ _ => (n % 4096).toUInt16) (fun _ _ => 0) (zeros 5) (length_zeros 5),
    normalImage_imageFrame _ _ _ _ _ (by decide)⟩

theorem decode_plainAnswers (n : Nat) :
    decodeImageAuto (answerBody plainAnswers n) = .ok
      { pixels := blocks 54 16 fun _ _ => (n % 4096).toUInt16, rows := 54, cols := 16 } := by
  have hfit : DecodeMode.milangNav.Fits fun _ _ => (n % 4096).toUInt16 := by
    intro _ _ _ _ _
    show (UInt16.ofNat (n % 4096)).toNat < 4096
    rw [UInt16.toNat_ofNat']
    omega
  have hbody : answerBody plainAnswers n =
      imageBody (packImage (fun _ _ => (n % 4096).toUInt16) (fun _ _ => 0) .milangNav) :=
    imageFrame_body _ _ _ (zeros 5) (length_zeros 5)
  rw [hbody]
  exact decodeImageAuto_imageBody .milangNav hfit _

/-- A run that goes as far as waiting for the reference image, with answer `n` the next. -/
theorem imageRun_stores {inputs : List ImageInput} {s : ImageDriver} {m n : Nat} {ssm : FpiSsm}
    {calls : List PendingCall} (hrun : imageRun plainAnswers inputs = some s)
    (hcalls : s.driver.calls = .handler m :: calls) (hssm : s.driver.dev.ssms m = some ssm)
    (hhandler : ssm.handler = .activate) (hstate : ssm.curState = activateReferenceWait)
    (hstates : ssm.nrStates = activateNumStates) (hfifo : s.path.fifo = [answerRecord n])
    (hrxq : s.path.rxq = []) (hsink : s.path.sink.haveNormal = false) :
    ∃ s', imageRun plainAnswers (inputs ++ [.call smoothIo, .call smoothIo]) = some s' ∧
      s'.log = s.log ++ [.dark m (answerBody plainAnswers n)] ∧
      clearRun plainAnswers ImageDriver.constructed (inputs ++ [.call smoothIo, .call smoothIo]) =
        clearRun plainAnswers ImageDriver.constructed inputs := by
  have hbody : (answerBody plainAnswers n).length ≠ 0 := by
    intro hnil
    have hdecode := decode_plainAnswers n
    rw [List.length_eq_zero_iff.mp hnil] at hdecode
    cases hdecode
  obtain ⟨s', hstores, hlog, hclear⟩ := referenceWait_stores hcalls hssm hhandler hstate hstates
    hfifo hrxq hsink (decode_plainAnswers n) (show 54 ≠ 0 by decide) (show 16 ≠ 0 by decide) hbody
  have hfold : inputs.foldlM (imageStep plainAnswers) ImageDriver.constructed = some s := hrun
  refine ⟨s', ?_, hlog, ?_⟩
  · rw [imageRun, List.foldlM_append, hfold]
    exact hstores
  · rw [clearRun_append, hfold]
    dsimp only
    rw [hclear, Bool.and_true]

/-- A dark frame is stored. -/
theorem imageRun_storesOwn_activation :
    ∃ s, imageRun plainAnswers (opened ++ activation ++ [answered] ++
        [.call smoothIo, .call smoothIo]) = some s ∧
      s.log = [.asked 0 0, .dark 0 (answerBody plainAnswers 0)] ∧ StoresOwn plainAnswers s.log := by
  obtain ⟨s, hrun, hcalls, hssm, hlog, hfifo, hrxq, hsink⟩ : ∃ s,
      imageRun plainAnswers (opened ++ activation ++ [answered]) = some s ∧
      s.driver.calls = [.handler 0] ∧
      s.driver.dev.ssms 0 = some ⟨.activate, 7, 7, 4, false, none, none, 0⟩ ∧
      s.log = [.asked 0 0] ∧ s.path.fifo = [answerRecord 0] ∧ s.path.rxq = [] ∧
      s.path.sink.haveNormal = false := ⟨_, rfl, rfl, rfl, rfl, rfl, rfl, rfl⟩
  obtain ⟨s', hrun', hlog', hclear⟩ := imageRun_stores hrun hcalls hssm rfl rfl rfl hfifo hrxq hsink
  rw [hlog] at hlog'
  refine ⟨s', hrun', hlog', imageRun_storesOwn plainAnswers _ hrun' ?_⟩
  rw [hclear]
  decide +kernel

/-- **The late answer to a request that has timed out becomes the dark frame of the next
activation.** -/
theorem imageRun_stores_late :
    ∃ s, imageRun plainAnswers (opened ++ activation ++ timedOut ++ activation ++ [answered] ++
        [.call smoothIo, .call smoothIo]) = some s ∧ ¬ StoresOwn plainAnswers s.log := by
  obtain ⟨s, hrun, hcalls, hssm, hlog, hfifo, hrxq, hsink⟩ : ∃ s,
      imageRun plainAnswers (opened ++ activation ++ timedOut ++ activation ++ [answered]) =
        some s ∧
      s.driver.calls = [.handler 1] ∧
      s.driver.dev.ssms 1 = some ⟨.activate, 7, 7, 4, false, none, none, 0⟩ ∧
      s.log = [.asked 0 0, .asked 1 1] ∧ s.path.fifo = [answerRecord 0] ∧ s.path.rxq = [] ∧
      s.path.sink.haveNormal = false := ⟨_, rfl, rfl, rfl, rfl, rfl, rfl, rfl⟩
  obtain ⟨s', hrun', hlog', -⟩ := imageRun_stores hrun hcalls hssm rfl rfl rfl hfifo hrxq hsink
  refine ⟨s', hrun', fun hown => ?_⟩
  obtain ⟨n, hn, hbody⟩ := hown s.log _ [] 1 (answerBody plainAnswers 0) hlog' rfl
  rw [hlog] at hn
  cases hn
  -- the two answers differ
  have hdecode := decode_plainAnswers 0
  rw [hbody, decode_plainAnswers 1] at hdecode
  have hpixels := congrArg DecodedImage.pixels (Except.ok.inj hdecode)
  have hhead := congrArg List.head? hpixels
  cases hhead

end Examples

end Gxfp
