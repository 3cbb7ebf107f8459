/-
The driver's `gxfp_poll_records`.

Every task of the driver waits by polling: the records that are there are read until none
is left, each is shown to the finger detection, and those on the TLS channel go to the
session.  Three layers look at a record one after the other, and each has its own idea of
what it may be.  For the framing an empty payload is a frame like any other, and for the
finger detection it is a record of no use.  The session refuses it, and the refusal ends
the poll and fails the task.
-/
import Gxfp.Flow.Arming
import Gxfp.Io.Reassembly
import Gxfp.Library.Loop
import Gxfp.Tls.Session

namespace Gxfp

open Bytes Loop

/-! ### The loop -/

/-- `struct _FpiDeviceGxfp`, as far as polling uses it, with what it talks to. -/
structure PollDevice (σ τ : Type) where
  dev : Dev
  /-- `none` while `tls.impl` is null. -/
  tls : Option (TlsSession τ)
  fdt : FdtFlow
  tapCap : Nat
  world : σ

/-- What a poll returns, the events it reports, and what it leaves. -/
structure PollResult (σ τ : Type) where
  ret : Int
  events : UInt32
  self : PollDevice σ τ

section Poll

variable {σ τ : Type}

/-- The `int` that `gxfp_fdt_flow_feed_record` returns. -/
def fdtRet : Except Errno Unit → Int
  | .ok () => 0
  | .error e => e.neg

variable (sys : Sys σ)

/-- A turn of the loop of `gxfp_poll_records`, with what `out_fdt_events` has collected. -/
def pollBody (x : UInt32 × PollDevice σ τ) :
    Turn (UInt32 × PollDevice σ τ) TapRecord (PollResult σ τ) :=
  let (outEvents, self) := x
  match devReadRecord sys self.dev self.tapCap self.world with
  | (.error .again, world) => .done [] ⟨0, outEvents, { self with world }⟩
  | (.error e, world) => .done [] ⟨e.neg, outEvents, { self with world }⟩
  | (.ok rec, world) =>
    if rec.ret = 0 then .done [rec] ⟨0, outEvents, { self with world }⟩
    else
      let (r, events, fdt, dev, world) :=
        fdtFlowFeedRecord sys self.dev self.fdt rec.hdr rec.payload world
      let self := { self with fdt, dev, world }
      if fdtRet r < 0 ∧ fdtRet r ≠ Errno.again.neg then .done [rec] ⟨fdtRet r, outEvents, self⟩
      else
        let outEvents := outEvents ||| events
        if rec.hdr.type = mpTypeTls.toUInt32 then
          let (r, tls) := svcFeedCipher self.tls rec.payload
          let self := { self with tls }
          if r < 0 then .done [rec] ⟨r, outEvents, self⟩ else .again [rec] (outEvents, self)
        else .again [rec] (outEvents, self)

/-- `gxfp_poll_records` -/
def gxfpPollRecords (fuel : Nat) (self : PollDevice σ τ) : Option (PollResult σ τ) :=
  run (pollBody sys) fuel (fdtEventNone, self)

end Poll

/-! ### What a stream comes to -/

namespace MpFrame

/-- The ciphertext of a frame. -/
def cipher (f : MpFrame) : List UInt8 := if f.type = mpTypeTls then f.payload else []

/-- What a frame reports about the finger. -/
def events (f : MpFrame) : UInt32 := fdtRecordEvents (tapRecordOf f 0).hdr f.payload

/-- A frame on the TLS channel with nothing in it. -/
def EmptyTls (f : MpFrame) : Prop := f.type = mpTypeTls ∧ f.payload = []

instance (f : MpFrame) : Decidable f.EmptyTls := inferInstanceAs (Decidable (_ ∧ _))

theorem type_tls_iff (f : MpFrame) (ts : UInt64) :
    (tapRecordOf f ts).hdr.type = mpTypeTls.toUInt32 ↔ f.type = mpTypeTls :=
  UInt8.toUInt32_inj

theorem fdtRecordEvents_tapRecordOf (f : MpFrame) (ts : UInt64) :
    fdtRecordEvents (tapRecordOf f ts).hdr f.payload = f.events := rfl

end MpFrame

/-- Everything that a stream of frames reports. -/
def streamEvents (frames : List MpFrame) (outEvents : UInt32) : UInt32 :=
  frames.foldl (fun e f => e ||| f.events) outEvents

/-- The session with more ciphertext in its queue. -/
def TlsSession.fed {τ : Type} (s : TlsSession τ) (bytes : List UInt8) : TlsSession τ :=
  { s with backend := { s.backend with rxq := s.backend.rxq ++ bytes } }

@[simp] theorem TlsSession.fed_nil {τ : Type} (s : TlsSession τ) : s.fed [] = s := by
  unfold TlsSession.fed
  rw [List.append_nil]

theorem TlsSession.fed_fed {τ : Type} (s : TlsSession τ) (xs ys : List UInt8) :
    (s.fed xs).fed ys = s.fed (xs ++ ys) := by
  unfold TlsSession.fed
  simp only [List.append_assoc]

/-- A device as `gxfp_img_open` leaves it. -/
structure PollDevice.Ready {σ τ : Type} (d : PollDevice σ τ) : Prop where
  opened : d.dev.Opened
  flow : d.fdt.Live
  cap : d.tapCap = Gxfp.tapCap

section Stream

variable {τ : Type} {now : List RxRecord → UInt64} {self : PollDevice (List RxRecord) τ}
  {tls : TlsSession τ}

/--
The poll drains a stream: it returns success with the stream consumed, the events of all
frames reported and the ciphertext queued in order.
-/
def Drains (now : List RxRecord → UInt64) (self : PollDevice (List RxRecord) τ)
    (tls : TlsSession τ) (frames : List MpFrame) : Prop :=
  ∃ fuel self', gxfpPollRecords (queueSys now) fuel self =
      some ⟨0, streamEvents frames fdtEventNone, self'⟩ ∧
    self'.world = [] ∧ self'.tls = some (tls.fed (frames.flatMap MpFrame.cipher))

/-! ### One frame -/

theorem svcFeedCipher_fed {payload : List UInt8} (hne : payload ≠ [])
    (hroom : tls.backend.rxq.length + payload.length ≤ rxqCap) :
    svcFeedCipher (some tls) payload = (0, some (tls.fed payload)) := by
  have hlen : payload.length ≠ 0 := by
    rw [Ne, List.length_eq_zero_iff]
    exact hne
  unfold svcFeedCipher tlsSessionFeedCipher tlsBackendFeedCipherRecord
  dsimp only
  rw [if_neg hlen, if_neg (Nat.not_lt.mpr hroom)]
  rfl

theorem svcFeedCipher_empty : svcFeedCipher (some tls) [] = (Errno.inval.neg, some tls) := rfl

variable (now) in
/--
**What a turn does with a frame.**  Only the session can refuse one, and it refuses those
that have nothing for it.
-/
theorem pollBody_frame (hself : self.Ready) (htls : self.tls = some tls) {f : MpFrame}
    {recs suffix : List RxRecord} (hworld : self.world = recs ++ suffix)
    (h : Fragments f.encoded recs) (hroom : tls.backend.rxq.length + f.cipher.length ≤ rxqCap)
    (outEvents : UInt32) :
    ∃ taken fdt dev, fdt.Live ∧ dev.Opened ∧
      pollBody (queueSys now) (outEvents, self) =
        if f.EmptyTls then
          .done taken ⟨Errno.inval.neg, outEvents ||| f.events,
            { self with fdt, dev, world := suffix, tls := some tls }⟩
        else
          .again taken (outEvents ||| f.events,
            { self with fdt, dev, world := suffix, tls := some (tls.fed f.cipher) }) := by
  obtain ⟨ts, hread⟩ : ∃ ts, devReadRecord (queueSys now) self.dev self.tapCap self.world =
      (.ok (tapRecordOf f ts), suffix) := by
    rw [hself.cap, hworld]
    exact devReadRecord_frame hself.opened f h suffix
  have hwrite : ∀ b q, (queueSys now).write b q = (.ok b.length, q) := fun _ _ => rfl
  obtain ⟨r, fdt, dev, hfeed, hr, hlive, hopen⟩ := fdtFlowFeedRecord_sent hwrite hself.opened
    hself.flow (tapRecordOf f ts).hdr f.payload suffix
  have hgoes : ¬ (fdtRet r < 0 ∧ fdtRet r ≠ Errno.again.neg) := by
    rcases hr with rfl | rfl
    · exact fun hfails => absurd hfails.1 (by decide)
    · exact fun hfails => hfails.2 rfl
  have hret : (tapRecordOf f ts).ret ≠ 0 := by
    have hpos : 0 < sizeofTapHdr := by decide
    show sizeofTapHdr + f.payload.length ≠ 0
    omega
  refine ⟨[tapRecordOf f ts], fdt, dev, hlive, hopen, ?_⟩
  unfold pollBody
  dsimp only
  rw [hread]
  dsimp only
  rw [if_neg hret]
  have hpayload : (tapRecordOf f ts).payload = f.payload := rfl
  rw [hpayload, hfeed]
  dsimp only
  rw [if_neg hgoes, MpFrame.fdtRecordEvents_tapRecordOf, htls]
  by_cases htype : f.type = mpTypeTls
  · have hcipher : f.cipher = f.payload := if_pos htype
    rw [hcipher] at hroom ⊢
    rw [if_pos ((f.type_tls_iff ts).mpr htype)]
    by_cases hempty : f.payload = []
    · have hneg : Errno.inval.neg < 0 := by decide
      have hnone : f.EmptyTls := ⟨htype, hempty⟩
      rw [if_pos hnone, hempty, svcFeedCipher_empty]
      dsimp only
      rw [if_pos hneg]
    · have hsome : ¬ f.EmptyTls := fun hnone => hempty hnone.2
      rw [if_neg hsome, svcFeedCipher_fed hempty hroom]
      dsimp only
      rw [if_neg (Int.lt_irrefl 0)]
  · have hcipher : f.cipher = [] := if_neg htype
    have hother : ¬ (tapRecordOf f ts).hdr.type = mpTypeTls.toUInt32 :=
      fun htls => htype ((f.type_tls_iff ts).mp htls)
    have hsome : ¬ f.EmptyTls := fun hnone => htype hnone.1
    rw [if_neg hother, if_neg hsome, hcipher, TlsSession.fed_nil]

/-- With nothing left the poll is over. -/
theorem pollBody_nil (hself : self.Ready) (hworld : self.world = []) (outEvents : UInt32) :
    pollBody (queueSys now) (outEvents, self) = .done [] ⟨0, outEvents, self⟩ := by
  have hread : devReadRecord (queueSys now) self.dev self.tapCap self.world =
      (.error .again, self.world) := by
    rw [hworld, devReadRecord_eq hself.opened]
    rfl
  unfold pollBody
  dsimp only
  rw [hread]

/-! ### A stream -/

variable (now) in
/-- **The first frame of a stream** ends the poll, or it passes and the rest is to come. -/
theorem pollStep {f : MpFrame} {frames : List MpFrame} {recs suffix : List RxRecord}
    (hframes : Carries ((f :: frames).map Item.frame) recs) (hself : self.Ready)
    (htls : self.tls = some tls) (hworld : self.world = recs ++ suffix)
    (hroom : tls.backend.rxq.length + ((f :: frames).flatMap MpFrame.cipher).length ≤ rxqCap)
    (outEvents : UInt32) :
    (f.EmptyTls ∧ ∃ taken result, pollBody (queueSys now) (outEvents, self) = .done taken result ∧
      result.ret = Errno.inval.neg) ∨
    (¬ f.EmptyTls ∧ ∃ taken self' rest,
      Again (pollBody (queueSys now)) (outEvents, self) taken (outEvents ||| f.events, self') ∧
      Carries (frames.map Item.frame) rest ∧ self'.Ready ∧
      self'.tls = some (tls.fed f.cipher) ∧ self'.world = rest ++ suffix ∧
      (tls.fed f.cipher).backend.rxq.length + (frames.flatMap MpFrame.cipher).length ≤ rxqCap) := by
  cases hframes with
  | @frame _ recs rest _ hf hrest =>
      rw [List.flatMap_cons, List.length_append] at hroom
      rw [List.append_assoc] at hworld
      obtain ⟨taken, fdt, dev, hlive, hopen, hturn⟩ :=
        pollBody_frame now hself htls hworld (hf _ f.mpBuild_eq) (by omega) outEvents
      by_cases hempty : f.EmptyTls
      · rw [if_pos hempty] at hturn
        exact Or.inl ⟨hempty, taken, _, hturn, rfl⟩
      · rw [if_neg hempty] at hturn
        refine Or.inr ⟨hempty, taken, _, rest, hturn, hrest, ⟨hopen, hlive, hself.cap⟩,
          rfl, rfl, ?_⟩
        rw [TlsSession.fed, List.length_append]
        omega

variable (now) in
/-- **Frames that have something for everybody pass.** -/
theorem pollTurns {frames : List MpFrame} (hgood : ∀ f ∈ frames, ¬ f.EmptyTls)
    {recs : List RxRecord} (hframes : Carries (frames.map Item.frame) recs)
    (hself : self.Ready) (htls : self.tls = some tls) {suffix : List RxRecord}
    (hworld : self.world = recs ++ suffix)
    (hroom : tls.backend.rxq.length + (frames.flatMap MpFrame.cipher).length ≤ rxqCap)
    (outEvents : UInt32) :
    ∃ taken self', Turns (Again (pollBody (queueSys now))) (outEvents, self) taken
        (streamEvents frames outEvents, self') ∧
      self'.Ready ∧ self'.world = suffix ∧
      self'.tls = some (tls.fed (frames.flatMap MpFrame.cipher)) := by
  induction frames generalizing recs self tls outEvents with
  | nil =>
      cases hframes
      refine ⟨[], self, .nil, hself, hworld, ?_⟩
      rw [htls, List.flatMap_nil, TlsSession.fed_nil]
  | cons f frames ih =>
      rcases pollStep now hframes hself htls hworld hroom outEvents with
        ⟨hempty, -⟩ | ⟨-, xs, next, rest, hturn, hrest, hnext, htls', hworld', hroom'⟩
      · exact absurd hempty (hgood f (List.mem_cons_self ..))
      · obtain ⟨ys, self', hturns, hself', hdone, hfed⟩ :=
          ih (fun g hg => hgood g (List.mem_cons_of_mem _ hg)) hrest hnext htls' hworld' hroom'
            (outEvents ||| f.events)
        refine ⟨xs ++ ys, self', .cons hturn hturns, hself', hdone, ?_⟩
        rw [hfed, TlsSession.fed_fed, List.flatMap_cons]

variable (now) in
/-- **A frame that has nothing for the session ends the poll.** -/
theorem pollStops {frames : List MpFrame} {f : MpFrame} (hf : f ∈ frames) (hempty : f.EmptyTls)
    {recs : List RxRecord} (hframes : Carries (frames.map Item.frame) recs)
    (hself : self.Ready) (htls : self.tls = some tls) {suffix : List RxRecord}
    (hworld : self.world = recs ++ suffix)
    (hroom : tls.backend.rxq.length + (frames.flatMap MpFrame.cipher).length ≤ rxqCap)
    (outEvents : UInt32) :
    ∃ fuel result, run (pollBody (queueSys now)) fuel (outEvents, self) = some result ∧
      result.ret = Errno.inval.neg := by
  induction frames generalizing recs self tls outEvents with
  | nil => cases hf
  | cons g frames ih =>
      rcases pollStep now hframes hself htls hworld hroom outEvents with
        ⟨-, taken, result, hdone, hret⟩ |
        ⟨hsome, taken, next, rest, hturn, hrest, hnext, htls', hworld', hroom'⟩
      · exact ⟨1, result, run_done hdone 0, hret⟩
      · have hmem : f ∈ frames := by
          rcases List.mem_cons.mp hf with rfl | hmem
          · exact absurd hempty hsome
          · exact hmem
        obtain ⟨fuel, result, hrun, hret⟩ :=
          ih hmem hrest hnext htls' hworld' hroom' (outEvents ||| g.events)
        refine ⟨fuel + 1, result, ?_, hret⟩
        rw [run_again hturn]
        exact hrun

/-- A poll that ends so drains nothing. -/
theorem not_drains {frames : List MpFrame} {f : MpFrame} (hf : f ∈ frames) (hempty : f.EmptyTls)
    (hframes : Carries (frames.map Item.frame) self.world) (hself : self.Ready)
    (htls : self.tls = some tls)
    (hroom : tls.backend.rxq.length + (frames.flatMap MpFrame.cipher).length ≤ rxqCap) :
    ¬ Drains now self tls frames := by
  rintro ⟨fuel, self', hrun, -⟩
  obtain ⟨fuel', result, hrun', hret⟩ :=
    pollStops now hf hempty hframes hself htls (List.append_nil _).symm hroom fdtEventNone
  have hsame := run_unique hrun hrun'
  have hne : (0 : Int) ≠ Errno.inval.neg := by decide
  rw [← hsame] at hret
  exact hne hret

/-- **The poll drains exactly the streams without an empty frame on the TLS channel.** -/
theorem drains_iff {frames : List MpFrame}
    (hframes : Carries (frames.map Item.frame) self.world) (hself : self.Ready)
    (htls : self.tls = some tls)
    (hroom : tls.backend.rxq.length + (frames.flatMap MpFrame.cipher).length ≤ rxqCap) :
    Drains now self tls frames ↔ ∀ f ∈ frames, f.type = mpTypeTls → f.payload ≠ [] := by
  constructor
  · intro hdrains f hf htype hnil
    exact not_drains hf ⟨htype, hnil⟩ hframes hself htls hroom hdrains
  · intro hgood
    obtain ⟨taken, self', hturns, hready, hworld, htls'⟩ :=
      pollTurns now (fun f hf hempty => hgood f hf hempty.1 hempty.2) hframes hself htls
        (List.append_nil _).symm hroom fdtEventNone
    obtain ⟨fuel, hrun⟩ := run_of_turns hturns (pollBody_nil hready hworld _)
    exact ⟨fuel, self', hrun, hworld, htls'⟩

end Stream

/-! ### Runs -/

/-- A frame that fits one record is carried by it. -/
theorem carries_mailboxOf (f : MpFrame) (hlen : f.encoded.length ≤ rxMax) {items : List Item}
    {rest : List RxRecord} (h : Carries items rest) :
    Carries (.frame f :: items) (mailboxOf f.encoded hlen :: rest) := by
  have hf : ∀ bytes, mpBuild f.type f.payload mpFrameMax = .ok bytes →
      Fragments bytes [mailboxOf f.encoded hlen] := by
    intro bytes hbytes
    rw [f.mpBuild_eq] at hbytes
    cases hbytes
    exact .last (mailboxOf_mailbox _ _) rfl
  exact .frame hf h

theorem length_emptyTls : ([] : List UInt8).length < mpLenMax := by decide

def emptyTls : MpFrame := ⟨mpTypeTls, [], mpTypeValid_tls, length_emptyTls⟩

def cipherPayload : List UInt8 := [0x17, 0x03, 0x03, 0x00, 0x01, 0x00]

theorem length_cipherPayload : cipherPayload.length < mpLenMax := by decide

def cipherTls : MpFrame := ⟨mpTypeTls, cipherPayload, mpTypeValid_tls, length_cipherPayload⟩

theorem length_badTouch : badTouch.2.length < mpLenMax := by decide

def touchNotice : MpFrame := ⟨mpTypeNotice, badTouch.2, mpTypeValid_notice, length_badTouch⟩

def connectedTls : TlsSession Unit := ⟨.connected, 0, ⟨[], true, ()⟩⟩

/-- A new flow and a connected session, with these records to be read. -/
def pollDevice (world : List RxRecord) : PollDevice (List RxRecord) Unit :=
  ⟨⟨3, 0, 1000, true⟩, some connectedTls, fdtFlowInit, tapCap, world⟩

theorem pollDevice_ready (world : List RxRecord) : (pollDevice world).Ready := by
  have hopen : Dev.Opened ⟨3, 0, 1000, true⟩ := ⟨by decide, rfl⟩
  exact ⟨hopen, fdtFlowInit_live, rfl⟩

/-- One empty frame on the TLS channel fails the poll. -/
theorem drains_emptyTls :
    Carries ([emptyTls].map Item.frame) [mailboxOf emptyTls.encoded (by decide)] ∧
    ¬ Drains (fun _ => 0) (pollDevice [mailboxOf emptyTls.encoded (by decide)]) connectedTls
      [emptyTls] := by
  have hcarries : Carries ([emptyTls].map Item.frame)
      [mailboxOf emptyTls.encoded (by decide)] := carries_mailboxOf emptyTls _ .nil
  exact ⟨hcarries, not_drains (List.mem_singleton_self emptyTls) ⟨rfl, rfl⟩ hcarries
    (pollDevice_ready _) rfl (by decide)⟩

/-- A touch that is reported badly, and a record for the session. -/
theorem drains_iff_touch :
    Drains (fun _ => 0)
      (pollDevice [mailboxOf touchNotice.encoded (by decide),
        mailboxOf cipherTls.encoded (by decide)]) connectedTls [touchNotice, cipherTls] := by
  have hcarries : Carries ([touchNotice, cipherTls].map Item.frame)
      [mailboxOf touchNotice.encoded (by decide), mailboxOf cipherTls.encoded (by decide)] :=
    carries_mailboxOf touchNotice _ (carries_mailboxOf cipherTls _ .nil)
  refine (drains_iff hcarries (pollDevice_ready _) rfl (by decide)).mpr ?_
  simp [touchNotice, cipherTls, cipherPayload, badTouch]

end Gxfp
