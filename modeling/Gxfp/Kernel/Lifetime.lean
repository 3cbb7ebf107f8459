/-
Who holds `struct gxfp`, in `src/kernel/gxfp.c`.

The driver that is bound has a reference, which the devm action gives back behind
`gxfp_remove`, and every open file has one.  `gxfp_release` clears `opened` under
`open_lock` and gives its reference back afterwards, so that the next file may be open
while the last one is still being closed.  No step asks whether the object is there: that
it is follows from the count.

The misc core holds its own lock while it opens a file, from looking the device up to
what `gxfp_open` returns, and takes it to deregister the device.
-/
import Gxfp.Errno
import Gxfp.Library.Transducer

namespace Gxfp

/-! ### The reference count -/

/-- `kref_get` -/
def krefGet (refs : Nat) : Nat := refs + 1

/-- `kref_put`, and whether it calls the release function. -/
def krefPut (refs : Nat) : Nat × Bool := (refs - 1, refs = 1)

/-! ### The state -/

/-- How far `gxfp_remove` has come. -/
inductive RemovePlace
  | notCalled
  | flagged
  | deregistered
  | returned
  deriving DecidableEq, Repr

/-- `struct gxfp`, as far as it is about who has it open, and who is at work on it. -/
structure LifeState where
  refs : Nat
  opened : Bool
  removed : Bool
  /-- `misc_open` has looked the device up, and holds the lock of the misc core. -/
  opening : Bool
  /-- Files that are open. -/
  files : Nat
  /-- Calls of `gxfp_release` in front of their `gxfp_put`. -/
  releasing : Nat
  remove : RemovePlace
  /-- The devm action has run. -/
  actionDone : Bool
  deriving DecidableEq, Repr

/-- After `gxfp_probe`. -/
def LifeState.probed : LifeState where
  refs := 1
  opened := false
  removed := false
  opening := false
  files := 0
  releasing := 0
  remove := .notCalled
  actionDone := false

/-- The misc core has the device in its list. -/
def LifeState.Registered (s : LifeState) : Prop :=
  s.remove = .notCalled ∨ s.remove = .flagged

instance (s : LifeState) : Decidable s.Registered := inferInstanceAs (Decidable (_ ∨ _))

/-! ### Steps -/

/-- What is seen of a step; `freed` is whether `gxfp_release_dev` runs in it. -/
inductive LifeEvent
  | openReturned (result : Except Errno Unit)
  /-- A file operation on an open file. -/
  | used
  /-- `gxfp_release` has cleared `opened`. -/
  | releaseBegun
  | releasePut (freed : Bool)
  /-- `gxfp_remove` has set `removed`. -/
  | removedSet
  | deregistered
  | removeReturned
  | actionPut (freed : Bool)
  deriving DecidableEq

inductive LifeAct
  /-- `misc_open` finds the device. -/
  | lookup
  /-- `gxfp_open`, by a process with `CAP_SYS_RAWIO` or without. -/
  | open (capable : Bool)
  | use
  /-- The two parts of `gxfp_release`. -/
  | release
  | releasePut
  /-- The parts of `gxfp_remove`. -/
  | removeFlag
  | removeDeregister
  | removeReturn
  /-- `gxfp_put_action` -/
  | putAction
  deriving DecidableEq, Repr

/-- `gxfp_open` -/
def gxfpOpen (s : LifeState) (capable : Bool) : LifeState × Except Errno Unit :=
  if ¬ capable then (s, .error .perm)
  else if s.removed then (s, .error .nodev)
  else if s.opened then (s, .error .busy)
  else ({ s with opened := true, refs := krefGet s.refs, files := s.files + 1 }, .ok ())

def lifeStep (s : LifeState) : LifeAct → Option (LifeState × Option LifeEvent)
  | .lookup =>
    if s.Registered ∧ ¬ s.opening then some ({ s with opening := true }, none) else none
  | .open capable =>
    if s.opening then
      let (s, result) := gxfpOpen { s with opening := false } capable
      some (s, some (.openReturned result))
    else none
  | .use => if 0 < s.files then some (s, some .used) else none
  | .release =>
    if 0 < s.files then
      some ({ s with opened := false, files := s.files - 1, releasing := s.releasing + 1 },
        some .releaseBegun)
    else none
  | .releasePut =>
    if 0 < s.releasing then
      let (refs, freed) := krefPut s.refs
      some ({ s with refs, releasing := s.releasing - 1 }, some (.releasePut freed))
    else none
  | .removeFlag =>
    if s.remove = .notCalled then
      some ({ s with removed := true, remove := .flagged }, some .removedSet)
    else none
  | .removeDeregister =>
    if s.remove = .flagged ∧ ¬ s.opening then
      some ({ s with remove := .deregistered }, some .deregistered)
    else none
  | .removeReturn =>
    if s.remove = .deregistered then some ({ s with remove := .returned }, some .removeReturned)
    else none
  | .putAction =>
    if s.remove = .returned ∧ ¬ s.actionDone then
      let (refs, freed) := krefPut s.refs
      some ({ s with refs, actionDone := true }, some (.actionPut freed))
    else none

/-- An interleaving, and the events of it in order. -/
def lifeRun : List LifeAct → LifeState → Option (LifeState × List LifeEvent) :=
  Transducer.run lifeStep

/-! ### Kinds of events -/

namespace LifeEvent

/-- An open that succeeds. -/
def isOpened : LifeEvent → Bool
  | .openReturned (.ok ()) => true
  | _ => false

def isReleaseBegun : LifeEvent → Bool
  | .releaseBegun => true
  | _ => false

def isReleasePut : LifeEvent → Bool
  | .releasePut _ => true
  | _ => false

def isActionPut : LifeEvent → Bool
  | .actionPut _ => true
  | _ => false

def isPut (e : LifeEvent) : Bool := e.isReleasePut || e.isActionPut

/-- `gxfp_release_dev` has run. -/
def isFreed : LifeEvent → Bool
  | .releasePut freed | .actionPut freed => freed
  | _ => false

end LifeEvent

/-! ### The invariant -/

/-- The reference of the driver that is bound. -/
def LifeState.driverRefs (s : LifeState) : Nat := if s.actionDone then 0 else 1

structure LifeState.Inv (s : LifeState) : Prop where
  /-- Everybody who has a reference is counted, and nobody else. -/
  refs : s.refs = s.files + s.releasing + s.driverRefs
  files : s.files = if s.opened then 1 else 0
  removed : s.removed = true ↔ s.remove ≠ .notCalled
  /-- The misc core opens no file of a device that it does not know. -/
  opening : s.opening = true → s.Registered
  action : s.actionDone = true → s.remove = .returned

theorem lifeInv_probed : LifeState.probed.Inv where
  refs := rfl
  files := rfl
  removed := by decide
  opening := nofun
  action := nofun

section Steps

variable {s s' : LifeState} {a : LifeAct} {event : Option LifeEvent}

/-- While the driver is bound its reference is there. -/
theorem LifeState.Inv.driverRefs (h : s.Inv) (hremove : s.remove ≠ .returned) :
    s.driverRefs = 1 := by
  have hnot : ¬ s.actionDone = true := fun hdone => hremove (h.action hdone)
  rw [LifeState.driverRefs, if_neg hnot]

/-- What `gxfp_open` does: it fails, and nothing happens, or there is one more file. -/
theorem gxfpOpen_cases (s : LifeState) (capable : Bool) :
    (∃ e, gxfpOpen s capable = (s, .error e)) ∨
      s.removed = false ∧ s.opened = false ∧ gxfpOpen s capable =
        ({ s with opened := true, refs := s.refs + 1, files := s.files + 1 }, .ok ()) := by
  unfold gxfpOpen
  by_cases hcapable : capable = true
  case neg =>
    rw [if_pos hcapable]
    exact Or.inl ⟨_, rfl⟩
  rw [if_neg (not_not.mpr hcapable)]
  by_cases hremoved : s.removed = true
  · rw [if_pos hremoved]
    exact Or.inl ⟨_, rfl⟩
  by_cases hopened : s.opened = true
  · rw [if_neg hremoved, if_pos hopened]
    exact Or.inl ⟨_, rfl⟩
  · rw [if_neg hremoved, if_neg hopened]
    exact Or.inr ⟨Bool.not_eq_true _ ▸ hremoved, Bool.not_eq_true _ ▸ hopened, rfl⟩

/-- What a step does, as far as its event says it. -/
structure LifeState.Moves (s : LifeState) (event : Option LifeEvent) (s' : LifeState) : Prop where
  inv : s'.Inv
  refs : s'.refs + event.toList.countP LifeEvent.isPut =
    s.refs + event.toList.countP LifeEvent.isOpened
  files : s'.files + event.toList.countP LifeEvent.isReleaseBegun =
    s.files + event.toList.countP LifeEvent.isOpened
  driver : s'.driverRefs + event.toList.countP LifeEvent.isActionPut = s.driverRefs
  /-- The object is released in the step that takes the last reference. -/
  freed : (if s'.refs = 0 then 1 else 0) =
    (if s.refs = 0 then 1 else 0) + event.toList.countP LifeEvent.isFreed
  removed : s.removed = true → s'.removed = true
  flagged : event = some .removedSet → s'.removed = true
  opened : event = some (.openReturned (.ok ())) → s.removed = false

/-- A step that neither takes a reference nor gives one back. -/
theorem LifeState.Inv.moves_same (h : s'.Inv) (hrefs : s'.refs = s.refs)
    (hfiles : s'.files = s.files) (hdriver : s'.driverRefs = s.driverRefs)
    (hremoved : s.removed = true → s'.removed = true)
    (hflagged : event = some .removedSet → s'.removed = true)
    (hevent : ∀ e ∈ event, e.isPut = false ∧ e.isOpened = false ∧ e.isReleaseBegun = false) :
    s.Moves event s' := by
  have hnone (p : LifeEvent → Bool) (hp : ∀ e ∈ event, p e = false) :
      event.toList.countP p = 0 := by
    rw [List.countP_eq_zero]
    intro e he
    rw [hp e (Option.mem_toList.mp he)]
    nofun
  have hput : event.toList.countP LifeEvent.isPut = 0 := hnone _ fun e he => (hevent e he).1
  have hopened : event.toList.countP LifeEvent.isOpened = 0 :=
    hnone _ fun e he => (hevent e he).2.1
  have hbegun : event.toList.countP LifeEvent.isReleaseBegun = 0 :=
    hnone _ fun e he => (hevent e he).2.2
  have haction : event.toList.countP LifeEvent.isActionPut = 0 := by
    refine hnone _ fun e he => ?_
    exact (Bool.or_eq_false_iff.mp (hevent e he).1).2
  have hfreed : event.toList.countP LifeEvent.isFreed = 0 := by
    refine hnone _ fun e he => ?_
    have hnot := (hevent e he).1
    cases e with
    | releasePut freed | actionPut freed => cases hnot
    | _ => rfl
  refine ⟨h, ?_, ?_, ?_, ?_, hremoved, hflagged, ?_⟩
  · rw [hput, hopened, hrefs]
  · rw [hbegun, hopened, hfiles]
  · rw [haction, hdriver, Nat.add_zero]
  · rw [hfreed, hrefs, Nat.add_zero]
  · rintro rfl
    cases (hevent _ rfl).2.1

/-- Giving back a reference that is there releases the object exactly if it was the last. -/
theorem krefPut_freed {refs : Nat} (hpos : 0 < refs) (e : LifeEvent)
    (he : e.isFreed = (krefPut refs).2) :
    (if (krefPut refs).1 = 0 then 1 else 0) =
      (if refs = 0 then 1 else 0) + (some e).toList.countP LifeEvent.isFreed := by
  rw [if_neg (Nat.pos_iff_ne_zero.mp hpos), Option.toList_some, List.countP_singleton, he]
  unfold krefPut
  by_cases hone : refs = 1
  · simp [hone]
  · have hmore : refs - 1 ≠ 0 := by omega
    simp [hone, hmore]

/-- While the misc core opens a file the driver is bound. -/
theorem LifeState.Inv.refs_ne_of_opening (h : s.Inv) (hopening : s.opening = true) :
    s.refs ≠ 0 := by
  have hbound : s.remove ≠ .returned := by
    rcases h.opening hopening with hplace | hplace <;> rw [hplace] <;> nofun
  have hdriver : s.driverRefs = 1 := h.driverRefs hbound
  have hrefs := h.refs
  omega

theorem LifeState.Inv.moves_open (h : s.Inv) (hopening : s.opening = true) (capable : Bool) :
    s.Moves (some (.openReturned (gxfpOpen { s with opening := false } capable).2))
      (gxfpOpen { s with opening := false } capable).1 := by
  have hrefs := h.refs
  have hfiles := h.files
  have hclosed : LifeState.Inv { s with opening := false } := { h with opening := nofun }
  rcases gxfpOpen_cases { s with opening := false } capable with
    ⟨e, hopen⟩ | ⟨hremoved, hopened, hopen⟩
  · rw [hopen]
    refine hclosed.moves_same rfl rfl rfl id nofun ?_
    rintro _ ⟨⟩
    exact ⟨rfl, rfl, rfl⟩
  · rw [hopen]
    have hopened' : s.opened = false := hopened
    rw [hopened'] at hfiles
    have hinv : LifeState.Inv
        { s with opening := false, opened := true, refs := s.refs + 1, files := s.files + 1 } := by
      refine ⟨?_, ?_, h.removed, nofun, h.action⟩
      · show s.refs + 1 = s.files + 1 + s.releasing + s.driverRefs
        omega
      · show s.files + 1 = 1
        rw [hfiles]
        rfl
    refine ⟨hinv, rfl, rfl, rfl, ?_, id, nofun, fun _ => hremoved⟩
    show 0 = (if s.refs = 0 then 1 else 0) + 0
    rw [if_neg (h.refs_ne_of_opening hopening)]

/-- The driver is bound until `gxfp_remove` has returned. -/
theorem LifeState.Inv.bound (h : s.Inv) (hplace : s.remove ≠ .returned) :
    ¬ s.actionDone = true :=
  fun hdone => hplace (h.action hdone)

/-- **The step lemma.**  Every step keeps the invariant, and its event says what it does to
the count. -/
theorem LifeState.Inv.moves (h : s.Inv) (hs : lifeStep s a = some (s', event)) :
    s.Moves event s' := by
  have hrefs := h.refs
  have hfiles := h.files
  cases a with
  | lookup =>
    obtain ⟨hcan, hs⟩ := Option.ite_none_right_eq_some.mp hs
    cases hs
    exact LifeState.Inv.moves_same { h with opening := fun _ => hcan.1 } rfl rfl rfl id nofun nofun
  | «open» capable =>
    obtain ⟨hopening, hs⟩ := Option.ite_none_right_eq_some.mp hs
    cases hs
    exact h.moves_open hopening capable
  | use =>
    obtain ⟨hopen, hs⟩ := Option.ite_none_right_eq_some.mp hs
    cases hs
    refine h.moves_same rfl rfl rfl id nofun ?_
    rintro _ ⟨⟩
    exact ⟨rfl, rfl, rfl⟩
  | release =>
    obtain ⟨hopen, hs⟩ := Option.ite_none_right_eq_some.mp hs
    cases hs
    have hinv : LifeState.Inv
        { s with opened := false, files := s.files - 1, releasing := s.releasing + 1 } := by
      refine ⟨?_, ?_, h.removed, h.opening, h.action⟩
      · show s.refs = s.files - 1 + (s.releasing + 1) + s.driverRefs
        omega
      · show s.files - 1 = 0
        split at hfiles <;> omega
    refine ⟨hinv, rfl, ?_, rfl, rfl, id, nofun, nofun⟩
    show s.files - 1 + 1 = s.files + 0
    omega
  | releasePut =>
    obtain ⟨hreleasing, hs⟩ := Option.ite_none_right_eq_some.mp hs
    cases hs
    have hpos : 0 < s.refs := by omega
    have hinv : LifeState.Inv
        { s with refs := (krefPut s.refs).1, releasing := s.releasing - 1 } := by
      refine ⟨?_, h.files, h.removed, h.opening, h.action⟩
      show s.refs - 1 = s.files + (s.releasing - 1) + s.driverRefs
      omega
    refine ⟨hinv, ?_, rfl, rfl, krefPut_freed hpos _ rfl, id, nofun, nofun⟩
    show s.refs - 1 + 1 = s.refs + 0
    omega
  | removeFlag =>
    obtain ⟨hplace, hs⟩ := Option.ite_none_right_eq_some.mp hs
    cases hs
    have hbound : ¬ s.actionDone = true := h.bound (by rw [hplace]; nofun)
    have hinv : LifeState.Inv { s with removed := true, remove := .flagged } := by
      refine ⟨h.refs, h.files, ⟨fun _ => nofun, fun _ => rfl⟩, fun _ => Or.inr rfl, ?_⟩
      exact fun hdone => absurd hdone hbound
    refine hinv.moves_same rfl rfl rfl (fun _ => rfl) (fun _ => rfl) ?_
    rintro _ ⟨⟩
    exact ⟨rfl, rfl, rfl⟩
  | removeDeregister =>
    obtain ⟨⟨hplace, hopening⟩, hs⟩ := Option.ite_none_right_eq_some.mp hs
    cases hs
    have hremoved : s.removed = true := h.removed.mpr (by rw [hplace]; nofun)
    have hbound : ¬ s.actionDone = true := h.bound (by rw [hplace]; nofun)
    have hinv : LifeState.Inv { s with remove := .deregistered } := by
      refine ⟨h.refs, h.files, ⟨fun _ => nofun, fun _ => hremoved⟩, ?_, ?_⟩
      · exact fun hopens => absurd hopens hopening
      · exact fun hdone => absurd hdone hbound
    refine hinv.moves_same rfl rfl rfl id nofun ?_
    rintro _ ⟨⟩
    exact ⟨rfl, rfl, rfl⟩
  | removeReturn =>
    obtain ⟨hplace, hs⟩ := Option.ite_none_right_eq_some.mp hs
    cases hs
    have hremoved : s.removed = true := h.removed.mpr (by rw [hplace]; nofun)
    have hopening : ¬ s.opening = true := fun hopens => by
      rcases h.opening hopens with hother | hother <;> rw [hplace] at hother <;> cases hother
    have hinv : LifeState.Inv { s with remove := .returned } := by
      refine ⟨h.refs, h.files, ⟨fun _ => nofun, fun _ => hremoved⟩, ?_, fun _ => rfl⟩
      exact fun hopens => absurd hopens hopening
    refine hinv.moves_same rfl rfl rfl id nofun ?_
    rintro _ ⟨⟩
    exact ⟨rfl, rfl, rfl⟩
  | putAction =>
    obtain ⟨⟨hplace, hdone⟩, hs⟩ := Option.ite_none_right_eq_some.mp hs
    cases hs
    have hdriver : s.driverRefs = 1 := if_neg hdone
    have hpos : 0 < s.refs := by omega
    have hinv : LifeState.Inv { s with refs := (krefPut s.refs).1, actionDone := true } := by
      refine ⟨?_, h.files, h.removed, h.opening, fun _ => hplace⟩
      show s.refs - 1 = s.files + s.releasing + 0
      omega
    refine ⟨hinv, ?_, rfl, ?_, krefPut_freed hpos _ rfl, id, nofun, nofun⟩
    · show s.refs - 1 + 1 = s.refs + 0
      omega
    · show 0 + 1 = s.driverRefs
      rw [hdriver]

/-- **Behind the last reference nobody takes a step.** -/
theorem LifeState.Inv.stopped (h : s.Inv) (hrefs : s.refs = 0) (a : LifeAct) :
    lifeStep s a = none := by
  have hcount := h.refs
  have hdone : s.actionDone = true := by
    by_contra hnot
    rw [LifeState.driverRefs, if_neg hnot] at hcount
    omega
  have hreturned : s.remove = .returned := h.action hdone
  have hunregistered : ¬ s.Registered := by
    rw [LifeState.Registered, hreturned]
    nofun
  have hopening : ¬ s.opening = true := fun hopening => hunregistered (h.opening hopening)
  have hfiles : ¬ 0 < s.files := by omega
  have hreleasing : ¬ 0 < s.releasing := by omega
  cases a with
  | lookup => exact if_neg fun hcan => hunregistered hcan.1
  | «open» capable => exact if_neg hopening
  | use => exact if_neg hfiles
  | release => exact if_neg hfiles
  | releasePut => exact if_neg hreleasing
  | removeFlag => exact if_neg (by rw [hreturned]; nofun)
  | removeDeregister => exact if_neg (by rw [hreturned]; nofun)
  | removeReturn => exact if_neg (by rw [hreturned]; nofun)
  | putAction => exact if_neg fun hcan => hcan.2 hdone

end Steps

/-! ### Every interleaving -/

section Runs

variable {acts : List LifeAct} {s : LifeState} {log before after : List LifeEvent}

/-- The references of the driver that is bound, as the log has them. -/
def LifeEvent.boundRefs (log : List LifeEvent) : Nat :=
  if log.any LifeEvent.isActionPut then 0 else 1

theorem lifeRun_inv (hrun : lifeRun acts .probed = some (s, log)) : s.Inv :=
  Transducer.run_keeps LifeState.Inv hrun lifeInv_probed fun _ _ _ _ h hs _ => (h.moves hs).inv

theorem LifeState.Inv.next {s s' : LifeState} {a : LifeAct} {event : Option LifeEvent}
    (h : s.Inv) (hs : lifeStep s a = some (s', event)) : s'.Inv :=
  (h.moves hs).inv

/-- The count is of the puts and of the opens. -/
theorem lifeRun_refs (hrun : lifeRun acts .probed = some (s, log)) :
    s.refs + log.countP LifeEvent.isPut = 1 + log.countP LifeEvent.isOpened :=
  Transducer.run_counts LifeState.refs _ _ hrun lifeInv_probed (fun _ _ _ _ => LifeState.Inv.next)
    fun _ _ _ _ h hs => (h.moves hs).refs

theorem lifeRun_files (hrun : lifeRun acts .probed = some (s, log)) :
    s.files + log.countP LifeEvent.isReleaseBegun = log.countP LifeEvent.isOpened := by
  have hcount := Transducer.run_counts LifeState.files LifeEvent.isOpened LifeEvent.isReleaseBegun
    hrun lifeInv_probed (fun _ _ _ _ => LifeState.Inv.next)
    fun _ _ _ _ h hs => (h.moves hs).files
  exact hcount.trans (Nat.zero_add _)

private theorem countP_never (log : List LifeEvent) : log.countP (fun _ => false) = 0 :=
  congrFun List.countP_false log

theorem lifeRun_driver (hrun : lifeRun acts .probed = some (s, log)) :
    s.driverRefs + log.countP LifeEvent.isActionPut = 1 := by
  have hcount := Transducer.run_counts LifeState.driverRefs (fun _ => false) LifeEvent.isActionPut
    hrun lifeInv_probed (fun _ _ _ _ => LifeState.Inv.next) fun _ _ _ event h hs => by
      rw [(h.moves hs).driver, countP_never, Nat.add_zero]
  rw [hcount, countP_never]
  rfl

theorem lifeRun_freed (hrun : lifeRun acts .probed = some (s, log)) :
    log.countP LifeEvent.isFreed = if s.refs = 0 then 1 else 0 := by
  have hcount := Transducer.run_counts (fun s : LifeState => if s.refs = 0 then 1 else 0)
    LifeEvent.isFreed (fun _ => false) hrun lifeInv_probed
    (fun _ _ _ _ => LifeState.Inv.next) fun _ _ _ event h hs => by
      rw [(h.moves hs).freed, countP_never, Nat.add_zero]
  rw [countP_never, Nat.add_zero] at hcount
  rw [hcount, if_neg (by decide), Nat.zero_add]

/-- The driver's part of the count is one until its put is in the log. -/
theorem lifeRun_boundRefs (hrun : lifeRun acts .probed = some (s, log)) :
    LifeEvent.boundRefs log + log.countP LifeEvent.isActionPut = 1 := by
  have hdriver := lifeRun_driver hrun
  unfold LifeEvent.boundRefs
  by_cases hput : log.any LifeEvent.isActionPut = true
  · rw [if_pos hput]
    have hsome : 0 < log.countP LifeEvent.isActionPut := by
      rwa [List.countP_pos_iff, ← List.any_eq_true]
    omega
  · rw [if_neg hput]
    have hnone : log.countP LifeEvent.isActionPut = 0 := by
      rw [List.countP_eq_zero]
      exact fun e he hput' => hput (List.any_eq_true.mpr ⟨e, he, hput'⟩)
    omega

/-- Each put is of one kind. -/
theorem LifeEvent.countP_isPut (log : List LifeEvent) :
    log.countP isPut = log.countP isReleasePut + log.countP isActionPut := by
  induction log with
  | nil => rfl
  | cons e log ih =>
    have hone : (if e.isPut then 1 else 0) =
        (if e.isReleasePut then 1 else 0) + (if e.isActionPut then 1 else 0) := by
      cases e <;> rfl
    rw [List.countP_cons, List.countP_cons, List.countP_cons, ih, hone]
    omega

/-- With `removed` set no open succeeds. -/
theorem lifeRun_removed
    (hrun : lifeRun acts .probed = some (s, before ++ .openReturned (.ok ()) :: after)) :
    .removedSet ∉ before := by
  intro hset
  obtain ⟨as₁, a, as₂, s₁, s₂, hfirst, hopen, -⟩ := Transducer.run_split hrun
  obtain ⟨before₁, after₁, rfl⟩ := List.append_of_mem hset
  obtain ⟨bs₁, b, bs₂, t₁, t₂, hbefore, hflag, hrest⟩ := Transducer.run_split hfirst
  have ht₁ : t₁.Inv := lifeRun_inv hbefore
  have ht₂ : t₂.Inv ∧ t₂.removed = true := ⟨ht₁.next hflag, (ht₁.moves hflag).flagged rfl⟩
  have hs₁ : s₁.Inv ∧ s₁.removed = true :=
    Transducer.run_keeps (fun s => s.Inv ∧ s.removed = true) hrest ht₂ fun _ _ _ _ h hs _ =>
      ⟨h.1.next hs, (h.1.moves hs).removed h.2⟩
  have hnot := (hs₁.1.moves hopen).opened rfl
  rw [hs₁.2] at hnot
  cases hnot

/-- Nothing is seen behind the step that releases the object. -/
theorem lifeRun_freed_last {e : LifeEvent}
    (hrun : lifeRun acts .probed = some (s, before ++ e :: after)) (he : e.isFreed = true) :
    after = [] := by
  obtain ⟨as₁, a, as₂, s₁, s₂, hfirst, hlast, hrest⟩ := Transducer.run_split hrun
  have hmoves : s₁.Moves (some e) s₂ := (lifeRun_inv hfirst).moves hlast
  have hgone : s₂.refs = 0 := by
    have hfreed := hmoves.freed
    rw [Option.toList_some, List.countP_singleton, if_pos he] at hfreed
    by_contra hsome
    rw [if_neg hsome] at hfreed
    omega
  cases as₂ with
  | nil =>
    cases hrest
    rfl
  | cons b as₂ =>
    obtain ⟨s₃, event, rest, hstep, -⟩ := Transducer.run_cons_eq_some hrest
    rw [hmoves.inv.stopped hgone b] at hstep
    cases hstep

/-- **The object is released once, behind its last use.**  In every interleaving the count is
one for the driver until its put, and one for each file that was opened and has not been put;
there is one file open at most; no open succeeds behind `removed`; and `gxfp_release_dev` has
run, once, exactly if the count is zero, where nobody takes a step any more. -/
theorem lifeRun_released_once (hrun : lifeRun acts .probed = some (s, log)) :
    (log.countP LifeEvent.isReleasePut ≤ log.countP LifeEvent.isOpened ∧
      s.refs = LifeEvent.boundRefs log +
        (log.countP LifeEvent.isOpened - log.countP LifeEvent.isReleasePut)) ∧
    log.countP LifeEvent.isOpened ≤ log.countP LifeEvent.isReleaseBegun + 1 ∧
    (∀ before after, log = before ++ .openReturned (.ok ()) :: after → .removedSet ∉ before) ∧
    (log.countP LifeEvent.isFreed = if s.refs = 0 then 1 else 0) ∧
    (∀ before e after, log = before ++ e :: after → e.isFreed = true → after = []) ∧
    (s.refs = 0 → ∀ a, lifeStep s a = none) := by
  have hinv : s.Inv := lifeRun_inv hrun
  have hrefs := lifeRun_refs hrun
  have hdriver := lifeRun_driver hrun
  have hbound := lifeRun_boundRefs hrun
  have hfiles := lifeRun_files hrun
  have hinvRefs := hinv.refs
  have hinvFiles := hinv.files
  rw [LifeEvent.countP_isPut] at hrefs
  refine ⟨⟨by omega, by omega⟩, ?_, ?_, lifeRun_freed hrun, ?_, hinv.stopped⟩
  · have hone : s.files ≤ 1 := by
      split at hinvFiles <;> omega
    omega
  · rintro before after rfl
    exact lifeRun_removed hrun
  · rintro before e after rfl
    exact lifeRun_freed_last hrun

/-- A file is opened while the last one is being closed, and closed when the driver is gone. -/
theorem lifeRun_released_once_overlap :
    let log : List LifeEvent :=
      [.openReturned (.ok ()), .releaseBegun, .openReturned (.ok ()), .removedSet,
        .releasePut false, .deregistered, .removeReturned, .actionPut false, .used, .releaseBegun,
        .releasePut true]
    log.countP LifeEvent.isFreed = 1 ∧ LifeEvent.boundRefs log +
      (log.countP LifeEvent.isOpened - log.countP LifeEvent.isReleasePut) = 0 := by
  have hrun := @lifeRun_released_once
    [.lookup, .open true, .release, .lookup, .open true, .removeFlag, .releasePut,
      .removeDeregister, .removeReturn, .putAction, .use, .release, .releasePut]
    ⟨0, false, true, false, 0, 0, .returned, true⟩ _ rfl
  exact ⟨hrun.2.2.2.1, hrun.1.2.symm⟩

end Runs

end Gxfp
