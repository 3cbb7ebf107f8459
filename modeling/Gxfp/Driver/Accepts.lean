/-
What a scan that is accepted has in common with a print.

A finger is accepted when a verification succeeds or an identification finds a print.  Either
is returned long after the score was made, and the score itself is a count behind two
thresholds.  From one end to the other: some template of a print that was asked for has enough
correspondences with the scan, and enough of their angles agree.
-/
import Gxfp.Driver.Returns
import Gxfp.Sigfm.Score

namespace Gxfp

open FpiDeviceGxfp Monitor Pairs

section Agreement

variable {D : Type} {cv : OpenCv} {d : Doubles D} {frame enrolled : SigfmImgInfo}

/-- The matcher of the driver. -/
def sigfmMatcher (cv : OpenCv) (d : Doubles D) (driver deviceId : String) : Matcher :=
  ⟨driver, deviceId, sigfmMatchScore cv d⟩

/-- What two templates have in common: correspondences that were accepted, angles of them that
were retained, and pairs of these that agree. -/
def Agrees (cv : OpenCv) (d : Doubles D) (frame enrolled : SigfmImgInfo) : Prop :=
  ∃ points ms, cv.knnMatch frame.descriptors enrolled.descriptors = some points ∧
    acceptedMatches cv frame enrolled points = some ms ∧
    minMatch ≤ ms.length ∧ minMatch ≤ (retainedAngles d ms).length ∧
    bz3Threshold ≤ (agreeingPairs d ms).card

/-- **A score that reaches the threshold** is the count of an agreement. -/
theorem agrees_of_score {n : Int} (hscore : sigfmMatchScore cv d frame enrolled = some n)
    (hn : bz3Threshold ≤ n) : Agrees cv d frame enrolled := by
  have hpositive : 0 < n := lt_of_lt_of_le (by decide) hn
  cases hpoints : cv.knnMatch frame.descriptors enrolled.descriptors with
  | none =>
      unfold sigfmMatchScore at hscore
      rw [hpoints] at hscore
      cases hscore
      exact absurd hpositive (by decide)
  | some points =>
      cases haccepted : acceptedMatches cv frame enrolled points with
      | none =>
          unfold sigfmMatchScore at hscore
          rw [hpoints] at hscore
          dsimp only at hscore
          rw [matchLoop_eq, haccepted] at hscore
          cases hscore
          exact absurd hpositive (by decide)
      | some ms =>
          rw [sigfmMatchScore_of_accepted d hpoints haccepted] at hscore
          obtain ⟨-, rfl⟩ := (scoreOf_eq_some d ms n).mp hscore
          -- below either threshold the score is 0
          unfold trueScore at hn hpositive
          split at hn
          · exact absurd hn (by decide)
          split at hn
          · exact absurd hn (by decide)
          rename_i hmatches hangles
          exact ⟨points, ms, hpoints, haccepted, not_lt.mp hmatches, not_lt.mp hangles, hn⟩

theorem FpPrint.Matches.agrees {driver deviceId : String} {template : FpPrint}
    {info : SigfmImgInfo} (h : template.Matches (sigfmMatcher cv d driver deviceId) info) :
    ∃ prints, template.data = .sigfm prints ∧ ∃ pinfo ∈ prints, Agrees cv d pinfo info := by
  obtain ⟨prints, hdata, before, pinfo, after, rfl, ⟨n, hscore, -, hn⟩, -⟩ := h
  exact ⟨_, hdata, pinfo, List.mem_append_right before List.mem_cons_self,
    agrees_of_score hscore hn⟩

end Agreement

/-! ### Accepting a finger -/

/-- The prints that a scan is compared with. -/
def ActionRequest.prints : ActionRequest → List FpPrint
  | .verify print => [print]
  | .identify prints => prints
  | _ => []

/-- A result that takes the finger for one that was enrolled, and the print, if it is returned. -/
def ActionResult.accepts : ActionResult → Bool
  | .verified success _ => success
  | .identified found _ => found.isSome
  | _ => false

section Runs

variable {D : Type} {cv : OpenCv} {d : Doubles D} {driver deviceId : String}
  {inputs : List ActionInput} {s : ActionDriver} {result : ActionResult}

/--
**No finger is accepted without an agreement.**

Whatever happens in between, a finger is accepted for the one scan of the action, and a
template of one of the prints that were asked for agrees with this scan.
-/
theorem actionRun_accepts
    (hrun : actionRun (sigfmMatcher cv d driver deviceId) inputs = some s)
    (hresult : result ∈ s.task.results) (haccepts : result.accepts = true) :
    ∃ request info template prints pinfo,
      historyOf inputs = ⟨some request, [info]⟩ ∧ Readable info ∧ template ∈ request.prints ∧
        template.data = .sigfm prints ∧ pinfo ∈ prints ∧ Agrees cv d pinfo info := by
  obtain ⟨-, request, hrequest, hright⟩ := (actionRun_good hrun).right hresult
  cases result with
  | verified success print =>
      cases haccepts
      obtain ⟨template, info, rfl, hscans, hreadable, -, hmatch, -⟩ := hright
      obtain ⟨prints, hdata, pinfo, hpinfo, hagrees⟩ :=
        (fpiPrintSigfmMatch_eq_success.mp hmatch).agrees
      refine ⟨.verify template, info, template, prints, pinfo, ?_, hreadable,
        List.mem_singleton_self template, hdata, hpinfo, hagrees⟩
      rw [← hrequest, ← hscans]
  | identified found print =>
      obtain ⟨gallery, info, rfl, hscans, hreadable, -, hfound, -⟩ := hright
      obtain ⟨template, rfl⟩ := Option.isSome_iff_exists.mp haccepts
      obtain ⟨before, after, rfl, -, hmatches⟩ := FoundIn.of_identifyLoop hfound
      obtain ⟨prints, hdata, pinfo, hpinfo, hagrees⟩ := hmatches.agrees
      refine ⟨.identify (before ++ template :: after), info, template, prints, pinfo, ?_,
        hreadable, List.mem_append_right before List.mem_cons_self, hdata, hpinfo, hagrees⟩
      rw [← hrequest, ← hscans]
  | error _ | enrolled _ | captured | misreported => cases haccepts

end Runs

/-! ### A line of key points, and itself -/

/-- A device that has stopped before the scan is done. -/
def scanLeft (action : DeviceAction) : ActionView where
  currentAction := some action
  returning := false
  cancelled := false
  cancelQueued := false
  active := false
  minutiaeScanActive := true
  state := .inactive
  enrollStage := 0
  actionError := none

section ScanLeft

variable {mt : Matcher} {history : ActionHistory} {s : ActionDriver} {template : FpPrint}
  {info : SigfmImgInfo}

theorem ActionDriver.Good.task_of_no_scan (h : s.Good mt history)
    (hview : s.driver.dev.view = scanLeft .verify)
    (hhistory : history = ⟨some (.verify template), []⟩) : s.task = .new (.verify template) := by
  subst hhistory
  have haction : s.driver.dev.currentAction = some .verify :=
    congrArg ActionView.currentAction hview
  have hreturning : s.driver.dev.returning = false := congrArg ActionView.returning hview
  have hcapturing : s.driver.dev.capturing = true := by
    unfold FpiDeviceGxfp.capturing
    rw [haction]
    rfl
  obtain ⟨request, hrequest, hongoing | hreturned⟩ := h.stands hcapturing
  · cases hrequest
    rcases hongoing.shape.judged with ⟨-, htask⟩ | ⟨_, _, _, hscans, -⟩
    · exact htask
    · cases hscans
  · have hnow : s.driver.dev.returning = true := hreturned.returning
    rw [hreturning] at hnow
    cases hnow

/-- **A scan that matches** and is done last is a success. -/
theorem actionStep_matches (hcalls : s.driver.calls = [])
    (hview : s.driver.dev.view = scanLeft .verify) (htask : s.task = .new (.verify template))
    (hreadable : Readable info) (hmatches : template.Matches mt info) :
    ∃ s', actionStep mt s (.scanned (.extracted info)) = some s' ∧
      .verified true (some (printOf mt info)) ∈ s'.task.results := by
  have hscan : s.driver.dev.minutiaeScanActive = true :=
    congrArg ActionView.minutiaeScanActive hview
  have hactive : s.driver.dev.active = false := congrArg ActionView.active hview
  have haction : s.driver.dev.currentAction = some .verify :=
    congrArg ActionView.currentAction hview
  have hcancelled : s.driver.dev.cancelled = false := congrArg ActionView.cancelled hview
  have herror : s.driver.dev.actionError = none := congrArg ActionView.actionError hview
  let task : FpTask :=
    ⟨.verify template ⟨true, some template, some (printOf mt info), none⟩,
      [.matched (some template) (some (printOf mt info)) none], []⟩
  have hdetected : s.task.detected mt s.driver.dev (.extracted info) =
      some (.print none, task) := by
    have hmatch := fpiPrintSigfmMatch_eq_success.mpr hmatches
    rw [htask, detected_readable hreadable]
    simp only [FpTask.detectedPrint, FpTask.new, hmatch]
    rfl
  have hdriver : driverStep s.driver (.main (.minutiaeDetected (.print none))) =
      some (s.driver.add (s.driver.dev.minutiaeDetected (.print none)) []) := by
    unfold driverStep FpiDeviceGxfp.dispatch
    rw [hcalls]
    dsimp only
    rw [if_pos hscan]
    rfl
  refine ⟨⟨s.driver.add (s.driver.dev.minutiaeDetected (.print none)) [],
    task.minutiaeDetected s.driver.dev (.print none)⟩, ?_, ?_⟩
  · exact Option.bind_eq_some_iff.mpr ⟨_, hdetected, Option.bind_eq_some_iff.mpr ⟨_, hdriver, rfl⟩⟩
  · simp [task, FpTask.minutiaeDetected, FpTask.maybeCompleteAction, FpTask.complete,
      FpiDeviceGxfp.actionErrorWith, FpiDeviceGxfp.notRetry, TaskData.result, FpMatchData.result,
      hactive, haction, hcancelled, herror]

end ScanLeft

/-- 25 key points in a line have 300 angles, and every two of them agree. -/
theorem sigfmMatchScore_line25 :
    sigfmMatchScore lineCv exactDoubles (line 25) (line 25) = some 44850 := by
  obtain ⟨points, hpoints, haccepted⟩ := line_accepted (n := 25) (by decide) (by decide)
  have hcard := card_agreeingPairs_line (n := 25) (by decide)
  rw [Nat.choose_two_right, Nat.choose_two_right] at hcard
  rw [sigfmMatchScore_of_accepted exactDoubles hpoints haccepted, scoreOf_eq_some]
  refine ⟨fun _ => line_fits (by decide) ?_, ?_⟩
  · rw [Nat.choose_two_right, Nat.choose_two_right]
    decide
  · have hmany : ¬ ((List.range 25).map lineMatch).length < minMatch := by
      rw [List.length_map, List.length_range]
      decide
    have hangles :
        ¬ (retainedAngles exactDoubles ((List.range 25).map lineMatch)).length < minMatch := by
      intro hfew
      have hle := card_indexPairs_le (anglesAgree exactDoubles)
        (retainedAngles exactDoubles ((List.range 25).map lineMatch))
      have hchoose := Nat.choose_le_choose 2 (Nat.le_of_lt_succ hfew)
      have hsix : Nat.choose 4 2 = 6 := by decide
      have hle : (agreeingPairs exactDoubles ((List.range 25).map lineMatch)).card ≤ 6 :=
        hle.trans (hchoose.trans hsix.le)
      omega
    rw [trueScore, if_neg hmany, if_neg hangles, hcard]
    rfl

/-- The print of the line. -/
def linePrint : FpPrint := { fpPrintNew "gxfp" "0" with data := .sigfm [line 25] }

theorem linePrint_matches :
    linePrint.Matches (sigfmMatcher lineCv exactDoubles "gxfp" "0") (line 25) := by
  have hscore : (sigfmMatcher lineCv exactDoubles "gxfp" "0").score (line 25) (line 25) =
      some 44850 := by
    dsimp only [sigfmMatcher]
    exact sigfmMatchScore_line25
  exact ⟨[line 25], rfl, [], line 25, [], rfl, ⟨44850, hscore, by decide, by decide⟩, nofun⟩

theorem actionRun_accepts_line :
    ∃ s, actionRun (sigfmMatcher lineCv exactDoubles "gxfp" "0")
        (scannedAction (.verify linePrint) (line 25)) = some s ∧
      ∃ request info template prints pinfo,
        historyOf (scannedAction (.verify linePrint) (line 25)) = ⟨some request, [info]⟩ ∧
          Readable info ∧ template ∈ request.prints ∧ template.data = .sigfm prints ∧
          pinfo ∈ prints ∧ Agrees lineCv exactDoubles pinfo info := by
  have hstopped : (actionRun (sigfmMatcher lineCv exactDoubles "gxfp" "0")
      (actionUpTo (.verify linePrint) 25)).map (fun s => (s.driver.calls, s.driver.dev.view)) =
        some ([], scanLeft .verify) := by
    decide +kernel
  obtain ⟨s, hs, hpair⟩ := Option.map_eq_some_iff.mp hstopped
  obtain ⟨hcalls, hview⟩ := Prod.mk.inj hpair
  have htask : s.task = .new (.verify linePrint) := (actionRun_good hs).task_of_no_scan hview rfl
  obtain ⟨s', hstep, hmem⟩ :=
    actionStep_matches hcalls hview htask (by decide) linePrint_matches
  have hrun : actionRun (sigfmMatcher lineCv exactDoubles "gxfp" "0")
      (scannedAction (.verify linePrint) (line 25)) = some s' := by
    have hs : watch (actionStep (sigfmMatcher lineCv exactDoubles "gxfp" "0"))
        ActionDriver.constructed (actionUpTo (.verify linePrint) 25) = some s := hs
    show watch (actionStep (sigfmMatcher lineCv exactDoubles "gxfp" "0"))
      ActionDriver.constructed (scannedAction (.verify linePrint) (line 25)) = some s'
    rw [scannedAction, watch_append, hs, Option.bind_some, watch_cons, hstep]
    rfl
  exact ⟨s', hrun, actionRun_accepts hrun hmem rfl⟩

end Gxfp
