/-
Provisioning with `psk_tool`: a blob is built on one run of the tool and uploaded on another.

`--build-bb010002` takes the PSK and the seed of the sealed PSK from files, or makes them
up, and writes the blob.  `--upload-bb010002` reads a file, aligns it and sends it.  Between
the two runs there is nothing but the file, so what holds of both is about any way of
reading it back: what the sensor is sent, taken apart again, holds the PSK of the build
(`pskTool_provisions`), whether or not the blob was padded.
-/
import Gxfp.Algo.Files
import Gxfp.Algo.WhiteBox
import Gxfp.Cmd.Sent
import Gxfp.Tool.Upload

namespace Gxfp

open Bytes Checked Symmetric

/-! ### Building -/

/-- The files that the options of a build name; those to be read have been opened. -/
structure BuildOptions where
  pskRaw32 : Option (Except Errno File)
  seed8 : Option (Except Errno File)
  sealedPsk : Option (Except Errno File)
  outPskRaw32 : Bool
  noPad4 : Bool

/-- What a build meets: memory, mbedTLS, `/dev/urandom`, and files it can write. -/
structure BuildEnv where
  memory : Realloc
  calloc : Nat → Bool
  works : BuildCall → Bool
  randomPsk : Except Errno (Block UInt8 32)
  randomSeed8 : Except Errno (Block UInt8 8)
  writesBlob : Bool
  writesPsk : Bool

/-- The exit status, and the files that have been written whole. -/
structure BuildOutcome where
  exit : Nat
  blob : Option (List UInt8)
  psk : Option (List UInt8)

def BuildOutcome.failed : BuildOutcome := ⟨1, none, none⟩

/-- `load_or_generate_bytes` -/
def loadOrGenerateBytes (mem : Realloc) {n : Nat} (path : Option (Except Errno File))
    (generated : Except Errno (Block UInt8 n)) : Check (Except Errno (Block UInt8 n)) :=
  match path with
  | none => .ok generated
  | some f => do
    match ← readFileAll mem f with
    | .error e => pure (.error e)
    | .ok out => if h : out.length = n then pure (.ok ⟨out, h⟩) else pure (.error .inval)

/-- The sealed PSK of a build: that of the file, or none. -/
def loadSealed (mem : Realloc) (path : Option (Except Errno File)) :
    Check (Except Errno (List UInt8)) :=
  match path with
  | none => .ok (.ok [])
  | some f => readFileAll mem f

/-- `build_bb010002` in `main` of `psk_tool` -/
def pskToolBuild (c : Crypto) (env : BuildEnv) (opts : BuildOptions) : Check BuildOutcome := do
  match ← loadOrGenerateBytes env.memory opts.pskRaw32 env.randomPsk with
  | .error _ => pure .failed
  | .ok psk =>
    match ← loadOrGenerateBytes env.memory opts.seed8 env.randomSeed8 with
    | .error _ => pure .failed
    | .ok seed8 =>
      match payloadBuildBb010003 c env.works psk payloadSeed32Runtime with
      | .error _ => pure .failed
      | .ok (wb, _) =>
        match ← loadSealed env.memory opts.sealedPsk with
        | .error _ => pure .failed
        | .ok sealedPsk =>
          match ← payloadBuildBb010002 env.calloc sealedPsk seed8 wb (!opts.noPad4) with
          | .error _ => pure .failed
          | .ok bb =>
            if ¬ env.writesBlob then pure .failed
            else if opts.outPskRaw32 ∧ ¬ env.writesPsk then pure ⟨1, some bb, none⟩
            else pure ⟨0, some bb, if opts.outPskRaw32 then some psk.val else none⟩

/-! ### Uploading -/

/-- `upload_bb010002` in `main` of `psk_tool`, on the open device: the exit status. -/
def pskToolUploadFile {σ : Type} (sys : Sys σ) (dev : Dev) (fuel : Nat) (mem : Realloc)
    (f : Except Errno File) (s : σ) : Check (Option (Nat × Dev × σ)) := do
  let (_, s) := devFlushRxq sys dev s
  match ← readFileAll mem f with
  | .error _ => pure (some (1, dev, s))
  | .ok blob =>
    match ← pskToolUpload sys dev fuel mem blob s with
    | none => pure none
    | some (.error _, dev, s) => pure (some (1, dev, s))
    | some (.ok mcuRet, dev, s) => pure (some (if mcuRet ≠ 0 then 1 else 0, dev, s))

/-! ### What is built -/

/-- A blob that holds a PSK for the sensor, and the sealed PSK with its seed. -/
def Provisions (c : Crypto) (psk : Block UInt8 32) (sealedPsk : List UInt8) (seed8 : Seed8)
    (blob : List UInt8) : Prop :=
  ∃ host sensor : Tlv.Record, ∃ k < 4, Tlv.walk blob = ([host, sensor], zeros k) ∧
    host.tag = 0xBB010002 ∧ host.value = sealedPsk ++ seed8.val ∧
    sensor.tag = 0xBB010003 ∧ Sealed c psk payloadSeed32Runtime sensor.value

/-- The blob of a build, rounded up to whole words. -/
def provisioningBlob (sealedPsk : List UInt8) (seed8 : Seed8) (wbData : List UInt8) :
    List UInt8 :=
  (bb010002Chunks sealedPsk seed8 wbData).flatten ++
    zeros ((24 + sealedPsk.length + wbData.length + 3) / 4 * 4 -
      (24 + sealedPsk.length + wbData.length))

section Built

variable {c : Crypto} {sealedPsk wbData : List UInt8} {seed8 : Seed8}

theorem length_provisioningBlob :
    (provisioningBlob sealedPsk seed8 wbData).length =
      (24 + sealedPsk.length + wbData.length + 3) / 4 * 4 := by
  rw [provisioningBlob, List.length_append, length_bb010002Chunks, length_zeros]
  omega

theorem provisions_blob {psk : Block UInt8 32} (hsealed : sealedPsk.length ≤ 0xFFFFFFFF - 8)
    (hwb : Sealed c psk payloadSeed32Runtime wbData) :
    Provisions c psk sealedPsk seed8 (provisioningBlob sealedPsk seed8 wbData) := by
  have hlen := hwb.length
  obtain ⟨host, sensor, hchunks, hhost, hvalue, hsensor, hdata⟩ :=
    bb010002Chunks_records seed8 hsealed (by omega : wbData.length ≤ 0xFFFFFFFF)
  refine ⟨host, sensor, (24 + sealedPsk.length + wbData.length + 3) / 4 * 4 -
    (24 + sealedPsk.length + wbData.length), by omega, ?_, hhost, hvalue, hsensor, ?_⟩
  · rw [provisioningBlob, hchunks, Tlv.walk_encode]
    rw [length_zeros]
    omega
  · rw [hdata]
    exact hwb

/-- What `gxfp_payload_build_bb010002` returns is the copies, padded or not. -/
theorem payloadBuildBb010002_built (calloc : Nat → Bool) (pad4 : Bool)
    (hsmall : 24 + sealedPsk.length + wbData.length + 3 < 2 ^ 32) (hwb : wbData ≠ []) :
    payloadBuildBb010002 calloc sealedPsk seed8 wbData pad4 =
      if calloc (bb010002Len sealedPsk wbData pad4) then
        .ok (.ok (if pad4 then provisioningBlob sealedPsk seed8 wbData
          else (bb010002Chunks sealedPsk seed8 wbData).flatten))
      else .ok (.error .nomem) := by
  have hlen : (bb010002Chunks sealedPsk seed8 wbData).flatten.length =
      24 + sealedPsk.length + wbData.length := length_bb010002Chunks
  have hsum : 8 + sealedPsk.length + 8 + 8 + wbData.length =
      24 + sealedPsk.length + wbData.length := by omega
  have hstored : ∀ n, 24 + sealedPsk.length + wbData.length ≤ n →
      storeRun (zeros n) 0 (bb010002Chunks sealedPsk seed8 wbData) =
        .ok ((bb010002Chunks sealedPsk seed8 wbData).flatten ++
          zeros (n - (24 + sealedPsk.length + wbData.length))) := by
    intro n hn
    rw [storeRun_of_le (by rw [length_zeros]; omega), overwrite_start, zeros, List.drop_replicate,
      hlen]
    rfl
  have hcopied : storeRun (zeros (bb010002Len sealedPsk wbData pad4)) 0
      (bb010002Chunks sealedPsk seed8 wbData) =
        .ok (if pad4 then provisioningBlob sealedPsk seed8 wbData
          else (bb010002Chunks sealedPsk seed8 wbData).flatten) := by
    rw [bb010002Len, hsum, Nat.mod_eq_of_lt (by omega)]
    cases pad4 with
    | true =>
        rw [if_pos rfl, if_pos rfl, align4_of_lt hsmall, hstored _ (by omega)]
        rfl
    | false =>
        have hno : ¬ false = true := by simp
        rw [if_neg hno, if_neg hno, hstored _ (Nat.le_refl _), Nat.sub_self]
        exact congrArg Except.ok (List.append_nil _)
  rw [payloadBuildBb010002_eq seed8 pad4 calloc hwb (by omega) (by omega), hcopied]
  rfl

theorem payloadBuildBb010002_ok {calloc : Nat → Bool} {pad4 : Bool} {out : List UInt8}
    (hsmall : 24 + sealedPsk.length + wbData.length + 3 < 2 ^ 32) (hwb : wbData ≠ [])
    (h : payloadBuildBb010002 calloc sealedPsk seed8 wbData pad4 = .ok (.ok out)) :
    out = if pad4 then provisioningBlob sealedPsk seed8 wbData
      else (bb010002Chunks sealedPsk seed8 wbData).flatten := by
  rw [payloadBuildBb010002_built calloc pad4 hsmall hwb] at h
  by_cases hmem : calloc (bb010002Len sealedPsk wbData pad4) = true
  · rw [if_pos hmem] at h
    exact (Except.ok.inj (Except.ok.inj h)).symm
  · rw [if_neg hmem] at h
    exact absurd h (by simp)

/-- **Aligned for the upload, both are the same blob.** -/
theorem alignBlob_built (mem : Realloc) {pad4 : Bool} {out : List UInt8}
    (hsmall : 24 + sealedPsk.length + wbData.length + 6 < 2 ^ 32)
    (hout : out = if pad4 then provisioningBlob sealedPsk seed8 wbData
      else (bb010002Chunks sealedPsk seed8 wbData).flatten) :
    ∃ r blob', alignBlob mem out = .ok (r, blob') ∧
      (r = .ok () → blob' = provisioningBlob sealedPsk seed8 wbData) := by
  have hlen : (bb010002Chunks sealedPsk seed8 wbData).flatten.length =
      24 + sealedPsk.length + wbData.length := length_bb010002Chunks
  have hpadded : (provisioningBlob sealedPsk seed8 wbData).length =
      (24 + sealedPsk.length + wbData.length + 3) / 4 * 4 := length_provisioningBlob
  cases pad4 with
  | true =>
      rw [if_pos rfl] at hout
      subst hout
      obtain ⟨r, blob', hcall, hok, -⟩ := alignBlob_of_lt mem
        (show (provisioningBlob sealedPsk seed8 wbData).length + 3 < 2 ^ 32 by omega)
      refine ⟨r, blob', hcall, fun hr => ?_⟩
      obtain ⟨-, hblob', -⟩ := hok hr
      have hnone : (provisioningBlob sealedPsk seed8 wbData).length + 3 < 2 ^ 32 := by omega
      rw [hblob', hpadded, show ((24 + sealedPsk.length + wbData.length + 3) / 4 * 4 + 3) / 4 * 4 -
        (24 + sealedPsk.length + wbData.length + 3) / 4 * 4 = 0 by omega]
      exact List.append_nil _
  | false =>
      rw [if_neg (by simp)] at hout
      subst hout
      obtain ⟨r, blob', hcall, hok, -⟩ := alignBlob_of_lt mem
        (show (bb010002Chunks sealedPsk seed8 wbData).flatten.length + 3 < 2 ^ 32 by omega)
      refine ⟨r, blob', hcall, fun hr => ?_⟩
      obtain ⟨-, hblob', -⟩ := hok hr
      rw [hblob', hlen]
      rfl

end Built

/-! ### What the two runs come to -/

section Runs

/-- What was read from a file is what is in it. -/
theorem readFileAll_ok {mem : Realloc} {f : File} {out : List UInt8}
    (h : readFileAll mem (.ok f) = .ok (.ok out)) : out = f.blocks.flatten := by
  obtain ⟨r, hread, hr⟩ := readFileAll_eq mem f
  have hout : r = .ok out := Except.ok.inj (hread.symm.trans h)
  rcases hr with hr | ⟨hr, -⟩
  · rw [hout] at hr
    unfold File.contents at hr
    split at hr
    · exact absurd hr (by simp)
    · split at hr
      · exact absurd hr (by simp)
      · exact Except.ok.inj hr
  · rw [hout] at hr
    exact absurd hr (by simp)

/-- Bytes that a build was given: those of the file that is named, or else those that were
generated. -/
def Loaded {n : Nat} (path : Option (Except Errno File)) (generated : Except Errno (Block UInt8 n))
    (b : Block UInt8 n) : Prop :=
  match path with
  | none => generated = .ok b
  | some f => ∃ file, f = .ok file ∧ b.val = file.blocks.flatten

/-- The sealed PSK that a build was given: the bytes of the file that is named, or else none. -/
def LoadedSealed (path : Option (Except Errno File)) (sealedPsk : List UInt8) : Prop :=
  match path with
  | none => sealedPsk = []
  | some f => ∃ file, f = .ok file ∧ sealedPsk = file.blocks.flatten

/-- What was read successfully was read from a file that could be opened. -/
theorem readFileAll_file {mem : Realloc} {f : Except Errno File} {out : List UInt8}
    (h : readFileAll mem f = .ok (.ok out)) : ∃ file, f = .ok file ∧ out = file.blocks.flatten := by
  cases f with
  | error e => exact absurd (Except.ok.inj h) (by simp)
  | ok file => exact ⟨file, rfl, readFileAll_ok h⟩

theorem loadOrGenerateBytes_loaded {mem : Realloc} {n : Nat} {path : Option (Except Errno File)}
    {generated : Except Errno (Block UInt8 n)} {b : Block UInt8 n}
    (h : loadOrGenerateBytes mem path generated = .ok (.ok b)) : Loaded path generated b := by
  cases path with
  | none => exact Except.ok.inj h
  | some f =>
      unfold loadOrGenerateBytes at h
      dsimp only at h
      obtain ⟨r, hread, hr⟩ := bind_eq_ok h
      rcases r with e | out
      · exact absurd hr (by simp)
      · obtain ⟨file, rfl, hout⟩ := readFileAll_file hread
        dsimp only at hr
        split at hr
        · have hb := Except.ok.inj (Except.ok.inj hr)
          exact ⟨file, rfl, by rw [← hb]; exact hout⟩
        · exact absurd hr (by simp)

/-- A file of the right length is loaded. -/
theorem loadOrGenerateBytes_read {mem : Realloc} {n : Nat} {f : Except Errno File}
    {generated : Except Errno (Block UInt8 n)} {out : List UInt8}
    (h : readFileAll mem f = .ok (.ok out)) (hlen : out.length = n) :
    loadOrGenerateBytes mem (some f) generated = .ok (.ok ⟨out, hlen⟩) := by
  unfold loadOrGenerateBytes
  dsimp only
  rw [h, ok_bind]
  dsimp only
  rw [dif_pos hlen]
  rfl

theorem loadSealed_loaded {mem : Realloc} {path : Option (Except Errno File)}
    {sealedPsk : List UInt8} (h : loadSealed mem path = .ok (.ok sealedPsk)) :
    LoadedSealed path sealedPsk := by
  cases path with
  | none => exact (Except.ok.inj (Except.ok.inj h)).symm
  | some f => exact readFileAll_file h

/-- What a run that has written a blob has gone through. -/
structure BuiltFrom (c : Crypto) (env : BuildEnv) (opts : BuildOptions) (outcome : BuildOutcome)
    (blob : List UInt8) (psk : Block UInt8 32) (sealedPsk : List UInt8) (seed8 : Seed8) :
    Prop where
  loadsPsk : loadOrGenerateBytes env.memory opts.pskRaw32 env.randomPsk = .ok (.ok psk)
  loadsSeed8 : loadOrGenerateBytes env.memory opts.seed8 env.randomSeed8 = .ok (.ok seed8)
  loadsSealed : loadSealed env.memory opts.sealedPsk = .ok (.ok sealedPsk)
  builds : ∃ wb payload, payloadBuildBb010003 c env.works psk payloadSeed32Runtime =
      .ok (wb, payload) ∧
    payloadBuildBb010002 env.calloc sealedPsk seed8 wb (!opts.noPad4) = .ok (.ok blob)
  out : outcome.psk = none ∨ outcome.psk = some psk.val
  kept : outcome.exit = 0 → opts.outPskRaw32 = true → outcome.psk = some psk.val

theorem pskToolBuild_builtFrom {c : Crypto} {env : BuildEnv} {opts : BuildOptions}
    {outcome : BuildOutcome} {blob : List UInt8} (h : pskToolBuild c env opts = .ok outcome)
    (hblob : outcome.blob = some blob) :
    ∃ psk sealedPsk seed8, BuiltFrom c env opts outcome blob psk sealedPsk seed8 := by
  have hnone : ∀ {x : Check BuildOutcome}, x = pure BuildOutcome.failed → x = .ok outcome →
      False := by
    rintro x rfl hx
    rw [← Except.ok.inj hx] at hblob
    exact absurd hblob (by simp [BuildOutcome.failed])
  unfold pskToolBuild at h
  obtain ⟨psk, hpsk, h⟩ := bind_eq_ok h
  rcases psk with e | psk
  · exact absurd h (hnone rfl)
  obtain ⟨seed8, hseed8, h⟩ := bind_eq_ok h
  rcases seed8 with e | seed8
  · exact absurd h (hnone rfl)
  dsimp only at h
  rcases hwb : payloadBuildBb010003 c env.works psk payloadSeed32Runtime with e | ⟨wb, payload⟩
  · rw [hwb] at h
    exact absurd h (hnone rfl)
  rw [hwb] at h
  obtain ⟨sealedPsk, hsealed, h⟩ := bind_eq_ok h
  rcases sealedPsk with e | sealedPsk
  · exact absurd h (hnone rfl)
  obtain ⟨bb, hbb, h⟩ := bind_eq_ok h
  rcases bb with e | bb
  · exact absurd h (hnone rfl)
  dsimp only at h
  by_cases hwrites : ¬ env.writesBlob = true
  · rw [if_pos hwrites] at h
    exact absurd h (hnone rfl)
  rw [if_neg hwrites] at h
  by_cases hlost : opts.outPskRaw32 = true ∧ ¬ env.writesPsk = true
  · rw [if_pos hlost] at h
    obtain rfl := Except.ok.inj h
    obtain rfl := Option.some.inj hblob
    exact ⟨psk, sealedPsk, seed8, hpsk, hseed8, hsealed, ⟨wb, payload, hwb, hbb⟩, Or.inl rfl,
      fun hexit => absurd hexit (by simp)⟩
  · rw [if_neg hlost] at h
    obtain rfl := Except.ok.inj h
    obtain rfl := Option.some.inj hblob
    refine ⟨psk, sealedPsk, seed8, hpsk, hseed8, hsealed, ⟨wb, payload, hwb, hbb⟩, ?_, ?_⟩
    · cases opts.outPskRaw32 with
      | true => exact Or.inr rfl
      | false => exact Or.inl rfl
    · intro _ hout
      exact if_pos hout

/-! ### What the upload sends -/

section Upload

variable {σ : Type} {sys : Sys σ} {dev : Dev} {fuel : Nat}

/-- A payload that fits is sent, and sent again at most three times. -/
theorem logged_productionWriteMcu (hd : dev.Opened) {payload : List UInt8}
    (h : payload.length ≤ cmdPayloadMax) {s s' : σ × List (List UInt8)} {r : Except Errno UInt8}
    {dev' : Dev}
    (hrun : productionWriteMcu sys.logged dev fuel payload s = some (r, dev', s')) :
    ∃ k, 1 ≤ k ∧ k ≤ 4 ∧ s'.2.map readMsg =
      s.2.map readMsg ++ List.replicate k (command productionWriteMcuCmd payload) := by
  unfold productionWriteMcu goodixRequestSelected at hrun
  rw [if_neg (by decide)] at hrun
  rcases hattempts : requestAttempts sys.logged fuel productionWriteMcuCmd productionWriteMcuCmd
    payload mpFrameMax 2000 productionWriteSelector 4 dev s with _ | ⟨rx, dev₁, s₁⟩
  · rw [show (if (0 : Int) < 4 then (4 : Int).toNat else 1) = 4 from rfl, hattempts] at hrun
    cases hrun
  · obtain ⟨-, k, hle, hone, hlog⟩ := logged_requestAttempts h hd hattempts
    refine ⟨k, hone (by decide), hle, ?_⟩
    rw [show (if (0 : Int) < 4 then (4 : Int).toNat else 1) = 4 from rfl, hattempts] at hrun
    have hsame : s' = s₁ := by
      rcases rx with e | rx
      · cases hrun
        rfl
      · dsimp only at hrun
        repeat' split at hrun
        all_goals
          cases hrun
          rfl
    rw [hsame, hlog]

/-- One that does not fit is not sent. -/
theorem logged_productionWriteMcu_refused (hd : dev.Opened) {payload : List UInt8}
    (h : cmdPayloadMax < payload.length) (s : σ × List (List UInt8)) :
    ∃ e, productionWriteMcu sys.logged dev fuel payload s = some (.error e, dev, s) := by
  obtain ⟨e, hsend⟩ : ∃ e, goodixSendAsync sys.logged dev productionWriteMcuCmd payload s =
      (.error e, dev, s) := goodixSendAsync_refused hd productionWriteMcuCmd h s
  refine ⟨e, ?_⟩
  unfold productionWriteMcu goodixRequestSelected
  rw [if_neg (by decide), show (if (0 : Int) < 4 then (4 : Int).toNat else 1) = 3 + 1 from rfl,
    requestAttempts, hsend]

theorem logged_devFlushRxq (s : σ × List (List UInt8)) :
    (devFlushRxq sys.logged dev s).2.2 = s.2 := by
  unfold devFlushRxq
  split <;> rfl

/-- What an upload comes to: an error before anything is sent, or the blob, aligned. -/
theorem pskToolUploadFile_eq {mem : Realloc} {f : File} {up : List UInt8} {r : Except Errno Unit}
    {blob' : List UInt8} (halign : alignBlob mem f.blocks.flatten = .ok (r, blob'))
    (hup : r = .ok () → blob' = up) (hlen : up.length ≤ 0xFFFF) {s s' : σ × List (List UInt8)}
    {code : Nat} {dev' : Dev}
    (hrun : pskToolUploadFile sys.logged dev fuel mem (.ok f) s = .ok (some (code, dev', s'))) :
    (code = 1 ∧ s'.2 = s.2) ∨
      ∃ answer, productionWriteMcu sys.logged dev fuel up (devFlushRxq sys.logged dev s).2 =
          some (answer, dev', s') ∧ ∀ e, answer = .error e → code = 1 := by
  have hflush : (devFlushRxq sys.logged dev s).2.2 = s.2 := logged_devFlushRxq s
  unfold pskToolUploadFile at hrun
  generalize devFlushRxq sys.logged dev s = flushed at hrun hflush ⊢
  obtain ⟨res, s₁⟩ := flushed
  dsimp only at hrun hflush ⊢
  obtain ⟨out, hread, hrun⟩ := bind_eq_ok hrun
  rcases out with e | blob
  · cases hrun
    exact Or.inl ⟨rfl, hflush⟩
  obtain rfl := readFileAll_ok hread
  obtain ⟨answer, hcall, hrun⟩ := bind_eq_ok hrun
  rcases r with e | _
  · rw [pskToolUpload, halign, ok_bind] at hcall
    cases hcall
    cases hrun
    exact Or.inl ⟨rfl, hflush⟩
  · have hblob := hup rfl
    subst hblob
    rw [pskToolUpload_whole halign hlen] at hcall
    have hanswer := Except.ok.inj hcall
    refine Or.inr ?_
    rcases answer with _ | ⟨e | ret, dev₁, s₂⟩
    · cases hrun
    · cases hrun
      exact ⟨_, hanswer, fun _ _ => rfl⟩
    · cases hrun
      exact ⟨_, hanswer, fun e he => absurd he (by simp)⟩

end Upload

/-- Whatever uploads a file with these bytes, and whatever the sensor answers, the sensor is
sent nothing but a blob that provisions it, and success is reported only where it was sent. -/
def UploadProvisions (c : Crypto) (psk : Block UInt8 32) (sealedPsk : List UInt8)
    (seed8 : Seed8) (blob : List UInt8) : Prop :=
  ∀ (σ : Type) (sys : Sys σ) (dev dev' : Dev) (fuel : Nat) (mem : Realloc) (f : File)
    (s s' : σ × List (List UInt8)) (code : Nat), dev.Opened → f.blocks.flatten = blob →
    pskToolUploadFile sys.logged dev fuel mem (.ok f) s = .ok (some (code, dev', s')) →
    ∃ up k, Provisions c psk sealedPsk seed8 up ∧ k ≤ 4 ∧ (code = 0 → 1 ≤ k) ∧
      s'.2.map readMsg =
        s.2.map readMsg ++ List.replicate k (command productionWriteMcuCmd up)

/-- It sends nothing, and fails. -/
def UploadRefused (blob : List UInt8) : Prop :=
  ∀ (σ : Type) (sys : Sys σ) (dev dev' : Dev) (fuel : Nat) (mem : Realloc) (f : File)
    (s s' : σ × List (List UInt8)) (code : Nat), dev.Opened → f.blocks.flatten = blob →
    pskToolUploadFile sys.logged dev fuel mem (.ok f) s = .ok (some (code, dev', s')) →
    code = 1 ∧ s'.2 = s.2

section Uploaded

variable {c : Crypto} {psk : Block UInt8 32} {sealedPsk wb blob : List UInt8} {seed8 : Seed8}
  {calloc : Nat → Bool} {pad4 : Bool}

/-- White-box data that are sealed have a length. -/
theorem Sealed.ne_nil (h : Sealed c psk payloadSeed32Runtime wb) : wb ≠ [] := by
  have hlen := h.length
  rintro rfl
  exact absurd hlen (by simp)

/-- What an upload of a built blob comes to, however it was built. -/
theorem upload_built (hsealed : Sealed c psk payloadSeed32Runtime wb)
    (hlimit : sealedPsk.length ≤ 65406)
    (hbb : payloadBuildBb010002 calloc sealedPsk seed8 wb pad4 = .ok (.ok blob)) {σ : Type}
    {sys : Sys σ} {dev dev' : Dev} {fuel : Nat} {mem : Realloc} {f : File}
    {s s' : σ × List (List UInt8)} {code : Nat} (hf : f.blocks.flatten = blob)
    (hrun : pskToolUploadFile sys.logged dev fuel mem (.ok f) s = .ok (some (code, dev', s'))) :
    (code = 1 ∧ s'.2 = s.2) ∨
      ∃ answer, productionWriteMcu sys.logged dev fuel (provisioningBlob sealedPsk seed8 wb)
          (devFlushRxq sys.logged dev s).2 = some (answer, dev', s') ∧
        ∀ e, answer = .error e → code = 1 := by
  have hwblen := hsealed.length
  have hup : (provisioningBlob sealedPsk seed8 wb).length =
      (24 + sealedPsk.length + wb.length + 3) / 4 * 4 := length_provisioningBlob
  have hout := payloadBuildBb010002_ok (by omega) hsealed.ne_nil hbb
  obtain ⟨r, blob', halign, hblob'⟩ := alignBlob_built mem (by omega) hout
  rw [← hf] at halign
  exact pskToolUploadFile_eq halign hblob' (by omega) hrun

/-- **A blob with a short sealed PSK provisions the sensor.** -/
theorem uploadProvisions_built (hsealed : Sealed c psk payloadSeed32Runtime wb)
    (hshort : sealedPsk.length ≤ 370)
    (hbb : payloadBuildBb010002 calloc sealedPsk seed8 wb pad4 = .ok (.ok blob)) :
    UploadProvisions c psk sealedPsk seed8 blob := by
  intro σ sys dev dev' fuel mem f s s' code hd hf hrun
  have hwblen := hsealed.length
  have hmax : cmdPayloadMax = 496 := rfl
  have hup : (provisioningBlob sealedPsk seed8 wb).length =
      (24 + sealedPsk.length + wb.length + 3) / 4 * 4 := length_provisioningBlob
  have hprov : Provisions c psk sealedPsk seed8 (provisioningBlob sealedPsk seed8 wb) :=
    provisions_blob (by omega) hsealed
  refine ⟨provisioningBlob sealedPsk seed8 wb, ?_⟩
  rcases upload_built hsealed (by omega) hbb hf hrun with ⟨hcode, hlog⟩ | ⟨answer, hwrite, -⟩
  · refine ⟨0, hprov, Nat.zero_le 4, fun h => absurd (hcode.symm.trans h) (by decide), ?_⟩
    rw [hlog, List.replicate_zero, List.append_nil]
  · obtain ⟨k, hone, hle, hlog⟩ := logged_productionWriteMcu hd (by omega) hwrite
    refine ⟨k, hprov, hle, fun _ => hone, ?_⟩
    rw [hlog, logged_devFlushRxq]

/-- **One with a long sealed PSK is not sent.** -/
theorem uploadRefused_built (hsealed : Sealed c psk payloadSeed32Runtime wb)
    (hlong : 370 < sealedPsk.length) (hlimit : sealedPsk.length ≤ 65406)
    (hbb : payloadBuildBb010002 calloc sealedPsk seed8 wb pad4 = .ok (.ok blob)) :
    UploadRefused blob := by
  intro σ sys dev dev' fuel mem f s s' code hd hf hrun
  have hwblen := hsealed.length
  have hmax : cmdPayloadMax = 496 := rfl
  have hup : (provisioningBlob sealedPsk seed8 wb).length =
      (24 + sealedPsk.length + wb.length + 3) / 4 * 4 := length_provisioningBlob
  rcases upload_built hsealed hlimit hbb hf hrun with h | ⟨answer, hwrite, hfails⟩
  · exact h
  · obtain ⟨e, hrefused⟩ := logged_productionWriteMcu_refused hd
      (show cmdPayloadMax < (provisioningBlob sealedPsk seed8 wb).length by omega)
      (devFlushRxq sys.logged dev s).2
    rw [hrefused] at hwrite
    obtain ⟨hanswer, -, hsame⟩ := Prod.mk.inj (Option.some.inj hwrite) |>.imp_right Prod.mk.inj
    refine ⟨hfails e hanswer.symm, ?_⟩
    rw [← hsame, logged_devFlushRxq]

end Uploaded

/-- **What is built on one run and uploaded on another is what the build was given**: its PSK,
its sealed PSK and its seed, from a file or generated; unless the sealed PSK is so long that no
upload gets past the first command. -/
theorem pskTool_provisions (c : Crypto) (hinv : c.Inverse) {env : BuildEnv} {opts : BuildOptions}
    {outcome : BuildOutcome} {blob : List UInt8} (hbuild : pskToolBuild c env opts = .ok outcome)
    (hblob : outcome.blob = some blob) :
    ∃ psk sealedPsk seed8,
      Loaded opts.pskRaw32 env.randomPsk psk ∧ Loaded opts.seed8 env.randomSeed8 seed8 ∧
      LoadedSealed opts.sealedPsk sealedPsk ∧
      (outcome.psk = none ∨ outcome.psk = some psk.val) ∧
      (outcome.exit = 0 → opts.outPskRaw32 = true → outcome.psk = some psk.val) ∧
      (sealedPsk.length ≤ 370 → UploadProvisions c psk sealedPsk seed8 blob) ∧
      (370 < sealedPsk.length → sealedPsk.length ≤ 65406 → UploadRefused blob) := by
  obtain ⟨psk, sealedPsk, seed8, hfrom⟩ := pskToolBuild_builtFrom hbuild hblob
  obtain ⟨wb, payload, hwb, hbb⟩ := hfrom.builds
  obtain ⟨-, hdata, -⟩ := payloadBuildBb010003_ok c psk payloadSeed32Runtime hwb
  have hsealed : Sealed c psk payloadSeed32Runtime wb := by
    rw [hdata]
    exact sealed_whiteBoxOf c psk payloadSeed32Runtime hinv
  refine ⟨psk, sealedPsk, seed8, loadOrGenerateBytes_loaded hfrom.loadsPsk,
    loadOrGenerateBytes_loaded hfrom.loadsSeed8, loadSealed_loaded hfrom.loadsSealed, hfrom.out,
    hfrom.kept, ?_, ?_⟩
  · exact fun hshort => uploadProvisions_built hsealed hshort hbb
  · exact fun hlong hlimit => uploadRefused_built hsealed hlong hlimit hbb

/-! ### One blob -/

/-- Every call succeeds, and what `/dev/urandom` delivers is zero. -/
def sampleEnv : BuildEnv where
  memory := ⟨fun _ => true, fun _ => 0⟩
  calloc _ := true
  works _ := true
  randomPsk := .ok zeroPsk
  randomSeed8 := .ok (beBlock 8 0)
  writesBlob := true
  writesPsk := true

/-- A file with a sealed PSK of five bytes, which are read in two blocks. -/
def sampleSealedFile : File where
  blocks := [[0x51, 0x52, 0x53], [0x54, 0x55]]
  ferror := false
  some_bytes := by decide
  tmp := by decide

/-- A file with the eight bytes of a seed. -/
def sampleSeedFile : File where
  blocks := [[1, 2, 3, 4, 5, 6, 7, 8]]
  ferror := false
  some_bytes := by decide
  tmp := by decide

/-- `--build-bb010002` with `--seed8`, `--sealed-psk`, `--out-psk-raw32` and `--no-pad4`. -/
def sampleOptions : BuildOptions :=
  ⟨none, some (.ok sampleSeedFile), some (.ok sampleSealedFile), true, true⟩

/-- The white-box data of that run. -/
def sampleWb : List UInt8 := (whiteBoxOf sampleCrypto zeroPsk payloadSeed32Runtime).bytes

/-- The blob of that run. -/
def sampleBlob : List UInt8 :=
  (bb010002Chunks sampleSealedFile.blocks.flatten
    ⟨sampleSeedFile.blocks.flatten, rfl⟩ sampleWb).flatten

/-- With memory for every buffer a short file is read whole. -/
theorem readFileAll_sample {f : File} (hshort : f.blocks.flatten.length ≤ fileMax)
    (hread : f.ferror = false) :
    readFileAll sampleEnv.memory (.ok f) = .ok (.ok f.blocks.flatten) := by
  obtain ⟨r, hcall, hr⟩ := @readFileAll_eq sampleEnv.memory f
  rcases hr with rfl | ⟨-, n, hn⟩
  · rw [hcall, File.contents, if_neg (Nat.not_lt.mpr hshort), hread]
    rfl
  · exact absurd hn (by simp [sampleEnv])

theorem pskToolBuild_sample :
    pskToolBuild sampleCrypto sampleEnv sampleOptions =
      .ok ⟨0, some sampleBlob, some zeroPsk.val⟩ := by
  have hlen : sampleWb.length = 102 := WhiteBox.length_bytes _
  have hwb : payloadBuildBb010003 sampleCrypto sampleEnv.works zeroPsk payloadSeed32Runtime =
      .ok (sampleWb, sampleWb.drop 32) := payloadBuildBb010003_eq _ _ _ _
  have hne : sampleWb ≠ [] := by
    intro h
    rw [h] at hlen
    exact absurd hlen (by decide)
  have hbb : payloadBuildBb010002 sampleEnv.calloc sampleSealedFile.blocks.flatten
      ⟨sampleSeedFile.blocks.flatten, rfl⟩ sampleWb false = .ok (.ok sampleBlob) :=
    payloadBuildBb010002_built _ false (by rw [hlen]; decide) hne
  have hpsk : loadOrGenerateBytes sampleEnv.memory sampleOptions.pskRaw32 sampleEnv.randomPsk =
      .ok (.ok zeroPsk) := rfl
  have hseed8 : loadOrGenerateBytes sampleEnv.memory sampleOptions.seed8 sampleEnv.randomSeed8 =
      .ok (.ok ⟨sampleSeedFile.blocks.flatten, rfl⟩) :=
    loadOrGenerateBytes_read (readFileAll_sample (by decide) rfl) rfl
  have hsealed : loadSealed sampleEnv.memory sampleOptions.sealedPsk =
      .ok (.ok sampleSealedFile.blocks.flatten) := readFileAll_sample (by decide) rfl
  unfold pskToolBuild
  rw [hpsk, ok_bind]
  dsimp only
  rw [hseed8, ok_bind]
  dsimp only
  rw [hwb]
  dsimp only
  rw [hsealed, ok_bind]
  dsimp only
  rw [show (!sampleOptions.noPad4) = false from rfl, hbb, ok_bind]
  rfl

/-- The PSK is written with the blob, and the sensor gets it in the upload. -/
theorem pskTool_provisions_sealed :
    ∃ psk sealedPsk seed8,
      Loaded sampleOptions.pskRaw32 sampleEnv.randomPsk psk ∧
      Loaded sampleOptions.seed8 sampleEnv.randomSeed8 seed8 ∧
      LoadedSealed sampleOptions.sealedPsk sealedPsk ∧
      (some zeroPsk.val = none ∨ some zeroPsk.val = some psk.val) ∧
      (0 = 0 → sampleOptions.outPskRaw32 = true → some zeroPsk.val = some psk.val) ∧
      (sealedPsk.length ≤ 370 →
        UploadProvisions sampleCrypto psk sealedPsk seed8 sampleBlob) ∧
      (370 < sealedPsk.length → sealedPsk.length ≤ 65406 → UploadRefused sampleBlob) :=
  pskTool_provisions sampleCrypto sampleCrypto_inverse pskToolBuild_sample rfl

end Runs

end Gxfp
