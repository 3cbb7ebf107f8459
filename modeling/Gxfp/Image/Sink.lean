/-
What the plaintext sink holds, over any sequence of its operations.

One normal image and up to five frames of the other kind share a sink with their
counters and flags, and `plain_frame_store` writes a slot without looking whether
there is a body in it already.  That nothing is lost is up to `have_normal` and
`pov_count`: they always say which slots are taken.
-/
import Gxfp.Image.Plain

namespace Gxfp

namespace PlainSink

/-! ### Sinks in order -/

/-- A frame with a body that passes the CRC check. -/
def Holds (f : PlainFrame) : Prop := ∃ body, f.body = some body ∧ imageCrcCheck body = true

/-- The flag and the counter say what is in the slots. -/
structure Sound (s : PlainSink) : Prop where
  /-- `have_normal` is set exactly when there is a body. -/
  flag : s.haveNormal = true ↔ s.normal.body.isSome = true
  /-- A normal image passes the check. -/
  normal : s.haveNormal = true → Holds s.normal
  /-- There are five slots. -/
  slots : s.pov.length = plainMaxPovFrames
  count : s.povCount ≤ plainMaxPovFrames
  /-- The slots below the counter are taken. -/
  taken : ∀ i, i < s.povCount → ∃ f, s.pov[i]? = some f ∧ Holds f
  /-- The others are empty. -/
  empty : ∀ i, s.povCount ≤ i → i < plainMaxPovFrames → s.pov[i]? = some plainFrameReset

theorem zeroed_sound : zeroed.Sound where
  flag := by simp [zeroed, plainFrameReset]
  normal := by
    intro hhave
    exact absurd hhave Bool.false_ne_true
  slots := List.length_replicate
  count := Nat.zero_le _
  taken := by
    intro i hi
    exact absurd hi (Nat.not_lt_zero i)
  empty := by
    intro i _ hi
    exact List.getElem?_replicate_of_lt hi

end PlainSink

open PlainSink

/-! ### What the operations do -/

theorem plainFrameStore_cases (f : PlainFrame) (payload : List UInt8) (bodyLen : Nat)
    (alloc : Bool) :
    (∃ r, plainFrameStore f payload bodyLen alloc = (r, f) ∧ r ≠ .ok true) ∨
      ∃ g, plainFrameStore f payload bodyLen alloc = (.ok true, g) ∧ Holds g := by
  unfold plainFrameStore
  split
  · exact Or.inl ⟨_, rfl, by simp⟩
  · split
    · exact Or.inl ⟨_, rfl, by simp⟩
    · dsimp only
      split
      · exact Or.inl ⟨_, rfl, by simp⟩
      · rename_i hcrc
        split
        · exact Or.inl ⟨_, rfl, by simp⟩
        · exact Or.inr ⟨_, rfl, _, rfl, not_not.mp hcrc⟩

/-- A normal image is stored only where there is none. -/
theorem plainSinkAppendNormal_cases (s : PlainSink) (payload : List UInt8) (alloc : Bool) :
    plainSinkAppendNormal s payload alloc = s ∨
      s.haveNormal = false ∧ ∃ f, Holds f ∧
        plainSinkAppendNormal s payload alloc = { s with normal := f, haveNormal := true } := by
  unfold plainSinkAppendNormal
  split
  · exact Or.inl rfl
  · split
    · exact Or.inl rfl
    · rename_i hhave
      rcases plainFrameStore_cases s.normal payload (payload.length - 5) alloc with
        ⟨r, hstore, hr⟩ | ⟨f, hstore, hf⟩
      · left
        rw [hstore]
        split
        · rename_i heq
          exact absurd (congrArg Prod.fst heq) hr
        · rename_i heq
          injection heq with _ hsame
          rw [← hsame]
      · right
        rw [hstore]
        exact ⟨Bool.not_eq_true _ ▸ hhave, f, hf, rfl⟩

/-- Any other frame goes into the slot the counter points at. -/
theorem plainSinkAppendPov_cases (s : PlainSink) (payload : List UInt8) (alloc : Bool) :
    (∃ n, plainSinkAppendPov s payload alloc = { s with povCrcFail := n }) ∨
      s.povCount < plainMaxPovFrames ∧ ∃ f, Holds f ∧
        plainSinkAppendPov s payload alloc =
          { s with pov := s.pov.set s.povCount f, povCount := s.povCount + 1 } := by
  have hback : s.pov.set s.povCount (s.pov.getD s.povCount plainFrameReset) = s.pov := by
    by_cases hlt : s.povCount < s.pov.length
    · rw [List.getD_eq_getElem?_getD, List.getElem?_eq_getElem hlt, Option.getD_some,
        List.set_getElem_self]
    · exact List.set_eq_of_length_le (Nat.not_lt.mp hlt)
  unfold plainSinkAppendPov
  split
  · exact Or.inl ⟨s.povCrcFail, rfl⟩
  · split
    · exact Or.inl ⟨s.povCrcFail, rfl⟩
    · rename_i hroom
      rcases plainFrameStore_cases (s.pov.getD s.povCount plainFrameReset) payload
        (payload.length - 5) alloc with ⟨r, hstore, hr⟩ | ⟨f, hstore, hf⟩
      · left
        rw [hstore]
        split
        · rename_i heq
          exact absurd (congrArg Prod.fst heq) hr
        · rename_i heq
          injection heq with _ hsame
          rw [← hsame, hback]
          exact ⟨_, rfl⟩
        · rename_i heq
          injection heq with _ hsame
          rw [← hsame, hback]
          exact ⟨s.povCrcFail, rfl⟩
      · right
        rw [hstore]
        exact ⟨Nat.not_le.mp hroom, f, hf, rfl⟩

/-- What both appends preserve, a scan preserves. -/
theorem plainScanChunks_preserves {P : PlainSink → Prop}
    (hnormal : ∀ s payload alloc, P s → P (plainSinkAppendNormal s payload alloc))
    (hpov : ∀ s payload alloc, P s → P (plainSinkAppendPov s payload alloc))
    (alloc : Nat → Bool) (buf : List UInt8) (s : PlainSink) (h : P s) :
    P (plainScanChunks alloc buf s) := by
  have hframe : ∀ frame alloc s, P s → P (plainScanFrame frame alloc s) := by
    intro frame alloc s hs
    unfold plainScanFrame
    dsimp only
    split
    · exact hnormal s _ _ hs
    · split
      · exact hpov s _ _ hs
      · exact hs
  have hloop : ∀ off s, P s → P (plainScanLoop alloc buf off s) := by
    intro off s
    fun_induction plainScanLoop alloc buf off s with
    | case1 off s hlt hparse ih => exact ih
    | case2 off s hlt frame hparse hvalid ih => exact ih
    | case3 off s hlt frame hparse hvalid total s' hin ih =>
        intro hs
        exact ih (hframe frame _ s hs)
    | case4 off s hlt frame hparse hvalid total s' hout ih =>
        intro hs
        exact ih (hframe frame _ s hs)
    | case5 off s hend => exact id
  unfold plainScanChunks
  split
  · exact h
  · exact hloop 0 s h

/-! ### Each operation keeps the sink in order -/

theorem plainSinkAppendNormal_sound {s : PlainSink} (h : s.Sound) (payload : List UInt8)
    (alloc : Bool) : (plainSinkAppendNormal s payload alloc).Sound := by
  rcases plainSinkAppendNormal_cases s payload alloc with heq | ⟨-, f, hf, heq⟩
  · rw [heq]
    exact h
  · rw [heq]
    obtain ⟨body, hbody, hcrc⟩ := hf
    exact { h with
      flag := by simp [hbody]
      normal := fun _ => ⟨body, hbody, hcrc⟩ }

theorem plainSinkAppendPov_sound {s : PlainSink} (h : s.Sound) (payload : List UInt8)
    (alloc : Bool) : (plainSinkAppendPov s payload alloc).Sound := by
  rcases plainSinkAppendPov_cases s payload alloc with ⟨n, heq⟩ | ⟨hroom, f, hf, heq⟩
  · rw [heq]
    exact { h with }
  · rw [heq]
    refine { h with slots := ?slots, count := hroom, taken := ?taken, empty := ?empty }
    case slots =>
      rw [List.length_set]
      exact h.slots
    case taken =>
      intro i hi
      by_cases hnew : i = s.povCount
      · rw [hnew, List.getElem?_set_self (h.slots ▸ hroom)]
        exact ⟨f, rfl, hf⟩
      · rw [List.getElem?_set_ne (Ne.symm hnew)]
        exact h.taken i (Nat.lt_of_le_of_ne (Nat.le_of_lt_succ hi) hnew)
    case empty =>
      intro i hi hslot
      have hne : s.povCount ≠ i := Nat.ne_of_lt hi
      rw [List.getElem?_set_ne hne]
      exact h.empty i (Nat.le_of_lt hi) hslot

theorem plainSinkResetNormal_sound {s : PlainSink} (h : s.Sound) :
    (plainSinkResetNormal s).Sound :=
  { h with
    flag := zeroed_sound.flag
    normal := zeroed_sound.normal }

theorem plainSinkResetPov_sound {s : PlainSink} (h : s.Sound) : (plainSinkResetPov s).Sound :=
  { zeroed_sound with
    flag := h.flag
    normal := h.normal }

theorem plainSinkExtractNormal_sound {s : PlainSink} (h : s.Sound) (alloc : Bool) :
    (plainSinkExtractNormal s alloc).2.Sound := by
  rcases plainSinkExtractNormal_snd s alloc with heq | heq
  · rw [heq]
    exact h
  · rw [heq]
    exact plainSinkResetNormal_sound h

/-- **Extracting fails without a trace.** -/
theorem plainSinkExtractNormal_fails {s : PlainSink} {alloc : Bool}
    (h : ∀ image, (plainSinkExtractNormal s alloc).1 ≠ .ok (some image)) :
    (plainSinkExtractNormal s alloc).2 = s := by
  unfold plainSinkExtractNormal at h ⊢
  split
  · rfl
  · rename_i body hbody
    rw [hbody] at h
    dsimp only at h
    split
    · rfl
    · rename_i hfull
      rw [if_neg hfull] at h
      split
      · rfl
      · rename_i halloc
        rw [if_neg halloc] at h
        exact absurd rfl (h _)

/-! ### Runs -/

/-- An operation on the sink, with its input and what `malloc` does in it. -/
inductive SinkOp where
  | scan (buf : List UInt8) (alloc : Nat → Bool)
  | appendNormal (payload : List UInt8) (alloc : Bool)
  | appendPov (payload : List UInt8) (alloc : Bool)
  | extractNormal (alloc : Bool)
  | resetNormal
  | resetPov
  | reset

namespace SinkOp

def apply : SinkOp → PlainSink → PlainSink
  | scan buf alloc, s => plainScanChunks alloc buf s
  | appendNormal payload alloc, s => plainSinkAppendNormal s payload alloc
  | appendPov payload alloc, s => plainSinkAppendPov s payload alloc
  | extractNormal alloc, s => (plainSinkExtractNormal s alloc).2
  | resetNormal, s => plainSinkResetNormal s
  | resetPov, s => plainSinkResetPov s
  | reset, s => plainSinkReset s

/-- The operation is there to give the normal image away. -/
def dropsNormal : SinkOp → Bool
  | extractNormal _ | resetNormal | reset => true
  | _ => false

/-- The operation is there to give the other frames away. -/
def dropsPov : SinkOp → Bool
  | resetPov | reset => true
  | _ => false

theorem apply_sound (op : SinkOp) {s : PlainSink} (h : s.Sound) : (op.apply s).Sound := by
  cases op with
  | scan buf alloc =>
      exact plainScanChunks_preserves (P := Sound)
        (fun s payload alloc hs => plainSinkAppendNormal_sound hs payload alloc)
        (fun s payload alloc hs => plainSinkAppendPov_sound hs payload alloc) alloc buf s h
  | appendNormal payload alloc => exact plainSinkAppendNormal_sound h payload alloc
  | appendPov payload alloc => exact plainSinkAppendPov_sound h payload alloc
  | extractNormal alloc => exact plainSinkExtractNormal_sound h alloc
  | resetNormal => exact plainSinkResetNormal_sound h
  | resetPov => exact plainSinkResetPov_sound h
  | reset => exact plainSinkResetPov_sound (plainSinkResetNormal_sound h)

end SinkOp

/-- The operations one after the other. -/
def sinkRun (ops : List SinkOp) (s : PlainSink) : PlainSink := ops.foldl (fun s op => op.apply s) s

theorem sinkRun_cons (op : SinkOp) (ops : List SinkOp) (s : PlainSink) :
    sinkRun (op :: ops) s = sinkRun ops (op.apply s) := rfl

theorem sinkRun_preserves {P : PlainSink → Prop} {ops : List SinkOp}
    (hstep : ∀ op ∈ ops, ∀ s, P s → P (op.apply s)) {s : PlainSink} (h : P s) :
    P (sinkRun ops s) := by
  induction ops generalizing s with
  | nil => exact h
  | cons op ops ih =>
      rw [List.forall_mem_cons] at hstep
      rw [sinkRun_cons]
      exact ih hstep.2 (hstep.1 s h)

/-- **A normal image stays what it is.** -/
theorem sinkRun_keepsNormal {ops : List SinkOp} (hops : ∀ op ∈ ops, op.dropsNormal = false)
    {s : PlainSink} (h : s.haveNormal = true) :
    (sinkRun ops s).haveNormal = true ∧ (sinkRun ops s).normal = s.normal := by
  have hnormal : ∀ t payload alloc, (t.haveNormal = true ∧ t.normal = s.normal) →
      (plainSinkAppendNormal t payload alloc).haveNormal = true ∧
        (plainSinkAppendNormal t payload alloc).normal = s.normal := by
    intro t payload alloc ht
    rcases plainSinkAppendNormal_cases t payload alloc with heq | ⟨hnone, -⟩
    · rw [heq]
      exact ht
    · rw [ht.1] at hnone
      exact absurd hnone Bool.noConfusion
  have hpov : ∀ t payload alloc, (t.haveNormal = true ∧ t.normal = s.normal) →
      (plainSinkAppendPov t payload alloc).haveNormal = true ∧
        (plainSinkAppendPov t payload alloc).normal = s.normal := by
    intro t payload alloc ht
    obtain ⟨hhave, hsame⟩ := plainSinkAppendPov_normal t payload alloc
    exact ⟨hhave.trans ht.1, hsame.trans ht.2⟩
  refine sinkRun_preserves (P := fun t => t.haveNormal = true ∧ t.normal = s.normal)
    (fun op hop t ht => ?_) ⟨h, rfl⟩
  have hkeeps := hops op hop
  cases op with
  | scan buf alloc => exact plainScanChunks_preserves hnormal hpov alloc buf t ht
  | appendNormal payload alloc => exact hnormal t payload alloc ht
  | appendPov payload alloc => exact hpov t payload alloc ht
  | resetPov => exact ht
  | extractNormal alloc => exact absurd hkeeps Bool.noConfusion
  | resetNormal => exact absurd hkeeps Bool.noConfusion
  | reset => exact absurd hkeeps Bool.noConfusion

/-- **The other frames stay what they are.** -/
theorem sinkRun_keepsPov {ops : List SinkOp} (hops : ∀ op ∈ ops, op.dropsPov = false)
    {s : PlainSink} {i : Nat} (hi : i < s.povCount) :
    i < (sinkRun ops s).povCount ∧ (sinkRun ops s).pov[i]? = s.pov[i]? := by
  have hnormal : ∀ t payload alloc, (i < t.povCount ∧ t.pov[i]? = s.pov[i]?) →
      i < (plainSinkAppendNormal t payload alloc).povCount ∧
        (plainSinkAppendNormal t payload alloc).pov[i]? = s.pov[i]? := by
    intro t payload alloc ht
    rcases plainSinkAppendNormal_cases t payload alloc with heq | ⟨-, f, -, heq⟩
    · rw [heq]
      exact ht
    · rw [heq]
      exact ht
  have hpov : ∀ t payload alloc, (i < t.povCount ∧ t.pov[i]? = s.pov[i]?) →
      i < (plainSinkAppendPov t payload alloc).povCount ∧
        (plainSinkAppendPov t payload alloc).pov[i]? = s.pov[i]? := by
    intro t payload alloc ht
    rcases plainSinkAppendPov_cases t payload alloc with ⟨n, heq⟩ | ⟨-, f, -, heq⟩
    · rw [heq]
      exact ht
    · rw [heq]
      refine ⟨Nat.lt_succ_of_lt ht.1, ?_⟩
      rw [List.getElem?_set_ne (Nat.ne_of_gt ht.1)]
      exact ht.2
  refine sinkRun_preserves (P := fun t => i < t.povCount ∧ t.pov[i]? = s.pov[i]?)
    (fun op hop t ht => ?_) ⟨hi, rfl⟩
  have hkeeps := hops op hop
  cases op with
  | scan buf alloc => exact plainScanChunks_preserves hnormal hpov alloc buf t ht
  | appendNormal payload alloc => exact hnormal t payload alloc ht
  | appendPov payload alloc => exact hpov t payload alloc ht
  | extractNormal alloc =>
      show i < (plainSinkExtractNormal t alloc).2.povCount ∧
        (plainSinkExtractNormal t alloc).2.pov[i]? = s.pov[i]?
      rcases plainSinkExtractNormal_snd t alloc with heq | heq
      · rw [heq]
        exact ht
      · rw [heq]
        exact ht
  | resetNormal => exact ht
  | resetPov => exact absurd hkeeps Bool.noConfusion
  | reset => exact absurd hkeeps Bool.noConfusion

/--
**The sink stays in order, and what is in it stays there.**

After any operations on a zeroed sink the flag and the counter say what the slots hold.
From there the normal image stays until it is extracted or reset, the other frames stay
until they are reset, and extracting without success changes nothing.
-/
theorem sinkRun_sound (ops : List SinkOp) :
    (sinkRun ops zeroed).Sound ∧
    (∀ later : List SinkOp, (∀ op ∈ later, op.dropsNormal = false) →
      (sinkRun ops zeroed).haveNormal = true →
        (sinkRun (ops ++ later) zeroed).haveNormal = true ∧
          (sinkRun (ops ++ later) zeroed).normal = (sinkRun ops zeroed).normal) ∧
    (∀ later : List SinkOp, (∀ op ∈ later, op.dropsPov = false) →
      ∀ i, i < (sinkRun ops zeroed).povCount →
        i < (sinkRun (ops ++ later) zeroed).povCount ∧
          (sinkRun (ops ++ later) zeroed).pov[i]? = (sinkRun ops zeroed).pov[i]?) ∧
    ∀ alloc, (∀ image, (plainSinkExtractNormal (sinkRun ops zeroed) alloc).1 ≠ .ok (some image)) →
      sinkRun (ops ++ [.extractNormal alloc]) zeroed = sinkRun ops zeroed := by
  have happend : ∀ later, sinkRun (ops ++ later) zeroed = sinkRun later (sinkRun ops zeroed) :=
    fun later => List.foldl_append
  simp only [happend]
  refine ⟨sinkRun_preserves (fun op _ s h => op.apply_sound h) zeroed_sound, ?_, ?_, ?_⟩
  · intro later hlater hhave
    exact sinkRun_keepsNormal hlater hhave
  · intro later hlater i hi
    exact sinkRun_keepsPov hlater hi
  · intro alloc hfails
    exact plainSinkExtractNormal_fails hfails

/-- An image with an empty content outlives another image and a reset of the other frames. -/
theorem sinkRun_sound_image :
    (sinkRun ([.appendNormal [1, 2, 3, 4, 5, 0xFF, 0xFF, 0xFF, 0xFF] true] ++
      [.appendNormal [6, 7, 8, 9, 10, 0xFF, 0xFF, 0xFF, 0xFF] true, .resetPov]) zeroed).normal =
      { hdr := [1, 2, 3, 4, 5], body := some [0xFF, 0xFF, 0xFF, 0xFF] } := by
  obtain ⟨-, hkept, -⟩ :=
    sinkRun_sound [.appendNormal [1, 2, 3, 4, 5, 0xFF, 0xFF, 0xFF, 0xFF] true]
  obtain ⟨-, hsame⟩ := hkept
    [.appendNormal [6, 7, 8, 9, 10, 0xFF, 0xFF, 0xFF, 0xFF] true, .resetPov]
    (by simp [SinkOp.dropsNormal]) (by decide)
  rw [hsame]
  decide

end Gxfp
