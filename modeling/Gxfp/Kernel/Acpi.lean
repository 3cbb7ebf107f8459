/-
The GPIO lines in the firmware's list of resources, `src/kernel/gxfp.c`.

The lines are not named there.  `gxfp_crs_cb` sees one resource after the other and
counts: the interrupt is the first interrupt descriptor with a pin, and the strobes are
the first two I/O descriptors, in that order.  An entry of the mapping names a line by its
position among all GPIO descriptors of the list, so that is what the counters must agree
on, also behind descriptors without pins and behind ones that are of no use.

The ACPI core and the allocator are `AcpiAnswers`.  A list of resources comes out of a
buffer with a 32-bit length, so that no counter reaches the end of an `int`.
-/
import Mathlib.Data.List.Basic
import Mathlib.Data.List.Induction
import Gxfp.Errno
import Gxfp.Library.Blocks

namespace Gxfp

open Blocks

/-! ### Resources -/

def acpiGpioTypeInt : UInt8 := 0
def acpiGpioTypeIo : UInt8 := 1

def acpiActiveHigh : UInt8 := 0
def acpiActiveLow : UInt8 := 1
def acpiActiveBoth : UInt8 := 2

def acpiLevelSensitive : UInt8 := 0
def acpiEdgeSensitive : UInt8 := 1

def irqTypeNone : UInt32 := 0
def irqTypeEdgeRising : UInt32 := 1
def irqTypeEdgeFalling : UInt32 := 2
def irqTypeEdgeBoth : UInt32 := 3
def irqTypeLevelHigh : UInt32 := 4
def irqTypeLevelLow : UInt32 := 8

/-- `struct acpi_resource_gpio` -/
structure AcpiGpio where
  connectionType : UInt8
  pinTableLength : UInt16
  triggering : UInt8
  polarity : UInt8
  deriving DecidableEq, Repr

/-- `struct acpi_resource`; of those of another type nothing is read. -/
inductive AcpiResource
  | gpio (gpio : AcpiGpio)
  | other
  deriving DecidableEq, Repr

/-! ### The functions of `gxfp.c` -/

/-- `struct gxfp_crs` -/
structure GxfpCrs where
  gpioSeen : Nat
  ioSeen : Nat
  intSeen : Nat
  ioPol : List UInt8
  ioIndex : List Int
  intIndex : Int
  intTriggering : UInt8
  intPolarity : UInt8
  deriving DecidableEq, Repr

/-- What `gxfp_add_gpio_mapping` starts with. -/
def GxfpCrs.start : GxfpCrs where
  gpioSeen := 0
  ioSeen := 0
  intSeen := 0
  ioPol := [0, 0]
  ioIndex := [-1, -1]
  intIndex := -1
  intTriggering := 0
  intPolarity := 0

/-- The counters that `gxfp_crs_cb` moves for every GPIO descriptor. -/
def GxfpCrs.count (st : GxfpCrs) (gpio : AcpiGpio) : GxfpCrs :=
  let st := { st with gpioSeen := st.gpioSeen + 1 }
  if gpio.connectionType = acpiGpioTypeInt then { st with intSeen := st.intSeen + 1 }
  else if gpio.connectionType = acpiGpioTypeIo then { st with ioSeen := st.ioSeen + 1 }
  else st

/-- `gxfp_crs_cb` -/
def gxfpCrsCb (st : GxfpCrs) : AcpiResource → GxfpCrs
  | .other => st
  | .gpio gpio =>
    let st := st.count gpio
    if gpio.pinTableLength = 0 then st
    else if gpio.connectionType = acpiGpioTypeInt then
      if st.intIndex < 0 then
        { st with
          intIndex := (st.gpioSeen - 1 : Nat)
          intTriggering := gpio.triggering
          intPolarity := gpio.polarity }
      else st
    else if gpio.connectionType = acpiGpioTypeIo ∧ st.ioSeen ≤ 2 then
      { st with
        ioPol := st.ioPol.set (st.ioSeen - 1) gpio.polarity
        ioIndex := st.ioIndex.set (st.ioSeen - 1) (st.gpioSeen - 1 : Nat) }
    else st

/-- `gxfp_acpi_irq_type` -/
def gxfpAcpiIrqType (triggering polarity : UInt8) : UInt32 :=
  let low := polarity = acpiActiveLow
  if polarity = acpiActiveBoth then
    if triggering = acpiEdgeSensitive then irqTypeEdgeBoth else irqTypeNone
  else if triggering = acpiLevelSensitive then
    if low then irqTypeLevelLow else irqTypeLevelHigh
  else if triggering = acpiEdgeSensitive then
    if low then irqTypeEdgeFalling else irqTypeEdgeRising
  else irqTypeNone

/-- `struct acpi_gpio_params` -/
structure AcpiGpioParams where
  crsEntryIndex : Nat
  lineIndex : Nat
  activeLow : Bool
  deriving DecidableEq, Repr

/-- `struct acpi_gpio_mapping`, whose `size` is always one. -/
structure AcpiGpioMapping where
  name : String
  data : AcpiGpioParams
  deriving DecidableEq, Repr

/-- What the ACPI core and the allocator answer. -/
structure AcpiAnswers where
  /-- The error of `acpi_dev_get_resources`, if it is one. -/
  walk : Option Errno
  /-- Whether there is memory for the parameters and for the mapping. -/
  params : Bool
  map : Bool
  /-- The error of `devm_acpi_dev_add_driver_gpios`, if it is one. -/
  add : Option Errno

/-- The checks of `gxfp_add_gpio_mapping`. -/
def GxfpCrs.check (st : GxfpCrs) : Except Errno Unit :=
  let ioPol0 := st.ioPol.getD 0 0
  let ioPol1 := st.ioPol.getD 1 0
  if st.intIndex < 0 ∨ st.intSeen ≠ 1 ∨ st.ioSeen ≠ 2 ∨
      st.ioIndex.getD 0 0 < 0 ∨ st.ioIndex.getD 1 0 < 0 then .error .noent
  else if st.intPolarity ≠ acpiActiveHigh ∧ st.intPolarity ≠ acpiActiveLow then .error .inval
  else if (ioPol0 ≠ acpiActiveHigh ∧ ioPol0 ≠ acpiActiveLow) ∨
      (ioPol1 ≠ acpiActiveHigh ∧ ioPol1 ≠ acpiActiveLow) then .error .inval
  else if ioPol0 ≠ ioPol1 then .error .inval
  else .ok ()

/-- The entries it makes. -/
def GxfpCrs.entries (st : GxfpCrs) : List AcpiGpioMapping :=
  let activeLow := decide (st.ioPol.getD 0 0 = acpiActiveLow)
  [⟨"irq-gpios", st.intIndex.toNat, 0, false⟩,
    ⟨"write-done-gpios", (st.ioIndex.getD 0 0).toNat, 0, activeLow⟩,
    ⟨"read-done-gpios", (st.ioIndex.getD 1 0).toNat, 0, activeLow⟩]

/-- `gxfp_add_gpio_mapping` with the companion's resources: the mapping, and `*irq_flags`. -/
def gxfpAddGpioMapping (adev : Option (List AcpiResource)) (answers : AcpiAnswers)
    (irqFlags : UInt32) : Except Errno (List AcpiGpioMapping) × UInt32 :=
  match adev with
  | none => (.error .nodev, irqFlags)
  | some resources =>
    let st := resources.foldl gxfpCrsCb .start
    match answers.walk with
    | some e => (.error e, irqFlags)
    | none =>
      match st.check with
      | .error e => (.error e, irqFlags)
      | .ok () =>
        let irqFlags := gxfpAcpiIrqType st.intTriggering st.intPolarity
        if ¬ answers.params ∨ ¬ answers.map then (.error .nomem, irqFlags)
        else
          match answers.add with
          | some e => (.error e, irqFlags)
          | none => (.ok st.entries, irqFlags)

/-! ### Supported layouts -/

def AcpiResource.gpio? : AcpiResource → Option AcpiGpio
  | .gpio g => some g
  | .other => none

/-- The GPIO descriptors of a list, with their positions among themselves. -/
def gpioResources (resources : List AcpiResource) : List (AcpiGpio × Nat) :=
  (resources.filterMap AcpiResource.gpio?).zipIdx

/-- Those of a connection type. -/
def gpiosOf (connectionType : UInt8) (resources : List AcpiResource) : List (AcpiGpio × Nat) :=
  (gpioResources resources).filter fun g => g.1.connectionType = connectionType

/-- One interrupt and two strobes, all with pins, with polarities that can be used. -/
structure SupportedLayout (resources : List AcpiResource) (int io₀ io₁ : AcpiGpio × Nat) :
    Prop where
  ints : gpiosOf acpiGpioTypeInt resources = [int]
  ios : gpiosOf acpiGpioTypeIo resources = [io₀, io₁]
  intPins : int.1.pinTableLength ≠ 0
  io₀Pins : io₀.1.pinTableLength ≠ 0
  io₁Pins : io₁.1.pinTableLength ≠ 0
  intPolarity : int.1.polarity = acpiActiveHigh ∨ int.1.polarity = acpiActiveLow
  ioPolarity : io₀.1.polarity = acpiActiveHigh ∨ io₀.1.polarity = acpiActiveLow
  same : io₀.1.polarity = io₁.1.polarity

/-- The mapping of such a layout. -/
def gpioMappings (int io₀ io₁ : AcpiGpio × Nat) : List AcpiGpioMapping :=
  [⟨"irq-gpios", int.2, 0, false⟩,
    ⟨"write-done-gpios", io₀.2, 0, decide (io₀.1.polarity = acpiActiveLow)⟩,
    ⟨"read-done-gpios", io₁.2, 0, decide (io₀.1.polarity = acpiActiveLow)⟩]

/-! ### The walk -/

def AcpiGpio.HasPins (gpio : AcpiGpio) : Prop := gpio.pinTableLength ≠ 0

instance (gpio : AcpiGpio) : Decidable gpio.HasPins := inferInstanceAs (Decidable (_ ≠ _))

/-- The first interrupt that has pins. -/
def firstInt (resources : List AcpiResource) : Option (AcpiGpio × Nat) :=
  (gpiosOf acpiGpioTypeInt resources).find? fun g => g.1.HasPins

/-- The index noted for a strobe, if there is such a one and it has pins. -/
def crsIndex : Option (AcpiGpio × Nat) → Int
  | some (gpio, i) => if gpio.HasPins then i else -1
  | none => -1

/-- What `gxfp_crs_cb` has made of the resources so far. -/
structure GxfpCrs.Of (resources : List AcpiResource) (st : GxfpCrs) : Prop where
  gpioSeen : st.gpioSeen = (gpioResources resources).length
  intSeen : st.intSeen = (gpiosOf acpiGpioTypeInt resources).length
  ioSeen : st.ioSeen = (gpiosOf acpiGpioTypeIo resources).length
  intIndex : st.intIndex = (firstInt resources).elim (-1 : Int) fun g => g.2
  intLine : ∀ g, firstInt resources = some g →
    st.intTriggering = g.1.triggering ∧ st.intPolarity = g.1.polarity
  ioIndex_length : st.ioIndex.length = 2
  ioPol_length : st.ioPol.length = 2
  ioIndex : ∀ k < 2, st.ioIndex.getD k 0 = crsIndex (gpiosOf acpiGpioTypeIo resources)[k]?
  ioPol : ∀ k < 2, ∀ g, (gpiosOf acpiGpioTypeIo resources)[k]? = some g → g.1.HasPins →
    st.ioPol.getD k 0 = g.1.polarity

section Walk

variable {resources : List AcpiResource} {st : GxfpCrs} {gpio : AcpiGpio}

theorem gpioResources_other :
    gpioResources (resources ++ [.other]) = gpioResources resources := by
  rw [gpioResources, List.filterMap_append]
  exact congrArg List.zipIdx (List.append_nil _)

theorem gpioResources_gpio :
    gpioResources (resources ++ [.gpio gpio]) =
      gpioResources resources ++ [(gpio, (gpioResources resources).length)] := by
  have hone : [AcpiResource.gpio gpio].filterMap AcpiResource.gpio? = [gpio] := rfl
  rw [gpioResources, gpioResources, List.filterMap_append, hone, List.zipIdx_append,
    List.length_zipIdx, Nat.zero_add]
  rfl

theorem gpiosOf_other (t : UInt8) : gpiosOf t (resources ++ [.other]) = gpiosOf t resources := by
  rw [gpiosOf, gpioResources_other, gpiosOf]

theorem gpiosOf_gpio_same {t : UInt8} (ht : gpio.connectionType = t) :
    gpiosOf t (resources ++ [.gpio gpio]) =
      gpiosOf t resources ++ [(gpio, (gpioResources resources).length)] := by
  rw [gpiosOf, gpioResources_gpio, List.filter_append, gpiosOf]
  congr 1
  exact List.filter_cons_of_pos (decide_eq_true ht)

theorem gpiosOf_gpio_ne {t : UInt8} (ht : gpio.connectionType ≠ t) :
    gpiosOf t (resources ++ [.gpio gpio]) = gpiosOf t resources := by
  rw [gpiosOf, gpioResources_gpio, List.filter_append, gpiosOf,
    List.filter_cons_of_neg (by simpa using ht), List.filter_nil, List.append_nil]

theorem firstInt_gpio_ne (hint : gpio.connectionType ≠ acpiGpioTypeInt) :
    firstInt (resources ++ [.gpio gpio]) = firstInt resources := by
  rw [firstInt, gpiosOf_gpio_ne hint, firstInt]

theorem crs_start : GxfpCrs.Of [] .start where
  gpioSeen := rfl
  intSeen := rfl
  ioSeen := rfl
  intIndex := rfl
  intLine := fun g hg => by cases hg
  ioIndex_length := rfl
  ioPol_length := rfl
  ioIndex := fun k hk => by
    rcases k with _ | _ | k
    · rfl
    · rfl
    · omega
  ioPol := fun k hk g hg => by cases hg

/-- Every descriptor is counted among all. -/
theorem GxfpCrs.Of.gpioSeen_gpio (h : GxfpCrs.Of resources st) :
    st.gpioSeen + 1 = (gpioResources (resources ++ [.gpio gpio])).length := by
  rw [gpioResources_gpio, List.length_append, h.gpioSeen]
  rfl

/-- An interrupt: the first one with pins is noted. -/
theorem GxfpCrs.Of.int (h : GxfpCrs.Of resources st) (ht : gpio.connectionType = acpiGpioTypeInt) :
    GxfpCrs.Of (resources ++ [.gpio gpio]) (gxfpCrsCb st (.gpio gpio)) := by
  have hio : gpio.connectionType ≠ acpiGpioTypeIo := by
    rw [ht]
    decide
  have hfirst : firstInt (resources ++ [.gpio gpio]) =
      (firstInt resources).or
        (if gpio.HasPins then some (gpio, (gpioResources resources).length) else none) := by
    rw [firstInt, gpiosOf_gpio_same ht, List.find?_append, firstInt, List.find?_singleton]
    simp only [decide_eq_true_eq]
  have hcount : st.count gpio =
      { st with gpioSeen := st.gpioSeen + 1, intSeen := st.intSeen + 1 } := by
    rw [GxfpCrs.count, if_pos ht]
  have hints : st.intSeen + 1 =
      (gpiosOf acpiGpioTypeInt (resources ++ [.gpio gpio])).length := by
    rw [gpiosOf_gpio_same ht, List.length_append, h.intSeen]
    rfl
  have hios : gpiosOf acpiGpioTypeIo (resources ++ [.gpio gpio]) =
      gpiosOf acpiGpioTypeIo resources := gpiosOf_gpio_ne hio
  have hsame (hkeep : firstInt (resources ++ [.gpio gpio]) = firstInt resources) :
      GxfpCrs.Of (resources ++ [.gpio gpio]) (st.count gpio) := by
    rw [hcount]
    exact ⟨h.gpioSeen_gpio, hints, hios ▸ h.ioSeen, hkeep ▸ h.intIndex, hkeep ▸ h.intLine,
      h.ioIndex_length, h.ioPol_length, hios ▸ h.ioIndex, hios ▸ h.ioPol⟩
  unfold gxfpCrsCb
  dsimp only
  by_cases hpins : gpio.HasPins
  case neg =>
    rw [if_pos (not_not.mp hpins)]
    refine hsame ?_
    rw [hfirst, if_neg hpins, Option.or_none]
  rw [if_neg hpins, if_pos ht]
  have hindex : (st.count gpio).intIndex = (firstInt resources).elim (-1 : Int) fun g => g.2 := by
    rw [hcount]
    exact h.intIndex
  rw [if_pos hpins] at hfirst
  rcases hold : firstInt resources with _ | g
  · have hneg : (st.count gpio).intIndex < 0 := by
      rw [hindex, hold]
      decide
    rw [hold, Option.none_or] at hfirst
    rw [if_pos hneg, hcount]
    refine ⟨h.gpioSeen_gpio, hints, hios ▸ h.ioSeen, ?_, ?_, h.ioIndex_length, h.ioPol_length,
      hios ▸ h.ioIndex, hios ▸ h.ioPol⟩
    · rw [hfirst, ← h.gpioSeen]
      rfl
    · intro g hg
      rw [hfirst] at hg
      cases hg
      exact ⟨rfl, rfl⟩
  · have hnonneg : ¬ (st.count gpio).intIndex < 0 := by
      rw [hindex, hold]
      exact Int.not_lt.mpr (Int.natCast_nonneg g.2)
    rw [if_neg hnonneg]
    refine hsame ?_
    rw [hfirst, hold, Option.some_or]

section Strobe

variable (h : GxfpCrs.Of resources st) (ht : gpio.connectionType = acpiGpioTypeIo)

include ht

theorem ne_int_of_io : gpio.connectionType ≠ acpiGpioTypeInt := by
  rw [ht]
  decide

theorem GxfpCrs.count_io :
    st.count gpio = { st with gpioSeen := st.gpioSeen + 1, ioSeen := st.ioSeen + 1 } := by
  rw [GxfpCrs.count, if_neg (ne_int_of_io ht), if_pos ht]

include h

/-- The new strobe is the last. -/
theorem GxfpCrs.Of.io_new :
    (gpiosOf acpiGpioTypeIo (resources ++ [.gpio gpio]))[st.ioSeen]? =
      some (gpio, (gpioResources resources).length) := by
  rw [gpiosOf_gpio_same ht, h.ioSeen]
  exact List.getElem?_concat_length

/-- Before the new one the list is as it was, and behind it there is nothing. -/
theorem GxfpCrs.Of.io_other {k : Nat} (hk : k ≠ st.ioSeen) :
    (gpiosOf acpiGpioTypeIo (resources ++ [.gpio gpio]))[k]? =
      (gpiosOf acpiGpioTypeIo resources)[k]? := by
  rw [gpiosOf_gpio_same ht]
  have hlen := h.ioSeen
  rcases Nat.lt_or_ge k st.ioSeen with hlt | hge
  · exact List.getElem?_append_left (hlen ▸ hlt)
  · rw [List.getElem?_eq_none, List.getElem?_eq_none]
    · omega
    · rw [List.length_append, List.length_singleton]
      omega

/-- What is noted of the strobes decides: the rest is as it should be. -/
theorem GxfpCrs.Of.io_of (ioIndex : List Int) (ioPol : List UInt8) (hindexLen : ioIndex.length = 2)
    (hpolLen : ioPol.length = 2)
    (hindex : ∀ k < 2, ioIndex.getD k 0 =
      crsIndex (gpiosOf acpiGpioTypeIo (resources ++ [.gpio gpio]))[k]?)
    (hpol : ∀ k < 2, ∀ g, (gpiosOf acpiGpioTypeIo (resources ++ [.gpio gpio]))[k]? = some g →
      g.1.HasPins → ioPol.getD k 0 = g.1.polarity) :
    GxfpCrs.Of (resources ++ [.gpio gpio])
      { st.count gpio with ioIndex := ioIndex, ioPol := ioPol } := by
  have hint := ne_int_of_io ht
  have hints : gpiosOf acpiGpioTypeInt (resources ++ [.gpio gpio]) =
      gpiosOf acpiGpioTypeInt resources := gpiosOf_gpio_ne hint
  have hfirst : firstInt (resources ++ [.gpio gpio]) = firstInt resources := firstInt_gpio_ne hint
  have hioSeen : st.ioSeen + 1 =
      (gpiosOf acpiGpioTypeIo (resources ++ [.gpio gpio])).length := by
    rw [gpiosOf_gpio_same ht, List.length_append, h.ioSeen]
    rfl
  rw [GxfpCrs.count_io ht]
  exact ⟨h.gpioSeen_gpio, hints ▸ h.intSeen, hioSeen, hfirst ▸ h.intIndex, hfirst ▸ h.intLine,
    hindexLen, hpolLen, hindex, hpol⟩

/-- A strobe that is not noted has no pins, or is the third or a later one. -/
theorem GxfpCrs.Of.ioSkipped (hskip : st.ioSeen < 2 → ¬ gpio.HasPins) :
    GxfpCrs.Of (resources ++ [.gpio gpio]) (st.count gpio) := by
  have hcount : st.count gpio =
      { st.count gpio with ioIndex := st.ioIndex, ioPol := st.ioPol } := by
    rw [GxfpCrs.count_io ht]
  rw [hcount]
  refine h.io_of ht _ _ h.ioIndex_length h.ioPol_length (fun k hk => ?_) fun k hk g hg hpins => ?_
  · by_cases heq : k = st.ioSeen
    · have hold := h.ioIndex k hk
      subst heq
      rw [List.getElem?_eq_none (Nat.le_of_eq h.ioSeen.symm)] at hold
      rw [h.io_new ht]
      refine hold.trans ?_
      rw [crsIndex, crsIndex, if_neg (hskip hk)]
    · rw [h.io_other ht heq]
      exact h.ioIndex k hk
  · by_cases heq : k = st.ioSeen
    · subst heq
      rw [h.io_new ht] at hg
      cases hg
      exact absurd hpins (hskip hk)
    · rw [h.io_other ht heq] at hg
      exact h.ioPol k hk g hg hpins

/-- One that is noted has its place and polarity in the two tables. -/
theorem GxfpCrs.Of.ioNoted (htwo : st.ioSeen < 2) (hpins : gpio.HasPins) :
    GxfpCrs.Of (resources ++ [.gpio gpio])
      { st.count gpio with
        ioIndex := st.ioIndex.set st.ioSeen st.gpioSeen
        ioPol := st.ioPol.set st.ioSeen gpio.polarity } := by
  have hindexLen : st.ioSeen < st.ioIndex.length := h.ioIndex_length.symm ▸ htwo
  have hpolLen : st.ioSeen < st.ioPol.length := h.ioPol_length.symm ▸ htwo
  refine h.io_of ht _ _ (List.length_set.trans h.ioIndex_length)
    (List.length_set.trans h.ioPol_length) (fun k hk => ?_) fun k hk g hg hg' => ?_
  · by_cases heq : k = st.ioSeen
    · subst heq
      rw [h.io_new ht, crsIndex, if_pos hpins, ← h.gpioSeen]
      exact getD_set_self hindexLen _ _
    · rw [h.io_other ht heq, ← h.ioIndex k hk]
      exact getD_set_ne _ (Ne.symm heq) _ _
  · by_cases heq : k = st.ioSeen
    · subst heq
      rw [h.io_new ht] at hg
      cases hg
      exact getD_set_self hpolLen _ _
    · rw [h.io_other ht heq] at hg
      rw [← h.ioPol k hk g hg hg']
      exact getD_set_ne _ (Ne.symm heq) _ _

/-- A strobe: it is noted if it is one of the first two, and has pins. -/
theorem GxfpCrs.Of.io : GxfpCrs.Of (resources ++ [.gpio gpio]) (gxfpCrsCb st (.gpio gpio)) := by
  unfold gxfpCrsCb
  dsimp only
  by_cases hpins : gpio.HasPins
  case neg =>
    rw [if_pos (not_not.mp hpins)]
    exact h.ioSkipped ht fun _ => hpins
  rw [if_neg hpins, if_neg (ne_int_of_io ht)]
  by_cases htwo : st.ioSeen < 2
  · have hle : (st.count gpio).ioSeen ≤ 2 := by
      rw [GxfpCrs.count_io ht]
      exact htwo
    rw [if_pos ⟨ht, hle⟩]
    have hnoted := h.ioNoted ht htwo hpins
    rw [GxfpCrs.count_io ht] at hnoted ⊢
    exact hnoted
  · have hmany : ¬ (gpio.connectionType = acpiGpioTypeIo ∧ (st.count gpio).ioSeen ≤ 2) := by
      rw [GxfpCrs.count_io ht]
      rintro ⟨-, hle⟩
      exact htwo hle
    rw [if_neg hmany]
    exact h.ioSkipped ht fun h => absurd h htwo

end Strobe

/-- A descriptor of neither kind is counted among all, and no more. -/
theorem GxfpCrs.Of.neither (h : GxfpCrs.Of resources st)
    (hint : gpio.connectionType ≠ acpiGpioTypeInt) (hio : gpio.connectionType ≠ acpiGpioTypeIo) :
    GxfpCrs.Of (resources ++ [.gpio gpio]) (gxfpCrsCb st (.gpio gpio)) := by
  have hints : gpiosOf acpiGpioTypeInt (resources ++ [.gpio gpio]) =
      gpiosOf acpiGpioTypeInt resources := gpiosOf_gpio_ne hint
  have hios : gpiosOf acpiGpioTypeIo (resources ++ [.gpio gpio]) =
      gpiosOf acpiGpioTypeIo resources := gpiosOf_gpio_ne hio
  have hfirst : firstInt (resources ++ [.gpio gpio]) = firstInt resources :=
    firstInt_gpio_ne hint
  have hcall : gxfpCrsCb st (.gpio gpio) = { st with gpioSeen := st.gpioSeen + 1 } := by
    have hcount : st.count gpio = { st with gpioSeen := st.gpioSeen + 1 } := by
      rw [GxfpCrs.count, if_neg hint, if_neg hio]
    have hnot : ¬ (gpio.connectionType = acpiGpioTypeIo ∧ (st.count gpio).ioSeen ≤ 2) :=
      fun h => hio h.1
    unfold gxfpCrsCb
    dsimp only
    rw [if_neg hint, if_neg hnot, ite_self, hcount]
  rw [hcall]
  exact ⟨h.gpioSeen_gpio, hints ▸ h.intSeen, hios ▸ h.ioSeen, hfirst ▸ h.intIndex,
    hfirst ▸ h.intLine, h.ioIndex_length, h.ioPol_length, hios ▸ h.ioIndex, hios ▸ h.ioPol⟩

/-- **Every resource is accounted for as it should be.** -/
theorem GxfpCrs.Of.step (h : GxfpCrs.Of resources st) (ares : AcpiResource) :
    GxfpCrs.Of (resources ++ [ares]) (gxfpCrsCb st ares) := by
  cases ares with
  | other =>
      have hints : gpiosOf acpiGpioTypeInt (resources ++ [.other]) =
          gpiosOf acpiGpioTypeInt resources := gpiosOf_other _
      have hios : gpiosOf acpiGpioTypeIo (resources ++ [.other]) =
          gpiosOf acpiGpioTypeIo resources := gpiosOf_other _
      have hfirst : firstInt (resources ++ [.other]) = firstInt resources := by
        rw [firstInt, hints, firstInt]
      exact ⟨gpioResources_other.symm ▸ h.gpioSeen, hints ▸ h.intSeen, hios ▸ h.ioSeen,
        hfirst ▸ h.intIndex, hfirst ▸ h.intLine, h.ioIndex_length, h.ioPol_length,
        hios ▸ h.ioIndex, hios ▸ h.ioPol⟩
  | gpio gpio =>
      by_cases hint : gpio.connectionType = acpiGpioTypeInt
      · exact h.int hint
      by_cases hio : gpio.connectionType = acpiGpioTypeIo
      · exact h.io hio
      · exact h.neither hint hio

variable (resources) in
/-- **So is the whole list.** -/
theorem crs_foldl : GxfpCrs.Of resources (resources.foldl gxfpCrsCb .start) := by
  induction resources using List.reverseRecOn with
  | nil => exact crs_start
  | append_singleton resources ares ih =>
      rw [List.foldl_append]
      exact ih.step ares

end Walk

/-! ### The mapping -/

/-- The answers with which nothing fails. -/
def AcpiAnswers.Granted (answers : AcpiAnswers) : Prop :=
  answers.walk = none ∧ answers.params = true ∧ answers.map = true ∧ answers.add = none

/-- What the checks ask. -/
structure GxfpCrs.Checked (st : GxfpCrs) : Prop where
  intIndex : 0 ≤ st.intIndex
  intSeen : st.intSeen = 1
  ioSeen : st.ioSeen = 2
  ioIndex₀ : 0 ≤ st.ioIndex.getD 0 0
  ioIndex₁ : 0 ≤ st.ioIndex.getD 1 0
  intPolarity : st.intPolarity = acpiActiveHigh ∨ st.intPolarity = acpiActiveLow
  ioPolarity : st.ioPol.getD 0 0 = acpiActiveHigh ∨ st.ioPol.getD 0 0 = acpiActiveLow
  same : st.ioPol.getD 0 0 = st.ioPol.getD 1 0

theorem GxfpCrs.check_ok_iff {st : GxfpCrs} : st.check = .ok () ↔ st.Checked := by
  unfold GxfpCrs.check
  dsimp only
  constructor
  · intro h
    split_ifs at h
    constructor <;> first | omega | tauto
  · intro h
    have hseen : ¬ (st.intIndex < 0 ∨ st.intSeen ≠ 1 ∨ st.ioSeen ≠ 2 ∨
        st.ioIndex.getD 0 0 < 0 ∨ st.ioIndex.getD 1 0 < 0) := by
      have h₁ := h.intIndex
      have h₂ := h.intSeen
      have h₃ := h.ioSeen
      have h₄ := h.ioIndex₀
      have h₅ := h.ioIndex₁
      omega
    have hint : ¬ (st.intPolarity ≠ acpiActiveHigh ∧ st.intPolarity ≠ acpiActiveLow) := by
      have h₁ := h.intPolarity
      tauto
    have hio : ¬ ((st.ioPol.getD 0 0 ≠ acpiActiveHigh ∧ st.ioPol.getD 0 0 ≠ acpiActiveLow) ∨
        (st.ioPol.getD 1 0 ≠ acpiActiveHigh ∧ st.ioPol.getD 1 0 ≠ acpiActiveLow)) := by
      have h₁ := h.ioPolarity
      rw [← h.same]
      tauto
    rw [if_neg hseen, if_neg hint, if_neg hio, if_neg (not_not.mpr h.same)]

/-- The position noted for a descriptor is one exactly if the descriptor has pins. -/
theorem crsIndex_nonneg_iff {g : Option (AcpiGpio × Nat)} :
    0 ≤ crsIndex g ↔ ∃ h, g = some h ∧ h.1.HasPins := by
  rcases g with _ | ⟨gpio, i⟩
  · simp [crsIndex]
  · by_cases hpins : gpio.HasPins <;> simp [crsIndex, hpins]

section Mapping

variable {resources : List AcpiResource} {st : GxfpCrs} {int io₀ io₁ : AcpiGpio × Nat}

/-- What has been noted of a layout that is supported. -/
theorem SupportedLayout.noted (h : SupportedLayout resources int io₀ io₁)
    (hst : GxfpCrs.Of resources st) :
    st.Checked ∧ st.entries = gpioMappings int io₀ io₁ ∧
      st.intTriggering = int.1.triggering ∧ st.intPolarity = int.1.polarity := by
  have hfirst : firstInt resources = some int := by
    rw [firstInt, h.ints]
    exact List.find?_cons_of_pos (decide_eq_true h.intPins)
  obtain ⟨htriggering, hpolarity⟩ := hst.intLine int hfirst
  have hintIndex : st.intIndex = int.2 := by
    rw [hst.intIndex, hfirst]
    rfl
  have hintSeen : st.intSeen = 1 := by
    rw [hst.intSeen, h.ints]
    rfl
  have hioSeen : st.ioSeen = 2 := by
    rw [hst.ioSeen, h.ios]
    rfl
  have hindex₀ : st.ioIndex.getD 0 0 = io₀.2 := by
    rw [hst.ioIndex 0 (by decide), h.ios]
    exact if_pos h.io₀Pins
  have hindex₁ : st.ioIndex.getD 1 0 = io₁.2 := by
    rw [hst.ioIndex 1 (by decide), h.ios]
    exact if_pos h.io₁Pins
  have hpol₀ : st.ioPol.getD 0 0 = io₀.1.polarity :=
    hst.ioPol 0 (by decide) io₀ (by rw [h.ios]; rfl) h.io₀Pins
  have hpol₁ : st.ioPol.getD 1 0 = io₁.1.polarity :=
    hst.ioPol 1 (by decide) io₁ (by rw [h.ios]; rfl) h.io₁Pins
  refine ⟨?_, ?_, htriggering, hpolarity⟩
  · constructor
    case intIndex => exact hintIndex ▸ Int.natCast_nonneg _
    case intSeen => exact hintSeen
    case ioSeen => exact hioSeen
    case ioIndex₀ => exact hindex₀ ▸ Int.natCast_nonneg _
    case ioIndex₁ => exact hindex₁ ▸ Int.natCast_nonneg _
    case intPolarity => exact hpolarity ▸ h.intPolarity
    case ioPolarity => exact hpol₀ ▸ h.ioPolarity
    case same => rw [hpol₀, hpol₁, h.same]
  · rw [GxfpCrs.entries, hintIndex, hindex₀, hindex₁, hpol₀]
    rfl

/-- Only such a layout passes the checks. -/
theorem GxfpCrs.Checked.supported (h : st.Checked) (hst : GxfpCrs.Of resources st) :
    ∃ int io₀ io₁, SupportedLayout resources int io₀ io₁ := by
  have hone : (gpiosOf acpiGpioTypeInt resources).length = 1 := hst.intSeen ▸ h.intSeen
  have htwo : (gpiosOf acpiGpioTypeIo resources).length = 2 := hst.ioSeen ▸ h.ioSeen
  obtain ⟨int, hints⟩ := List.length_eq_one_iff.mp hone
  obtain ⟨io₀, io₁, hios⟩ := List.length_eq_two.mp htwo
  have hpins : int.1.HasPins := by
    by_contra hpins
    have hnone : firstInt resources = none := by
      rw [firstInt, hints]
      simp [hpins]
    have hneg := hst.intIndex
    have hnonneg := h.intIndex
    rw [hneg, hnone] at hnonneg
    exact absurd hnonneg (by decide)
  have hfirst : firstInt resources = some int := by
    rw [firstInt, hints]
    exact List.find?_cons_of_pos (decide_eq_true hpins)
  have hget₀ : (gpiosOf acpiGpioTypeIo resources)[0]? = some io₀ := by
    rw [hios]
    rfl
  have hget₁ : (gpiosOf acpiGpioTypeIo resources)[1]? = some io₁ := by
    rw [hios]
    rfl
  have hpins₀ : io₀.1.HasPins := by
    have hindex := h.ioIndex₀
    rw [hst.ioIndex 0 (by decide), hget₀, crsIndex_nonneg_iff] at hindex
    obtain ⟨g, heq, hg⟩ := hindex
    cases heq
    exact hg
  have hpins₁ : io₁.1.HasPins := by
    have hindex := h.ioIndex₁
    rw [hst.ioIndex 1 (by decide), hget₁, crsIndex_nonneg_iff] at hindex
    obtain ⟨g, heq, hg⟩ := hindex
    cases heq
    exact hg
  have hpol₀ := hst.ioPol 0 (by decide) io₀ hget₀ hpins₀
  have hpol₁ := hst.ioPol 1 (by decide) io₁ hget₁ hpins₁
  refine ⟨int, io₀, io₁, hints, hios, hpins, hpins₀, hpins₁, ?_, ?_, ?_⟩
  · exact (hst.intLine int hfirst).2 ▸ h.intPolarity
  · exact hpol₀ ▸ h.ioPolarity
  · rw [← hpol₀, ← hpol₁, h.same]

end Mapping

/-- The function succeeds exactly if nothing fails and the checks pass. -/
theorem gxfpAddGpioMapping_eq_ok (resources : List AcpiResource) (answers : AcpiAnswers)
    (irqFlags irqFlags' : UInt32) (map : List AcpiGpioMapping) :
    gxfpAddGpioMapping (some resources) answers irqFlags = (.ok map, irqFlags') ↔
      answers.Granted ∧ (resources.foldl gxfpCrsCb .start).check = .ok () ∧
        map = (resources.foldl gxfpCrsCb .start).entries ∧
        irqFlags' = gxfpAcpiIrqType (resources.foldl gxfpCrsCb .start).intTriggering
          (resources.foldl gxfpCrsCb .start).intPolarity := by
  unfold gxfpAddGpioMapping AcpiAnswers.Granted
  dsimp only
  generalize resources.foldl gxfpCrsCb .start = st
  obtain ⟨walk, params, mem, add⟩ := answers
  rcases walk with _ | e
  case some => simp
  rcases st.check with e | _
  case error => simp
  cases params
  case false => simp
  cases mem
  case false => simp
  rcases add with _ | e
  case some => simp
  simp [eq_comm]

/--
**A list is accepted exactly if its layout is supported, and every entry has the position
of its descriptor.**  Other resources, and GPIO descriptors of another kind, may stand
anywhere.
-/
theorem gxfpAddGpioMapping_ok_iff (resources : List AcpiResource) (answers : AcpiAnswers)
    (irqFlags irqFlags' : UInt32) (map : List AcpiGpioMapping) :
    gxfpAddGpioMapping (some resources) answers irqFlags = (.ok map, irqFlags') ↔
      answers.Granted ∧ ∃ int io₀ io₁, SupportedLayout resources int io₀ io₁ ∧
        map = gpioMappings int io₀ io₁ ∧
        irqFlags' = gxfpAcpiIrqType int.1.triggering int.1.polarity := by
  have hst : GxfpCrs.Of resources (resources.foldl gxfpCrsCb .start) := crs_foldl resources
  rw [gxfpAddGpioMapping_eq_ok, GxfpCrs.check_ok_iff]
  constructor
  · rintro ⟨hanswers, hchecked, hmap, hflags⟩
    obtain ⟨int, io₀, io₁, hlayout⟩ := hchecked.supported hst
    obtain ⟨-, hentries, htriggering, hpolarity⟩ := hlayout.noted hst
    exact ⟨hanswers, int, io₀, io₁, hlayout, hmap.trans hentries,
      htriggering ▸ hpolarity ▸ hflags⟩
  · rintro ⟨hanswers, int, io₀, io₁, hlayout, hmap, hflags⟩
    obtain ⟨hchecked, hentries, htriggering, hpolarity⟩ := hlayout.noted hst
    refine ⟨hanswers, hchecked, hmap.trans hentries.symm, ?_⟩
    rw [htriggering, hpolarity]
    exact hflags

/-- An interrupt and two strobes behind a descriptor without pins of no known kind. -/
example : (gxfpAddGpioMapping
    (some [.gpio ⟨2, 0, 0, 0⟩, .gpio ⟨1, 1, 0, 1⟩, .other, .gpio ⟨0, 1, 1, 1⟩, .gpio ⟨1, 1, 0, 1⟩])
    ⟨none, true, true, none⟩ 0) =
    (.ok [⟨"irq-gpios", 2, 0, false⟩, ⟨"write-done-gpios", 1, 0, true⟩,
      ⟨"read-done-gpios", 3, 0, true⟩], irqTypeEdgeFalling) := by
  decide

end Gxfp
