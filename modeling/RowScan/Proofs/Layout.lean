import Mathlib
import RowScan.Layout
import RowScan.Proofs.Number.Natural
import RowScan.Proofs.Success

/-!
Which environments have a layout: those in which every variable that is set spells a value of its
range. All others violate the rules of the configuration.
-/

namespace RowScan

/-- A variable is unset, or its text without the white space around it is accepted. -/
def Meets (lookup : String → Option String) (name : String) (accepted : String → Prop) : Prop :=
  ∀ text, lookup name = some text → accepted (Blank.trim text)

theorem meets_of_unset {lookup : String → Option String} {name : String} {accepted : String → Prop}
    (unset : lookup name = none) : Meets lookup name accepted := by
  intro text found
  simp [unset] at found

namespace Layout

theorem word?_eq_some (text : String) (word : UInt32) :
    word? text = some word ↔ Natural.Spells text word.toNat := by
  have reads := Natural.read_eq_ok Natural.limit32 word.toNat text (by decide)
  have below : word.toNat < Natural.limit32 := word.toNat_lt
  simp only [below, and_true] at reads
  rw [← reads, word?]
  cases found : Natural.read Natural.limit32 text with
  | error defect => simp [Except.toOption]
  | ok number =>
      have small : number < 2 ^ 32 := Natural.read_lt (by decide) found
      simp only [Except.toOption, Option.map_some, Option.some.injEq, Except.ok.injEq]
      constructor
      · rintro rfl
        rw [UInt32.toNat_ofNat_of_lt' small]
      · rintro rfl
        exact UInt32.ofNat_toNat

theorem exists_word (text : String) :
    (∃ word, word? text = some word) ↔ ∃ number < 2 ^ 32, Natural.Spells text number := by
  simp only [word?_eq_some]
  constructor
  · rintro ⟨word, spelled⟩
    exact ⟨word.toNat, word.toNat_lt, spelled⟩
  · rintro ⟨number, small, spelled⟩
    refine ⟨UInt32.ofNat number, ?_⟩
    rwa [UInt32.toNat_ofNat_of_lt' small]

theorem exists_word_pos (text : String) :
    (∃ word, word? text = some word ∧ word ≠ 0) ↔
      ∃ number < 2 ^ 32, Natural.Spells text number ∧ 0 < number := by
  simp only [word?_eq_some]
  constructor
  · rintro ⟨word, spelled, filled⟩
    refine ⟨word.toNat, word.toNat_lt, spelled, Nat.pos_of_ne_zero fun zero => filled ?_⟩
    exact UInt32.toNat_inj.mp zero
  · rintro ⟨number, small, spelled, positive⟩
    have same : (UInt32.ofNat number).toNat = number := UInt32.toNat_ofNat_of_lt' small
    refine ⟨UInt32.ofNat number, by rwa [same], ?_⟩
    intro zero
    rw [zero] at same
    exact Nat.ne_of_gt positive same.symm

variable {lookup : String → Option String} {name : String} {α : Type} {read : String → Option α}
  {default : α}

theorem exists_variableValue (lookup : String → Option String) (name : String)
    (read : String → Option α) (default : α) (good : α → Prop) (standard : good default) :
    (∃ value, variableValue lookup name read default = .ok value ∧ good value) ↔
      Meets lookup name fun text => ∃ value, read text = some value ∧ good value := by
  unfold variableValue Meets
  cases lookup name with
  | none => simpa using standard
  | some text => cases found : read (Blank.trim text) <;> simp [found]

theorem contract_of_variableValue {violation : Violation}
    (failed : variableValue lookup name read default = .error violation) :
    violation.contract = .config := by
  unfold variableValue at failed
  split at failed
  · simp at failed
  · split at failed
    · simp at failed
    · obtain rfl := Except.error.inj failed
      rfl

theorem validate_eq_ok (layout : Layout Float) :
    layout.validate = .ok () ↔
      layout.cachelinesPerRow ≠ 0 ∧ layout.addressSlotsPerRow ≠ 0 ∧
        isProbability layout.density = true := by
  unfold validate
  grind

theorem contract_of_validate {layout : Layout Float} {violation : Violation}
    (failed : layout.validate = .error violation) : violation.contract = .config := by
  unfold validate at failed
  split at failed
  · obtain rfl := Except.error.inj failed
    rfl
  · split at failed
    · obtain rfl := Except.error.inj failed
      rfl
    · split at failed
      · simp at failed
      · obtain rfl := Except.error.inj failed
        rfl

theorem validate_reference : reference.validate = .ok () := by
  rw [validate_eq_ok]
  decide +kernel

theorem ofLookup_eq_ok (lookup : String → Option String) (layout : Layout Float) :
    ofLookup lookup = .ok layout ↔
      variableValue lookup cachelinesVariable word? reference.cachelinesPerRow =
        .ok layout.cachelinesPerRow ∧
      variableValue lookup densityVariable Reading.float? reference.density =
        .ok layout.density ∧
      variableValue lookup slotsVariable word? reference.addressSlotsPerRow =
        .ok layout.addressSlotsPerRow ∧
      variableValue lookup reservedVariable word? reference.reservedRows =
        .ok layout.reservedRows ∧
      layout.validate = .ok () := by
  simp only [ofLookup, bind_eq_ok]
  constructor
  · rintro ⟨cachelines, cachelinesRead, density, densityRead, slots, slotsRead, reserved,
      reservedRead, _, valid, same⟩
    obtain rfl : ⟨cachelines, density, slots, reserved⟩ = layout := by
      simpa [pure, Except.pure] using same
    exact ⟨cachelinesRead, densityRead, slotsRead, reservedRead, valid⟩
  · rintro ⟨cachelines, density, slots, reserved, valid⟩
    exact ⟨_, cachelines, _, density, _, slots, _, reserved, (), valid, rfl⟩

theorem contract_of_ofLookup {lookup : String → Option String} {violation : Violation}
    (failed : ofLookup lookup = .error violation) : violation.contract = .config := by
  simp only [ofLookup, bind_eq_error] at failed
  rcases failed with
    cachelines | ⟨_, _, density | ⟨_, _, slots | ⟨_, _, reserved | ⟨_, _, invalid | ⟨_, _, same⟩⟩⟩⟩⟩
  · exact contract_of_variableValue cachelines
  · exact contract_of_variableValue density
  · exact contract_of_variableValue slots
  · exact contract_of_variableValue reserved
  · exact contract_of_validate invalid
  · simp [pure, Except.pure] at same

structure Acceptable (lookup : String → Option String) : Prop where
  cachelines : Meets lookup cachelinesVariable fun text =>
    ∃ number < 2 ^ 32, Natural.Spells text number ∧ 0 < number
  density : Meets lookup densityVariable fun text =>
    ∃ number, Reading.float? text = some number ∧ isProbability number = true
  slots : Meets lookup slotsVariable fun text =>
    ∃ number < 2 ^ 32, Natural.Spells text number ∧ 0 < number
  reserved : Meets lookup reservedVariable fun text => ∃ number < 2 ^ 32, Natural.Spells text number

theorem exists_ofLookup (lookup : String → Option String) :
    (∃ layout, ofLookup lookup = .ok layout) ↔ Acceptable lookup := by
  obtain ⟨filled, slotted, probable⟩ := (validate_eq_ok reference).mp validate_reference
  have cachelines := exists_variableValue lookup cachelinesVariable word? _ (· ≠ 0) filled
  have density := exists_variableValue lookup densityVariable Reading.float? _
    (isProbability · = true) probable
  have slots := exists_variableValue lookup slotsVariable word? _ (· ≠ 0) slotted
  have reserved := exists_variableValue lookup reservedVariable word? reference.reservedRows
    (fun _ => True) trivial
  simp only [exists_word_pos] at cachelines slots
  simp only [and_true, exists_word] at reserved
  constructor
  · rintro ⟨layout, found⟩
    obtain ⟨cachelinesRead, densityRead, slotsRead, reservedRead, valid⟩ :=
      (ofLookup_eq_ok lookup layout).mp found
    obtain ⟨filled, slotted, probable⟩ := (validate_eq_ok layout).mp valid
    exact ⟨cachelines.mp ⟨_, cachelinesRead, filled⟩, density.mp ⟨_, densityRead, probable⟩,
      slots.mp ⟨_, slotsRead, slotted⟩, reserved.mp ⟨_, reservedRead⟩⟩
  · rintro ⟨cachelinesMet, densityMet, slotsMet, reservedMet⟩
    obtain ⟨lines, linesRead, filled⟩ := cachelines.mpr cachelinesMet
    obtain ⟨fraction, fractionRead, probable⟩ := density.mpr densityMet
    obtain ⟨draws, drawsRead, slotted⟩ := slots.mpr slotsMet
    obtain ⟨rows, rowsRead⟩ := reserved.mpr reservedMet
    refine ⟨⟨lines, fraction, draws, rows⟩, (ofLookup_eq_ok lookup _).mpr ?_⟩
    exact ⟨linesRead, fractionRead, drawsRead, rowsRead,
      (validate_eq_ok _).mpr ⟨filled, slotted, probable⟩⟩

end Layout

end RowScan
