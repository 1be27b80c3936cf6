import Mathlib
import RowScan.Proofs.Estimator
import RowScan.Proofs.Frequencies
import RowScan.Proofs.Number.Whole

/-!
The text of an estimate tells the model behind it. Rows read in full are a count and are written as
its digits; a sum of probabilities is written with a point, whole or not.
-/

namespace RowScan

def Double.IsFinite (number : Float) : Prop :=
  ∃ negative magnitude, ofFloat number = .finite negative magnitude

def Double.IsCount (number : Float) (count : Nat) : Prop :=
  ∃ magnitude, ofFloat number = .finite false magnitude ∧
    Magnitude.units magnitude = count * Magnitude.unit

theorem Double.isCount_ofNat (count : Nat) (small : count < 2 ^ 53) :
    IsCount (ofNat count) count := by
  obtain ⟨finite, value⟩ := Magnitude.nearest_small count small
  exact ⟨_, ofFloat_toFloat false _ finite, value⟩

theorem Double.isWhole_ofNat (count : Nat) (small : count < 2 ^ 53) :
    (ofFloat (ofNat count)).isWhole = true := by
  obtain ⟨finite, _⟩ := Magnitude.nearest_small count small
  rw [ofNat, ofFloat_toFloat false _ finite]
  exact Magnitude.isWhole_nearest count finite

namespace Comparison

/-- A finite estimate that is a whole number if it counts rows read in full. -/
structure Sound (comparison : Comparison Float) : Prop where
  finite : ∃ negative magnitude, Double.ofFloat comparison.expected = .finite negative magnitude
  whole : comparison.wholeRows = true → (Double.ofFloat comparison.expected).isWhole = true

theorem expectedText_whole (comparison : Comparison Float) (whole : comparison.wholeRows = true) :
    comparison.expectedText = Notation.plain.text comparison.expected := by
  rw [expectedText, if_pos (Or.inl whole)]

theorem point_mem_expectedText (comparison : Comparison Float) (sound : comparison.Sound) :
    '.' ∈ comparison.expectedText.toList ↔ comparison.wholeRows = false := by
  obtain ⟨negative, magnitude, finite⟩ := sound.finite
  have plain := point_mem_plain_text comparison.expected negative magnitude finite
  cases rows : comparison.wholeRows with
  | true =>
      have whole : Magnitude.isWhole magnitude = true := by
        have whole := sound.whole rows
        rwa [finite] at whole
      rw [expectedText_whole comparison rows, plain, whole]
  | false =>
      cases whole : Magnitude.isWhole magnitude with
      | true =>
          have written : comparison.expectedText = fixed 1 comparison.expected := by
            simp [expectedText, rows, finite, Double.isWhole, whole]
          rw [written]
          exact iff_of_true (point_mem_fixed 1 _ negative magnitude finite) rfl
      | false =>
          have written : comparison.expectedText = Notation.plain.text comparison.expected := by
            simp [expectedText, rows, finite, Double.isWhole, whole]
          rw [written, plain]
          exact iff_of_true whole rfl

theorem float?_expectedText (comparison : Comparison Float)
    (finite : Double.IsFinite comparison.expected) :
    Reading.float? comparison.expectedText = some comparison.expected := by
  obtain ⟨negative, magnitude, finite⟩ := finite
  unfold expectedText
  split
  · exact float?_text comparison.expected negative magnitude finite
  · rename_i tenths
    have whole : Magnitude.isWhole magnitude = true := by
      rw [finite] at tenths
      simpa [Double.isWhole] using (not_or.mp tenths).2
    exact float?_fixed comparison.expected negative magnitude finite whole

theorem mem_expectedText (comparison : Comparison Float)
    (finite : Double.IsFinite comparison.expected) :
    ∀ char ∈ comparison.expectedText.toList, char.isDigit ∨ char ∈ ['.', '-'] := by
  obtain ⟨negative, magnitude, finite⟩ := finite
  unfold expectedText
  split
  · exact mem_plain_text comparison.expected negative magnitude finite
  · exact mem_fixed 1 comparison.expected negative magnitude finite

end Comparison

namespace Treatment

theorem wholeRows_iff [Arithmetic R] (treatment : Treatment) (rows : Nat) (signal : R)
    (layout : Layout R) :
    (treatment.estimate rows signal layout).wholeRows = true ↔
      rows ≤ 1 ∨ treatment = .frequencyConscious ∧ layout.density ≤ signal := by
  have selected : ((Arrangement.select rows).estimate rows signal layout).wholeRows = true ↔
      rows ≤ 1 := by
    unfold Arrangement.select Arrangement.estimate
    grind
  cases treatment with
  | rowCount => simp [estimate, selected]
  | frequencyConscious =>
      by_cases frequent : 0 < rows ∧ layout.density ≤ signal
      · simp [estimate, frequent, Arrangement.estimate]
      · simp only [estimate, if_neg frequent, selected]
        grind
  | intersection =>
      by_cases few : rows ≤ 1 <;> simp [estimate, few]

def fullCachelines (rows : Nat) (layout : Layout R) : Nat :=
  if rows = 0 then 0 else layout.cachelinesPerRow.toNat

theorem fullCachelines_lt (rows : Nat) (layout : Layout R) :
    fullCachelines rows layout < 2 ^ 53 := by
  have word := layout.cachelinesPerRow.toNat_lt
  unfold fullCachelines
  split <;> omega

theorem cachelines_select (rows : Nat) (signal : Float) (layout : Layout Float)
    (few : rows ≤ 1) : ((Arrangement.select rows).estimate rows signal layout).cachelines =
      Double.ofNat (fullCachelines rows layout) := by
  obtain rfl | rfl : rows = 0 ∨ rows = 1 := by omega
  · rfl
  · rfl

theorem cachelines_of_wholeRows (treatment : Treatment) (rows : Nat) (signal : Float)
    (layout : Layout Float) (whole : (treatment.estimate rows signal layout).wholeRows = true) :
    (treatment.estimate rows signal layout).cachelines =
      Double.ofNat (fullCachelines rows layout) := by
  rw [wholeRows_iff] at whole
  cases treatment with
  | rowCount => exact cachelines_select rows signal layout (whole.resolve_right (by simp))
  | frequencyConscious =>
      by_cases frequent : 0 < rows ∧ layout.density ≤ signal
      · simp [estimate, frequent, Arrangement.estimate, fullCachelines, Nat.ne_of_gt frequent.1,
          Arithmetic.ofNat]
      · simp only [estimate, if_neg frequent]
        apply cachelines_select
        grind
  | intersection =>
      have few : rows ≤ 1 := whole.resolve_right (by simp)
      simp only [estimate, if_pos few, fullCachelines, Arithmetic.ofNat]
      obtain rfl | rfl : rows = 0 ∨ rows = 1 := by omega
      · simp
      · simp

end Treatment

namespace Estimator

open Treatment (fullCachelines fullCachelines_lt)

theorem effectiveRows_of_estimate (estimator : Estimator Float) (record : TermRecord)
    (position : Nat) (comparison : Comparison Float)
    (estimated : estimator.estimate record position = .ok comparison) :
    ∃ rows, record.effectiveRows estimator.layout = .ok rows ∧
      comparison.expected = (estimator.treatment.estimate rows
        (estimator.frequencies.lookup record.term) estimator.layout).cachelines ∧
      comparison.wholeRows = (estimator.treatment.estimate rows
        (estimator.frequencies.lookup record.term) estimator.layout).wholeRows := by
  obtain ⟨enough, _, _, _, _, same⟩ :=
    (estimator.estimate_eq_ok record position comparison).mp estimated
  exact ⟨_, if_pos enough, congrArg Estimate.cachelines same, congrArg Estimate.wholeRows same⟩

theorem isWhole_of_wholeRows (estimator : Estimator Float) (record : TermRecord)
    (position : Nat) (comparison : Comparison Float)
    (estimated : estimator.estimate record position = .ok comparison)
    (whole : comparison.wholeRows = true) :
    (Double.ofFloat comparison.expected).isWhole = true := by
  obtain ⟨rows, _, expected, flag⟩ :=
    effectiveRows_of_estimate estimator record position comparison estimated
  rw [expected, Treatment.cachelines_of_wholeRows _ _ _ _ (flag.symm.trans whole)]
  exact Double.isWhole_ofNat _ (fullCachelines_lt rows estimator.layout)

/-- An estimate counts rows read in full exactly when the term has at most one effective row or its
treatment finds it frequent. It is then exactly that count, written in digits; any other estimate is
written with a point, if it is finite. -/
theorem estimate_shows_model (estimator : Estimator Float) (record : TermRecord) (position : Nat)
    (comparison : Comparison Float)
    (estimated : estimator.estimate record position = .ok comparison) :
    ∃ rows, record.effectiveRows estimator.layout = .ok rows ∧
      (comparison.wholeRows = true ↔ rows ≤ 1 ∨ estimator.treatment = .frequencyConscious ∧
        estimator.layout.density ≤ estimator.frequencies.lookup record.term) ∧
      (comparison.wholeRows = true →
        let count := if rows = 0 then 0 else estimator.layout.cachelinesPerRow.toNat
        Double.IsCount comparison.expected count ∧
          comparison.expectedText = Natural.text count ∧
          '.' ∉ comparison.expectedText.toList) ∧
      (comparison.wholeRows = false →
        ∀ negative magnitude, Double.ofFloat comparison.expected = .finite negative magnitude →
          '.' ∈ comparison.expectedText.toList) := by
  obtain ⟨rows, effective, expected, flag⟩ :=
    effectiveRows_of_estimate estimator record position comparison estimated
  refine ⟨rows, effective, by rw [flag, Treatment.wholeRows_iff], ?_, ?_⟩
  · intro whole count
    have small : count < 2 ^ 53 := fullCachelines_lt rows estimator.layout
    have counted : comparison.expected = Double.ofNat count := by
      rw [expected, Treatment.cachelines_of_wholeRows _ _ _ _ (flag.symm.trans whole)]
      rfl
    have exactly : Double.IsCount comparison.expected count := by
      rw [counted]
      exact Double.isCount_ofNat count small
    have written : comparison.expectedText = Natural.text count := by
      rw [comparison.expectedText_whole whole, counted, plain_text_ofNat count small]
    refine ⟨exactly, written, ?_⟩
    rw [written, Natural.text, String.toList_ofList]
    exact point_notMem_digits _ (isDigit_toDigits count)
  · intro summed negative magnitude finite
    have sound : comparison.Sound := ⟨⟨negative, magnitude, finite⟩, by simp [summed]⟩
    exact (comparison.point_mem_expectedText sound).mpr summed

def ofFrequentDog : Estimator Float :=
  ⟨.ofEntries [⟨"dog", 0.5⟩], .reference, .frequencyConscious, "t"⟩

theorem estimate_shows_model_frequent :
    ∃ comparison, ofFrequentDog.estimate ⟨2, "dog", 9, 0, 0, 0, ⟨"", "", ""⟩⟩ 0 = .ok comparison ∧
      comparison.wholeRows = true ∧ comparison.expectedText = "60" := by
  obtain ⟨comparison, estimated⟩ :=
    ofFrequentDog.exists_estimate ⟨2, "dog", 9, 0, 0, 0, ⟨"", "", ""⟩⟩ 0 (by decide)
  obtain ⟨rows, effective, flag, written, _⟩ :=
    ofFrequentDog.estimate_shows_model _ 0 comparison estimated
  obtain rfl : 8 = rows := Except.ok.inj effective
  have known : ofFrequentDog.frequencies.lookup "dog" = 0.5 := by
    simp [ofFrequentDog, Frequencies.ofEntries, Frequencies.lookup_insert]
  have frequent : ofFrequentDog.layout.density ≤ ofFrequentDog.frequencies.lookup "dog" := by
    rw [known]
    decide +kernel
  have whole : comparison.wholeRows = true := flag.mpr (Or.inr ⟨rfl, frequent⟩)
  exact ⟨comparison, estimated, whole, (written whole).2.1⟩

end Estimator

end RowScan
