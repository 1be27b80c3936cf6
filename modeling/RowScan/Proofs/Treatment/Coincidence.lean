import Mathlib
import RowScan.Proofs.Comparison.ExpectedText

/-!
Where the treatments coincide, for any doubles as densities and frequencies. All of them refuse the
same records, and a term with at most one effective row gets the same estimate from each. A term is
treated as frequent only if it has more rows, and then as if it had one.
-/

namespace RowScan

namespace Treatment

theorem estimate_of_whole (treatment : Treatment) (rows : Nat) (signal : Float)
    (layout : Layout Float)
    (whole : rows ≤ 1 ∨ treatment = .frequencyConscious ∧ layout.density ≤ signal) :
    treatment.estimate rows signal layout = ⟨Double.ofNat (fullCachelines rows layout), true⟩ := by
  have flag := (wholeRows_iff treatment rows signal layout).mpr whole
  rw [← cachelines_of_wholeRows treatment rows signal layout flag, ← flag]

theorem fullCachelines_of_few {rows : Nat} (few : rows ≤ 1) (layout : Layout Float) :
    fullCachelines rows layout = rows * layout.cachelinesPerRow.toNat := by
  obtain rfl | rfl : rows = 0 ∨ rows = 1 := by omega
  · rw [Nat.zero_mul]
    rfl
  · rw [Nat.one_mul]
    rfl

theorem frequencyConscious_eq_rowCount [Arithmetic R] {rows : Nat} {signal : R} {layout : Layout R}
    (plain : ¬ (2 ≤ rows ∧ layout.density ≤ signal)) :
    frequencyConscious.estimate rows signal layout = rowCount.estimate rows signal layout := by
  by_cases frequent : 0 < rows ∧ layout.density ≤ signal
  · obtain rfl : rows = 1 := by
      by_contra several
      exact plain ⟨by omega, frequent.2⟩
    simp only [estimate, if_pos frequent]
    rfl
  · simp only [estimate, if_neg frequent]

end Treatment

theorem TermRecord.effectiveRows_single (layout : Layout R) (record : TermRecord) :
    { record with rows := layout.reservedRows.toUInt64 + 1 }.effectiveRows layout = .ok 1 := by
  have bound := layout.reservedRows.toNat_lt
  have rows : (layout.reservedRows.toUInt64 + 1).toNat = layout.reservedRows.toNat + 1 := by
    rw [UInt64.toNat_add, UInt32.toNat_toUInt64, UInt64.toNat_one]
    omega
  simp [effectiveRows, rows]

def TermRecord.compared (record : TermRecord) (position : Nat) (estimate : Estimate R) :
    Comparison R :=
  ⟨record.term, position, record.quadwords, record.cachelines, estimate.cachelines,
    estimate.wholeRows⟩

namespace Estimator

variable [Arithmetic R]

theorem estimate_of_effectiveRows (estimator : Estimator R) (record : TermRecord) (position : Nat)
    {rows : Nat} (effective : record.effectiveRows estimator.layout = .ok rows) :
    estimator.estimate record position = .ok (record.compared position
      (estimator.treatment.estimate rows (estimator.frequencies.lookup record.term)
        estimator.layout)) := by
  rw [estimate, effective]
  rfl

theorem estimate_of_few (estimator : Estimator Float) (record : TermRecord) (position : Nat)
    {rows : Nat} (effective : record.effectiveRows estimator.layout = .ok rows)
    (few : rows ≤ 1) :
    estimator.estimate record position = .ok (record.compared position
      ⟨Double.ofNat (rows * estimator.layout.cachelinesPerRow.toNat), true⟩) := by
  rw [estimator.estimate_of_effectiveRows record position effective,
    Treatment.estimate_of_whole _ _ _ _ (Or.inl few), Treatment.fullCachelines_of_few few]

theorem estimate_eq_error_iff (estimator : Estimator R) (record : TermRecord) (position : Nat)
    (violation : Violation) :
    estimator.estimate record position = .error violation ↔
      record.rows.toNat < estimator.layout.reservedRows.toNat ∧
        violation = .values estimator.input record.line record.term
          (.reservedRows record.rows.toNat estimator.layout.reservedRows.toNat) := by
  by_cases admitted : estimator.Admits record
  · have enough : ¬ record.rows.toNat < estimator.layout.reservedRows.toNat :=
      Nat.not_lt.mpr admitted
    obtain ⟨comparison, estimated⟩ := estimator.exists_estimate record position admitted
    simp [estimated, enough]
  · have short : record.rows.toNat < estimator.layout.reservedRows.toNat :=
      Nat.lt_of_not_le admitted
    rw [estimator.estimate_eq_error record position admitted, Except.error.injEq]
    exact ⟨fun same => ⟨short, same.symm⟩, fun both => both.2.symm⟩

/-- All treatments refuse a record for the same reason, too few rows. With no effective row or a
single one each estimates as many full rows, whatever is known of frequencies and whatever the
density and the slots. The frequency of a term changes its treatment by row count only if it has
several effective rows and is at least as frequent as the density; it is then treated as if it had
one. -/
theorem treatments_coincide (estimator : Estimator Float) (record : TermRecord)
    (position : Nat) :
    let layout := estimator.layout
    let reserved := layout.reservedRows.toNat
    let answer (treatment : Treatment) (record : TermRecord) :=
      { estimator with treatment := treatment }.estimate record position
    (∀ treatment violation, answer treatment record = .error violation ↔
      record.rows.toNat < reserved ∧
        violation = .values estimator.input record.line record.term
          (.reservedRows record.rows.toNat reserved)) ∧
    ∀ rows, record.effectiveRows layout = .ok rows →
      (rows ≤ 1 → ∀ frequencies density slots treatment input,
        (Estimator.mk frequencies { layout with density := density, addressSlotsPerRow := slots }
            treatment input).estimate record position =
          .ok ⟨record.term, position, record.quadwords, record.cachelines,
            Double.ofNat (rows * layout.cachelinesPerRow.toNat), true⟩) ∧
      (¬ (2 ≤ rows ∧ layout.density ≤ estimator.frequencies.lookup record.term) →
        answer .frequencyConscious record = answer .rowCount record) ∧
      (2 ≤ rows → layout.density ≤ estimator.frequencies.lookup record.term → ∀ treatment,
        answer .frequencyConscious record =
          answer treatment { record with rows := layout.reservedRows.toUInt64 + 1 }) := by
  intro layout reserved answer
  refine ⟨fun treatment => estimate_eq_error_iff _ record position, ?_⟩
  intro rows effective
  have given (treatment : Treatment) : answer treatment record = .ok (record.compared position
      (treatment.estimate rows (estimator.frequencies.lookup record.term) layout)) :=
    estimate_of_effectiveRows _ record position effective
  refine ⟨?_, ?_, ?_⟩
  · intro few frequencies density slots treatment input
    exact estimate_of_few (Estimator.mk frequencies
      { layout with density := density, addressSlotsPerRow := slots } treatment input) record
      position effective few
  · intro plain
    rw [given, given, Treatment.frequencyConscious_eq_rowCount plain]
  · intro several frequent treatment
    have single := { estimator with treatment := treatment }.estimate_of_few _ position
      (record.effectiveRows_single layout) le_rfl
    have full : Treatment.fullCachelines rows layout = 1 * layout.cachelinesPerRow.toNat := by
      rw [Treatment.fullCachelines, if_neg (by omega), Nat.one_mul]
    rw [given, Treatment.estimate_of_whole _ _ _ _ (Or.inr ⟨rfl, frequent⟩), full]
    exact single.symm

theorem treatments_coincide_dog :
    let answer (treatment : Treatment) (record : TermRecord) :=
      { ofFrequentDog with treatment := treatment }.estimate record 0
    let record (term : String) (rows : UInt64) : TermRecord :=
      ⟨2, term, rows, 0, 0, 0, ⟨"", "", ""⟩⟩
    answer .intersection (record "dog" 0) =
        .error (.values "t" 2 "dog" (.reservedRows 0 1)) ∧
      (Estimator.mk .empty
          { Layout.reference with density := Double.notANumber, addressSlotsPerRow := 0 }
          .intersection "").estimate (record "dog" 1) 0 =
        .ok ⟨"dog", 0, 0, 0, Double.ofNat 0, true⟩ ∧
      answer .frequencyConscious (record "cat" 9) = answer .rowCount (record "cat" 9) ∧
      Layout.reference.density ≤ ofFrequentDog.frequencies.lookup "dog" ∧
      answer .frequencyConscious (record "dog" 9) = answer .intersection (record "dog" 2) := by
  intro answer record
  have known : ofFrequentDog.frequencies.lookup "dog" = 0.5 := by
    simp [ofFrequentDog, Frequencies.ofEntries, Frequencies.lookup_insert]
  have unknown : ofFrequentDog.frequencies.lookup "cat" = 0 := by
    simp [ofFrequentDog, Frequencies.ofEntries, Frequencies.lookup_insert, Frequencies.lookup_empty]
  have frequent : Layout.reference.density ≤ ofFrequentDog.frequencies.lookup "dog" := by
    rw [known]
    decide +kernel
  have rare : ¬ (2 ≤ 8 ∧ Layout.reference.density ≤ ofFrequentDog.frequencies.lookup "cat") := by
    rw [unknown]
    decide +kernel
  obtain ⟨refused, _⟩ := ofFrequentDog.treatments_coincide (record "dog" 0) 0
  obtain ⟨_, empty⟩ := ofFrequentDog.treatments_coincide (record "dog" 1) 0
  obtain ⟨_, cat⟩ := ofFrequentDog.treatments_coincide (record "cat" 9) 0
  obtain ⟨_, dog⟩ := ofFrequentDog.treatments_coincide (record "dog" 9) 0
  exact ⟨(refused .intersection _).mpr ⟨by decide, rfl⟩,
    (empty 0 rfl).1 (by decide) .empty Double.notANumber 0 .intersection "",
    (cat 8 rfl).2.1 rare, frequent, (dog 8 rfl).2.2 (by decide) frequent .intersection⟩

end Estimator

end RowScan
