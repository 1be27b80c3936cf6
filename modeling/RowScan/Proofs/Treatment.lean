import Mathlib
import RowScan.Proofs.Arithmetic
import RowScan.Proofs.Estimator
import RowScan.Proofs.Frequencies

/-!
Estimates in exact arithmetic. Whatever the treatment, a term is expected to touch no less than
nothing and no more than all its rows in full, also when it is more frequent than the density and
the powers of the noise change their sign.
-/

namespace RowScan

open Set (Icc)

variable {layout : Layout ℝ} {signal : ℝ}

theorem one_sub_pow_mem {probability : ℝ} (unit : probability ∈ Icc 0 1) (exponent : Nat) :
    1 - probability ^ exponent ∈ Icc (0 : ℝ) 1 := by
  have low := pow_nonneg unit.1 exponent
  have high := pow_le_one₀ unit.1 unit.2 (n := exponent)
  constructor <;> linarith

theorem mul_mem_rows {probability full : ℝ} (unit : probability ∈ Icc 0 1) (size : 0 ≤ full) :
    probability * full ∈ Icc 0 full :=
  ⟨mul_nonneg unit.1 size, mul_le_of_le_one_left size unit.2⟩

namespace SharedScan

/-- The probability that a draw meets no live bit once a number of rows is intersected. -/
noncomputable def deadDraw (layout : Layout ℝ) (signal : ℝ) (row : Nat) : ℝ :=
  (1 - (layout.density - signal) ^ row) * (1 - signal)

/-- The cache lines that one of several shared rows is expected to touch. -/
noncomputable def touched (layout : Layout ℝ) (signal : ℝ) (row : Nat) : ℝ :=
  (1 - deadDraw layout signal row ^ layout.addressSlotsPerRow.toNat) *
    layout.cachelinesPerRow.toNat

theorem step_real (layout : Layout ℝ) (signal expected : ℝ) (row : Nat) :
    step layout signal ⟨expected, (layout.density - signal) ^ row⟩ =
      ⟨expected + touched layout signal (row + 1), (layout.density - signal) ^ (row + 1)⟩ := by
  simp [step, touched, deadDraw, pow_succ]

theorem repeat_step_real (layout : Layout ℝ) (signal : ℝ) (rows : Nat) :
    Nat.repeat (step layout signal) rows start =
      ⟨∑ row ∈ Finset.range rows, touched layout signal (row + 1),
        (layout.density - signal) ^ rows⟩ := by
  induction rows with
  | zero => simp [Nat.repeat, start]
  | succ rows ih => rw [Nat.repeat, ih, step_real, Finset.sum_range_succ]

theorem noise_pow_bounds (density : layout.density ∈ Icc 0 1) (frequency : signal ∈ Icc 0 1)
    (row : Nat) :
    -signal ≤ (layout.density - signal) ^ row ∧ (layout.density - signal) ^ row ≤ 1 := by
  obtain ⟨densityLow, densityHigh⟩ := density
  obtain ⟨signalLow, signalHigh⟩ := frequency
  have small : |layout.density - signal| ≤ 1 := abs_le.mpr ⟨by linarith, by linarith⟩
  have power : |(layout.density - signal) ^ row| = |layout.density - signal| ^ row := abs_pow _ _
  constructor
  · rcases le_total signal layout.density with rare | frequent
    · have positive : 0 ≤ (layout.density - signal) ^ row := pow_nonneg (by linarith) row
      linarith
    · by_cases first : row = 0
      · rw [first, pow_zero]
        linarith
      · have shrunk : |layout.density - signal| ^ row ≤ |layout.density - signal| :=
          pow_le_of_le_one (abs_nonneg _) small first
        have noise : |layout.density - signal| = signal - layout.density := by
          rw [abs_of_nonpos (by linarith), neg_sub]
        have below := neg_abs_le ((layout.density - signal) ^ row)
        linarith
  · calc (layout.density - signal) ^ row ≤ |(layout.density - signal) ^ row| := le_abs_self _
      _ = |layout.density - signal| ^ row := power
      _ ≤ 1 := pow_le_one₀ (abs_nonneg _) small

theorem deadDraw_mem (density : layout.density ∈ Icc 0 1) (frequency : signal ∈ Icc 0 1)
    (row : Nat) : deadDraw layout signal row ∈ Icc 0 1 := by
  obtain ⟨low, high⟩ := noise_pow_bounds density frequency row
  obtain ⟨signalLow, signalHigh⟩ := frequency
  have rest : 0 ≤ 1 - signal := by linarith
  constructor
  · exact mul_nonneg (by linarith) rest
  · calc (1 - (layout.density - signal) ^ row) * (1 - signal)
        ≤ (1 + signal) * (1 - signal) := mul_le_mul_of_nonneg_right (by linarith) rest
      _ = 1 - signal ^ 2 := by ring
      _ ≤ 1 := sub_le_self 1 (sq_nonneg signal)

theorem touched_mem (density : layout.density ∈ Icc 0 1) (frequency : signal ∈ Icc 0 1)
    (row : Nat) : touched layout signal row ∈ Icc 0 (layout.cachelinesPerRow.toNat : ℝ) :=
  mul_mem_rows (one_sub_pow_mem (deadDraw_mem density frequency row) _) (Nat.cast_nonneg _)

end SharedScan

theorem sharedDensity_real (layout : Layout ℝ) (signal : ℝ) (rows : Nat) :
    sharedDensity rows signal layout =
      ∑ row ∈ Finset.range rows, SharedScan.touched layout signal (row + 1) := by
  rw [sharedDensity, SharedScan.repeat_step_real]

theorem sharedDensity_mem (density : layout.density ∈ Icc 0 1) (frequency : signal ∈ Icc 0 1)
    (rows : Nat) :
    sharedDensity rows signal layout ∈ Icc 0 ((rows : ℝ) * layout.cachelinesPerRow.toNat) := by
  rw [sharedDensity_real]
  have each (row : Nat) := SharedScan.touched_mem density frequency row
  constructor
  · exact Finset.sum_nonneg fun row _ => (each (row + 1)).1
  · have total := Finset.sum_le_card_nsmul (Finset.range rows) _ _ fun row _ => (each (row + 1)).2
    simpa using total

namespace IntersectionScan

structure Within (layout : Layout ℝ) (rows : Nat) (scan : IntersectionScan ℝ) : Prop where
  expected : scan.expected ∈ Icc 0 ((rows : ℝ) * layout.cachelinesPerRow.toNat)
  reading : scan.reading ∈ Icc 0 1
  residual : scan.residual ∈ Icc 0 1

theorem within_start (layout : Layout ℝ) : Within layout 0 start where
  expected := by simp [start]
  reading := by simp [start]
  residual := by simp [start]

theorem noise_mem (density : layout.density ∈ Icc 0 1) (frequency : signal ∈ Icc 0 1) :
    max (layout.density - signal) 0 ∈ Icc 0 1 := by
  refine ⟨le_max_right _ _, max_le ?_ zero_le_one⟩
  linarith [density.2, frequency.1]

theorem dead_mem (frequency : signal ∈ Icc 0 1) {residual : ℝ} (left : residual ∈ Icc 0 1) :
    max (1 - signal - residual) 0 ∈ Icc 0 1 := by
  refine ⟨le_max_right _ _, max_le ?_ zero_le_one⟩
  linarith [frequency.1, left.1]

theorem Within.step {rows : Nat} {scan : IntersectionScan ℝ} (density : layout.density ∈ Icc 0 1)
    (frequency : signal ∈ Icc 0 1) (within : Within layout rows scan) :
    Within layout (rows + 1) (scan.step layout signal) := by
  have noise := noise_mem density frequency
  have left : scan.residual * max (layout.density - signal) 0 ∈ Icc 0 1 :=
    ⟨mul_nonneg within.residual.1 noise.1, mul_le_one₀ within.residual.2 noise.1 noise.2⟩
  have read := mul_mem_rows within.reading (Nat.cast_nonneg layout.cachelinesPerRow.toNat)
  refine ⟨?_, ?_, ?_⟩
  · have expected := within.expected
    simp only [IntersectionScan.step, Arithmetic.ofNat_real, Nat.cast_add, Nat.cast_one]
    constructor
    · exact add_nonneg expected.1 read.1
    · linarith [expected.2, read.2]
  · simpa [IntersectionScan.step] using one_sub_pow_mem (dead_mem frequency left) _
  · simpa [IntersectionScan.step] using left

theorem within_repeat (density : layout.density ∈ Icc 0 1) (frequency : signal ∈ Icc 0 1)
    (rows : Nat) : Within layout rows (Nat.repeat (step layout signal) rows start) := by
  induction rows with
  | zero => exact within_start layout
  | succ rows ih => exact ih.step density frequency

end IntersectionScan

theorem privateRow_mem (layout : Layout ℝ) {rows : Nat} (filled : 0 < rows) :
    (layout.cachelinesPerRow.toNat : ℝ) ∈ Icc 0 ((rows : ℝ) * layout.cachelinesPerRow.toNat) := by
  refine ⟨Nat.cast_nonneg _, le_mul_of_one_le_left (Nat.cast_nonneg _) ?_⟩
  exact_mod_cast filled

theorem Arrangement.estimate_select_mem (density : layout.density ∈ Icc 0 1)
    (frequency : signal ∈ Icc 0 1) (rows : Nat) :
    ((Arrangement.select rows).estimate rows signal layout).cachelines ∈
      Icc 0 ((rows : ℝ) * layout.cachelinesPerRow.toNat) := by
  by_cases single : rows = 1
  · rw [select, if_pos single]
    exact privateRow_mem layout (by omega)
  · by_cases empty : rows = 0
    · simp [select, estimate, empty]
    · simp only [select, estimate, if_neg single, if_neg empty]
      exact sharedDensity_mem density frequency rows

namespace Treatment

theorem estimate_mem (treatment : Treatment) (density : layout.density ∈ Icc 0 1)
    (frequency : signal ∈ Icc 0 1) (rows : Nat) :
    (treatment.estimate rows signal layout).cachelines ∈
      Icc 0 ((rows : ℝ) * layout.cachelinesPerRow.toNat) := by
  cases treatment with
  | rowCount => exact Arrangement.estimate_select_mem density frequency rows
  | frequencyConscious =>
      by_cases frequent : 0 < rows ∧ layout.density ≤ signal
      · simp only [estimate, if_pos frequent]
        exact privateRow_mem layout frequent.1
      · simp only [estimate, if_neg frequent]
        exact Arrangement.estimate_select_mem density frequency rows
  | intersection =>
      by_cases few : rows ≤ 1
      · simp only [estimate, if_pos few, Arithmetic.ofNat_real, Nat.cast_mul]
        exact ⟨by positivity, le_refl _⟩
      · simp only [estimate, if_neg few]
        exact (IntersectionScan.within_repeat density frequency rows).expected

end Treatment

/-- In exact arithmetic every treatment expects a term to touch between no cache line and all those
of its rows. Shared rows add up what each touches, and the probability that a draw into one of them
meets no live bit is one even where the noise is negative. -/
theorem Estimator.estimate_within_rows (estimator : Estimator ℝ) (record : TermRecord)
    (position : Nat) (density : estimator.layout.density ∈ Icc 0 1)
    (frequency : estimator.frequencies.lookup record.term ∈ Icc 0 1)
    (admitted : estimator.Admits record) :
    let rows := record.rows.toNat - estimator.layout.reservedRows.toNat
    let signal := estimator.frequencies.lookup record.term
    (∃ comparison, estimator.estimate record position = .ok comparison ∧
      0 ≤ comparison.expected ∧
      comparison.expected ≤ (rows : ℝ) * estimator.layout.cachelinesPerRow.toNat) ∧
    sharedDensity rows signal estimator.layout =
      ∑ row ∈ Finset.range rows,
        (1 - ((1 - (estimator.layout.density - signal) ^ (row + 1)) * (1 - signal)) ^
          estimator.layout.addressSlotsPerRow.toNat) * estimator.layout.cachelinesPerRow.toNat ∧
    ∀ row : Nat, 0 ≤ (1 - (estimator.layout.density - signal) ^ row) * (1 - signal) ∧
      (1 - (estimator.layout.density - signal) ^ row) * (1 - signal) ≤ 1 := by
  intro rows signal
  obtain ⟨comparison, estimated⟩ := estimator.exists_estimate record position admitted
  refine ⟨⟨comparison, estimated, ?_⟩, sharedDensity_real _ _ _,
    SharedScan.deadDraw_mem density frequency⟩
  obtain ⟨_, _, _, _, _, same⟩ := (estimator.estimate_eq_ok record position comparison).mp estimated
  have bounds := estimator.treatment.estimate_mem density frequency rows
  rw [← same] at bounds
  exact bounds

noncomputable def Estimator.ofFrequentTerm : Estimator ℝ :=
  ⟨.ofEntries [⟨"dog", 1 / 2⟩], ⟨60, 1 / 10, 512, 1⟩, .rowCount, "t"⟩

theorem Estimator.estimate_within_rows_frequent :
    ofFrequentTerm.layout.density ∈ Icc 0 1 ∧ ofFrequentTerm.frequencies.lookup "dog" = 1 / 2 ∧
      ofFrequentTerm.Admits ⟨2, "dog", 4, 0, 0, 0, ⟨"", "", ""⟩⟩ ∧
      ∃ comparison,
        ofFrequentTerm.estimate ⟨2, "dog", 4, 0, 0, 0, ⟨"", "", ""⟩⟩ 0 = .ok comparison ∧
        0 ≤ comparison.expected ∧ comparison.expected ≤ 3 * 60 := by
  have density : ofFrequentTerm.layout.density ∈ Icc 0 1 := by
    norm_num [ofFrequentTerm]
  have frequency : ofFrequentTerm.frequencies.lookup "dog" = 1 / 2 := by
    simp [ofFrequentTerm, Frequencies.ofEntries, Frequencies.lookup_insert]
  have admitted : ofFrequentTerm.Admits ⟨2, "dog", 4, 0, 0, 0, ⟨"", "", ""⟩⟩ :=
    show 1 ≤ 4 by decide
  have bounds := (ofFrequentTerm.estimate_within_rows ⟨2, "dog", 4, 0, 0, 0, ⟨"", "", ""⟩⟩ 0
    density (by rw [frequency]; norm_num) admitted).1
  exact ⟨density, frequency, admitted, by simpa [ofFrequentTerm] using bounds⟩

end RowScan
