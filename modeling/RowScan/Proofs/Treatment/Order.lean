import Mathlib
import RowScan.Proofs.Treatment.Sums

/-!
Estimates by row count stay below those by intersection, in exact arithmetic. For a rare term this
holds row by row. For a term more frequent than the density a single shared row can be more certain
to be read than a row of the intersection, but the powers of a negative noise add up to nothing
positive, so the rows together are not.
-/

namespace RowScan

open Set (Icc)

variable {layout : Layout ℝ} {signal : ℝ}

namespace SharedScan

open IntersectionScan (liveBehind noise)

theorem sum_pow_mem {base : ℝ} (small : base ∈ Icc (-1) 0) (rows : Nat) :
    ∑ row ∈ Finset.range rows, base ^ (row + 1) ∈ Icc (-1) 0 := by
  induction rows with
  | zero => simp
  | succ rows ih =>
      -- The sum of one more power is the base times one more than the sum so far.
      have shifted : ∑ row ∈ Finset.range (rows + 1), base ^ (row + 1) =
          base * (1 + ∑ row ∈ Finset.range rows, base ^ (row + 1)) := by
        rw [Finset.sum_range_succ', mul_add, Finset.mul_sum, add_comm]
        simp [pow_succ']
      rw [shifted]
      have rest : 1 + ∑ row ∈ Finset.range rows, base ^ (row + 1) ∈ Icc (0 : ℝ) 1 := by
        constructor <;> linarith [ih.1, ih.2]
      constructor
      · calc (-1 : ℝ) ≤ -1 * (1 + ∑ row ∈ Finset.range rows, base ^ (row + 1)) := by
              linarith [rest.2]
          _ ≤ base * (1 + ∑ row ∈ Finset.range rows, base ^ (row + 1)) :=
              mul_le_mul_of_nonneg_right small.1 rest.1
      · exact mul_nonpos_of_nonpos_of_nonneg small.2 rest.1

/-- Bernoulli's inequality row by row: what the powers of a negative noise add to single rows they
take from others. -/
theorem rows_le_sum {base : ℝ} (small : base ∈ Icc (-1) 0) (slots rows : Nat) :
    (rows : ℝ) ≤ ∑ row ∈ Finset.Icc 1 rows, (1 - base ^ row) ^ slots := by
  have each (row : Nat) : 1 - slots * base ^ row ≤ (1 - base ^ row) ^ slots := by
    have bounded : |base ^ row| ≤ 1 := by
      rw [abs_pow]
      exact pow_le_one₀ (abs_nonneg base) (abs_le.mpr ⟨small.1, by linarith [small.2]⟩)
    have powers := one_add_mul_le_pow (a := -base ^ row) (by linarith [le_abs_self (base ^ row)])
      slots
    calc 1 - slots * base ^ row = 1 + slots * -base ^ row := by ring
      _ ≤ (1 + -base ^ row) ^ slots := powers
      _ = (1 - base ^ row) ^ slots := by rw [← sub_eq_add_neg]
  have total := (sum_pow_mem small rows).2
  rw [sum_rows] at total
  calc (rows : ℝ)
      ≤ rows - slots * ∑ row ∈ Finset.Icc 1 rows, base ^ row := by
        linarith [mul_nonpos_of_nonneg_of_nonpos (Nat.cast_nonneg (α := ℝ) slots) total]
    _ = ∑ row ∈ Finset.Icc 1 rows, (1 - slots * base ^ row) := by
        simp [Finset.sum_sub_distrib, Finset.mul_sum]
    _ ≤ _ := Finset.sum_le_sum fun row _ => each row

theorem liveRow_le_of_rare (density : layout.density ∈ Icc 0 1) (frequency : signal ∈ Icc 0 1)
    (rare : signal ≤ layout.density) (row : Nat) :
    liveRow layout signal (row + 1) ≤ liveBehind layout signal (row + 1) := by
  have plain : noise layout signal = layout.density - signal := max_eq_left (by linarith)
  have left := IntersectionScan.noise_pow_le density frequency row
  have positive : 0 ≤ noise layout signal ^ (row + 1) :=
    pow_nonneg (IntersectionScan.noise_mem density frequency).1 _
  have dead : 1 - signal - noise layout signal ^ (row + 1) ≤ deadDraw layout signal (row + 1) := by
    rw [deadDraw, ← plain]
    linarith [mul_nonneg positive frequency.1]
  have powers := pow_le_pow_left₀ (by linarith) dead layout.addressSlotsPerRow.toNat
  unfold liveRow liveBehind
  linarith

theorem sum_liveRow_of_frequent (density : layout.density ∈ Icc 0 1)
    (frequency : signal ∈ Icc 0 1) (frequent : layout.density ≤ signal) (rows : Nat) :
    ∑ row ∈ Finset.Icc 1 rows, liveRow layout signal row ≤
      rows * (1 - (1 - signal) ^ layout.addressSlotsPerRow.toNat) := by
  have small : layout.density - signal ∈ Icc (-1) 0 := by
    constructor <;> linarith [density.1, frequency.2]
  have enough := rows_le_sum small layout.addressSlotsPerRow.toNat rows
  have rest : 0 ≤ (1 - signal) ^ layout.addressSlotsPerRow.toNat :=
    pow_nonneg (by linarith [frequency.2]) _
  simp only [liveRow, deadDraw, mul_pow]
  rw [Finset.sum_sub_distrib, ← Finset.sum_mul]
  simp only [Finset.sum_const, Nat.card_Icc, Nat.add_sub_cancel, nsmul_eq_mul, mul_one]
  linarith [mul_le_mul_of_nonneg_right enough rest]

theorem sum_liveRow_le (density : layout.density ∈ Icc 0 1) (frequency : signal ∈ Icc 0 1)
    (rows : Nat) :
    ∑ row ∈ Finset.Icc 1 rows, liveRow layout signal row ≤
      ∑ row ∈ Finset.Icc 1 rows, liveBehind layout signal row := by
  rcases le_total signal layout.density with rare | frequent
  · apply Finset.sum_le_sum
    intro row member
    obtain ⟨earlier, rfl⟩ : ∃ earlier, row = earlier + 1 :=
      ⟨row - 1, by have := (Finset.mem_Icc.mp member).1; omega⟩
    exact liveRow_le_of_rare density frequency rare earlier
  · have silent : noise layout signal = 0 := max_eq_right (by linarith)
    have alike : ∀ row ∈ Finset.Icc 1 rows, liveBehind layout signal row =
        1 - (1 - signal) ^ layout.addressSlotsPerRow.toNat := by
      intro row member
      have later : row ≠ 0 := by have := (Finset.mem_Icc.mp member).1; omega
      rw [liveBehind, silent, zero_pow later, sub_zero]
    rw [Finset.sum_congr rfl alike, Finset.sum_const, Nat.card_Icc, Nat.add_sub_cancel,
      nsmul_eq_mul]
    exact sum_liveRow_of_frequent density frequency frequent rows

end SharedScan

theorem IntersectionScan.liveBehind_le_one (density : layout.density ∈ Icc 0 1)
    (frequency : signal ∈ Icc 0 1) (row : Nat) : liveBehind layout signal (row + 1) ≤ 1 := by
  have dead := noise_pow_le density frequency row
  have positive := pow_nonneg (show 0 ≤ 1 - signal - noise layout signal ^ (row + 1) by linarith)
    layout.addressSlotsPerRow.toNat
  unfold liveBehind
  linarith

theorem sharedDensity_le_intersectionSum (density : layout.density ∈ Icc 0 1)
    (frequency : signal ∈ Icc 0 1) (rows : Nat) :
    sharedDensity (rows + 1) signal layout ≤ intersectionSum (rows + 1) signal layout := by
  have total := SharedScan.sum_liveRow_le density frequency (rows + 1)
  have last := IntersectionScan.liveBehind_le_one density frequency rows
  rw [sharedDensity_eq_sum, intersectionSum_eq_sum density frequency]
  apply mul_le_mul_of_nonneg_left _ (Nat.cast_nonneg _)
  calc ∑ row ∈ Finset.Icc 1 (rows + 1), SharedScan.liveRow layout signal row
      ≤ ∑ row ∈ Finset.Icc 1 (rows + 1), IntersectionScan.liveBehind layout signal row := total
    _ = ∑ row ∈ Finset.Icc 1 rows, IntersectionScan.liveBehind layout signal row +
          IntersectionScan.liveBehind layout signal (rows + 1) :=
        Finset.sum_Icc_succ_top (by omega) _
    _ ≤ 1 + ∑ row ∈ Finset.Icc 1 rows, IntersectionScan.liveBehind layout signal row := by
        linarith

theorem Treatment.rowCount_le_intersection (density : layout.density ∈ Icc 0 1)
    (frequency : signal ∈ Icc 0 1) (rows : Nat) :
    (rowCount.estimate rows signal layout).cachelines ≤
      (intersection.estimate rows signal layout).cachelines := by
  by_cases few : rows ≤ 1
  · obtain rfl | rfl : rows = 0 ∨ rows = 1 := by omega
    · simp [estimate, Arrangement.select, Arrangement.estimate]
    · simp [estimate, Arrangement.select, Arrangement.estimate]
  · obtain ⟨earlier, rfl⟩ : ∃ earlier, rows = earlier + 1 := ⟨rows - 1, by omega⟩
    have shared : rowCount.estimate (earlier + 1) signal layout =
        ⟨sharedDensity (earlier + 1) signal layout, false⟩ := by
      rw [estimate, Arrangement.select, if_neg (by omega), Arrangement.estimate,
        if_neg (Nat.succ_ne_zero earlier)]
    have scanned : intersection.estimate (earlier + 1) signal layout =
        ⟨intersectionSum (earlier + 1) signal layout, false⟩ := if_neg few
    rw [shared, scanned]
    exact sharedDensity_le_intersectionSum density frequency earlier

/-- In exact arithmetic no record is expected to touch more cache lines by row count than by
intersection, however frequent its term is. -/
theorem Estimator.rowCount_below_intersection (estimator : Estimator ℝ) (record : TermRecord)
    (position : Nat) (density : estimator.layout.density ∈ Icc 0 1)
    (frequency : estimator.frequencies.lookup record.term ∈ Icc 0 1)
    (admitted : estimator.Admits record) :
    ∃ byCount byIntersection,
      { estimator with treatment := .rowCount }.estimate record position = .ok byCount ∧
      { estimator with treatment := .intersection }.estimate record position =
        .ok byIntersection ∧
      byCount.expected ≤ byIntersection.expected := by
  obtain ⟨byCount, counted⟩ :=
    { estimator with treatment := .rowCount }.exists_estimate record position admitted
  obtain ⟨byIntersection, scanned⟩ :=
    { estimator with treatment := .intersection }.exists_estimate record position admitted
  refine ⟨byCount, byIntersection, counted, scanned, ?_⟩
  obtain ⟨_, _, _, _, _, count⟩ := (estimate_eq_ok _ record position byCount).mp counted
  obtain ⟨_, _, _, _, _, scan⟩ := (estimate_eq_ok _ record position byIntersection).mp scanned
  have ordered := Treatment.rowCount_le_intersection density frequency
    (record.rows.toNat - estimator.layout.reservedRows.toNat)
  rwa [← count, ← scan] at ordered

noncomputable def Estimator.ofTwoSlots : Estimator ℝ :=
  ⟨.ofEntries [⟨"dog", 3 / 4⟩], .twoSlots, .rowCount, "t"⟩

theorem Estimator.rowCount_below_intersection_frequent :
    ofTwoSlots.layout.density < ofTwoSlots.frequencies.lookup "dog" ∧
      ∃ byCount byIntersection,
        { ofTwoSlots with treatment := .rowCount }.estimate ⟨2, "dog", 4, 0, 0, 0, ⟨"", "", ""⟩⟩ 0 =
          .ok byCount ∧
        { ofTwoSlots with treatment := .intersection }.estimate
          ⟨2, "dog", 4, 0, 0, 0, ⟨"", "", ""⟩⟩ 0 = .ok byIntersection ∧
        byCount.expected ≤ byIntersection.expected := by
  have known : ofTwoSlots.frequencies.lookup "dog" = 3 / 4 := by
    simp [ofTwoSlots, Frequencies.ofEntries, Frequencies.lookup_insert]
  have half : ofTwoSlots.layout.density = 1 / 2 := by norm_num [ofTwoSlots, Layout.twoSlots]
  refine ⟨by rw [known, half]; norm_num, ?_⟩
  apply ofTwoSlots.rowCount_below_intersection
  · rw [half]
    norm_num
  · rw [known]
    norm_num
  · exact show 1 ≤ 4 by decide

end RowScan
