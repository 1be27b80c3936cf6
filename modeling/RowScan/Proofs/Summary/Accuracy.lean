import Mathlib
import RowScan.Proofs.Arithmetic
import RowScan.Proofs.Summary

/-!
What the figures of a summary say about each other in exact arithmetic. All of them are sums over
the same comparisons divided by the same count, so the mean absolute error lies between the distance
of the totals per comparison and the root mean square error. The total of the measurements is the
only figure that may wrap around.
-/

namespace RowScan

namespace Totals

theorem add_real (totals : Totals ℝ) (comparison : Comparison ℝ) :
    totals.add comparison =
      ⟨totals.quadwords + comparison.quadwords, totals.cachelines + comparison.cachelines,
        totals.expected + comparison.expected, totals.absoluteError + |error comparison|,
        totals.squareError + error comparison ^ 2⟩ := by
  rw [sq]
  rfl

theorem foldl_add_real (totals : Totals ℝ) (comparisons : List (Comparison ℝ)) :
    comparisons.foldl add totals =
      ⟨totals.quadwords + (comparisons.map Comparison.quadwords).sum,
        totals.cachelines + (comparisons.map Comparison.cachelines).sum,
        totals.expected + (comparisons.map Comparison.expected).sum,
        totals.absoluteError + (comparisons.map fun comparison => |error comparison|).sum,
        totals.squareError + (comparisons.map fun comparison => error comparison ^ 2).sum⟩ := by
  induction comparisons generalizing totals with
  | nil => simp
  | cons comparison rest ih => simp [ih, add_real, add_assoc]

/-- A total of words is what their sum leaves behind when it wraps around. -/
theorem toNat_sum (words : List UInt64) :
    words.sum.toNat = (words.map UInt64.toNat).sum % Natural.limit64 := by
  induction words with
  | nil => rfl
  | cons word rest ih =>
      rw [List.sum_cons, UInt64.toNat_add, ih, List.map_cons, List.sum_cons]
      exact Nat.add_mod_mod _ _ _

theorem error_eq_zero_iff (comparison : Comparison ℝ) :
    error comparison = 0 ↔ comparison.expected = comparison.cachelines.toNat := sub_eq_zero

theorem sum_error (comparisons : List (Comparison ℝ)) :
    (comparisons.map error).sum =
      (comparisons.map Comparison.expected).sum -
        ((comparisons.map fun comparison => comparison.cachelines.toNat).sum : ℕ) := by
  induction comparisons with
  | nil => simp
  | cons comparison rest ih =>
      simp only [List.map_cons, List.sum_cons, ih, error, Nat.cast_add, Arithmetic.ofNat_real]
      ring

end Totals

namespace Summary

open Totals (error)

theorem ofComparisons_real (comparisons : List (Comparison ℝ)) :
    ofComparisons comparisons =
      { terms := comparisons.length
        totalQuadwords := (comparisons.map Comparison.quadwords).sum
        totalCachelines := (comparisons.map Comparison.cachelines).sum
        totalExpected := (comparisons.map Comparison.expected).sum
        meanAbsoluteError :=
          (comparisons.map fun comparison => |error comparison|).sum / comparisons.length
        rootMeanSquareError :=
          √((comparisons.map fun comparison => error comparison ^ 2).sum / comparisons.length)
        ratio :=
          if 0 < (comparisons.map Comparison.cachelines).sum then
            (comparisons.map Comparison.expected).sum /
              (comparisons.map Comparison.cachelines).sum.toNat
          else 0 } := by
  unfold ofComparisons
  split
  · rename_i empty
    subst empty
    simp [zero]
  · rw [Totals.foldl_add_real]
    simp [ofTotals, Totals.zero, Arithmetic.sqrt]

variable (comparisons : List (Comparison ℝ))

noncomputable def errorAt (index : Fin comparisons.length) : ℝ := error comparisons[index.val]

theorem sum_errorAt (f : ℝ → ℝ) :
    ∑ index, f (errorAt comparisons index) =
      (comparisons.map fun comparison => f (error comparison)).sum :=
  Fin.sum_univ_fun_getElem comparisons fun comparison => f (error comparison)

theorem length_mul_meanAbsoluteError :
    comparisons.length * (ofComparisons comparisons).meanAbsoluteError =
      ∑ index, |errorAt comparisons index| := by
  rw [ofComparisons_real, sum_errorAt comparisons fun error => |error|]
  by_cases empty : comparisons = []
  · simp [empty]
  · exact mul_div_cancel₀ _ (by simpa using empty)

theorem length_mul_sq_rootMeanSquareError :
    comparisons.length * (ofComparisons comparisons).rootMeanSquareError ^ 2 =
      ∑ index, errorAt comparisons index ^ 2 := by
  have nonneg : 0 ≤ ∑ index, errorAt comparisons index ^ 2 :=
    Finset.sum_nonneg fun index _ => sq_nonneg (errorAt comparisons index)
  rw [sum_errorAt comparisons fun error => error ^ 2] at nonneg ⊢
  simp only [ofComparisons_real, Real.sq_sqrt (div_nonneg nonneg (Nat.cast_nonneg _))]
  by_cases empty : comparisons = []
  · simp [empty]
  · exact mul_div_cancel₀ _ (by simpa using empty)

theorem rootMeanSquareError_nonneg : 0 ≤ (ofComparisons comparisons).rootMeanSquareError := by
  rw [ofComparisons_real]
  exact Real.sqrt_nonneg _

/-- A measure of errors that only an exact estimate has none of adds up to nothing only if all
estimates are exact. -/
theorem sum_errorAt_eq_zero_iff {f : ℝ → ℝ} (nonneg : ∀ error, 0 ≤ f error)
    (none : ∀ error, f error = 0 ↔ error = 0) :
    ∑ index, f (errorAt comparisons index) = 0 ↔
      ∀ comparison ∈ comparisons, comparison.expected = comparison.cachelines.toNat := by
  rw [Finset.sum_eq_zero_iff_of_nonneg fun index _ => nonneg _]
  simp only [Finset.mem_univ, true_imp_iff, none, errorAt, Totals.error_eq_zero_iff,
    List.forall_mem_iff_forall_getElem, Fin.forall_iff]

variable {comparisons}

section

variable (fits : (comparisons.map fun comparison => comparison.cachelines.toNat).sum <
  Natural.limit64)

include fits

theorem toNat_totalCachelines :
    (ofComparisons comparisons).totalCachelines.toNat =
      (comparisons.map fun comparison => comparison.cachelines.toNat).sum := by
  simp only [ofComparisons_real, Totals.toNat_sum, List.map_map]
  exact Nat.mod_eq_of_lt fits

theorem totals_sub :
    (ofComparisons comparisons).totalExpected - (ofComparisons comparisons).totalCachelines.toNat =
      ∑ index, errorAt comparisons index := by
  rw [toNat_totalCachelines fits, ofComparisons_real]
  exact (Totals.sum_error comparisons).symm.trans (sum_errorAt comparisons id).symm

theorem abs_totals_sub_le :
    |(ofComparisons comparisons).totalExpected -
        (ofComparisons comparisons).totalCachelines.toNat| ≤
      comparisons.length * (ofComparisons comparisons).meanAbsoluteError := by
  rw [totals_sub fits, length_mul_meanAbsoluteError]
  exact Finset.abs_sum_le_sum_abs _ _

end

theorem length_pos (filled : comparisons ≠ []) : (0 : ℝ) < comparisons.length :=
  Nat.cast_pos.mpr (List.length_pos_iff.mpr filled)

/-- The square of a mean is at most the mean of the squares. -/
theorem meanAbsoluteError_le (filled : comparisons ≠ []) :
    (ofComparisons comparisons).meanAbsoluteError ≤
      (ofComparisons comparisons).rootMeanSquareError := by
  have count := length_pos filled
  have bound := sq_sum_le_card_mul_sum_sq (s := Finset.univ)
    (f := fun index => |errorAt comparisons index|)
  simp only [sq_abs, Finset.card_univ, Fintype.card_fin] at bound
  rw [← length_mul_meanAbsoluteError, ← length_mul_sq_rootMeanSquareError, mul_pow, sq,
    mul_assoc] at bound
  have squares := le_of_mul_le_mul_left (le_of_mul_le_mul_left bound count) count
  exact le_of_sq_le_sq squares (rootMeanSquareError_nonneg comparisons)

theorem sq_rootMeanSquareError_le (filled : comparisons ≠ []) :
    (ofComparisons comparisons).rootMeanSquareError ^ 2 ≤
      comparisons.length * (ofComparisons comparisons).meanAbsoluteError ^ 2 := by
  have bound := Finset.sum_sq_le_sq_sum_of_nonneg (s := Finset.univ)
    (f := fun index => |errorAt comparisons index|) fun index _ => abs_nonneg _
  simp only [sq_abs] at bound
  rw [← length_mul_meanAbsoluteError, ← length_mul_sq_rootMeanSquareError, mul_pow,
    sq (comparisons.length : ℝ), mul_assoc] at bound
  exact le_of_mul_le_mul_left bound (length_pos filled)

theorem meanAbsoluteError_eq_zero_iff (filled : comparisons ≠ []) :
    (ofComparisons comparisons).meanAbsoluteError = 0 ↔
      ∀ comparison ∈ comparisons, comparison.expected = comparison.cachelines.toNat := by
  rw [← sum_errorAt_eq_zero_iff comparisons abs_nonneg fun _ => abs_eq_zero,
    ← length_mul_meanAbsoluteError, mul_eq_zero_iff_left (length_pos filled).ne']

theorem rootMeanSquareError_eq_zero_iff (filled : comparisons ≠ []) :
    (ofComparisons comparisons).rootMeanSquareError = 0 ↔
      ∀ comparison ∈ comparisons, comparison.expected = comparison.cachelines.toNat := by
  rw [← sum_errorAt_eq_zero_iff comparisons sq_nonneg fun _ => sq_eq_zero_iff,
    ← length_mul_sq_rootMeanSquareError, mul_eq_zero_iff_left (length_pos filled).ne',
    sq_eq_zero_iff]

theorem ratio_mul (measured : 0 < (ofComparisons comparisons).totalCachelines) :
    (ofComparisons comparisons).ratio * (ofComparisons comparisons).totalCachelines.toNat =
      (ofComparisons comparisons).totalExpected := by
  rw [ofComparisons_real] at measured ⊢
  simp only [if_pos measured]
  exact div_mul_cancel₀ _ (Nat.cast_ne_zero.mpr (UInt64.lt_iff_toNat_lt.mp measured).ne')

theorem ratio_of_unmeasured (unmeasured : (ofComparisons comparisons).totalCachelines = 0) :
    (ofComparisons comparisons).ratio = 0 := by
  rw [ofComparisons_real] at unmeasured ⊢
  exact if_neg (UInt64.not_lt.mpr (UInt64.le_of_eq unmeasured))

/-- In exact arithmetic the mean absolute error is at most the root mean square error, which is at
most the square root of the count times as large, and the distance of the two totals is at most the
count times the mean absolute error. Both errors are zero exactly when each estimate is what was
measured. The ratio takes the measured total to the expected one, unless nothing was measured. -/
theorem figures_consistent (comparisons : List (Comparison ℝ)) (filled : comparisons ≠ [])
    (fits : (comparisons.map fun comparison => comparison.cachelines.toNat).sum <
      Natural.limit64) :
    let summary := ofComparisons comparisons
    let count : ℝ := comparisons.length
    let measured : ℝ := summary.totalCachelines.toNat
    let exact := ∀ comparison ∈ comparisons, comparison.expected = comparison.cachelines.toNat
    summary.totalCachelines.toNat =
        (comparisons.map fun comparison => comparison.cachelines.toNat).sum ∧
      summary.totalExpected = (comparisons.map Comparison.expected).sum ∧
      summary.meanAbsoluteError ≤ summary.rootMeanSquareError ∧
      summary.rootMeanSquareError ^ 2 ≤ count * summary.meanAbsoluteError ^ 2 ∧
      |summary.totalExpected - measured| ≤ count * summary.meanAbsoluteError ∧
      (summary.meanAbsoluteError = 0 ↔ exact) ∧ (summary.rootMeanSquareError = 0 ↔ exact) ∧
      (0 < summary.totalCachelines → summary.ratio * measured = summary.totalExpected) ∧
      (summary.totalCachelines = 0 → summary.ratio = 0) := by
  intro summary count measured exact
  have closed := ofComparisons_real comparisons
  exact ⟨toNat_totalCachelines fits, congrArg totalExpected closed,
    meanAbsoluteError_le filled, sq_rootMeanSquareError_le filled, abs_totals_sub_le fits,
    meanAbsoluteError_eq_zero_iff filled, rootMeanSquareError_eq_zero_iff filled, ratio_mul,
    ratio_of_unmeasured⟩

noncomputable def apartComparisons : List (Comparison ℝ) :=
  [⟨"dog", 0, 8, 10, 13, false⟩, ⟨"cat", 1, 8, 30, 28, false⟩]

theorem figures_consistent_apart :
    let summary := ofComparisons apartComparisons
    apartComparisons ≠ [] ∧
      (apartComparisons.map fun comparison => comparison.cachelines.toNat).sum <
        Natural.limit64 ∧
      summary.totalCachelines.toNat = 40 ∧ summary.totalExpected = 41 ∧
      summary.meanAbsoluteError ≤ summary.rootMeanSquareError ∧
      summary.rootMeanSquareError ^ 2 ≤ 2 * summary.meanAbsoluteError ^ 2 ∧
      1 ≤ 2 * summary.meanAbsoluteError ∧ summary.meanAbsoluteError ≠ 0 ∧
      summary.rootMeanSquareError ≠ 0 ∧ summary.ratio * 40 = 41 := by
  intro summary
  have filled : apartComparisons ≠ [] := List.cons_ne_nil _ _
  have fits : (apartComparisons.map fun comparison => comparison.cachelines.toNat).sum <
      Natural.limit64 := by
    simp [apartComparisons, Natural.limit64]
  obtain ⟨measured, expected, mean, square, totals, meanExact, squareExact, ratio, _⟩ :=
    figures_consistent apartComparisons filled fits
  have apart : ¬ ∀ comparison ∈ apartComparisons,
      comparison.expected = comparison.cachelines.toNat := by
    intro exact
    have first : (13 : ℝ) = (10 : ℕ) := exact ⟨"dog", 0, 8, 10, 13, false⟩ List.mem_cons_self
    norm_num at first
  have forty : summary.totalCachelines.toNat = 40 := measured
  have counted : 0 < summary.totalCachelines := by
    rw [UInt64.lt_iff_toNat_lt, forty]
    decide
  have more : summary.totalExpected = 41 := by
    rw [expected, apartComparisons]
    norm_num
  have count : (apartComparisons.length : ℝ) = 2 := by norm_num [apartComparisons]
  rw [more, forty, count] at totals
  rw [more, forty] at ratio
  rw [count] at square
  norm_num at totals ratio
  exact ⟨filled, fits, forty, more, mean, square, totals, fun zero => apart (meanExact.mp zero),
    fun zero => apart (squareExact.mp zero), ratio counted⟩

end Summary

end RowScan
