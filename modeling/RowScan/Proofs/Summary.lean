import Mathlib
import RowScan.Summary

/-!
What a summary depends on: the measured and expected numbers of the comparisons, in their order.
-/

namespace RowScan

variable [Arithmetic R]

def Comparison.counts (comparison : Comparison R) : UInt64 × UInt64 × R :=
  (comparison.quadwords, comparison.cachelines, comparison.expected)

def Totals.addCounts (totals : Totals R) (counts : UInt64 × UInt64 × R) : Totals R :=
  totals.add ⟨"", 0, counts.1, counts.2.1, counts.2.2, false⟩

theorem Totals.foldl_add (totals : Totals R) (comparisons : List (Comparison R)) :
    comparisons.foldl add totals = (comparisons.map Comparison.counts).foldl addCounts totals := by
  rw [List.foldl_map]
  rfl

namespace Summary

theorem ofComparisons_congr (first second : List (Comparison R))
    (same : first.map Comparison.counts = second.map Comparison.counts) :
    ofComparisons first = ofComparisons second := by
  have sized : first.length = second.length := by simpa using congrArg List.length same
  have empty : first = [] ↔ second = [] := by
    rw [← List.length_eq_zero_iff, ← List.length_eq_zero_iff, sized]
  simp only [ofComparisons, Totals.foldl_add, same, sized, empty]

theorem terms_ofComparisons (comparisons : List (Comparison R)) :
    (ofComparisons comparisons).terms = comparisons.length := by
  unfold ofComparisons
  split
  · rename_i empty
    rw [empty]
    rfl
  · rfl

end Summary

end RowScan
