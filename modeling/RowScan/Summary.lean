import RowScan.Comparison

/-!
How accurate the estimates of a run are: totals, mean absolute error, root mean square error and the
ratio of expected to measured cache lines. Totals of counters are words and wrap around.
-/

namespace RowScan

open Arithmetic

structure Summary (R : Type) where
  terms : Nat
  totalQuadwords : UInt64
  totalCachelines : UInt64
  totalExpected : R
  meanAbsoluteError : R
  rootMeanSquareError : R
  /-- Total expected over total measured cache lines, zero when nothing was measured. -/
  ratio : R
  deriving Repr

structure Totals (R : Type) where
  quadwords : UInt64
  cachelines : UInt64
  expected : R
  absoluteError : R
  squareError : R

namespace Totals

variable [Arithmetic R]

def zero : Totals R := ⟨0, 0, 0, 0, 0⟩

def error (comparison : Comparison R) : R :=
  comparison.expected - ofNat comparison.cachelines.toNat

def add (totals : Totals R) (comparison : Comparison R) : Totals R where
  quadwords := totals.quadwords + comparison.quadwords
  cachelines := totals.cachelines + comparison.cachelines
  expected := totals.expected + comparison.expected
  absoluteError := totals.absoluteError + abs (error comparison)
  squareError := totals.squareError + error comparison * error comparison

end Totals

namespace Summary

variable [Arithmetic R]

def zero : Summary R := ⟨0, 0, 0, 0, 0, 0, 0⟩

def ofTotals (terms : Nat) (totals : Totals R) : Summary R where
  terms := terms
  totalQuadwords := totals.quadwords
  totalCachelines := totals.cachelines
  totalExpected := totals.expected
  meanAbsoluteError := totals.absoluteError / ofNat terms
  rootMeanSquareError := sqrt (totals.squareError / ofNat terms)
  ratio := if 0 < totals.cachelines then totals.expected / ofNat totals.cachelines.toNat else 0

def ofComparisons (comparisons : List (Comparison R)) : Summary R :=
  if comparisons = [] then zero
  else ofTotals comparisons.length (comparisons.foldl Totals.add Totals.zero)

def figures (summary : Summary Float) : Figures where
  actual := summary.totalCachelines
  expected := summary.totalExpected
  ratio := summary.ratio
  meanAbsoluteError := summary.meanAbsoluteError
  rootMeanSquareError := summary.rootMeanSquareError

end Summary

end RowScan
