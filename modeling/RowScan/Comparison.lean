import RowScan.Number.Notation
import RowScan.Table.Sink
import RowScan.Trace

/-!
Measured and expected cache lines of a query term, and the table of them. Estimates that count whole
rows are written without a point and sums of probabilities with one.
-/

namespace RowScan

structure Comparison (R : Type) where
  term : String
  /-- The place of the term in the trace, counted from 0. -/
  position : Nat
  quadwords : UInt64
  cachelines : UInt64
  expected : R
  wholeRows : Bool
  deriving Repr

def Double.isWhole : Double → Bool
  | .finite _ magnitude => Magnitude.isWhole magnitude
  | _ => false

namespace Comparison

def columns : List String := ["Query", "TermPos", "Quadwords", "Cachelines", "ExpectedCachelines"]

def expectedText (comparison : Comparison Float) : String :=
  if comparison.wholeRows ∨ (Double.ofFloat comparison.expected).isWhole = false then
    Notation.plain.text comparison.expected
  else
    fixed 1 comparison.expected

def fields (comparison : Comparison Float) : List String :=
  [comparison.term, Natural.text comparison.position, Natural.text comparison.quadwords.toNat,
    Natural.text comparison.cachelines.toNat, comparison.expectedText]

def table (comparisons : List (Comparison Float)) : List (List String) :=
  columns :: comparisons.map fields

def tableText (comparisons : List (Comparison Float)) : String := Writer.text (table comparisons)

def writeTable (sink : Sink) (comparisons : List (Comparison Float)) :
    Except Violation Unit × Sink :=
  let (status, filled) := sink.writeRows (table comparisons)
  (status.mapError .io, filled)

end Comparison

end RowScan
