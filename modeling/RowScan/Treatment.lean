import RowScan.Frequencies
import RowScan.Trace

/-!
Treatments turn the rows of a query term into the number of cache lines that their scan is expected
to touch. With `n` effective rows, signal probability `s`, density `d`, `C` cache lines and `K`
address slots per row, a private row touches `C`; shared rows touch

`C * sum of 1 - ((1 - (d - s) ^ i) * (1 - s)) ^ K for i from 1 to n`;

and a running intersection reads its first row in full and row `k + 1` with the probability
`1 - (1 - s - max (d - s) 0 ^ k) ^ K` that it still has a live bit.
-/

namespace RowScan

open Arithmetic

/-- Expected cache lines, and whether they count rows read in full instead of summing
probabilities. -/
structure Estimate (R : Type) where
  cachelines : R
  wholeRows : Bool
  deriving Repr

inductive Arrangement where
  | privateRow
  | sharedRows
  deriving Repr, DecidableEq

structure SharedScan (R : Type) where
  expected : R
  noisePower : R

namespace SharedScan

variable [Arithmetic R]

def start : SharedScan R := ⟨0, 1⟩

def step (layout : Layout R) (signal : R) (scan : SharedScan R) : SharedScan R :=
  let noisePower := scan.noisePower * (layout.density - signal)
  let allDead := (1 - noisePower) * (1 - signal)
  let touched := 1 - power allDead layout.addressSlotsPerRow.toNat
  ⟨scan.expected + touched * ofNat layout.cachelinesPerRow.toNat, noisePower⟩

end SharedScan

def sharedDensity [Arithmetic R] (rows : Nat) (signal : R) (layout : Layout R) : R :=
  (Nat.repeat (SharedScan.step layout signal) rows SharedScan.start).expected

/-- The sum over the rows of an intersection, the probability that the next row is read, and the
noise left after the rows so far. -/
structure IntersectionScan (R : Type) where
  expected : R
  reading : R
  residual : R

namespace IntersectionScan

variable [Arithmetic R]

def start : IntersectionScan R := ⟨0, 1, 1⟩

def step (layout : Layout R) (signal : R) (scan : IntersectionScan R) : IntersectionScan R :=
  let residual := scan.residual * positivePart (layout.density - signal)
  let dead := positivePart (1 - signal - residual)
  { expected := scan.expected + scan.reading * ofNat layout.cachelinesPerRow.toNat
    reading := 1 - power dead layout.addressSlotsPerRow.toNat
    residual := residual }

end IntersectionScan

def intersectionSum [Arithmetic R] (rows : Nat) (signal : R) (layout : Layout R) : R :=
  (Nat.repeat (IntersectionScan.step layout signal) rows IntersectionScan.start).expected

namespace Arrangement

def name : Arrangement → String
  | .privateRow => "PrivateRow"
  | .sharedRows => "SharedRowDensity"

def select (rows : Nat) : Arrangement := if rows = 1 then .privateRow else .sharedRows

def estimate [Arithmetic R] (arrangement : Arrangement) (rows : Nat) (signal : R)
    (layout : Layout R) : Estimate R :=
  match arrangement with
  | .privateRow => ⟨Arithmetic.ofNat layout.cachelinesPerRow.toNat, true⟩
  | .sharedRows =>
    if rows = 0 then ⟨0, true⟩ else ⟨sharedDensity rows signal layout, false⟩

end Arrangement

inductive Treatment where
  /-- Terms of one row have a private row, all others shared rows. -/
  | rowCount
  /-- Terms as frequent as the density have a private row, others are treated by row count. -/
  | frequencyConscious
  /-- Rows are read while the intersection still has live bits. -/
  | intersection
  deriving Repr, DecidableEq

namespace Treatment

def all : List Treatment := [.rowCount, .frequencyConscious, .intersection]

def standard : Treatment := .rowCount

def name : Treatment → String
  | .rowCount => "RowCount"
  | .frequencyConscious => "FrequencyConscious"
  | .intersection => "Intersection"

def description : Treatment → String
  | .rowCount =>
    "Single-row terms scan a private row; others scan shared rows at the configured density."
  | .frequencyConscious =>
    "Terms at least as frequent as the density scan one private row; others as RowCount."
  | .intersection => "Rows are read while the running intersection still has live bits."

def sameIgnoringCase (left right : String) : Bool :=
  left.toList.map Char.toLower == right.toList.map Char.toLower

def ofName (name : String) : Except Violation Treatment :=
  match all.find? fun treatment => sameIgnoringCase treatment.name (Blank.trim name) with
  | some treatment => .ok treatment
  | none => .error (.config (.treatment name (all.map Treatment.name)))

def estimate [Arithmetic R] (treatment : Treatment) (rows : Nat) (signal : R)
    (layout : Layout R) : Estimate R :=
  match treatment with
  | .rowCount => (Arrangement.select rows).estimate rows signal layout
  | .frequencyConscious =>
    let arrangement :=
      if 0 < rows ∧ layout.density ≤ signal then .privateRow else Arrangement.select rows
    arrangement.estimate rows signal layout
  | .intersection =>
    if rows ≤ 1 then ⟨Arithmetic.ofNat (rows * layout.cachelinesPerRow.toNat), true⟩
    else ⟨intersectionSum rows signal layout, false⟩

end Treatment

def TermRecord.effectiveRows (record : TermRecord) (layout : Layout R) : Except ValueDefect Nat :=
  let rows := record.rows.toNat
  let reserved := layout.reservedRows.toNat
  if reserved ≤ rows then .ok (rows - reserved) else .error (.reservedRows rows reserved)

end RowScan
