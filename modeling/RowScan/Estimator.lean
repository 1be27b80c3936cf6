import RowScan.Comparison
import RowScan.Treatment

/-!
Estimating a whole trace. Short traces are estimated one record after the other and long ones by
workers that finish in any order; either way the comparisons come in trace order, and the first
record that cannot be estimated fails the run.
-/

namespace RowScan

structure Estimator (R : Type) where
  frequencies : Frequencies R
  layout : Layout R
  treatment : Treatment
  input : String

namespace Estimator

variable [Arithmetic R]

def unnamed : String := "trace"

def estimate (estimator : Estimator R) (record : TermRecord) (position : Nat) :
    Except Violation (Comparison R) :=
  match record.effectiveRows estimator.layout with
  | .error defect => .error (.values estimator.input record.line record.term defect)
  | .ok rows =>
    let signal := estimator.frequencies.lookup record.term
    let estimate := estimator.treatment.estimate rows signal estimator.layout
    .ok {
      term := record.term
      position := position
      quadwords := record.quadwords
      cachelines := record.cachelines
      expected := estimate.cachelines
      wholeRows := estimate.wholeRows }

def sequential (estimator : Estimator R) (records : List TermRecord) :
    Except Violation (List (Comparison R)) :=
  records.zipIdx.mapM fun (record, position) => estimator.estimate record position

def slots (estimator : Estimator R) (records : Array TermRecord) (finished : List Nat) :
    Array (Option (Except Violation (Comparison R))) :=
  finished.foldl (fun slots position =>
      match records[position]? with
      | some record => slots.setIfInBounds position (some (estimator.estimate record position))
      | none => slots)
    (Array.replicate records.size none)

def parallel (estimator : Estimator R) (finished : List Nat) (records : List TermRecord) :
    Except Violation (List (Comparison R)) :=
  ((estimator.slots records.toArray finished).toList.filterMap id).mapM id

def parallelThreshold : Nat := 4096

/-- Estimates a trace; `finished` is the order in which workers, if any, finish the records. -/
def runScheduled (estimator : Estimator R) (workers : Bool) (finished : List Nat)
    (records : List TermRecord) : Except Violation (List (Comparison R)) :=
  if workers ∧ parallelThreshold ≤ records.length then estimator.parallel finished records
  else estimator.sequential records

def run (estimator : Estimator R) (workers : Bool) (records : List TermRecord) :
    Except Violation (List (Comparison R)) :=
  estimator.runScheduled workers (List.range records.length) records

def events (estimator : Estimator R) (comparisons : List (Comparison R)) : List Event :=
  [.estimated comparisons.length estimator.treatment.name]

def runTrace (estimator : Estimator R) (workers : Bool) (trace : Reader) :
    List Event × Except Violation (List (Comparison R)) :=
  match Trace.readAll trace with
  | (events, .error violation) => (events, .error violation)
  | (events, .ok records) =>
    match estimator.run workers records with
    | .error violation => (events, .error violation)
    | .ok comparisons => (events ++ estimator.events comparisons, .ok comparisons)

end Estimator

end RowScan
