import Mathlib
import RowScan.Proofs.Comparison
import RowScan.Proofs.Comparison.ExpectedText
import RowScan.Proofs.Inputs
import RowScan.Proofs.Summary

/-!
The numbers of a table of comparisons, read back. A row keeps its numbers whatever its term is: they
hold no CR LF, and each is read as the number it was written for. So the summary of what is read
back is the summary of what was written.
-/

namespace RowScan

namespace Comparison

theorem unified_expectedText (comparison : Comparison Float)
    (finite : Double.IsFinite comparison.expected) :
    Writer.unified comparison.expectedText = comparison.expectedText := by
  apply Writer.unified_of_absent
  intro member
  exact absurd (mem_expectedText comparison finite _ member) (by decide)

/-- The comparison that a row of the table shows. The row does not tell what its estimate counts. -/
def ofRow (input : String) (row : Row) : Except Violation (Comparison Float) :=
  match row.fields with
  | [term, position, quadwords, cachelines, expected] => do
    let position ← row.natural input "TermPos" position
    let quadwords ← row.natural input "Quadwords" quadwords
    let cachelines ← row.natural input "Cachelines" cachelines
    let expected ← row.number input "ExpectedCachelines" expected
    return ⟨term, position.toNat, quadwords, cachelines, expected, false⟩
  | fields => .error (.record input row.line (.arity columns.length fields.length))

def shown (comparison : Comparison Float) : Comparison Float :=
  { comparison with term := Writer.unified comparison.term, wholeRows := false }

theorem ofRow_fields (input : String) (line : Nat) (comparison : Comparison Float)
    (finite : Double.IsFinite comparison.expected)
    (small : comparison.position < Natural.limit64) :
    ofRow input ⟨line, comparison.fields.map Writer.unified⟩ = .ok comparison.shown := by
  have place : (UInt64.ofNat comparison.position).toNat = comparison.position :=
    UInt64.toNat_ofNat_of_lt' small
  have position : Natural.read Natural.limit64 (Natural.text comparison.position) =
      .ok (UInt64.ofNat comparison.position).toNat := by
    rw [place, Natural.read_text small]
  have count (counter : UInt64) :
      Natural.read Natural.limit64 (Natural.text counter.toNat) = .ok counter.toNat :=
    Natural.read_text counter.toNat_lt
  simp only [ofRow, fields, List.map_cons, List.map_nil, Writer.unified_natural,
    unified_expectedText comparison finite, bind_eq_ok, Row.natural_eq_ok, Row.number_eq_ok]
  exact ⟨_, position, _, count _, _, count _, _, float?_expectedText comparison finite, by
    simp [place, shown, pure, Except.pure]⟩

theorem mapM_ofRow (input : String) (comparisons : List (Comparison Float))
    (finite : ∀ comparison ∈ comparisons, Double.IsFinite comparison.expected)
    (small : ∀ comparison ∈ comparisons, comparison.position < Natural.limit64) :
    (Writer.bodyRows columns (comparisons.map fields)).mapM (ofRow input) =
      .ok (comparisons.map shown) := by
  rw [mapM_eq_ok]
  apply List.ext_getElem?
  intro index
  simp only [List.getElem?_map, Writer.getElem?_bodyRows]
  cases found : comparisons[index]? with
  | none => rfl
  | some comparison =>
      have member := List.mem_of_getElem? found
      simp only [Option.map_some, ofRow_fields input _ comparison (finite _ member)
        (small _ member)]

theorem ofComparisons_shown (comparisons : List (Comparison Float)) :
    Summary.ofComparisons (comparisons.map shown) = Summary.ofComparisons comparisons := by
  apply Summary.ofComparisons_congr
  rw [List.map_map]
  rfl

end Comparison

end RowScan
