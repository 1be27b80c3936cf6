import Mathlib
import RowScan.Proofs.Comparison.ExpectedText
import RowScan.Proofs.Table.RoundTrip
import RowScan.Proofs.Table.Sink

/-!
A written table determines its comparisons. Its text tells the fields of every row, and the fields
of a comparison tell its values: the point in the last one tells the model behind the estimate.
-/

namespace RowScan

theorem Natural.text_injective : Function.Injective Natural.text := by
  intro first second same
  have digits : Nat.toDigits 10 first = Nat.toDigits 10 second := String.ofList_injective same
  rw [← Nat.ofDigitChars_ten_toDigits (n := first), digits, Nat.ofDigitChars_ten_toDigits]

namespace Writer

theorem eq_nil_of_tableChars (rows : List (List String)) (empty : tableChars rows = []) :
    rows = [] := by
  cases rows with
  | nil => rfl
  | cons fields rows =>
      rw [tableChars, List.flatMap_cons, List.append_eq_nil_iff] at empty
      exact absurd empty.1 (rowChars_ne_nil fields)

theorem tableChars_injective (first second : List (List String))
    (filledFirst : ∀ fields ∈ first, fields ≠ []) (filledSecond : ∀ fields ∈ second, fields ≠ [])
    (same : tableChars first = tableChars second) : first = second := by
  induction first generalizing second with
  | nil => exact (eq_nil_of_tableChars second same.symm).symm
  | cons fields rows ih =>
      cases second with
      | nil => exact eq_nil_of_tableChars (fields :: rows) same
      | cons others later =>
          -- Both texts start with a record, and a record is read back with what stands behind it.
          have read := record_rowChars fields (tableChars rows) (filledFirst _ List.mem_cons_self)
          have readOther :=
            record_rowChars others (tableChars later) (filledSecond _ List.mem_cons_self)
          change rowChars fields ++ tableChars rows = rowChars others ++ tableChars later at same
          rw [same, readOther, Option.some.injEq, Prod.mk.injEq] at read
          obtain ⟨rfl, behind⟩ := read
          rw [ih later (fun fields member => filledFirst fields (List.mem_cons_of_mem _ member))
            (fun fields member => filledSecond fields (List.mem_cons_of_mem _ member)) behind.symm]

end Writer

namespace Comparison

theorem bytes_of_writeTable (sink filled : Sink) (comparisons : List (Comparison Float))
    (written : writeTable sink comparisons = (.ok (), filled)) :
    filled.bytes = sink.bytes ++ (tableText comparisons).toUTF8 := by
  rw [Sink.writeTable_eq, Prod.mk.injEq, mapError_eq_ok, Sink.status_eq_ok] at written
  rw [← written.2, Sink.bytes_fill_of_fit sink written.1]

theorem eq_of_fields (first second : Comparison Float) (soundFirst : first.Sound)
    (soundSecond : second.Sound) (same : first.fields = second.fields) : first = second := by
  simp only [fields, List.cons.injEq, Natural.text_injective.eq_iff, UInt64.toNat_inj] at same
  obtain ⟨term, position, quadwords, cachelines, text, _⟩ := same
  have expected : first.expected = second.expected := by
    have read := float?_expectedText first soundFirst.finite
    rw [text, float?_expectedText second soundSecond.finite] at read
    exact (Option.some.inj read).symm
  have flag : first.wholeRows = second.wholeRows := by
    have point := point_mem_expectedText first soundFirst
    rw [text, point_mem_expectedText second soundSecond] at point
    simpa using point.symm
  cases first
  cases second
  simp_all

theorem eq_of_map_fields (first second : List (Comparison Float))
    (soundFirst : ∀ comparison ∈ first, comparison.Sound)
    (soundSecond : ∀ comparison ∈ second, comparison.Sound)
    (same : first.map fields = second.map fields) : first = second := by
  induction first generalizing second with
  | nil => exact (List.map_eq_nil_iff.mp same.symm).symm
  | cons comparison rest ih =>
      cases second with
      | nil => simp at same
      | cons other later =>
          obtain ⟨one, others⟩ := List.cons.inj same
          rw [List.forall_mem_cons] at soundFirst soundSecond
          rw [eq_of_fields comparison other soundFirst.1 soundSecond.1 one,
            ih later soundFirst.2 soundSecond.2 others]

theorem table_filled (comparisons : List (Comparison Float)) :
    ∀ fields ∈ table comparisons, fields ≠ [] := by
  intro row member
  rcases List.mem_cons.mp member with rfl | listed
  · exact List.cons_ne_nil _ _
  · obtain ⟨comparison, _, rfl⟩ := List.mem_map.mp listed
    exact List.cons_ne_nil _ _

theorem eq_of_tableText (first second : List (Comparison Float))
    (soundFirst : ∀ comparison ∈ first, comparison.Sound)
    (soundSecond : ∀ comparison ∈ second, comparison.Sound)
    (same : tableText first = tableText second) : first = second := by
  have chars := congrArg String.toList same
  simp only [tableText, Writer.toList_text] at chars
  have rows := Writer.tableChars_injective (table first) (table second) (table_filled first)
    (table_filled second) chars
  exact eq_of_map_fields first second soundFirst soundSecond (List.cons.inj rows).2

end Comparison

namespace Estimator

/-- A finite estimate of any treatment is a whole number if it counts rows read in full, and tables
of such estimates that are written with the same bytes are tables of the same comparisons. -/
theorem written_table_determines :
    (∀ (estimator : Estimator Float) (record : TermRecord) (position : Nat)
        (comparison : Comparison Float) (negative : Bool) (magnitude : Nat),
      estimator.estimate record position = .ok comparison →
        Double.ofFloat comparison.expected = .finite negative magnitude → comparison.Sound) ∧
    ∀ (first second : List (Comparison Float)) (room roomSecond : Nat) (sink sinkSecond : Sink),
      (∀ comparison ∈ first, comparison.Sound) → (∀ comparison ∈ second, comparison.Sound) →
      Comparison.writeTable (.ofCapacity room) first = (.ok (), sink) →
      Comparison.writeTable (.ofCapacity roomSecond) second = (.ok (), sinkSecond) →
      sink.bytes = sinkSecond.bytes → first = second := by
  constructor
  · intro estimator record position comparison negative magnitude estimated finite
    exact ⟨⟨negative, magnitude, finite⟩,
      estimator.isWhole_of_wholeRows record position comparison estimated⟩
  · intro first second room roomSecond sink sinkSecond sound soundSecond written writtenSecond same
    have bytes := Comparison.bytes_of_writeTable _ sink first written
    have bytesSecond := Comparison.bytes_of_writeTable _ sinkSecond second writtenSecond
    have texts : (Comparison.tableText first).toUTF8 = (Comparison.tableText second).toUTF8 := by
      simpa [bytes, bytesSecond, Sink.ofCapacity] using same
    have written := String.toByteArray_inj.mp texts
    exact Comparison.eq_of_tableText first second sound soundSecond written

def twoLines (expected : Float) : Comparison Float := ⟨"a\r\nb", 0, 3, 4, expected, false⟩

theorem written_table_determines_sum :
    ∃ sink sinkSecond,
      Comparison.writeTable (.ofCapacity 100) [twoLines (0.1 + 0.2)] = (.ok (), sink) ∧
      Comparison.writeTable (.ofCapacity 90) [twoLines 0.30000000000000004] =
        (.ok (), sinkSecond) ∧
      sink.bytes = sinkSecond.bytes ∧ twoLines (0.1 + 0.2) = twoLines 0.30000000000000004 := by
  have sound (expected : Float)
      (finite : Double.ofFloat expected = .finite false 4599075939470750516) :
      ∀ comparison ∈ [twoLines expected], comparison.Sound := by
    intro comparison member
    obtain rfl : comparison = twoLines expected := by simpa using member
    exact ⟨⟨false, _, finite⟩, by simp [twoLines]⟩
  have fits : (Comparison.writeTable (.ofCapacity 100) [twoLines (0.1 + 0.2)]).1.toBool = true := by
    decide +kernel
  have fitsSecond :
      (Comparison.writeTable (.ofCapacity 90) [twoLines 0.30000000000000004]).1.toBool = true := by
    decide +kernel
  have same : (Comparison.writeTable (.ofCapacity 100) [twoLines (0.1 + 0.2)]).2.bytes =
      (Comparison.writeTable (.ofCapacity 90) [twoLines 0.30000000000000004]).2.bytes := by
    decide +kernel
  rcases written : Comparison.writeTable (.ofCapacity 100) [twoLines (0.1 + 0.2)] with
    ⟨fault | done, sink⟩
  · simp [written, Except.toBool] at fits
  rcases writtenSecond : Comparison.writeTable (.ofCapacity 90) [twoLines 0.30000000000000004] with
    ⟨fault | done, sinkSecond⟩
  · simp [writtenSecond, Except.toBool] at fitsSecond
  rw [written, writtenSecond] at same
  have lists := written_table_determines.2 _ _ _ _ sink sinkSecond (sound _ (by decide +kernel))
    (sound _ (by decide +kernel)) written writtenSecond same
  exact ⟨sink, sinkSecond, rfl, rfl, same, List.singleton_inj.mp lists⟩

end Estimator

end RowScan
