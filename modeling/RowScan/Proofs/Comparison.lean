import Mathlib
import RowScan.Proofs.Estimator
import RowScan.Proofs.Table.Written
import RowScan.Proofs.Trace

/-!
The table of comparisons, read back. It has one row for each record of the trace, and the row shows
the term of its record, less the CR of every CR LF in the term.
-/

namespace RowScan

theorem Trace.pair_of_term (input text : String) (records : List TermRecord)
    (loaded : (load input text.toUTF8).2 = .ok records) (record : TermRecord)
    (member : record ∈ records) (pair : ['\r', '\n'] <:+: record.term.toList) :
    ['\r', '\r', '\n'] <:+: text.toList := by
  obtain ⟨line, rows, answered, decoded⟩ := load_eq_ok input text.toUTF8 records loaded
  have listed : Except.ok record ∈ rows.map (recordOfRow input) := by
    rw [decoded]
    exact List.mem_map_of_mem member
  obtain ⟨row, inside, same⟩ := List.mem_map.mp listed
  obtain ⟨_, _, _, _, _, shape, _⟩ := (recordOfRow_eq_ok input row record).mp same
  refine Reader.triple_of_answers input text row record.term ?_ (by simp [shape]) pair
  rw [answered]
  exact List.mem_cons_of_mem _ (List.mem_map_of_mem inside)

namespace Comparison

theorem answers_tableText (input : String) (comparisons : List (Comparison Float)) :
    (Reader.ofBytes input (tableText comparisons).toUTF8).answers =
      .ok ⟨1, columns⟩ :: (Writer.bodyRows columns (comparisons.map fields)).map .ok :=
  Reader.answers_written input columns (comparisons.map fields) (by simp [columns])
    (by simp [fields, Writer.isBlank, columns])

theorem head_bodyRows (comparisons : List (Comparison Float)) (position : Nat) (row : Row)
    (found : (Writer.bodyRows columns (comparisons.map fields))[position]? = some row) :
    ∃ comparison, comparisons[position]? = some comparison ∧
      row.fields.head? = some (Writer.unified comparison.term) := by
  rw [Writer.getElem?_bodyRows, List.getElem?_map, Option.map_map] at found
  obtain ⟨comparison, listed, rfl⟩ := Option.map_eq_some_iff.mp found
  exact ⟨comparison, listed, rfl⟩

end Comparison

namespace Estimator

/-- The table of comparisons reads back as one row for each record of the trace. The row shows the
term of its record exactly when the term holds no CR LF, and it does so for every record of a trace
without CR CR LF. -/
theorem term_survives_iff (estimator : Estimator Float) (workers : Bool)
    (traceInput outputInput text : String) (trace : Reader) (comparisons : List (Comparison Float))
    (opened : Trace.openTable traceInput text.toUTF8 = .ok trace)
    (estimated : (estimator.runTrace workers trace).2 = .ok comparisons) :
    ∃ (records : List TermRecord) (rows : List Row),
      (Trace.readAll trace).2 = .ok records ∧
      (Reader.ofBytes outputInput (Comparison.tableText comparisons).toUTF8).answers =
        .ok ⟨1, Comparison.columns⟩ :: rows.map .ok ∧
      rows.length = records.length ∧
      ∀ (position : Nat) (record : TermRecord) (row : Row),
        records[position]? = some record → rows[position]? = some row →
          row.fields.head? = some (Writer.unified record.term) ∧
          (row.fields.head? = some record.term ↔ ¬ ['\r', '\n'] <:+: record.term.toList) ∧
          (¬ ['\r', '\r', '\n'] <:+: text.toList → row.fields.head? = some record.term) := by
  rw [result_runTrace, bind_eq_ok] at estimated
  obtain ⟨records, read, estimated⟩ := estimated
  have loaded : (Trace.load traceInput text.toUTF8).2 = .ok records := by
    rw [Trace.load_eq_readAll _ _ trace opened, read]
  refine ⟨records, _, read, Comparison.answers_tableText outputInput comparisons, ?_, ?_⟩
  · rw [Writer.length_bodyRows, List.length_map,
      length_of_run estimator workers records _ estimated]
  · intro position record row listed found
    obtain ⟨comparison, compared, shown⟩ := Comparison.head_bodyRows comparisons position row found
    obtain ⟨other, here, same⟩ :=
      estimator.term_of_run workers records comparisons estimated position comparison compared
    obtain rfl : other = record := Option.some.inj (here.symm.trans listed)
    have survives :
        row.fields.head? = some other.term ↔ ¬ ['\r', '\n'] <:+: other.term.toList := by
      rw [shown, same, Option.some.injEq, Writer.unified_eq_self_iff]
    refine ⟨by rw [shown, same], survives, fun plain => survives.mpr fun pair => plain ?_⟩
    exact Trace.pair_of_term traceInput text records loaded other (List.mem_of_getElem? listed) pair

def returnTrace : String :=
  "query,rows,matches,quadwords,cachelines,parse,plan,match\n\"a\r\r\nb\",2,0,0,0,,,\n"

theorem runTrace_returnTrace :
    ∃ trace comparisons, Trace.openTable "t" returnTrace.toUTF8 = .ok trace ∧
      (plainEstimator.runTrace true trace).2 = .ok comparisons ∧
      comparisons.map Comparison.fields = [["a\r\nb", "0", "0", "0", "60"]] := by
  have evaluated : ((Trace.openTable "t" returnTrace.toUTF8).toOption.bind fun trace =>
      (plainEstimator.runTrace true trace).2.toOption.map (List.map Comparison.fields)) =
        some [["a\r\nb", "0", "0", "0", "60"]] := by decide +kernel
  simp only [Option.bind_eq_some_iff, Option.map_eq_some_iff, toOption_eq_some] at evaluated
  obtain ⟨trace, opened, comparisons, estimated, same⟩ := evaluated
  exact ⟨trace, comparisons, opened, estimated, same⟩

theorem term_survives_iff_return :
    ∃ (trace : Reader) (comparisons : List (Comparison Float)) (records : List TermRecord)
        (rows : List Row),
      Trace.openTable "t" returnTrace.toUTF8 = .ok trace ∧
      (plainEstimator.runTrace true trace).2 = .ok comparisons ∧
      (Trace.readAll trace).2 = .ok records ∧
      (Reader.ofBytes "o" (Comparison.tableText comparisons).toUTF8).answers =
        .ok ⟨1, Comparison.columns⟩ :: rows.map .ok ∧
      rows.length = records.length ∧
      ∀ (position : Nat) (record : TermRecord) (row : Row),
        records[position]? = some record → rows[position]? = some row →
          (row.fields.head? = some record.term ↔ ¬ ['\r', '\n'] <:+: record.term.toList) := by
  obtain ⟨trace, comparisons, opened, estimated, _⟩ := runTrace_returnTrace
  obtain ⟨records, rows, read, answered, sized, shown⟩ :=
    term_survives_iff plainEstimator true "t" "o" returnTrace trace comparisons opened estimated
  exact ⟨trace, comparisons, records, rows, opened, estimated, read, answered, sized,
    fun position record row listed found => (shown position record row listed found).2.1⟩

theorem term_changed_by_return :
    ∃ (trace : Reader) (comparisons : List (Comparison Float)) (records : List TermRecord)
        (rows : List Row),
      Trace.openTable "t" returnTrace.toUTF8 = .ok trace ∧
      (plainEstimator.runTrace true trace).2 = .ok comparisons ∧
      (Trace.readAll trace).2 = .ok records ∧
      (Reader.ofBytes "o" (Comparison.tableText comparisons).toUTF8).answers =
        .ok ⟨1, Comparison.columns⟩ :: rows.map .ok ∧
      records.map TermRecord.term = ["a\r\nb"] ∧
      rows.map (fun row => row.fields.head?) = [some "a\nb"] := by
  obtain ⟨trace, comparisons, opened, estimated, shown⟩ := runTrace_returnTrace
  have read := estimated
  rw [result_runTrace, bind_eq_ok] at read
  obtain ⟨records, read, _⟩ := read
  have terms : (Trace.load "t" returnTrace.toUTF8).2.toOption.map (List.map TermRecord.term) =
      some ["a\r\nb"] := by decide +kernel
  rw [Trace.load_eq_readAll _ _ trace opened, read] at terms
  refine ⟨trace, comparisons, records, _, opened, estimated, read,
    Comparison.answers_tableText "o" comparisons, Option.some.inj terms, ?_⟩
  rw [shown]
  decide

end Estimator

end RowScan
