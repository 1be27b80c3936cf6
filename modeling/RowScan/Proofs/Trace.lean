import Mathlib
import RowScan.Proofs.Table.Violations
import RowScan.Trace

/-!
A trace that loads holds its header and, in the rows behind it, one record each; any other fails
with the first of its violations.
-/

namespace RowScan

theorem Row.natural_eq_ok (row : Row) (input column field : String) (value : UInt64) :
    row.natural input column field = .ok value ↔
      Natural.read Natural.limit64 field = .ok value.toNat := by
  unfold natural
  cases found : Natural.read Natural.limit64 field with
  | error defect => simp
  | ok number =>
      have below : number < 2 ^ 64 := Natural.read_lt (by decide) found
      simp only [Except.ok.injEq]
      constructor
      · rintro rfl
        rw [UInt64.toNat_ofNat_of_lt' below]
      · rintro rfl
        exact UInt64.ofNat_toNat

theorem Row.place_of_natural {row : Row} {input column field : String} {violation : Violation}
    (refused : row.natural input column field = .error violation) :
    violation.place? = some (input, row.line) := by
  unfold natural at refused
  split at refused
  · simp at refused
  · obtain rfl := Except.error.inj refused
    rfl

namespace Trace

theorem recordOfRow_eq_ok (input : String) (row : Row) (record : TermRecord) :
    recordOfRow input row = .ok record ↔
      record.line = row.line ∧ ∃ rows matched quadwords cachelines,
        row.fields = [record.term, rows, matched, quadwords, cachelines, record.timings.parse,
          record.timings.plan, record.timings.matching] ∧
        Natural.read Natural.limit64 rows = .ok record.rows.toNat ∧
        Natural.read Natural.limit64 matched = .ok record.matched.toNat ∧
        Natural.read Natural.limit64 quadwords = .ok record.quadwords.toNat ∧
        Natural.read Natural.limit64 cachelines = .ok record.cachelines.toNat := by
  constructor
  · intro decoded
    unfold recordOfRow at decoded
    split at decoded
    · rename_i shape
      simp only [bind_eq_ok, Row.natural_eq_ok] at decoded
      obtain ⟨_, rows, _, matched, _, quadwords, _, cachelines, same⟩ := decoded
      obtain rfl : _ = record := by simpa [pure, Except.pure] using same
      exact ⟨rfl, _, _, _, _, shape, rows, matched, quadwords, cachelines⟩
    · simp at decoded
  · rintro ⟨line, _, _, _, _, shape, rows, matched, quadwords, cachelines⟩
    simp only [recordOfRow, shape, bind_eq_ok, Row.natural_eq_ok]
    exact ⟨_, rows, _, matched, _, quadwords, _, cachelines, by simp [pure, Except.pure, ← line]⟩

theorem load_eq_ok (input : String) (bytes : ByteArray) (records : List TermRecord)
    (loaded : (load input bytes).2 = .ok records) :
    ∃ (line : Nat) (rows : List Row),
      (Reader.ofBytes input bytes).answers = .ok ⟨line, columns⟩ :: rows.map .ok ∧
      rows.map (recordOfRow input) = records.map .ok := by
  unfold load openTable at loaded
  rcases passed : (Reader.ofBytes input bytes).header columns with ⟨violation | done, reader⟩
  · simp [passed] at loaded
  · obtain ⟨named, line, whole⟩ := Reader.answers_of_header _ reader columns (by decide) passed
    have sameInput : reader.input = input := named
    simp only [passed, readAll] at loaded
    cases read : (answers reader).mapM id with
    | error violation => simp [read] at loaded
    | ok found =>
        obtain rfl : found = records := by simpa [read] using loaded
        rw [mapM_eq_ok, List.map_id, answers, map_bind_eq_ok, sameInput] at read
        obtain ⟨rows, answered, decoded⟩ := read
        exact ⟨line, rows, by rw [whole, answered], decoded⟩

theorem load_eq_readAll (input : String) (bytes : ByteArray) (trace : Reader)
    (opened : openTable input bytes = .ok trace) : load input bytes = readAll trace := by
  rw [load, opened]

theorem openTable_of_answers (input : String) (bytes : ByteArray) (line : Nat)
    (later : List (Except Violation Row))
    (answered : (Reader.ofBytes input bytes).answers = .ok ⟨line, columns⟩ :: later) :
    ∃ reader, openTable input bytes = .ok reader ∧ reader.input = input ∧
      reader.answers = later := by
  obtain ⟨rest, passed, named, others⟩ := Reader.header_of_answers _ columns line _ answered
  refine ⟨rest, ?_, named, others⟩
  rw [openTable, passed]

theorem readAll_of_answers (reader : Reader) (rows : List Row) (records : List TermRecord)
    (answered : reader.answers = rows.map .ok)
    (decoded : rows.map (recordOfRow reader.input) = records.map .ok) :
    (readAll reader).2 = .ok records := by
  have read : (answers reader).mapM id = .ok records := by
    rw [mapM_eq_ok, List.map_id, answers, map_bind_eq_ok]
    exact ⟨rows, answered, decoded⟩
  rw [readAll, read]

theorem place_of_recordOfRow (input : String) (row : Row) (violation : Violation)
    (refused : recordOfRow input row = .error violation) :
    violation.place? = some (input, row.line) := by
  unfold recordOfRow at refused
  split at refused
  · simp only [bind_eq_error] at refused
    rcases refused with
      rows | ⟨_, _, matched | ⟨_, _, quadwords | ⟨_, _, cachelines | ⟨_, _, same⟩⟩⟩⟩
    · exact Row.place_of_natural rows
    · exact Row.place_of_natural matched
    · exact Row.place_of_natural quadwords
    · exact Row.place_of_natural cachelines
    · simp [pure, Except.pure] at same
  · obtain rfl := Except.error.inj refused
    rfl

theorem fault?_readAll (reader : Reader) :
    fault? (readAll reader).2 =
      (reader.answers.filterMap fun answer =>
        fault? (answer.bind (recordOfRow reader.input))).head? := by
  have read := fault?_mapM id (answers reader)
  rw [answers, List.filterMap_map] at read
  rw [readAll, answers]
  cases found : (reader.answers.map fun answer =>
    answer.bind (recordOfRow reader.input)).mapM id <;> rwa [found] at read

theorem fault?_load (input : String) (bytes : ByteArray) :
    fault? (load input bytes).2 =
      (Table.violations input columns (recordOfRow input) (linesOf bytes)).head? := by
  have header := Table.head?_violations_header input columns (recordOfRow input) bytes (by decide)
  unfold load openTable
  rcases passed : (Reader.ofBytes input bytes).header columns with ⟨violation | done, reader⟩
  · rw [passed] at header
    exact header.symm
  · rw [passed] at header
    obtain ⟨rfl, first⟩ := header
    rw [first, ← fault?_readAll]

end Trace

end RowScan
