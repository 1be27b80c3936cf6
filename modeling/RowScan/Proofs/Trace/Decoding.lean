import Mathlib
import RowScan.Proofs.Number.Natural
import RowScan.Proofs.Table.Calls
import RowScan.Proofs.Trace

/-!
Each row of a trace is decoded on its own. Whatever the rows before it were, a row gives its record
or is refused for its number of fields or for the first of its counts that is none, and reading all
records gives them in turn or the first refusal.
-/

namespace RowScan

def Natural.IsWord (text : String) : Prop := ∃ number < limit64, Spells text number

theorem Row.natural_eq_spelled (row : Row) (input column field : String) (value : UInt64) :
    row.natural input column field = .ok value ↔ Natural.Spells field value.toNat := by
  rw [Row.natural_eq_ok, Natural.read_eq_ok _ _ _ (by decide)]
  exact and_iff_left value.toNat_lt

theorem Row.exists_natural (row : Row) (input column : String) {field : String}
    (word : Natural.IsWord field) : ∃ value, row.natural input column field = .ok value := by
  obtain ⟨number, below, spelled⟩ := word
  refine ⟨UInt64.ofNat number, (row.natural_eq_spelled input column field _).mpr ?_⟩
  rwa [UInt64.toNat_ofNat_of_lt' below]

theorem Row.natural_refused (row : Row) (input column : String) {field : String}
    (other : ¬ Natural.IsWord field) :
    row.natural input column field = .error (.record input row.line (.notNatural column field)) := by
  unfold natural
  split
  · rename_i number found
    exact absurd ((Natural.exists_read _ field (by decide)).mp ⟨number, found⟩) other
  · rfl

namespace Trace

/-- What a row of a trace decodes to. The counts stand in the columns 1 to 4. -/
inductive Decodes (input : String) (row : Row) : Except Violation TermRecord → Prop where
  | record {term rows matched quadwords cachelines parse plan matching : String}
      {rowCount matchedCount quadwordCount cachelineCount : UInt64}
      (shape : row.fields = [term, rows, matched, quadwords, cachelines, parse, plan, matching])
      (rowsSpelled : Natural.Spells rows rowCount.toNat)
      (matchedSpelled : Natural.Spells matched matchedCount.toNat)
      (quadwordsSpelled : Natural.Spells quadwords quadwordCount.toNat)
      (cachelinesSpelled : Natural.Spells cachelines cachelineCount.toNat) :
      Decodes input row (.ok {
        line := row.line
        term := term
        rows := rowCount
        matched := matchedCount
        quadwords := quadwordCount
        cachelines := cachelineCount
        timings := ⟨parse, plan, matching⟩ })
  | arity (other : row.fields.length ≠ columns.length) :
      Decodes input row
        (.error (.record input row.line (.arity columns.length row.fields.length)))
  | column {index : Nat} {name text : String} (shape : row.fields.length = columns.length)
      (counted : 1 ≤ index ∧ index ≤ 4) (named : columns[index]? = some name)
      (shown : row.fields[index]? = some text) (refused : ¬ Natural.IsWord text)
      (leftmost : ∀ earlier, 1 ≤ earlier → earlier < index →
        ∀ other, row.fields[earlier]? = some other → Natural.IsWord other) :
      Decodes input row (.error (.record input row.line (.notNatural name text)))

theorem exists_fields {row : Row} (shape : row.fields.length = columns.length) :
    ∃ term rows matched quadwords cachelines parse plan matching,
      row.fields = [term, rows, matched, quadwords, cachelines, parse, plan, matching] := by
  rcases fields : row.fields with _ | ⟨term, _ | ⟨rows, _ | ⟨matched, _ | ⟨quadwords,
    _ | ⟨cachelines, _ | ⟨parse, _ | ⟨plan, _ | ⟨matching, rest⟩⟩⟩⟩⟩⟩⟩⟩
  all_goals simp_all [columns]

theorem recordOfRow_of_arity (input : String) (row : Row)
    (other : row.fields.length ≠ columns.length) :
    recordOfRow input row =
      .error (.record input row.line (.arity columns.length row.fields.length)) := by
  unfold recordOfRow
  split
  · rename_i shape
    rw [shape] at other
    exact absurd rfl other
  · rfl

def countFields (row : Row) : List (String × String) := ((columns.zip row.fields).drop 1).take 4

theorem getElem?_countFields (row : Row) (index : Nat) (name text : String) :
    (countFields row)[index]? = some (name, text) ↔
      index < 4 ∧ columns[index + 1]? = some name ∧ row.fields[index + 1]? = some text := by
  rw [countFields, List.getElem?_take, List.getElem?_drop, Nat.add_comm 1]
  split
  · rename_i below
    rw [List.getElem?_zip_eq_some]
    simp [below]
  · rename_i beyond
    simp [beyond]

/-- The counts are read from the left, and the first refusal is that of the row. -/
theorem recordOfRow_of_refused (input : String) (row : Row) (violation : Violation)
    (shape : row.fields.length = columns.length)
    (refused : (countFields row).mapM (fun (name, text) => row.natural input name text) =
      .error violation) : recordOfRow input row = .error violation := by
  obtain ⟨term, rows, matched, quadwords, cachelines, parse, plan, matching, fields⟩ :=
    exists_fields shape
  have counts : countFields row = [("rows", rows), ("matches", matched),
      ("quadwords", quadwords), ("cachelines", cachelines)] := by
    rw [countFields, fields]
    rfl
  simp only [counts, List.mapM_cons, List.mapM_nil, bind_eq_error] at refused
  simp only [recordOfRow, fields, bind_eq_error]
  simpa [pure, Except.pure] using refused

theorem Decodes.recordOfRow_eq {input : String} {row : Row}
    {decoded : Except Violation TermRecord} (decodes : Decodes input row decoded) :
    recordOfRow input row = decoded := by
  cases decodes with
  | record shape rowsSpelled matchedSpelled quadwordsSpelled cachelinesSpelled =>
      simp only [recordOfRow, shape, bind_eq_ok, Row.natural_eq_spelled]
      exact ⟨_, rowsSpelled, _, matchedSpelled, _, quadwordsSpelled, _, cachelinesSpelled, rfl⟩
  | arity other => exact recordOfRow_of_arity input row other
  | @column index name text shape counted named shown refused leftmost =>
      obtain ⟨lower, upper⟩ := counted
      obtain ⟨before, rfl⟩ := Nat.exists_eq_add_of_le' lower
      have found : (countFields row)[before]? = some (name, text) :=
        (getElem?_countFields row before name text).mpr ⟨by omega, named, shown⟩
      apply recordOfRow_of_refused input row _ shape
      refine mapM_eq_error found (row.natural_refused input name refused) ?_
      rintro earlier less ⟨otherName, other⟩ listed
      obtain ⟨_, _, otherShown⟩ := (getElem?_countFields row earlier otherName other).mp listed
      exact row.exists_natural input otherName
        (leftmost (earlier + 1) (by omega) (by omega) other otherShown)

theorem exists_decodes (input : String) (row : Row) : ∃ decoded, Decodes input row decoded := by
  classical
  by_cases shape : row.fields.length = columns.length
  · by_cases refused : ∃ index, (1 ≤ index ∧ index ≤ 4) ∧
        ∃ text, row.fields[index]? = some text ∧ ¬ Natural.IsWord text
    · -- The least index at which a count is refused: every count to its left is one.
      obtain ⟨counted, text, shown, other⟩ := Nat.find_spec refused
      have named : Nat.find refused < columns.length := by
        rw [← shape]
        exact (List.getElem?_eq_some_iff.mp shown).1
      refine ⟨_, .column shape counted (List.getElem?_eq_getElem named) shown other ?_⟩
      intro earlier lower before next nextShown
      by_contra notWord
      exact Nat.find_min refused before
        ⟨⟨lower, before.le.trans counted.2⟩, next, nextShown, notWord⟩
    · obtain ⟨term, rows, matched, quadwords, cachelines, parse, plan, matching, fields⟩ :=
        exists_fields shape
      have spelled (index : Nat) (text : String) (counted : 1 ≤ index ∧ index ≤ 4)
          (shown : row.fields[index]? = some text) :
          ∃ value : UInt64, Natural.Spells text value.toNat := by
        have word : Natural.IsWord text :=
          by_contra fun other => refused ⟨index, counted, text, shown, other⟩
        obtain ⟨number, below, spells⟩ := word
        exact ⟨UInt64.ofNat number, by rwa [UInt64.toNat_ofNat_of_lt' below]⟩
      obtain ⟨_, rowsSpelled⟩ := spelled 1 rows (by omega) (by rw [fields]; rfl)
      obtain ⟨_, matchedSpelled⟩ := spelled 2 matched (by omega) (by rw [fields]; rfl)
      obtain ⟨_, quadwordsSpelled⟩ := spelled 3 quadwords (by omega) (by rw [fields]; rfl)
      obtain ⟨_, cachelinesSpelled⟩ := spelled 4 cachelines (by omega) (by rw [fields]; rfl)
      exact ⟨_, .record fields rowsSpelled matchedSpelled quadwordsSpelled cachelinesSpelled⟩
  · exact ⟨_, .arity shape⟩

theorem decodes_iff (input : String) (row : Row) (decoded : Except Violation TermRecord) :
    Decodes input row decoded ↔ recordOfRow input row = decoded := by
  refine ⟨Decodes.recordOfRow_eq, ?_⟩
  rintro rfl
  obtain ⟨decoded, decodes⟩ := exists_decodes input row
  rwa [decodes.recordOfRow_eq]

/-! A row decoded by the indices of its fields. -/

/-- The count in the field at an index. The outer failure is a field that the row does not have. -/
def countAt (input : String) (row : Row) (index : Nat) (column : String) :
    ExceptT Violation (Except MissingField) UInt64 := do
  let text ← ExceptT.lift (row.field index)
  ExceptT.mk (.ok (row.natural input column text))

/-- A row decoded by indices: the number of its fields first, then the counts, and of the other
fields the first and those behind the counts. -/
def recordByIndex (input : String) (row : Row) :
    ExceptT Violation (Except MissingField) TermRecord := do
  ExceptT.mk (.ok (row.expectArity input columns.length))
  let rows ← countAt input row 1 "rows"
  let matched ← countAt input row 2 "matches"
  let quadwords ← countAt input row 3 "quadwords"
  let cachelines ← countAt input row 4 "cachelines"
  let term := row.fields.head?.getD ""
  let timings := row.fields.tail.drop 4
  return {
    line := row.line
    term := term
    rows := rows
    matched := matched
    quadwords := quadwords
    cachelines := cachelines
    timings := ⟨timings[0]?.getD "", timings[1]?.getD "", timings[2]?.getD ""⟩ }

theorem run_countAt (input : String) (row : Row) (index : Nat) (column text : String)
    (shown : row.fields[index]? = some text) :
    (countAt input row index column).run = .ok (row.natural input column text) := by
  simp only [countAt, Row.field, shown]
  rfl

/-- No index is out of the range of the row: every row decodes as it does by its shape. -/
theorem run_recordByIndex (input : String) (row : Row) :
    (recordByIndex input row).run = .ok (recordOfRow input row) := by
  by_cases shape : row.fields.length = columns.length
  · obtain ⟨term, rows, matched, quadwords, cachelines, parse, plan, matching, fields⟩ :=
      exists_fields shape
    have accepted : row.expectArity input columns.length = .ok () := if_pos shape
    have rowsRead := run_countAt input row 1 "rows" rows (by rw [fields]; rfl)
    have matchedRead := run_countAt input row 2 "matches" matched (by rw [fields]; rfl)
    have quadwordsRead := run_countAt input row 3 "quadwords" quadwords (by rw [fields]; rfl)
    have cachelinesRead := run_countAt input row 4 "cachelines" cachelines (by rw [fields]; rfl)
    simp only [recordByIndex, accepted, recordOfRow, fields, ExceptT.run_bind, ExceptT.run_mk,
      rowsRead, matchedRead, quadwordsRead, cachelinesRead]
    -- Both now read the same four texts in the same order, and stop at the same refusal.
    cases row.natural input "rows" rows with
    | error violation => rfl
    | ok rowCount =>
    cases row.natural input "matches" matched with
    | error violation => rfl
    | ok matchedCount =>
    cases row.natural input "quadwords" quadwords with
    | error violation => rfl
    | ok quadwordCount =>
    cases row.natural input "cachelines" cachelines with
    | error violation => rfl
    | ok cachelineCount => rfl
  · have refused : row.expectArity input columns.length =
        .error (.record input row.line (.arity columns.length row.fields.length)) := if_neg shape
    rw [recordOfRow_of_arity input row shape, recordByIndex, refused]
    rfl

/-! Records one after the other. -/

def after (trace : Reader) (count : Nat) : Reader := (fun reader => (next reader).2)^[count] trace

def call (trace : Reader) (index : Nat) : Except Violation (Option TermRecord) :=
  (next (after trace index)).1

theorem next_reader (reader : Reader) : (next reader).2 = reader.next.2 := by
  unfold next
  rcases reader.next with ⟨violation | _ | row, rest⟩ <;> rfl

theorem after_eq (trace : Reader) (count : Nat) : after trace count = trace.after count := by
  rw [after, Reader.after, funext next_reader]

theorem call_eq (trace : Reader) (index : Nat) :
    call trace index = match trace.call index with
      | .error violation => .error violation
      | .ok none => .ok none
      | .ok (some row) => (recordOfRow trace.input row).map some := by
  rw [call, after_eq, next, Reader.call, Reader.input_after]
  rcases (trace.after index).next with ⟨violation | _ | row, rest⟩ <;> rfl

theorem call_eq_inTurn (trace : Reader) (index : Nat) :
    call trace index = inTurn (answers trace) index := by
  rw [call_eq, Reader.call_eq_inTurn, inTurn, inTurn, answers, List.getElem?_map]
  rcases trace.answers[index]? with _ | violation | row <;> rfl

theorem readAll_eq_ok_iff (trace : Reader) (records : List TermRecord) :
    (readAll trace).2 = .ok records ↔ ∀ index, call trace index = .ok records[index]? := by
  simp only [call_eq_inTurn, inTurn_eq_ok_iff]
  have whole := mapM_eq_ok id (answers trace) records
  rw [List.map_id] at whole
  rw [← whole, readAll]
  cases (answers trace).mapM id <;> simp

theorem readAll_eq_error_iff (trace : Reader) (violation : Violation) :
    (readAll trace).2 = .error violation ↔ ∃ index, call trace index = .error violation ∧
      ∀ earlier < index, ∃ record, call trace earlier = .ok (some record) := by
  simp only [call_eq_inTurn, ← mapM_id_eq_error_iff]
  rw [readAll]
  cases (answers trace).mapM id <;> simp

/-- In a trace with its header, what a call for a record answers is decided by the row that the call
of the same number behind the header finds. Each row decodes to one thing only, looking its fields
up by index finds them all, and reading all records answers them in turn or the first violation. -/
theorem rows_decoded_alone (input : String) (bytes : ByteArray) (header : Row)
    (first : (Reader.ofBytes input bytes).call 0 = .ok (some header))
    (named : header.fields = columns) :
    ∃ trace, openTable input bytes = .ok trace ∧
      (∀ index, match (Reader.ofBytes input bytes).call (index + 1) with
        | .error violation => call trace index = .error violation
        | .ok none => call trace index = .ok none
        | .ok (some row) => ∃ decoded, Decodes input row decoded ∧
            (recordByIndex input row).run = .ok decoded ∧
            call trace index = decoded.map some) ∧
      (∀ row, ∃! decoded, Decodes input row decoded) ∧
      (∀ records, (readAll trace).2 = .ok records ↔
        ∀ index, call trace index = .ok records[index]?) ∧
      ∀ violation, (readAll trace).2 = .error violation ↔
        ∃ index, call trace index = .error violation ∧
          ∀ earlier < index, ∃ record, call trace earlier = .ok (some record) := by
  obtain ⟨line, fields⟩ := header
  obtain rfl : fields = columns := named
  rw [Reader.call_eq_inTurn, inTurn_eq_some, ← List.head?_eq_getElem?,
    List.head?_eq_some_iff] at first
  obtain ⟨later, answered⟩ := first
  obtain ⟨trace, opened, rfl, others⟩ := openTable_of_answers input bytes _ later answered
  refine ⟨trace, opened, ?_, ?_, readAll_eq_ok_iff trace, readAll_eq_error_iff trace⟩
  · intro index
    have behind : (Reader.ofBytes trace.input bytes).call (index + 1) = trace.call index := by
      rw [Reader.call_eq_inTurn, Reader.call_eq_inTurn, answered, others]
      rfl
    have decoded := call_eq trace index
    rw [behind]
    rcases found : trace.call index with violation | _ | row <;> rw [found] at decoded
    · exact decoded
    · exact decoded
    · exact ⟨recordOfRow trace.input row, (decodes_iff _ _ _).mpr rfl,
        run_recordByIndex trace.input row, decoded⟩
  · intro row
    refine ⟨recordOfRow trace.input row, (decodes_iff _ _ _).mpr rfl, ?_⟩
    intro other decodes
    exact ((decodes_iff _ _ _).mp decodes).symm

def unevenTrace : ByteArray :=
  ("query,rows,matches,quadwords,cachelines,parse,plan,match\ndog,3,1,2,30,a,b,c\n" ++
    "\"x\ny\",1\ncat,7,many,0,-1,,,\nbird,1,0,0,+5,,\"p,q\",\n").toUTF8

theorem rows_decoded_alone_uneven :
    (Reader.ofBytes "t" unevenTrace).call 0 = .ok (some ⟨1, columns⟩) ∧
      ∃ trace, openTable "t" unevenTrace = .ok trace ∧
        call trace 1 = .error (.record "t" 3 (.arity 8 2)) ∧
        call trace 2 = .error (.record "t" 5 (.notNatural "matches" "many")) ∧
        call trace 3 = .ok (some ⟨6, "bird", 1, 0, 0, 5, ⟨"", "p,q", ""⟩⟩) ∧
        (readAll trace).2 = .error (.record "t" 3 (.arity 8 2)) := by
  have rows (index : Nat) (row : Row)
      (found : ((Reader.ofBytes "t" unevenTrace).call index).toOption = some (some row)) :
      (Reader.ofBytes "t" unevenTrace).call index = .ok (some row) := (toOption_eq_some _ _).mp found
  have header := rows 0 ⟨1, columns⟩ (by decide +kernel)
  obtain ⟨trace, opened, calls, unique, _, failures⟩ :=
    rows_decoded_alone "t" unevenTrace ⟨1, columns⟩ header rfl
  have decoded (index : Nat) (row : Row) {value : Except Violation TermRecord}
      (found : ((Reader.ofBytes "t" unevenTrace).call (index + 1)).toOption = some (some row))
      (decodes : Decodes "t" row value) : call trace index = value.map some := by
    have here := calls index
    rw [rows (index + 1) row found] at here
    obtain ⟨other, otherDecodes, _, answered⟩ := here
    rwa [(unique row).unique decodes otherDecodes]
  have first := decoded 0 ⟨2, ["dog", "3", "1", "2", "30", "a", "b", "c"]⟩ (by decide +kernel)
    ((decodes_iff _ _ (.ok ⟨2, "dog", 3, 1, 2, 30, ⟨"a", "b", "c"⟩⟩)).mpr rfl)
  have second := decoded 1 ⟨3, ["x\ny", "1"]⟩ (by decide +kernel) (.arity (by decide))
  have third := decoded 2 ⟨5, ["cat", "7", "many", "0", "-1", "", "", ""]⟩ (by decide +kernel)
    ((decodes_iff _ _ (.error (.record "t" 5 (.notNatural "matches" "many")))).mpr rfl)
  have fourth := decoded 3 ⟨6, ["bird", "1", "0", "0", "+5", "", "p,q", ""]⟩ (by decide +kernel)
    ((decodes_iff _ _ (.ok ⟨6, "bird", 1, 0, 0, 5, ⟨"", "p,q", ""⟩⟩)).mpr rfl)
  refine ⟨header, trace, opened, second, third, fourth, (failures _).mpr ⟨1, second, ?_⟩⟩
  intro earlier before
  obtain rfl : earlier = 0 := by omega
  exact ⟨_, first⟩

end Trace

end RowScan
