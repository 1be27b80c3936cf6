import Mathlib
import RowScan.Frequencies
import RowScan.Proofs.Table.Progress
import RowScan.Trace

/-!
Reading an input ends. The loops over the rows of a table read one row in each round and stop at the
first that cannot be read or used, so they have at most one round more than there are lines.
-/

namespace RowScan

namespace Reader

variable {σ : Type} (add : σ → Row → Except Violation σ)

def rowRound (state : σ × Reader) : (σ × Except Violation Unit) ⊕ (σ × Reader) :=
  match state.2.next with
  | (.error violation, _) => .inl (state.1, .error violation)
  | (.ok none, _) => .inl (state.1, .ok ())
  | (.ok (some row), rest) =>
    match add state.1 row with
    | .error violation => .inl (state.1, .error violation)
    | .ok added => .inr (added, rest)

/-- Rows added up to the first that cannot be read or added, and what is wrong with that one. -/
def addAll : σ → List (Except Violation Row) → σ × Except Violation Unit
  | state, [] => (state, .ok ())
  | state, .error violation :: _ => (state, .error violation)
  | state, .ok row :: rest =>
    match add state row with
    | .error violation => (state, .error violation)
    | .ok added => addAll added rest

theorem rowRound_outcome (state : σ × Reader) :
    (rowRound add state).elim id (fun state => addAll add state.1 state.2.answers) =
      addAll add state.1 state.2.answers := by
  rw [answers_eq, rowRound]
  rcases state.2.next with ⟨violation | _ | row, rest⟩
  · rfl
  · rfl
  · cases added : add state.1 row <;> simp [addAll, added]

theorem lines_of_rowRound {state later : σ × Reader} (passed : rowRound add state = .inr later) :
    later.2.lines.length < state.2.lines.length := by
  have shorter := length_next_lt state.2
  rw [rowRound] at passed
  rcases found : state.2.next with ⟨violation | _ | row, rest⟩ <;>
    simp only [found] at passed shorter
  · simp at passed
  · simp at passed
  · cases added : add state.1 row with
    | error violation => simp [added] at passed
    | ok next =>
        simp only [added, Sum.inr.injEq] at passed
        subst passed
        exact shorter (by simp)

theorem rows_endAfter (state : σ) (reader : Reader) :
    ∃ rounds ≤ reader.lines.length + 1,
      EndsAfter (rowRound add) (state, reader) rounds (addAll add state reader.answers) :=
  exists_endsAfter (fun state => state.2.lines.length)
    (fun state => addAll add state.1 state.2.answers) (fun _ _ => lines_of_rowRound add)
    (rowRound_outcome add) (state, reader)

theorem lines_of_header {reader rest : Reader} {expected : List String} (named : expected ≠ [])
    (passed : reader.header expected = (.ok (), rest)) :
    rest.lines.length < reader.lines.length := by
  have shorter := length_next_lt reader
  unfold header at passed
  rcases found : reader.next with ⟨violation | _ | row, behind⟩ <;>
    simp only [found] at passed shorter
  · simp at passed
  · simp [named.symm] at passed
  · split at passed
    · obtain rfl : behind = rest := by simpa using passed
      exact shorter (by simp)
    · simp at passed

theorem rows_endAfter_header (state : σ) {reader rest : Reader} {expected : List String}
    (named : expected ≠ []) (passed : reader.header expected = (.ok (), rest)) (count : Nat) :
    ∃ rounds ≤ reader.lines.length, EndsAfter (rowRound add) (state, rest.after count) rounds
      (addAll add state (rest.after count).answers) := by
  have left := (lines_after rest count).2.length_le
  have fewer := lines_of_header named passed
  obtain ⟨rounds, few, ends⟩ := rows_endAfter add state (rest.after count)
  exact ⟨rounds, by omega, ends⟩

end Reader

namespace Frequencies

def addRow (input : String) (state : Frequencies Float × Array Event) (row : Row) :
    Except Violation (Frequencies Float × Array Event) :=
  (entryOfRow input row).map fun entry =>
    (state.1.insert entry,
      if state.1.contains entry.term then state.2.push (.duplicateTerm entry.term row.line)
      else state.2)

theorem addRows_eq_addAll (input : String) (frequencies : Frequencies Float)
    (events : Array Event) (answers : List (Except Violation Row)) :
    addRows input frequencies events answers =
      let (state, status) := Reader.addAll (addRow input) (frequencies, events) answers
      (state.2, status.map fun _ => state.1) := by
  induction answers generalizing frequencies events with
  | nil => rfl
  | cons answer rest ih =>
      cases answer with
      | error violation => rfl
      | ok row =>
          cases decoded : entryOfRow input row with
          | error violation => simp [addRows, Reader.addAll, addRow, decoded, Except.map]
          | ok entry => simp [addRows, Reader.addAll, addRow, decoded, Except.map, ih]

theorem load_ends {input : String} {bytes : ByteArray} {rest : Reader}
    (passed : (Reader.ofBytes input bytes).header columns = (.ok (), rest)) :
    ∃ rounds ≤ (physicalLines bytes).length, ∃ state status,
      EndsAfter (Reader.rowRound (addRow input)) ((.empty, #[]), rest) rounds (state, status) ∧
      (load input bytes).2 = status.map fun _ => state.1 := by
  obtain ⟨rounds, few, ends⟩ := Reader.rows_endAfter_header (addRow input) (.empty, #[])
    (List.cons_ne_nil _ _) passed 0
  have start : rest.after 0 = rest := rfl
  rw [start] at ends
  refine ⟨rounds, few.trans_eq (List.length_map ..), _, _, ends, ?_⟩
  simp only [load, passed, addRows_eq_addAll]
  rcases Reader.addAll (addRow input) (.empty, #[]) rest.answers with ⟨state, violation | _⟩ <;> rfl

end Frequencies

namespace Trace

def addRecord (input : String) (records : List TermRecord) (row : Row) :
    Except Violation (List TermRecord) :=
  (recordOfRow input row).map fun record => records ++ [record]

theorem mapM_eq_addAll (input : String) (records : List TermRecord)
    (answers : List (Except Violation Row)) :
    (answers.mapM fun answer : Except Violation Row => answer.bind (recordOfRow input)).map
        (records ++ ·) =
      let (gathered, status) := Reader.addAll (addRecord input) records answers
      status.map fun _ => gathered := by
  induction answers generalizing records with
  | nil => simp [Reader.addAll, pure, Except.pure, Except.map]
  | cons answer rest ih =>
      rw [List.mapM_cons]
      cases answer with
      | error violation => rfl
      | ok row =>
          cases decoded : recordOfRow input row with
          | error violation =>
              simp [Reader.addAll, addRecord, decoded, Except.bind, Except.map, bind]
          | ok record =>
              -- The loop appends at the end, while `mapM` puts each record in front of the rest.
              have later := ih (records ++ [record])
              have added : addRecord input records row = .ok (records ++ [record]) := by
                rw [addRecord, decoded]
                rfl
              have answered : (Except.ok row : Except Violation Row).bind (recordOfRow input) =
                  .ok record := decoded
              rw [Reader.addAll, added, answered]
              refine Eq.trans ?_ later
              cases rest.mapM fun answer : Except Violation Row =>
                answer.bind (recordOfRow input) with
              | error violation => rfl
              | ok others => simp [bind, Except.bind, pure, Except.pure, Except.map]

theorem readAll_eq_addAll (trace : Reader) :
    (readAll trace).2 =
      let (records, status) := Reader.addAll (addRecord trace.input) [] trace.answers
      status.map fun _ => records := by
  have whole : (answers trace).mapM id =
      trace.answers.mapM fun answer => answer.bind (recordOfRow trace.input) := by
    rw [answers, List.mapM_map]
    rfl
  rw [← mapM_eq_addAll, readAll, whole]
  cases trace.answers.mapM fun answer => answer.bind (recordOfRow trace.input) <;>
    simp [Except.map]

theorem header_of_openTable {input : String} {bytes : ByteArray} {trace : Reader}
    (opened : openTable input bytes = .ok trace) :
    (Reader.ofBytes input bytes).header columns = (.ok (), trace) := by
  unfold openTable at opened
  rcases passed : (Reader.ofBytes input bytes).header columns with ⟨violation | _, rest⟩
  · simp [passed] at opened
  · simpa [passed] using opened

theorem readAll_ends {input : String} {bytes : ByteArray} {trace : Reader}
    (opened : openTable input bytes = .ok trace) (count : Nat) :
    ∃ rounds ≤ (physicalLines bytes).length, ∃ records status,
      EndsAfter (Reader.rowRound (addRecord input)) ([], trace.after count) rounds
        (records, status) ∧
      (readAll (trace.after count)).2 = status.map fun _ => records := by
  have passed := header_of_openTable opened
  obtain ⟨kept, _⟩ := Reader.answers_of_header _ trace columns (List.cons_ne_nil _ _) passed
  have same : (trace.after count).input = input := (trace.input_after count).trans kept
  obtain ⟨rounds, few, ends⟩ :=
    Reader.rows_endAfter_header (addRecord input) [] (List.cons_ne_nil _ _) passed count
  refine ⟨rounds, few.trans_eq (List.length_map ..), _, _, ends, ?_⟩
  rw [readAll_eq_addAll, same]

end Trace

/-- Reading ends, whatever the bytes are. Calls take consecutive blocks of the physical lines; a
block is empty only if its call finds the end, which all calls behind it find too, so there are no
more other calls than lines. A call has at most one round more than its block has lines, and the
loops that load a table of frequencies and that read what calls leave of a trace have no more rounds
than the table has lines. -/
theorem reading_ends (input : String) (bytes : ByteArray) :
    let reader : Reader := .ofBytes input bytes
    let lines : List ByteArray := physicalLines bytes
    (∃ blocks : Nat → List ByteArray,
      (∀ count, ∃ rest, lines = (List.range count).flatMap blocks ++ rest ∧
        (reader.after count).lines = rest.map Line.ofBytes) ∧
      (∀ index, reader.call index ≠ .ok none → blocks index ≠ []) ∧
      ∀ index, ∃ rounds ≤ (blocks index).length + 1,
        EndsAfter (Reader.round input) (reader.after index).begin rounds
          (reader.after index).next) ∧
    (∀ index later, reader.call index = .ok none → index ≤ later →
      reader.call later = .ok none) ∧
    (∀ index, reader.call index ≠ .ok none → index < lines.length) ∧
    (match reader.header Frequencies.columns with
      | (.error violation, _) => (Frequencies.load input bytes).2 = .error violation
      | (.ok (), rest) => ∃ rounds ≤ lines.length, ∃ state status,
          EndsAfter (Reader.rowRound (Frequencies.addRow input)) ((.empty, #[]), rest) rounds
            (state, status) ∧
          (Frequencies.load input bytes).2 = status.map fun _ => state.1) ∧
    match Trace.openTable input bytes with
      | .error violation => (Trace.load input bytes).2 = .error violation
      | .ok trace => Trace.load input bytes = Trace.readAll trace ∧
          ∀ count, ∃ rounds ≤ lines.length, ∃ records status,
            EndsAfter (Reader.rowRound (Trace.addRecord input)) ([], trace.after count) rounds
              (records, status) ∧
            (Trace.readAll (trace.after count)).2 = status.map fun _ => records := by
  intro reader lines
  have same : reader.lines = lines.map Line.ofBytes := rfl
  have size : reader.lines.length = lines.length := by rw [same, List.length_map]
  refine ⟨reader.calls_take_blocks lines Line.ofBytes same, fun _ _ => Reader.call_final,
    fun _ more => size ▸ Reader.call_lt more, ?_, ?_⟩
  · rcases passed : reader.header Frequencies.columns with ⟨violation | _, rest⟩
    · simp only [Frequencies.load, reader, passed]
    · exact Frequencies.load_ends passed
  · cases opened : Trace.openTable input bytes with
    | error violation => simp only [Trace.load, opened]
    | ok trace => exact ⟨by simp only [Trace.load, opened], Trace.readAll_ends opened⟩

def tornTable : ByteArray := "a,b\n\n".toUTF8 ++ ⟨#[255, 10]⟩ ++ "\"x\ny".toUTF8

theorem reading_ends_torn :
    let reader : Reader := .ofBytes "t" tornTable
    reader.call 2 ≠ .ok none ∧ reader.call 3 = .ok none ∧ reader.call 100 = .ok none ∧
      2 < (physicalLines tornTable).length ∧
      ∃ block : List ByteArray, block ≠ [] ∧ ∃ rounds ≤ block.length + 1,
        EndsAfter (Reader.round "t") (reader.after 2).begin rounds (reader.after 2).next := by
  intro reader
  obtain ⟨⟨blocks, _, filled, rounds⟩, final, bounded, _⟩ := reading_ends "t" tornTable
  have failed : (reader.call 2).isOk = false := by decide +kernel
  have more : reader.call 2 ≠ .ok none := by
    intro ended
    rw [ended] at failed
    simp [Except.isOk, Except.toBool] at failed
  have ended : reader.call 3 = .ok none := (toOption_eq_some _ _).mp (by decide +kernel)
  exact ⟨more, ended, final 3 100 ended (by omega), bounded 2 more, blocks 2, filled 2 more,
    rounds 2⟩

end RowScan
