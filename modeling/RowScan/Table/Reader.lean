import RowScan.Table.Line
import RowScan.Table.Row
import RowScan.Table.Scan

/-!
Reading a table row by row. A reader goes on after a failure: each call of `Reader.next` that does
not find the end takes at least one physical line away, which `Reader.length_next_lt` states, so
`Reader.answers` lists what all calls answer.
-/

namespace RowScan

structure Reader where
  input : String
  /-- How many lines of text have been read. -/
  number : Nat
  lines : List Line
  deriving Repr, DecidableEq

namespace Reader

def ofLines (input : String) (lines : List Line) : Reader := ⟨input, 0, lines⟩

def ofBytes (input : String) (bytes : ByteArray) : Reader :=
  ofLines input ((physicalLines bytes).map Line.ofBytes)

def finishRow (input : String) (start number : Nat) (scan : Scan) :
    List Line → Except Violation Row × Reader
  | [] =>
    if scan.mode = .quoted then
      (.error (.record input start .unterminatedQuote), ⟨input, number, []⟩)
    else
      (.ok ⟨start, scan.toList⟩, ⟨input, number, []⟩)
  | line :: rest =>
    if scan.mode = .quoted then
      match line with
      | .broken => (.error (.io .notUtf8), ⟨input, number, rest⟩)
      | .text chars =>
        finishRow input start (number + 1)
          ((scan.push '\n').run (Line.content (number + 1) chars)) rest
    else
      (.ok ⟨start, scan.toList⟩, ⟨input, number, line :: rest⟩)

def nextFrom (input : String) (number : Nat) :
    List Line → Except Violation (Option Row) × Reader
  | [] => (.ok none, ⟨input, number, []⟩)
  | .broken :: rest => (.error (.io .notUtf8), ⟨input, number, rest⟩)
  | .text chars :: rest =>
    match Line.content (number + 1) chars with
    | [] => nextFrom input (number + 1) rest
    | content =>
      let (row, reader) := finishRow input (number + 1) (number + 1) (Scan.empty.run content) rest
      (row.map some, reader)

def next (reader : Reader) : Except Violation (Option Row) × Reader :=
  nextFrom reader.input reader.number reader.lines

/-- Reads the first row and checks that it is exactly the expected header. Without a row the header
is found to be empty. -/
def header (reader : Reader) (expected : List String) : Except Violation Unit × Reader :=
  match reader.next with
  | (.error violation, reader) => (.error violation, reader)
  | (.ok row, reader) =>
    let (line, found) : Nat × List String := match row with
      | some row => (row.line, row.fields)
      | none => (max reader.number 1, [])
    if found = expected then (.ok (), reader)
    else (.error (.schema reader.input line expected found), reader)

theorem length_finishRow_le (input : String) (start number : Nat) (scan : Scan)
    (lines : List Line) :
    (finishRow input start number scan lines).2.lines.length ≤ lines.length := by
  induction lines generalizing number scan with
  | nil => unfold finishRow; split <;> simp
  | cons line rest ih =>
    unfold finishRow
    split
    · cases line with
      | broken => simp
      | text chars =>
        have shorter := ih (number + 1) ((scan.push '\n').run (Line.content (number + 1) chars))
        exact Nat.le_succ_of_le shorter
    · simp

theorem length_nextFrom_lt (input : String) (number : Nat) (lines : List Line)
    (more : (nextFrom input number lines).1 ≠ .ok none) :
    (nextFrom input number lines).2.lines.length < lines.length := by
  induction lines generalizing number with
  | nil => simp [nextFrom] at more
  | cons line rest ih =>
    cases line with
    | broken => simp [nextFrom]
    | text chars =>
      unfold nextFrom at more ⊢
      cases content : Line.content (number + 1) chars with
      | nil =>
        simp only [content] at more ⊢
        exact Nat.lt_succ_of_lt (ih (number + 1) more)
      | cons first tail =>
        simp only [List.length_cons]
        exact Nat.lt_succ_of_le (length_finishRow_le ..)

theorem length_next_lt (reader : Reader) (more : reader.next.1 ≠ .ok none) :
    reader.next.2.lines.length < reader.lines.length :=
  length_nextFrom_lt reader.input reader.number reader.lines more

def answersFrom (collected : Array (Except Violation Row)) (reader : Reader) :
    Array (Except Violation Row) :=
  match _found : reader.next with
  | (.ok none, _) => collected
  | (.ok (some row), rest) => answersFrom (collected.push (.ok row)) rest
  | (.error violation, rest) => answersFrom (collected.push (.error violation)) rest
termination_by reader.lines.length
decreasing_by
  all_goals
    have shorter := length_next_lt reader (by simp [_found])
    simpa [_found] using shorter

/-- What calls of `next` answer, one after the other, until one finds the end. -/
def answers (reader : Reader) : List (Except Violation Row) := (answersFrom #[] reader).toList

theorem answersFrom_next (collected : Array (Except Violation Row)) (reader : Reader) :
    answersFrom collected reader =
      match reader.next with
      | (.ok none, _) => collected
      | (.ok (some row), rest) => answersFrom (collected.push (.ok row)) rest
      | (.error violation, rest) => answersFrom (collected.push (.error violation)) rest := by
  rw [answersFrom]
  split <;> simp_all

theorem answersFrom_eq (collected : Array (Except Violation Row)) (reader : Reader) :
    (answersFrom collected reader).toList = collected.toList ++ reader.answers := by
  generalize size : reader.lines.length = count
  induction count using Nat.strongRecOn generalizing collected reader with
  | ind count ih =>
      have shorter := length_next_lt reader
      have later (rest : Reader) (fewer : rest.lines.length < count)
          (collected : Array (Except Violation Row)) := ih _ fewer collected rest rfl
      rw [answers, answersFrom_next collected, answersFrom_next #[]]
      split
      · simp
      · rename_i row rest found
        have fewer : rest.lines.length < count := by simpa [found, size] using shorter
        simp [later rest fewer]
      · rename_i violation rest found
        have fewer : rest.lines.length < count := by simpa [found, size] using shorter
        simp [later rest fewer]

theorem answers_eq (reader : Reader) :
    reader.answers =
      match reader.next with
      | (.ok none, _) => []
      | (.ok (some row), rest) => .ok row :: rest.answers
      | (.error violation, rest) => .error violation :: rest.answers := by
  rw [answers, answersFrom_next]
  split <;> simp [answersFrom_eq]

theorem input_finishRow (input : String) (start number : Nat) (scan : Scan) (lines : List Line) :
    (finishRow input start number scan lines).2.input = input := by
  induction lines generalizing number scan with
  | nil => unfold finishRow; split <;> rfl
  | cons line rest ih =>
    unfold finishRow
    split
    · cases line with
      | broken => rfl
      | text chars => exact ih _ _
    · rfl

theorem input_nextFrom (input : String) (number : Nat) (lines : List Line) :
    (nextFrom input number lines).2.input = input := by
  induction lines generalizing number with
  | nil => rfl
  | cons line rest ih =>
    cases line with
    | broken => rfl
    | text chars =>
      unfold nextFrom
      split
      · exact ih _
      · exact input_finishRow ..

theorem input_next (reader : Reader) : reader.next.2.input = reader.input :=
  input_nextFrom reader.input reader.number reader.lines

theorem answers_of_header (reader rest : Reader) (expected : List String)
    (named : expected ≠ []) (passed : reader.header expected = (.ok (), rest)) :
    rest.input = reader.input ∧
      ∃ line, reader.answers = .ok ⟨line, expected⟩ :: rest.answers := by
  have kept := input_next reader
  rw [answers_eq]
  unfold header at passed
  rcases found : reader.next with ⟨violation | row, behind⟩
  · simp [found] at passed
  · cases row with
    | none => simp [found, named.symm] at passed
    | some row =>
      simp only [found] at passed kept ⊢
      split at passed
      · rename_i same
        obtain rfl : behind = rest := by simpa using passed
        exact ⟨kept, row.line, by rw [← same]⟩
      · simp at passed

theorem header_of_answers (reader : Reader) (expected : List String) (line : Nat)
    (later : List (Except Violation Row))
    (answered : reader.answers = .ok ⟨line, expected⟩ :: later) :
    ∃ rest, reader.header expected = (.ok (), rest) ∧ rest.input = reader.input ∧
      rest.answers = later := by
  have kept := input_next reader
  rw [answers_eq] at answered
  unfold header
  rcases found : reader.next with ⟨violation | _ | row, behind⟩
  · simp [found] at answered
  · simp [found] at answered
  · simp only [found, List.cons.injEq, Except.ok.injEq] at answered kept ⊢
    obtain ⟨rfl, rfl⟩ := answered
    exact ⟨behind, if_pos rfl, kept, rfl⟩

end Reader

end RowScan
