import Mathlib
import RowScan.Proofs.Table.Calls

/-!
Calls of a reader make progress. A call reads its lines in rounds, one line in each, and ends in
the round that finds no line, a line that is not text or the end of a row. Calls one after the other
take consecutive blocks of lines, and once one finds the end all later ones do.
-/

namespace RowScan

/-- A loop ends after a number of rounds with a result. Each round ends it or goes on with another
state. -/
inductive EndsAfter {σ β : Type} (round : σ → β ⊕ σ) : σ → Nat → β → Prop
  | last {state : σ} {result : β} (ended : round state = .inl result) :
      EndsAfter round state 1 result
  | more {state next : σ} {count : Nat} {result : β} (passed : round state = .inr next)
      (rest : EndsAfter round next count result) : EndsAfter round state (count + 1) result

/-- A loop whose rounds go on with less and less ends, and its result is what no round changes. -/
theorem exists_endsAfter {σ β : Type} {round : σ → β ⊕ σ} (size : σ → Nat) (outcome : σ → β)
    (shrinks : ∀ state next, round state = .inr next → size next < size state)
    (keeps : ∀ state, (round state).elim id outcome = outcome state) (state : σ) :
    ∃ count ≤ size state + 1, EndsAfter round state count (outcome state) := by
  generalize bound : size state = limit
  induction limit using Nat.strongRecOn generalizing state with
  | ind limit ih =>
      subst bound
      have kept := keeps state
      cases found : round state with
      | inl result =>
          rw [found] at kept
          exact ⟨1, by omega, .last (found.trans (congrArg Sum.inl kept))⟩
      | inr next =>
          rw [found] at kept
          have less := shrinks state next found
          obtain ⟨count, few, rest⟩ := ih (size next) less next rfl
          have same : outcome next = outcome state := kept
          rw [same] at rest
          exact ⟨count + 1, by omega, .more found rest⟩

theorem EndsAfter.left {σ β γ : Type} {round : σ → β ⊕ σ} {state : σ} {count : Nat} {result : β}
    (ends : EndsAfter round state count result) (left : σ → γ) (leftBehind : β → γ) (step : γ → γ)
    (steps : ∀ state, (round state).elim leftBehind left = step (left state)) :
    leftBehind result = step^[count] (left state) := by
  induction ends with
  | @last state result ended => simpa [ended] using steps state
  | @more state next count result passed rest ih =>
      have here := steps state
      rw [passed] at here
      rw [ih, Function.iterate_succ_apply]
      exact congrArg _ here

namespace Reader

structure OpenRow where
  start : Nat
  scan : Scan
  isOpen : scan.mode = .quoted

/-- A call between two of its lines. -/
structure Midway where
  number : Nat
  lines : List Line
  row? : Option OpenRow

abbrev Answer := Except Violation (Option Row) × Reader

def closeOrKeep (input : String) (start number : Nat) (scan : Scan) (rest : List Line) :
    Answer ⊕ Midway :=
  if isOpen : scan.mode = .quoted then .inr ⟨number, rest, some ⟨start, scan, isOpen⟩⟩
  else .inl (.ok (some ⟨start, scan.toList⟩), ⟨input, number, rest⟩)

def round (input : String) : Midway → Answer ⊕ Midway
  | ⟨number, [], none⟩ => .inl (.ok none, ⟨input, number, []⟩)
  | ⟨number, [], some row⟩ =>
    .inl (.error (.record input row.start .unterminatedQuote), ⟨input, number, []⟩)
  | ⟨number, .broken :: rest, _⟩ => .inl (.error (.io .notUtf8), ⟨input, number, rest⟩)
  | ⟨number, .text chars :: rest, none⟩ =>
    match Line.content (number + 1) chars with
    | [] => .inr ⟨number + 1, rest, none⟩
    | content => closeOrKeep input (number + 1) (number + 1) (Scan.empty.run content) rest
  | ⟨number, .text chars :: rest, some row⟩ =>
    closeOrKeep input row.start (number + 1)
      ((row.scan.push '\n').run (Line.content (number + 1) chars)) rest

def Midway.outcome (input : String) : Midway → Answer
  | ⟨number, lines, none⟩ => nextFrom input number lines
  | ⟨number, lines, some row⟩ =>
    (finishRow input row.start number row.scan lines).map (Except.map some) id

theorem closeOrKeep_outcome (input : String) (start number : Nat) (scan : Scan)
    (rest : List Line) :
    (closeOrKeep input start number scan rest).elim id (Midway.outcome input) =
      (finishRow input start number scan rest).map (Except.map some) id := by
  unfold closeOrKeep
  split
  · rfl
  · rename_i closed
    cases rest <;> simp [finishRow, closed, Except.map]

def begin (reader : Reader) : Midway := ⟨reader.number, reader.lines, none⟩

theorem round_outcome (input : String) (call : Midway) :
    (round input call).elim id (Midway.outcome input) = call.outcome input := by
  obtain ⟨number, lines, row⟩ := call
  cases lines with
  | nil =>
      cases row with
      | none => rfl
      | some row => simp [round, Midway.outcome, finishRow, row.isOpen, Except.map]
  | cons line rest =>
      cases line with
      | broken =>
          cases row with
          | none => rfl
          | some row => simp [round, Midway.outcome, finishRow, row.isOpen, Except.map]
      | text chars =>
          cases row with
          | none =>
              cases content : Line.content (number + 1) chars with
              | nil => simp [round, Midway.outcome, nextFrom, content]
              | cons first later =>
                  simp only [round, Midway.outcome, nextFrom, content, closeOrKeep_outcome]
                  rfl
          | some row =>
              simp only [round, Midway.outcome, closeOrKeep_outcome]
              rw [finishRow.eq_def input row.start number row.scan (.text chars :: rest)]
              simp only [row.isOpen, if_true]

theorem closeOrKeep_lines (input : String) (start number : Nat) (scan : Scan)
    (rest : List Line) :
    (closeOrKeep input start number scan rest).elim (fun answer => answer.2.lines) Midway.lines =
      rest := by
  unfold closeOrKeep
  split <;> rfl

theorem round_lines (input : String) (call : Midway) :
    (round input call).elim (fun answer => answer.2.lines) Midway.lines = call.lines.tail := by
  obtain ⟨number, lines, row⟩ := call
  cases lines with
  | nil => cases row <;> rfl
  | cons line rest =>
      cases line with
      | broken => cases row <;> rfl
      | text chars =>
          cases row with
          | none =>
              simp only [round]
              split
              · rfl
              · exact closeOrKeep_lines ..
          | some row => exact closeOrKeep_lines ..

theorem lines_of_passed {input : String} {call next : Midway}
    (passed : round input call = .inr next) : next.lines.length < call.lines.length := by
  have taken := round_lines input call
  rw [passed] at taken
  obtain ⟨number, lines, row⟩ := call
  cases lines with
  | nil => cases row <;> simp [round] at passed
  | cons line rest =>
      obtain rfl : next.lines = rest := taken
      exact Nat.lt_succ_self _

theorem next_endsAfter (reader : Reader) :
    ∃ count ≤ (reader.lines.length - reader.next.2.lines.length) + 1,
      EndsAfter (round reader.input) reader.begin count reader.next ∧
      reader.next.2.lines = reader.lines.drop count := by
  obtain ⟨count, few, ends⟩ := exists_endsAfter (fun call => call.lines.length)
    (Midway.outcome reader.input) (fun _ _ => lines_of_passed) (round_outcome reader.input)
    reader.begin
  have left : reader.next.2.lines = reader.lines.drop count := by
    rw [← List.tail_iterate]
    exact ends.left Midway.lines (fun answer => answer.2.lines) List.tail
      (round_lines reader.input)
  refine ⟨count, ?_, ends, left⟩
  change count ≤ reader.lines.length + 1 at few
  rw [left, List.length_drop]
  omega

/-! Calls one after the other. -/

theorem call_final {reader : Reader} {index later : Nat} (ended : reader.call index = .ok none)
    (behind : index ≤ later) : reader.call later = .ok none := by
  rw [call_eq_inTurn, inTurn_eq_end, List.getElem?_eq_none_iff] at ended ⊢
  exact ended.trans behind

theorem call_lt {reader : Reader} {index : Nat} (more : reader.call index ≠ .ok none) :
    index < reader.lines.length := by
  induction index generalizing reader with
  | zero => exact Nat.zero_lt_of_lt (length_next_lt reader more)
  | succ index ih =>
      have first : reader.call 0 ≠ .ok none := fun ended => more (call_final ended (Nat.zero_le _))
      have shorter := length_next_lt reader first
      rw [call_succ] at more
      exact (Nat.succ_lt_succ (ih more)).trans_le shorter

theorem lines_after (reader : Reader) (count : Nat) :
    (reader.after (count + 1)).lines <:+ (reader.after count).lines ∧
      (reader.after count).lines <:+ reader.lines := by
  have taken (count : Nat) : (reader.after (count + 1)).lines <:+ (reader.after count).lines := by
    obtain ⟨rounds, _, _, left⟩ := next_endsAfter (reader.after count)
    rw [after_succ, left]
    exact List.drop_suffix rounds _
  refine ⟨taken count, ?_⟩
  induction count with
  | zero => exact List.suffix_refl _
  | succ count ih => exact (taken count).trans ih

end Reader

theorem exists_blocks {α : Type} (left : Nat → List α)
    (suffix : ∀ count, left (count + 1) <:+ left count) :
    ∃ blocks : Nat → List α, (∀ index, left index = blocks index ++ left (index + 1)) ∧
      ∀ count, left 0 = (List.range count).flatMap blocks ++ left count := by
  choose blocks cut using suffix
  refine ⟨blocks, fun index => (cut index).symm, ?_⟩
  intro count
  induction count with
  | zero => simp
  | succ count ih => rw [ih, ← cut count, List.range_succ]; simp

namespace Reader

/-- Calls take consecutive blocks of the pieces that are read as lines. A block is empty only if its
call finds the end, and each round of a call reads one piece of its block or finds none. -/
theorem calls_take_blocks {α : Type} (reader : Reader) (pieces : List α) (read : α → Line)
    (same : reader.lines = pieces.map read) :
    ∃ blocks : Nat → List α,
      (∀ count, ∃ rest, pieces = (List.range count).flatMap blocks ++ rest ∧
        (reader.after count).lines = rest.map read) ∧
      (∀ index, reader.call index ≠ .ok none → blocks index ≠ []) ∧
      ∀ index, ∃ rounds ≤ (blocks index).length + 1,
        EndsAfter (round reader.input) (reader.after index).begin rounds
          (reader.after index).next := by
  let left (count : Nat) := pieces.drop (pieces.length - (reader.after count).lines.length)
  have shown (count : Nat) : (reader.after count).lines = (left count).map read := by
    have suffix := List.suffix_iff_eq_drop.mp (lines_after reader count).2
    rwa [same, ← List.map_drop, List.length_map] at suffix
  have size (count : Nat) : (left count).length = (reader.after count).lines.length := by
    rw [shown, List.length_map]
  have suffix (count : Nat) : left (count + 1) <:+ left count := by
    have fewer := (lines_after reader count).1.length_le
    exact List.drop_suffix_drop_left _ (by omega)
  have whole : left 0 = pieces := by
    have start : (reader.after 0).lines.length = pieces.length := by
      rw [after, Function.iterate_zero_apply, same, List.length_map]
    simp [left, start]
  obtain ⟨blocks, cut, parts⟩ := exists_blocks left suffix
  have taken (index : Nat) : (reader.after index).lines.length =
      (blocks index).length + (reader.after (index + 1)).lines.length := by
    rw [← size, ← size, cut index, List.length_append]
  refine ⟨blocks, fun count => ⟨left count, whole ▸ parts count, shown count⟩, ?_, ?_⟩
  · intro index more empty
    have shorter := length_next_lt (reader.after index) more
    rw [← after_succ, taken index, empty, List.length_nil, Nat.zero_add] at shorter
    exact Nat.lt_irrefl _ shorter
  · intro index
    obtain ⟨rounds, few, ends, _⟩ := next_endsAfter (reader.after index)
    rw [input_after] at ends
    rw [← after_succ, taken index, Nat.add_sub_cancel] at few
    exact ⟨rounds, few, ends⟩

end Reader

end RowScan
