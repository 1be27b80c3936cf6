import Mathlib
import RowScan.Proofs.Success
import RowScan.Proofs.Table.Reading

/-!
Tables that go on behind some of their lines. What reading has answered of the first lines stays
when more lines follow; only a row that is still open and the end of the table are decided by them.
A line that is not text is such a continuation: the lines before it are a text and read by the
grammar.
-/

namespace RowScan

namespace Reader

def append (reader : Reader) (tail : List Line) : Reader :=
  ⟨reader.input, reader.number, reader.lines ++ tail⟩

/-- An answer that no further lines can change: any but that a quote stays open to the end. -/
def Settled (answer : Except Violation α) : Prop :=
  ∀ input line, answer ≠ .error (.record input line .unterminatedQuote)

theorem Settled.map {answer : Except Violation α} (settled : Settled answer) (wrap : α → β) :
    Settled (answer.map wrap) := by
  intro input line same
  cases answer with
  | error violation => exact settled input line (congrArg Except.error (Except.error.inj same))
  | ok value => simp [Except.map] at same

theorem settled_ok (value : α) : Settled (.ok value) := by
  simp [Settled]

theorem settled_io (fault : IoFault) : Settled (.error (.io fault) : Except Violation α) := by
  simp [Settled]

theorem finishRow_append (input : String) (start number : Nat) (scan : Scan)
    (lines tail : List Line) :
    (Settled (finishRow input start number scan lines).1 ∧
        finishRow input start number scan (lines ++ tail) =
          (finishRow input start number scan lines).map id (append · tail)) ∨
      ∃ (last : Nat) (later : Scan), later.mode = .quoted ∧
        finishRow input start number scan lines =
          (.error (.record input start .unterminatedQuote), ⟨input, last, []⟩) ∧
        finishRow input start number scan (lines ++ tail) =
          finishRow input start last later tail := by
  induction lines generalizing number scan with
  | nil =>
      by_cases quoted : scan.mode = .quoted
      · exact Or.inr ⟨number, scan, quoted, by rw [finishRow, if_pos quoted], rfl⟩
      · left
        refine ⟨by simp [finishRow, quoted, settled_ok], ?_⟩
        cases tail <;> simp [finishRow, quoted, append]
  | cons line rest ih =>
      by_cases quoted : scan.mode = .quoted
      · cases line with
        | broken =>
            left
            simp [finishRow, quoted, append, settled_io]
        | text chars => simpa [finishRow, quoted] using ih (number + 1) _
      · left
        simp [finishRow, quoted, append, settled_ok]

theorem nextFrom_append (input : String) (number : Nat) (lines tail : List Line) :
    ((nextFrom input number lines).1 ≠ .ok none ∧ Settled (nextFrom input number lines).1 ∧
        nextFrom input number (lines ++ tail) =
          (nextFrom input number lines).map id (append · tail)) ∨
      (∃ last, nextFrom input number lines = (.ok none, ⟨input, last, []⟩) ∧
        nextFrom input number (lines ++ tail) = nextFrom input last tail) ∨
      ∃ (start last : Nat) (later : Scan), later.mode = .quoted ∧
        nextFrom input number lines =
          (.error (.record input start .unterminatedQuote), ⟨input, last, []⟩) ∧
        nextFrom input number (lines ++ tail) =
          (finishRow input start last later tail).map (Except.map some) id := by
  induction lines generalizing number with
  | nil => exact Or.inr (Or.inl ⟨number, rfl, rfl⟩)
  | cons line rest ih =>
      cases line with
      | broken => exact Or.inl ⟨by simp [nextFrom], settled_io .notUtf8, rfl⟩
      | text chars =>
          cases content : Line.content (number + 1) chars with
          | nil => simpa [nextFrom, content] using ih (number + 1)
          | cons first later =>
              rcases finishRow_append input (number + 1) (number + 1)
                  (Scan.empty.run (first :: later)) rest tail with
                ⟨settled, kept⟩ | ⟨last, scan, quoted, unfinished, goesOn⟩
              · left
                simp only [nextFrom, content, List.cons_append, kept]
                exact ⟨map_some_ne_none _, settled.map some, rfl⟩
              · right
                right
                refine ⟨number + 1, last, scan, quoted, ?_, ?_⟩
                · simp [nextFrom, content, unfinished, Except.map]
                · simp [nextFrom, content, goesOn, Prod.map]

theorem next_append (reader : Reader) (tail : List Line) :
    (reader.next.1 ≠ .ok none ∧ Settled reader.next.1 ∧
        (reader.append tail).next = reader.next.map id (append · tail)) ∨
      (∃ last, reader.next = (.ok none, ⟨reader.input, last, []⟩) ∧
        (reader.append tail).next = (Reader.mk reader.input last tail).next) ∨
      ∃ (start last : Nat) (later : Scan), later.mode = .quoted ∧
        reader.next =
          (.error (.record reader.input start .unterminatedQuote), ⟨reader.input, last, []⟩) ∧
        (reader.append tail).next =
          (finishRow reader.input start last later tail).map (Except.map some) id :=
  nextFrom_append reader.input reader.number reader.lines tail

/-- How the answers about a table continue when more lines follow: those that are settled stay. -/
inductive Continues (reader : Reader) (tail : List Line) : List (Except Violation Row) → Prop where
  | ended {settled : List (Except Violation Row)} (last : Nat)
      (before : reader.answers = settled)
      (after : (reader.append tail).answers =
        settled ++ (Reader.mk reader.input last tail).answers) : Continues reader tail settled
  | unfinished {settled : List (Except Violation Row)} (start last : Nat) (scan : Scan)
      (quoted : scan.mode = .quoted)
      (before : reader.answers =
        settled ++ [.error (.record reader.input start .unterminatedQuote)])
      (after : (reader.append tail).answers = settled ++
        (finishRow reader.input start last scan tail).1 ::
          (finishRow reader.input start last scan tail).2.answers) : Continues reader tail settled

theorem Continues.cons {reader rest : Reader} {tail : List Line}
    {settled : List (Except Violation Row)} (answer : Except Violation Row)
    (same : rest.input = reader.input) (before : reader.answers = answer :: rest.answers)
    (after : (reader.append tail).answers = answer :: (rest.append tail).answers)
    (continues : rest.Continues tail settled) : reader.Continues tail (answer :: settled) := by
  cases continues with
  | ended last beforeRest afterRest =>
      refine .ended last (by rw [before, beforeRest]) ?_
      rw [after, afterRest, same, List.cons_append]
  | unfinished start last scan quoted beforeRest afterRest =>
      refine .unfinished start last scan quoted ?_ ?_
      · rw [before, beforeRest, same, List.cons_append]
      · rw [after, afterRest, same, List.cons_append]

theorem exists_continues (reader : Reader) (tail : List Line) :
    ∃ settled, (∀ answer ∈ settled, Settled answer) ∧ reader.Continues tail settled := by
  generalize size : reader.lines.length = count
  induction count using Nat.strongRecOn generalizing reader with
  | ind count ih =>
      have shorter := length_next_lt reader
      have kept := input_next reader
      have first := answers_eq reader
      have firstAppended := answers_eq (reader.append tail)
      -- The next call is settled, finds the end, or runs into it between quotes.
      rcases reader.next_append tail with ⟨more, settled, appended⟩ | ⟨last, found, appended⟩ |
        ⟨start, last, later, quoted, found, appended⟩
      · rw [appended] at firstAppended
        rcases found : reader.next with ⟨violation | _ | row, rest⟩
        · rw [found] at first firstAppended shorter kept settled
          obtain ⟨answers, all, continues⟩ := ih _ (size ▸ shorter (by simp)) rest rfl
          refine ⟨.error violation :: answers, List.forall_mem_cons.mpr ⟨?_, all⟩,
            continues.cons _ kept first firstAppended⟩
          intro input line same
          exact settled input line (congrArg Except.error (Except.error.inj same))
        · simp [found] at more
        · rw [found] at first firstAppended shorter kept
          obtain ⟨answers, all, continues⟩ := ih _ (size ▸ shorter (by simp)) rest rfl
          exact ⟨.ok row :: answers, List.forall_mem_cons.mpr ⟨settled_ok row, all⟩,
            continues.cons _ kept first firstAppended⟩
      · rw [found] at first
        refine ⟨[], by simp, .ended last first ?_⟩
        rw [firstAppended, appended, answers_eq ⟨reader.input, last, tail⟩, List.nil_append]
      · rw [found] at first
        refine ⟨[], by simp, .unfinished start last later quoted ?_ ?_⟩
        · rw [first]
          exact congrArg _ (answers_of_end _ rfl)
        · rw [firstAppended, appended]
          rcases finishRow reader.input start last later tail with ⟨violation | row, rest⟩ <;> rfl

end Reader

def readable : List Line → List Char
  | .text chars :: rest => chars ++ readable rest
  | _ => []

theorem exists_texts (lines : List Line) :
    ∃ (texts : List (List Char)) (tail : List Line), lines = texts.map .text ++ tail ∧
      readable lines = texts.flatten ∧
      (tail = [] ∧ .broken ∉ lines ∨ .broken ∈ lines ∧ ∃ later, tail = .broken :: later) := by
  induction lines with
  | nil => exact ⟨[], [], by simp [readable]⟩
  | cons line rest ih =>
      cases line with
      | broken => exact ⟨[], .broken :: rest, by simp [readable]⟩
      | text chars =>
          obtain ⟨texts, tail, rfl, whole, ended⟩ := ih
          exact ⟨chars :: texts, tail, by simp, by simp [readable, whole], by simpa using ended⟩

/-- What reading answers of lines up to the first that is not text: the rows that end before it,
then that line itself, also when a quote is open there. -/
def Grammar.answersOfLines (input : String) (lines : List Line) : List (Except Violation Row) :=
  let answers := answers input (readable lines)
  if .broken ∈ lines then answers.filter Except.isOk ++ [.error (.io .notUtf8)] else answers

theorem Grammar.eq_unterminated (input : String) (text : List Char) (violation : Violation)
    (member : .error violation ∈ answers input text) :
    ∃ line, violation = .record input line .unterminatedQuote := by
  obtain ⟨_, line, _, same⟩ := answersFrom_failure _ _ _ violation member
  exact ⟨line, same⟩

theorem Grammar.filter_settled (input : String) (text : List Char)
    (settled : List (Except Violation Row)) (given : settled ⊆ answers input text)
    (all : ∀ answer ∈ settled, Reader.Settled answer) : settled.filter Except.isOk = settled := by
  rw [List.filter_eq_self]
  intro answer member
  cases answer with
  | ok row => rfl
  | error violation =>
      obtain ⟨line, rfl⟩ := eq_unterminated input text violation (given member)
      exact absurd rfl (all _ member input line)

theorem Grammar.answersOfLines_located (input : String) (lines : List Line)
    (answer : Except Violation Row) (member : answer ∈ answersOfLines input lines) :
    (answer = .error (.io .notUtf8) ∧ .broken ∈ lines) ∨
      ∃ before rest, readable lines = before ++ rest ∧
        answer = answerAt input (1 + newlines before) (unifyEndings rest) := by
  unfold answersOfLines at member
  split at member
  · rename_i broken
    rcases List.mem_append.mp member with earlier | last
    · exact Or.inr (answers_located input (readable lines) answer (List.mem_of_mem_filter earlier))
    · exact Or.inl ⟨by simpa using last, broken⟩
  · exact Or.inr (answers_located input (readable lines) answer member)

theorem readable_map_text (texts : List (List Char)) :
    readable (texts.map .text) = texts.flatten := by
  induction texts with
  | nil => rfl
  | cons chars texts ih => simp [readable, ih]

theorem readable_text (text : String) :
    readable (linesOf text.toUTF8) = text.toList ∧ .broken ∉ linesOf text.toUTF8 := by
  rw [linesOf, lines_of_text, readable_map_text, charLines, flatten_cutBehind]
  simp

/-- Reading bytes answers what the grammar answers of their lines, and more only behind a line that
is not text. -/
theorem Reader.answers_ofBytes_lines (input : String) (bytes : ByteArray) :
    ∃ later, (ofBytes input bytes).answers =
        Grammar.answersOfLines input (linesOf bytes) ++ later ∧
      (.broken ∉ linesOf bytes → later = []) := by
  obtain ⟨texts, tail, split, whole, ended⟩ := exists_texts (linesOf bytes)
  have lines := charLines_of_linesOf bytes texts tail split
  have text : (ofLines input (texts.map .text)).answers =
      Grammar.answers input (readable (linesOf bytes)) := by
    rw [whole, ← answers_ofLines, lines]
  have appended : ofBytes input bytes = (ofLines input (texts.map .text)).append tail := by
    rw [ofBytes, ← linesOf, split]
    rfl
  rcases ended with ⟨rfl, unbroken⟩ | ⟨broken, later, rfl⟩
  · refine ⟨[], ?_, fun _ => rfl⟩
    rw [Grammar.answersOfLines, if_neg unbroken, ← text, List.append_nil, appended]
    simp [append, ofLines]
  · obtain ⟨settled, all, continues⟩ := exists_continues (ofLines input (texts.map .text))
      (.broken :: later)
    rw [Grammar.answersOfLines, if_pos broken, ← text, appended]
    -- Either way the next answer is about the broken line.
    cases continues with
    | ended last before after =>
        rw [text] at before
        have kept := Grammar.filter_settled input _ settled (by rw [before]; simp) all
        refine ⟨(Reader.mk input last later).answers, ?_, fun unbroken => absurd broken unbroken⟩
        rw [after, text, before, kept, answers_eq, List.append_assoc]
        rfl
    | unfinished start last scan quoted before after =>
        rw [text] at before
        have kept := Grammar.filter_settled input _ settled (by rw [before]; simp) all
        refine ⟨(Reader.mk input last later).answers, ?_, fun unbroken => absurd broken unbroken⟩
        rw [after, text, before, List.filter_append, kept, finishRow, if_pos quoted,
          List.append_assoc, List.append_assoc]
        rfl

end RowScan
