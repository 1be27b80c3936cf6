import Mathlib
import RowScan.Proofs.Table.Grammar
import RowScan.Proofs.Table.Lines
import RowScan.Table.Reader

/-!
Reading line by line agrees with the grammar. `Scan.complete` says what the grammar makes of the
text behind a scan that stands anywhere in a record; a scan over the content of a line keeps it, so
a reader that stands before a text answers what the grammar answers of that text.
-/

namespace RowScan

namespace Grammar

/-- What becomes of a record whose closed fields and current text are given, from the end of the
current field on. -/
def finish (closed : List String) (text : List Char) :
    List Char → Option (List String × List Char)
  | ',' :: rest =>
      (record rest).map fun (fields, behind) => (closed ++ String.ofList text :: fields, behind)
  | behind => some (closed ++ [String.ofList text], behind.tail)

theorem finish_end (closed : List String) (text behind : List Char)
    (last : behind.head? ≠ some ',') :
    finish closed text behind = some (closed ++ [String.ofList text], behind.tail) := by
  cases behind with
  | nil => rfl
  | cons char rest =>
      have other : char ≠ ',' := by simpa using last
      simp [finish, other]

theorem record_eq_finish (closed : List String) (chars : List Char) :
    ((record chars).map fun (fields, behind) => (closed ++ fields, behind)) =
      (field chars).bind fun (text, behind) => finish closed text behind := by
  cases found : field chars with
  | none =>
      have missing : record chars = none := by
        rw [record]
        split <;> simp_all
      simp [missing]
  | some pair =>
      obtain ⟨text, behind⟩ := pair
      by_cases comma : behind.head? = some ','
      · obtain ⟨rest, rfl⟩ := List.head?_eq_some_iff.mp comma
        rw [record_of_comma chars text rest found]
        simp [finish, Function.comp_def]
      · rw [record_of_end chars text behind found comma]
        simp [finish_end closed text behind comma]

end Grammar

namespace Scan

open Grammar

def completeLiteral (scan : Scan) (text chars : List Char) : Option (List String × List Char) :=
  finish scan.fields.toList (scan.field.toList ++ text ++ chars.takeWhile isLiteral)
    (chars.dropWhile isLiteral)

def complete (scan : Scan) (chars : List Char) : Option (List String × List Char) :=
  match scan.mode with
  | .start =>
      (Grammar.field chars).bind fun (text, behind) =>
        finish scan.fields.toList (scan.field.toList ++ text) behind
  | .bare => scan.completeLiteral [] chars
  | .quoted => (quotedText chars).bind fun (text, behind) => scan.completeLiteral text behind

theorem complete_empty (chars : List Char) : empty.complete chars = record chars := by
  have whole := record_eq_finish [] chars
  simpa [complete, empty] using whole.symm

theorem complete_nextField (scan : Scan) (chars : List Char) (outside : scan.mode ≠ .quoted) :
    scan.complete (',' :: chars) = scan.nextField.complete chars := by
  have ended : Grammar.field (',' :: chars) = some ([], ',' :: chars) := by
    rw [field_literal _ (by simp)]
    simp [isLiteral]
  have next : scan.nextField.complete chars =
      finish scan.fields.toList scan.field.toList (',' :: chars) := by
    have whole := record_eq_finish (scan.fields.toList ++ [scan.field]) chars
    simpa [complete, nextField, finish] using whole.symm
  rw [next]
  cases mode : scan.mode with
  | start => simp [complete, mode, ended]
  | bare => simp [complete, mode, completeLiteral, isLiteral]
  | quoted => exact absurd mode outside

theorem completeLiteral_push (scan : Scan) (char : Char) (chars : List Char)
    (literal : isLiteral char = true) :
    scan.completeLiteral [] (char :: chars) = (scan.push char).completeLiteral [] chars := by
  simp [completeLiteral, push, literal]

theorem complete_push (scan : Scan) (char : Char) (chars : List Char)
    (plain : char ≠ '"') (inside : scan.mode = .quoted ∨ isLiteral char = true) :
    scan.complete (char :: chars) = (scan.push char).complete chars := by
  cases mode : scan.mode with
  | start =>
      have literal : isLiteral char = true := inside.resolve_left (by simp [mode])
      have whole : Grammar.field (char :: chars) =
          some (char :: chars.takeWhile isLiteral, chars.dropWhile isLiteral) := by
        rw [field_literal _ (by simpa using plain)]
        simp [literal]
      simp [complete, mode, push, whole, completeLiteral]
  | bare =>
      have literal : isLiteral char = true := inside.resolve_left (by simp [mode])
      simpa [complete, mode, push] using completeLiteral_push scan char chars literal
  | quoted =>
      simp only [complete, mode, push, quotedText_char char chars plain, Option.bind_map,
        reduceCtorEq, if_false]
      simp [completeLiteral]

theorem complete_doubled (scan : Scan) (chars : List Char) (inside : scan.mode = .quoted) :
    scan.complete ('"' :: '"' :: chars) = (scan.push '"').complete chars := by
  simp only [complete, inside, push, quotedText, Option.bind_map, reduceCtorEq, if_false]
  simp [completeLiteral]

theorem complete_quote (scan : Scan) (chars : List Char)
    (single : scan.mode = .quoted → chars.head? ≠ some '"') :
    scan.complete ('"' :: chars) = scan.quote.complete chars := by
  cases mode : scan.mode with
  | start =>
      simp only [complete, mode, quote, Grammar.field, Option.bind_map]
      simp [completeLiteral]
  | bare =>
      have literal : isLiteral '"' = true := by decide
      simpa [complete, mode, quote, push] using completeLiteral_push scan '"' chars literal
  | quoted =>
      simp [complete, mode, quote, quotedText_closing chars (single mode), completeLiteral]

theorem complete_step (scan : Scan) (char : Char) (chars : List Char)
    (single : char = '"' → scan.mode = .quoted → chars.head? ≠ some '"')
    (inside : scan.mode = .quoted ∨ char ≠ '\n') :
    scan.complete (char :: chars) = (scan.step char).complete chars := by
  unfold step
  by_cases isQuote : char = '"'
  · subst char
    simpa using complete_quote scan chars (single rfl)
  · rw [if_neg isQuote]
    split
    · rename_i comma
      obtain ⟨rfl, outside⟩ := comma
      exact complete_nextField scan chars outside
    · rename_i notComma
      apply complete_push scan char chars isQuote
      by_cases mode : scan.mode = .quoted
      · exact Or.inl mode
      · have notNewline := inside.resolve_left mode
        right
        simp_all [isLiteral]

theorem complete_run (scan : Scan) (content rest : List Char) (line : '\n' ∉ content)
    (behind : rest.head? ≠ some '"') :
    scan.complete (content ++ rest) = (scan.run content).complete rest := by
  induction scan, content using Scan.run.induct with
  | case1 scan => rfl
  | case2 scan chars inside ih =>
      simp only [List.mem_cons, not_or] at line
      rw [run, if_pos inside, List.cons_append, List.cons_append,
        complete_doubled scan _ inside]
      exact ih line.2.2
  | case3 scan chars outside ih =>
      simp only [List.mem_cons, not_or] at line
      rw [run, if_neg outside, List.cons_append,
        complete_quote scan _ fun inside => absurd inside outside]
      exact ih (by simp [line.2.2])
  | case4 scan char chars notDoubled ih =>
      simp only [List.mem_cons, not_or] at line
      have single : char = '"' → chars.head? ≠ some '"' := by
        rintro rfl doubled
        obtain ⟨later, rfl⟩ := List.head?_eq_some_iff.mp doubled
        exact notDoubled later rfl rfl
      have kept : scan.run (char :: chars) = (scan.step char).run chars := by
        rw [run]
        exact notDoubled
      rw [kept, List.cons_append, complete_step scan char _ _ (Or.inr (Ne.symm line.1))]
      · exact ih line.2
      · intro isQuote _
        cases chars with
        | nil => exact behind
        | cons next later => simpa using single isQuote

theorem complete_end (scan : Scan) (behind : List Char) (outside : scan.mode ≠ .quoted)
    (ended : behind = [] ∨ ∃ rest, behind = '\n' :: rest) :
    scan.complete behind = some (scan.toList, behind.tail) := by
  have none_literal : behind.takeWhile isLiteral = [] ∧ behind.dropWhile isLiteral = behind := by
    rcases ended with rfl | ⟨rest, rfl⟩ <;> simp [isLiteral]
  have notQuote : behind.head? ≠ some '"' := by
    rcases ended with rfl | ⟨rest, rfl⟩ <;> simp
  have notComma : behind.head? ≠ some ',' := by
    rcases ended with rfl | ⟨rest, rfl⟩ <;> simp
  have whole : Grammar.field behind = some ([], behind) := by
    rw [field_literal behind notQuote, none_literal.1, none_literal.2]
  cases mode : scan.mode with
  | start => simp [complete, mode, whole, finish_end _ _ behind notComma, toList]
  | bare =>
      simp [complete, mode, completeLiteral, none_literal, finish_end _ _ behind notComma, toList]
  | quoted => exact absurd mode outside

theorem complete_unclosed (scan : Scan) (quoted : scan.mode = .quoted) :
    scan.complete [] = none := by
  simp [complete, quoted, quotedText]

end Scan

theorem charLines_eq_nil {chars : List Char} : charLines chars = [] ↔ chars = [] := by
  constructor
  · intro cut
    by_cases empty : chars = []
    · exact empty
    · obtain ⟨line, rest, behind, nonempty, _⟩ := unread_line 0 chars empty
      simp [nonempty] at cut
  · rintro rfl
    rfl

theorem unread_cons (number total : Nat) (chars line : List Char) (lines : List (List Char))
    (cut : charLines chars = line :: lines)
    (counted : chars = [] ∨ number + newlines chars = total) :
    chars ≠ [] ∧ ∃ rest behind, charLines rest = lines ∧
      '\n' ∉ Line.content (number + 1) line ∧
      unread number chars = Line.content (number + 1) line ++ behind ∧
      (behind = '\n' :: unread (number + 1) rest ∨ behind = [] ∧ rest = []) ∧
      (rest = [] ∨ number + 1 + newlines rest = total) ∧ behind.head? ≠ some '"' := by
  have more : chars ≠ [] := by
    rintro rfl
    simp [charLines_eq_nil.mpr] at cut
  obtain ⟨first, rest, behind, cutFirst, inside, text, reads⟩ := unread_line number chars more
  obtain ⟨rfl, rfl⟩ := List.cons_eq_cons.mp (cutFirst.symm.trans cut)
  have before := counted.resolve_left more
  refine ⟨more, rest, behind, rfl, inside, text, reads.imp_left And.left, ?_, ?_⟩
  · rcases reads with ⟨_, counts⟩ | ⟨_, rfl⟩
    · right
      omega
    · exact Or.inl rfl
  · rcases reads with ⟨rfl, _⟩ | ⟨rfl, _⟩ <;> simp

namespace Reader

/-- A reader stands before `chars` if its lines hold them; `total` counts the LFs of the text. -/
structure StandsBefore (reader : Reader) (total : Nat) (chars : List Char) : Prop where
  lines : reader.lines = (charLines chars).map .text
  counted : chars = [] ∨ reader.number + newlines chars = total

/-- Whether finishing a row gives the fields that the grammar finds and leaves a reader behind them;
without such fields a quote stays open to the end. -/
def Finishes (input : String) (start total : Nat) (answer : Except Violation Row × Reader) :
    Option (List String × List Char) → Prop
  | none => answer.1 = .error (.record input start .unterminatedQuote) ∧ answer.2.lines = []
  | some (fields, behind) =>
      answer.1 = .ok ⟨start, fields⟩ ∧ answer.2.input = input ∧
        ∃ rest, answer.2.StandsBefore total rest ∧ behind = unread answer.2.number rest

theorem finishRow_stops (input : String) (start total number : Nat) (scan : Scan)
    (chars behind : List Char) (outside : scan.mode ≠ .quoted)
    (counted : chars = [] ∨ number + newlines chars = total)
    (ended : behind = '\n' :: unread number chars ∨ behind = [] ∧ chars = []) :
    Finishes input start total
      (finishRow input start number scan ((charLines chars).map .text)) (scan.complete behind) := by
  have rest : behind.tail = unread number chars := by
    rcases ended with rfl | ⟨rfl, rfl⟩
    · rfl
    · rw [unread_nil, List.tail_nil]
  have stopped (lines : List Line) : finishRow input start number scan lines =
      (.ok ⟨start, scan.toList⟩, ⟨input, number, lines⟩) := by
    cases lines <;> simp [finishRow, outside]
  rw [scan.complete_end behind outside (ended.symm.imp And.left fun same => ⟨_, same⟩), stopped]
  exact ⟨rfl, rfl, chars, ⟨rfl, counted⟩, rest⟩

theorem finishRow_finishes (input : String) (start total number : Nat) (scan : Scan)
    (chars behind : List Char) (counted : chars = [] ∨ number + newlines chars = total)
    (ended : behind = '\n' :: unread number chars ∨ behind = [] ∧ chars = []) :
    Finishes input start total
      (finishRow input start number scan ((charLines chars).map .text)) (scan.complete behind) := by
  generalize cut : charLines chars = lines
  -- While a quote is open each line is taken, and `complete` of what follows stays the same.
  induction lines generalizing number scan chars behind with
  | nil =>
      by_cases quoted : scan.mode = .quoted
      · obtain rfl : chars = [] := charLines_eq_nil.mp cut
        have unfinished : scan.complete behind = none := by
          rcases ended with rfl | ⟨rfl, _⟩
          · rw [scan.complete_push '\n' _ (by decide) (Or.inl quoted), unread_nil]
            exact Scan.complete_unclosed _ (by simp [Scan.push, quoted])
          · exact scan.complete_unclosed quoted
        simp [unfinished, finishRow, quoted, Finishes]
      · have stops :=
          finishRow_stops input start total number scan chars behind quoted counted ended
        simpa [cut] using stops
  | cons line lines ih =>
      by_cases quoted : scan.mode = .quoted
      · obtain ⟨more, rest, last, rfl, inside, text, reads, counts, notQuote⟩ :=
          unread_cons number total chars line lines cut counted
        obtain rfl : behind = '\n' :: unread number chars :=
          ended.resolve_right fun both => more both.2
        have next : finishRow input start number scan ((line :: charLines rest).map .text) =
            finishRow input start (number + 1)
              ((scan.push '\n').run (Line.content (number + 1) line))
              ((charLines rest).map .text) := by
          simp [finishRow, quoted]
        rw [scan.complete_push '\n' _ (by decide) (Or.inl quoted), next, text,
          Scan.complete_run _ _ _ inside notQuote]
        exact ih (number + 1) _ rest last counts reads rfl
      · have stops :=
          finishRow_stops input start total number scan chars behind quoted counted ended
        simpa [cut] using stops

def Follows (total : Nat) (answer : Except Violation (Option Row) × Reader)
    (expected : List (Except Violation Row)) : Prop :=
  match answer.1 with
  | .ok none => expected = []
  | .ok (some row) => ∃ rest, answer.2.StandsBefore total rest ∧
      expected = .ok row ::
        Grammar.answersFrom answer.2.input total (unread answer.2.number rest)
  | .error violation => expected = [.error violation] ∧ answer.2.lines = []

theorem Finishes.follows {input : String} (start total : Nat) {chars : List Char}
    {answer : Except Violation Row × Reader} (starts : chars.head? ≠ some '\n')
    (filled : chars ≠ [])
    (line : start = 1 + (total - newlines chars))
    (finishes : Finishes input start total answer (Grammar.record chars)) :
    Follows total (answer.map (Except.map some) id) (Grammar.answersFrom input total chars) := by
  rw [Grammar.answersFrom_record input total chars filled starts, ← line]
  cases found : Grammar.record chars with
  | none =>
      rw [found] at finishes
      obtain ⟨failed, ended⟩ := finishes
      simp [Follows, failed, ended, Except.map]
  | some record =>
      obtain ⟨fields, behind⟩ := record
      rw [found] at finishes
      obtain ⟨answered, same, rest, stands, rfl⟩ := finishes
      simpa [Follows, answered, Except.map, same] using ⟨rest, stands, rfl⟩

theorem nextFrom_follows (input : String) (number total : Nat) (chars : List Char)
    (counted : chars = [] ∨ number + newlines chars = total) :
    Follows total (nextFrom input number ((charLines chars).map .text))
      (Grammar.answersFrom input total (unread number chars)) := by
  generalize cut : charLines chars = lines
  induction lines generalizing number chars with
  | nil =>
      obtain rfl : chars = [] := charLines_eq_nil.mp cut
      simp [nextFrom, unread_nil, Follows, Grammar.answersFrom]
  | cons line lines ih =>
      obtain ⟨more, rest, behind, rfl, inside, text, reads, counts, notQuote⟩ :=
        unread_cons number total chars line lines cut counted
      cases content : Line.content (number + 1) line with
      | nil =>
          have skipped : nextFrom input number ((line :: charLines rest).map .text) =
              nextFrom input (number + 1) ((charLines rest).map .text) := by
            simp [nextFrom, content]
          have expected : Grammar.answersFrom input total (unread number chars) =
              Grammar.answersFrom input total (unread (number + 1) rest) := by
            rw [text, content, List.nil_append]
            rcases reads with rfl | ⟨rfl, rfl⟩
            · rw [Grammar.answersFrom_newline]
            · rw [unread_nil]
          rw [skipped, expected]
          exact ih (number + 1) rest counts rfl
      | cons char later =>
          have row : nextFrom input number ((line :: charLines rest).map .text) =
              (finishRow input (number + 1) (number + 1) (Scan.empty.run (char :: later))
                ((charLines rest).map .text)).map (Except.map some) id := by
            simp [nextFrom, content, Prod.map]
          have scanned : Grammar.record (unread number chars) =
              (Scan.empty.run (char :: later)).complete behind := by
            rw [← Scan.complete_empty, text, Scan.complete_run _ _ _ inside notQuote, content]
          have before := counted.resolve_left more
          rw [content] at text inside
          rw [row]
          apply Finishes.follows (number + 1) total
          · rw [text]
            simpa using fun same => inside (by simp [same])
          · simp [text]
          · rw [newlines_unread]
            omega
          · rw [scanned]
            exact finishRow_finishes _ _ _ _ _ rest behind counts reads

theorem answers_of_end (reader : Reader) (ended : reader.lines = []) : reader.answers = [] := by
  rw [answers_eq, next, ended]
  rfl

theorem answers_of_standsBefore (reader : Reader) (total : Nat) (chars : List Char)
    (stands : reader.StandsBefore total chars) :
    reader.answers = Grammar.answersFrom reader.input total (unread reader.number chars) := by
  generalize size : reader.lines.length = count
  induction count using Nat.strongRecOn generalizing reader chars with
  | ind count ih =>
      have follows := nextFrom_follows reader.input reader.number total chars stands.counted
      rw [← stands.lines] at follows
      have shorter := length_next_lt reader
      change Follows total reader.next _ at follows
      rw [answers_eq]
      cases found : reader.next with
      | mk answer rest =>
          rw [found] at follows shorter
          cases answer with
          | error violation =>
              obtain ⟨expected, ended⟩ := follows
              rw [expected]
              exact congrArg _ (answers_of_end rest ended)
          | ok row =>
              cases row with
              | none => exact follows.symm
              | some row =>
                  obtain ⟨left, standsRest, expected⟩ := follows
                  have fewer : rest.lines.length < count := size ▸ shorter (by simp)
                  rw [expected]
                  exact congrArg _ (ih _ fewer rest left standsRest rfl)

theorem answers_ofLines (input : String) (chars : List Char) :
    (ofLines input ((charLines chars).map .text)).answers = Grammar.answers input chars := by
  have stands :
      (ofLines input ((charLines chars).map .text)).StandsBefore (newlines chars) chars :=
    ⟨rfl, Or.inr (Nat.zero_add _)⟩
  rw [answers_of_standsBefore _ _ _ stands]
  simp [ofLines, unread, Grammar.answers, withoutMark_unifyEndings]

theorem answers_ofBytes (input text : String) :
    (ofBytes input text.toUTF8).answers = Grammar.answers input text.toList := by
  rw [ofBytes, lines_of_text, answers_ofLines]

end Reader

/-- Reading a text line by line answers what the grammar answers of its characters. Each answer is
about a record that starts behind as many LFs of the text as its line says, and if the text ends
between the quotes of a field, the last answer says so and names the line the record starts on. -/
theorem answers_eq_grammar (input text : String) :
    let answers := (Reader.ofBytes input text.toUTF8).answers
    answers = Grammar.answers input text.toList ∧
      (∀ answer ∈ answers, ∃ before rest, text.toList = before ++ rest ∧
        answer = Grammar.answerAt input (1 + newlines before) (unifyEndings rest)) ∧
      ∀ violation, .error violation ∈ answers → ∃ (rows : List Row) (line : Nat),
        answers = rows.map .ok ++ [.error violation] ∧
          violation = .record input line .unterminatedQuote := by
  intro answers
  have same : answers = Grammar.answers input text.toList := Reader.answers_ofBytes input text
  rw [same]
  refine ⟨rfl, ?_, ?_⟩
  · intro answer member
    exact Grammar.answers_located input text.toList answer member
  · intro violation member
    exact Grammar.answersFrom_failure _ _ _ violation member

end RowScan
