import Mathlib
import RowScan.Proofs.Table.Continued

/-!
Single calls of a reader. `Reader.nextFrom_cases` says everything one call can do: what it answers,
which lines it takes and which it leaves. A call that is numbered answers what stands at its number
among the answers of the reader, and the end behind them.
-/

namespace RowScan

def lineBreaks (fields : List String) : Nat :=
  (fields.map fun field => newlines field.toList).sum

theorem lineBreaks_append (fields later : List String) :
    lineBreaks (fields ++ later) = lineBreaks fields + lineBreaks later := by
  simp [lineBreaks]

theorem lineBreaks_singleton (field : String) :
    lineBreaks [field] = newlines field.toList := by
  simp [lineBreaks]

/-- The line on which a row ends: each LF in its fields is the end of a line. -/
def Row.lastLine (row : Row) : Nat := row.line + lineBreaks row.fields

namespace Scan

theorem lineBreaks_toList (scan : Scan) :
    lineBreaks scan.toList = lineBreaks scan.fields.toList + newlines scan.field.toList := by
  rw [toList, Array.toList_push, lineBreaks_append, lineBreaks_singleton]

theorem lineBreaks_push (scan : Scan) (char : Char) :
    lineBreaks (scan.push char).toList = lineBreaks scan.toList + newlines [char] := by
  simp only [lineBreaks_toList, push, String.toList_push, newlines_append]
  omega

theorem lineBreaks_quote (scan : Scan) :
    lineBreaks scan.quote.toList = lineBreaks scan.toList := by
  unfold quote
  split
  · rfl
  · rw [lineBreaks_push]
    rfl
  · rfl

theorem lineBreaks_nextField (scan : Scan) :
    lineBreaks scan.nextField.toList = lineBreaks scan.toList := by
  rw [lineBreaks_toList]
  rfl

theorem lineBreaks_step (scan : Scan) (char : Char) (other : char ≠ '\n') :
    lineBreaks (scan.step char).toList = lineBreaks scan.toList := by
  unfold step
  split
  · exact scan.lineBreaks_quote
  · split
    · exact scan.lineBreaks_nextField
    · rw [lineBreaks_push, newlines_eq_zero.mpr (by simpa using other.symm), Nat.add_zero]

theorem lineBreaks_run (scan : Scan) (content : List Char) (inside : '\n' ∉ content) :
    lineBreaks (scan.run content).toList = lineBreaks scan.toList := by
  induction scan, content using Scan.run.induct with
  | case1 scan => rfl
  | case2 scan chars quoted ih =>
      simp only [List.mem_cons, not_or] at inside
      rw [run, if_pos quoted, ih inside.2.2, lineBreaks_push]
      rfl
  | case3 scan chars outside ih =>
      simp only [List.mem_cons, not_or] at inside
      rw [run, if_neg outside, ih (by simp [inside.2.2]), lineBreaks_quote]
  | case4 scan char chars notDoubled ih =>
      simp only [List.mem_cons, not_or] at inside
      have kept : scan.run (char :: chars) = (scan.step char).run chars := by
        rw [run]
        exact notDoubled
      rw [kept, ih inside.2, lineBreaks_step scan char (Ne.symm inside.1)]

end Scan

theorem newline_content (number : Nat) (chars : List Char)
    (single : '\n' ∉ Line.withoutEnding chars) : '\n' ∉ Line.content number chars := by
  unfold Line.content
  split
  · exact fun member => single ((withoutMark_suffix _).subset member)
  · exact single

namespace Reader

/-- How the end of a row is looked for among lines: it is found behind some lines of text, a line
that is not text comes first, or the lines run out. Only in the last case do lines behind matter. -/
inductive Finish (input : String) (start number : Nat) (scan : Scan) (lines : List Line) : Prop where
  | found (texts : List (List Char)) {behind : List Line} (fields : List String)
      (split : lines = texts.map .text ++ behind)
      (same : ∀ other, finishRow input start number scan (texts.map .text ++ other) =
        (.ok ⟨start, fields⟩, ⟨input, number + texts.length, other⟩))
      (breaks : (∀ chars ∈ texts, '\n' ∉ Line.withoutEnding chars) →
        lineBreaks fields = lineBreaks scan.toList + texts.length)
  | unreadable (texts : List (List Char)) {behind : List Line}
      (split : lines = texts.map .text ++ .broken :: behind)
      (same : ∀ other, finishRow input start number scan (texts.map .text ++ .broken :: other) =
        (.error (.io .notUtf8), ⟨input, number + texts.length, other⟩))
  | unfinished (texts : List (List Char)) (split : lines = texts.map .text)
      (last : finishRow input start number scan lines =
        (.error (.record input start .unterminatedQuote), ⟨input, number + texts.length, []⟩))

theorem finish_of_outside (input : String) (start number : Nat) (scan : Scan) (lines : List Line)
    (outside : scan.mode ≠ .quoted) : Finish input start number scan lines := by
  refine .found [] scan.toList rfl ?_ fun _ => rfl
  intro other
  cases other <;> simp [finishRow, outside]

theorem count_cons (number : Nat) (chars : List Char) (texts : List (List Char)) :
    number + 1 + texts.length = number + (chars :: texts).length := by
  rw [List.length_cons]
  omega

theorem Finish.take {input : String} {start number : Nat} {scan : Scan} {chars : List Char}
    {rest : List Line} (quoted : scan.mode = .quoted)
    (finish : Finish input start (number + 1)
      ((scan.push '\n').run (Line.content (number + 1) chars)) rest) :
    Finish input start number scan (.text chars :: rest) := by
  have taken (later : List Line) : finishRow input start number scan (.text chars :: later) =
      finishRow input start (number + 1)
        ((scan.push '\n').run (Line.content (number + 1) chars)) later := by
    rw [finishRow, if_pos quoted]
  cases finish with
  | found texts fields split same breaks =>
      refine .found (chars :: texts) fields (congrArg _ split) ?_ ?_
      · intro other
        rw [← count_cons]
        exact (taken _).trans (same other)
      · intro single
        obtain ⟨here, later⟩ := List.forall_mem_cons.mp single
        rw [breaks later, Scan.lineBreaks_run _ _ (newline_content _ _ here),
          Scan.lineBreaks_push, newlines_singleton, List.length_cons]
        omega
  | unreadable texts split same =>
      refine .unreadable (chars :: texts) (congrArg _ split) ?_
      intro other
      rw [← count_cons]
      exact (taken _).trans (same other)
  | unfinished texts split last =>
      refine .unfinished (chars :: texts) (congrArg _ split) ?_
      rw [← count_cons]
      exact (taken _).trans last

theorem finishRow_cases (input : String) (start number : Nat) (scan : Scan) (lines : List Line) :
    Finish input start number scan lines := by
  -- A line that is taken changes the number and the scan the rest is looked at with.
  induction lines generalizing number scan with
  | nil =>
      by_cases quoted : scan.mode = .quoted
      · exact .unfinished [] rfl (by simp [finishRow, quoted])
      · exact finish_of_outside input start number scan [] quoted
  | cons line rest ih =>
      by_cases quoted : scan.mode = .quoted
      · cases line with
        | broken => exact .unreadable [] rfl (by simp [finishRow, quoted])
        | text chars => exact .take quoted (ih (number + 1) _)
      · exact finish_of_outside input start number scan _ quoted

/-- Everything one call can do. It answers the end or a row that stays open behind lines of text
only; a row that is found takes lines of text, at least one, and a line that is not text is taken
with the text before it. The last two do not depend on the lines behind. -/
inductive Call (input : String) (number : Nat) (lines : List Line) : Prop where
  | ended (texts : List (List Char)) (split : lines = texts.map .text)
      (last : nextFrom input number lines = (.ok none, ⟨input, number + texts.length, []⟩))
  | row (texts : List (List Char)) {behind : List Line} (row : Row)
      (split : lines = texts.map .text ++ behind) (filled : texts ≠ [])
      (same : ∀ other, nextFrom input number (texts.map .text ++ other) =
        (.ok (some row), ⟨input, number + texts.length, other⟩))
      (ends : (∀ chars ∈ texts, '\n' ∉ Line.withoutEnding chars) →
        row.lastLine = number + texts.length)
  | unreadable (texts : List (List Char)) {behind : List Line}
      (split : lines = texts.map .text ++ .broken :: behind)
      (same : ∀ other, nextFrom input number (texts.map .text ++ .broken :: other) =
        (.error (.io .notUtf8), ⟨input, number + texts.length, other⟩))
  | unfinished (texts : List (List Char)) (start : Nat) (split : lines = texts.map .text)
      (last : nextFrom input number lines =
        (.error (.record input start .unterminatedQuote), ⟨input, number + texts.length, []⟩))

theorem Call.skip {input : String} {number : Nat} {chars : List Char} {rest : List Line}
    (content : Line.content (number + 1) chars = []) (call : Call input (number + 1) rest) :
    Call input number (.text chars :: rest) := by
  have skipped (later : List Line) : nextFrom input number (.text chars :: later) =
      nextFrom input (number + 1) later := by
    rw [nextFrom, content]
  cases call with
  | ended texts split last =>
      refine .ended (chars :: texts) (congrArg _ split) ?_
      rw [← count_cons]
      exact (skipped _).trans last
  | row texts row split filled same ends =>
      refine .row (chars :: texts) row (congrArg _ split) (by simp) ?_ ?_
      · intro other
        rw [← count_cons]
        exact (skipped _).trans (same other)
      · intro single
        rw [← count_cons]
        exact ends fun other member => single other (List.mem_cons_of_mem chars member)
  | unreadable texts split same =>
      refine .unreadable (chars :: texts) (congrArg _ split) ?_
      intro other
      rw [← count_cons]
      exact (skipped _).trans (same other)
  | unfinished texts start split last =>
      refine .unfinished (chars :: texts) start (congrArg _ split) ?_
      rw [← count_cons]
      exact (skipped _).trans last

theorem Finish.call {input : String} {number : Nat} {chars content : List Char} {rest : List Line}
    (same : Line.content (number + 1) chars = content) (filled : content ≠ [])
    (finish : Finish input (number + 1) (number + 1) (Scan.empty.run content) rest) :
    Call input number (.text chars :: rest) := by
  have started (later : List Line) : nextFrom input number (.text chars :: later) =
      (finishRow input (number + 1) (number + 1) (Scan.empty.run content) later).map
        (Except.map some) id := by
    obtain ⟨first, tail, rfl⟩ := List.exists_cons_of_ne_nil filled
    rw [nextFrom, same]
    rfl
  cases finish with
  | found texts fields split finished breaks =>
      refine .row (chars :: texts) ⟨number + 1, fields⟩ (congrArg _ split) (by simp) ?_ ?_
      · intro other
        rw [← count_cons]
        exact (started _).trans (congrArg _ (finished other))
      · intro single
        obtain ⟨here, later⟩ := List.forall_mem_cons.mp single
        have plain := newline_content (number + 1) chars here
        have none_yet : lineBreaks Scan.empty.toList = 0 := rfl
        rw [same] at plain
        rw [← count_cons, Row.lastLine, breaks later, Scan.lineBreaks_run _ _ plain, none_yet,
          Nat.zero_add]
  | unreadable texts split finished =>
      refine .unreadable (chars :: texts) (congrArg _ split) ?_
      intro other
      rw [← count_cons]
      exact (started _).trans (congrArg _ (finished other))
  | unfinished texts split last =>
      refine .unfinished (chars :: texts) (number + 1) (congrArg _ split) ?_
      rw [← count_cons]
      exact (started _).trans (congrArg _ last)

theorem nextFrom_cases (input : String) (number : Nat) (lines : List Line) :
    Call input number lines := by
  induction lines generalizing number with
  | nil => exact .ended [] rfl rfl
  | cons line rest ih =>
      cases line with
      | broken => exact .unreadable [] rfl fun other => rfl
      | text chars =>
          by_cases empty : Line.content (number + 1) chars = []
          · exact .skip empty (ih (number + 1))
          · exact Finish.call rfl empty (finishRow_cases input (number + 1) (number + 1) _ rest)

/-! Calls one after the other. -/

def after (reader : Reader) (count : Nat) : Reader := (fun reader => reader.next.2)^[count] reader

def call (reader : Reader) (index : Nat) : Except Violation (Option Row) :=
  (reader.after index).next.1

theorem after_succ (reader : Reader) (count : Nat) :
    reader.after (count + 1) = (reader.after count).next.2 :=
  Function.iterate_succ_apply' _ count reader

theorem input_after (reader : Reader) (count : Nat) : (reader.after count).input = reader.input := by
  induction count with
  | zero => rfl
  | succ count ih => rw [after_succ, input_next, ih]

theorem call_succ (reader : Reader) (index : Nat) :
    reader.call (index + 1) = reader.next.2.call index := by
  simp [call, after, Function.iterate_succ_apply]

theorem lines_of_ended (reader : Reader) (ended : reader.next.1 = .ok none) :
    reader.next.2.lines = [] := by
  unfold next at ended ⊢
  cases nextFrom_cases reader.input reader.number reader.lines with
  | ended texts split last => rw [last]
  | row texts row split filled same ends =>
      rw [split, same] at ended
      simp at ended
  | unreadable texts split same =>
      rw [split, same] at ended
      simp at ended
  | unfinished texts start split last =>
      rw [last] at ended
      simp at ended

end Reader

/-- What calls answer one after the other when the answers before the end are listed: behind them
every call answers the end. -/
def inTurn {α : Type} (answers : List (Except Violation α)) (index : Nat) :
    Except Violation (Option α) :=
  answers[index]?.elim (.ok none) (Except.map some)

theorem inTurn_eq_end {α : Type} (answers : List (Except Violation α)) (index : Nat) :
    inTurn answers index = .ok none ↔ answers[index]? = none := by
  rw [inTurn]
  rcases answers[index]? with _ | violation | result <;> simp [Except.map]

theorem inTurn_eq_some {α : Type} (answers : List (Except Violation α)) (index : Nat)
    (result : α) :
    inTurn answers index = .ok (some result) ↔ answers[index]? = some (.ok result) := by
  rw [inTurn]
  rcases answers[index]? with _ | violation | other <;> simp [Except.map]

theorem inTurn_eq_error {α : Type} (answers : List (Except Violation α)) (index : Nat)
    (violation : Violation) :
    inTurn answers index = .error violation ↔ answers[index]? = some (.error violation) := by
  rw [inTurn]
  rcases answers[index]? with _ | other | result <;> simp [Except.map]

theorem inTurn_eq_ok_iff {α : Type} (answers : List (Except Violation α)) (results : List α) :
    (∀ index, inTurn answers index = .ok results[index]?) ↔ answers = results.map .ok := by
  constructor
  · intro answered
    apply List.ext_getElem?
    intro index
    have here := answered index
    rw [List.getElem?_map]
    cases found : results[index]? with
    | none => exact (inTurn_eq_end answers index).mp (found ▸ here)
    | some result => exact (inTurn_eq_some answers index result).mp (found ▸ here)
  · rintro rfl index
    rw [inTurn, List.getElem?_map]
    cases results[index]? <;> rfl

theorem mapM_id_eq_error_iff {α : Type} (answers : List (Except Violation α))
    (violation : Violation) :
    answers.mapM id = .error violation ↔ ∃ index, inTurn answers index = .error violation ∧
      ∀ earlier < index, ∃ result, inTurn answers earlier = .ok (some result) := by
  simp only [inTurn_eq_error, inTurn_eq_some]
  constructor
  · intro failed
    have first := fault?_mapM id answers
    rw [failed, fault?_error, List.head?_filterMap, eq_comm, List.findSome?_eq_some_iff] at first
    obtain ⟨before, answer, behind, rfl, here, passed⟩ := first
    obtain rfl : answer = .error violation := (fault?_eq_some _ _).mp here
    refine ⟨before.length, by simp, ?_⟩
    intro earlier less
    obtain ⟨result, same⟩ := (fault?_eq_none _).mp (passed _ (List.getElem_mem less))
    refine ⟨result, ?_⟩
    rw [List.getElem?_append_left less, List.getElem?_eq_getElem less]
    exact congrArg some same
  · rintro ⟨index, failed, before⟩
    refine mapM_eq_error failed rfl ?_
    intro earlier less other listed
    obtain ⟨result, found⟩ := before earlier less
    exact ⟨result, Option.some.inj (listed.symm.trans found)⟩

namespace Reader

theorem call_eq_inTurn (reader : Reader) (index : Nat) :
    reader.call index = inTurn reader.answers index := by
  induction index generalizing reader with
  | zero =>
      rw [answers_eq]
      change reader.next.1 = _
      rcases reader.next with ⟨violation | _ | row, rest⟩ <;> rfl
  | succ index ih =>
      have final := lines_of_ended reader
      rw [call_succ, ih, answers_eq reader]
      rcases found : reader.next with ⟨violation | _ | row, rest⟩
      · rfl
      · rw [found] at final
        rw [answers_of_end rest (final rfl)]
        rfl
      · rfl

/-- Rows that have been read take lines of text, the last row ends on the last of them, and reading
these rows does not depend on the lines behind. -/
theorem exists_texts_of_rows (reader : Reader) (rows : List Row)
    (later : List (Except Violation Row)) (answered : reader.answers = rows.map .ok ++ later)
    (single : ∀ chars, .text chars ∈ reader.lines → '\n' ∉ Line.withoutEnding chars) :
    ∃ (texts : List (List Char)) (behind : List Line),
      reader.lines = texts.map .text ++ behind ∧
      later = (Reader.mk reader.input (reader.number + texts.length) behind).answers ∧
      (∀ other, (Reader.mk reader.input reader.number (texts.map .text ++ other)).answers =
        rows.map .ok ++ (Reader.mk reader.input (reader.number + texts.length) other).answers) ∧
      rows.getLast?.elim reader.number Row.lastLine = reader.number + texts.length := by
  induction rows generalizing reader with
  | nil => exact ⟨[], reader.lines, rfl, answered.symm, fun _ => rfl, rfl⟩
  | cons row rows ih =>
      have first := answers_eq reader
      rw [answered] at first
      cases nextFrom_cases reader.input reader.number reader.lines with
      | ended texts split last =>
          rw [next, last] at first
          simp at first
      | unreadable texts split same =>
          rw [next, split, same] at first
          simp at first
      | unfinished texts start split last =>
          rw [next, last] at first
          simp at first
      | @row texts behind taken split filled same ends =>
          rw [next, split, same] at first
          simp only [List.map_cons, List.cons_append, List.cons.injEq, Except.ok.injEq] at first
          obtain ⟨rfl, others⟩ := first
          have plain : ∀ chars ∈ texts, '\n' ∉ Line.withoutEnding chars := by
            intro chars member
            exact single chars (by simp [split, member])
          obtain ⟨laterTexts, further, splitLater, rest, sameLater, endsLater⟩ :=
            ih ⟨reader.input, reader.number + texts.length, behind⟩ others.symm
              fun chars member => single chars (by simp [split, member])
          have count : reader.number + texts.length + laterTexts.length =
              reader.number + (texts ++ laterTexts).length := by
            rw [List.length_append, Nat.add_assoc]
          rw [count] at rest sameLater endsLater
          simp only at splitLater endsLater
          refine ⟨texts ++ laterTexts, further, ?_, rest, ?_, ?_⟩
          · rw [split, splitLater, List.map_append, List.append_assoc]
          · intro other
            rw [List.map_append, List.append_assoc, answers_eq, next, same]
            exact congrArg _ (sameLater other)
          · -- The last row is the first one only if no other row has taken lines.
            rw [← endsLater, ← ends plain, List.getLast?_cons]
            cases rows.getLast? <;> rfl

end Reader

end RowScan
