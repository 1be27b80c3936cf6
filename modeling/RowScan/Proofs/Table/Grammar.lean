import Mathlib
import RowScan.Proofs.Table.Endings
import RowScan.Table.Row
import RowScan.Violation

/-!
The dialect of tables as a grammar over the characters of a whole text, read in one pass and without
physical lines. The text loses one byte order mark at its front and the CR of every CR LF; what is
left is a sequence of records with LFs between them.
-/

namespace RowScan

namespace Grammar

/-- The text between the quotes around a field, the first of which has been read, and what follows
the closing quote. A doubled quote stands for one. -/
def quotedText : List Char → Option (List Char × List Char)
  | [] => none
  | '"' :: '"' :: rest => (quotedText rest).map fun (text, behind) => ('"' :: text, behind)
  | '"' :: rest => some ([], rest)
  | char :: rest => (quotedText rest).map fun (text, behind) => (char :: text, behind)

def isLiteral (char : Char) : Bool := char ≠ ',' ∧ char ≠ '\n'

/-- A field and what follows it. Characters behind a closing quote belong to the field. -/
def field : List Char → Option (List Char × List Char)
  | '"' :: rest =>
      (quotedText rest).map fun (text, behind) =>
        (text ++ behind.takeWhile isLiteral, behind.dropWhile isLiteral)
  | chars => some (chars.takeWhile isLiteral, chars.dropWhile isLiteral)

theorem quotedText_closing (rest : List Char) (single : rest.head? ≠ some '"') :
    quotedText ('"' :: rest) = some ([], rest) := by
  cases rest with
  | nil => rfl
  | cons char rest =>
      have other : char ≠ '"' := by simpa using single
      simp [quotedText, other]

theorem quotedText_char (char : Char) (rest : List Char) (other : char ≠ '"') :
    quotedText (char :: rest) =
      (quotedText rest).map fun (text, behind) => (char :: text, behind) := by
  simp [quotedText, other]

theorem quotedText_suffix (chars text behind : List Char)
    (found : quotedText chars = some (text, behind)) : behind <:+ chars := by
  induction chars using quotedText.induct generalizing text with
  | case1 => simp [quotedText] at found
  | case2 rest ih =>
      simp only [quotedText, Option.map_eq_some_iff, Prod.mk.injEq, Prod.exists] at found
      obtain ⟨later, _, found, _, rfl⟩ := found
      exact ((ih later found).trans (List.suffix_cons _ _)).trans (List.suffix_cons _ _)
  | case3 rest single =>
      have closing : rest.head? ≠ some '"' := by
        cases rest <;> simp_all
      rw [quotedText_closing rest closing] at found
      simp only [Option.some.injEq, Prod.mk.injEq] at found
      rw [← found.2]
      exact List.suffix_cons _ _
  | case4 char rest notDoubled notQuote ih =>
      have other : char ≠ '"' := fun same => by simp_all
      rw [quotedText_char char rest other] at found
      simp only [Option.map_eq_some_iff, Prod.mk.injEq, Prod.exists] at found
      obtain ⟨later, _, found, _, rfl⟩ := found
      exact (ih later found).trans (List.suffix_cons _ _)

theorem field_literal (chars : List Char) (bare : chars.head? ≠ some '"') :
    field chars = some (chars.takeWhile isLiteral, chars.dropWhile isLiteral) := by
  cases chars with
  | nil => rfl
  | cons char rest =>
      have other : char ≠ '"' := by simpa using bare
      simp [field, other]

theorem field_suffix (chars text behind : List Char)
    (found : field chars = some (text, behind)) : behind <:+ chars := by
  by_cases quoted : chars.head? = some '"'
  · obtain ⟨rest, rfl⟩ := List.head?_eq_some_iff.mp quoted
    simp only [field, Option.map_eq_some_iff, Prod.mk.injEq, Prod.exists] at found
    obtain ⟨inner, later, found, _, rfl⟩ := found
    have inside := quotedText_suffix rest inner later found
    exact ((List.dropWhile_suffix isLiteral).trans inside).trans (List.suffix_cons _ _)
  · rw [field_literal chars quoted] at found
    simp only [Option.some.injEq, Prod.mk.injEq] at found
    rw [← found.2]
    exact List.dropWhile_suffix isLiteral

def record (chars : List Char) : Option (List String × List Char) :=
  match _found : field chars with
  | none => none
  | some (text, ',' :: rest) =>
      (record rest).map fun (fields, behind) => (String.ofList text :: fields, behind)
  | some (text, behind) => some ([String.ofList text], behind.tail)
termination_by chars.length
decreasing_by
  exact (field_suffix chars text (',' :: rest) _found).length_le

theorem record_of_missing (chars : List Char) (missing : field chars = none) :
    record chars = none := by
  rw [record]
  split <;> simp_all

theorem record_of_comma (chars text rest : List Char)
    (found : field chars = some (text, ',' :: rest)) :
    record chars =
      (record rest).map fun (fields, behind) => (String.ofList text :: fields, behind) := by
  rw [record]
  split
  all_goals simp_all

theorem record_of_end (chars text behind : List Char) (found : field chars = some (text, behind))
    (last : behind.head? ≠ some ',') :
    record chars = some ([String.ofList text], behind.tail) := by
  rw [record]
  split
  · simp_all
  · rename_i text' rest' found'
    rw [found] at found'
    simp only [Option.some.injEq, Prod.mk.injEq] at found'
    obtain ⟨_, rfl⟩ := found'
    simp at last
  · simp_all

theorem tail_suffix_tail {rest chars : List Char} (suffix : rest <:+ chars) :
    rest.tail <:+ chars.tail := by
  obtain ⟨start, rfl⟩ := suffix
  cases start with
  | nil => exact List.suffix_refl _
  | cons first start => exact (List.tail_suffix rest).trans (List.suffix_append start rest)

theorem record_suffix (chars : List Char) (fields : List String) (behind : List Char)
    (found : record chars = some (fields, behind)) : behind <:+ chars.tail := by
  induction chars using record.induct generalizing fields with
  | case1 chars missing =>
      rw [record] at found
      split at found <;> simp_all
  | case2 chars text rest split ih =>
      rw [record_of_comma chars text rest split] at found
      simp only [Option.map_eq_some_iff, Prod.mk.injEq, Prod.exists] at found
      obtain ⟨later, _, found, _, rfl⟩ := found
      have inside := tail_suffix_tail (field_suffix chars text (',' :: rest) split)
      exact ((ih later found).trans (List.tail_suffix rest)).trans inside
  | case3 chars text last notComma split =>
      have ended : last.head? ≠ some ',' := by
        intro comma
        obtain ⟨rest, rfl⟩ := List.head?_eq_some_iff.mp comma
        exact notComma rest rfl
      rw [record_of_end chars text last split ended] at found
      simp only [Option.some.injEq, Prod.mk.injEq] at found
      rw [← found.2]
      exact tail_suffix_tail (field_suffix chars text last split)

/-- What reading answers record by record. A record starts on the line behind the LFs before it:
`total` is the number of LFs in the whole text. -/
def answersFrom (input : String) (total : Nat) (chars : List Char) : List (Except Violation Row) :=
  match chars with
  | [] => []
  | '\n' :: rest => answersFrom input total rest
  | first :: rest =>
      let line := 1 + (total - newlines (first :: rest))
      match _found : record (first :: rest) with
      | none => [.error (.record input line .unterminatedQuote)]
      | some (fields, behind) => .ok ⟨line, fields⟩ :: answersFrom input total behind
termination_by chars.length
decreasing_by
  · simp
  · exact Nat.lt_succ_of_le (record_suffix (first :: rest) fields behind _found).length_le

theorem answersFrom_newline (input : String) (total : Nat) (rest : List Char) :
    answersFrom input total ('\n' :: rest) = answersFrom input total rest := by
  rw [answersFrom]

theorem answersFrom_record (input : String) (total : Nat) (chars : List Char)
    (filled : chars ≠ []) (starts : chars.head? ≠ some '\n') :
    answersFrom input total chars =
      match record chars with
      | none => [.error (.record input (1 + (total - newlines chars)) .unterminatedQuote)]
      | some (fields, behind) =>
          .ok ⟨1 + (total - newlines chars), fields⟩ :: answersFrom input total behind := by
  cases chars with
  | nil => exact absurd rfl filled
  | cons first rest =>
      rw [answersFrom]
      · split <;> simp_all
      · rintro rfl
        simp at starts

def answerAt (input : String) (line : Nat) (chars : List Char) : Except Violation Row :=
  match record chars with
  | none => .error (.record input line .unterminatedQuote)
  | some (fields, _) => .ok ⟨line, fields⟩

theorem line_of_answerAt {input : String} {line : Nat} {chars : List Char} {row : Row}
    (answered : answerAt input line chars = .ok row) : row.line = line := by
  unfold answerAt at answered
  split at answered
  · simp at answered
  · exact (congrArg Row.line (Except.ok.inj answered)).symm

theorem answersFrom_located (input : String) (total : Nat) (chars : List Char)
    (answer : Except Violation Row) (member : answer ∈ answersFrom input total chars) :
    ∃ rest, rest <:+ chars ∧ answer = answerAt input (1 + (total - newlines rest)) rest := by
  induction chars using answersFrom.induct total with
  | case1 => simp [answersFrom] at member
  | case2 rest ih =>
      rw [answersFrom_newline] at member
      obtain ⟨start, suffix, same⟩ := ih member
      exact ⟨start, suffix.trans (List.suffix_cons _ _), same⟩
  | case3 first rest other missing =>
      rw [answersFrom_record _ _ _ (by simp) (by simpa using other), missing] at member
      refine ⟨first :: rest, List.suffix_refl _, ?_⟩
      simpa [answerAt, missing] using member
  | case4 first rest other fields behind found ih =>
      rw [answersFrom_record _ _ _ (by simp) (by simpa using other), found] at member
      rcases List.mem_cons.mp member with same | later
      · refine ⟨first :: rest, List.suffix_refl _, ?_⟩
        simpa [answerAt, found] using same
      · obtain ⟨start, suffix, same⟩ := ih later
        have inside := record_suffix (first :: rest) fields behind found
        exact ⟨start, (suffix.trans inside).trans (List.suffix_cons _ _), same⟩

theorem answersFrom_failure (input : String) (total : Nat) (chars : List Char)
    (violation : Violation) (member : .error violation ∈ answersFrom input total chars) :
    ∃ (rows : List Row) (line : Nat),
      answersFrom input total chars = rows.map .ok ++ [.error violation] ∧
      violation = .record input line .unterminatedQuote := by
  induction chars using answersFrom.induct total with
  | case1 => simp [answersFrom] at member
  | case2 rest ih =>
      rw [answersFrom_newline] at member ⊢
      exact ih member
  | case3 first rest other missing =>
      rw [answersFrom_record _ _ _ (by simp) (by simpa using other), missing] at member ⊢
      simp only [List.mem_singleton, Except.error.injEq] at member
      exact ⟨[], _, by simp [member], member⟩
  | case4 first rest other fields behind found ih =>
      rw [answersFrom_record _ _ _ (by simp) (by simpa using other), found] at member ⊢
      simp only [List.mem_cons, reduceCtorEq, false_or] at member
      obtain ⟨rows, line, whole, same⟩ := ih member
      exact ⟨_ :: rows, line, congrArg (List.cons _) whole, same⟩

def answers (input : String) (text : List Char) : List (Except Violation Row) :=
  answersFrom input (newlines text) (unifyEndings (Line.withoutMark text))

theorem answers_located (input : String) (text : List Char) (answer : Except Violation Row)
    (member : answer ∈ answers input text) :
    ∃ before rest, text = before ++ rest ∧
      answer = answerAt input (1 + newlines before) (unifyEndings rest) := by
  obtain ⟨chars, suffix, same⟩ := answersFrom_located _ _ _ answer member
  obtain ⟨rest, original, rfl⟩ := suffix_unifyEndings _ chars suffix
  obtain ⟨before, rfl⟩ := original.trans (withoutMark_suffix text)
  refine ⟨before, rest, rfl, ?_⟩
  rw [same, newlines_unifyEndings, newlines_append, Nat.add_sub_cancel]

end Grammar

end RowScan
