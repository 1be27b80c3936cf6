import Mathlib
import RowScan.Proofs.Table.Continued

/-!
What is wrong with a table, in the order of its text: its header first, then its lines and rows. The
list ends at the first line that is not text. Each violation in it says where it lies.
-/

namespace RowScan

def Violation.place? : Violation → Option (String × Nat)
  | .schema input line .. | .record input line _ | .values input line .. => some (input, line)
  | .io _ | .config _ => none

/-- Whether a violation is only found at the end of a table: a quote that stays open or a table
without a row. -/
def Violation.atEnd : Violation → Bool
  | .record _ _ .unterminatedQuote | .schema _ _ _ [] => true
  | _ => false

namespace Table

variable (input : String) (columns : List String) (decode : Row → Except Violation α)

def headerViolation? (header : Row) : Option Violation :=
  if header.fields = columns then none
  else some (.schema input header.line columns header.fields)

def violationsOf (count : Nat) : List (Except Violation Row) → List Violation
  | [] => [.schema input (max count 1) columns []]
  | .error violation :: _ => [violation]
  | .ok header :: later =>
      (headerViolation? input columns header).toList ++
        later.filterMap fun answer => fault? (answer.bind decode)

def violations (lines : List Line) : List Violation :=
  violationsOf input columns decode lines.length (Grammar.answersOfLines input lines)

theorem head?_violationsOf_append (count : Nat) (answers later : List (Except Violation Row))
    (failed : ∃ violation, .error violation ∈ answers) :
    (violationsOf input columns decode count (answers ++ later)).head? =
      (violationsOf input columns decode count answers).head? := by
  obtain ⟨violation, member⟩ := failed
  cases answers with
  | nil => simp at member
  | cons answer rest =>
      cases answer with
      | error first => rfl
      | ok header =>
          have inside : .error violation ∈ rest := by simpa using member
          have some_failure :
              rest.filterMap (fun answer => fault? (answer.bind decode)) ≠ [] := by
            intro none_found
            rw [List.filterMap_eq_nil_iff] at none_found
            exact absurd (none_found _ inside) (by simp [Except.bind])
          obtain ⟨first, others, found⟩ := List.exists_cons_of_ne_nil some_failure
          simp only [List.cons_append, violationsOf, List.filterMap_append, found,
            List.head?_append, List.head?_cons]

theorem head?_violations (bytes : ByteArray) :
    (violationsOf input columns decode (linesOf bytes).length
        (Reader.ofBytes input bytes).answers).head? =
      (violations input columns decode (linesOf bytes)).head? := by
  obtain ⟨later, answered, unbroken⟩ := Reader.answers_ofBytes_lines input bytes
  rw [answered, violations]
  by_cases broken : .broken ∈ linesOf bytes
  · apply head?_violationsOf_append
    exact ⟨.io .notUtf8, by simp [Grammar.answersOfLines, broken]⟩
  · rw [unbroken broken, List.append_nil]

end Table

namespace Reader

theorem number_of_end (input : String) (number : Nat) (lines : List Line)
    (ended : (nextFrom input number lines).1 = .ok none) :
    (nextFrom input number lines).2.number = number + lines.length := by
  induction lines generalizing number with
  | nil => rfl
  | cons line rest ih =>
      cases line with
      | broken => simp [nextFrom] at ended
      | text chars =>
          cases content : Line.content (number + 1) chars with
          | nil =>
              simp only [nextFrom, content] at ended ⊢
              rw [ih (number + 1) ended, List.length_cons]
              omega
          | cons first later =>
              simp only [nextFrom, content] at ended
              exact absurd ended (map_some_ne_none _)

theorem fault?_header (reader : Reader) (columns : List String) (named : columns ≠ []) :
    fault? (reader.header columns).1 =
      match reader.answers with
      | [] =>
          some (.schema reader.input (max (reader.number + reader.lines.length) 1) columns [])
      | .error violation :: _ => some violation
      | .ok header :: _ => Table.headerViolation? reader.input columns header := by
  have kept := reader.input_next
  have count := number_of_end reader.input reader.number reader.lines
  change reader.next.1 = .ok none → reader.next.2.number = _ at count
  rw [answers_eq]
  unfold header
  rcases found : reader.next with ⟨violation | _ | row, rest⟩
  · rfl
  · rw [found] at kept count
    simp only at kept
    have last : rest.number = reader.number + reader.lines.length := count rfl
    simp [named.symm, kept, last]
  · rw [found] at kept
    simp only at kept
    simp only [Table.headerViolation?, kept]
    split <;> rfl

end Reader

namespace Table

variable (input : String) (columns : List String) (decode : Row → Except Violation α)

theorem head?_violations_header (bytes : ByteArray) (named : columns ≠ []) :
    match (Reader.ofBytes input bytes).header columns with
    | (.error violation, _) =>
        (violations input columns decode (linesOf bytes)).head? = some violation
    | (.ok (), reader) => reader.input = input ∧
        (violations input columns decode (linesOf bytes)).head? =
          (reader.answers.filterMap fun answer => fault? (answer.bind decode)).head? := by
  have header := (Reader.ofBytes input bytes).fault?_header columns named
  rw [← head?_violations]
  rcases passed : (Reader.ofBytes input bytes).header columns with ⟨violation | done, reader⟩
  · rw [passed, fault?_error] at header
    simp only
    rcases answered : (Reader.ofBytes input bytes).answers with _ | ⟨failed | row, later⟩
    · rw [answered] at header
      rw [violationsOf, List.head?_cons, header]
      simp [Reader.ofBytes, Reader.ofLines, linesOf]
    · rw [answered] at header
      rw [violationsOf, List.head?_cons, header]
    · rw [answered] at header
      have refused : headerViolation? input columns row = some violation := header.symm
      rw [violationsOf, List.head?_append, Option.head?_toList, refused, Option.some_or]
  · obtain ⟨same, line, answered⟩ := Reader.answers_of_header _ reader columns named passed
    refine ⟨same, ?_⟩
    simp only [answered, violationsOf, headerViolation?, if_true, Option.toList_none,
      List.nil_append]

/-! Each violation lies where its row starts. -/

def Blames (answer : Except Violation Row) (violation : Violation) : Prop :=
  fault? (answer.bind decode) = some violation ∨
    ∃ header, answer = .ok header ∧ headerViolation? input columns header = some violation

/-- Where a violation lies among the lines of a table. The line of a row is counted from the line
ends in the text before the row. -/
inductive Located (lines : List Line) : Violation → Prop where
  | unreadable (broken : .broken ∈ lines) : Located lines (.io .notUtf8)
  | blank (empty : Grammar.answersOfLines input lines = []) :
      Located lines (.schema input (max lines.length 1) columns [])
  | row {violation : Violation} {before rest : List Char}
      (split : readable lines = before ++ rest)
      (place : violation.place? = some (input, 1 + newlines before))
      (blamed : Blames input columns decode
        (Grammar.answerAt input (1 + newlines before) (unifyEndings rest)) violation) :
      Located lines violation

variable {input columns decode}

theorem Blames.place {line : Nat} {chars : List Char} {violation : Violation}
    (blamed : Blames input columns decode (Grammar.answerAt input line chars) violation)
    (named : ∀ row violation, decode row = .error violation →
      violation.place? = some (input, row.line)) : violation.place? = some (input, line) := by
  unfold Grammar.answerAt at blamed
  cases found : Grammar.record chars with
  | none =>
      simp only [found] at blamed
      rcases blamed with same | ⟨header, same, _⟩
      · obtain rfl : Violation.record input line .unterminatedQuote = violation :=
          Option.some.inj same
        rfl
      · simp at same
  | some record =>
      simp only [found] at blamed
      rcases blamed with same | ⟨header, same, refused⟩
      · exact named _ _ ((fault?_eq_some _ _).mp same)
      · obtain rfl := Except.ok.inj same
        unfold headerViolation? at refused
        split at refused
        · simp at refused
        · obtain rfl := Option.some.inj refused
          rfl

theorem located_of_blames {lines : List Line} {answer : Except Violation Row}
    {violation : Violation}
    (named : ∀ row violation, decode row = .error violation →
      violation.place? = some (input, row.line))
    (member : answer ∈ Grammar.answersOfLines input lines)
    (blamed : Blames input columns decode answer violation) :
    Located input columns decode lines violation := by
  rcases Grammar.answersOfLines_located input lines answer member with
    ⟨rfl, broken⟩ | ⟨before, rest, split, rfl⟩
  · rcases blamed with same | ⟨header, same, _⟩
    · obtain rfl : Violation.io .notUtf8 = violation := Option.some.inj same
      exact .unreadable broken
    · simp at same
  · exact .row split (blamed.place named) blamed

theorem located_of_mem {lines : List Line} {violation : Violation}
    (named : ∀ row violation, decode row = .error violation →
      violation.place? = some (input, row.line))
    (member : violation ∈ violations input columns decode lines) :
    Located input columns decode lines violation := by
  unfold violations at member
  rcases answered : Grammar.answersOfLines input lines with _ | ⟨failed | header, later⟩
  · rw [answered] at member
    obtain rfl : violation = .schema input (max lines.length 1) columns [] := by
      simpa [violationsOf] using member
    exact .blank answered
  · rw [answered] at member
    obtain rfl : violation = failed := by simpa [violationsOf] using member
    exact located_of_blames named (answered ▸ List.mem_cons_self) (Or.inl rfl)
  · rw [answered, violationsOf, List.mem_append, Option.mem_toList, List.mem_filterMap] at member
    rcases member with refused | ⟨answer, inside, same⟩
    · exact located_of_blames named (answered ▸ List.mem_cons_self) (Or.inr ⟨header, rfl, refused⟩)
    · exact located_of_blames named (answered ▸ List.mem_cons_of_mem _ inside) (Or.inl same)

end Table

end RowScan
