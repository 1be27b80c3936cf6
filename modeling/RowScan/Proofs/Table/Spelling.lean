import Mathlib
import RowScan.Proofs.Table.Pairs
import RowScan.Proofs.Table.RoundTrip

/-!
Tables of other producers. Each field may be bare or between quotes, needed or not, and the table
reads as the same rows.
-/

namespace RowScan

namespace Writer

/-- A field as a producer spells it: as it is, or between quotes with its own quotes doubled. -/
inductive Spelled where
  | bare (text : String)
  | quoted (text : String)
  deriving DecidableEq

namespace Spelled

def text : Spelled → String
  | bare text => text
  | quoted text => text

def chars : Spelled → List Char
  | bare text => text.toList
  | quoted text => '"' :: doubleQuotes text.toList ++ ['"']

def Fits : Spelled → Prop
  | bare text => ',' ∉ text.toList ∧ '\n' ∉ text.toList ∧ text.toList.head? ≠ some '"'
  | quoted text => ¬ ['\r', '\n'] <:+: text.toList

instance : DecidablePred Fits
  | bare text => inferInstanceAs (Decidable
      (',' ∉ text.toList ∧ '\n' ∉ text.toList ∧ text.toList.head? ≠ some '"'))
  | quoted text => inferInstanceAs (Decidable ¬ ['\r', '\n'] <:+: text.toList)

theorem spells_chars (field : Spelled) (fits : field.Fits) : Spells field.chars field.text := by
  cases field with
  | bare text =>
      obtain ⟨noComma, noNewline, starts⟩ := fits
      refine spells_bare text starts fun char member => ?_
      have notComma : char ≠ ',' := fun comma => noComma (comma ▸ member)
      have notNewline : char ≠ '\n' := fun newline => noNewline (newline ▸ member)
      simp [Grammar.isLiteral, notComma, notNewline]
  | quoted text => exact spells_quoted text

theorem newlines_chars (field : Spelled) : newlines field.chars = newlines field.text.toList := by
  cases field with
  | bare text => rfl
  | quoted text => exact newlines_quoted text.toList

theorem unifyEndings_chars (field : Spelled) (fits : field.Fits) :
    unifyEndings field.chars = field.chars := by
  cases field with
  | bare text =>
      rw [chars, unifyEndings_eq_self_iff]
      exact fun pair => fits.2.1 (pair.subset (by simp))
  | quoted text => rw [chars, unifyEndings_quoted, (unifyEndings_eq_self_iff _).mpr fits]

theorem head_chars (field : Spelled) (char : Char) (other : char ≠ '"')
    (starts : ∀ text, field = bare text → text.toList.head? ≠ some char) :
    field.chars.head? ≠ some char := by
  cases field with
  | bare text => exact starts text rfl
  | quoted text => simpa [chars] using other.symm

theorem last_chars (field : Spelled)
    (ends : ∀ text, field = bare text → text.toList.getLast? ≠ some '\r') :
    field.chars.getLast? ≠ some '\r' := by
  cases field with
  | bare text => exact ends text rfl
  | quoted text =>
      rw [chars, List.getLast?_append]
      simp

def rowChars (row : List Spelled) : List Char := lineChars (row.map chars)

/-- A row whose fields can have their forms at their places. In front of the LF that ends the row
no bare field can end in a CR, and an empty bare field cannot be the only one. -/
structure RowFits (row : List Spelled) : Prop where
  filled : row ≠ []
  each : ∀ field ∈ row, field.Fits
  ends : ∀ text, row.getLast? = some (bare text) → text.toList.getLast? ≠ some '\r'
  shown : row ≠ [bare ""]

theorem isRecord_rowChars (row : List Spelled) (fits : RowFits row) :
    IsRecord (rowChars row) (row.map text) where
  starts rest := by
    obtain ⟨first, fields, rfl⟩ := List.exists_cons_of_ne_nil fits.filled
    have firstFits := fits.each first List.mem_cons_self
    rw [rowChars, List.map_cons]
    refine head_lineChars (head_chars first '\n' (by decide) ?_) (by decide) ?_ rest
    · rintro text rfl starts
      exact firstFits.2.1 (List.mem_of_head? starts)
    · rintro empty alone -
      cases first with
      | bare text =>
          obtain rfl : text = "" := String.toList_eq_nil_iff.mp empty
          exact fits.shown (by rw [List.map_eq_nil_iff.mp alone])
      | quoted text => exact absurd empty (List.cons_ne_nil _ _)
  reads rest := by
    refine record_lineChars ?_ (by simpa using fits.filled) rest
    rw [List.forall₂_map_left_iff, List.forall₂_map_right_iff, List.forall₂_same]
    exact fun field member => spells_chars field (fits.each field member)

theorem newlines_rowChars (row : List Spelled) :
    newlines (rowChars row) = height (row.map text) := by
  rw [rowChars, newlines_lineChars, height, List.map_map, List.map_map]
  simp only [Function.comp_def, newlines_chars]

theorem unifyEndings_rowChars (row : List Spelled) (fits : RowFits row) (rest : List Char) :
    unifyEndings (rowChars row ++ rest) = rowChars row ++ unifyEndings rest := by
  have kept : (row.map chars).map unifyEndings = row.map chars := by
    rw [List.map_map]
    exact List.map_congr_left fun field member =>
      unifyEndings_chars field (fits.each field member)
  rw [rowChars, unifyEndings_lineChars, kept]
  intro piece last
  rw [List.getLast?_map, Option.map_eq_some_iff] at last
  obtain ⟨field, last, rfl⟩ := last
  refine last_chars field ?_
  rintro text rfl
  exact fits.ends text last

def table (rows : List (List Spelled)) : String := String.ofList (rows.flatMap rowChars)

def texts (rows : List (List Spelled)) : List (List String) := rows.map (List.map text)

/-- A table whose fields can have their forms at their places. At its front no bare field can start
with a byte order mark, which would be taken for the table's. -/
structure TableFits (rows : List (List Spelled)) : Prop where
  each : ∀ row ∈ rows, RowFits row
  unmarked : ∀ text fields later, rows = (bare text :: fields) :: later →
    text.toList.head? ≠ some '\ufeff'

theorem withoutMark_table (rows : List (List Spelled)) (fits : TableFits rows) :
    Line.withoutMark (rows.flatMap rowChars) = rows.flatMap rowChars := by
  apply withoutMark_of_other
  match rows, fits with
  | [], _ => simp
  | [] :: later, fits => exact absurd rfl (fits.each [] List.mem_cons_self).filled
  | (field :: fields) :: later, fits =>
      have starts : ∀ text, field = bare text → text.toList.head? ≠ some '\ufeff' := by
        rintro text rfl
        exact fits.unmarked text fields later rfl
      rw [List.flatMap_cons, rowChars, List.map_cons]
      exact head_lineChars (head_chars field _ (by decide) starts) (by decide)
        (fun _ _ => by decide) _

theorem unifyEndings_table (rows : List (List Spelled)) (fits : ∀ row ∈ rows, RowFits row) :
    unifyEndings (rows.flatMap rowChars) = rows.flatMap rowChars := by
  induction rows with
  | nil => rfl
  | cons row rows ih =>
      obtain ⟨first, others⟩ := List.forall_mem_cons.mp fits
      rw [List.flatMap_cons, unifyEndings_rowChars row first, ih others]

theorem newlines_table (rows : List (List Spelled)) :
    newlines (rows.flatMap rowChars) = ((texts rows).map height).sum := by
  induction rows with
  | nil => rfl
  | cons row rows ih =>
      rw [List.flatMap_cons, newlines_append, newlines_rowChars, ih]
      rfl

end Spelled

end Writer

open Writer in
/-- Whatever form each field has, the table reads as its rows, each on the line where it starts. -/
theorem answers_spelled (input : String) (rows : List (List Spelled))
    (fits : Spelled.TableFits rows) :
    (Reader.ofBytes input (Spelled.table rows).toUTF8).answers =
      (Spelled.texts rows).zipIdx.map fun (fields, index) =>
        .ok ⟨startLine (Spelled.texts rows) index, fields⟩ := by
  have each : ∀ row ∈ rows, ReadsAs (Spelled.rowChars row) (some (row.map Spelled.text)) :=
    fun row member => Spelled.isRecord_rowChars row (fits.each row member)
  have line (index : Nat) : 1 + newlines ((rows.take index).flatMap Spelled.rowChars) =
      startLine (Spelled.texts rows) index := by
    rw [Spelled.newlines_table, startLine, Spelled.texts, Spelled.texts, List.map_take]
  have read := answersFrom_rows Spelled.rowChars (fun row => some (row.map Spelled.text))
    input [] rows each
  rw [Reader.answers_ofBytes, Spelled.table, String.toList_ofList, Grammar.answers,
    Spelled.withoutMark_table rows fits, Spelled.unifyEndings_table rows fits.each]
  simp only [List.nil_append, List.length_nil, Option.map_some, line] at read
  rw [read, List.filterMap_eq_map', Spelled.texts, List.zipIdx_map, List.map_map]
  rfl

def mixedRows : List (List Writer.Spelled) :=
  [[.quoted "a", .bare "b\"c\r", .quoted "d\n\"e"], [.quoted ""], [.bare "", .bare "f \"g\""]]

theorem answers_spelled_mixed :
    Writer.Spelled.TableFits mixedRows ∧
      Writer.Spelled.table mixedRows = "\"a\",b\"c\r,\"d\n\"\"e\"\n\"\"\n,f \"g\"\n" ∧
      (Reader.ofBytes "t" (Writer.Spelled.table mixedRows).toUTF8).answers =
        [.ok ⟨1, ["a", "b\"c\r", "d\n\"e"]⟩, .ok ⟨3, [""]⟩, .ok ⟨4, ["", "f \"g\""]⟩] := by
  have each : ∀ row ∈ mixedRows, Writer.Spelled.RowFits row := by
    intro row member
    have fields : ∀ row ∈ mixedRows, ∀ field ∈ row, field.Fits := by decide +kernel
    simp only [mixedRows, List.mem_cons, List.not_mem_nil, or_false] at member
    refine ⟨?_, fields row (by simpa [mixedRows] using member), ?_, ?_⟩ <;>
      rcases member with rfl | rfl | rfl <;> simp
  have fits : Writer.Spelled.TableFits mixedRows := ⟨each, by simp [mixedRows]⟩
  refine ⟨fits, by decide +kernel, ?_⟩
  rw [answers_spelled "t" mixedRows fits]
  rfl

end RowScan
