import Mathlib
import RowScan.Proofs.Table.Assembly
import RowScan.Proofs.Table.Reading

/-!
Reading back what has been written. A written table reads as its rows, less those without content,
with the CR gone from each CR LF and a byte order mark gone from the front of the table.
-/

namespace RowScan

namespace Writer

def isBlank (fields : List String) : Bool := fields = [] ∨ fields = [""]

def unified (field : String) : String := String.ofList (unifyEndings field.toList)

/-- A field without the byte order mark at its front, if nothing in it calls for quotes. -/
def unmarked (field : String) : String :=
  if ∀ char ∈ field.toList, char ∉ [',', '"', '\r', '\n'] then
    String.ofList (Line.withoutMark field.toList)
  else field

def unmarkFirst : List (List String) → List (List String)
  | (first :: fields) :: rows => (unmarked first :: fields) :: rows
  | rows => rows

def height (fields : List String) : Nat :=
  1 + (fields.map fun field => newlines field.toList).sum

def startLine (rows : List (List String)) (index : Nat) : Nat :=
  1 + ((rows.take index).map height).sum

def readBack (rows : List (List String)) : List Row :=
  (unmarkFirst rows).zipIdx.filterMap fun (fields, index) =>
    if isBlank fields then none else some ⟨startLine rows index, fields.map unified⟩

/-! The characters of a written table. -/

def fieldChars (field : String) : List Char :=
  if needsQuotes field then '"' :: doubleQuotes field.toList ++ ['"'] else field.toList

def laterChars (fields : List String) : List Char :=
  fields.flatMap fun field => ',' :: fieldChars field

def rowChars : List String → List Char
  | [] => ['\n']
  | field :: fields => fieldChars field ++ laterChars fields ++ ['\n']

def tableChars (rows : List (List String)) : List Char := rows.flatMap rowChars

theorem flatMap_fieldPieces (field : String) :
    (fieldPieces field).flatMap String.toList = fieldChars field := by
  unfold fieldPieces fieldChars
  split <;> simp

theorem flatMap_laterPieces (fields : List String) :
    (laterPieces fields).flatMap String.toList = laterChars fields := by
  simp [laterPieces, laterChars, List.flatMap_assoc, flatMap_fieldPieces]

theorem toList_rowText (fields : List String) : (rowText fields).toList = rowChars fields := by
  cases fields with
  | nil => rfl
  | cons field fields =>
      simp [rowText, rowPieces, rowChars, flatMap_fieldPieces, flatMap_laterPieces]

theorem toList_text (rows : List (List String)) : (text rows).toList = tableChars rows := by
  simp [text, tableChars, List.flatMap_map, toList_rowText]

/-! Reading such characters by the grammar. -/

theorem needsQuotes_eq_false {field : String} :
    needsQuotes field = false ↔ ∀ char ∈ field.toList, char ∉ [',', '"', '\r', '\n'] := by
  simp only [needsQuotes, List.any_eq_false, Bool.or_eq_true, beq_iff_eq, List.mem_cons,
    List.not_mem_nil, or_false]
  constructor
  · intro plain char member special
    exact plain char member (by grind)
  · intro plain char member special
    exact plain char member (by grind)

theorem spells_fieldChars (field : String) : Spells (fieldChars field) field := by
  unfold fieldChars
  by_cases quoted : needsQuotes field
  · rw [if_pos quoted]
    exact spells_quoted field
  · rw [if_neg quoted]
    have plain := needsQuotes_eq_false.mp (by simpa using quoted)
    refine spells_bare field (fun first => ?_) (fun char member => ?_)
    · exact plain '"' (List.mem_of_head? first) (by simp)
    · have other := plain char member
      simp_all [Grammar.isLiteral]

theorem rowChars_eq (fields : List String) :
    rowChars fields = lineChars (fields.map fieldChars) := by
  cases fields with
  | nil => rfl
  | cons field fields =>
      induction fields generalizing field with
      | nil => simp [rowChars, laterChars, lineChars_singleton]
      | cons next fields ih =>
          rw [List.map_cons, List.map_cons, lineChars_cons_cons, ← List.map_cons, ← ih]
          simp [rowChars, laterChars]

theorem record_rowChars (fields : List String) (rest : List Char) (filled : fields ≠ []) :
    Grammar.record (rowChars fields ++ rest) = some (fields, rest) := by
  rw [rowChars_eq]
  refine record_lineChars ?_ filled rest
  rw [List.forall₂_map_left_iff, List.forall₂_same]
  exact fun field _ => spells_fieldChars field

theorem newlines_fieldChars (field : String) :
    newlines (fieldChars field) = newlines field.toList := by
  unfold fieldChars
  split
  · exact newlines_quoted field.toList
  · rfl

theorem newlines_rowChars (fields : List String) : newlines (rowChars fields) = height fields := by
  rw [rowChars_eq, newlines_lineChars, List.map_map, height]
  simp only [Function.comp_def, newlines_fieldChars]

theorem newlines_tableChars (rows : List (List String)) :
    newlines (tableChars rows) = (rows.map height).sum := by
  induction rows with
  | nil => rfl
  | cons fields rows ih =>
      rw [tableChars, List.flatMap_cons, newlines_append, newlines_rowChars, ← tableChars, ih]
      rfl

theorem rowChars_ne_nil (fields : List String) : rowChars fields ≠ [] := by
  cases fields <;> simp [rowChars]

theorem rowChars_blank (fields : List String) (blank : isBlank fields = true) :
    rowChars fields = ['\n'] := by
  simp only [isBlank, decide_eq_true_eq] at blank
  rcases blank with rfl | rfl <;> rfl

theorem head_rowChars (fields : List String) (rest : List Char) (shown : isBlank fields = false) :
    (rowChars fields ++ rest).head? ≠ some '\n' := by
  cases fields with
  | nil => simp [isBlank] at shown
  | cons field fields =>
      rw [rowChars_eq, List.map_cons]
      refine head_lineChars ?_ (by decide) ?_ rest
      · by_cases quoted : needsQuotes field
        · simp [fieldChars, quoted]
        · have plain := needsQuotes_eq_false.mp (by simpa using quoted)
          rw [fieldChars, if_neg quoted]
          exact fun first => plain '\n' (List.mem_of_head? first) (by simp)
      · rintro empty alone -
        have nothing : field = "" := by
          by_cases quoted : needsQuotes field <;> simp_all [fieldChars]
        simp_all [isBlank]

theorem readsAs_rowChars (fields : List String) :
    ReadsAs (rowChars fields) (if isBlank fields then none else some fields) := by
  by_cases blank : isBlank fields
  · rw [if_pos blank]
    exact rowChars_blank fields blank
  · rw [if_neg blank]
    have shown : isBlank fields = false := by simpa using blank
    have filled : fields ≠ [] := by
      rintro rfl
      simp [isBlank] at shown
    exact ⟨fun rest => head_rowChars fields rest shown,
      fun rest => record_rowChars fields rest filled⟩

theorem answersFrom_tableChars (input : String) (before rows : List (List String)) :
    Grammar.answersFrom input ((before ++ rows).map height).sum (tableChars rows) =
      (rows.zipIdx before.length).filterMap fun (fields, index) =>
        if isBlank fields then none else some (.ok ⟨startLine (before ++ rows) index, fields⟩) := by
  have read := answersFrom_rows rowChars
    (fun fields => if isBlank fields then none else some fields) input before rows
    fun fields _ => readsAs_rowChars fields
  rw [← tableChars, newlines_tableChars, ← tableChars] at read
  rw [read]
  congr
  funext entry
  obtain ⟨fields, index⟩ := entry
  by_cases blank : isBlank fields
  · simp [blank]
  · simp only [blank, Bool.false_eq_true, if_false, Option.map_some, startLine]
    rw [← tableChars, newlines_tableChars]

/-!
The CR of each CR LF and the byte order mark are taken from a written table as from its fields.
-/

theorem needsQuotes_unified (field : String) : needsQuotes (unified field) = needsQuotes field := by
  unfold needsQuotes unified
  rw [String.toList_ofList]
  induction field.toList using unifyEndings.induct with
  | case1 => rfl
  | case2 text ih => simp [unifyEndings]
  | case3 char text notPair ih =>
      rw [unifyEndings]
      · simp only [List.any_cons, ih]
      · exact notPair

theorem unifyEndings_fieldChars (field : String) :
    unifyEndings (fieldChars field) = fieldChars (unified field) := by
  unfold fieldChars
  rw [needsQuotes_unified]
  split
  · rw [unifyEndings_quoted, unified, String.toList_ofList]
  · rw [unified, String.toList_ofList]

theorem last_fieldChars (field : String) : (fieldChars field).getLast? ≠ some '\r' := by
  unfold fieldChars
  split
  · rw [List.getLast?_append]
    simp
  · rename_i quoted
    intro last
    have plain := needsQuotes_eq_false.mp (by simpa using quoted)
    exact plain '\r' (List.mem_of_getLast? last) (by simp)

theorem unifyEndings_rowChars (fields : List String) (rest : List Char) :
    unifyEndings (rowChars fields ++ rest) =
      rowChars (fields.map unified) ++ unifyEndings rest := by
  have closed (piece : List Char) (last : (fields.map fieldChars).getLast? = some piece) :
      piece.getLast? ≠ some '\r' := by
    obtain ⟨field, -, rfl⟩ := List.mem_map.mp (List.mem_of_getLast? last)
    exact last_fieldChars field
  rw [rowChars_eq, rowChars_eq, unifyEndings_lineChars _ closed, List.map_map, List.map_map]
  simp only [Function.comp_def, unifyEndings_fieldChars]

theorem unifyEndings_tableChars (rows : List (List String)) :
    unifyEndings (tableChars rows) = tableChars (rows.map (List.map unified)) := by
  induction rows with
  | nil => rfl
  | cons fields rows ih =>
      have split (fields : List String) (rows : List (List String)) :
          tableChars (fields :: rows) = rowChars fields ++ tableChars rows := rfl
      rw [List.map_cons, split, split, ← ih, unifyEndings_rowChars]

theorem withoutMark_fieldChars (field : String) (rest : List Char) (ended : EndsField rest) :
    Line.withoutMark (fieldChars field ++ rest) = fieldChars (unmarked field) ++ rest := by
  by_cases quoted : needsQuotes field
  · have kept : unmarked field = field := by
      rw [unmarked, if_neg]
      rw [← needsQuotes_eq_false, quoted]
      simp
    rw [kept, withoutMark_of_other _ (by simp [fieldChars, quoted])]
  · have bare : needsQuotes field = false := by simpa using quoted
    have plain := needsQuotes_eq_false.mp bare
    have unquoted : needsQuotes (unmarked field) = false := by
      rw [unmarked, if_pos plain, needsQuotes_eq_false, String.toList_ofList]
      intro char member
      exact plain char ((withoutMark_suffix field.toList).subset member)
    have other : rest.head? ≠ some '\ufeff' := by
      obtain ⟨later, rfl | rfl⟩ := ended <;> simp
    simp only [fieldChars, bare, unquoted, Bool.false_eq_true, if_false]
    rw [withoutMark_append _ _ other, unmarked, if_pos plain, String.toList_ofList]

theorem withoutMark_tableChars (rows : List (List String)) :
    Line.withoutMark (tableChars rows) = tableChars (unmarkFirst rows) := by
  match rows with
  | [] => rfl
  | [] :: rows => rfl
  | (first :: fields) :: rows =>
      have split (first : String) : tableChars ((first :: fields) :: rows) =
          fieldChars first ++ (laterChars fields ++ '\n' :: tableChars rows) := by
        simp [tableChars, rowChars]
      have ended : EndsField (laterChars fields ++ '\n' :: tableChars rows) := by
        cases fields with
        | nil => exact ⟨_, Or.inr rfl⟩
        | cons next fields => exact ⟨_, Or.inl (by simp [laterChars]; rfl)⟩
      rw [unmarkFirst, split, split, withoutMark_fieldChars first _ ended]

/-! Neither change moves a row to another line or makes one show. -/

theorem height_unified (fields : List String) : height (fields.map unified) = height fields := by
  simp [height, unified, newlines_unifyEndings, Function.comp_def]

theorem newlines_unmarked (field : String) :
    newlines (unmarked field).toList = newlines field.toList := by
  unfold unmarked
  split
  · rw [String.toList_ofList, newlines_withoutMark]
  · rfl

theorem heights_read (rows : List (List String)) :
    ((unmarkFirst rows).map (List.map unified)).map height = rows.map height := by
  have unify : height ∘ List.map unified = height := funext height_unified
  rw [List.map_map, unify]
  match rows with
  | [] => rfl
  | [] :: rows => rfl
  | (first :: fields) :: rows => simp [unmarkFirst, height, newlines_unmarked]

theorem startLine_read (rows : List (List String)) (index : Nat) :
    startLine ((unmarkFirst rows).map (List.map unified)) index = startLine rows index := by
  simp only [startLine, List.map_take, heights_read]

theorem unified_eq_empty (field : String) : unified field = "" ↔ field = "" := by
  have empty : unifyEndings field.toList = [] ↔ field.toList = [] := by
    unfold unifyEndings
    split <;> simp_all
  rw [← String.toList_inj, unified, String.toList_ofList, ← String.toList_inj]
  exact empty

theorem isBlank_unified (fields : List String) : isBlank (fields.map unified) = isBlank fields := by
  have single : fields.map unified = [""] ↔ fields = [""] := by
    match fields with
    | [] => simp
    | [field] => simp [unified_eq_empty]
    | _ :: _ :: _ => simp
  simp [isBlank, single]

end Writer

open Writer in
/-- A written table reads back as the rows it was written with, but for those without content; in
their fields each CR LF has become an LF, and the table has lost a byte order mark at its front. -/
theorem answers_text_eq_readBack (input : String) (rows : List (List String)) :
    (Reader.ofBytes input (Writer.text rows).toUTF8).answers =
      (Writer.readBack rows).map .ok := by
  have total : newlines (tableChars rows) =
      (([] ++ (unmarkFirst rows).map (List.map unified)).map height).sum := by
    rw [newlines_tableChars, List.nil_append, heights_read]
  rw [Reader.answers_ofBytes, toList_text, Grammar.answers, withoutMark_tableChars,
    unifyEndings_tableChars, total, answersFrom_tableChars, readBack, List.zipIdx_map,
    List.filterMap_map, List.map_filterMap]
  congr
  funext entry
  obtain ⟨fields, index⟩ := entry
  simp only [Function.comp_apply, Prod.map_apply, id_eq, List.nil_append, startLine_read,
    isBlank_unified]
  split <;> rfl

end RowScan
