import Mathlib
import RowScan.Proofs.Table.Grammar
import RowScan.Table.Writer

/-!
Tables put together from fields. Whatever form a field has, if its characters read as the field,
then such characters with commas between them read as a row, and rows read one after the other.
-/

namespace RowScan

namespace Writer

def EndsField (behind : List Char) : Prop :=
  ∃ rest, behind = ',' :: rest ∨ behind = '\n' :: rest

/-- Characters that read as a field, whatever ends it. -/
def Spells (chars : List Char) (field : String) : Prop :=
  ∀ behind, EndsField behind → Grammar.field (chars ++ behind) = some (field.toList, behind)

def lineChars (pieces : List (List Char)) : List Char := [','].intercalate pieces ++ ['\n']

structure IsRecord (chars : List Char) (fields : List String) : Prop where
  starts : ∀ rest, (chars ++ rest).head? ≠ some '\n'
  reads : ∀ rest, Grammar.record (chars ++ rest) = some (fields, rest)

theorem EndsField.stops {behind : List Char} (ended : EndsField behind) :
    behind.head? ≠ some '"' ∧ behind.takeWhile Grammar.isLiteral = [] ∧
      behind.dropWhile Grammar.isLiteral = behind := by
  obtain ⟨rest, rfl | rfl⟩ := ended <;> simp [Grammar.isLiteral]

/-! The two forms of a field: between quotes, with its own quotes doubled, and bare. -/

theorem quotedText_doubleQuotes (text behind : List Char) (apart : behind.head? ≠ some '"') :
    Grammar.quotedText (doubleQuotes text ++ '"' :: behind) = some (text, behind) := by
  induction text with
  | nil => exact Grammar.quotedText_closing behind apart
  | cons char text ih =>
      by_cases quote : char = '"'
      · subst char
        simp [doubleQuotes, Grammar.quotedText, ih]
      · rw [doubleQuotes, if_neg quote, List.cons_append, Grammar.quotedText_char _ _ quote, ih]
        rfl

theorem spells_quoted (field : String) :
    Spells ('"' :: doubleQuotes field.toList ++ ['"']) field := by
  intro behind ended
  obtain ⟨apart, taken, dropped⟩ := ended.stops
  rw [List.cons_append, List.cons_append, List.append_assoc, List.singleton_append, Grammar.field,
    quotedText_doubleQuotes _ _ apart]
  simp [taken, dropped]

theorem spells_bare (field : String) (starts : field.toList.head? ≠ some '"')
    (literal : ∀ char ∈ field.toList, Grammar.isLiteral char = true) :
    Spells field.toList field := by
  intro behind ended
  obtain ⟨apart, taken, dropped⟩ := ended.stops
  have bare : (field.toList ++ behind).head? ≠ some '"' := by
    cases chars : field.toList with
    | nil => exact apart
    | cons char later => simpa [chars] using starts
  rw [Grammar.field_literal _ bare, List.takeWhile_append_of_pos literal,
    List.dropWhile_append_of_pos literal, taken, dropped, List.append_nil]

theorem newlines_doubleQuotes (text : List Char) :
    newlines (doubleQuotes text) = newlines text := by
  induction text with
  | nil => rfl
  | cons char text ih =>
      unfold newlines at ih ⊢
      by_cases quote : char = '"' <;> simp [doubleQuotes, quote, ih, List.count_cons]

theorem newlines_quoted (text : List Char) :
    newlines ('"' :: doubleQuotes text ++ ['"']) = newlines text := by
  rw [newlines_append, ← newlines_doubleQuotes text]
  simp [newlines]

theorem head_doubleQuotes (text : List Char) : (doubleQuotes text).head? = text.head? := by
  cases text with
  | nil => rfl
  | cons char text => by_cases quote : char = '"' <;> simp [doubleQuotes, quote]

theorem unifyEndings_doubleQuotes (text : List Char) :
    unifyEndings (doubleQuotes text) = doubleQuotes (unifyEndings text) := by
  induction text using unifyEndings.induct with
  | case1 => rfl
  | case2 text ih => simp [doubleQuotes, unifyEndings, ih]
  | case3 char text notPair ih =>
      have single : char = '\r' → text.head? ≠ some '\n' := by
        rintro rfl newline
        obtain ⟨later, rfl⟩ := List.head?_eq_some_iff.mp newline
        exact notPair later rfl rfl
      rw [unifyEndings_cons char text single]
      by_cases quote : char = '"'
      · subst char
        rw [doubleQuotes, if_pos rfl, doubleQuotes, if_pos rfl, unifyEndings_cons _ _ (by simp),
          unifyEndings_cons _ _ (by simp), ih]
      · rw [doubleQuotes, if_neg quote, doubleQuotes, if_neg quote,
          unifyEndings_cons char _ (by rwa [head_doubleQuotes]), ih]

theorem unifyEndings_quoted (text : List Char) :
    unifyEndings ('"' :: doubleQuotes text ++ ['"']) =
      '"' :: doubleQuotes (unifyEndings text) ++ ['"'] := by
  rw [unifyEndings_append _ _ (Or.inr (by simp)), unifyEndings_cons _ _ (by simp),
    unifyEndings_doubleQuotes]
  rfl

/-! Fields put together to a line. -/

theorem lineChars_singleton (piece : List Char) : lineChars [piece] = piece ++ ['\n'] := by
  rw [lineChars, List.intercalate_singleton]

theorem lineChars_cons_cons (piece next : List Char) (pieces : List (List Char)) :
    lineChars (piece :: next :: pieces) = piece ++ ',' :: lineChars (next :: pieces) := by
  simp [lineChars, List.intercalate_cons_cons]

theorem record_lineChars {pieces : List (List Char)} {fields : List String}
    (spelled : List.Forall₂ Spells pieces fields) (filled : fields ≠ []) (rest : List Char) :
    Grammar.record (lineChars pieces ++ rest) = some (fields, rest) := by
  induction spelled with
  | nil => exact absurd rfl filled
  | @cons piece field pieces fields first others ih =>
      cases others with
      | nil =>
          have found := first ('\n' :: rest) ⟨rest, Or.inr rfl⟩
          rw [lineChars_singleton, List.append_assoc, List.singleton_append,
            Grammar.record_of_end _ _ _ found (by simp), String.ofList_toList]
          rfl
      | @cons next second pieces fields spells others =>
          have found := first (',' :: (lineChars (next :: pieces) ++ rest)) ⟨_, Or.inl rfl⟩
          rw [lineChars_cons_cons, List.append_assoc, List.cons_append,
            Grammar.record_of_comma _ _ _ found, ih (List.cons_ne_nil _ _), String.ofList_toList]
          rfl

theorem newlines_lineChars (pieces : List (List Char)) :
    newlines (lineChars pieces) = 1 + (pieces.map newlines).sum := by
  induction pieces with
  | nil => rfl
  | cons piece pieces ih =>
      cases pieces with
      | nil =>
          rw [lineChars_singleton, newlines_append, newlines_singleton, Nat.add_comm]
          simp
      | cons next pieces =>
          have comma : newlines (',' :: lineChars (next :: pieces)) =
              newlines (lineChars (next :: pieces)) := by
            simp [newlines]
          rw [lineChars_cons_cons, newlines_append, comma, ih]
          simp only [List.map_cons, List.sum_cons]
          omega

theorem head_lineChars {first : List Char} {pieces : List (List Char)} {char : Char}
    (other : first.head? ≠ some char) (notComma : char ≠ ',')
    (notAlone : first = [] → pieces = [] → char ≠ '\n') (rest : List Char) :
    (lineChars (first :: pieces) ++ rest).head? ≠ some char := by
  cases first with
  | nil =>
      cases pieces with
      | nil => simpa [lineChars_singleton] using (notAlone rfl rfl).symm
      | cons next pieces => simpa [lineChars_cons_cons] using notComma.symm
  | cons start later =>
      cases pieces with
      | nil => simpa [lineChars_singleton] using other
      | cons next pieces => simpa [lineChars_cons_cons] using other

theorem unifyEndings_lineChars (pieces : List (List Char))
    (closed : ∀ piece, pieces.getLast? = some piece → piece.getLast? ≠ some '\r')
    (rest : List Char) :
    unifyEndings (lineChars pieces ++ rest) =
      lineChars (pieces.map unifyEndings) ++ unifyEndings rest := by
  have newline : unifyEndings ('\n' :: rest) = '\n' :: unifyEndings rest :=
    unifyEndings_cons _ _ (by simp)
  induction pieces with
  | nil => exact newline
  | cons piece pieces ih =>
      cases pieces with
      | nil =>
          have apart := closed piece rfl
          simp only [List.map_cons, List.map_nil, lineChars_singleton, List.append_assoc,
            List.singleton_append]
          rw [unifyEndings_append _ _ (Or.inl apart), newline]
      | cons next pieces =>
          have later := ih fun last found => closed last (by rwa [List.getLast?_cons_cons])
          rw [List.map_cons] at later
          simp only [List.map_cons, lineChars_cons_cons, List.append_assoc, List.cons_append]
          rw [unifyEndings_append _ _ (Or.inr (by simp)), unifyEndings_cons _ _ (by simp), later]

/-! Lines put together to a table. -/

/-- Whether characters read as some row, or as none because they are a line without content. -/
def ReadsAs (chars : List Char) : Option (List String) → Prop
  | none => chars = ['\n']
  | some fields => IsRecord chars fields

theorem answersFrom_rows {α : Type} (chars : α → List Char) (fields : α → Option (List String))
    (input : String) (before rows : List α)
    (each : ∀ row ∈ rows, ReadsAs (chars row) (fields row)) :
    Grammar.answersFrom input (newlines ((before ++ rows).flatMap chars)) (rows.flatMap chars) =
      (rows.zipIdx before.length).filterMap fun (row, index) =>
        (fields row).map fun fields =>
          .ok ⟨1 + newlines (((before ++ rows).take index).flatMap chars), fields⟩ := by
  induction rows generalizing before with
  | nil => simp [Grammar.answersFrom]
  | cons row rows ih =>
      obtain ⟨first, others⟩ := List.forall_mem_cons.mp each
      have later := ih (before ++ [row]) others
      rw [List.append_assoc, List.singleton_append, List.length_append,
        List.length_singleton] at later
      rw [List.flatMap_cons, List.zipIdx_cons, List.filterMap_cons]
      cases found : fields row with
      | none =>
          have blank : chars row = ['\n'] := by rwa [found] at first
          rw [blank, List.singleton_append, Grammar.answersFrom_newline, later]
          simp only [found, Option.map_none]
      | some shown =>
          have record : IsRecord (chars row) shown := by rwa [found] at first
          have filled : chars row ++ rows.flatMap chars ≠ [] := by
            intro empty
            have starts := record.starts ['\n']
            rw [(List.append_eq_nil_iff.mp empty).1] at starts
            exact starts rfl
          have line : newlines ((before ++ row :: rows).flatMap chars) -
              newlines (chars row ++ rows.flatMap chars) =
                newlines (((before ++ row :: rows).take before.length).flatMap chars) := by
            rw [List.take_left, List.flatMap_append, newlines_append, List.flatMap_cons,
              Nat.add_sub_cancel]
          rw [Grammar.answersFrom_record _ _ _ filled (record.starts _), record.reads]
          simp only [line, later, found, Option.map_some]

end Writer

end RowScan
