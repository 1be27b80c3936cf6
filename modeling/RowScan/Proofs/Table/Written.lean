import Mathlib
import RowScan.Proofs.Table.Pairs
import RowScan.Proofs.Table.RoundTrip

/-!
Written tables with a header. Such a table reads as its header and its rows, each on the line behind
the text that was written before it, and a field reads as it was written unless it holds a CR LF.
-/

namespace RowScan

namespace Writer

theorem unified_eq_self_iff (field : String) :
    unified field = field ↔ ¬ ['\r', '\n'] <:+: field.toList := by
  rw [← unifyEndings_eq_self_iff, unified, ← String.toList_inj, String.toList_ofList]

theorem unified_of_absent (field : String) (absent : '\r' ∉ field.toList) :
    unified field = field := by
  rw [unified, unifyEndings_of_absent _ absent, String.ofList_toList]

theorem startLine_eq (rows : List (List String)) (index : Nat) :
    startLine rows index = 1 + newlines (text (rows.take index)).toList := by
  rw [toList_text, newlines_tableChars, startLine]

def bodyRows (header : List String) (rows : List (List String)) : List Row :=
  rows.zipIdx.map fun (fields, index) =>
    ⟨1 + newlines (text (header :: rows.take index)).toList, fields.map unified⟩

theorem length_bodyRows (header : List String) (rows : List (List String)) :
    (bodyRows header rows).length = rows.length := by
  rw [bodyRows, List.length_map, List.length_zipIdx]

theorem getElem?_bodyRows (header : List String) (rows : List (List String)) (index : Nat) :
    (bodyRows header rows)[index]? = rows[index]?.map fun fields =>
      ⟨1 + newlines (text (header :: rows.take index)).toList, fields.map unified⟩ := by
  rw [bodyRows, List.getElem?_map, List.getElem?_zipIdx, Option.map_map, Nat.zero_add]
  rfl

/-! A header of letters is written and read as it is. -/

theorem map_unified_letters (header : List String)
    (letters : ∀ name ∈ header, ∀ char ∈ name.toList, char.isAlpha) :
    header.map unified = header := by
  conv_rhs => rw [← List.map_id header]
  apply List.map_congr_left
  intro name member
  apply unified_of_absent
  intro inside
  exact absurd (letters name member _ inside) (by decide)

theorem unmarkFirst_letters (header : List String) (rows : List (List String))
    (letters : ∀ name ∈ header, ∀ char ∈ name.toList, char.isAlpha) :
    unmarkFirst (header :: rows) = header :: rows := by
  cases header with
  | nil => rfl
  | cons first fields =>
      have other : first.toList.head? ≠ some '\ufeff' := by
        intro marked
        exact absurd (letters first (by simp) _ (List.mem_of_mem_head? marked)) (by decide)
      simp [unmarkFirst, unmarked, withoutMark_of_other first.toList other]

end Writer

open Writer in
theorem Reader.answers_written (input : String) (header : List String) (rows : List (List String))
    (letters : ∀ name ∈ header, ∀ char ∈ name.toList, char.isAlpha)
    (shown : ∀ fields ∈ header :: rows, isBlank fields = false) :
    (Reader.ofBytes input (text (header :: rows)).toUTF8).answers =
      .ok ⟨1, header⟩ :: (bodyRows header rows).map .ok := by
  have total : newlines (tableChars (header :: rows)) =
      (([] ++ (unmarkFirst (header :: rows)).map (List.map unified)).map height).sum := by
    rw [newlines_tableChars, List.nil_append, heights_read]
  have line (index : Nat) : startLine (header :: rows) (index + 1) =
      1 + newlines (text (header :: rows.take index)).toList := by
    rw [startLine_eq, List.take_succ_cons]
  calc (Reader.ofBytes input (text (header :: rows)).toUTF8).answers
      = (header :: rows).zipIdx.filterMap fun (fields, index) =>
          if isBlank fields then none
          else some (.ok ⟨startLine (header :: rows) index, fields.map unified⟩) := by
        rw [Reader.answers_ofBytes, toList_text, Grammar.answers, withoutMark_tableChars,
          unifyEndings_tableChars, total, answersFrom_tableChars]
        simp only [List.nil_append, startLine_read, List.length_nil]
        rw [unmarkFirst_letters header rows letters, List.zipIdx_map, List.filterMap_map]
        simp only [Function.comp_def, Prod.map, isBlank_unified, id_eq]
    _ = (header :: rows).zipIdx.map fun (fields, index) =>
          .ok ⟨startLine (header :: rows) index, fields.map unified⟩ := by
        apply List.filterMap_eq_map_iff_forall_eq_some.mpr
        intro entry member
        simp [shown _ (List.fst_mem_of_mem_zipIdx member)]
    _ = _ := by
        rw [List.zipIdx_cons', List.map_cons, List.map_map, bodyRows, List.map_map]
        simp only [Function.comp_def, Prod.map, line, id_eq, map_unified_letters header letters]
        rfl

end RowScan
