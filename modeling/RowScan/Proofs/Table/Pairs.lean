import Mathlib
import RowScan.Proofs.Table.Reading

/-!
Where a CR LF in a field comes from. Reading takes the CR from each CR LF of a text, so a field
holds one only where the text holds CR CR LF.
-/

namespace RowScan

theorem pair_cons_iff (char : Char) (rest : List Char) :
    ['\r', '\n'] <:+: char :: rest ↔
      char = '\r' ∧ rest.head? = some '\n' ∨ ['\r', '\n'] <:+: rest := by
  rw [List.infix_cons_iff, List.cons_prefix_cons, eq_comm]
  refine or_congr_left (and_congr_right fun _ => ?_)
  cases rest <;> simp [eq_comm]

theorem pair_of_append (text behind : List Char) (literal : '\n' ∉ behind)
    (pair : ['\r', '\n'] <:+: text ++ behind) : ['\r', '\n'] <:+: text := by
  induction text with
  | nil => exact absurd (pair.subset (by simp)) literal
  | cons char rest ih =>
      rw [List.cons_append, pair_cons_iff] at pair
      rw [pair_cons_iff]
      refine pair.imp (fun ⟨first, second⟩ => ⟨first, ?_⟩) ih
      cases rest with
      | nil => exact absurd (List.mem_of_mem_head? second) literal
      | cons next rest => exact second

theorem length_unifyEndings_le (text : List Char) : (unifyEndings text).length ≤ text.length := by
  induction text using unifyEndings.induct with
  | case1 => simp [unifyEndings]
  | case2 rest ih =>
      simp only [unifyEndings, List.length_cons]
      omega
  | case3 char rest notPair ih =>
      rw [unifyEndings]
      · simpa using ih
      · exact notPair

theorem head_of_notPair {char : Char} {rest : List Char}
    (notPair : ∀ later, char = '\r' → rest = '\n' :: later → False) :
    ¬ (char = '\r' ∧ rest.head? = some '\n') := by
  rintro ⟨first, second⟩
  obtain ⟨later, same⟩ := List.head?_eq_some_iff.mp second
  exact notPair later first same

theorem unifyEndings_eq_self_iff (text : List Char) :
    unifyEndings text = text ↔ ¬ ['\r', '\n'] <:+: text := by
  induction text using unifyEndings.induct with
  | case1 => simp [unifyEndings]
  | case2 rest ih =>
      have pair : ['\r', '\n'] <:+: '\r' :: '\n' :: rest := ⟨[], rest, rfl⟩
      simp only [pair, not_true_eq_false, iff_false, unifyEndings]
      intro same
      have shorter := length_unifyEndings_le rest
      have sizes := congrArg List.length same
      simp only [List.length_cons] at sizes
      omega
  | case3 char rest notPair ih =>
      rw [pair_cons_iff, or_iff_right (head_of_notPair notPair), ← ih, unifyEndings]
      · simp
      · exact notPair

theorem unifyEndings_of_absent (text : List Char) (absent : '\r' ∉ text) :
    unifyEndings text = text := by
  rw [unifyEndings_eq_self_iff]
  intro pair
  exact absent (pair.subset (by simp))

theorem head_unifyEndings (text : List Char) (starts : (unifyEndings text).head? = some '\n') :
    text.head? = some '\n' ∨ ['\r', '\n'] <+: text := by
  unfold unifyEndings at starts
  split at starts
  · simp at starts
  · exact Or.inr ⟨_, rfl⟩
  · exact Or.inl starts

theorem triple_of_unifyEndings (text : List Char) (pair : ['\r', '\n'] <:+: unifyEndings text) :
    ['\r', '\r', '\n'] <:+: text := by
  induction text using unifyEndings.induct with
  | case1 => simp [unifyEndings] at pair
  | case2 rest ih =>
      rw [unifyEndings, pair_cons_iff] at pair
      have later := ih (pair.resolve_left (by simp))
      exact List.infix_cons (List.infix_cons later)
  | case3 char rest notPair ih =>
      rw [unifyEndings, pair_cons_iff] at pair
      · rcases pair with ⟨rfl, starts⟩ | later
        · have doubled := (head_unifyEndings rest starts).resolve_left
            fun newline => head_of_notPair notPair ⟨rfl, newline⟩
          exact (List.cons_prefix_cons.mpr ⟨rfl, doubled⟩).isInfix
        · exact List.infix_cons (ih later)
      · exact notPair

namespace Grammar

theorem quotedText_newline (chars text behind : List Char)
    (found : quotedText chars = some (text, behind)) (starts : text.head? = some '\n') :
    chars.head? = some '\n' := by
  unfold quotedText at found
  split at found
  · simp at found
  · simp only [Option.map_eq_some_iff, Prod.mk.injEq, Prod.exists] at found
    obtain ⟨later, _, _, rfl, _⟩ := found
    simp at starts
  · obtain ⟨rfl, _⟩ : [] = text ∧ _ = behind := by simpa using found
    simp at starts
  · simp only [Option.map_eq_some_iff, Prod.mk.injEq, Prod.exists] at found
    obtain ⟨later, _, _, rfl, _⟩ := found
    exact starts

theorem pair_of_quotedText (chars text behind : List Char)
    (found : quotedText chars = some (text, behind)) (pair : ['\r', '\n'] <:+: text) :
    ['\r', '\n'] <:+: chars := by
  induction chars using quotedText.induct generalizing text with
  | case1 => simp [quotedText] at found
  | case2 rest ih =>
      simp only [quotedText, Option.map_eq_some_iff, Prod.mk.injEq, Prod.exists] at found
      obtain ⟨later, _, found, rfl, rfl⟩ := found
      rw [pair_cons_iff] at pair
      have inside := ih later found (pair.resolve_left (by simp))
      exact List.infix_cons (List.infix_cons inside)
  | case3 rest single =>
      have closing : rest.head? ≠ some '"' := by
        cases rest <;> simp_all
      rw [quotedText_closing rest closing] at found
      obtain ⟨rfl, _⟩ : [] = text ∧ rest = behind := by simpa using found
      simp at pair
  | case4 char rest notDoubled notQuote ih =>
      have other : char ≠ '"' := fun same => by simp_all
      rw [quotedText_char char rest other] at found
      simp only [Option.map_eq_some_iff, Prod.mk.injEq, Prod.exists] at found
      obtain ⟨later, _, found, rfl, rfl⟩ := found
      rw [pair_cons_iff] at pair ⊢
      refine pair.imp ?_ (ih later found)
      rintro ⟨first, second⟩
      exact ⟨first, quotedText_newline rest later _ found second⟩

theorem newline_takeWhile (chars : List Char) : '\n' ∉ chars.takeWhile isLiteral :=
  fun member => absurd (List.mem_takeWhile_imp member) (by decide)

theorem pair_of_field (chars text behind : List Char)
    (found : field chars = some (text, behind)) (pair : ['\r', '\n'] <:+: text) :
    ['\r', '\n'] <:+: chars := by
  by_cases quoted : chars.head? = some '"'
  · obtain ⟨rest, rfl⟩ := List.head?_eq_some_iff.mp quoted
    simp only [field, Option.map_eq_some_iff, Prod.mk.injEq, Prod.exists] at found
    obtain ⟨inner, later, found, rfl, _⟩ := found
    have inside := pair_of_append inner _ (newline_takeWhile later) pair
    exact List.infix_cons (pair_of_quotedText rest inner later found inside)
  · rw [field_literal chars quoted] at found
    obtain ⟨rfl, _⟩ : chars.takeWhile isLiteral = text ∧ _ = behind := by simpa using found
    exact absurd (pair.subset (by simp)) (newline_takeWhile chars)

theorem pair_of_record (chars : List Char) (fields : List String) (behind : List Char)
    (found : record chars = some (fields, behind)) (value : String) (member : value ∈ fields)
    (pair : ['\r', '\n'] <:+: value.toList) : ['\r', '\n'] <:+: chars := by
  induction chars using record.induct generalizing fields with
  | case1 chars missing =>
      rw [record] at found
      split at found <;> simp_all
  | case2 chars text rest split ih =>
      rw [record_of_comma chars text rest split] at found
      simp only [Option.map_eq_some_iff, Prod.mk.injEq, Prod.exists] at found
      obtain ⟨later, _, found, rfl, rfl⟩ := found
      rcases List.mem_cons.mp member with rfl | member
      · exact pair_of_field chars text _ split (by simpa using pair)
      · have suffix := field_suffix chars text (',' :: rest) split
        exact (List.infix_cons (ih later found member)).trans suffix.isInfix
  | case3 chars text last notComma split =>
      have ended : last.head? ≠ some ',' := by
        intro comma
        obtain ⟨rest, rfl⟩ := List.head?_eq_some_iff.mp comma
        exact notComma rest rfl
      rw [record_of_end chars text last split ended] at found
      obtain ⟨rfl, _⟩ : [String.ofList text] = fields ∧ _ = behind := by simpa using found
      obtain rfl := List.mem_singleton.mp member
      exact pair_of_field chars text last split (by simpa using pair)

end Grammar

theorem Reader.triple_of_answers (input text : String) (row : Row) (value : String)
    (answered : .ok row ∈ (Reader.ofBytes input text.toUTF8).answers) (member : value ∈ row.fields)
    (pair : ['\r', '\n'] <:+: value.toList) : ['\r', '\r', '\n'] <:+: text.toList := by
  rw [Reader.answers_ofBytes] at answered
  obtain ⟨before, rest, whole, same⟩ := Grammar.answers_located input _ _ answered
  unfold Grammar.answerAt at same
  split at same
  · cases same
  · rename_i fields behind found
    obtain rfl := Except.ok.inj same
    have inside := Grammar.pair_of_record _ fields behind found value member pair
    rw [whole]
    exact (triple_of_unifyEndings rest inside).trans (List.suffix_append before rest).isInfix

end RowScan
