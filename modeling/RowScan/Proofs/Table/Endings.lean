import Mathlib
import RowScan.Proofs.Table.Lines

/-!
What the lines of a text read as. A line loses the CR before its LF and the first one a byte order
mark, which is the same as taking the mark from the text and the CR from each CR LF in it.
-/

namespace RowScan

def unifyEndings : List Char → List Char
  | [] => []
  | '\r' :: '\n' :: rest => '\n' :: unifyEndings rest
  | char :: rest => char :: unifyEndings rest

def newlines (chars : List Char) : Nat := chars.count '\n'

theorem newlines_eq_zero {chars : List Char} : newlines chars = 0 ↔ '\n' ∉ chars := by
  simp [newlines, List.count_eq_zero]

theorem newlines_singleton : newlines ['\n'] = 1 := rfl

theorem newlines_append (start rest : List Char) :
    newlines (start ++ rest) = newlines start + newlines rest := by
  simp [newlines]

theorem unifyEndings_cons (char : Char) (rest : List Char)
    (single : char = '\r' → rest.head? ≠ some '\n') :
    unifyEndings (char :: rest) = char :: unifyEndings rest := by
  rw [unifyEndings]
  rintro later rfl rfl
  simp at single

theorem newlines_unifyEndings (chars : List Char) :
    newlines (unifyEndings chars) = newlines chars := by
  induction chars using unifyEndings.induct with
  | case1 => rfl
  | case2 rest ih => simpa [unifyEndings, newlines] using ih
  | case3 char rest notPair ih =>
      rw [unifyEndings]
      · simp only [newlines, List.count_cons] at ih ⊢
        rw [ih]
      · exact notPair

theorem newlines_withoutMark (chars : List Char) :
    newlines (Line.withoutMark chars) = newlines chars := by
  unfold Line.withoutMark
  split <;> simp [newlines]

theorem unifyEndings_append (start rest : List Char)
    (apart : start.getLast? ≠ some '\r' ∨ rest.head? ≠ some '\n') :
    unifyEndings (start ++ rest) = unifyEndings start ++ unifyEndings rest := by
  induction start using unifyEndings.induct with
  | case1 => rfl
  | case2 chars ih =>
      have later : chars.getLast? ≠ some '\r' ∨ rest.head? ≠ some '\n' := by
        cases chars with
        | nil => simp
        | cons next chars => simpa using apart
      simp [unifyEndings, ih later]
  | case3 char chars notPair ih =>
      have single : char = '\r' → chars.head? ≠ some '\n' := by
        rintro rfl newline
        obtain ⟨later, rfl⟩ := List.head?_eq_some_iff.mp newline
        exact notPair later rfl rfl
      rw [unifyEndings_cons char chars single, List.cons_append, List.cons_append]
      cases chars with
      | nil => exact unifyEndings_cons char rest fun isReturn => by simpa [isReturn] using apart
      | cons next chars =>
          rw [unifyEndings_cons char _ (by simpa using single), ih (by simpa using apart)]

theorem unifyEndings_line (line : List Char) (inside : '\n' ∉ line) :
    unifyEndings line = line := by
  induction line with
  | nil => rfl
  | cons char rest ih =>
      simp only [List.mem_cons, not_or] at inside
      rw [unifyEndings_cons, ih inside.2]
      intro _ newline
      exact inside.2 (List.mem_of_head? newline)

theorem suffix_unifyEndings (text rest : List Char) (suffix : rest <:+ unifyEndings text) :
    ∃ original, original <:+ text ∧ unifyEndings original = rest := by
  induction text using unifyEndings.induct with
  | case1 => exact ⟨[], List.suffix_refl _, (List.suffix_nil.mp suffix).symm⟩
  | case2 chars ih =>
      rcases List.suffix_cons_iff.mp suffix with rfl | later
      · exact ⟨_, List.suffix_refl _, rfl⟩
      · obtain ⟨original, inside, same⟩ := ih later
        exact ⟨original, (inside.trans (List.suffix_cons _ _)).trans (List.suffix_cons _ _), same⟩
  | case3 char chars notPair ih =>
      have kept : unifyEndings (char :: chars) = char :: unifyEndings chars := by
        rw [unifyEndings]
        exact notPair
      rw [kept] at suffix
      rcases List.suffix_cons_iff.mp suffix with rfl | later
      · exact ⟨_, List.suffix_refl _, kept⟩
      · obtain ⟨original, inside, same⟩ := ih later
        exact ⟨original, inside.trans (List.suffix_cons _ _), same⟩

theorem withoutMark_suffix (chars : List Char) : Line.withoutMark chars <:+ chars := by
  unfold Line.withoutMark
  split
  · exact List.suffix_cons _ _
  · exact List.suffix_refl _

theorem withoutEnding_open (line : List Char) (inside : '\n' ∉ line) :
    Line.withoutEnding line = line := by
  unfold Line.withoutEnding
  split
  · rename_i rest reversed
    have member : '\n' ∈ line.reverse := by simp [reversed]
    exact absurd (by simpa using member) inside
  · rename_i rest _ reversed
    have member : '\n' ∈ line.reverse := by simp [reversed]
    exact absurd (by simpa using member) inside
  · rfl

theorem unifyEndings_closed (line rest : List Char) (inside : '\n' ∉ line) :
    unifyEndings (line ++ '\n' :: rest) =
      Line.withoutEnding (line ++ ['\n']) ++ '\n' :: unifyEndings rest := by
  have newline : unifyEndings ('\n' :: rest) = '\n' :: unifyEndings rest :=
    unifyEndings_cons '\n' rest (by simp)
  by_cases return_ : line.getLast? = some '\r'
  · obtain ⟨start, rfl⟩ := List.getLast?_eq_some_iff.mp return_
    have plain : '\n' ∉ start := fun member => inside (by simp [member])
    have content : Line.withoutEnding (start ++ ['\r'] ++ ['\n']) = start := by
      simp [Line.withoutEnding]
    rw [content, List.append_assoc, unifyEndings_append _ _ (Or.inr (by simp)),
      unifyEndings_line start plain]
    rfl
  · have content : Line.withoutEnding (line ++ ['\n']) = line := by
      rw [← List.head?_reverse] at return_
      rw [Line.withoutEnding, List.reverse_append, List.reverse_singleton, List.singleton_append]
      split
      · simp_all
      · rename_i same
        rw [← (List.cons_eq_cons.mp same).2, List.reverse_reverse]
      · simp_all
    rw [content, unifyEndings_append _ _ (Or.inl return_), unifyEndings_line line inside, newline]

theorem withoutMark_of_other (chars : List Char) (other : chars.head? ≠ some '\ufeff') :
    Line.withoutMark chars = chars := by
  unfold Line.withoutMark
  split
  · simp at other
  · rfl

theorem withoutMark_unifyEndings (chars : List Char) :
    Line.withoutMark (unifyEndings chars) = unifyEndings (Line.withoutMark chars) := by
  by_cases marked : chars.head? = some '\ufeff'
  · obtain ⟨rest, rfl⟩ := List.head?_eq_some_iff.mp marked
    rw [unifyEndings_cons '\ufeff' rest (by simp)]
    rfl
  · rw [withoutMark_of_other chars marked]
    apply withoutMark_of_other
    unfold unifyEndings
    split
    · simp
    · simp
    · simpa using marked

theorem withoutMark_append_of_filled (chars rest : List Char) (filled : chars ≠ []) :
    Line.withoutMark (chars ++ rest) = Line.withoutMark chars ++ rest := by
  obtain ⟨char, more, rfl⟩ := List.exists_cons_of_ne_nil filled
  by_cases mark : char = '\ufeff'
  · subst char
    rfl
  · rw [withoutMark_of_other _ (by simpa using mark), withoutMark_of_other _ (by simpa using mark)]

theorem withoutMark_append (content rest : List Char) (other : rest.head? ≠ some '\ufeff') :
    Line.withoutMark (content ++ rest) = Line.withoutMark content ++ rest := by
  cases content with
  | nil => exact withoutMark_of_other rest other
  | cons char content => exact withoutMark_append_of_filled _ rest (by simp)

theorem getLast?_unifyEndings (chars : List Char) :
    (unifyEndings chars).getLast? = chars.getLast? := by
  induction chars using unifyEndings.induct with
  | case1 => rfl
  | case2 rest ih => simp [unifyEndings, List.getLast?_cons, ih]
  | case3 char rest notPair ih =>
      rw [unifyEndings, List.getLast?_cons, List.getLast?_cons, ih]
      exact notPair

theorem getLast?_withoutMark (chars : List Char) :
    (Line.withoutMark chars).getLast? = some '\n' ↔ chars.getLast? = some '\n' := by
  unfold Line.withoutMark
  split
  · rename_i rest
    cases rest <;> simp [List.getLast?_cons]
  · rfl

theorem newlines_withoutEnding (line : List Char) (inside : '\n' ∉ line) :
    newlines (Line.withoutEnding (line ++ ['\n'])) = 0 := by
  have counted := congrArg newlines (unifyEndings_closed line [] inside)
  rw [newlines_unifyEndings, newlines_append, newlines_append,
    newlines_eq_zero.mpr inside] at counted
  simp only [newlines, unifyEndings, List.count_cons_self, List.count_nil] at counted ⊢
  omega

/-- How the characters behind the first `number` lines of a text read: without the CR of each CR LF
and, before the first line, without a byte order mark. -/
def unread (number : Nat) (chars : List Char) : List Char :=
  if number = 0 then Line.withoutMark (unifyEndings chars) else unifyEndings chars

theorem unread_nil (number : Nat) : unread number [] = [] := by
  simp [unread, unifyEndings, Line.withoutMark]

theorem newlines_unread (number : Nat) (chars : List Char) :
    newlines (unread number chars) = newlines chars := by
  unfold unread
  split <;> simp [newlines_unifyEndings, newlines_withoutMark]

theorem unread_line (number : Nat) (chars : List Char) (more : chars ≠ []) :
    ∃ line rest behind, charLines chars = line :: charLines rest ∧
      '\n' ∉ Line.content (number + 1) line ∧
      unread number chars = Line.content (number + 1) line ++ behind ∧
      (behind = '\n' :: unread (number + 1) rest ∧ newlines chars = newlines rest + 1 ∨
        behind = [] ∧ rest = []) := by
  obtain ⟨line, behind, rfl, inside, ended⟩ := exists_line chars
  have cut : ∀ element ∈ line, decide (element = '\n') = false := by
    intro element member
    rw [decide_eq_false_iff_not]
    rintro rfl
    exact inside member
  have later (rest : List Char) : unread (number + 1) rest = unifyEndings rest := by
    simp [unread]
  rcases ended with rfl | ⟨rest, rfl⟩
  · rw [List.append_nil] at more ⊢
    have plain := newlines_eq_zero.mpr inside
    refine ⟨line, [], [], ?_, ?_, ?_, Or.inr ⟨rfl, rfl⟩⟩
    · rw [charLines, cutBehind_open _ line cut, if_neg more]
      rfl
    · rw [← newlines_eq_zero, Line.content, withoutEnding_open line inside]
      split <;> simp [newlines_withoutMark, plain]
    · simp [unread, Line.content, withoutEnding_open line inside, unifyEndings_line line inside]
  · have plain := newlines_withoutEnding line inside
    refine ⟨line ++ ['\n'], rest, '\n' :: unread (number + 1) rest,
      cutBehind_line _ line rest '\n' cut (by simp), ?_, ?_, Or.inl ⟨rfl, ?_⟩⟩
    · rw [← newlines_eq_zero, Line.content]
      split <;> simp [newlines_withoutMark, plain]
    · rw [later, unread, unifyEndings_closed line rest inside, withoutMark_append _ _ (by simp),
        Line.content]
      by_cases first : number = 0 <;> simp [first]
    · rw [newlines_append, newlines_eq_zero.mpr inside]
      simp [newlines]

end RowScan
