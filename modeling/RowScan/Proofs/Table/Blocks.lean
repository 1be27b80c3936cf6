import Mathlib
import RowScan.Proofs.Table.Offence

/-!
Tables with lines that are not text. Such a line is answered by itself and ends what was open before
it, so the lines of text between two of them are read as if they were alone; only their numbers go
on from block to block.
-/

namespace RowScan

def unmarked : List Line → List Line
  | [] => []
  | .broken :: rest => .broken :: unmarked rest
  | .text chars :: rest => .text (Line.withoutMark chars) :: rest

def blocksOf (bytes : ByteArray) : List (List Line) := (unmarked (linesOf bytes)).splitOn .broken

def isUnreadable : Except Violation Row → Bool
  | .error (.io .notUtf8) => true
  | _ => false

namespace Grammar

def answersBehind (input : String) (number : Nat) (text : List Char) :
    List (Except Violation Row) :=
  answersFrom input (number + newlines text) (unifyEndings text)

/-- What reading answers of blocks of lines with one line that is not text between each two of them.
Each block is read by itself; what is open at its end is dropped, but in the last block refused. -/
def answersOfBlocks (input : String) (number : Nat) :
    List (List Line) → List (Except Violation Row)
  | [] => []
  | [block] => answersBehind input number (readable block)
  | block :: later =>
      (answersBehind input number (readable block)).filter Except.isOk ++
        .error (.io .notUtf8) :: answersOfBlocks input (number + block.length) later

theorem answersOfBlocks_cons (input : String) (number : Nat) (block : List Line)
    (later : List (List Line)) (more : later ≠ []) :
    answersOfBlocks input number (block :: later) =
      (answersBehind input number (readable block)).filter Except.isOk ++
        .error (.io .notUtf8) :: answersOfBlocks input (number + block.length) later := by
  obtain ⟨next, others, rfl⟩ := List.exists_cons_of_ne_nil more
  rw [answersOfBlocks]
  simp

theorem answersBehind_located (input : String) (number : Nat) (text : List Char)
    (answer : Except Violation Row) (member : answer ∈ answersBehind input number text) :
    ∃ front rest, text = front ++ rest ∧
      answer = answerAt input (1 + (number + newlines front)) (unifyEndings rest) := by
  obtain ⟨chars, suffix, same⟩ := answersFrom_located _ _ _ answer member
  obtain ⟨rest, ⟨front, rfl⟩, rfl⟩ := suffix_unifyEndings _ chars suffix
  refine ⟨front, rest, rfl, ?_⟩
  rw [same, newlines_unifyEndings, newlines_append, ← Nat.add_assoc, Nat.add_sub_cancel]

theorem answersOfBlocks_located (input : String) (number : Nat) (blocks : List (List Line))
    (answer : Except Violation Row) (member : answer ∈ answersOfBlocks input number blocks) :
    answer = .error (.io .notUtf8) ∨
      ∃ earlier block later front rest, blocks = earlier ++ block :: later ∧
        readable block = front ++ rest ∧
        answer = answerAt input (1 + (number + earlier.flatten.length + newlines front))
          (unifyEndings rest) ∧
        (later = [] ∨ ∃ row, answer = .ok row) := by
  induction blocks generalizing number with
  | nil => simp [answersOfBlocks] at member
  | cons block later ih =>
      by_cases more : later = []
      · subst more
        obtain ⟨front, rest, split, same⟩ := answersBehind_located _ _ _ _ member
        exact Or.inr ⟨[], block, [], front, rest, rfl, split, same, Or.inl rfl⟩
      · rw [answersOfBlocks_cons _ _ _ _ more, List.mem_append, List.mem_cons] at member
        rcases member with here | unreadable | behind
        · obtain ⟨listed, passed⟩ := List.mem_filter.mp here
          obtain ⟨front, rest, split, same⟩ := answersBehind_located _ _ _ _ listed
          refine Or.inr ⟨[], block, later, front, rest, rfl, split, same, Or.inr ?_⟩
          cases answer with
          | error violation => simp [Except.isOk, Except.toBool] at passed
          | ok row => exact ⟨row, rfl⟩
        · exact Or.inl unreadable
        · rcases ih _ behind with unreadable |
            ⟨earlier, found, last, front, rest, rfl, split, same, final⟩
          · exact Or.inl unreadable
          · refine Or.inr ⟨block :: earlier, found, last, front, rest, rfl, split, ?_, final⟩
            rw [same, List.flatten_cons, List.length_append, ← Nat.add_assoc number]

theorem answersBehind_readable (input : String) (number : Nat) (text : List Char) :
    (answersBehind input number text).countP isUnreadable = 0 := by
  rw [List.countP_eq_zero]
  intro answer member
  obtain ⟨front, rest, _, rfl⟩ := answersBehind_located _ _ _ _ member
  unfold answerAt
  split <;> simp [isUnreadable]

theorem countP_answersOfBlocks (input : String) (number : Nat) (blocks : List (List Line)) :
    (answersOfBlocks input number blocks).countP isUnreadable = blocks.length - 1 := by
  induction blocks generalizing number with
  | nil => rfl
  | cons block later ih =>
      by_cases more : later = []
      · subst more
        exact answersBehind_readable input number (readable block)
      · have dropped : ((answersBehind input number (readable block)).filter Except.isOk).countP
            isUnreadable = 0 := by
          have kept := List.filter_sublist (p := Except.isOk)
            (l := answersBehind input number (readable block))
          have fewer := kept.countP_le (p := isUnreadable)
          rwa [answersBehind_readable, Nat.le_zero] at fewer
        have filled := List.length_pos_iff.mpr more
        rw [answersOfBlocks_cons _ _ _ _ more, List.countP_append, dropped, List.countP_cons, ih,
          isUnreadable, if_pos rfl, List.length_cons]
        omega

end Grammar

theorem length_splitOn_broken (lines : List Line) :
    (lines.splitOn .broken).length = lines.count .broken + 1 := by
  induction lines with
  | nil => rfl
  | cons line rest ih =>
      rw [List.splitOn_cons_eq_if_modifyHead, List.count_cons]
      split <;> simp_all

theorem count_unmarked (lines : List Line) :
    (unmarked lines).count .broken = lines.count .broken := by
  induction lines with
  | nil => rfl
  | cons line rest ih =>
      cases line with
      | broken => rw [unmarked, List.count_cons_self, List.count_cons_self, ih]
      | text chars => simp [unmarked]

def unmarkedBehind (number : Nat) (lines : List Line) : List Line :=
  if number = 0 then unmarked lines else lines

theorem unmarkedBehind_nil (number : Nat) : unmarkedBehind number [] = [] := by
  rw [unmarkedBehind, unmarked, ite_self]

theorem unmarkedBehind_broken (number : Nat) (rest : List Line) :
    unmarkedBehind number (.broken :: rest) = .broken :: unmarkedBehind number rest := by
  unfold unmarkedBehind
  split <;> rfl

theorem unmarkedBehind_append (number : Nat) (texts : List (List Char)) (tail : List Line) :
    unmarkedBehind number (texts.map .text ++ tail) =
      unmarkedBehind number (texts.map .text) ++ unmarkedBehind (number + texts.length) tail := by
  cases texts with
  | nil => simp [unmarkedBehind_nil]
  | cons chars texts =>
      by_cases first : number = 0 <;> simp [unmarkedBehind, unmarked, first]

theorem exists_unmarkedBehind (number : Nat) (texts : List (List Char))
    (cut : charLines texts.flatten = texts) :
    ∃ shown : List (List Char), unmarkedBehind number (texts.map .text) = shown.map .text ∧
      shown.length = texts.length ∧
      unread number texts.flatten = unifyEndings shown.flatten ∧
      newlines texts.flatten = newlines shown.flatten := by
  unfold unmarkedBehind unread
  by_cases first : number = 0
  · simp only [first, if_true]
    cases texts with
    | nil => exact ⟨[], rfl, rfl, rfl, rfl⟩
    | cons chars texts =>
        have filled : chars ≠ [] := by
          rintro rfl
          exact nil_notMem_cutBehind _ _ (cut ▸ List.mem_cons_self)
        refine ⟨Line.withoutMark chars :: texts, rfl, rfl, ?_, ?_⟩
        · rw [withoutMark_unifyEndings, List.flatten_cons, withoutMark_append_of_filled _ _ filled,
            List.flatten_cons]
        · rw [List.flatten_cons, List.flatten_cons, newlines_append, newlines_append,
            newlines_withoutMark]
  · simp only [first, if_false]
    exact ⟨texts, rfl, rfl, rfl, rfl⟩

namespace Reader

theorem exists_more_texts {taken texts : List (List Char)} {behind later : List Line}
    (split : texts.map Line.text ++ .broken :: later = taken.map Line.text ++ behind) :
    (∃ more, texts = taken ++ more ∧ behind = more.map .text ++ .broken :: later) := by
  induction taken generalizing texts with
  | nil => exact ⟨texts, rfl, split.symm⟩
  | cons chars taken ih =>
      cases texts with
      | nil => simp at split
      | cons other texts =>
          simp only [List.map_cons, List.cons_append, List.cons.injEq, Line.text.injEq] at split
          obtain ⟨more, rfl, same⟩ := ih split.2
          exact ⟨more, by rw [split.1]; rfl, same⟩

theorem all_texts_ne {texts others : List (List Char)} {later : List Line} :
    texts.map Line.text ++ .broken :: later ≠ others.map .text := by
  intro same
  have broken : .broken ∈ others.map Line.text := by simp [← same]
  simp at broken

theorem no_rows_of_unreadable {input : String} {number : Nat} {texts : List (List Char)}
    {later : List Line} {rest : Reader}
    (failed : nextFrom input number (texts.map .text ++ .broken :: later) =
      (.error (.io .notUtf8), rest)) :
    (Reader.mk input number (texts.map .text)).answers.filter Except.isOk = [] := by
  rw [answers_eq, next]
  cases nextFrom_cases input number (texts.map .text) with
  | ended taken split last =>
      rw [last]
      rfl
  | @row taken behind row split filled same ends =>
      rw [split, List.append_assoc, same] at failed
      simp at failed
  | unreadable taken split same => exact absurd split.symm all_texts_ne
  | unfinished taken start split last =>
      rw [last]
      simp [answers_of_end, Except.isOk, Except.toBool]

theorem answers_before_broken (input : String) (number : Nat) (texts : List (List Char))
    (later : List Line) :
    (Reader.mk input number (texts.map .text ++ .broken :: later)).answers =
      (Reader.mk input number (texts.map .text)).answers.filter Except.isOk ++
        .error (.io .notUtf8) :: (Reader.mk input (number + texts.length) later).answers := by
  generalize size : texts.length = count
  induction count using Nat.strongRecOn generalizing number texts with
  | ind count ih =>
      subst size
      have whole := answers_eq ⟨input, number, texts.map .text ++ .broken :: later⟩
      rw [next] at whole
      -- A call that finds a row takes lines of text only; any other meets the line that is not text.
      cases nextFrom_cases input number (texts.map .text ++ .broken :: later) with
      | ended taken split last => exact absurd split all_texts_ne
      | unfinished taken start split last => exact absurd split all_texts_ne
      | @row taken behind row split filled same ends =>
          obtain ⟨more, rfl, rfl⟩ := exists_more_texts split
          have fewer : more.length < (taken ++ more).length := by
            have := List.length_pos_iff.mpr filled
            rw [List.length_append]
            omega
          have rest := ih more.length fewer (number + taken.length) more rfl
          have first := answers_eq ⟨input, number, (taken ++ more).map .text⟩
          rw [next, List.map_append, same] at first
          rw [split, same] at whole
          simp only [rest] at whole
          rw [split, whole, List.map_append, first, List.length_append, ← Nat.add_assoc]
          rfl
      | @unreadable taken behind split same =>
          obtain rfl := split_at_broken split
          obtain rfl : later = behind := by simpa using split
          rw [same] at whole
          rw [whole, no_rows_of_unreadable (same later), List.nil_append]

theorem answers_of_texts (input : String) (number : Nat) (texts : List (List Char))
    (cut : charLines texts.flatten = texts) :
    (Reader.mk input number (texts.map .text)).answers =
      Grammar.answersFrom input (number + newlines texts.flatten) (unread number texts.flatten) :=
  answers_of_standsBefore _ _ texts.flatten ⟨by rw [cut], Or.inr rfl⟩

theorem answers_eq_answersOfBlocks (input : String) (bytes : ByteArray) (before lines : List Line)
    (number : Nat) (split : linesOf bytes = before ++ lines) :
    (Reader.mk input number lines).answers =
      Grammar.answersOfBlocks input number ((unmarkedBehind number lines).splitOn .broken) := by
  generalize size : lines.length = count
  induction count using Nat.strongRecOn generalizing number before lines with
  | ind count ih =>
      -- The lines start with a block of text, which ends at a line that is not text or at the end.
      obtain ⟨texts, tail, rfl, _, ended⟩ := exists_texts lines
      have cut := charLines_of_between bytes before texts tail split
      obtain ⟨shown, same, count, reads, breaks⟩ := exists_unmarkedBehind number texts cut
      have block : (Reader.mk input number (texts.map .text)).answers =
          Grammar.answersBehind input number (readable (shown.map .text)) := by
        rw [answers_of_texts input number texts cut, reads, breaks, readable_map_text]
        rfl
      rw [unmarkedBehind_append, same]
      have unbroken : .broken ∉ shown.map Line.text := by simp
      rcases ended with ⟨rfl, _⟩ | ⟨_, later, rfl⟩
      · rw [unmarkedBehind_nil, List.append_nil, List.append_nil, List.splitOn_eq_singleton unbroken,
          Grammar.answersOfBlocks, block]
      · have fewer : later.length < (texts.map Line.text ++ .broken :: later).length := by
          rw [List.length_append, List.length_cons]
          omega
        have rest := ih later.length (size ▸ fewer) (before ++ texts.map .text ++ [.broken]) later
          (number + texts.length) (by simp [split]) rfl
        rw [answers_before_broken, rest, block, unmarkedBehind_broken,
          List.splitOn_append_cons_self_of_not_mem unbroken,
          Grammar.answersOfBlocks_cons _ _ _ _ (List.splitOn_ne_nil _ _), List.length_map, count]

/-- Calls that go on after failures answer the blocks between the lines that are not text, with one
answer for each of these lines, and then the end. The line of a row counts the lines of text before
it, whichever blocks they are in, and the row is read from its own block; a quote that stays open is
answered in the last block only. -/
theorem calls_recover (input : String) (bytes : ByteArray) :
    (∀ index, (ofBytes input bytes).call index =
        inTurn (Grammar.answersOfBlocks input 0 (blocksOf bytes)) index) ∧
      (Grammar.answersOfBlocks input 0 (blocksOf bytes)).countP isUnreadable =
        (linesOf bytes).count .broken ∧
      ∀ answer ∈ Grammar.answersOfBlocks input 0 (blocksOf bytes),
        answer = .error (.io .notUtf8) ∨
          ∃ earlier block later front rest, blocksOf bytes = earlier ++ block :: later ∧
            readable block = front ++ rest ∧
            answer = Grammar.answerAt input (1 + (earlier.flatten.length + newlines front))
              (unifyEndings rest) ∧
            (later = [] ∨ ∃ row, answer = .ok row) := by
  have whole : (ofBytes input bytes).answers = Grammar.answersOfBlocks input 0 (blocksOf bytes) :=
    answers_eq_answersOfBlocks input bytes [] (linesOf bytes) 0 rfl
  refine ⟨?_, ?_, ?_⟩
  · intro index
    rw [call_eq_inTurn, whole]
  · rw [Grammar.countP_answersOfBlocks, blocksOf, length_splitOn_broken, count_unmarked,
      Nat.add_sub_cancel]
  · intro answer member
    simpa using Grammar.answersOfBlocks_located input 0 (blocksOf bytes) answer member

end Reader

end RowScan
