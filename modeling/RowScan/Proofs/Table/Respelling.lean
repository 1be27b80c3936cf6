import Mathlib
import RowScan.Proofs.Table.Continued
import RowScan.Proofs.Table.Pairs

/-!
Forms of a text. Lines end with LF or CR LF, a byte order mark stands in front or not, and the last
line ends with an LF or without: `Grammar.lineText` is what these forms have in common, and nothing
else matters for what reading answers.
-/

namespace RowScan

namespace Grammar

theorem takeWhile_append_newline (chars : List Char) :
    (chars ++ ['\n']).takeWhile isLiteral = chars.takeWhile isLiteral ∧
      (chars ++ ['\n']).dropWhile isLiteral = chars.dropWhile isLiteral ++ ['\n'] := by
  induction chars with
  | nil => simp [isLiteral]
  | cons char rest ih =>
      rw [List.cons_append, List.takeWhile_cons, List.takeWhile_cons, List.dropWhile_cons,
        List.dropWhile_cons]
      split <;> simp [ih]

theorem quotedText_append_newline (chars : List Char) :
    quotedText (chars ++ ['\n']) = (quotedText chars).map (Prod.map id (· ++ ['\n'])) := by
  induction chars using quotedText.induct with
  | case1 => rfl
  | case2 rest ih =>
      simp only [List.cons_append, quotedText, ih, Option.map_map]
      rfl
  | case3 rest single =>
      have closing : rest.head? ≠ some '"' := by
        cases rest <;> simp_all
      have closingMore : (rest ++ ['\n']).head? ≠ some '"' := by
        cases rest <;> simp_all
      rw [List.cons_append, quotedText_closing rest closing, quotedText_closing _ closingMore]
      rfl
  | case4 char rest notDoubled notQuote ih =>
      have other : char ≠ '"' := fun same => by simp_all
      rw [List.cons_append, quotedText_char char rest other, quotedText_char char _ other, ih,
        Option.map_map, Option.map_map]
      rfl

theorem field_append_newline (chars : List Char) :
    field (chars ++ ['\n']) = (field chars).map (Prod.map id (· ++ ['\n'])) := by
  by_cases quoted : chars.head? = some '"'
  · obtain ⟨rest, rfl⟩ := List.head?_eq_some_iff.mp quoted
    simp only [List.cons_append, field, quotedText_append_newline, Option.map_map]
    refine Option.map_congr fun found _ => ?_
    simp [takeWhile_append_newline found.2]
  · have quotedMore : (chars ++ ['\n']).head? ≠ some '"' := by
      cases chars <;> simp_all
    rw [field_literal chars quoted, field_literal _ quotedMore]
    simp [takeWhile_append_newline chars]

theorem head_behind_field {chars text rest : List Char} {char : Char}
    (found : field chars = some (text, char :: rest)) : char = ',' ∨ char = '\n' := by
  have ended (remaining : List Char)
      (same : remaining.dropWhile isLiteral = char :: rest) : char = ',' ∨ char = '\n' := by
    have first := List.head?_dropWhile_not isLiteral remaining
    rw [same, List.head?_cons] at first
    simp only [isLiteral, ne_eq, decide_eq_false_iff_not] at first
    tauto
  by_cases quoted : chars.head? = some '"'
  · obtain ⟨later, rfl⟩ := List.head?_eq_some_iff.mp quoted
    simp only [field, Option.map_eq_some_iff, Prod.mk.injEq, Prod.exists] at found
    obtain ⟨_, behind, _, _, same⟩ := found
    exact ended behind same
  · rw [field_literal chars quoted] at found
    simp only [Option.some.injEq, Prod.mk.injEq] at found
    exact ended chars found.2

def behindMore (behind : List Char) : List Char := if behind = [] then [] else behind ++ ['\n']

theorem getLast?_of_suffix {rest chars : List Char} (suffix : rest <:+ chars)
    (last : chars.getLast? ≠ some '\n') : rest.getLast? ≠ some '\n' := by
  obtain ⟨start, rfl⟩ := suffix
  intro ends
  rw [List.getLast?_append, ends] at last
  exact last rfl

theorem record_append_newline (chars : List Char) (last : chars.getLast? ≠ some '\n') :
    record (chars ++ ['\n']) =
      (record chars).map (Prod.map id behindMore) := by
  have more := field_append_newline chars
  induction chars using record.induct with
  | case1 chars missing =>
      rw [missing] at more
      rw [record_of_missing chars missing, record_of_missing _ more]
      rfl
  | case2 chars text rest found ih =>
      have suffix := (List.suffix_cons ',' rest).trans (field_suffix _ _ _ found)
      rw [found] at more
      have comma : field (chars ++ ['\n']) = some (text, ',' :: (rest ++ ['\n'])) := more
      rw [record_of_comma _ _ _ found, record_of_comma _ _ _ comma,
        ih (getLast?_of_suffix suffix last) (field_append_newline rest), Option.map_map,
        Option.map_map]
      rfl
  | case3 chars text behind notComma found =>
      have ended : behind.head? ≠ some ',' := by
        intro comma
        obtain ⟨rest, rfl⟩ := List.head?_eq_some_iff.mp comma
        exact notComma rest rfl
      have endedMore : (behind ++ ['\n']).head? ≠ some ',' := by
        cases behind <;> simp_all
      rw [found] at more
      rw [record_of_end _ _ _ found ended, record_of_end _ _ _ more endedMore, Option.map_some]
      -- The LF that is added ends the record itself only where nothing follows the last field.
      cases behind with
      | nil => rfl
      | cons char rest =>
          have open_ := getLast?_of_suffix (field_suffix _ _ _ found) last
          have filled : rest ≠ [] := by
            rintro rfl
            rcases head_behind_field found with rfl | rfl
            · exact ended rfl
            · exact open_ rfl
          simp [behindMore, filled]

theorem answersFrom_append_newline (input : String) (total : Nat) (chars : List Char)
    (last : chars.getLast? ≠ some '\n') :
    answersFrom input (total + 1) (chars ++ ['\n']) = answersFrom input total chars := by
  -- The numbers of lines stay: what is left at each record has one LF more, as the total has.
  induction chars using answersFrom.induct total with
  | case1 =>
      rw [List.nil_append, answersFrom_newline]
      simp [answersFrom]
  | case2 rest ih =>
      have later := getLast?_of_suffix (List.suffix_cons '\n' rest) last
      rw [List.cons_append, answersFrom_newline, answersFrom_newline, ih later]
  | case3 first rest other missing =>
      have more := record_append_newline (first :: rest) last
      rw [missing] at more
      rw [answersFrom_record input total _ (by simp) (by simpa using other), missing,
        answersFrom_record _ _ _ (by simp) (by simpa using other), more, newlines_append]
      simp only [Option.map_none]
      rw [newlines_singleton, Nat.add_sub_add_right]
  | case4 first rest other fields behind found ih =>
      have more := record_append_newline (first :: rest) last
      have suffix := (record_suffix _ _ _ found).trans (List.tail_suffix (first :: rest))
      have later : answersFrom input (total + 1) (behindMore behind) =
          answersFrom input total behind := by
        unfold behindMore
        split
        · rename_i empty
          rw [empty]
          simp [answersFrom]
        · exact ih (getLast?_of_suffix suffix last)
      rw [found] at more
      rw [answersFrom_record input total _ (by simp) (by simpa using other), found,
        answersFrom_record _ _ _ (by simp) (by simpa using other), more, newlines_append]
      simp only [Option.map_some, Prod.map, id, later]
      rw [newlines_singleton, Nat.add_sub_add_right]

def closed (chars : List Char) : List Char :=
  if chars.getLast? = some '\n' then chars else chars ++ ['\n']

theorem newlines_closed (chars : List Char) :
    newlines (closed chars) =
      newlines chars + if chars.getLast? = some '\n' then 0 else 1 := by
  unfold closed
  split
  · rfl
  · rw [newlines_append]
    rfl

theorem answersFrom_closed (input : String) (chars : List Char) :
    answersFrom input (newlines (closed chars)) (closed chars) =
      answersFrom input (newlines chars) chars := by
  rw [newlines_closed, closed]
  split
  · rfl
  · rename_i last
    exact answersFrom_append_newline input (newlines chars) chars last

def lineText (text : List Char) : List Char := closed (unifyEndings (Line.withoutMark text))

theorem answers_eq_lineText (input : String) (text : List Char) :
    answers input text = answersFrom input (newlines (lineText text)) (lineText text) := by
  rw [lineText, answersFrom_closed, newlines_unifyEndings, newlines_withoutMark, answers]

end Grammar

theorem max_length_charLines (text : List Char) :
    max (charLines text).length 1 = newlines (Grammar.lineText text) := by
  have counted : (charLines text).length = newlines text +
      text.getLast?.elim 0 fun last => if decide (last = '\n') then 0 else 1 :=
    length_cutBehind _ text
  rw [Grammar.lineText, Grammar.newlines_closed, getLast?_unifyEndings, newlines_unifyEndings,
    newlines_withoutMark, counted]
  simp only [getLast?_withoutMark]
  cases found : text.getLast? with
  | none =>
      obtain rfl := List.getLast?_eq_none_iff.mp found
      rfl
  | some last =>
      by_cases newline : last = '\n'
      · have some_newline : 0 < newlines text :=
          List.count_pos_iff.mpr (newline ▸ List.mem_of_getLast? found)
        simp only [newline, Option.elim_some, decide_true, if_true]
        omega
      · simp [newline]

/-! Changes of form. -/

inductive Respelling where
  /-- Every LF becomes a CR LF. -/
  | returns
  /-- A byte order mark is put in front. -/
  | mark
  /-- The last line gets an LF if it has none. -/
  | ending
  deriving Repr, DecidableEq

namespace Respelling

def withReturns (chars : List Char) : List Char :=
  chars.flatMap fun char => if char = '\n' then ['\r', '\n'] else [char]

def apply : Respelling → List Char → List Char
  | .returns, chars => withReturns chars
  | .mark, chars => '\ufeff' :: chars
  | .ending, chars => if chars = [] ∨ chars.getLast? = some '\n' then chars else chars ++ ['\n']

def applyAll (changes : List Respelling) (chars : List Char) : List Char :=
  changes.foldl (fun chars change => change.apply chars) chars

theorem withReturns_cons (char : Char) (rest : List Char) (other : char ≠ '\n') :
    withReturns (char :: rest) = char :: withReturns rest := by
  simp [withReturns, other]

theorem withReturns_newline (rest : List Char) :
    withReturns ('\n' :: rest) = '\r' :: '\n' :: withReturns rest := by
  simp [withReturns]

theorem unifyEndings_withReturns (chars : List Char) (plain : '\r' ∉ chars) :
    unifyEndings (withReturns chars) = chars := by
  induction chars with
  | nil => rfl
  | cons char rest ih =>
      simp only [List.mem_cons, not_or] at plain
      by_cases newline : char = '\n'
      · subst newline
        rw [withReturns_newline, unifyEndings, ih plain.2]
      · rw [withReturns_cons char rest newline,
          unifyEndings_cons _ _ fun same => absurd same.symm plain.1, ih plain.2]

theorem head_withReturns {chars : List Char} (unmarked : chars.head? ≠ some '\ufeff') :
    (withReturns chars).head? ≠ some '\ufeff' := by
  cases chars with
  | nil => simp [withReturns]
  | cons char rest =>
      by_cases newline : char = '\n'
      · subst newline
        simp [withReturns_newline]
      · simpa [withReturns_cons char rest newline] using unmarked

theorem getLast?_withReturns (chars : List Char) :
    (withReturns chars).getLast? = chars.getLast? := by
  induction chars with
  | nil => rfl
  | cons char rest ih =>
      by_cases newline : char = '\n'
      · subst newline
        simp [withReturns_newline, List.getLast?_cons, ih]
      · rw [withReturns_cons char rest newline, List.getLast?_cons, List.getLast?_cons, ih]

theorem withoutMark_withReturns (chars : List Char) :
    Line.withoutMark (withReturns chars) = withReturns (Line.withoutMark chars) := by
  by_cases marked : chars.head? = some '\ufeff'
  · obtain ⟨rest, rfl⟩ := List.head?_eq_some_iff.mp marked
    rw [withReturns_cons _ _ (by decide)]
    rfl
  · rw [withoutMark_of_other chars marked, withoutMark_of_other _ (head_withReturns marked)]

/-- What a text has to be like so that changes still to come keep what its lines say. -/
structure Ready (changes : List Respelling) (chars : List Char) : Prop where
  unreturned : .returns ∈ changes → '\r' ∉ chars
  unmarked : .mark ∈ changes → chars.head? ≠ some '\ufeff'
  ends : chars.getLast? ≠ some '\r'

theorem lineText_apply {change : Respelling} {later : List Respelling} {chars : List Char}
    (ready : Ready (change :: later) chars) :
    Grammar.lineText (change.apply chars) = Grammar.lineText chars := by
  obtain ⟨unreturned, unmarked, ends⟩ := ready
  cases change with
  | returns =>
      have plain := unreturned List.mem_cons_self
      have inside : '\r' ∉ Line.withoutMark chars :=
        fun member => plain ((withoutMark_suffix chars).subset member)
      rw [Grammar.lineText, apply, withoutMark_withReturns, unifyEndings_withReturns _ inside,
        Grammar.lineText, unifyEndings_of_absent _ inside]
  | mark =>
      have same := withoutMark_of_other chars (unmarked List.mem_cons_self)
      rw [Grammar.lineText, apply, Grammar.lineText, same]
      rfl
  | ending =>
      rw [apply]
      split
      · rfl
      · rename_i more
        rw [not_or] at more
        have endsInside : (Line.withoutMark chars).getLast? ≠ some '\r' := by
          obtain ⟨start, split⟩ := withoutMark_suffix chars
          intro last
          rw [← split, List.getLast?_append, last] at ends
          exact ends rfl
        have last : (unifyEndings (Line.withoutMark chars)).getLast? ≠ some '\n' := by
          rw [getLast?_unifyEndings, ne_eq, getLast?_withoutMark]
          exact more.2
        rw [Grammar.lineText, withoutMark_append _ _ (by simp),
          unifyEndings_append _ _ (Or.inl endsInside), Grammar.lineText, Grammar.closed,
          Grammar.closed, if_neg last, if_pos (by simp [unifyEndings])]
        rfl

theorem ready_apply {change : Respelling} {later : List Respelling} {chars : List Char}
    (ready : Ready (change :: later) chars) (once : change ∉ later) :
    Ready later (change.apply chars) := by
  obtain ⟨unreturned, unmarked, ends⟩ := ready
  cases change with
  | returns =>
      refine ⟨fun again => absurd again once, ?_, ?_⟩
      · intro member
        exact head_withReturns (unmarked (List.mem_cons_of_mem _ member))
      · rwa [apply, getLast?_withReturns]
  | mark =>
      refine ⟨?_, fun again => absurd again once, ?_⟩
      · intro member
        simpa [apply] using unreturned (List.mem_cons_of_mem _ member)
      · cases chars <;> simp_all [apply, List.getLast?_cons]
  | ending =>
      rw [apply]
      split
      · exact ⟨fun member => unreturned (List.mem_cons_of_mem _ member),
          fun member => unmarked (List.mem_cons_of_mem _ member), ends⟩
      · rename_i more
        rw [not_or] at more
        refine ⟨?_, ?_, by simp⟩
        · intro member
          simpa using unreturned (List.mem_cons_of_mem _ member)
        · intro member
          have first := unmarked (List.mem_cons_of_mem _ member)
          cases chars <;> simp_all

theorem lineText_applyAll (changes : List Respelling) (chars : List Char) (once : changes.Nodup)
    (ready : Ready changes chars) :
    Grammar.lineText (applyAll changes chars) = Grammar.lineText chars := by
  induction changes generalizing chars with
  | nil => rfl
  | cons change later ih =>
      obtain ⟨absent, others⟩ := List.nodup_cons.mp once
      exact (ih _ others (ready_apply ready absent)).trans (lineText_apply ready)

end Respelling

end RowScan
