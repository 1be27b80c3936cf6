import Mathlib
import RowScan.Proofs.Table.Calls
import RowScan.Proofs.Table.Violations

/-!
The first thing in a table that is refused. It is the first line that is not text or the first row
that does not pass its checks, whichever comes first, and nothing behind its last line matters for
what it is refused for.
-/

namespace RowScan

theorem single_of_linesOf (bytes : ByteArray) (chars : List Char)
    (member : .text chars ∈ linesOf bytes) : '\n' ∉ Line.withoutEnding chars := by
  obtain ⟨before, tail, split⟩ := List.append_of_mem member
  have cut : charLines chars = [chars] := by
    simpa using charLines_of_between bytes before [chars] tail split
  have more : chars ≠ [] := by
    rintro rfl
    simp [charLines_eq_nil.mpr] at cut
  obtain ⟨line, rest, behind, whole, inside, _⟩ := unread_line 1 chars more
  obtain ⟨rfl, _⟩ := List.cons_eq_cons.mp (whole.symm.trans cut)
  exact inside

theorem split_at_broken {first second : List (List Char)} {later others : List Line}
    (same : first.map Line.text ++ .broken :: later = second.map Line.text ++ .broken :: others) :
    first = second := by
  induction first generalizing second with
  | nil => cases second <;> simp_all
  | cons chars first ih =>
      cases second with
      | nil => simp at same
      | cons other second =>
          simp only [List.map_cons, List.cons_append, List.cons.injEq, Line.text.injEq] at same
          rw [same.1, ih same.2]

namespace Reader

/-- A call fails behind rows that have been read only at the end of the table or at the first line
that is not text, whatever follows that line. -/
theorem failure_of_rows (reader : Reader) (rows : List Row) (violation : Violation)
    (later : List (Except Violation Row))
    (answered : reader.answers = rows.map .ok ++ .error violation :: later)
    (single : ∀ chars, .text chars ∈ reader.lines → '\n' ∉ Line.withoutEnding chars) :
    (∃ line, violation = .record reader.input line .unterminatedQuote) ∨
      violation = .io .notUtf8 ∧ ∃ (texts : List (List Char)) (behind : List Line),
        reader.lines = texts.map .text ++ .broken :: behind ∧
        ∀ other, ∃ others, (Reader.mk reader.input reader.number
          (texts.map .text ++ .broken :: other)).answers =
            rows.map .ok ++ .error violation :: others := by
  obtain ⟨texts, behind, split, rest, same, _⟩ :=
    reader.exists_texts_of_rows rows _ answered single
  rw [answers_eq, next] at rest
  cases nextFrom_cases reader.input (reader.number + texts.length) behind with
  | ended _ _ last => simp [last] at rest
  | row _ _ splitRow _ sameRow _ => simp [splitRow, sameRow] at rest
  | unfinished _ start _ last =>
      simp only [last, List.cons.injEq, Except.error.injEq] at rest
      exact Or.inl ⟨start, rest.1⟩
  | @unreadable open_ further splitOpen sameOpen =>
      simp only [splitOpen, sameOpen, List.cons.injEq, Except.error.injEq] at rest
      obtain ⟨rfl, _⟩ := rest
      refine Or.inr ⟨rfl, texts ++ open_, further, by simp [split, splitOpen], ?_⟩
      intro other
      rw [List.map_append, List.append_assoc, same, answers_eq, next, sameOpen]
      exact ⟨_, rfl⟩

end Reader

namespace Table

variable (input : String) (columns : List String) (Refused : Row → Violation → Prop)

def Sound : List Row → Prop
  | [] => True
  | header :: rows => header.fields = columns ∧ ∀ row ∈ rows, ∀ violation, ¬ Refused row violation

/-- The first thing in a table that is refused, what for, and the number of lines up to its end:
everything before it passes. -/
inductive Offence (bytes : ByteArray) : Violation → Nat → Prop where
  | unreadable {sound : List Row} {later : List (Except Violation Row)}
      {texts : List (List Char)} {behind : List Line}
      (answered : (Reader.ofBytes input bytes).answers =
        sound.map .ok ++ .error (.io .notUtf8) :: later)
      (passed : Sound columns Refused sound)
      (split : linesOf bytes = texts.map .text ++ .broken :: behind) :
      Offence bytes (.io .notUtf8) (texts.length + 1)
  | header {header : Row} {later : List (Except Violation Row)}
      (answered : (Reader.ofBytes input bytes).answers = .ok header :: later)
      (other : header.fields ≠ columns) :
      Offence bytes (.schema input header.line columns header.fields) header.lastLine
  | row {header row : Row} {sound : List Row} {violation : Violation}
      {later : List (Except Violation Row)}
      (answered : (Reader.ofBytes input bytes).answers =
        (header :: sound).map .ok ++ .ok row :: later)
      (passed : Sound columns Refused (header :: sound)) (refused : Refused row violation) :
      Offence bytes violation row.lastLine

variable {input columns Refused} {decode : Row → Except Violation α}

theorem exists_offence_of_error (bytes : ByteArray) (sound : List Row) {violation : Violation}
    {later : List (Except Violation Row)}
    (answered : (Reader.ofBytes input bytes).answers = sound.map .ok ++ .error violation :: later)
    (passed : Sound columns Refused sound) (midway : violation.atEnd = false) :
    ∃ count, Offence input columns Refused bytes violation count := by
  rcases Reader.failure_of_rows _ _ _ _ answered (single_of_linesOf bytes) with
    ⟨line, rfl⟩ | ⟨rfl, texts, behind, split, _⟩
  · simp [Violation.atEnd] at midway
  · exact ⟨_, .unreadable answered passed split⟩

theorem rows_of_passed {answers : List (Except Violation Row)}
    (passed : ∀ answer ∈ answers, fault? (answer.bind decode) = none) :
    ∃ rows : List Row, answers = rows.map .ok ∧ ∀ row ∈ rows, ∃ value, decode row = .ok value := by
  have each : ∀ answer ∈ answers, ∃ row, id answer = .ok row := by
    intro answer member
    obtain ⟨value, decoded⟩ := (fault?_eq_none _).mp (passed answer member)
    obtain ⟨row, same, _⟩ := (bind_eq_ok _ _ _).mp decoded
    exact ⟨row, same⟩
  obtain ⟨rows, read⟩ := exists_mapM_eq_ok each
  rw [mapM_eq_ok, List.map_id] at read
  refine ⟨rows, read, ?_⟩
  intro row member
  exact (fault?_eq_none _).mp (passed (.ok row) (read ▸ List.mem_map_of_mem member))

theorem exists_offence (refusal : ∀ row violation, Refused row violation ↔
      decode row = .error violation) (bytes : ByteArray) {violation : Violation}
    (first : (violations input columns decode (linesOf bytes)).head? = some violation)
    (midway : violation.atEnd = false) :
    ∃ count, Offence input columns Refused bytes violation count := by
  rw [← head?_violations] at first
  rcases answered : (Reader.ofBytes input bytes).answers with _ | ⟨failed | header, later⟩
  · rw [answered] at first
    obtain rfl : Violation.schema input (max (linesOf bytes).length 1) columns [] = violation :=
      Option.some.inj first
    simp [Violation.atEnd] at midway
  · rw [answered] at first
    obtain rfl : failed = violation := Option.some.inj first
    exact exists_offence_of_error bytes [] answered trivial midway
  · rw [answered, violationsOf, List.head?_append] at first
    by_cases named : header.fields = columns
    · rw [headerViolation?, if_pos named, Option.toList_none, List.head?_nil, Option.none_or,
        List.head?_filterMap, List.findSome?_eq_some_iff] at first
      -- The first answer that fails a check stands behind rows that pass them all.
      obtain ⟨before, answer, behind, rfl, here, passed⟩ := first
      obtain ⟨rows, rfl, decoded⟩ := rows_of_passed passed
      have sound : Sound columns Refused (header :: rows) := by
        refine ⟨named, ?_⟩
        intro row member other refused
        obtain ⟨value, same⟩ := decoded row member
        rw [(refusal row other).mp refused] at same
        simp at same
      rcases (bind_eq_error _ _ _).mp ((fault?_eq_some _ _).mp here) with rfl | ⟨row, rfl, refused⟩
      · exact exists_offence_of_error bytes (header :: rows) answered sound midway
      · exact ⟨_, .row answered sound ((refusal row violation).mpr refused)⟩
    · rw [headerViolation?, if_neg named] at first
      obtain rfl := Option.some.inj first
      exact ⟨_, .header answered named⟩

theorem head?_violations_of_sound
    (refusal : ∀ row violation, Refused row violation ↔ decode row = .error violation)
    {bytes : ByteArray} {header : Row} {rows : List Row} {answer : Except Violation Row}
    {violation : Violation} {later : List (Except Violation Row)}
    (answered : (Reader.ofBytes input bytes).answers = (header :: rows).map .ok ++ answer :: later)
    (passed : Sound columns Refused (header :: rows))
    (failed : fault? (answer.bind decode) = some violation) :
    (violations input columns decode (linesOf bytes)).head? = some violation := by
  obtain ⟨named, others⟩ := passed
  have silent : (rows.map (Except.ok : Row → Except Violation Row)).filterMap
      (fun answer => fault? (answer.bind decode)) = [] := by
    simp only [List.filterMap_eq_nil_iff, List.forall_mem_map]
    intro row member
    by_contra failed
    obtain ⟨other, found⟩ := Option.ne_none_iff_exists'.mp failed
    exact others row member other ((refusal row other).mpr ((fault?_eq_some _ _).mp found))
  rw [← head?_violations, answered, List.map_cons, List.cons_append, violationsOf,
    headerViolation?, if_pos named, List.filterMap_append, silent]
  simp [failed]

theorem Offence.head?_violations
    (refusal : ∀ row violation, Refused row violation ↔ decode row = .error violation)
    {bytes : ByteArray} {violation : Violation} {count : Nat}
    (offence : Offence input columns Refused bytes violation count) :
    (violations input columns decode (linesOf bytes)).head? = some violation := by
  cases offence with
  | @unreadable sound later texts behind answered passed split =>
      cases sound with
      | nil =>
          rw [← Table.head?_violations, answered]
          rfl
      | cons header rows => exact head?_violations_of_sound refusal answered passed rfl
  | header answered other =>
      rw [← Table.head?_violations, answered, violationsOf, headerViolation?, if_neg other]
      rfl
  | @row header row sound violation later answered passed refused =>
      have failed : (Except.ok row).bind decode = .error violation := (refusal _ _).mp refused
      exact head?_violations_of_sound refusal answered passed ((fault?_eq_some _ _).mpr failed)

/-! What follows the last line of an offence. -/

theorem linesOf_of_start {start tail : ByteArray} {first behind : List Line}
    (closed : EndsLine start) (split : linesOf (start ++ tail) = first ++ behind)
    (inside : first.length ≤ start.data.toList.count 10) (rest : ByteArray) :
    ∃ others, linesOf (start ++ rest) = first ++ others := by
  rw [linesOf_append start tail closed] at split
  have shorter : first.length ≤ (linesOf start).length := by rwa [length_linesOf start closed]
  obtain ⟨between, same⟩ : first <+: linesOf start :=
    List.prefix_of_prefix_length_le ⟨behind, split.symm⟩ (List.prefix_append _ _) shorter
  rw [linesOf_append start rest closed, ← same, List.append_assoc]
  exact ⟨_, rfl⟩

theorem exists_texts_of_answers {bytes : ByteArray} (rows : List Row)
    {later : List (Except Violation Row)} {last : Row}
    (answered : (Reader.ofBytes input bytes).answers = rows.map .ok ++ later)
    (ends : rows.getLast? = some last) :
    ∃ (texts : List (List Char)) (behind : List Line),
      linesOf bytes = texts.map .text ++ behind ∧ last.lastLine = texts.length ∧
      ∀ other, ∃ others,
        (Reader.mk input 0 (texts.map .text ++ other)).answers = rows.map .ok ++ others := by
  obtain ⟨texts, behind, split, _, same, count⟩ :=
    Reader.exists_texts_of_rows _ _ _ answered (single_of_linesOf bytes)
  refine ⟨texts, behind, split, ?_, fun other => ⟨_, same other⟩⟩
  simpa [ends, Reader.ofBytes, Reader.ofLines] using count

theorem answers_of_start {start tail : ByteArray} (rows : List Row)
    {later : List (Except Violation Row)} {last : Row} (closed : EndsLine start)
    (answered : (Reader.ofBytes input (start ++ tail)).answers = rows.map .ok ++ later)
    (ends : rows.getLast? = some last)
    (inside : last.lastLine ≤ start.data.toList.count 10) (rest : ByteArray) :
    ∃ others, (Reader.ofBytes input (start ++ rest)).answers = rows.map .ok ++ others := by
  obtain ⟨texts, behind, split, lastCount, same⟩ := exists_texts_of_answers rows answered ends
  obtain ⟨between, kept⟩ :=
    linesOf_of_start closed split (by rwa [List.length_map, ← lastCount]) rest
  have whole : Reader.ofBytes input (start ++ rest) = ⟨input, 0, texts.map .text ++ between⟩ := by
    rw [← kept]
    rfl
  rw [whole]
  exact same between

theorem answers_concat {answers later : List (Except Violation Row)} {rows : List Row} {row : Row}
    (answered : answers = rows.map .ok ++ .ok row :: later) :
    answers = (rows ++ [row]).map .ok ++ later := by
  rw [answered, List.map_append, List.append_assoc]
  rfl

theorem Offence.count_le {bytes : ByteArray} {violation : Violation} {count : Nat}
    (offence : Offence input columns Refused bytes violation count) :
    count ≤ (linesOf bytes).length := by
  cases offence with
  | unreadable answered passed split =>
      rw [split, List.length_append, List.length_map, List.length_cons]
      omega
  | @header header later answered other =>
      obtain ⟨texts, behind, split, count, _⟩ :=
        exists_texts_of_answers [header] answered List.getLast?_singleton
      rw [split, List.length_append, List.length_map]
      omega
  | row answered passed refused =>
      obtain ⟨texts, behind, split, count, _⟩ :=
        exists_texts_of_answers _ (answers_concat answered) List.getLast?_concat
      rw [split, List.length_append, List.length_map]
      omega

theorem head?_violations_eq_some_iff
    (refusal : ∀ row violation, Refused row violation ↔ decode row = .error violation)
    (bytes : ByteArray) {violation : Violation} (midway : violation.atEnd = false) :
    (violations input columns decode (linesOf bytes)).head? = some violation ↔
      ∃ count ≤ (linesOf bytes).length, Offence input columns Refused bytes violation count := by
  constructor
  · intro first
    obtain ⟨count, offence⟩ := exists_offence refusal bytes first midway
    exact ⟨count, offence.count_le, offence⟩
  · rintro ⟨count, _, offence⟩
    exact offence.head?_violations refusal

theorem Offence.replace {start tail : ByteArray} {violation : Violation} {count : Nat}
    (offence : Offence input columns Refused (start ++ tail) violation count)
    (closed : EndsLine start) (inside : count ≤ start.data.toList.count 10) (rest : ByteArray) :
    Offence input columns Refused (start ++ rest) violation count := by
  cases offence with
  | @unreadable sound later texts behind answered passed split =>
      rcases Reader.failure_of_rows _ _ _ _ answered (single_of_linesOf (start ++ tail)) with
        ⟨_, other⟩ | ⟨_, others, further, splitOthers, same⟩
      · simp at other
      · obtain rfl := split_at_broken (split.symm.trans splitOthers)
        have upTo : linesOf (start ++ tail) = (texts.map .text ++ [.broken]) ++ behind := by
          rw [split, List.append_assoc]
          rfl
        obtain ⟨between, kept⟩ := linesOf_of_start closed upTo (by simpa using inside) rest
        rw [List.append_assoc] at kept
        obtain ⟨laterOther, answeredOther⟩ := same between
        change (Reader.mk input 0 (texts.map .text ++ ([.broken] ++ between))).answers = _
          at answeredOther
        rw [← kept] at answeredOther
        exact .unreadable answeredOther passed kept
  | @header header later answered other =>
      obtain ⟨others, same⟩ :=
        answers_of_start [header] closed answered rfl inside rest
      exact .header same other
  | row answered passed refused =>
      obtain ⟨others, same⟩ := answers_of_start _ closed (answers_concat answered)
        List.getLast?_concat inside rest
      rw [List.map_append, List.append_assoc] at same
      exact .row same passed refused

end Table

end RowScan
