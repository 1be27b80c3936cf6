import Mathlib
import RowScan.Proofs.Frequencies
import RowScan.Proofs.Table.Respelling
import RowScan.Proofs.Trace

/-!
Tables load alike in every form of their text: what is reported, what is held and what is refused
depend on what the lines say, and on their number only where there is no row at all.
-/

namespace RowScan

namespace Reader

structure Alike (first second : Reader) : Prop where
  input : first.input = second.input
  answers : first.answers = second.answers
  count : max (first.number + first.lines.length) 1 = max (second.number + second.lines.length) 1

theorem alike_ofBytes (input text other : String)
    (same : Grammar.lineText text.toList = Grammar.lineText other.toList) :
    Alike (ofBytes input text.toUTF8) (ofBytes input other.toUTF8) := by
  refine ⟨rfl, ?_, ?_⟩
  · rw [answers_ofBytes, answers_ofBytes, Grammar.answers_eq_lineText, same,
      ← Grammar.answers_eq_lineText]
  · have count (text : String) : max ((ofBytes input text.toUTF8).number +
        (ofBytes input text.toUTF8).lines.length) 1 = newlines (Grammar.lineText text.toList) := by
      rw [ofBytes, lines_of_text, ofLines, List.length_map, Nat.zero_add, max_length_charLines]
    rw [count, count, same]

theorem Alike.header_cases {first second : Reader} (alike : Alike first second)
    (columns : List String) (named : columns ≠ []) :
    (∃ violation rest other, first.header columns = (.error violation, rest) ∧
        second.header columns = (.error violation, other)) ∨
      ∃ rest other, first.header columns = (.ok (), rest) ∧
        second.header columns = (.ok (), other) ∧ rest.input = other.input ∧
        rest.answers = other.answers := by
  have same : fault? (first.header columns).1 = fault? (second.header columns).1 := by
    rw [fault?_header first columns named, fault?_header second columns named, alike.answers,
      alike.input, alike.count]
  rcases passed : first.header columns with ⟨violation | done, rest⟩
  · rw [passed, fault?_error, eq_comm, fault?_eq_some] at same
    refine Or.inl ⟨violation, rest, (second.header columns).2, rfl, ?_⟩
    rw [← same]
  · rw [passed, fault?_ok, eq_comm, fault?_eq_none] at same
    obtain ⟨_, passedSecond⟩ := same
    have second_eq : second.header columns = (.ok (), (second.header columns).2) := by
      rw [← passedSecond]
    obtain ⟨input, line, answered⟩ := answers_of_header first rest columns named passed
    obtain ⟨inputSecond, lineSecond, answeredSecond⟩ :=
      answers_of_header second _ columns named second_eq
    rw [alike.answers, answeredSecond] at answered
    refine Or.inr ⟨rest, _, rfl, second_eq, ?_, (List.cons_eq_cons.mp answered).2.symm⟩
    rw [input, inputSecond, alike.input]

end Reader

theorem Frequencies.load_congr {input : String} {bytes other : ByteArray}
    (alike : Reader.Alike (Reader.ofBytes input bytes) (Reader.ofBytes input other)) :
    load input bytes = load input other := by
  unfold load
  rcases alike.header_cases columns (by decide) with
    ⟨violation, rest, behind, first, second⟩ | ⟨rest, behind, first, second, _, answers⟩
  · rw [first, second]
  · rw [first, second]
    simp only [answers]

theorem Trace.load_congr {input : String} {bytes other : ByteArray}
    (alike : Reader.Alike (Reader.ofBytes input bytes) (Reader.ofBytes input other)) :
    load input bytes = load input other := by
  unfold load openTable
  rcases alike.header_cases columns (by decide) with
    ⟨violation, rest, behind, first, second⟩ | ⟨rest, behind, first, second, same, listed⟩
  · rw [first, second]
  · rw [first, second]
    simp only [readAll, answers, same, listed]

/-! Forms of a text. -/

/-- A text with lines that end with LFs and without a byte order mark. -/
structure IsPlain (text : String) : Prop where
  unreturned : '\r' ∉ text.toList
  unmarked : text.toList.head? ≠ some '\ufeff'

def respelled (changes : List Respelling) (text : String) : String :=
  String.ofList (Respelling.applyAll changes text.toList)

theorem lineText_respelled {text : String} (plain : IsPlain text) {changes : List Respelling}
    (once : changes.Nodup) :
    Grammar.lineText (respelled changes text).toList = Grammar.lineText text.toList := by
  rw [respelled, String.toList_ofList]
  refine Respelling.lineText_applyAll changes text.toList once
    ⟨fun _ => plain.unreturned, fun _ => plain.unmarked, ?_⟩
  intro last
  exact plain.unreturned (List.mem_of_getLast? last)

/-- Bytes that are the same or forms of one text. -/
inductive SameText : ByteArray → ByteArray → Prop where
  | same (bytes : ByteArray) : SameText bytes bytes
  | forms {text : String} (plain : IsPlain text) {changes others : List Respelling}
      (once : changes.Nodup) (otherOnce : others.Nodup) :
      SameText (respelled changes text).toUTF8 (respelled others text).toUTF8

theorem load_respelled {text : String} (plain : IsPlain text) {changes : List Respelling}
    (once : changes.Nodup) (input : String) :
    Frequencies.load input (respelled changes text).toUTF8 = Frequencies.load input text.toUTF8 ∧
      Trace.load input (respelled changes text).toUTF8 = Trace.load input text.toUTF8 := by
  have alike := Reader.alike_ofBytes input _ _ (lineText_respelled plain once)
  exact ⟨Frequencies.load_congr alike, Trace.load_congr alike⟩

theorem SameText.load {bytes other : ByteArray} (same : SameText bytes other) (input : String) :
    Frequencies.load input bytes = Frequencies.load input other ∧
      Trace.load input bytes = Trace.load input other := by
  cases same with
  | same => exact ⟨rfl, rfl⟩
  | forms plain once otherOnce =>
      obtain ⟨frequencies, trace⟩ := load_respelled plain once input
      obtain ⟨otherFrequencies, otherTrace⟩ := load_respelled plain otherOnce input
      exact ⟨frequencies.trans otherFrequencies.symm, trace.trans otherTrace.symm⟩

end RowScan
