import Mathlib
import RowScan.Proofs.Frequencies.Loading
import RowScan.Proofs.Table.Offence
import RowScan.Proofs.Trace.Decoding

/-!
A table of frequencies and a trace load up to the first thing in them that is refused and no
further: what follows the last line of it, text or not, has no part in the failure.
-/

namespace RowScan

namespace Frequencies

/-- What a row is refused for: the number of its fields first, then a frequency that is no number,
then one that is no probability. -/
inductive Refused (input : String) (row : Row) : Violation → Prop where
  | arity (other : row.fields.length ≠ columns.length) :
      Refused input row (.record input row.line (.arity columns.length row.fields.length))
  | number {hash gram stream text term : String}
      (shape : row.fields = [hash, gram, stream, text, term])
      (refused : Reading.float? text = none) :
      Refused input row (.record input row.line (.notNumber "frequency" text))
  | probability {hash gram stream text term : String} {number : Float}
      (shape : row.fields = [hash, gram, stream, text, term])
      (read : Reading.float? text = some number) (outside : ¬ (0 ≤ number ∧ number ≤ 1)) :
      Refused input row (.values input row.line term (.probability number))

theorem entryOfRow_of_arity (input : String) (row : Row)
    (other : row.fields.length ≠ columns.length) :
    entryOfRow input row =
      .error (.record input row.line (.arity columns.length row.fields.length)) := by
  unfold entryOfRow
  split
  · rename_i shape
    rw [shape] at other
    exact absurd rfl other
  · rfl

theorem entryOfRow_of_shape (input : String) {row : Row} {hash gram stream text term : String}
    (shape : row.fields = [hash, gram, stream, text, term]) :
    entryOfRow input row =
      match Reading.float? text with
      | none => .error (.record input row.line (.notNumber "frequency" text))
      | some number =>
          if 0 ≤ number ∧ number ≤ 1 then .ok ⟨term, number⟩
          else .error (.values input row.line term (.probability number)) := by
  simp only [entryOfRow, shape, Row.number]
  cases Reading.float? text with
  | none => rfl
  | some number =>
      have unit := Layout.isProbability_float number
      by_cases valid : Layout.isProbability number = true
      · simp [valid, unit.mp valid, bind, Except.bind, pure, Except.pure]
      · simp [valid, mt unit.mpr valid, bind, Except.bind, throw, throwThe, MonadExceptOf.throw]

theorem refused_iff (input : String) (row : Row) (violation : Violation) :
    Refused input row violation ↔ entryOfRow input row = .error violation := by
  constructor
  · rintro (other | ⟨shape, refused⟩ | ⟨shape, read, outside⟩)
    · exact entryOfRow_of_arity input row other
    · rw [entryOfRow_of_shape input shape, refused]
    · rw [entryOfRow_of_shape input shape, read]
      exact if_neg outside
  · intro failed
    by_cases counted : row.fields.length = columns.length
    · obtain ⟨hash, gram, stream, text, term, shape⟩ :
          ∃ hash gram stream text term, row.fields = [hash, gram, stream, text, term] := by
        rcases fields : row.fields with _ | ⟨hash, _ | ⟨gram, _ | ⟨stream, _ | ⟨text,
          _ | ⟨term, rest⟩⟩⟩⟩⟩
        all_goals simp_all [columns]
      rw [entryOfRow_of_shape input shape] at failed
      cases read : Reading.float? text with
      | none =>
          rw [read] at failed
          obtain rfl := Except.error.inj failed
          exact .number shape read
      | some number =>
          simp only [read] at failed
          split at failed
          · simp at failed
          · rename_i outside
            obtain rfl := Except.error.inj failed
            exact .probability shape read outside
    · rw [entryOfRow_of_arity input row counted] at failed
      obtain rfl := Except.error.inj failed
      exact .arity counted

abbrev Offence (input : String) (bytes : ByteArray) (violation : Violation) (count : Nat) : Prop :=
  Table.Offence input columns (Refused input) bytes violation count

theorem load_eq_error_of_offence {input : String} {bytes : ByteArray} {violation : Violation}
    {count : Nat} (offence : Offence input bytes violation count) :
    (load input bytes).2 = .error violation := by
  rw [← fault?_eq_some, fault?_load]
  exact offence.head?_violations (refused_iff input)

theorem load_eq_error_iff_offence {input : String} {bytes : ByteArray} {violation : Violation}
    (midway : violation.atEnd = false) :
    (load input bytes).2 = .error violation ↔
      ∃ count ≤ (linesOf bytes).length, Offence input bytes violation count := by
  rw [← fault?_eq_some, fault?_load]
  exact Table.head?_violations_eq_some_iff (refused_iff input) bytes midway

end Frequencies

namespace Trace

abbrev Offence (input : String) (bytes : ByteArray) (violation : Violation) (count : Nat) : Prop :=
  Table.Offence input columns (fun row violation => Decodes input row (.error violation)) bytes
    violation count

theorem load_eq_error_of_offence {input : String} {bytes : ByteArray} {violation : Violation}
    {count : Nat} (offence : Offence input bytes violation count) :
    (load input bytes).2 = .error violation := by
  rw [← fault?_eq_some, fault?_load]
  exact offence.head?_violations fun row violation => decodes_iff input row (.error violation)

theorem load_eq_error_iff_offence {input : String} {bytes : ByteArray} {violation : Violation}
    (midway : violation.atEnd = false) :
    (load input bytes).2 = .error violation ↔
      ∃ count ≤ (linesOf bytes).length, Offence input bytes violation count := by
  rw [← fault?_eq_some, fault?_load]
  exact Table.head?_violations_eq_some_iff
    (fun row violation => decodes_iff input row (.error violation)) bytes midway

end Trace

/-- Unless a quote stays open or there is no row at all, a failure to load is that of the first
offence of the table, which ends on one of its lines. If that line has an LF, everything behind it
can be replaced and the failure stays the same. -/
theorem load_stops_at_first_offence (input : String) (bytes : ByteArray) (violation : Violation)
    (midway : violation.atEnd = false) :
    ((Frequencies.load input bytes).2 = .error violation ↔
      ∃ count ≤ (linesOf bytes).length, Frequencies.Offence input bytes violation count) ∧
    ((Trace.load input bytes).2 = .error violation ↔
      ∃ count ≤ (linesOf bytes).length, Trace.Offence input bytes violation count) ∧
    ∀ start tail : ByteArray, bytes = start ++ tail → EndsLine start →
      let count := start.data.toList.count 10
      (Frequencies.Offence input bytes violation count →
        ∀ rest, (Frequencies.load input (start ++ rest)).2 = .error violation) ∧
      (Trace.Offence input bytes violation count →
        ∀ rest, (Trace.load input (start ++ rest)).2 = .error violation) := by
  refine ⟨Frequencies.load_eq_error_iff_offence midway, Trace.load_eq_error_iff_offence midway, ?_⟩
  rintro start tail rfl closed
  constructor
  · intro offence rest
    exact Frequencies.load_eq_error_of_offence (offence.replace closed le_rfl rest)
  · intro offence rest
    exact Trace.load_eq_error_of_offence (offence.replace closed le_rfl rest)

def wordyListing : ByteArray :=
  ("hash,gramSize,streamId,frequency,text\n1,1,0,0.5,dog\n" ++
    "2,1,0,half,\"cat\nfish\"\n").toUTF8

def quotedTraceLines : List (List Char) :=
  ["query,rows,matches,quadwords,cachelines,parse,plan,match\n".toList,
    "dog,3,1,2,30,a,b,c\n".toList, "\"x\n".toList]

def quotedTrace : ByteArray := (String.ofList quotedTraceLines.flatten).toUTF8 ++ ⟨#[255, 10]⟩

theorem load_stops_at_first_offence_inside :
    Violation.atEnd (.record "f" 3 (.notNumber "frequency" "half")) = false ∧
      Violation.atEnd (.io .notUtf8) = false ∧
      (∀ rest, (Frequencies.load "f" (wordyListing ++ rest)).2 =
        .error (.record "f" 3 (.notNumber "frequency" "half"))) ∧
      ∀ rest, (Trace.load "t" (quotedTrace ++ rest)).2 = .error (.io .notUtf8) := by
  refine ⟨rfl, rfl, ?_, ?_⟩
  · have read : (((Reader.ofBytes "f" wordyListing).answers.take 3).mapM id).toOption =
        some [⟨1, Frequencies.columns⟩, ⟨2, ["1", "1", "0", "0.5", "dog"]⟩,
          ⟨3, ["2", "1", "0", "half", "cat\nfish"]⟩] := by decide +kernel
    rw [toOption_eq_some, mapM_eq_ok, List.map_id] at read
    have answered := (List.take_append_drop 3 (Reader.ofBytes "f" wordyListing).answers).symm
    rw [read] at answered
    have half : Reading.float? "half" = none := by
      rw [← Option.isNone_iff_eq_none]
      decide +kernel
    have passed : Table.Sound Frequencies.columns (Frequencies.Refused "f")
        [⟨1, Frequencies.columns⟩, ⟨2, ["1", "1", "0", "0.5", "dog"]⟩] := by
      refine ⟨rfl, ?_⟩
      intro row member violation refused
      obtain rfl := List.mem_singleton.mp member
      have listed : (Frequencies.entryOfRow "f" ⟨2, ["1", "1", "0", "0.5", "dog"]⟩).toOption.isSome =
          true := by decide +kernel
      rw [(Frequencies.refused_iff _ _ _).mp refused] at listed
      simp [Except.toOption] at listed
    have refused : Frequencies.Refused "f" ⟨3, ["2", "1", "0", "half", "cat\nfish"]⟩
        (.record "f" 3 (.notNumber "frequency" "half")) := .number rfl half
    have offence : Frequencies.Offence "f" wordyListing
        (.record "f" 3 (.notNumber "frequency" "half")) 4 := .row answered passed refused
    obtain ⟨_, _, stops⟩ := load_stops_at_first_offence "f" wordyListing
      (.record "f" 3 (.notNumber "frequency" "half")) rfl
    exact (stops wordyListing .empty (by simp) (by unfold EndsLine; decide +kernel)).1 offence
  · have split : linesOf quotedTrace = quotedTraceLines.map .text ++ [.broken] := by
      decide +kernel
    have read : (((Grammar.answers "t" (readable (linesOf quotedTrace))).filter
        Except.isOk).mapM id).toOption =
          some [⟨1, Trace.columns⟩, ⟨2, ["dog", "3", "1", "2", "30", "a", "b", "c"]⟩] := by
      decide +kernel
    rw [toOption_eq_some, mapM_eq_ok, List.map_id] at read
    obtain ⟨later, answered, _⟩ := Reader.answers_ofBytes_lines "t" quotedTrace
    rw [Grammar.answersOfLines, if_pos (by rw [split]; simp), read, List.append_assoc] at answered
    have passed : Table.Sound Trace.columns
        (fun row violation => Trace.Decodes "t" row (.error violation))
        [⟨1, Trace.columns⟩, ⟨2, ["dog", "3", "1", "2", "30", "a", "b", "c"]⟩] := by
      refine ⟨rfl, ?_⟩
      intro row member violation refused
      obtain rfl := List.mem_singleton.mp member
      have decoded : (Trace.recordOfRow "t"
          ⟨2, ["dog", "3", "1", "2", "30", "a", "b", "c"]⟩).toOption.isSome = true := by
        decide +kernel
      rw [(Trace.decodes_iff _ _ _).mp refused] at decoded
      simp [Except.toOption] at decoded
    have offence : Trace.Offence "t" quotedTrace (.io .notUtf8) 4 :=
      .unreadable answered passed split
    obtain ⟨_, _, stops⟩ := load_stops_at_first_offence "t" quotedTrace (.io .notUtf8) rfl
    exact (stops quotedTrace .empty (by simp) (by unfold EndsLine; decide +kernel)).2 offence

end RowScan
