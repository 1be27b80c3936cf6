import Mathlib
import RowScan.Proofs.Estimator
import RowScan.Proofs.Frequencies.Loading
import RowScan.Proofs.Trace

/-!
Rows of a table of frequencies that no trace feels. A run looks up the terms of its trace and
nothing else, and a term without a row counts as one with the frequency zero. So rows for other
terms make no difference wherever they stand, nor do rows that give zero to terms without a row.
-/

namespace RowScan

def Trace.Asks (trace : Reader) (term : String) : Prop :=
  ∃ records, (readAll trace).2 = .ok records ∧ ∃ record ∈ records, record.term = term

namespace Frequencies

/-- Rows with further ones at any places among them. -/
inductive Interspersed (Further : Row → Prop) : List Row → List Row → Prop where
  | nil : Interspersed Further [] []
  | kept {row other : Row} {rows others : List Row} (same : other.fields = row.fields)
      (rest : Interspersed Further rows others) :
      Interspersed Further (row :: rows) (other :: others)
  | further {other : Row} {rows others : List Row} (allowed : Further other)
      (rest : Interspersed Further rows others) : Interspersed Further rows (other :: others)

/-- A row for a term that is not asked for, or one that gives zero to a term without a row. -/
inductive Irrelevant (asked : String → Prop) (rows : List Row) (row : Row) : Prop where
  | unasked {hash gram stream text term : String} {probability : Float}
      (shape : row.fields = [hash, gram, stream, text, term])
      (read : Reading.float? text = some probability)
      (valid : 0 ≤ probability ∧ probability ≤ 1) (absent : ¬ asked term)
  | zero {hash gram stream term : String} (shape : row.fields = [hash, gram, stream, "0", term])
      (unlisted : term ∉ terms rows)

/-- Tables that say the same of the terms asked for, and zero of those without a row. -/
def Agree (asked : String → Prop) (rows : List Row) (first second : Frequencies Float) : Prop :=
  ∀ term, asked term → second.lookup term = first.lookup term ∧
    (term ∉ terms rows → first.lookup term = 0)

variable {asked : String → Prop} {rows : List Row} {first second : Frequencies Float}

theorem lookup_of_unknown {frequencies : Frequencies Float} {term : String}
    (unknown : frequencies.contains term = false) : frequencies.lookup term = 0 := by
  have zero := lookup_empty term
  rw [lookup, empty, Std.HashMap.getD_empty] at zero
  rw [lookup, Std.HashMap.getD_eq_fallback_of_contains_eq_false unknown, zero]

theorem agree_empty (asked : String → Prop) (rows : List Row) : Agree asked rows empty empty :=
  fun term _ => ⟨rfl, fun _ => lookup_empty term⟩

theorem Agree.insert (agree : Agree asked rows first second) (entry : FrequencyEntry Float)
    (listed : entry.term ∈ terms rows) :
    Agree asked rows (first.insert entry) (second.insert entry) := by
  intro term wanted
  obtain ⟨same, zero⟩ := agree term wanted
  rw [lookup_insert, lookup_insert, same]
  refine ⟨rfl, fun unlisted => ?_⟩
  rw [if_neg (by rintro rfl; exact unlisted listed), zero unlisted]

theorem Agree.further (agree : Agree asked rows first second) (input : String) {row : Row}
    (irrelevant : Irrelevant asked rows row) :
    ∃ entry, entryOfRow input row = .ok entry ∧ Agree asked rows first (second.insert entry) := by
  cases irrelevant with
  | @unasked hash gram stream text term probability shape read valid absent =>
      refine ⟨⟨term, probability⟩, ?_, ?_⟩
      · exact (entryOfRow_eq_ok input row _).mpr
          ⟨hash, gram, stream, text, shape, read, (Layout.isProbability_float _).mpr valid⟩
      · intro other wanted
        rw [lookup_insert, if_neg (by rintro rfl; exact absent wanted)]
        exact agree other wanted
  | @zero hash gram stream term shape unlisted =>
      refine ⟨⟨term, 0⟩, ?_, ?_⟩
      · have read : Reading.float? "0" = some 0 := by decide +kernel
        have valid : Layout.isProbability (0 : Float) = true := by decide +kernel
        exact (entryOfRow_eq_ok input row _).mpr ⟨hash, gram, stream, "0", shape, read, valid⟩
      · intro other wanted
        obtain ⟨same, zero⟩ := agree other wanted
        rw [lookup_insert]
        by_cases own : term = other
        · subst own
          exact ⟨by rw [if_pos rfl, zero unlisted], zero⟩
        · rw [if_neg own]
          exact ⟨same, zero⟩

theorem agree_of_interspersed {input otherInput : String} {known others : List Row}
    {entries : List (FrequencyEntry Float)}
    (interspersed : Interspersed (Irrelevant asked known) rows others) (within : rows ⊆ known)
    (decoded : rows.map (entryOfRow input) = entries.map .ok)
    (agree : Agree asked known first second) :
    ∃ extended : List (FrequencyEntry Float),
      others.map (entryOfRow otherInput) = extended.map .ok ∧
      Agree asked known (entries.foldl insert first) (extended.foldl insert second) := by
  induction interspersed generalizing entries first second with
  | nil =>
      obtain rfl : entries = [] := by simpa [eq_comm] using decoded
      exact ⟨[], rfl, agree⟩
  | @kept row other rows others same rest ih =>
      rw [List.map_cons] at decoded
      obtain ⟨entry, later, rfl, here, behind⟩ := List.map_eq_cons_iff.mp decoded.symm
      have listed : entry.term ∈ terms known :=
        List.mem_filterMap.mpr ⟨row, within List.mem_cons_self, term_of_entryOfRow here.symm⟩
      obtain ⟨extended, decodedOthers, agreed⟩ :=
        ih (fun _ member => within (List.mem_cons_of_mem _ member)) behind.symm
          (agree.insert entry listed)
      have decodedOther : entryOfRow otherInput other = .ok entry :=
        entryOfRow_of_drop here.symm (by rw [same])
      exact ⟨entry :: extended, by rw [List.map_cons, List.map_cons, decodedOther, decodedOthers],
        agreed⟩
  | @further other rows others allowed rest ih =>
      obtain ⟨entry, decodedOther, agreed⟩ := agree.further otherInput allowed
      obtain ⟨extended, decodedOthers, agreed⟩ := ih within decoded agreed
      exact ⟨entry :: extended, by rw [List.map_cons, List.map_cons, decodedOther, decodedOthers],
        agreed⟩

end Frequencies

namespace Estimator

variable [Arithmetic R]

theorem estimate_congr {first second : Frequencies R} (layout : Layout R) (treatment : Treatment)
    (input : String) {record : TermRecord} (position : Nat)
    (same : second.lookup record.term = first.lookup record.term) :
    (Estimator.mk second layout treatment input).estimate record position =
      (Estimator.mk first layout treatment input).estimate record position := by
  simp only [estimate, same]

theorem run_congr {first second : Frequencies R} (layout : Layout R) (treatment : Treatment)
    (input : String) (workers : Bool) {records : List TermRecord}
    (same : ∀ record ∈ records, second.lookup record.term = first.lookup record.term) :
    (Estimator.mk second layout treatment input).run workers records =
      (Estimator.mk first layout treatment input).run workers records := by
  rw [run_eq_sequential, run_eq_sequential]
  apply mapM_congr
  rintro ⟨record, position⟩ member
  exact estimate_congr layout treatment input position
    (same record (List.fst_mem_of_mem_zipIdx member))

theorem runTrace_congr {first second : Frequencies R} (layout : Layout R) (treatment : Treatment)
    (input : String) (workers : Bool) {trace : Reader}
    (same : ∀ term, Trace.Asks trace term → second.lookup term = first.lookup term) :
    (Estimator.mk second layout treatment input).runTrace workers trace =
      (Estimator.mk first layout treatment input).runTrace workers trace := by
  rcases read : Trace.readAll trace with ⟨events, violation | records⟩
  · simp only [runTrace, read]
  · have estimated := run_congr layout treatment input workers fun record member =>
      same record.term ⟨records, by rw [read], record, member, rfl⟩
    simp only [runTrace, read, estimated]
    rfl

theorem toOption_estimate_renamed {first second : Frequencies R} (layout : Layout R)
    (treatment : Treatment) (input : String) (record : TermRecord) (position : Nat) (term : String)
    (same : second.lookup term = first.lookup record.term) :
    ((Estimator.mk second layout treatment input).estimate { record with term := term }
        position).toOption =
      ((Estimator.mk first layout treatment input).estimate record position).toOption.map
        fun comparison => { comparison with term := term } := by
  have rows : TermRecord.effectiveRows { record with term := term } layout =
      record.effectiveRows layout := rfl
  simp only [estimate, rows, same]
  cases record.effectiveRows layout <;> rfl

/-- Rows for terms that a trace does not ask for, and rows that give zero to terms without a row,
make no difference to it: a table with any number of them at any places still loads and every run
over the trace ends as before. A term without a row is estimated as any term is whose frequency is
zero, and fails where that one does. -/
theorem irrelevant_rows_unfelt (input otherInput : String) (bytes otherBytes : ByteArray)
    (line otherLine : Nat) (rows others : List Row) (frequencies : Frequencies Float)
    (trace : Reader)
    (answered : (Reader.ofBytes input bytes).answers =
      .ok ⟨line, Frequencies.columns⟩ :: rows.map .ok)
    (loaded : (Frequencies.load input bytes).2 = .ok frequencies)
    (answeredOther : (Reader.ofBytes otherInput otherBytes).answers =
      .ok ⟨otherLine, Frequencies.columns⟩ :: others.map .ok)
    (interspersed : Frequencies.Interspersed
      (Frequencies.Irrelevant (Trace.Asks trace) rows) rows others) :
    (∃ extended, (Frequencies.load otherInput otherBytes).2 = .ok extended ∧
      ∀ (layout : Layout Float) (treatment : Treatment) (traceInput : String) (workers : Bool),
        (Estimator.mk extended layout treatment traceInput).runTrace workers trace =
          (Estimator.mk frequencies layout treatment traceInput).runTrace workers trace) ∧
    ∀ (unknowing listing : Frequencies Float) (layout : Layout Float) (treatment : Treatment)
        (traceInput : String) (record : TermRecord) (position : Nat) (term : String),
      unknowing.contains record.term = false → listing.lookup term = 0 →
      ((Estimator.mk listing layout treatment traceInput).estimate { record with term := term }
          position).toOption =
        ((Estimator.mk unknowing layout treatment traceInput).estimate record position).toOption.map
          fun comparison => { comparison with term := term } := by
  constructor
  · obtain ⟨_, found, entries, answeredRows, decoded, rfl⟩ :=
      Frequencies.load_eq_ofEntries input bytes frequencies loaded
    rw [answered, List.cons.injEq] at answeredRows
    obtain rfl : rows = found :=
      List.map_injective_iff.mpr (fun _ _ => Except.ok.inj) answeredRows.2
    obtain ⟨extended, decodedOthers, agreed⟩ := Frequencies.agree_of_interspersed interspersed
      (List.Subset.refl rows) decoded (Frequencies.agree_empty _ rows)
    refine ⟨.ofEntries extended,
      Frequencies.load_of_answers otherInput otherBytes otherLine others extended answeredOther
        decodedOthers, ?_⟩
    intro layout treatment traceInput workers
    exact runTrace_congr layout treatment traceInput workers fun term asked => (agreed term asked).1
  · intro unknowing listing layout treatment traceInput record position term unknown zero
    refine toOption_estimate_renamed layout treatment traceInput record position term ?_
    rw [zero, Frequencies.lookup_of_unknown unknown]

def dogText : String := "hash,gramSize,streamId,frequency,text\n1,1,0,0.5,dog\n"

def paddedText : String :=
  "hash,gramSize,streamId,frequency,text\n7,,,0,cat\n1,1,0,0.5,dog\n8,,,1,fish\n9,,,0,cat\n"

def dogRows : List Row := [⟨2, ["1", "1", "0", "0.5", "dog"]⟩]

def paddedRows : List Row :=
  [⟨2, ["7", "", "", "0", "cat"]⟩, ⟨3, ["1", "1", "0", "0.5", "dog"]⟩,
    ⟨4, ["8", "", "", "1", "fish"]⟩, ⟨5, ["9", "", "", "0", "cat"]⟩]

def petTrace : String :=
  "query,rows,matches,quadwords,cachelines,parse,plan,match\ndog,9,0,0,0,,,\ncat,3,0,0,0,,,\n"

theorem interspersed_padded (trace : Reader)
    (opened : Trace.openTable "t" petTrace.toUTF8 = .ok trace) :
    Frequencies.Interspersed (Frequencies.Irrelevant (Trace.Asks trace) dogRows) dogRows
      paddedRows := by
  have terms : (Trace.load "t" petTrace.toUTF8).2.toOption.map (List.map TermRecord.term) =
      some ["dog", "cat"] := by decide +kernel
  have unasked : ¬ Trace.Asks trace "fish" := by
    rintro ⟨records, read, record, member, same⟩
    rw [Trace.load_eq_readAll _ _ trace opened, read] at terms
    have listed := List.mem_map_of_mem (f := TermRecord.term) member
    rw [Option.some.inj terms, same] at listed
    exact absurd listed (by decide)
  have read : Reading.float? "1" = some 1 := by decide +kernel
  refine .further (.zero rfl (by decide)) (.kept rfl (.further ?_ (.further ?_ .nil)))
  · exact .unasked rfl read (by decide +kernel) unasked
  · exact .zero rfl (by decide)

theorem irrelevant_rows_unfelt_padded :
    ∃ trace frequencies extended,
      Trace.openTable "t" petTrace.toUTF8 = .ok trace ∧
      (Reader.ofBytes "f" dogText.toUTF8).answers =
        .ok ⟨1, Frequencies.columns⟩ :: dogRows.map .ok ∧
      (Reader.ofBytes "g" paddedText.toUTF8).answers =
        .ok ⟨1, Frequencies.columns⟩ :: paddedRows.map .ok ∧
      Frequencies.Interspersed (Frequencies.Irrelevant (Trace.Asks trace) dogRows) dogRows
        paddedRows ∧
      (Frequencies.load "f" dogText.toUTF8).2 = .ok frequencies ∧
      (Frequencies.load "g" paddedText.toUTF8).2 = .ok extended ∧
      (Estimator.mk extended .reference .intersection "t").runTrace true trace =
        (Estimator.mk frequencies .reference .intersection "t").runTrace true trace ∧
      ∃ comparison,
        (Estimator.mk .empty .reference .intersection "t").estimate (recordAt 2 9) 0 =
          .ok comparison ∧
        (Frequencies.ofEntries [⟨"cat", (0 : Float)⟩]).contains "cat" = true ∧
        (Estimator.mk (.ofEntries [⟨"cat", 0⟩]) .reference .intersection "t").estimate
          { recordAt 2 9 with term := "cat" } 0 = .ok { comparison with term := "cat" } := by
  have opens : (Trace.openTable "t" petTrace.toUTF8).toOption.isSome = true := by decide +kernel
  obtain ⟨trace, opened⟩ := Option.isSome_iff_exists.mp opens
  rw [toOption_eq_some] at opened
  have answered : (Reader.ofBytes "f" dogText.toUTF8).answers =
      .ok ⟨1, Frequencies.columns⟩ :: dogRows.map .ok := by
    rw [Reader.answers_ofBytes]
    exact Frequencies.answers_of_read (by decide +kernel)
  have answeredPadded : (Reader.ofBytes "g" paddedText.toUTF8).answers =
      .ok ⟨1, Frequencies.columns⟩ :: paddedRows.map .ok := by
    rw [Reader.answers_ofBytes]
    exact Frequencies.answers_of_read (by decide +kernel)
  have loads : (Frequencies.load "f" dogText.toUTF8).2.toOption.isSome = true := by decide +kernel
  obtain ⟨frequencies, loaded⟩ := Option.isSome_iff_exists.mp loads
  rw [toOption_eq_some] at loaded
  have interspersed := interspersed_padded trace opened
  have unknown : (Frequencies.empty : Frequencies Float).contains "a" = false := by
    simp [Frequencies.empty, Frequencies.contains]
  have listed : (Frequencies.ofEntries [⟨"cat", (0 : Float)⟩]).contains "cat" = true := by
    simp [Frequencies.contains_ofEntries]
  have zero : (Frequencies.ofEntries [⟨"cat", (0 : Float)⟩]).lookup "cat" = 0 := by
    simp [Frequencies.ofEntries, Frequencies.lookup_insert]
  obtain ⟨⟨extended, loadedPadded, unfelt⟩, renamed⟩ :=
    irrelevant_rows_unfelt "f" "g" dogText.toUTF8 paddedText.toUTF8 1 1 dogRows paddedRows
      frequencies trace answered loaded answeredPadded interspersed
  have same := renamed .empty (.ofEntries [⟨"cat", 0⟩]) .reference .intersection "t"
    (recordAt 2 9) 0 "cat" unknown zero
  obtain ⟨comparison, estimated⟩ : ∃ comparison,
      (Estimator.mk (.empty : Frequencies Float) .reference .intersection "t").estimate
        (recordAt 2 9) 0 = .ok comparison := ⟨_, rfl⟩
  rw [estimated] at same
  exact ⟨trace, frequencies, extended, opened, answered, answeredPadded, interspersed, loaded,
    loadedPadded, unfelt .reference .intersection "t" true, comparison, estimated, listed,
    (toOption_eq_some _ _).mp same⟩

end Estimator

end RowScan
