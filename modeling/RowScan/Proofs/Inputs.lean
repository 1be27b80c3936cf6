import Mathlib
import RowScan.Proofs.Estimator
import RowScan.Proofs.Frequencies
import RowScan.Proofs.Number.Reading
import RowScan.Proofs.Table.Written
import RowScan.Proofs.Trace

/-!
Entries and records that are written as tables load as what they were, whatever their texts hold but
a CR LF. So estimating a trace from files is estimating it from memory.
-/

namespace RowScan

namespace Writer

theorem unified_natural (number : Nat) : unified (Natural.text number) = Natural.text number := by
  apply unified_of_absent
  rw [Natural.text, String.toList_ofList]
  intro member
  exact absurd (isDigit_toDigits number _ member) (by decide)

theorem unified_plain (number : Float) (probability : Layout.isProbability number = true) :
    unified (Notation.plain.text number) = Notation.plain.text number := by
  obtain ⟨negative, magnitude, finite⟩ := Layout.finite_of_isProbability number probability
  apply unified_of_absent
  intro member
  exact absurd (mem_plain_text number negative magnitude finite _ member) (by decide)

end Writer

namespace Frequencies

/-- An entry with the columns of its row that no one looks up. -/
structure Listing where
  hash : String
  gramSize : String
  streamId : String
  entry : FrequencyEntry Float

namespace Listing

def texts (listing : Listing) : List String :=
  [listing.hash, listing.gramSize, listing.streamId, listing.entry.term]

def fields (listing : Listing) : List String :=
  [listing.hash, listing.gramSize, listing.streamId,
    Notation.plain.text listing.entry.probability, listing.entry.term]

theorem unified_fields (listing : Listing)
    (probability : Layout.isProbability listing.entry.probability = true)
    (kept : ∀ field ∈ listing.texts, ¬ ['\r', '\n'] <:+: field.toList) :
    listing.fields.map Writer.unified = listing.fields := by
  simp only [texts, List.mem_cons, List.not_mem_nil, or_false, forall_eq_or_imp, forall_eq,
    ← Writer.unified_eq_self_iff] at kept
  simp only [fields, List.map_cons, List.map_nil, kept, Writer.unified_plain _ probability]

end Listing

def ofListings (listings : List Listing) : Frequencies Float :=
  ofEntries (listings.map Listing.entry)

def written (listings : List Listing) : ByteArray :=
  (Writer.text (columns :: listings.map Listing.fields)).toUTF8

theorem load_written (input : String) (listings : List Listing)
    (probabilities : ∀ listing ∈ listings, Layout.isProbability listing.entry.probability = true)
    (kept : ∀ listing ∈ listings, ∀ field ∈ listing.texts, ¬ ['\r', '\n'] <:+: field.toList) :
    (load input (written listings)).2 = .ok (ofListings listings) := by
  have answered := Reader.answers_written input columns (listings.map Listing.fields)
    (by simp [columns]) (by simp [Listing.fields, Writer.isBlank, columns])
  refine load_of_answers input _ 1 _ _ answered (List.ext_getElem? fun index => ?_)
  simp only [List.getElem?_map, Writer.getElem?_bodyRows]
  cases found : listings[index]? with
  | none => rfl
  | some listing =>
      have inside := List.mem_of_getElem? found
      have probability := probabilities listing inside
      obtain ⟨negative, magnitude, finite⟩ := Layout.finite_of_isProbability _ probability
      simp only [Option.map_some, listing.unified_fields probability (kept listing inside),
        Option.some.injEq, entryOfRow_eq_ok]
      exact ⟨_, _, _, _, rfl, float?_text _ negative magnitude finite, probability⟩

end Frequencies

namespace TermRecord

def texts (record : TermRecord) : List String :=
  [record.term, record.timings.parse, record.timings.plan, record.timings.matching]

def fields (record : TermRecord) : List String :=
  [record.term, Natural.text record.rows.toNat, Natural.text record.matched.toNat,
    Natural.text record.quadwords.toNat, Natural.text record.cachelines.toNat,
    record.timings.parse, record.timings.plan, record.timings.matching]

theorem unified_fields (record : TermRecord)
    (kept : ∀ field ∈ record.texts, ¬ ['\r', '\n'] <:+: field.toList) :
    record.fields.map Writer.unified = record.fields := by
  simp only [texts, List.mem_cons, List.not_mem_nil, or_false, forall_eq_or_imp, forall_eq,
    ← Writer.unified_eq_self_iff] at kept
  simp only [fields, List.map_cons, List.map_nil, kept, Writer.unified_natural]

end TermRecord

namespace Trace

def written (records : List TermRecord) : ByteArray :=
  (Writer.text (columns :: records.map TermRecord.fields)).toUTF8

def atLines (records : List TermRecord) : List TermRecord :=
  records.zipIdx.map fun (record, index) =>
    let before := columns :: (records.take index).map TermRecord.fields
    { record with line := 1 + newlines (Writer.text before).toList }

theorem recordOfRow_fields (input : String) (record : TermRecord) (line : Nat) :
    recordOfRow input ⟨line, record.fields⟩ = .ok { record with line := line } := by
  have read (counter : UInt64) :
      Natural.read Natural.limit64 (Natural.text counter.toNat) = .ok counter.toNat :=
    Natural.read_text counter.toNat_lt
  exact (recordOfRow_eq_ok input _ _).mpr
    ⟨rfl, _, _, _, _, rfl, read _, read _, read _, read _⟩

theorem openTable_written (input : String) (records : List TermRecord)
    (kept : ∀ record ∈ records, ∀ field ∈ record.texts, ¬ ['\r', '\n'] <:+: field.toList) :
    ∃ reader, openTable input (written records) = .ok reader ∧
      (readAll reader).2 = .ok (atLines records) := by
  have answered := Reader.answers_written input columns (records.map TermRecord.fields)
    (by simp [columns]) (by simp [TermRecord.fields, Writer.isBlank, columns])
  obtain ⟨reader, opened, rfl, others⟩ := openTable_of_answers input _ 1 _ answered
  refine ⟨reader, opened, readAll_of_answers reader _ _ others (List.ext_getElem? fun index => ?_)⟩
  simp only [List.getElem?_map, Writer.getElem?_bodyRows, atLines, List.getElem?_zipIdx]
  cases found : records[index]? with
  | none => rfl
  | some record =>
      simp only [Option.map_some, record.unified_fields (kept record (List.mem_of_getElem? found)),
        recordOfRow_fields, List.map_take, Nat.zero_add]

end Trace

namespace Estimator

/-- Entries and records give the same from files as from memory: the same table, the same records
on the lines on which they were written, and the same estimates or the same refusal. -/
theorem files_eq_memory (frequencyInput traceInput : String)
    (listings : List Frequencies.Listing) (records : List TermRecord)
    (probabilities : ∀ listing ∈ listings, Layout.isProbability listing.entry.probability = true)
    (listed : ∀ listing ∈ listings, ∀ field ∈ listing.texts, ¬ ['\r', '\n'] <:+: field.toList)
    (recorded : ∀ record ∈ records, ∀ field ∈ record.texts, ¬ ['\r', '\n'] <:+: field.toList) :
    ∃ frequencies trace,
      (Frequencies.load frequencyInput (Frequencies.written listings)).2 = .ok frequencies ∧
      (∀ term, frequencies.lookup term = (Frequencies.ofListings listings).lookup term ∧
        frequencies.contains term = (Frequencies.ofListings listings).contains term) ∧
      frequencies.size = (Frequencies.ofListings listings).size ∧
      Trace.openTable traceInput (Trace.written records) = .ok trace ∧
      (Trace.readAll trace).2 = .ok (Trace.atLines records) ∧
      ∀ (layout : Layout Float) (treatment : Treatment) (input : String) (workers : Bool),
        ((Estimator.mk frequencies layout treatment input).runTrace workers trace).2 =
          (Estimator.mk (Frequencies.ofListings listings) layout treatment input).run workers
            (Trace.atLines records) := by
  have loaded := Frequencies.load_written frequencyInput listings probabilities listed
  obtain ⟨trace, opened, read⟩ := Trace.openTable_written traceInput records recorded
  refine ⟨.ofListings listings, trace, loaded, fun _ => ⟨rfl, rfl⟩, rfl, opened, read, ?_⟩
  intro layout treatment input workers
  rw [result_runTrace, read]
  rfl

def quotedListings : List Frequencies.Listing :=
  [⟨"a,b", "\"", "", ⟨"\ufeffa\n\rb", 0.5⟩⟩, ⟨"", "\r", "\n", ⟨"", 1⟩⟩, ⟨"", "", "", ⟨"", 0.25⟩⟩]

def quotedRecords : List TermRecord :=
  [⟨0, "\ufeffa\n\rb", 18446744073709551615, 0, 1, 2, ⟨"1\n2", ",", "\"\""⟩⟩,
    ⟨0, "", 3, 0, 0, 0, ⟨"", "", "\r"⟩⟩]

theorem files_eq_memory_quoted :
    (∀ listing ∈ quotedListings, Layout.isProbability listing.entry.probability = true) ∧
      (∀ listing ∈ quotedListings, ∀ field ∈ listing.texts,
        ¬ ['\r', '\n'] <:+: field.toList) ∧
      (∀ record ∈ quotedRecords, ∀ field ∈ record.texts, ¬ ['\r', '\n'] <:+: field.toList) ∧
      (Trace.atLines quotedRecords).map TermRecord.line = [2, 5] ∧
      ∃ frequencies trace,
        (Frequencies.load "f" (Frequencies.written quotedListings)).2 = .ok frequencies ∧
        Trace.openTable "t" (Trace.written quotedRecords) = .ok trace ∧
        (Trace.readAll trace).2 = .ok (Trace.atLines quotedRecords) ∧
        ((Estimator.mk frequencies .reference .intersection "t").runTrace true trace).2 =
          (Estimator.mk (Frequencies.ofListings quotedListings) .reference .intersection "t").run
            true (Trace.atLines quotedRecords) := by
  have probabilities : ∀ listing ∈ quotedListings,
      Layout.isProbability listing.entry.probability = true := by decide +kernel
  have listed : ∀ listing ∈ quotedListings, ∀ field ∈ listing.texts,
      ¬ ['\r', '\n'] <:+: field.toList := by decide
  have recorded : ∀ record ∈ quotedRecords, ∀ field ∈ record.texts,
      ¬ ['\r', '\n'] <:+: field.toList := by decide
  obtain ⟨frequencies, trace, loaded, _, _, opened, read, same⟩ :=
    files_eq_memory "f" "t" quotedListings quotedRecords probabilities listed recorded
  exact ⟨probabilities, listed, recorded, by decide +kernel, frequencies, trace, loaded, opened,
    read, same .reference .intersection "t" true⟩

end Estimator

end RowScan
