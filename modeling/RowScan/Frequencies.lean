import Std.Data.HashMap
import RowScan.Event
import RowScan.Table.Reader

/-!
Term frequencies: for each term the fraction of documents in which its bit is set. A table of them
has a fixed header; of several rows for one term the last counts, and a term without a row has the
frequency zero.
-/

namespace RowScan

/-- A term and the probability that its bit is set in a document. -/
structure FrequencyEntry (R : Type) where
  term : String
  probability : R
  deriving Repr

structure Frequencies (R : Type) where
  probabilities : Std.HashMap String R

namespace Frequencies

def empty : Frequencies R := ⟨∅⟩

def insert (frequencies : Frequencies R) (entry : FrequencyEntry R) : Frequencies R :=
  ⟨frequencies.probabilities.insert entry.term entry.probability⟩

def ofEntries (entries : List (FrequencyEntry R)) : Frequencies R := entries.foldl insert empty

def lookup [Arithmetic R] (frequencies : Frequencies R) (term : String) : R :=
  frequencies.probabilities.getD term 0

def contains (frequencies : Frequencies R) (term : String) : Bool :=
  frequencies.probabilities.contains term

def size (frequencies : Frequencies R) : Nat := frequencies.probabilities.size

def isEmpty (frequencies : Frequencies R) : Bool := frequencies.probabilities.isEmpty

def columns : List String := ["hash", "gramSize", "streamId", "frequency", "text"]

def entryOfRow (input : String) (row : Row) : Except Violation (FrequencyEntry Float) :=
  match row.fields with
  | [_, _, _, frequency, term] => do
    let probability ← row.number input "frequency" frequency
    if Layout.isProbability probability then
      return ⟨term, probability⟩
    else
      throw (.values input row.line term (.probability probability))
  | fields => .error (.record input row.line (.arity columns.length fields.length))

def addRows (input : String) (frequencies : Frequencies Float) (events : Array Event) :
    List (Except Violation Row) → Array Event × Except Violation (Frequencies Float)
  | [] => (events, .ok frequencies)
  | .error violation :: _ => (events, .error violation)
  | .ok row :: rest =>
    match entryOfRow input row with
    | .error violation => (events, .error violation)
    | .ok entry =>
      let events :=
        if frequencies.contains entry.term then
          events.push (.duplicateTerm entry.term row.line)
        else events
      addRows input (frequencies.insert entry) events rest

def loadEvents (input : String) (frequencies : Frequencies Float) (duplicates : Array Event) :
    List Event :=
  let kept : List Event :=
    if duplicates.isEmpty then [] else [.duplicatesKept input duplicates.size]
  duplicates.toList ++ kept ++ [.frequenciesLoaded input frequencies.size]

def load (input : String) (bytes : ByteArray) :
    List Event × Except Violation (Frequencies Float) :=
  match (Reader.ofBytes input bytes).header columns with
  | (.error violation, _) => ([], .error violation)
  | (.ok (), reader) =>
    match addRows input empty #[] reader.answers with
    | (duplicates, .ok frequencies) =>
      (loadEvents input frequencies duplicates, .ok frequencies)
    | (duplicates, .error violation) => (duplicates.toList, .error violation)

end Frequencies

end RowScan
