import RowScan.Estimator
import RowScan.Files.Storage
import RowScan.Json.Records
import RowScan.Settings

/-!
A run joins a table of frequencies with a trace and writes the comparison of measured and expected
cache lines. Both inputs are read and estimated in full before the output is touched, and the output
appears only when it is complete; the summary, if one is wanted, is written last.
-/

namespace RowScan

inductive RunFailure where
  | layout (violation : Violation)
  | frequencies (path : String) (violation : Violation)
  | trace (path : String) (violation : Violation)
  | estimates (path : String) (violation : Violation)
  | output (path : String) (fault : ReplaceFault)
  | summary (path : String) (fault : IoFault)
  deriving Repr

namespace RunFailure

def context? : RunFailure → Option String
  | .layout _ => none
  | .frequencies path _ => some ("Failed to load frequency table " ++ Quoted.quote path)
  | .trace path _ => some ("Failed to read trace " ++ Quoted.quote path)
  | .estimates path _ => some ("Failed to estimate trace " ++ Quoted.quote path)
  | .output path _ => some ("Failed to write output " ++ Quoted.quote path)
  | .summary path _ => some ("Failed to write summary " ++ Quoted.quote path)

/-- The violation behind a failure, or the accounts of a fault that is none: an output that could
not be created or moved into place, or a summary that could not be written. -/
def cause : RunFailure → Violation ⊕ List String
  | .layout violation | .frequencies _ violation | .trace _ violation | .estimates _ violation
  | .output _ (.fill violation) => .inl violation
  | .output _ (.create temporary fault) =>
    .inr [fault.message ++ " at path " ++ Quoted.quote temporary]
  | .output _ (.move fault) =>
    .inr ["failed to persist temporary file: " ++ fault.message, fault.message]
  | .summary _ fault => .inr [fault.message]

def violation? (failure : RunFailure) : Option Violation := failure.cause.getLeft?

/-- What went wrong, from the outermost account to the innermost cause. -/
def chain (failure : RunFailure) : List String :=
  failure.context?.toList ++ failure.cause.elim Violation.chain id

end RunFailure

structure RunReport where
  events : List Event
  result : Except RunFailure (Summary Float)

namespace Settings

structure Inputs where
  frequencies : Except IoFault ByteArray
  trace : Except IoFault ByteArray

def decode (read : Except IoFault ByteArray) (load : ByteArray → List Event × Except Violation α) :
    List Event × Except Violation α :=
  match read with
  | .error fault => ([], .error (.io fault))
  | .ok bytes => load bytes

def estimator (settings : Settings) (frequencies : Frequencies Float) : Estimator Float where
  frequencies := frequencies
  layout := settings.layout
  treatment := settings.treatment
  input := settings.trace

def estimateRecords (settings : Settings) (frequencies : Frequencies Float)
    (records : List TermRecord) : List Event × Except RunFailure (List (Comparison Float)) :=
  let estimator := settings.estimator frequencies
  let configured := Event.configured settings.treatment.name settings.layout
  match estimator.run true records with
  | .error violation => ([configured], .error (.estimates settings.trace violation))
  | .ok comparisons => (configured :: estimator.events comparisons, .ok comparisons)

def estimateTrace (settings : Settings) (frequencies : Frequencies Float)
    (trace : Except IoFault ByteArray) :
    List Event × Except RunFailure (List (Comparison Float)) :=
  match decode trace (Trace.load settings.trace) with
  | (events, .error violation) => (events, .error (.trace settings.trace violation))
  | (events, .ok records) =>
    let (later, result) := settings.estimateRecords frequencies records
    (events ++ .read records.length settings.trace :: later, result)

/-- Everything a run does before it touches its output. -/
def estimates (settings : Settings) (inputs : Inputs) :
    List Event × Except RunFailure (List (Comparison Float)) :=
  match settings.layout.validate with
  | .error violation => ([], .error (.layout violation))
  | .ok () =>
    match decode inputs.frequencies (Frequencies.load settings.frequencies) with
    | (events, .error violation) => (events, .error (.frequencies settings.frequencies violation))
    | (events, .ok frequencies) =>
      let (later, result) := settings.estimateTrace frequencies inputs.trace
      (events ++ .loaded frequencies.size settings.frequencies :: later, result)

def writeSummary [Monad m] [Storage m] (settings : Settings) (events : List Event)
    (summary : Summary Float) : m RunReport := do
  match settings.summaryFile with
  | none => return ⟨events, .ok summary⟩
  | some path =>
    match ← Storage.write path summary.fileText.toUTF8 with
    | .error fault => return ⟨events, .error (.summary path fault)⟩
    | .ok () => return ⟨events ++ [.wroteSummary path], .ok summary⟩

def commit [Monad m] [Storage m] (settings : Settings) (events : List Event)
    (comparisons : List (Comparison Float)) : m RunReport := do
  match ← Storage.replace settings.output (Comparison.tableText comparisons).toUTF8 with
  | .error fault => return ⟨events, .error (.output settings.output fault)⟩
  | .ok () =>
    let summary := Summary.ofComparisons comparisons
    let written := [.wrote comparisons.length settings.output, .compared summary.figures]
    settings.writeSummary (events ++ written) summary

def run [Monad m] [Storage m] (settings : Settings) : m RunReport := do
  let frequencies ← Storage.read settings.frequencies
  let trace ← Storage.read settings.trace
  match settings.estimates ⟨frequencies, trace⟩ with
  | (events, .error failure) => return ⟨events, .error failure⟩
  | (events, .ok comparisons) => settings.commit events comparisons

end Settings

end RowScan
