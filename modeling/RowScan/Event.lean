import RowScan.Layout
import RowScan.Text.Terminal

/-!
What a run reports while it goes on. Events are collected as data; `Event.text` words them, and the
level and the source of an event decide who gets to see it.
-/

namespace RowScan

inductive Level where
  | error
  | warn
  | info
  | debug
  | trace
  deriving Repr, DecidableEq

namespace Level

def name : Level → String
  | .error => "ERROR"
  | .warn => "WARN"
  | .info => "INFO"
  | .debug => "DEBUG"
  | .trace => "TRACE"

def rank : Level → Nat
  | .error => 1
  | .warn => 2
  | .info => 3
  | .debug => 4
  | .trace => 5

end Level

structure Figures where
  actual : UInt64
  expected : Float
  ratio : Float
  meanAbsoluteError : Float
  rootMeanSquareError : Float
  deriving Repr

inductive Event where
  | duplicateTerm (term : String) (line : Nat)
  | duplicatesKept (input : String) (count : Nat)
  | frequenciesLoaded (input : String) (terms : Nat)
  | traceRead (input : String) (records : Nat)
  | estimated (records : Nat) (treatment : String)
  | loaded (terms : Nat) (path : String)
  | read (records : Nat) (path : String)
  | configured (treatment : String) (layout : Layout Float)
  | wrote (records : Nat) (path : String)
  | compared (figures : Figures)
  | wroteSummary (path : String)
  | aborted (contract : Contract) (line : Option Nat)
  deriving Repr

namespace Event

def level : Event → Level
  | .duplicateTerm .. | .frequenciesLoaded .. | .traceRead .. | .estimated .. | .configured .. =>
    .debug
  | .duplicatesKept .. => .warn
  | .loaded .. | .read .. | .wrote .. | .compared .. | .wroteSummary .. => .info
  | .aborted .. => .error

def source : Event → String
  | .duplicateTerm .. | .duplicatesKept .. | .frequenciesLoaded .. => "rowcost_core::frequency"
  | .traceRead .. => "rowcost_core::trace"
  | .estimated .. => "rowcost_model::pipeline"
  | .loaded .. | .read .. | .configured .. | .wrote .. | .compared .. | .wroteSummary .. =>
    "rowcost_tools"
  | .aborted .. => "rowcost_cachelines"

inductive Timing where
  | none
  | seconds
  | milliseconds
  deriving Repr, DecidableEq

def timing : Event → Timing
  | .estimated .. => .milliseconds
  | .wrote .. => .seconds
  | _ => .none

def hundredths (number : Nat) : String :=
  Natural.text (number / 100) ++ "." ++ Natural.text (number % 100 / 10) ++
    Natural.text (number % 10)

def elapsed (event : Event) (nanoseconds : Nat) : String :=
  match event.timing with
  | .none => ""
  | .seconds => hundredths (nanoseconds / 10000000)
  | .milliseconds => hundredths (nanoseconds / 10000)

def optionalLine : Option Nat → String
  | some line => "Some(" ++ Natural.text line ++ ")"
  | none => "None"

/-- The account of an event without its fields; `elapsed` is the time that passed, in the unit of
`Event.timing`. -/
def message (elapsed : String) : Event → String
  | .duplicateTerm .. => "duplicate term overrides earlier entry"
  | .duplicatesKept input count =>
    input ++ ": " ++ Natural.text count ++ " duplicate term(s), last occurrence kept"
  | .frequenciesLoaded input terms => input ++ ": loaded " ++ Natural.text terms ++ " terms"
  | .traceRead input records => input ++ ": read " ++ Natural.text records ++ " trace records"
  | .estimated records treatment =>
    "estimated " ++ Natural.text records ++ " records with " ++ treatment ++ " in " ++ elapsed ++
      "ms"
  | .loaded terms path =>
    "Loaded " ++ Natural.text terms ++ " term frequencies from " ++ Quoted.quote path
  | .read records path =>
    "Read " ++ Natural.text records ++ " query terms from " ++ Quoted.quote path
  | .configured .. => "estimator configured"
  | .wrote records path =>
    "Wrote " ++ Natural.text records ++ " estimates to " ++ Quoted.quote path ++ " in " ++
      elapsed ++ "s"
  | .compared figures =>
    "Cache lines: actual " ++ Natural.text figures.actual.toNat ++
      " / expected " ++ fixed 1 figures.expected ++
      " (ratio " ++ fixed 3 figures.ratio ++
      ", MAE " ++ fixed 2 figures.meanAbsoluteError ++
      ", RMSE " ++ fixed 2 figures.rootMeanSquareError ++ ")"
  | .wroteSummary path => "Wrote summary to " ++ Quoted.quote path
  | .aborted .. => "Run aborted, no output written"

def fields : Event → List (String × String)
  | .duplicateTerm term line => [("term", term), ("line", Natural.text line)]
  | .configured treatment layout => [
      ("treatment", Quoted.quote treatment),
      ("cachelines_per_row", Natural.text layout.cachelinesPerRow.toNat),
      ("density", Notation.field.text layout.density),
      ("address_slots_per_row", Natural.text layout.addressSlotsPerRow.toNat),
      ("reserved_rows", Natural.text layout.reservedRows.toNat)]
  | .aborted contract line =>
    [("contract", Quoted.quote contract.name), ("line", optionalLine line)]
  | _ => []

def fieldNames (event : Event) : List String := "message" :: event.fields.map Prod.fst

/-- The message and the fields of an event on one line. Only the message is kept from being taken as
commands to a terminal. -/
def text (elapsed : String) (event : Event) : String :=
  Terminal.disarm (event.message elapsed) ++
    String.join (event.fields.map fun (name, value) => " " ++ name ++ "=" ++ value)

def shown (elapsed : String) (event : Event) : String :=
  event.level.name ++ " " ++ event.text elapsed ++ "\n"

end Event

end RowScan
