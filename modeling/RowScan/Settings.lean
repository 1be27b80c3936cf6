import RowScan.Treatment

/-!
The settings of a run: the paths given on the command line and everything else from named variables
of the environment.
-/

namespace RowScan

structure Settings where
  frequencies : String
  trace : String
  output : String
  layout : Layout Float
  treatment : Treatment
  /-- How many workers estimate; zero leaves the choice to the program. -/
  threads : Nat
  summaryFile : Option String
  deriving Repr

inductive SettingsFailure where
  | layout (violation : Violation)
  | treatment (violation : Violation)
  | threads (text : String) (defect : Natural.Defect)
  deriving Repr

namespace SettingsFailure

def violation? : SettingsFailure → Option Violation
  | .layout violation | .treatment violation => some violation
  | .threads .. => none

def chain : SettingsFailure → List String
  | .layout violation => "Invalid row layout configuration" :: violation.chain
  | .treatment violation => "Invalid treatment configuration" :: violation.chain
  | .threads text defect =>
    ["ROWCOST_THREADS=" ++ Quoted.quote text ++ " is not a thread count", defect.message]

end SettingsFailure

namespace Settings

def treatmentVariable : String := "ROWCOST_TREATMENT"

def threadsVariable : String := "ROWCOST_THREADS"

def summaryVariable : String := "ROWCOST_SUMMARY_FILE"

def variableNames : List String :=
  Layout.variableNames ++ [treatmentVariable, threadsVariable, summaryVariable]

def treatmentOf (lookup : String → Option String) : Except Violation Treatment :=
  match lookup treatmentVariable with
  | none => .ok .standard
  | some name => Treatment.ofName name

def threadsOf (lookup : String → Option String) : Except SettingsFailure Nat :=
  match lookup threadsVariable with
  | none => .ok 0
  | some text => (Natural.read Natural.limit64 (Blank.trim text)).mapError (.threads text)

/-- The settings for three paths in an environment; the first variable that is wrong decides. -/
def ofEnvironment (lookup : String → Option String) (frequencies trace output : String) :
    Except SettingsFailure Settings := do
  let layout ← (Layout.ofLookup lookup).mapError .layout
  let treatment ← (treatmentOf lookup).mapError .treatment
  let threads ← threadsOf lookup
  return {
    frequencies := frequencies
    trace := trace
    output := output
    layout := layout
    treatment := treatment
    threads := threads
    summaryFile := lookup summaryVariable }

end Settings

end RowScan
