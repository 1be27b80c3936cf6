import RowScan.CommandLine.Arguments
import RowScan.CommandLine.Filter
import RowScan.Run

/-!
The program as its caller sees it: from arguments, variables and files to an exit code and what is
printed. A failure is printed as its outermost account followed by its causes.
-/

namespace RowScan

structure Execution where
  exitCode : UInt32
  printed : String
  events : List Event
  complaint : String

namespace Execution

def indented (first later text : String) : String :=
  first ++ ("\n" ++ later).intercalate (text.splitOn "\n")

def numbered (number : Nat) : String :=
  let digits := Nat.toDigits 10 number
  String.ofList (List.replicate (5 - digits.length) ' ' ++ digits) ++ ": "

def causes : List String → String
  | [] => ""
  | [cause] => "\n\nCaused by:\n" ++ indented "    " "    " cause
  | several =>
    let lines := several.zipIdx.map fun (cause, number) =>
      "\n" ++ indented (numbered number) "       " cause
    "\n\nCaused by:" ++ String.join lines

def failureText : List String → String
  | [] => ""
  | account :: rest => "Error: " ++ account ++ causes rest ++ "\n"

def ofUsageError (error : UsageError) : Execution := ⟨1, "", [], error.message⟩

def ofPrinted (text : String) : Execution := ⟨0, text, [], ""⟩

def ofSettingsFailure (failure : SettingsFailure) : Execution :=
  ⟨1, "", [], failureText failure.chain⟩

def abortion (failure : RunFailure) : List Event :=
  match failure.violation? with
  | some violation => [.aborted violation.contract violation.line?]
  | none => []

def ofReport (filter : Filter) (report : RunReport) : Execution :=
  match report.result with
  | .ok _ => ⟨0, "", report.events.filter filter.shows, ""⟩
  | .error failure =>
    ⟨1, "", (report.events ++ abortion failure).filter filter.shows, failureText failure.chain⟩

def filterVariable : String := "RUST_LOG"

def variableNames : List String := filterVariable :: Settings.variableNames

end Execution

def execute [Monad m] [Storage m] (lookup : String → Option String) (arguments : List String) :
    m Execution := do
  match Command.parse arguments with
  | .error error => return .ofUsageError error
  | .ok .help => return .ofPrinted Command.helpText
  | .ok .version => return .ofPrinted Command.versionText
  | .ok (.run frequencies trace output) =>
    match Settings.ofEnvironment lookup frequencies trace output with
    | .error failure => return .ofSettingsFailure failure
    | .ok settings =>
      return .ofReport (Filter.ofVariable (lookup Execution.filterVariable)) (← settings.run)

end RowScan
