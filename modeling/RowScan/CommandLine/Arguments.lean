import RowScan.CommandLine.Similarity
import RowScan.Text.Terminal

/-!
The arguments of the program: three paths, or a request for help or for the version.
-/

namespace RowScan

inductive UsageError where
  | missing (names : List String)
  | emptyValue (name : String)
  | unexpected (argument : String) (looksLikeOption : Bool)
  | mistyped (argument similar : String)
  | unneededValue (option value : String) (paths : Nat)
  deriving Repr, DecidableEq

inductive Command where
  | help
  | version
  | run (frequencies trace output : String)
  deriving Repr, DecidableEq

namespace Command

def programName : String := "rowcost-cachelines"

def programVersion : String := "0.1.0"

def pathNames : List String := ["<FREQUENCIES>", "<TRACE>", "<OUTPUT>"]

def options : List (String × Char × Command) := [("help", 'h', .help), ("version", 'V', .version)]

structure Progress where
  paths : List String
  onlyPaths : Bool

def checkLast (progress : Progress) : Except UsageError Unit :=
  if progress.paths.getLast? = some "" then
    .error (.emptyValue (pathNames.getD (progress.paths.length - 1) ""))
  else .ok ()

def longOption (progress : Progress) (argument : String) : Except UsageError Command :=
  let chars := argument.toList.drop 2
  let name := String.ofList (chars.takeWhile (· ≠ '='))
  let value := chars.dropWhile (· ≠ '=')
  match options.find? fun option => option.1 = name with
  | some (_, _, command) =>
    if value = [] then (checkLast progress).map fun _ => command
    else
      .error (.unneededValue ("--" ++ name) (String.ofList (value.drop 1)) progress.paths.length)
  | none =>
    match Similarity.mostLike? name (options.map Prod.fst) with
    | some similar => .error (.mistyped ("--" ++ name) ("--" ++ similar))
    | none => .error (.unexpected ("--" ++ name) true)

def shortOption (progress : Progress) (letter : Char) : Except UsageError Command :=
  match options.find? fun option => option.2.1 = letter with
  | some (_, _, command) => (checkLast progress).map fun _ => command
  | none => .error (.unexpected (String.ofList ['-', letter]) true)

def takePath (progress : Progress) (argument : String) : Except UsageError Progress :=
  if pathNames.length ≤ progress.paths.length then .error (.unexpected argument false)
  else
    (checkLast progress).map fun _ => { progress with paths := progress.paths ++ [argument] }

def finish (progress : Progress) : Except UsageError Command := do
  checkLast progress
  match progress.paths with
  | [frequencies, trace, output] => return .run frequencies trace output
  | paths => throw (.missing (pathNames.drop paths.length))

def parseFrom (progress : Progress) : List String → Except UsageError Command
  | [] => finish progress
  | argument :: rest =>
    if progress.onlyPaths then do
      parseFrom (← takePath progress argument) rest
    else if argument = "--" then parseFrom { progress with onlyPaths := true } rest
    else
      match argument.toList with
      | '-' :: '-' :: _ => longOption progress argument
      | '-' :: letter :: _ => shortOption progress letter
      | _ => do parseFrom (← takePath progress argument) rest

def parse (arguments : List String) : Except UsageError Command := parseFrom ⟨[], false⟩ arguments

def usageOf (words : List String) : String := " ".intercalate ("Usage:" :: programName :: words)

def usageLine (option : Option String) : String := usageOf (option.toList ++ pathNames)

def pathGroup : String :=
  let bare := pathNames.map fun name => String.ofList (name.toList.drop 1).dropLast
  "<" ++ "|".intercalate bare ++ ">"

def helpText : String :=
  "Predict the cache lines each query term touches and write them next to the measured counts\n" ++
  "\n" ++ usageLine none ++ "\n\n" ++
  "Arguments:\n" ++
  "  <FREQUENCIES>  Document frequency table (hash,gramSize,streamId,frequency,text)\n" ++
  "  <TRACE>        Query pipeline statistics " ++
  "(query,rows,matches,quadwords,cachelines,parse,plan,match)\n" ++
  "  <OUTPUT>       Output file (Query,TermPos,Quadwords,Cachelines,ExpectedCachelines)\n" ++
  "\n" ++
  "Options:\n" ++
  "  -h, --help     Print help\n" ++
  "  -V, --version  Print version\n"

def versionText : String := programName ++ " " ++ programVersion ++ "\n"

end Command

namespace UsageError

def headline : UsageError → String
  | .missing names =>
    "the following required arguments were not provided:" ++
      String.join (names.map fun name => "\n  " ++ name)
  | .emptyValue name => "a value is required for '" ++ name ++ "' but none was supplied"
  | .unexpected argument _ | .mistyped argument _ =>
    "unexpected argument '" ++ Terminal.strip argument ++ "' found"
  | .unneededValue option value _ =>
    "unexpected value '" ++ Terminal.strip value ++ "' for '" ++ option ++
      "' found; no more were expected"

def tip? : UsageError → Option String
  | .unexpected argument true =>
    let shown := Terminal.strip argument
    some ("to pass '" ++ shown ++ "' as a value, use '-- " ++ shown ++ "'")
  | .mistyped _ similar => some ("a similar argument exists: '" ++ similar ++ "'")
  | _ => none

/-- How the program is called, as far as the error leaves it open. Where an option was given a value
behind a path that is complete, which it is once another follows it, the paths are one group. -/
def usage? : UsageError → Option String
  | .emptyValue _ => none
  | .mistyped _ option => some (Command.usageLine (some option))
  | .unneededValue option _ paths =>
    if 2 ≤ paths then some (Command.usageOf [option, Command.pathGroup])
    else some (Command.usageLine (some option))
  | .missing _ | .unexpected .. => some (Command.usageLine none)

def message (error : UsageError) : String :=
  let tip := (error.tip?.map fun tip => "\n\n  tip: " ++ tip).getD ""
  let usage := (error.usage?.map fun usage => "\n\n" ++ usage).getD ""
  "error: " ++ error.headline ++ tip ++ usage ++ "\n\nFor more information, try '--help'.\n"

end UsageError

end RowScan
