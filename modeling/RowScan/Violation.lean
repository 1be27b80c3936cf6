import RowScan.Number.Natural
import RowScan.Number.Notation
import RowScan.Text.Quoted

/-!
What can be wrong with the inputs of a run. A violation holds its cause as data;
`Violation.contract` names the broken rule, `Violation.line?` the input line it is tied to, and
`Violation.message` words it.
-/

namespace RowScan

inductive SystemFault where
  | notFound
  | busy
  | notDirectory
  | isDirectory
  | invalidArgument
  | noSpace
  | nameTooLong
  deriving Repr, DecidableEq

namespace SystemFault

def all : List SystemFault :=
  [.notFound, .busy, .notDirectory, .isDirectory, .invalidArgument, .noSpace, .nameTooLong]

def code : SystemFault → Nat
  | .notFound => 2
  | .busy => 16
  | .notDirectory => 20
  | .isDirectory => 21
  | .invalidArgument => 22
  | .noSpace => 28
  | .nameTooLong => 36

def ofCode? (code : Nat) : Option SystemFault := all.find? fun fault => fault.code = code

def description : SystemFault → String
  | .notFound => "No such file or directory"
  | .busy => "Device or resource busy"
  | .notDirectory => "Not a directory"
  | .isDirectory => "Is a directory"
  | .invalidArgument => "Invalid argument"
  | .noSpace => "No space left on device"
  | .nameTooLong => "File name too long"

def wording (description : String) (code : Nat) : String :=
  description ++ " (os error " ++ Natural.text code ++ ")"

def message (fault : SystemFault) : String := wording fault.description fault.code

end SystemFault

inductive IoFault where
  | notUtf8
  | sinkFull
  | nulInName
  | system (fault : SystemFault)
  | stated (text : String)
  deriving Repr, DecidableEq

def IoFault.message : IoFault → String
  | .notUtf8 => "stream did not contain valid UTF-8"
  | .sinkFull => "failed to write whole buffer"
  | .nulInName => "file name contained an unexpected NUL byte"
  | .system fault => fault.message
  | .stated text => text

inductive RowDefect where
  | unterminatedQuote
  | arity (expected found : Nat)
  | notNatural (column found : String)
  | notNumber (column found : String)
  | stated (text : String)
  deriving Repr, DecidableEq

def RowDefect.message : RowDefect → String
  | .unterminatedQuote => "unterminated quoted field"
  | .arity expected found =>
    "expected " ++ Natural.text expected ++ " fields, found " ++ Natural.text found
  | .notNatural column found =>
    "column '" ++ column ++ "' expected a non-negative integer, found " ++ Quoted.quote found
  | .notNumber column found =>
    "column '" ++ column ++ "' expected a number, found " ++ Quoted.quote found
  | .stated text => text

inductive ValueDefect where
  | probability (found : Float)
  | reservedRows (rows reserved : Nat)
  | stated (text : String)
  deriving Repr

def ValueDefect.message : ValueDefect → String
  | .probability found => "signal probability " ++ Notation.plain.text found ++ " outside [0, 1]"
  | .reservedRows rows reserved =>
    "row count " ++ Natural.text rows ++ " is smaller than the " ++ Natural.text reserved ++
      " reserved row(s)"
  | .stated text => text

inductive ConfigDefect where
  | notValue (name text : String)
  | noCachelines
  | noSlots
  | density (found : Float)
  | treatment (name : String) (known : List String)
  | stated (text : String)
  deriving Repr

def ConfigDefect.message : ConfigDefect → String
  | .notValue name text => name ++ "=" ++ Quoted.quote text ++ " is not a valid value"
  | .noCachelines => "cachelines_per_row must be positive"
  | .noSlots => "address_slots_per_row must be positive"
  | .density found => "density " ++ Notation.plain.text found ++ " outside [0, 1]"
  | .treatment name known =>
    "unknown treatment " ++ Quoted.quote name ++ ", expected one of: " ++ ", ".intercalate known
  | .stated text => text

inductive Contract where
  | io
  | schema
  | record
  | values
  | config
  deriving Repr, DecidableEq

def Contract.name : Contract → String
  | .io => "Io"
  | .schema => "MalformedSchema"
  | .record => "MalformedRecord"
  | .values => "InvalidRecord"
  | .config => "InvalidConfig"

inductive Violation where
  | io (fault : IoFault)
  | schema (input : String) (line : Nat) (expected found : List String)
  | record (input : String) (line : Nat) (defect : RowDefect)
  | values (input : String) (line : Nat) (term : String) (defect : ValueDefect)
  | config (defect : ConfigDefect)
  deriving Repr

namespace Violation

def contract : Violation → Contract
  | .io _ => .io
  | .schema .. => .schema
  | .record .. => .record
  | .values .. => .values
  | .config _ => .config

def line? : Violation → Option Nat
  | .schema _ line .. | .record _ line _ | .values _ line .. => some line
  | .io _ | .config _ => none

def location (input : String) (line : Nat) : String := input ++ " at line " ++ Natural.text line

def message : Violation → String
  | .io fault => "IO error: " ++ fault.message
  | .schema input line expected found =>
    "Malformed schema in " ++ location input line ++ ": expected columns [" ++
      ", ".intercalate expected ++ "], found [" ++ ", ".intercalate found ++ "]"
  | .record input line defect =>
    "Malformed record in " ++ location input line ++ ": " ++ defect.message
  | .values input line term defect =>
    "Invalid record in " ++ location input line ++ " (term " ++ Quoted.quote term ++ "): " ++
      defect.message
  | .config defect => "Invalid configuration: " ++ defect.message

def chain (violation : Violation) : List String :=
  match violation with
  | .io fault => [violation.message, fault.message]
  | _ => [violation.message]

end Violation

end RowScan
