/-!
The scan of a row character by character. A field that starts with a quote is open until its closing
quote, and two quotes inside it stand for one; behind the closing quote, and in a field that does
not start with one, quotes are plain characters.
-/

namespace RowScan

inductive ScanMode where
  | start
  /-- In a field without quotes around it, or behind its closing quote. -/
  | bare
  | quoted
  deriving Repr, DecidableEq

structure Scan where
  fields : Array String
  field : String
  mode : ScanMode
  deriving Repr, DecidableEq

namespace Scan

def empty : Scan := ⟨#[], "", .start⟩

def push (scan : Scan) (char : Char) : Scan :=
  { scan with
    field := scan.field.push char
    mode := if scan.mode = .start then .bare else scan.mode }

def nextField (scan : Scan) : Scan := ⟨scan.fields.push scan.field, "", .start⟩

/-- Takes a quote that is not the first of a doubled one. -/
def quote (scan : Scan) : Scan :=
  match scan.mode with
  | .start => { scan with mode := .quoted }
  | .bare => scan.push '"'
  | .quoted => { scan with mode := .bare }

def step (scan : Scan) (char : Char) : Scan :=
  if char = '"' then scan.quote
  else if char = ',' ∧ scan.mode ≠ .quoted then scan.nextField
  else scan.push char

def run (scan : Scan) : List Char → Scan
  | [] => scan
  | '"' :: '"' :: rest =>
    if scan.mode = .quoted then (scan.push '"').run rest else scan.quote.run ('"' :: rest)
  | char :: rest => (scan.step char).run rest

def toList (scan : Scan) : List String := (scan.fields.push scan.field).toList

end Scan

end RowScan
