import RowScan.Number.Natural
import RowScan.Number.Notation

/-!
Writing JSON: on one line without spaces, or with a member per line and two spaces for each level.
-/

namespace RowScan

inductive JsonTree where
  | literal (text : String)
  | string (text : String)
  | object (members : List (String × JsonTree))

namespace JsonTree

def ofNat (number : Nat) : JsonTree := literal (Natural.text number)

def ofFloat (number : Float) : JsonTree := literal (Notation.json.text number)

def ofBool (value : Bool) : JsonTree := literal (if value then "true" else "false")

def numbered (char : Char) : List Char :=
  let digits := Nat.toDigits 16 char.toNat
  '\\' :: 'u' :: List.replicate (4 - digits.length) '0' ++ digits

def escape (char : Char) : List Char :=
  if char = '"' then ['\\', '"']
  else if char = '\\' then ['\\', '\\']
  else if char = '\x08' then ['\\', 'b']
  else if char = '\x0c' then ['\\', 'f']
  else if char = '\n' then ['\\', 'n']
  else if char = '\r' then ['\\', 'r']
  else if char = '\t' then ['\\', 't']
  else if char < ' ' then numbered char
  else [char]

def quote (text : String) : String :=
  String.ofList ('"' :: text.toList.flatMap escape ++ ['"'])

mutual

def compact : JsonTree → String
  | .literal text => text
  | .string text => quote text
  | .object members => "\x7b" ++ compactMembers members ++ "\x7d"

def compactMembers : List (String × JsonTree) → String
  | [] => ""
  | [(name, value)] => quote name ++ ":" ++ compact value
  | (name, value) :: rest => quote name ++ ":" ++ compact value ++ "," ++ compactMembers rest

end

def indentation (level : Nat) : String := String.ofList (List.replicate (2 * level) ' ')

mutual

def prettyFrom (level : Nat) : JsonTree → String
  | .literal text => text
  | .string text => quote text
  | .object [] => "\x7b\x7d"
  | .object (member :: members) =>
    "\x7b\n" ++ prettyMembers (level + 1) (member :: members) ++ "\n" ++ indentation level ++ "\x7d"

def prettyMembers (level : Nat) : List (String × JsonTree) → String
  | [] => ""
  | [(name, value)] => indentation level ++ quote name ++ ": " ++ prettyFrom level value
  | (name, value) :: rest =>
    indentation level ++ quote name ++ ": " ++ prettyFrom level value ++ ",\n" ++
      prettyMembers level rest

end

def pretty (tree : JsonTree) : String := prettyFrom 0 tree

end JsonTree

end RowScan
