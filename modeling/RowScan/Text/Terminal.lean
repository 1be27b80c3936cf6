/-!
Texts on a terminal. Some characters and sequences of characters are commands to a terminal and are
not shown: `strip` leaves them out, and `disarm` writes the characters that start them as escapes.
-/

namespace RowScan.Terminal

inductive Place where
  | ground
  | escape
  | escapeIntermediate
  /-- In a control sequence, which a letter or sign ends. -/
  | control
  | deviceEntry
  | deviceParameter
  | deviceIntermediate
  /-- In a text for the device. -/
  | string
  /-- In a command to the system around the terminal, which a bell ends. -/
  | command
  deriving Repr, DecidableEq

def isLayout (char : Char) : Bool :=
  char == '\t' || char == '\n' || char == '\x0c' || char == '\r'

def hasTerminator (char : Char) : Bool := (String.utf8EncodeChar char).contains 0x9c

def introduced (char : Char) : Place :=
  if char = '[' then .control
  else if char = ']' then .command
  else if char = 'P' then .deviceEntry
  else if char = 'X' ∨ char = '^' ∨ char = '_' then .string
  else .ground

def next? (place : Place) (char : Char) : Option Place :=
  if char = '\x18' ∨ char = '\x1a' then some .ground
  else if char = '\x1b' then some .escape
  else
    match place with
    | .ground => if char ≤ '\x7f' then none else some .ground
    | .escape =>
      if ' ' ≤ char ∧ char ≤ '/' then some .escapeIntermediate
      else if '0' ≤ char ∧ char ≤ '~' then some (introduced char)
      else none
    | .escapeIntermediate => if '0' ≤ char ∧ char ≤ '~' then some .ground else none
    | .control => if '@' ≤ char ∧ char ≤ '~' then some .ground else none
    | .deviceEntry =>
      if ' ' ≤ char ∧ char ≤ '/' then some .deviceIntermediate
      else if '0' ≤ char ∧ char ≤ '?' then some .deviceParameter
      else if '@' ≤ char ∧ char ≤ '~' then some .string
      else none
    | .deviceParameter =>
      if ' ' ≤ char ∧ char ≤ '/' then some .deviceIntermediate
      else if '<' ≤ char ∧ char ≤ '~' then some .string
      else none
    | .deviceIntermediate => if '0' ≤ char ∧ char ≤ '~' then some .string else none
    | .string => if hasTerminator char then some .ground else none
    | .command => if char = '\x07' then some .ground else none

def shows (place : Place) (char : Char) : Bool :=
  match place with
  | .ground => isLayout char || (' ' ≤ char && char ≠ '\x7f')
  | .escape | .escapeIntermediate | .control => isLayout char
  | _ => false

/-- A place in a text, and whether characters are being shown. While they are, the place is looked
at again only when a character is not shown. -/
structure Progress where
  place : Place
  showing : Bool
  deriving Repr, DecidableEq

def search (place : Place) (char : Char) : Bool × Progress :=
  let shown := shows place char
  (shown, ⟨(next? place char).getD place, shown⟩)

def advance (progress : Progress) (char : Char) : Bool × Progress :=
  if progress.showing then
    let place := (next? .ground char).getD progress.place
    if shows .ground char then (true, ⟨place, true⟩) else search place char
  else search progress.place char

def stripFrom (progress : Progress) : List Char → List Char
  | [] => []
  | char :: rest =>
    let (shown, behind) := advance progress char
    if shown then char :: stripFrom behind rest else stripFrom behind rest

def strip (text : String) : String := String.ofList (stripFrom ⟨.ground, false⟩ text.toList)

def escape (char : Char) : List Char :=
  if char = '\x1b' then "\\x1b".toList
  else if char = '\x07' then "\\x07".toList
  else if char = '\x08' then "\\x08".toList
  else if char = '\x0c' then "\\x0c".toList
  else if char = '\x7f' then "\\x7f".toList
  else if 0x80 ≤ char.toNat ∧ char.toNat ≤ 0x9f then
    '\\' :: 'u' :: '\x7b' :: Nat.toDigits 16 char.toNat ++ ['\x7d']
  else [char]

def disarm (text : String) : String := String.ofList (text.toList.flatMap escape)

end RowScan.Terminal
