import RowScan.Text.Alphanumeric
import RowScan.Text.Pattern.Set

/-!
Regular expressions, as far as whether a text is one: groups, alternatives, sets of characters and
repetitions. A repetition with counts is not part of the language. `Pattern.isValid` reads an
expression from its front and keeps, for each open group, how deep its parts are nested.
-/

namespace RowScan.Pattern

def depthLimit : Nat := 250

def isGroupName : List Char → Bool
  | [] => false
  | first :: rest =>
    (first == '_' || Alphanumeric.isLetter first) &&
      rest.all fun char => Alphanumeric.isAlphanumeric char || "_.[]".contains char

structure OpenGroup where
  parts : List Nat
  repeatable : Bool
  alternatives : Option Nat
  outside : Modes

namespace OpenGroup

def empty (outside : Modes) : OpenGroup := ⟨[], false, none, outside⟩

def add (group : OpenGroup) (depth : Nat) : OpenGroup :=
  { group with parts := depth :: group.parts, repeatable := true }

def addChange (group : OpenGroup) : OpenGroup :=
  { group with parts := 0 :: group.parts, repeatable := false }

def repeatLast? (group : OpenGroup) : Option OpenGroup :=
  match group.parts with
  | [] => none
  | last :: earlier =>
    if group.repeatable then some { group with parts := (last + 1) :: earlier } else none

def behindBar (group : OpenGroup) : OpenGroup :=
  let ended := max (group.alternatives.getD 0) (rowDepth group.parts)
  { group with parts := [], repeatable := false, alternatives := some ended }

def depth (group : OpenGroup) : Nat :=
  match group.alternatives with
  | some alternatives => max alternatives (rowDepth group.parts) + 1
  | none => rowDepth group.parts

end OpenGroup

structure Progress where
  modes : Modes
  names : List (List Char)
  group : OpenGroup
  outer : List OpenGroup

namespace Progress

def start : Progress := ⟨.standard, [], .empty .standard, []⟩

def add (progress : Progress) (depth : Nat) : Progress :=
  { progress with group := progress.group.add depth }

def enter (progress : Progress) (modes : Modes) : Progress :=
  { progress with
    modes := modes
    group := .empty progress.modes
    outer := progress.group :: progress.outer }

def leave? (progress : Progress) : Option Progress :=
  match progress.outer with
  | [] => none
  | parent :: others =>
    some { progress with
      modes := progress.group.outside
      group := parent.add (progress.group.depth + 1)
      outer := others }

def enterNamed? (progress : Progress) (text : List Char) : Option (Progress × List Char) :=
  let name := text.takeWhile (· ≠ '>')
  match text.dropWhile (· ≠ '>') with
  | [] => none
  | _ :: behind =>
    if isGroupName name ∧ name ∉ progress.names then
      some ({ progress.enter progress.modes with names := name :: progress.names }, behind)
    else none

/-- Enters a group whose flags are at the front of a text, or changes the modes for the rest of the
group around them. -/
def flagged? (progress : Progress) (text : List Char) : Option (Progress × List Char) :=
  let isEnd (char : Char) : Bool := char == ':' || char == ')'
  let flags := text.takeWhile fun char => !isEnd char
  let modes := progress.modes.change flags
  match text.dropWhile fun char => !isEnd char with
  | [] => none
  | last :: behind =>
    if !Modes.isFlags flags then none
    else if last = ':' then some (progress.enter modes, behind)
    else if flags = [] then none
    else some ({ progress with modes := modes, group := progress.group.addChange }, behind)

def open? (progress : Progress) (text : List Char) : Option (Progress × List Char) :=
  match meaningful progress.modes text with
  | '?' :: 'P' :: '<' :: rest | '?' :: '<' :: rest => progress.enterNamed? rest
  | '?' :: rest => progress.flagged? rest
  | other => some (progress.enter progress.modes, other)

def repeatLast? (progress : Progress) (text : List Char) : Option (Progress × List Char) := do
  let group ← progress.group.repeatLast?
  return ({ progress with group := group }, if text.head? = some '?' then text.drop 1 else text)

def step? (progress : Progress) (char : Char) (rest : List Char) :
    Option (Progress × List Char) :=
  match char with
  | '(' => progress.open? rest
  | ')' => progress.leave?.map fun left => (left, rest)
  | '|' => some ({ progress with group := progress.group.behindBar }, rest)
  | '[' => (set? progress.modes rest).map fun (depth, behind) => (progress.add depth, behind)
  | '*' | '+' | '?' => progress.repeatLast? rest
  | '\x7b' => none
  | '.' => if progress.modes.characters then some (progress.add 0, rest) else none
  | '^' | '$' => some (progress.add 0, rest)
  | _ => do
    let (atom, behind) ← atom? progress.modes (char :: rest)
    if atom.fits progress.modes then some (progress.add 0, behind) else none

/-- Whether the rest of an expression is in order; `fuel` is more than its length. -/
def isValidFrom : (fuel : Nat) → Progress → List Char → Bool
  | 0, _, _ => false
  | fuel + 1, progress, text =>
    match meaningful progress.modes text with
    | [] => progress.outer.isEmpty && progress.group.depth ≤ depthLimit
    | char :: rest =>
      match progress.step? char rest with
      | some (next, behind) => isValidFrom fuel next behind
      | none => false

end Progress

def isValid (text : String) : Bool :=
  Progress.isValidFrom (text.toList.length + 1) .start text.toList

end RowScan.Pattern
