import RowScan.Text.Pattern.Atom

/-!
Sets of characters between brackets: characters, ranges, named classes and further sets, joined or
taken from each other by operators. A set is read as to whether it is in order and how deep it is
nested.
-/

namespace RowScan.Pattern

/-- How deep parts in a row are nested: one alone as deep as itself, several one level deeper than
the deepest. -/
def rowDepth : List Nat → Nat
  | [] => 0
  | [depth] => depth
  | depths => depths.foldl max 0 + 1

def classNames : List String :=
  ["alnum", "alpha", "ascii", "blank", "cntrl", "digit", "graph", "lower", "print", "punct",
    "space", "upper", "word", "xdigit"]

def namedClass? : List Char → Option (Bool × List Char)
  | ':' :: rest =>
    let others := rest.head? = some '^'
    let rest := if others then rest.drop 1 else rest
    match rest.dropWhile (· ≠ ':') with
    | ':' :: ']' :: behind =>
      if classNames.contains (String.ofList (rest.takeWhile (· ≠ ':'))) then some (others, behind)
      else none
    | _ => none
  | _ => none

def namedClassFits (modes : Modes) (others : Bool) : Bool :=
  if modes.characters then !modes.anyCase else !others

def behindRange? (modes : Modes) (text : List Char) : Option (List Char) := do
  let (first, behind) ← atom? modes text
  let alone := if first.fitsSet modes then some behind else none
  match meaningful modes behind with
  | '-' :: rest =>
    let next := glance modes rest
    if next = some ']' ∨ next = some '-' then alone
    else
      match first, ← atom? modes (meaningful modes rest) with
      | .char low _, (.char high asByte, behind) =>
        if first.fitsSet modes ∧ (Atom.char high asByte).fitsSet modes ∧ low ≤ high then
          some behind
        else none
      | _, _ => none
  | _ => alone

structure OpenSet where
  parts : List Nat
  operand : Option Nat
  /-- Whether nothing but dashes stands in the set, which mean themselves there. -/
  fresh : Bool

namespace OpenSet

def empty : OpenSet := ⟨[], none, true⟩

def add (set : OpenSet) (depth : Nat) : OpenSet :=
  { set with parts := depth :: set.parts, fresh := false }

def depth (set : OpenSet) : Nat :=
  match set.operand with
  | some operand => max operand (rowDepth set.parts) + 1
  | none => rowDepth set.parts

def behindOperator (set : OpenSet) : OpenSet := ⟨[], some set.depth, false⟩

def takes (set : OpenSet) (char : Char) : Bool :=
  set.fresh && (char == '-' || (char == ']' && set.parts.isEmpty))

end OpenSet

/-- What follows the bracket that opens a set and the sign that makes it the set of all others. A
set of all other bytes may not stand, because it would match bytes that are no text. -/
def behindOpening? (modes : Modes) (text : List Char) : Option (List Char) :=
  match meaningful modes text with
  | '^' :: rest => if modes.characters then some rest else none
  | other => some other

/-- How deep the outermost of some open sets is nested, and what follows it. The sets are given from
the innermost; `fuel` is more than the length of the text. -/
def behindSets? (modes : Modes) : (fuel : Nat) → List OpenSet → List Char → Option (Nat × List Char)
  | 0, _, _ => none
  | _ + 1, [], _ => none
  | fuel + 1, set :: outer, text =>
    match meaningful modes text with
    | [] => none
    | char :: rest =>
      if set.takes char then
        if (Atom.char char false).fitsSet modes then
          behindSets? modes fuel ({ set.add 0 with fresh := char = '-' } :: outer) rest
        else none
      else
        match char, rest with
        | ']', _ =>
          match outer with
          | [] => some (set.depth + 1, rest)
          | parent :: others => behindSets? modes fuel (parent.add (set.depth + 1) :: others) rest
        | '[', _ =>
          match namedClass? rest with
          | some (negated, behind) =>
            if namedClassFits modes negated then
              behindSets? modes fuel (set.add 0 :: outer) behind
            else none
          | none => do
            behindSets? modes fuel (.empty :: set :: outer) (← behindOpening? modes rest)
        | '&', '&' :: behind | '-', '-' :: behind | '~', '~' :: behind =>
          behindSets? modes fuel (set.behindOperator :: outer) behind
        | _, _ => do
          behindSets? modes fuel (set.add 0 :: outer) (← behindRange? modes (char :: rest))

def set? (modes : Modes) (text : List Char) : Option (Nat × List Char) := do
  behindSets? modes (text.length + 1) [.empty] (← behindOpening? modes text)

end RowScan.Pattern
