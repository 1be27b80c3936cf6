import RowScan.Text.Pattern.Modes

/-!
The smallest parts of a regular expression, and in which modes they may stand. When characters are
matched there are no tables of them: neither the families of digits, blanks and words nor the
positions at the ends of words are known, and no letter is known in its other case. When bytes are
matched, what is known is known of ASCII, and nothing may match bytes that are no text.
-/

namespace RowScan.Pattern

inductive Atom where
  | char (value : Char) (asByte : Bool)
  | position (ofWords : Bool)
  | family (others : Bool)
  deriving Repr, DecidableEq

namespace Atom

def fits (modes : Modes) : Atom → Bool
  | .char value asByte =>
    if modes.characters then !modes.anyCase else !asByte || value.toNat < 0x80
  | .position ofWords => !(modes.characters && ofWords)
  | .family others => !modes.characters && !others

def fitsSet (modes : Modes) : Atom → Bool
  | .char value _ => if modes.characters then !modes.anyCase else value.toNat < 0x80
  | .position _ => false
  | .family others => !modes.characters && !others

end Atom

def hexDigit? (digit : Char) : Option Nat :=
  if digit.isDigit then some (digit.toNat - '0'.toNat)
  else if 'a' ≤ digit.toLower ∧ digit.toLower ≤ 'f' then
    some (digit.toLower.toNat - 'a'.toNat + 10)
  else none

def hexadecimal? (modes : Modes) : (digits value : Nat) → List Char → Option (Nat × List Char)
  | 0, value, text => some (value, text)
  | digits + 1, value, text => do
    match meaningful modes text with
    | [] => none
    | digit :: rest => hexadecimal? modes digits (16 * value + (← hexDigit? digit)) rest

def numbered? (modes : Modes) (digits : Nat) (asByte : Bool) (text : List Char) :
    Option (Atom × List Char) := do
  let (value, rest) ← hexadecimal? modes digits 0 text
  if value.isValidChar then some (.char (Char.ofNat value) asByte, rest) else none

/-- What a letter or sign stands for behind a backslash. Signs stand for themselves, and the letters
that are not named here for nothing. -/
def escapeOf? (mark : Char) : Option Atom :=
  match mark with
  | 'a' => some (.char '\x07' false)
  | 'f' => some (.char '\x0c' false)
  | 't' => some (.char '\t' false)
  | 'n' => some (.char '\n' false)
  | 'r' => some (.char '\r' false)
  | 'v' => some (.char '\x0b' false)
  | 'A' | 'z' => some (.position false)
  | 'b' | 'B' | '<' | '>' => some (.position true)
  | 'd' | 's' | 'w' => some (.family false)
  | 'D' | 'S' | 'W' => some (.family true)
  | _ => if mark.isAlphanum ∨ '\x7f' < mark then none else some (.char mark false)

def escaped? (modes : Modes) : List Char → Option (Atom × List Char)
  | [] => none
  | 'x' :: rest => numbered? modes 2 true rest
  | 'u' :: rest => numbered? modes 4 false rest
  | 'U' :: rest => numbered? modes 8 false rest
  | mark :: rest => (escapeOf? mark).map fun atom => (atom, rest)

def atom? (modes : Modes) : List Char → Option (Atom × List Char)
  | [] => none
  | '\\' :: rest => escaped? modes rest
  | char :: rest => some (.char char false, rest)

end RowScan.Pattern
