import RowScan.Text.Blank

/-!
The modes in which a regular expression is read. Flags in the expression set and clear them.
-/

namespace RowScan.Pattern

structure Modes where
  anyCase : Bool
  /-- Whether characters are matched, of all scripts, and not bytes. -/
  characters : Bool
  /-- Whether white space means nothing and a number sign begins a remark to the end of the line. -/
  spaced : Bool
  deriving Repr, DecidableEq

namespace Modes

def standard : Modes := ⟨false, true, false⟩

/-- Whether a text is a list of flags: letters without one twice, and at most one dash, which is not
the last. Of the flags, `i`, `u` and `x` are modes of reading; the others are about matching. -/
def isFlags (text : List Char) : Bool :=
  let flags := text.filter (· ≠ '-')
  flags.all ("imsURux".contains ·) && flags.Nodup && text.count '-' ≤ 1 && text.getLast? ≠ some '-'

def change (modes : Modes) (flags : List Char) : Modes :=
  let set := flags.takeWhile (· ≠ '-')
  let after (before : Bool) (flag : Char) : Bool :=
    if flags.contains flag then set.contains flag else before
  ⟨after modes.anyCase 'i', after modes.characters 'u', after modes.spaced 'x'⟩

end Modes

def behindRemarks : (inRemark : Bool) → List Char → List Char
  | _, [] => []
  | true, char :: rest => behindRemarks (char ≠ '\n') rest
  | false, char :: rest =>
    if Blank.isBlank char then behindRemarks false rest
    else if char = '#' then behindRemarks true rest
    else char :: rest

def meaningful (modes : Modes) (text : List Char) : List Char :=
  if modes.spaced then behindRemarks false text else text

/-- The character behind white space. One number sign counts as white space here, but no remark
follows it; if nothing else follows, the first character counts. -/
def glance (modes : Modes) (text : List Char) : Option Char :=
  if modes.spaced then
    let behind :=
      match text.dropWhile Blank.isBlank with
      | '#' :: rest => rest.dropWhile Blank.isBlank
      | other => other
    behind.head?.or text.head?
  else text.head?

end RowScan.Pattern
