import RowScan.Number.Decimal

/-!
Reading doubles. The text of a number is an optional sign and either a name (`inf`, `infinity` or
`nan` in any case) or digits with an optional point and an optional exponent. The result is the
double nearest to the decimal.
-/

namespace RowScan

structure Spelling where
  whole : List Char
  fraction : List Char
  exponent : Int
  deriving Repr, DecidableEq

namespace Spelling

def decimal (spelling : Spelling) : Decimal :=
  ⟨Nat.ofDigitChars 10 (spelling.whole ++ spelling.fraction) 0,
    spelling.exponent - spelling.fraction.length⟩

end Spelling

def spanDigits (text : List Char) : List Char × List Char :=
  (text.takeWhile Char.isDigit, text.dropWhile Char.isDigit)

def splitSign : List Char → Bool × List Char
  | '-' :: rest => (true, rest)
  | '+' :: rest => (false, rest)
  | text => (false, text)

namespace Reading

def exponent? : List Char → Option Int
  | [] => some 0
  | mark :: rest =>
    if mark = 'e' ∨ mark = 'E' then
      let (negative, digits) := splitSign rest
      if digits ≠ [] ∧ digits.all Char.isDigit then
        let value : Int := Nat.ofDigitChars 10 digits 0
        some (if negative then -value else value)
      else none
    else none

def spanFraction : List Char → List Char × List Char
  | '.' :: rest => spanDigits rest
  | text => ([], text)

/-- A number without its sign. At least one digit stands before or behind the point. -/
def spelling? (text : List Char) : Option Spelling :=
  let (whole, rest) := spanDigits text
  let (fraction, rest) := spanFraction rest
  if whole = [] ∧ fraction = [] then none
  else (exponent? rest).map fun exponent => ⟨whole, fraction, exponent⟩

def isName (name : String) (text : List Char) : Bool :=
  text.map Char.toLower == name.toList

def float? (text : String) : Option Float :=
  let (negative, rest) := splitSign text.toList
  if isName "nan" rest then some Double.notANumber
  else if isName "inf" rest || isName "infinity" rest then
    some (Double.toFloat negative Magnitude.infinity)
  else
    (spelling? rest).map fun spelling => Double.toFloat negative spelling.decimal.magnitude

end Reading

end RowScan
