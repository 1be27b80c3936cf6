import RowScan.Number.Decimal

/-!
How doubles are written. A `Notation` holds the choices of one written form: which exponents are
spelled out in zeros, whether a whole number keeps `.0`, how exponents and the numbers that are not
finite look. `fixed` writes a given count of decimal places instead of the fewest digits.
-/

namespace RowScan

/-- The digits with a point before the last `places` of them, behind as many zeros as it takes for
a digit to stand before the point. -/
def pointed (digits : List Char) (places : Nat) : List Char :=
  let padded := List.replicate (places + 1 - digits.length) '0' ++ digits
  let whole := padded.length - places
  padded.take whole ++ '.' :: padded.drop whole

structure Notation where
  tie : Decimal.Tie
  /-- The least and the greatest power of ten of a leading digit that is written without an
  exponent; no bounds when every number is. -/
  positional : Option (Int × Int)
  pointZero : Bool
  exponentSign : String
  notNumber : String
  infinity : String
  negativeInfinity : String

namespace Notation

def plain : Notation where
  tie := .upper
  positional := none
  pointZero := false
  exponentSign := ""
  notNumber := "NaN"
  infinity := "inf"
  negativeInfinity := "-inf"

def field : Notation where
  tie := .upper
  positional := some (-4, 15)
  pointZero := true
  exponentSign := ""
  notNumber := "NaN"
  infinity := "inf"
  negativeInfinity := "-inf"

def json : Notation where
  tie := .even
  positional := some (-5, 15)
  pointZero := true
  exponentSign := "+"
  notNumber := "null"
  infinity := "null"
  negativeInfinity := "null"

def isPositional (style : Notation) (leading : Int) : Bool :=
  match style.positional with
  | none => true
  | some (least, greatest) => least ≤ leading && leading ≤ greatest

def positionalText (style : Notation) (decimal : Decimal) : List Char :=
  let digits := Nat.toDigits 10 decimal.digits
  match decimal.exponent with
  | .ofNat zeros =>
    digits ++ List.replicate zeros '0' ++ (if style.pointZero then ['.', '0'] else [])
  | .negSucc places => pointed digits (places + 1)

def exponentText (style : Notation) (decimal : Decimal) (leading : Int) : List Char :=
  let digits := Nat.toDigits 10 decimal.digits
  let mantissa := if digits.length = 1 then digits else digits.take 1 ++ '.' :: digits.drop 1
  let sign := if 0 ≤ leading then style.exponentSign.toList else ['-']
  mantissa ++ 'e' :: sign ++ Nat.toDigits 10 leading.natAbs

def unsigned (style : Notation) (decimal : Decimal) : List Char :=
  let leading : Int := decimal.exponent + (Nat.toDigits 10 decimal.digits).length - 1
  if style.isPositional leading then style.positionalText decimal
  else style.exponentText decimal leading

def signed (negative : Bool) (text : List Char) : String :=
  String.ofList (if negative then '-' :: text else text)

def text (style : Notation) (number : Float) : String :=
  match Double.ofFloat number with
  | .notNumber => style.notNumber
  | .infinite false => style.infinity
  | .infinite true => style.negativeInfinity
  | .finite negative magnitude =>
    signed negative (style.unsigned (Decimal.shortest style.tie magnitude))

end Notation

/-- The text of a double with a given count of decimal places, at least one, rounded from its exact
value with halves going to the even digit. -/
def fixed (places : Nat) (number : Float) : String :=
  match Double.ofFloat number with
  | .notNumber => Notation.plain.notNumber
  | .infinite false => Notation.plain.infinity
  | .infinite true => Notation.plain.negativeInfinity
  | .finite negative magnitude =>
    let scaled := roundHalfEven (Magnitude.units magnitude * Nat.pow 10 places) Magnitude.unit
    Notation.signed negative (pointed (Nat.toDigits 10 scaled) places)

end RowScan
