import RowScan.Number.Reading

/-!
The tokens of a JSON text. A string token keeps its escapes of 16-bit units apart from its other
characters, because two units may stand for one character and a lone surrogate for none.
-/

namespace RowScan

/-- An element of a JSON string: a character, or the 16-bit unit that an escape names. -/
inductive JsonUnit where
  | plain (char : Char)
  | code (unit : Nat)
  deriving Repr, DecidableEq

structure JsonNumber where
  negative : Bool
  whole : List Char
  fraction : Option (List Char)
  exponent : Option Int
  deriving Repr, DecidableEq

inductive JsonToken where
  | openObject
  | closeObject
  | openArray
  | closeArray
  | comma
  | colon
  | null
  | bool (value : Bool)
  | number (number : JsonNumber)
  | string (units : List JsonUnit)
  deriving Repr, DecidableEq

namespace JsonToken

def hexDigit? (char : Char) : Option Nat :=
  if char.isDigit then some (char.toNat - '0'.toNat)
  else if 'a' ≤ char ∧ char ≤ 'f' then some (char.toNat - 'a'.toNat + 10)
  else if 'A' ≤ char ∧ char ≤ 'F' then some (char.toNat - 'A'.toNat + 10)
  else none

def unit? (first second third fourth : Char) : Option Nat := do
  let first ← hexDigit? first
  let second ← hexDigit? second
  let third ← hexDigit? third
  let fourth ← hexDigit? fourth
  return ((first * 16 + second) * 16 + third) * 16 + fourth

def escaped? : Char → Option Char
  | '"' => some '"'
  | '\\' => some '\\'
  | '/' => some '/'
  | 'b' => some '\x08'
  | 'f' => some '\x0c'
  | 'n' => some '\n'
  | 'r' => some '\r'
  | 't' => some '\t'
  | _ => none

def string? : List Char → Option (List JsonUnit × List Char)
  | [] => none
  | '"' :: rest => some ([], rest)
  | '\\' :: 'u' :: first :: second :: third :: fourth :: rest => do
    let unit ← unit? first second third fourth
    let (units, rest) ← string? rest
    return (.code unit :: units, rest)
  | '\\' :: name :: rest => do
    let char ← escaped? name
    let (units, rest) ← string? rest
    return (.plain char :: units, rest)
  | char :: rest =>
    if char < ' ' then none
    else do
      let (units, rest) ← string? rest
      return (.plain char :: units, rest)

def whole? (text : List Char) : Option (List Char × List Char) :=
  match text with
  | '0' :: rest => some (['0'], rest)
  | _ =>
    let (digits, rest) := spanDigits text
    if digits = [] then none else some (digits, rest)

def fraction? : List Char → Option (Option (List Char) × List Char)
  | '.' :: text =>
    let (digits, rest) := spanDigits text
    if digits = [] then none else some (some digits, rest)
  | text => some (none, text)

def exponent? : List Char → Option (Option Int × List Char)
  | [] => some (none, [])
  | mark :: text =>
    if mark = 'e' ∨ mark = 'E' then
      let (negative, text) := splitSign text
      let (digits, rest) := spanDigits text
      let value : Int := Nat.ofDigitChars 10 digits 0
      if digits = [] then none else some (some (if negative then -value else value), rest)
    else some (none, mark :: text)

def number? (text : List Char) : Option (JsonNumber × List Char) := do
  let (negative, text) := match text with
    | '-' :: text => (true, text)
    | text => (false, text)
  let (whole, text) ← whole? text
  let (fraction, text) ← fraction? text
  let (exponent, text) ← exponent? text
  return (⟨negative, whole, fraction, exponent⟩, text)

def next? (text : List Char) : Option (JsonToken × List Char) :=
  match text with
  | '\x7b' :: rest => some (openObject, rest)
  | '\x7d' :: rest => some (closeObject, rest)
  | '[' :: rest => some (openArray, rest)
  | ']' :: rest => some (closeArray, rest)
  | ',' :: rest => some (comma, rest)
  | ':' :: rest => some (colon, rest)
  | 'n' :: 'u' :: 'l' :: 'l' :: rest => some (null, rest)
  | 't' :: 'r' :: 'u' :: 'e' :: rest => some (bool true, rest)
  | 'f' :: 'a' :: 'l' :: 's' :: 'e' :: rest => some (bool false, rest)
  | '"' :: rest => (string? rest).map fun (units, rest) => (string units, rest)
  | _ => (number? text).map fun (literal, rest) => (number literal, rest)

def isSpace (char : Char) : Bool :=
  char == ' ' || char == '\n' || char == '\t' || char == '\r'

/-- The tokens of a text. Each token takes at least one character, so the length of the text bounds
their count. -/
def tokens? : Nat → List Char → Option (List JsonToken)
  | bound, text =>
    match text.dropWhile isSpace with
    | [] => some []
    | trimmed =>
      match bound with
      | 0 => none
      | bound + 1 => do
        let (token, rest) ← next? trimmed
        let tokens ← tokens? bound rest
        return token :: tokens

def ofText? (text : String) : Option (List JsonToken) := tokens? text.length text.toList

end JsonToken

end RowScan
