import RowScan.Json.Value
import RowScan.Number.Natural

/-!
Taking JSON values apart. A record is an object with named members or an array with the same values
in order. Fractions and exponents are read with machine arithmetic: the leading digits that fit into
64 bits are scaled by a power of ten.
-/

namespace RowScan

namespace JsonNumber

/-- Appends digits to a number as long as it fits into 64 bits; also says how many were taken. -/
def takeDigits (value taken : Nat) : List Char → Nat × Nat
  | [] => (value, taken)
  | char :: rest =>
    let longer := 10 * value + (char.toNat - '0'.toNat)
    if longer < Natural.limit64 then takeDigits longer (taken + 1) rest else (value, taken)

def tenTo (exponent : Nat) : Float := Double.toFloat false (Decimal.magnitude ⟨1, exponent⟩)

def greatestPower : Nat := 308

/-- Scales a number by a power of ten, in steps no larger than the greatest power. Fails when the
result is out of range. -/
def scale? (number : Float) (exponent : Int) : Option Float :=
  if exponent.natAbs ≤ greatestPower then
    if 0 ≤ exponent then
      let scaled := number * tenTo exponent.natAbs
      if scaled.isInf then none else some scaled
    else some (number / tenTo exponent.natAbs)
  else if number == Double.ofNat 0 then some number
  else if 0 ≤ exponent then none
  else scale? (number / tenTo greatestPower) (exponent + greatestPower)
termination_by exponent.natAbs
decreasing_by unfold greatestPower at *; omega

def unsignedFloat? (number : JsonNumber) : Option Float :=
  let (leading, taken) := takeDigits 0 0 number.whole
  let skipped := number.whole.length - taken
  if skipped = 0 ∧ number.fraction.isNone ∧ number.exponent.isNone then
    some (Double.ofNat leading)
  else
    let (significand, places) := takeDigits leading 0 (number.fraction.getD [])
    scale? (Double.ofNat significand) (skipped - places + number.exponent.getD 0)

def float? (number : JsonNumber) : Option Float :=
  number.unsignedFloat?.map fun unsigned => if number.negative then -unsigned else unsigned

def natural? (limit : Nat) (number : JsonNumber) : Option Nat :=
  if number.negative ∨ number.fraction.isSome ∨ number.exponent.isSome then none
  else
    let value := Nat.ofDigitChars 10 number.whole 0
    if value < limit then some value else none

end JsonNumber

namespace JsonValue

def natural? (limit : Nat) : JsonValue → Option Nat
  | .number literal => literal.natural? limit
  | _ => none

def word32? (value : JsonValue) : Option UInt32 :=
  (value.natural? Natural.limit32).map UInt32.ofNat

def word64? (value : JsonValue) : Option UInt64 :=
  (value.natural? Natural.limit64).map UInt64.ofNat

def float? : JsonValue → Option Float
  | .number literal => literal.float?
  | _ => none

def text? : JsonValue → Option String
  | .string text => text
  | _ => none

def bool? : JsonValue → Option Bool
  | .bool value => some value
  | _ => none

/-- Puts a member of an object into the slot of its name, which must be free. A member with another
name is passed over, but its name must be a text. -/
def place? (names : List String) (slots : List (Option JsonValue)) :
    Option String × JsonValue → Option (List (Option JsonValue))
  | (none, _) => none
  | (some key, value) =>
    match names.idxOf? key with
    | none => some slots
    | some index =>
      match slots[index]? with
      | some none => some (slots.set index (some value))
      | _ => none

def slots? (names : List String) : JsonValue → Option (List (Option JsonValue))
  | .array items =>
    if items.length ≤ names.length then
      some (items.map some ++ List.replicate (names.length - items.length) none)
    else none
  | .object members => members.foldlM (place? names) (List.replicate names.length none)
  | _ => none

end JsonValue

end RowScan
