import RowScan.Number.Rounding

/-!
Double-precision numbers through their bits. A finite number is a sign and a magnitude, the word of
its other 63 bits, which stands for `significand * 2 ^ scale / 2 ^ 1074`. `Magnitude.nearest` takes
an exact ratio to the magnitude closest to it, and `nearest_value` says that a ratio some magnitude
stands for is taken to that magnitude.
-/

namespace RowScan

namespace Magnitude

def infinity : Nat := 0x7ff0000000000000

/-- The least power of two that is a double is `2 ^ (-finest)`. -/
def finest : Nat := 1074

/-- Numbers of the smallest unit, `1 / unit`, are what all finite magnitudes count. -/
def unit : Nat := Nat.pow 2 finest

def span : Nat := 0x10000000000000

def significand (magnitude : Nat) : Nat :=
  if magnitude < span then magnitude else span + magnitude % span

def scale (magnitude : Nat) : Nat := magnitude / span - 1

def units (magnitude : Nat) : Nat := significand magnitude * Nat.pow 2 (scale magnitude)

/-- The magnitude closest to `numerator / denominator`, the even one of two equally close. -/
def nearest (numerator denominator : Nat) : Nat :=
  let scaled := numerator * unit
  let scale := (scaled / denominator).log2 - 52
  min infinity (scale * span + roundHalfEven scaled (denominator * Nat.pow 2 scale))

def isWhole (magnitude : Nat) : Bool := units magnitude % unit == 0

theorem log2_units (magnitude : Nat) : (units magnitude).log2 - 52 = scale magnitude := by
  unfold units scale significand span
  rw [Nat.pow_eq]
  split
  case isTrue small =>
    have zero : magnitude / 0x10000000000000 - 1 = 0 := by omega
    have bound : magnitude.log2 < 53 := by
      by_cases empty : magnitude = 0
      · simp [empty]
      · exact (Nat.log2_lt empty).2 (by omega)
    simp only [zero, Nat.pow_zero, Nat.mul_one]
    omega
  case isFalse large =>
    generalize shift : magnitude / 0x10000000000000 - 1 = scale
    generalize mantissa : 0x10000000000000 + magnitude % 0x10000000000000 = significand
    have low : 2 ^ 52 ≤ significand := by omega
    have high : significand < 2 ^ 53 := by omega
    have positive : significand * 2 ^ scale ≠ 0 := by
      have := Nat.two_pow_pos scale
      have := Nat.mul_pos (show 0 < significand by omega) this
      omega
    have atLeast : 52 + scale ≤ (significand * 2 ^ scale).log2 := by
      rw [Nat.le_log2 positive, Nat.pow_add]
      exact Nat.mul_le_mul_right _ low
    have below : (significand * 2 ^ scale).log2 < 53 + scale := by
      rw [Nat.log2_lt positive, Nat.pow_add]
      exact Nat.mul_lt_mul_of_pos_right high (Nat.two_pow_pos scale)
    omega

theorem nearest_value (magnitude numerator denominator : Nat) (positive : 0 < denominator)
    (finite : magnitude < infinity)
    (value : numerator * unit = units magnitude * denominator) :
    nearest numerator denominator = magnitude := by
  have quotient : numerator * unit / denominator = units magnitude := by
    rw [value, Nat.mul_div_cancel _ positive]
  have rounded : roundHalfEven (numerator * unit) (denominator * Nat.pow 2 (scale magnitude)) =
      significand magnitude := by
    have product : numerator * unit =
        significand magnitude * (denominator * Nat.pow 2 (scale magnitude)) := by
      rw [value, units, Nat.mul_assoc, Nat.mul_comm (Nat.pow 2 _)]
    rw [product]
    exact roundHalfEven_mul_self _ _ (Nat.mul_pos positive (Nat.two_pow_pos _))
  have rebuilt : scale magnitude * span + significand magnitude = magnitude := by
    unfold scale significand span
    split <;> omega
  simp only [nearest, quotient, log2_units, rounded, rebuilt]
  omega

end Magnitude

inductive Double where
  | notNumber
  | infinite (negative : Bool)
  | finite (negative : Bool) (magnitude : Nat)
  deriving Repr, DecidableEq

namespace Double

def signBit : Nat := 0x8000000000000000

def ofFloat (number : Float) : Double :=
  let bits := number.toBits.toNat
  let negative : Bool := signBit ≤ bits
  let magnitude := bits % signBit
  if Magnitude.infinity < magnitude then .notNumber
  else if magnitude = Magnitude.infinity then .infinite negative
  else .finite negative magnitude

def toFloat (negative : Bool) (magnitude : Nat) : Float :=
  Float.ofBits (UInt64.ofNat ((if negative then signBit else 0) + magnitude))

def notANumber : Float := Float.ofBits 0x7ff8000000000000

def ofNat (number : Nat) : Float := toFloat false (Magnitude.nearest number 1)

end Double

end RowScan
