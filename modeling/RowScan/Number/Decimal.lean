import RowScan.Number.Double

/-!
Decimals `digits * 10 ^ exponent`, the doubles closest to them, and the shortest decimal of a
double. `Decimal.magnitude_shortest` says that the shortest decimal reads back as the double it was
made from, whichever way ties are taken.
-/

namespace RowScan

structure Decimal where
  digits : Nat
  exponent : Int
  deriving Repr, DecidableEq

namespace Decimal

open Magnitude (finest)

/-- The magnitude closest to a decimal. Exponents far out of range are decided without forming
their power. -/
def magnitude (decimal : Decimal) : Nat :=
  if decimal.digits = 0 then 0
  else match decimal.exponent with
    | .ofNat exponent =>
      if 400 < exponent then Magnitude.infinity
      else Magnitude.nearest (decimal.digits * Nat.pow 10 exponent) 1
    | .negSucc exponent =>
      if decimal.digits.log2 + 1080 < 3 * (exponent + 1) then 0
      else Magnitude.nearest decimal.digits (Nat.pow 10 (exponent + 1))

inductive Tie where
  | upper
  | even
  deriving Repr, DecidableEq

/-- The two decimals with the exponent `grid - finest` that enclose a magnitude, the nearer one
first. -/
def neighbours (tie : Tie) (magnitude grid : Nat) : Decimal × Decimal :=
  let exponent : Int := (grid : Int) - finest
  let numerator := Magnitude.units magnitude * Nat.pow 10 (finest - grid)
  let denominator := Magnitude.unit * Nat.pow 10 (grid - finest)
  let lower := numerator / denominator
  let rest := numerator % denominator
  let low : Decimal := ⟨lower, exponent⟩
  let high : Decimal := ⟨lower + 1, exponent⟩
  let lowerFirst : Bool :=
    2 * rest < denominator || (2 * rest == denominator && tie == .even && lower % 2 == 0)
  if lowerFirst then (low, high) else (high, low)

def onGrid? (tie : Tie) (target grid : Nat) : Option Decimal :=
  let (near, far) := neighbours tie target grid
  if near.magnitude = target then some near
  else if far.magnitude = target then some far
  else none

/-- The coarsest decimal at or below a grid that reads back as the magnitude. On the finest grid,
the multiples of `10 ^ (-finest)`, the magnitude itself is a decimal. -/
def search (tie : Tie) (target : Nat) : Nat → Decimal
  | 0 => ⟨Magnitude.units target * Nat.pow 5 finest, -finest⟩
  | grid + 1 => (onGrid? tie target (grid + 1)).getD (search tie target grid)

def coarsest (magnitude : Nat) : Nat :=
  let units := Magnitude.units magnitude
  if Magnitude.unit ≤ units then
    finest + (Nat.toDigits 10 (units / Magnitude.unit)).length
  else
    finest + 1 - (Nat.toDigits 10 (Magnitude.unit / units)).length

/-- The decimal with the fewest digits that reads back as a finite magnitude, and of those the
nearest. -/
def shortest (tie : Tie) (magnitude : Nat) : Decimal :=
  if magnitude = 0 then ⟨0, 0⟩ else search tie magnitude (coarsest magnitude)

theorem magnitude_onGrid? (tie : Tie) (target grid : Nat) (decimal : Decimal)
    (found : onGrid? tie target grid = some decimal) : decimal.magnitude = target := by
  unfold onGrid? at found
  grind

theorem units_pos (magnitude : Nat) (positive : 0 < magnitude) :
    0 < Magnitude.units magnitude := by
  unfold Magnitude.units Magnitude.significand Magnitude.span
  apply Nat.mul_pos
  · split <;> omega
  · exact Nat.two_pow_pos _

theorem two_pow_double_le (exponent : Nat) :
    Nat.pow 2 (2 * exponent) ≤ Nat.pow 5 exponent := by
  rw [Nat.pow_eq, Nat.pow_eq, Nat.pow_mul]
  exact Nat.pow_le_pow_left (by decide) exponent

theorem ten_pow (exponent : Nat) :
    Nat.pow 10 exponent = Nat.pow 5 exponent * Nat.pow 2 exponent :=
  Nat.mul_pow 5 2 exponent

theorem pow_pos (base exponent : Nat) (positive : 0 < base) : 0 < Nat.pow base exponent :=
  Nat.pow_pos positive

theorem finest_digits_ne_zero (magnitude exponent : Nat) (positive : 0 < magnitude) :
    Magnitude.units magnitude * Nat.pow 5 exponent ≠ 0 :=
  Nat.ne_of_gt (Nat.mul_pos (units_pos magnitude positive) (pow_pos 5 exponent (by decide)))

theorem le_log2_finest_digits (magnitude exponent : Nat) (positive : 0 < magnitude) :
    2 * exponent ≤ (Magnitude.units magnitude * Nat.pow 5 exponent).log2 := by
  rw [Nat.le_log2 (finest_digits_ne_zero magnitude exponent positive)]
  exact Nat.le_trans (two_pow_double_le exponent)
    (Nat.le_mul_of_pos_left _ (units_pos magnitude positive))

theorem nearest_finest_digits (magnitude exponent : Nat) (finite : magnitude < Magnitude.infinity)
    (same : exponent = finest) :
    Magnitude.nearest (Magnitude.units magnitude * Nat.pow 5 exponent) (Nat.pow 10 exponent) =
      magnitude := by
  apply Magnitude.nearest_value _ _ _ (pow_pos 10 exponent (by decide)) finite
  unfold Magnitude.unit
  rw [← same, Nat.mul_assoc, ← ten_pow]

theorem magnitude_search (tie : Tie) (target : Nat) (positive : 0 < target)
    (finite : target < Magnitude.infinity) (grid : Nat) :
    (search tie target grid).magnitude = target := by
  induction grid with
  | zero =>
    have nonzero := finest_digits_ne_zero target finest positive
    have large : ¬ (Magnitude.units target * Nat.pow 5 finest).log2 + 1080 < 3 * (1073 + 1) := by
      have atLeast := le_log2_finest_digits target finest positive
      have : finest = 1074 := rfl
      omega
    have exponent : (-(finest : Int)) = .negSucc 1073 := rfl
    simp only [search, magnitude, nonzero, exponent, large, if_false]
    rw [show 1073 + 1 = finest from rfl]
    exact nearest_finest_digits target finest finite rfl
  | succ grid rest =>
    unfold search
    cases found : onGrid? tie target (grid + 1) with
    | none => simpa using rest
    | some decimal => simpa using magnitude_onGrid? tie target _ decimal found

theorem magnitude_shortest (tie : Tie) (magnitude : Nat) (finite : magnitude < Magnitude.infinity) :
    (shortest tie magnitude).magnitude = magnitude := by
  unfold shortest
  split
  case isTrue zero => simp [zero, Decimal.magnitude]
  case isFalse nonzero => exact magnitude_search tie magnitude (by omega) finite _

end Decimal

end RowScan
