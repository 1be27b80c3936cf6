/-!
Rounding a ratio of natural numbers to the nearest whole number. A half goes to the even neighbour.
-/

namespace RowScan

/-- The whole number nearest to `numerator / denominator`, the even one of two equally near. -/
def roundHalfEven (numerator denominator : Nat) : Nat :=
  let quotient := numerator / denominator
  let rest := numerator % denominator
  if 2 * rest < denominator ∨ (2 * rest = denominator ∧ quotient % 2 = 0) then
    quotient
  else
    quotient + 1

theorem roundHalfEven_mul_self (quotient denominator : Nat) (positive : 0 < denominator) :
    roundHalfEven (quotient * denominator) denominator = quotient := by
  have exact : quotient * denominator / denominator = quotient := Nat.mul_div_cancel _ positive
  simp [roundHalfEven, exact, positive]

end RowScan
