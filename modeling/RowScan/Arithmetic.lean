import RowScan.Number.Double

/-!
The operations that estimates and their summaries are computed with. They are formulas over any type
with these operations: doubles when a program runs, exact numbers when the formulas are studied.
-/

namespace RowScan

class Arithmetic (R : Type) extends Zero R, One R, Add R, Sub R, Mul R, Div R, LE R, LT R where
  ofNat : Nat → R
  power : R → Nat → R
  abs : R → R
  sqrt : R → R
  decidableLE : DecidableLE R
  decidableLT : DecidableLT R

namespace Arithmetic

instance [Arithmetic R] : DecidableLE R := decidableLE

instance [Arithmetic R] : DecidableLT R := decidableLT

instance : Arithmetic Float where
  zero := Double.ofNat 0
  one := Double.ofNat 1
  ofNat := Double.ofNat
  power base exponent := base.pow (Double.ofNat exponent)
  abs := Float.abs
  sqrt := Float.sqrt
  decidableLE := inferInstance
  decidableLT := inferInstance

/-- A number cut off at zero from below. What is not above zero, or no number at all, becomes
zero. -/
def positivePart [Arithmetic R] (number : R) : R := if 0 < number then number else 0

end Arithmetic

end RowScan
