import Mathlib
import RowScan.Arithmetic

/-!
Exact arithmetic: the operations of estimates and summaries on real numbers.
-/

namespace RowScan

noncomputable instance : Arithmetic ℝ where
  toZero := inferInstance
  toOne := inferInstance
  toAdd := inferInstance
  toSub := inferInstance
  toMul := inferInstance
  toDiv := inferInstance
  toLE := inferInstance
  toLT := inferInstance
  ofNat := Nat.cast
  power base exponent := base ^ exponent
  abs := abs
  sqrt := Real.sqrt
  decidableLE := Classical.decRel _
  decidableLT := Classical.decRel _

namespace Arithmetic

@[simp] theorem ofNat_real (number : Nat) : (ofNat number : ℝ) = number := rfl

@[simp] theorem power_real (base : ℝ) (exponent : Nat) : power base exponent = base ^ exponent :=
  rfl

@[simp] theorem positivePart_real (number : ℝ) : positivePart number = max number 0 := by
  unfold positivePart
  split
  · rename_i positive
    exact (max_eq_left (le_of_lt positive)).symm
  · rename_i notPositive
    exact (max_eq_right (not_lt.mp notPositive)).symm

end Arithmetic

end RowScan
