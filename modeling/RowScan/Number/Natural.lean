/-!
Natural numbers as text: decimal digits, with one optional plus sign when they are read.
-/

namespace RowScan

namespace Natural

inductive Defect where
  | empty
  | digit
  | size
  deriving Repr, DecidableEq

def Defect.message : Defect → String
  | .empty => "cannot parse integer from empty string"
  | .digit => "invalid digit found in string"
  | .size => "number too large to fit in target type"

/-- Reads digits behind those that gave `value`. The first character that is no digit or that makes
the number reach `limit` decides. -/
def readDigits (limit : Nat) (value : Nat) : List Char → Except Defect Nat
  | [] => .ok value
  | char :: rest =>
    if char.isDigit then
      let longer := 10 * value + (char.toNat - '0'.toNat)
      if longer < limit then readDigits limit longer rest else .error .size
    else
      .error .digit

def read (limit : Nat) (text : String) : Except Defect Nat :=
  match text.toList with
  | [] => .error .empty
  | ['+'] => .error .digit
  | '+' :: digits => readDigits limit 0 digits
  | digits => readDigits limit 0 digits

def limit32 : Nat := 0x100000000

def limit64 : Nat := 0x10000000000000000

def text (number : Nat) : String := String.ofList (Nat.toDigits 10 number)

theorem readDigits_lt {limit value : Nat} {digits : List Char} {number : Nat}
    (below : value < limit) (read : readDigits limit value digits = .ok number) :
    number < limit := by
  induction digits generalizing value with
  | nil => simp_all [readDigits]
  | cons char rest ih =>
    simp only [readDigits] at read
    split at read
    · split at read
      · exact ih (by assumption) read
      · cases read
    · cases read

theorem read_lt {limit : Nat} {text : String} {number : Nat} (positive : 0 < limit)
    (found : read limit text = .ok number) : number < limit := by
  unfold read at found
  split at found
  · cases found
  · cases found
  · exact readDigits_lt positive found
  · exact readDigits_lt positive found

theorem readDigits_ofDigitChars {limit value : Nat} {digits : List Char}
    (allDigits : ∀ char ∈ digits, char.isDigit)
    (below : Nat.ofDigitChars 10 digits value < limit) :
    readDigits limit value digits = .ok (Nat.ofDigitChars 10 digits value) := by
  induction digits generalizing value with
  | nil => simp [readDigits]
  | cons char rest ih =>
    rw [Nat.ofDigitChars_cons] at below ⊢
    have smaller : 10 * value + (char.toNat - '0'.toNat) < limit := by
      refine Nat.lt_of_le_of_lt ?_ below
      rw [Nat.ofDigitChars_eq_ofDigitChars_zero]
      exact Nat.le_add_right_of_le (Nat.le_mul_of_pos_left _ (Nat.pow_pos (by decide)))
    have digit : char.isDigit := allDigits char (by simp)
    simp only [readDigits, digit, smaller, if_true]
    exact ih (fun other member => allDigits other (by simp [member])) below

theorem read_text {limit number : Nat} (below : number < limit) :
    read limit (text number) = .ok number := by
  have digits : ∀ char ∈ Nat.toDigits 10 number, char.isDigit := by
    intro char member
    exact Nat.isDigit_of_mem_toDigits (by decide) (by decide) member
  have value : Nat.ofDigitChars 10 (Nat.toDigits 10 number) 0 = number := by
    exact Nat.ofDigitChars_toDigits (by decide) (by decide)
  have plain : readDigits limit 0 (Nat.toDigits 10 number) = .ok number := by
    rw [readDigits_ofDigitChars digits (by rwa [value]), value]
  have nonempty := Nat.toDigits_ne_nil (b := 10) (n := number)
  unfold read text
  rw [String.toList_ofList]
  split
  · simp_all
  · have := digits '+' (by simp_all)
    simp at this
  · have := digits '+' (by simp_all)
    simp at this
  · exact plain

end Natural

end RowScan
