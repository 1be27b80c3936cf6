import Mathlib
import RowScan.Number.Natural

/-!
Which texts are read as natural numbers: digits, with or without a plus sign, that stand for a
number below the limit.
-/

namespace RowScan.Natural

/-- Digits, at least one, with or without a plus sign, that stand for a number. -/
def Spells (text : String) (number : Nat) : Prop :=
  ∃ digits, (text.toList = digits ∨ text.toList = '+' :: digits) ∧ digits ≠ [] ∧
    (∀ char ∈ digits, char.isDigit) ∧ Nat.ofDigitChars 10 digits 0 = number

theorem digits_of_readDigits (limit value number : Nat) (digits : List Char)
    (read : readDigits limit value digits = .ok number) :
    (∀ char ∈ digits, char.isDigit) ∧ Nat.ofDigitChars 10 digits value = number := by
  induction digits generalizing value with
  | nil => simpa [readDigits] using read
  | cons char rest ih =>
      simp only [readDigits] at read
      split at read
      · rename_i digit
        split at read
        · obtain ⟨others, same⟩ := ih _ read
          rw [Nat.ofDigitChars_cons]
          exact ⟨List.forall_mem_cons.mpr ⟨digit, others⟩, same⟩
        · simp at read
      · simp at read

theorem readDigits_eq_ok (limit number : Nat) (digits : List Char) (positive : 0 < limit) :
    readDigits limit 0 digits = .ok number ↔
      (∀ char ∈ digits, char.isDigit) ∧ Nat.ofDigitChars 10 digits 0 = number ∧
        number < limit := by
  constructor
  · intro read
    obtain ⟨all, value⟩ := digits_of_readDigits limit 0 number digits read
    exact ⟨all, value, readDigits_lt positive read⟩
  · rintro ⟨all, rfl, below⟩
    exact readDigits_ofDigitChars all below

theorem read_unsigned (limit : Nat) (text : String) (filled : text.toList ≠ [])
    (unsigned : text.toList.head? ≠ some '+') :
    read limit text = readDigits limit 0 text.toList := by
  unfold read
  split <;> simp_all

theorem read_signed (limit : Nat) (text : String) (digits : List Char) (filled : digits ≠ [])
    (signed : text.toList = '+' :: digits) : read limit text = readDigits limit 0 digits := by
  unfold read
  rw [signed]
  split <;> simp_all

/-- A text is read as a number exactly when it spells it and the number is below the limit. -/
theorem read_eq_ok (limit number : Nat) (text : String) (positive : 0 < limit) :
    read limit text = .ok number ↔ Spells text number ∧ number < limit := by
  constructor
  · intro found
    by_cases empty : text.toList = []
    · simp [read, empty] at found
    by_cases sign : text.toList.head? = some '+'
    · obtain ⟨digits, signed⟩ := List.head?_eq_some_iff.mp sign
      by_cases bare : digits = []
      · simp [read, signed, bare] at found
      · rw [read_signed limit text digits bare signed, readDigits_eq_ok _ _ _ positive] at found
        obtain ⟨all, value, below⟩ := found
        exact ⟨⟨digits, Or.inr signed, bare, all, value⟩, below⟩
    · rw [read_unsigned limit text empty sign, readDigits_eq_ok _ _ _ positive] at found
      obtain ⟨all, value, below⟩ := found
      exact ⟨⟨text.toList, Or.inl rfl, empty, all, value⟩, below⟩
  · rintro ⟨⟨digits, plain | signed, filled, all, value⟩, below⟩
    · subst plain
      have unsigned : text.toList.head? ≠ some '+' := by
        intro sign
        exact absurd (all '+' (List.mem_of_mem_head? sign)) (by decide)
      rw [read_unsigned limit text filled unsigned, readDigits_eq_ok _ _ _ positive]
      exact ⟨all, value, below⟩
    · rw [read_signed limit text digits filled signed, readDigits_eq_ok _ _ _ positive]
      exact ⟨all, value, below⟩

theorem exists_read (limit : Nat) (text : String) (positive : 0 < limit) :
    (∃ number, read limit text = .ok number) ↔ ∃ number < limit, Spells text number := by
  constructor
  · rintro ⟨number, found⟩
    obtain ⟨spelled, below⟩ := (read_eq_ok limit number text positive).mp found
    exact ⟨number, below, spelled⟩
  · rintro ⟨number, below, spelled⟩
    exact ⟨number, (read_eq_ok limit number text positive).mpr ⟨spelled, below⟩⟩

end RowScan.Natural
