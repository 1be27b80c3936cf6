import Mathlib
import RowScan.Layout
import RowScan.Number.Notation

/-!
Doubles as text. The plain form of a finite double reads back as that double, its sign included, and
so does that of every probability.
-/

namespace RowScan

/-! Spellings that are digits with or without a point. -/

theorem spanDigits_append (digits rest : List Char) (all : ∀ char ∈ digits, char.isDigit)
    (ended : ∀ char ∈ rest.head?, char.isDigit = false) :
    spanDigits (digits ++ rest) = (digits, rest) := by
  have stops : rest.takeWhile Char.isDigit = [] ∧ rest.dropWhile Char.isDigit = rest := by
    cases rest with
    | nil => simp
    | cons char rest =>
        have other : char.isDigit = false := ended char rfl
        simp [other]
  rw [spanDigits, List.takeWhile_append_of_pos all, List.dropWhile_append_of_pos all, stops.1,
    stops.2, List.append_nil]

theorem spanDigits_self (digits : List Char) (all : ∀ char ∈ digits, char.isDigit) :
    spanDigits digits = (digits, []) := by
  simpa using spanDigits_append digits [] all (by simp)

theorem spelling?_whole (digits : List Char) (all : ∀ char ∈ digits, char.isDigit)
    (filled : digits ≠ []) : Reading.spelling? digits = some ⟨digits, [], 0⟩ := by
  simp [Reading.spelling?, spanDigits_self digits all, Reading.spanFraction, Reading.exponent?,
    filled]

theorem spelling?_pointed (whole fraction : List Char)
    (all : ∀ char ∈ whole ++ fraction, char.isDigit) (filled : whole ≠ []) :
    Reading.spelling? (whole ++ '.' :: fraction) = some ⟨whole, fraction, 0⟩ := by
  have before := spanDigits_append whole ('.' :: fraction)
    (fun char member => all char (List.mem_append_left _ member)) (by simp)
  have behind := spanDigits_self fraction
    fun char member => all char (List.mem_append_right _ member)
  simp [Reading.spelling?, before, behind, Reading.spanFraction, Reading.exponent?, filled]

/-! The decimal of the plain form. -/

namespace Decimal

theorem magnitude_ofNat (digits exponent : Nat) (filled : digits ≠ 0) :
    (Decimal.mk digits (.ofNat exponent)).magnitude =
      if 400 < exponent then Magnitude.infinity
      else Magnitude.nearest (digits * 10 ^ exponent) 1 := by
  rw [magnitude, if_neg filled]
  rfl

theorem magnitude_scaled (digits zeros : Nat)
    (finite : (Decimal.mk digits (.ofNat zeros)).magnitude < Magnitude.infinity) :
    (Decimal.mk (digits * 10 ^ zeros) (.ofNat 0)).magnitude =
      (Decimal.mk digits (.ofNat zeros)).magnitude := by
  by_cases nothing : digits = 0
  · simp [magnitude, nothing]
  · have scaled : digits * 10 ^ zeros ≠ 0 := by positivity
    rw [magnitude_ofNat _ _ nothing] at finite ⊢
    have within : ¬ 400 < zeros := by
      intro large
      simp [large] at finite
    rw [magnitude_ofNat _ _ scaled, if_neg within, if_neg (by decide), pow_zero, mul_one]

end Decimal

theorem ofDigitChars_zeros (digits : List Char) (zeros : Nat) :
    Nat.ofDigitChars 10 (digits ++ List.replicate zeros '0') 0 =
      Nat.ofDigitChars 10 digits 0 * 10 ^ zeros := by
  rw [Nat.ofDigitChars_append, Nat.ofDigitChars_replicate_zero, Nat.mul_comm]

theorem zeros_ofDigitChars (digits : List Char) (zeros : Nat) :
    Nat.ofDigitChars 10 (List.replicate zeros '0' ++ digits) 0 = Nat.ofDigitChars 10 digits 0 := by
  rw [Nat.ofDigitChars_append, Nat.ofDigitChars_replicate_zero, Nat.mul_zero]

theorem isDigit_toDigits (number : Nat) : ∀ char ∈ Nat.toDigits 10 number, char.isDigit :=
  fun _ member => Nat.isDigit_of_mem_toDigits (by decide) (by decide) member

/-- A text of digits, with or without a point among them, that reads as a decimal. -/
structure Spells (text : List Char) (decimal : Decimal) : Prop where
  leading : ∃ char ∈ text.head?, char.isDigit
  digits : ∀ char ∈ text, char.isDigit ∨ char = '.'
  read : ∃ spelling, Reading.spelling? text = some spelling ∧ spelling.decimal = decimal

theorem spells_whole (digits : List Char) (all : ∀ char ∈ digits, char.isDigit)
    (filled : digits ≠ []) : Spells digits ⟨Nat.ofDigitChars 10 digits 0, 0⟩ where
  leading := by
    obtain ⟨first, rest, rfl⟩ := List.exists_cons_of_ne_nil filled
    exact ⟨first, rfl, all first List.mem_cons_self⟩
  digits := fun char member => Or.inl (all char member)
  read := ⟨_, spelling?_whole digits all filled, by simp [Spelling.decimal]⟩

theorem spells_parts (whole fraction : List Char) (all : ∀ char ∈ whole ++ fraction, char.isDigit)
    (filled : whole ≠ []) :
    Spells (whole ++ '.' :: fraction)
      ⟨Nat.ofDigitChars 10 (whole ++ fraction) 0, -fraction.length⟩ where
  leading := by
    obtain ⟨first, rest, rfl⟩ := List.exists_cons_of_ne_nil filled
    exact ⟨first, rfl, all first List.mem_cons_self⟩
  digits := by
    intro char member
    rcases List.mem_append.mp member with before | behind
    · exact Or.inl (all char (List.mem_append_left _ before))
    · rcases List.mem_cons.mp behind with point | behind
      · exact Or.inr point
      · exact Or.inl (all char (List.mem_append_right _ behind))
  read := ⟨_, spelling?_pointed whole fraction all filled, by simp [Spelling.decimal]⟩

theorem spells_pointed (digits : List Char) (places : Nat) (all : ∀ char ∈ digits, char.isDigit) :
    Spells (pointed digits places) ⟨Nat.ofDigitChars 10 digits 0, -places⟩ := by
  let padded := List.replicate (places + 1 - digits.length) '0' ++ digits
  have long : places < padded.length := by
    simp only [padded, List.length_append, List.length_replicate]
    omega
  have allPadded : ∀ char ∈ padded, char.isDigit := by
    intro char member
    rcases List.mem_append.mp member with zero | digit
    · obtain ⟨_, rfl⟩ := List.mem_replicate.mp zero
      rfl
    · exact all char digit
  have rejoined : padded.take (padded.length - places) ++ padded.drop (padded.length - places) =
      padded := List.take_append_drop _ _
  have filled : padded.take (padded.length - places) ≠ [] := by
    intro empty
    have size := congrArg List.length empty
    simp only [List.length_take, List.length_nil] at size
    omega
  have behind : (padded.drop (padded.length - places)).length = places := by
    rw [List.length_drop]
    omega
  have spells := spells_parts _ _ (by rwa [rejoined]) filled
  rw [rejoined, behind, zeros_ofDigitChars] at spells
  exact spells

theorem spells_positionalText (decimal : Decimal)
    (finite : decimal.magnitude < Magnitude.infinity) :
    ∃ spelled, Spells (Notation.plain.positionalText decimal) spelled ∧
      spelled.magnitude = decimal.magnitude := by
  obtain ⟨digits, exponent⟩ := decimal
  have value := Nat.ofDigitChars_ten_toDigits (n := digits)
  cases exponent with
  | ofNat zeros =>
      have all : ∀ char ∈ Nat.toDigits 10 digits ++ List.replicate zeros '0', char.isDigit := by
        intro char member
        rcases List.mem_append.mp member with digit | zero
        · exact isDigit_toDigits digits char digit
        · obtain ⟨_, rfl⟩ := List.mem_replicate.mp zero
          rfl
      have filled : Nat.toDigits 10 digits ++ List.replicate zeros '0' ≠ [] := by
        simp [Nat.toDigits_ne_nil]
      refine ⟨_, ?_, Decimal.magnitude_scaled digits zeros finite⟩
      have spells := spells_whole _ all filled
      rw [ofDigitChars_zeros, value] at spells
      simpa [Notation.positionalText, Notation.plain] using spells
  | negSucc places =>
      refine ⟨_, spells_pointed _ (places + 1) (isDigit_toDigits digits), ?_⟩
      rw [value]
      rfl

theorem splitSign_signed (negative : Bool) (text : List Char)
    (leading : ∃ char ∈ text.head?, char.isDigit) :
    splitSign (Notation.signed negative text).toList = (negative, text) := by
  rw [Notation.signed, String.toList_ofList]
  obtain ⟨char, first, digit⟩ := leading
  obtain ⟨rest, rfl⟩ := List.head?_eq_some_iff.mp first
  cases negative with
  | true => rfl
  | false =>
      rw [if_neg Bool.false_ne_true]
      unfold splitSign
      split
      · simp_all
      · simp_all
      · rfl

theorem toLower_of_isDigit (char : Char) (digit : char.isDigit) : char.toLower = char := by
  simp only [Char.isDigit, Bool.and_eq_true, decide_eq_true_eq] at digit
  unfold Char.toLower
  grind

theorem isName_of_digit (name : String) (text : List Char)
    (named : ∀ char ∈ name.toList.head?, char.isDigit = false)
    (leading : ∃ char ∈ text.head?, char.isDigit) : Reading.isName name text = false := by
  obtain ⟨char, first, digit⟩ := leading
  obtain ⟨rest, rfl⟩ := List.head?_eq_some_iff.mp first
  rw [Reading.isName, List.map_cons, toLower_of_isDigit char digit, beq_eq_false_iff_ne]
  intro same
  rw [← same] at named
  simp [named char rfl] at digit

namespace Double

theorem toFloat_of_finite (number : Float) (negative : Bool) (magnitude : Nat)
    (finite : ofFloat number = .finite negative magnitude) :
    magnitude < Magnitude.infinity ∧ toFloat negative magnitude = number := by
  unfold ofFloat at finite
  dsimp only at finite
  split at finite
  · cases finite
  · split at finite
    · cases finite
    · rename_i notNumber notInfinite
      obtain ⟨rfl, rfl⟩ := Double.finite.inj finite
      refine ⟨by omega, ?_⟩
      have bound : number.toBits.toNat < 2 ^ 64 := number.toBits.toNat_lt
      have rebuilt : (if (decide (signBit ≤ number.toBits.toNat)) = true then signBit else 0) +
          number.toBits.toNat % signBit = number.toBits.toNat := by
        unfold signBit
        by_cases above : 0x8000000000000000 ≤ number.toBits.toNat
        · simp only [above, decide_true, if_true]
          omega
        · simp only [above, decide_false, Bool.false_eq_true, if_false]
          omega
      rw [toFloat, rebuilt, UInt64.ofNat_toNat, Float.ofBits_toBits]

open Float.Model UnpackedFloat in
theorem unpack_of_large (number : Float)
    (large : Magnitude.infinity ≤ number.toBits.toNat % signBit) :
    number.toModel.unpack = .notANumber ∨ ∃ sign, number.toModel.unpack = .infinity sign := by
  have exponent : @unpackExponent Format.binary64 number.toModel.toBits.toBitVec =
      -1#_ := by
    apply BitVec.eq_of_toNat_eq
    have small : number.toBits.toNat < 2 ^ 64 := number.toBits.toNat_lt
    have same : number.toModel.toBits.toBitVec.toNat = number.toBits.toNat := rfl
    unfold Magnitude.infinity signBit at large
    simp only [unpackExponent, BitVec.toNat_cast, BitVec.extractLsb_toNat, same,
      Nat.shiftRight_eq_div_pow]
    simp
    omega
  unfold Float.Model.unpack UnpackedFloat.unpack
  simp only [exponent, if_true]
  split
  · exact Or.inr ⟨_, rfl⟩
  · exact Or.inl rfl

theorem le_iff_unpack (left right : Float) :
    Arithmetic.toLE.le left right ↔ left.toModel.unpack.le right.toModel.unpack = true := by
  change Float.le left right = true ↔ _
  rw [Float.le, decide_eq_true_eq]
  exact Iff.rfl

end Double

theorem plain_text_of_finite (number : Float) (negative : Bool) (magnitude : Nat)
    (finite : Double.ofFloat number = .finite negative magnitude) :
    ∃ text spelled, Notation.plain.text number = Notation.signed negative text ∧
      Spells text spelled ∧ spelled.magnitude = magnitude := by
  obtain ⟨small, _⟩ := Double.toFloat_of_finite number negative magnitude finite
  have shortest := Decimal.magnitude_shortest Notation.plain.tie magnitude small
  obtain ⟨spelled, spells, value⟩ :=
    spells_positionalText (Decimal.shortest Notation.plain.tie magnitude) (by rwa [shortest])
  refine ⟨_, spelled, ?_, spells, value.trans shortest⟩
  rw [Notation.text, finite]
  rfl

theorem float?_signed (negative : Bool) (text : List Char) (decimal : Decimal)
    (spells : Spells text decimal) :
    Reading.float? (Notation.signed negative text) =
      some (Double.toFloat negative decimal.magnitude) := by
  obtain ⟨leading, _, spelling, read, same⟩ := spells
  rw [Reading.float?, splitSign_signed negative _ leading]
  simp [isName_of_digit "nan" _ (by simp) leading, isName_of_digit "inf" _ (by simp) leading,
    isName_of_digit "infinity" _ (by simp) leading, read, same]

/-- The plain text of a finite number reads back as the number. -/
theorem float?_text (number : Float) (negative : Bool) (magnitude : Nat)
    (finite : Double.ofFloat number = .finite negative magnitude) :
    Reading.float? (Notation.plain.text number) = some number := by
  obtain ⟨_, rebuilt⟩ := Double.toFloat_of_finite number negative magnitude finite
  obtain ⟨text, spelled, written, spells, value⟩ :=
    plain_text_of_finite number negative magnitude finite
  rw [written, float?_signed negative text spelled spells, value, rebuilt]

theorem mem_signed (negative : Bool) (text : List Char) (decimal : Decimal)
    (spells : Spells text decimal) :
    ∀ char ∈ (Notation.signed negative text).toList, char.isDigit ∨ char ∈ ['.', '-'] := by
  rw [Notation.signed, String.toList_ofList]
  intro char member
  have listed : char ∈ text ∨ char = '-' := by
    cases negative <;> simp_all [or_comm]
  rcases listed with inside | rfl
  · rcases spells.digits char inside with digit | rfl
    · exact Or.inl digit
    · exact Or.inr (by simp)
  · exact Or.inr (by simp)

theorem mem_plain_text (number : Float) (negative : Bool) (magnitude : Nat)
    (finite : Double.ofFloat number = .finite negative magnitude) :
    ∀ char ∈ (Notation.plain.text number).toList, char.isDigit ∨ char ∈ ['.', '-'] := by
  obtain ⟨text, spelled, written, spells, _⟩ :=
    plain_text_of_finite number negative magnitude finite
  rw [written]
  exact mem_signed negative text spelled spells

theorem Layout.isProbability_iff [Arithmetic R] (number : R) :
    isProbability number = true ↔ 0 ≤ number ∧ number ≤ 1 := by
  simp [isProbability]

theorem Layout.isProbability_float (number : Float) :
    isProbability number = true ↔ 0 ≤ number ∧ number ≤ 1 := by
  have zero : (Zero.zero : Float) = 0 := by decide +kernel
  have one : (One.one : Float) = 1 := by decide +kernel
  rw [isProbability_iff, ← zero, ← one]
  rfl

theorem Layout.finite_of_isProbability (number : Float)
    (probability : isProbability number = true) :
    ∃ negative magnitude, Double.ofFloat number = .finite negative magnitude := by
  obtain ⟨low, high⟩ := (isProbability_iff number).mp probability
  have low := (Double.le_iff_unpack _ _).mp low
  have high := (Double.le_iff_unpack _ _).mp high
  have small : number.toBits.toNat % Double.signBit < Magnitude.infinity := by
    by_contra large
    rcases Double.unpack_of_large number (Nat.not_lt.mp large) with unpacked | ⟨sign, unpacked⟩
    · rw [unpacked] at low
      exact absurd low (by decide +kernel)
    · rw [unpacked] at low high
      cases sign with
      | positive => exact absurd high (by decide +kernel)
      | negative => exact absurd low (by decide +kernel)
  refine ⟨Double.signBit ≤ number.toBits.toNat, number.toBits.toNat % Double.signBit, ?_⟩
  simp only [Double.ofFloat]
  rw [if_neg (by omega), if_neg (by omega)]

end RowScan
