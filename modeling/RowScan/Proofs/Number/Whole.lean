import Mathlib
import RowScan.Proofs.Number.Reading

/-!
Doubles that are whole numbers. Rounding a whole number gives a whole number, and the same one when
it has at most 53 binary digits. So the plain text of a double has a point exactly when the double
is not whole, and a whole double with a fixed place behind the point reads back as itself.
-/

namespace RowScan

namespace Magnitude

theorem two_pow_eq (exponent : Nat) (same : exponent = finest) : 2 ^ exponent = unit := by
  unfold unit
  rw [← same]
  rfl

theorem unit_pos : 0 < unit := by
  rw [← two_pow_eq _ rfl]
  exact Nat.two_pow_pos _

theorem two_pow_finest_add (extra : Nat) : 2 ^ (finest + extra) = unit * 2 ^ extra := by
  rw [pow_add, two_pow_eq _ rfl]

theorem log2_mul_unit (number : Nat) (filled : number ≠ 0) :
    (number * unit).log2 = number.log2 + finest := by
  generalize same : finest = exponent
  rw [← two_pow_eq exponent same.symm, Nat.log2_eq_iff (by positivity), Nat.add_right_comm, pow_add,
    pow_add _ _ exponent]
  exact ⟨Nat.mul_le_mul_right _ (Nat.log2_self_le filled),
    Nat.mul_lt_mul_of_pos_right Nat.lt_log2_self (by positivity)⟩

theorem units_compose (scale quotient : Nat) (full : span ≤ quotient)
    (fits : quotient ≤ 2 * span) : units (scale * span + quotient) = quotient * 2 ^ scale := by
  unfold units significand
  rw [Nat.pow_eq]
  unfold Magnitude.scale
  rw [if_neg (by omega)]
  rcases Nat.lt_or_eq_of_le fits with below | top
  · have shift : (scale * span + quotient) / span - 1 = scale := by
      unfold span at *
      omega
    have rest : span + (scale * span + quotient) % span = quotient := by
      unfold span at *
      omega
    rw [shift, rest]
  · -- Rounding has made the significand one digit longer.
    have shift : (scale * span + quotient) / span - 1 = scale + 1 := by
      unfold span at *
      omega
    have rest : span + (scale * span + quotient) % span = span := by
      unfold span at *
      omega
    rw [shift, rest, top, pow_succ]
    ring

theorem roundHalfEven_full (scaled scale : Nat) (filled : scaled ≠ 0)
    (power : scaled.log2 = scale + 52) :
    span ≤ roundHalfEven scaled (2 ^ scale) ∧ roundHalfEven scaled (2 ^ scale) ≤ 2 * span := by
  have low : 2 ^ 52 ≤ scaled / 2 ^ scale := by
    rw [Nat.le_div_iff_mul_le (by positivity), ← pow_add, Nat.add_comm, ← power]
    exact Nat.log2_self_le filled
  have high : scaled / 2 ^ scale < 2 ^ 53 := by
    rw [Nat.div_lt_iff_lt_mul (by positivity), ← pow_add, Nat.add_comm, ← Nat.add_assoc scale 52 1,
      ← power]
    exact Nat.lt_log2_self
  unfold span roundHalfEven
  dsimp only
  split
  · omega
  · omega

structure Rounds (number scale quotient : Nat) : Prop where
  power : number.log2 + finest = scale + 52
  rounded : quotient = roundHalfEven (number * unit) (2 ^ scale)
  full : span ≤ quotient
  fits : quotient ≤ 2 * span
  nearest : nearest number 1 = min infinity (scale * span + quotient)

theorem exists_rounds (number : Nat) (filled : number ≠ 0) :
    ∃ scale quotient, Rounds number scale quotient := by
  have above : 52 ≤ finest := by decide
  have power : number.log2 + finest = number.log2 + finest - 52 + 52 := by omega
  obtain ⟨full, fits⟩ := roundHalfEven_full (number * unit) (number.log2 + finest - 52)
    (Nat.mul_ne_zero filled unit_pos.ne') (by rw [log2_mul_unit number filled, ← power])
  refine ⟨_, _, power, rfl, full, fits, ?_⟩
  simp only [Magnitude.nearest, Nat.div_one, log2_mul_unit number filled, Nat.one_mul, Nat.pow_eq]

theorem Rounds.units {number scale quotient : Nat} (rounds : Rounds number scale quotient)
    (finite : Magnitude.nearest number 1 < infinity) :
    units (Magnitude.nearest number 1) = quotient * 2 ^ scale := by
  have whole := rounds.nearest
  rw [whole] at finite ⊢
  rw [Nat.min_eq_right (by omega), units_compose _ _ rounds.full rounds.fits]

theorem nearest_zero : nearest 0 1 = 0 := by decide +kernel

theorem nearest_small (number : Nat) (small : number < 2 ^ 53) :
    nearest number 1 < infinity ∧ units (nearest number 1) = number * unit := by
  by_cases zero : number = 0
  · subst zero
    rw [nearest_zero, Nat.zero_mul]
    decide
  · obtain ⟨scale, quotient, rounds⟩ := exists_rounds number zero
    have few : number.log2 < 53 := (Nat.log2_lt zero).mpr small
    have power := rounds.power
    have finite : nearest number 1 < infinity := by
      have fits := rounds.fits
      have above : finest = 1074 := rfl
      rw [rounds.nearest]
      unfold span infinity at *
      omega
    refine ⟨finite, ?_⟩
    have split : unit = 2 ^ (finest - scale) * 2 ^ scale := by
      rw [← pow_add, Nat.sub_add_cancel (by omega), two_pow_eq _ rfl]
    rw [rounds.units finite, rounds.rounded, split, ← Nat.mul_assoc,
      roundHalfEven_mul_self _ _ (by positivity)]

theorem nearest_large (number : Nat) (large : 2 ^ 53 ≤ number)
    (finite : nearest number 1 < infinity) :
    unit ∣ units (nearest number 1) ∧ 2 ^ 53 * unit ≤ units (nearest number 1) := by
  have filled : number ≠ 0 := by omega
  obtain ⟨scale, quotient, rounds⟩ := exists_rounds number filled
  have many : 53 ≤ number.log2 := (Nat.le_log2 filled).mpr large
  have power := rounds.power
  -- The scale lies beyond a unit, so rounding leaves multiples of two units.
  obtain ⟨extra, rfl⟩ : ∃ extra, scale = finest + (1 + extra) := ⟨scale - finest - 1, by omega⟩
  rw [rounds.units finite, two_pow_finest_add]
  constructor
  · exact Dvd.dvd.mul_left (Nat.dvd_mul_right _ _) _
  · calc 2 ^ 53 * unit = span * (unit * 2 ^ 1) := by
          unfold span
          ring
      _ ≤ quotient * (unit * 2 ^ (1 + extra)) := by
          gcongr
          · exact rounds.full
          · exact one_le_two
          · omega

theorem isWhole_nearest (number : Nat) (finite : nearest number 1 < infinity) :
    isWhole (nearest number 1) = true := by
  have multiple : unit ∣ units (nearest number 1) := by
    by_cases small : number < 2 ^ 53
    · exact ⟨number, by rw [(nearest_small number small).2, Nat.mul_comm]⟩
    · exact (nearest_large number (by omega) finite).1
  simpa [isWhole] using Nat.mod_eq_zero_of_dvd multiple

theorem exists_units_of_isWhole (magnitude : Nat) (whole : isWhole magnitude = true) :
    ∃ count, units magnitude = count * unit := by
  have multiple : unit ∣ units magnitude := Nat.dvd_of_mod_eq_zero (by simpa [isWhole] using whole)
  obtain ⟨count, value⟩ := multiple
  exact ⟨count, by rw [value, Nat.mul_comm]⟩

theorem eq_of_nearest (number count : Nat) (small : count < 2 ^ 53)
    (same : nearest number 1 = nearest count 1) : number = count := by
  obtain ⟨finite, value⟩ := nearest_small count small
  rw [← same] at finite value
  by_cases few : number < 2 ^ 53
  · rw [(nearest_small number few).2] at value
    exact Nat.mul_right_cancel unit_pos value
  · have large := (nearest_large number (by omega) finite).2
    rw [value] at large
    exact absurd (Nat.le_of_mul_le_mul_right large unit_pos) (by omega)

end Magnitude

namespace Decimal

open Magnitude (isWhole nearest infinity finest unit units)

theorem exponent_neighbours (tie : Tie) (target grid : Nat) :
    (neighbours tie target grid).1.exponent = (grid : Int) - finest ∧
      (neighbours tie target grid).2.exponent = (grid : Int) - finest := by
  unfold neighbours
  dsimp only
  split
  · exact ⟨rfl, rfl⟩
  · exact ⟨rfl, rfl⟩

theorem exponent_onGrid? (tie : Tie) (target grid : Nat) (decimal : Decimal)
    (found : onGrid? tie target grid = some decimal) :
    decimal.exponent = (grid : Int) - finest := by
  have both := exponent_neighbours tie target grid
  unfold onGrid? at found
  rcases pair : neighbours tie target grid with ⟨near, far⟩
  simp only [pair] at found both
  split at found
  · rw [← Option.some.inj found, both.1]
  · split at found
    · rw [← Option.some.inj found, both.2]
    · cases found

theorem onGrid?_finest (tie : Tie) (target count : Nat) (filled : target ≠ 0)
    (finite : target < infinity) (value : units target = count * unit) :
    onGrid? tie target finest = some ⟨count, 0⟩ := by
  have near : (neighbours tie target finest).1 = ⟨count, 0⟩ := by
    have positive := Magnitude.unit_pos
    unfold neighbours
    rw [value]
    generalize unit = one at positive ⊢
    generalize finest = exponent
    simp [positive]
  have read : (Decimal.mk count 0).magnitude = target := by
    have nonzero : count ≠ 0 := by
      rintro rfl
      have positive := units_pos target (Nat.pos_of_ne_zero filled)
      rw [value, Nat.zero_mul] at positive
      exact Nat.lt_irrefl 0 positive
    have same := Magnitude.nearest_value target count 1 Nat.one_pos finite (by
      rw [value, Nat.mul_one])
    have plain := magnitude_ofNat count 0 nonzero
    rw [if_neg (by decide), pow_zero, Nat.mul_one, same] at plain
    exact plain
  unfold onGrid?
  rcases pair : neighbours tie target finest with ⟨first, second⟩
  rw [pair] at near
  obtain rfl : first = ⟨count, 0⟩ := near
  exact if_pos read

theorem exponent_search (tie : Tie) (target count grid : Nat) (filled : target ≠ 0)
    (finite : target < infinity) (value : units target = count * unit) (coarse : finest ≤ grid) :
    0 ≤ (search tie target grid).exponent := by
  -- The count reads back on the grid of units, so the search stops there at the latest.
  induction grid, coarse using Nat.le_induction with
  | base =>
      have found := onGrid?_finest tie target count filled finite value
      obtain ⟨below, above⟩ : ∃ below, finest = below + 1 := ⟨1073, rfl⟩
      rw [above] at found ⊢
      rw [search, found]
      exact Int.le_refl 0
  | succ grid coarse ih =>
      rw [search]
      cases found : onGrid? tie target (grid + 1) with
      | none => exact ih
      | some decimal =>
          have exponent := exponent_onGrid? tie target (grid + 1) decimal found
          rw [Option.getD_some]
          omega

/-- The shortest decimal of a double counts whole powers of ten exactly when the double is whole. -/
theorem exponent_shortest (tie : Tie) (target : Nat) (finite : target < infinity) :
    0 ≤ (shortest tie target).exponent ↔ isWhole target = true := by
  have reads := magnitude_shortest tie target finite
  constructor
  · intro whole
    cases shortest : shortest tie target with
    | mk digits exponent =>
        rw [shortest] at reads whole
        obtain ⟨zeros, rfl⟩ : ∃ zeros, exponent = .ofNat zeros := Int.eq_ofNat_of_zero_le whole
        by_cases nothing : digits = 0
        · obtain rfl : 0 = target := by simpa [magnitude, nothing] using reads
          simp [isWhole, units, Magnitude.significand, Magnitude.span]
        · rw [magnitude_ofNat _ _ nothing] at reads
          split at reads
          · omega
          · rw [← reads] at finite ⊢
            exact Magnitude.isWhole_nearest _ finite
  · intro whole
    unfold shortest
    split
    · exact Int.le_refl 0
    · rename_i filled
      obtain ⟨count, value⟩ := Magnitude.exists_units_of_isWhole target whole
      apply exponent_search tie target count _ filled finite value
      have positive : unit ≤ units target := by
        apply Nat.le_of_dvd (units_pos target (Nat.pos_of_ne_zero filled))
        exact ⟨count, by rw [value, Nat.mul_comm]⟩
      simp only [coarsest, positive, if_true]
      omega

end Decimal

/-! Texts with and without a point. -/

theorem point_notMem_digits (digits : List Char) (all : ∀ char ∈ digits, char.isDigit) :
    '.' ∉ digits := by
  intro member
  exact absurd (all '.' member) (by decide)

theorem point_mem_pointed (digits : List Char) (places : Nat) : '.' ∈ pointed digits places := by
  simp [pointed]

theorem point_mem_positionalText (decimal : Decimal) :
    '.' ∈ Notation.plain.positionalText decimal ↔ ¬ 0 ≤ decimal.exponent := by
  obtain ⟨digits, exponent⟩ := decimal
  cases exponent with
  | ofNat zeros =>
      have absent := point_notMem_digits _ (isDigit_toDigits digits)
      simp [Notation.positionalText, Notation.plain, absent, List.mem_replicate]
  | negSucc places =>
      simp [Notation.positionalText, point_mem_pointed]

theorem point_mem_signed (negative : Bool) (text : List Char) :
    '.' ∈ (Notation.signed negative text).toList ↔ '.' ∈ text := by
  cases negative <;> simp [Notation.signed]

theorem plain_text_eq (number : Float) (negative : Bool) (magnitude : Nat)
    (finite : Double.ofFloat number = .finite negative magnitude) :
    Notation.plain.text number = Notation.signed negative
      (Notation.plain.positionalText (Decimal.shortest .upper magnitude)) := by
  rw [Notation.text, finite]
  rfl

theorem point_mem_plain_text (number : Float) (negative : Bool) (magnitude : Nat)
    (finite : Double.ofFloat number = .finite negative magnitude) :
    '.' ∈ (Notation.plain.text number).toList ↔ Magnitude.isWhole magnitude = false := by
  obtain ⟨small, _⟩ := Double.toFloat_of_finite number negative magnitude finite
  rw [plain_text_eq number negative magnitude finite, point_mem_signed, point_mem_positionalText,
    Decimal.exponent_shortest _ _ small, Bool.not_eq_true]

theorem point_mem_fixed (places : Nat) (number : Float) (negative : Bool) (magnitude : Nat)
    (finite : Double.ofFloat number = .finite negative magnitude) :
    '.' ∈ (fixed places number).toList := by
  rw [fixed, finite, point_mem_signed]
  exact point_mem_pointed _ places

theorem mem_fixed (places : Nat) (number : Float) (negative : Bool) (magnitude : Nat)
    (finite : Double.ofFloat number = .finite negative magnitude) :
    ∀ char ∈ (fixed places number).toList, char.isDigit ∨ char ∈ ['.', '-'] := by
  rw [fixed, finite]
  exact mem_signed negative _ _ (spells_pointed _ places (isDigit_toDigits _))

/-! Whole doubles with one place behind the point. -/

theorem Decimal.magnitude_tenths (magnitude count : Nat) (finite : magnitude < Magnitude.infinity)
    (value : Magnitude.units magnitude = count * Magnitude.unit) :
    (Decimal.mk (count * 10) (.negSucc 0)).magnitude = magnitude := by
  by_cases nothing : count = 0
  · subst nothing
    have zero : magnitude = 0 := by
      by_contra filled
      have positive := Decimal.units_pos magnitude (Nat.pos_of_ne_zero filled)
      rw [value, Nat.zero_mul] at positive
      exact Nat.lt_irrefl 0 positive
    simp [Decimal.magnitude, zero]
  · have filled : count * 10 ≠ 0 := by omega
    have large : ¬ (count * 10).log2 + 1080 < 3 * (0 + 1) := by omega
    simp only [Decimal.magnitude, if_neg filled, if_neg large]
    have ten : Nat.pow 10 (0 + 1) = 10 := rfl
    rw [ten]
    exact Magnitude.nearest_value _ _ _ (by decide) finite (by rw [value, Nat.mul_right_comm])

theorem float?_fixed (number : Float) (negative : Bool) (magnitude : Nat)
    (finite : Double.ofFloat number = .finite negative magnitude)
    (whole : Magnitude.isWhole magnitude = true) :
    Reading.float? (fixed 1 number) = some number := by
  obtain ⟨small, rebuilt⟩ := Double.toFloat_of_finite number negative magnitude finite
  obtain ⟨count, value⟩ := Magnitude.exists_units_of_isWhole magnitude whole
  have scaled : roundHalfEven (Magnitude.units magnitude * Nat.pow 10 1) Magnitude.unit =
      count * 10 := by
    have ten : Nat.pow 10 1 = 10 := rfl
    rw [ten, value, Nat.mul_right_comm, roundHalfEven_mul_self _ _ Magnitude.unit_pos]
  have spells := spells_pointed (Nat.toDigits 10 (count * 10)) 1 (isDigit_toDigits _)
  rw [Nat.ofDigitChars_ten_toDigits] at spells
  have written : fixed 1 number =
      Notation.signed negative (pointed (Nat.toDigits 10 (count * 10)) 1) := by
    rw [fixed, finite]
    dsimp only
    rw [scaled]
  have tenth : (-((1 : Nat) : Int)) = .negSucc 0 := rfl
  rw [written, float?_signed negative _ _ spells, tenth,
    Decimal.magnitude_tenths magnitude count small value, rebuilt]

/-! Counts as doubles. -/

namespace Double

open Float.Model UnpackedFloat in
theorem toBits_ofBits (bits : UInt64) (finite : bits.toNat % signBit < Magnitude.infinity) :
    (Float.ofBits bits).toBits = bits := by
  have valid : Format.binary64.Valid bits.toBitVec := by
    refine ⟨fun exponent _ => ?_⟩
    have field := congrArg BitVec.toNat exponent
    have small : bits.toNat < 2 ^ 64 := bits.toNat_lt
    have same : bits.toBitVec.toNat = bits.toNat := rfl
    unfold Magnitude.infinity signBit at finite
    simp only [unpackExponent, BitVec.toNat_cast, BitVec.extractLsb_toNat, same,
      Nat.shiftRight_eq_div_pow] at field
    simp at field
    omega
  have packed := Float.ofBits_toBits ⟨⟨bits, valid⟩⟩
  exact congrArg Float.toBits packed

theorem ofFloat_toFloat (negative : Bool) (magnitude : Nat)
    (finite : magnitude < Magnitude.infinity) :
    ofFloat (toFloat negative magnitude) = .finite negative magnitude := by
  have small : (if negative then signBit else 0) + magnitude < 2 ^ 64 := by
    unfold signBit Magnitude.infinity at *
    split <;> omega
  have bits : (UInt64.ofNat ((if negative then signBit else 0) + magnitude)).toNat =
      (if negative then signBit else 0) + magnitude := UInt64.toNat_ofNat_of_lt' small
  have rest : ((if negative then signBit else 0) + magnitude) % signBit = magnitude := by
    unfold signBit Magnitude.infinity at *
    split <;> omega
  have sign : decide (signBit ≤ (if negative then signBit else 0) + magnitude) = negative := by
    unfold signBit Magnitude.infinity at *
    cases negative
    · simp
      omega
    · simp
  have stored := toBits_ofBits _ (by rwa [bits, rest])
  unfold ofFloat toFloat
  simp only [stored, bits, rest, sign]
  rw [if_neg (by omega), if_neg (by omega)]

end Double

theorem toDigits_scaled (digits zeros : Nat) (filled : digits ≠ 0) :
    Nat.toDigits 10 digits ++ List.replicate zeros '0' = Nat.toDigits 10 (digits * 10 ^ zeros) := by
  induction zeros with
  | zero => simp
  | succ zeros ih =>
      have appended := Nat.toDigits_append_toDigits (b := 10) (n := digits * 10 ^ zeros) (d := 0)
        (by decide) (by positivity) (by decide)
      have product : digits * 10 ^ (zeros + 1) = 10 * (digits * 10 ^ zeros) := by ring
      rw [List.replicate_succ', ← List.append_assoc, ih, product]
      rwa [Nat.toDigits_zero, Nat.add_zero] at appended

theorem positionalText_of_count (decimal : Decimal) (count : Nat) (filled : count ≠ 0)
    (small : count < 2 ^ 53) (reads : decimal.magnitude = Magnitude.nearest count 1)
    (whole : 0 ≤ decimal.exponent) :
    Notation.plain.positionalText decimal = Nat.toDigits 10 count := by
  obtain ⟨finite, _⟩ := Magnitude.nearest_small count small
  obtain ⟨digits, exponent⟩ := decimal
  obtain ⟨zeros, rfl⟩ : ∃ zeros, exponent = .ofNat zeros := Int.eq_ofNat_of_zero_le whole
  have nonzero : digits ≠ 0 := by
    rintro rfl
    have zero : Magnitude.nearest 0 1 = Magnitude.nearest count 1 := by
      rw [Magnitude.nearest_zero, ← reads]
      simp [Decimal.magnitude]
    exact filled (Magnitude.eq_of_nearest 0 count small zero).symm
  rw [Decimal.magnitude_ofNat _ _ nonzero] at reads
  split at reads
  · omega
  · have same := Magnitude.eq_of_nearest _ count small reads
    have written : Notation.plain.positionalText ⟨digits, .ofNat zeros⟩ =
        Nat.toDigits 10 digits ++ List.replicate zeros '0' := List.append_nil _
    rw [written, toDigits_scaled digits zeros nonzero, same]

/-- A count of at most 53 binary digits is a double, whose plain text is the digits of the count. -/
theorem plain_text_ofNat (count : Nat) (small : count < 2 ^ 53) :
    Notation.plain.text (Double.ofNat count) = Natural.text count := by
  obtain ⟨finite, _⟩ := Magnitude.nearest_small count small
  have stands := Double.ofFloat_toFloat false _ finite
  rw [Double.ofNat, plain_text_eq _ _ _ stands]
  by_cases nothing : count = 0
  · subst nothing
    rw [Magnitude.nearest_zero]
    decide
  · have reads := Decimal.magnitude_shortest .upper _ finite
    have whole := (Decimal.exponent_shortest .upper _ finite).mpr
      (Magnitude.isWhole_nearest count finite)
    rw [positionalText_of_count _ count nothing small reads whole]
    rfl

end RowScan
