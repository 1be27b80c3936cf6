import Mathlib
import RowScan.Proofs.Treatment

/-!
Both row scans as sums over the rows of a term, in exact arithmetic. The scan of shared rows adds up
one probability for each row, whatever the sign of the noise. The scan of an intersection reads its
first row for certain and is always one row ahead: what it works out at a row is the probability
that the next row is read, so what it works out at the last row is left over.
-/

namespace RowScan

open Arithmetic (positivePart)
open Set (Icc)

variable {layout : Layout ℝ} {signal : ℝ}

theorem sum_rows (term : Nat → ℝ) (rows : Nat) :
    ∑ row ∈ Finset.range rows, term (row + 1) = ∑ row ∈ Finset.Icc 1 rows, term row := by
  induction rows with
  | zero => rfl
  | succ rows ih => rw [Finset.sum_range_succ, ih, Finset.sum_Icc_succ_top (by omega)]

namespace SharedScan

/-- The probability that a draw into one of several shared rows meets a live bit. -/
noncomputable def liveRow (layout : Layout ℝ) (signal : ℝ) (row : Nat) : ℝ :=
  1 - deadDraw layout signal row ^ layout.addressSlotsPerRow.toNat

theorem touched_eq (layout : Layout ℝ) (signal : ℝ) (row : Nat) :
    touched layout signal row = layout.cachelinesPerRow.toNat * liveRow layout signal row :=
  mul_comm _ _

end SharedScan

theorem sharedDensity_eq_sum (layout : Layout ℝ) (signal : ℝ) (rows : Nat) :
    sharedDensity rows signal layout =
      layout.cachelinesPerRow.toNat *
        ∑ row ∈ Finset.Icc 1 rows, SharedScan.liveRow layout signal row := by
  rw [sharedDensity_real, sum_rows, Finset.mul_sum]
  apply Finset.sum_congr rfl
  intro row _
  exact SharedScan.touched_eq layout signal row

namespace IntersectionScan

noncomputable def noise (layout : Layout ℝ) (signal : ℝ) : ℝ := max (layout.density - signal) 0

/-- The probability that a number of rows, intersected, still have a live bit. -/
noncomputable def liveBehind (layout : Layout ℝ) (signal : ℝ) (rows : Nat) : ℝ :=
  1 - (1 - signal - noise layout signal ^ rows) ^ layout.addressSlotsPerRow.toNat

theorem noise_pow_le (density : layout.density ∈ Icc 0 1) (frequency : signal ∈ Icc 0 1)
    (row : Nat) : noise layout signal ^ (row + 1) ≤ 1 - signal := by
  have unit := noise_mem density frequency
  have least : noise layout signal ≤ 1 - signal := by
    apply max_le
    · linarith [density.2]
    · linarith [frequency.2]
  calc noise layout signal ^ (row + 1)
      ≤ noise layout signal := pow_le_of_le_one unit.1 unit.2 (Nat.succ_ne_zero row)
    _ ≤ 1 - signal := least

/-- The clamp at zero changes nothing, since the noise that is left never exceeds what the signal
leaves. -/
theorem positivePart_dead (density : layout.density ∈ Icc 0 1) (frequency : signal ∈ Icc 0 1)
    (row : Nat) :
    positivePart (1 - signal - noise layout signal ^ (row + 1)) =
      1 - signal - noise layout signal ^ (row + 1) := by
  rw [Arithmetic.positivePart_real]
  apply max_eq_left
  linarith [noise_pow_le density frequency row]

theorem residual_step (layout : Layout ℝ) (signal : ℝ) (scan : IntersectionScan ℝ) (row : Nat)
    (left : scan.residual = noise layout signal ^ row) :
    scan.residual * positivePart (layout.density - signal) = noise layout signal ^ (row + 1) := by
  rw [left, Arithmetic.positivePart_real, pow_succ]
  rfl

theorem residual_repeat (layout : Layout ℝ) (signal : ℝ) (rows : Nat) :
    (Nat.repeat (step layout signal) rows start).residual = noise layout signal ^ rows := by
  induction rows with
  | zero => rfl
  | succ rows ih => exact residual_step layout signal _ rows ih

theorem step_real (density : layout.density ∈ Icc 0 1) (frequency : signal ∈ Icc 0 1)
    (scan : IntersectionScan ℝ) (row : Nat) (left : scan.residual = noise layout signal ^ row) :
    step layout signal scan =
      ⟨scan.expected + scan.reading * layout.cachelinesPerRow.toNat,
        liveBehind layout signal (row + 1), noise layout signal ^ (row + 1)⟩ := by
  simp only [step, residual_step layout signal scan row left,
    positivePart_dead density frequency row]
  rfl

theorem repeat_step_real (density : layout.density ∈ Icc 0 1) (frequency : signal ∈ Icc 0 1)
    (rows : Nat) :
    Nat.repeat (step layout signal) (rows + 1) start =
      ⟨layout.cachelinesPerRow.toNat *
          (1 + ∑ row ∈ Finset.Icc 1 rows, liveBehind layout signal row),
        liveBehind layout signal (rows + 1), noise layout signal ^ (rows + 1)⟩ := by
  induction rows with
  | zero =>
      rw [Nat.repeat, Nat.repeat, step_real density frequency start 0 rfl]
      simp [start]
  | succ rows ih =>
      have left := residual_repeat layout signal (rows + 1)
      rw [Nat.repeat, step_real density frequency _ (rows + 1) left, ih,
        Finset.sum_Icc_succ_top (by omega)]
      congr 1
      ring

noncomputable def bareStep (layout : Layout ℝ) (signal : ℝ) (scan : IntersectionScan ℝ) :
    IntersectionScan ℝ :=
  let residual := scan.residual * positivePart (layout.density - signal)
  { expected := scan.expected + scan.reading * layout.cachelinesPerRow.toNat
    reading := 1 - (1 - signal - residual) ^ layout.addressSlotsPerRow.toNat
    residual := residual }

theorem repeat_bareStep (density : layout.density ∈ Icc 0 1) (frequency : signal ∈ Icc 0 1)
    (rows : Nat) :
    Nat.repeat (bareStep layout signal) rows start =
      Nat.repeat (step layout signal) rows start := by
  induction rows with
  | zero => rfl
  | succ rows ih =>
      have left := residual_repeat layout signal rows
      rw [Nat.repeat, ih, Nat.repeat, step_real density frequency _ rows left, bareStep,
        residual_step layout signal _ rows left]
      rfl

end IntersectionScan

theorem intersectionSum_eq_sum (density : layout.density ∈ Icc 0 1)
    (frequency : signal ∈ Icc 0 1) (rows : Nat) :
    intersectionSum (rows + 1) signal layout =
      layout.cachelinesPerRow.toNat *
        (1 + ∑ row ∈ Finset.Icc 1 rows, IntersectionScan.liveBehind layout signal row) := by
  rw [intersectionSum, IntersectionScan.repeat_step_real density frequency]

/-- In exact arithmetic both scans give the sums that describe them. Shared rows take the noise as
it is. An intersection over at least two rows would give the same without the clamp in its steps,
and what its last step works out is the probability of one more row, which the sum does not have. -/
theorem scans_eq_sums (layout : Layout ℝ) (signal : ℝ) (rows : Nat) :
    let slots := layout.addressSlotsPerRow.toNat
    let full : ℝ := layout.cachelinesPerRow.toNat
    sharedDensity rows signal layout =
      full * ∑ row ∈ Finset.Icc 1 rows,
        (1 - ((1 - (layout.density - signal) ^ row) * (1 - signal)) ^ slots) ∧
    (layout.density ∈ Icc 0 1 → signal ∈ Icc 0 1 → 2 ≤ rows →
      let noise := max (layout.density - signal) 0
      let scan := Nat.repeat (IntersectionScan.step layout signal) rows IntersectionScan.start
      (Treatment.intersection.estimate rows signal layout).cachelines =
        full * (1 + ∑ row ∈ Finset.Icc 1 (rows - 1), (1 - (1 - signal - noise ^ row) ^ slots)) ∧
      scan.reading = 1 - (1 - signal - noise ^ rows) ^ slots ∧
      ∀ count, Nat.repeat (IntersectionScan.bareStep layout signal) count IntersectionScan.start =
        Nat.repeat (IntersectionScan.step layout signal) count IntersectionScan.start) := by
  intro slots full
  refine ⟨sharedDensity_eq_sum layout signal rows, ?_⟩
  intro density frequency several noise scan
  obtain ⟨later, rfl⟩ : ∃ later, rows = later + 1 := ⟨rows - 1, by omega⟩
  have scanned := IntersectionScan.repeat_step_real density frequency later
  refine ⟨?_, ?_, IntersectionScan.repeat_bareStep density frequency⟩
  · rw [Treatment.estimate, if_neg (by omega)]
    exact intersectionSum_eq_sum density frequency later
  · exact congrArg IntersectionScan.reading scanned

noncomputable def Layout.twoSlots : Layout ℝ := ⟨60, 0.5, 2, 1⟩

theorem scans_eq_sums_quarters :
    Layout.twoSlots.density ∈ Icc 0 1 ∧ (1 / 4 : ℝ) ∈ Icc (0 : ℝ) 1 ∧
      sharedDensity 3 (3 / 4) Layout.twoSlots = 2735745 / 16384 ∧
      (Treatment.intersection.estimate 3 (1 / 4) Layout.twoSlots).cachelines = 8745 / 64 := by
  have density : Layout.twoSlots.density ∈ Icc 0 1 := by norm_num [Layout.twoSlots]
  have frequency : (1 / 4 : ℝ) ∈ Icc (0 : ℝ) 1 := by norm_num
  have lines : Layout.twoSlots.cachelinesPerRow.toNat = 60 := rfl
  have slots : Layout.twoSlots.addressSlotsPerRow.toNat = 2 := rfl
  have half : Layout.twoSlots.density = 1 / 2 := by norm_num [Layout.twoSlots]
  have frequent := (scans_eq_sums Layout.twoSlots (3 / 4) 3).1
  have rare := ((scans_eq_sums Layout.twoSlots (1 / 4) 3).2 density frequency (by omega)).1
  refine ⟨density, frequency, ?_, ?_⟩
  · rw [frequent, lines, slots, half]
    norm_num [Finset.sum_Icc_succ_top]
  · rw [rare, lines, slots, half]
    norm_num [Finset.sum_Icc_succ_top]

end RowScan
