import Mathlib
import RowScan.Proofs.Treatment.Contributions

/-!
How estimates depend on what they are calibrated with, in exact arithmetic. More rows and more slots
never lower an estimate over shared rows or over an intersection, a higher density never lowers one
over an intersection, and both are proportional to the cache lines of a row.
-/

namespace RowScan

open Set (Icc)

variable {layout other : Layout ℝ} {signal : ℝ}

theorem one_sub_pow_mono {probability : ℝ} (unit : probability ∈ Icc 0 1) {fewer more : Nat}
    (ordered : fewer ≤ more) : 1 - probability ^ fewer ≤ 1 - probability ^ more :=
  sub_le_sub_left (pow_le_pow_of_le_one unit.1 unit.2 ordered) 1

theorem scaled_by_lines {estimate : UInt32 → ℝ} {share : ℝ}
    (scaled : ∀ lines, estimate lines = lines.toNat * share) (lines : UInt32) :
    estimate lines = lines.toNat * estimate 1 := by
  have single : ((1 : UInt32).toNat : ℝ) = 1 := Nat.cast_one
  rw [scaled lines, scaled 1, single, one_mul]

/-! Shared rows. -/

theorem sharedDensity_mono (density : layout.density ∈ Icc 0 1) (frequency : signal ∈ Icc 0 1) :
    Monotone fun rows => sharedDensity rows signal layout := by
  apply monotone_nat_of_le_succ
  intro rows
  rw [sharedDensity_succ]
  exact le_add_of_nonneg_right (SharedScan.touched_mem density frequency (rows + 1)).1

theorem sharedDensity_le_of_slots (density : layout.density ∈ Icc 0 1)
    (frequency : signal ∈ Icc 0 1) (rows : Nat) {fewer more : UInt32} (ordered : fewer ≤ more) :
    sharedDensity rows signal { layout with addressSlotsPerRow := fewer } ≤
      sharedDensity rows signal { layout with addressSlotsPerRow := more } := by
  rw [sharedDensity_eq_sum, sharedDensity_eq_sum]
  apply full_mul_le layout
  apply Finset.sum_le_sum
  intro row _
  exact one_sub_pow_mono (SharedScan.deadDraw_mem density frequency row)
    (UInt32.le_iff_toNat_le.mp ordered)

theorem sharedDensity_lines (layout : Layout ℝ) (signal : ℝ) (rows : Nat) (lines : UInt32) :
    sharedDensity rows signal { layout with cachelinesPerRow := lines } =
      lines.toNat * sharedDensity rows signal { layout with cachelinesPerRow := 1 } := by
  have scaled (lines : UInt32) :
      sharedDensity rows signal { layout with cachelinesPerRow := lines } =
        lines.toNat * ∑ row ∈ Finset.Icc 1 rows, SharedScan.liveRow layout signal row :=
    sharedDensity_eq_sum _ signal rows
  exact scaled_by_lines scaled lines

/-! Intersections. -/

theorem IntersectionScan.liveBehind_mono (density : layout.density ∈ Icc 0 1)
    (limit : other.density ≤ 1) (frequency : signal ∈ Icc 0 1)
    (denser : layout.density ≤ other.density)
    (slots : layout.addressSlotsPerRow ≤ other.addressSlotsPerRow) (row : Nat) :
    liveBehind layout signal (row + 1) ≤ liveBehind other signal (row + 1) := by
  have positive := noise_pow_nonneg density frequency (row + 1)
  have dead := noise_pow_le ⟨density.1.trans denser, limit⟩ frequency row
  have louder : noise layout signal ^ (row + 1) ≤ noise other signal ^ (row + 1) :=
    pow_le_pow_left₀ (noise_mem density frequency).1
      (max_le_max (sub_le_sub_right denser signal) le_rfl) _
  have unit : 1 - signal - noise layout signal ^ (row + 1) ∈ Icc (0 : ℝ) 1 := by
    constructor <;> linarith [frequency.1]
  calc liveBehind layout signal (row + 1)
      ≤ 1 - (1 - signal - noise layout signal ^ (row + 1)) ^ other.addressSlotsPerRow.toNat :=
        one_sub_pow_mono unit (UInt32.le_iff_toNat_le.mp slots)
    _ ≤ liveBehind other signal (row + 1) := one_sub_pow_anti (by linarith) (by linarith) _

namespace Treatment

theorem intersection_mono (density : layout.density ∈ Icc 0 1) (frequency : signal ∈ Icc 0 1) :
    Monotone fun rows => (intersection.estimate rows signal layout).cachelines := by
  apply monotone_nat_of_le_succ
  intro rows
  cases rows with
  | zero =>
      rw [intersection_zero, intersection_succ density frequency 0]
      simp
  | succ rows =>
      have floor := (IntersectionScan.contribution_decay density frequency rows).1
      have least := signalFloor_nonneg layout frequency
      rw [contribution] at floor
      exact sub_nonneg.mp (least.trans floor)

theorem intersection_le (density : layout.density ∈ Icc 0 1) (limit : other.density ≤ 1)
    (frequency : signal ∈ Icc 0 1) (denser : layout.density ≤ other.density)
    (slots : layout.addressSlotsPerRow ≤ other.addressSlotsPerRow)
    (lines : layout.cachelinesPerRow = other.cachelinesPerRow) (rows : Nat) :
    (intersection.estimate rows signal layout).cachelines ≤
      (intersection.estimate rows signal other).cachelines := by
  cases rows with
  | zero => rw [intersection_zero, intersection_zero]
  | succ rows =>
      have live := IntersectionScan.liveBehind_mono density limit frequency denser slots
      rw [intersection_succ density frequency,
        intersection_succ ⟨density.1.trans denser, limit⟩ frequency, ← lines, ← sum_rows,
        ← sum_rows]
      apply full_mul_le layout
      exact add_le_add_right (Finset.sum_le_sum fun row _ => live row) 1

theorem intersection_lines (density : layout.density ∈ Icc 0 1) (frequency : signal ∈ Icc 0 1)
    (rows : Nat) (lines : UInt32) :
    (intersection.estimate rows signal { layout with cachelinesPerRow := lines }).cachelines =
      lines.toNat *
        (intersection.estimate rows signal { layout with cachelinesPerRow := 1 }).cachelines := by
  cases rows with
  | zero => rw [intersection_zero, intersection_zero, mul_zero]
  | succ rows =>
      have scaled (lines : UInt32) :
          (intersection.estimate (rows + 1) signal
              { layout with cachelinesPerRow := lines }).cachelines =
            lines.toNat *
              (1 + ∑ row ∈ Finset.Icc 1 rows, IntersectionScan.liveBehind layout signal row) :=
        @intersection_succ { layout with cachelinesPerRow := lines } signal density frequency rows
      exact scaled_by_lines scaled lines

end Treatment

/-- In exact arithmetic an estimate over shared rows or over an intersection never falls when rows
or slots are added, nor one over an intersection when the density rises. Each is the number of cache
lines of a row times what it would be with one cache line. -/
theorem estimates_follow_calibration (layout : Layout ℝ) (signal : ℝ)
    (density : layout.density ∈ Icc 0 1) (frequency : signal ∈ Icc 0 1) :
    let shared (rows : Nat) (layout : Layout ℝ) := sharedDensity rows signal layout
    let scanned (rows : Nat) (layout : Layout ℝ) :=
      (Treatment.intersection.estimate rows signal layout).cachelines
    (Monotone fun rows => shared rows layout) ∧ (Monotone fun rows => scanned rows layout) ∧
    ∀ rows,
      (∀ fewer more, fewer ≤ more →
        shared rows { layout with addressSlotsPerRow := fewer } ≤
            shared rows { layout with addressSlotsPerRow := more } ∧
          scanned rows { layout with addressSlotsPerRow := fewer } ≤
            scanned rows { layout with addressSlotsPerRow := more }) ∧
      (∀ denser, layout.density ≤ denser → denser ≤ 1 →
        scanned rows layout ≤ scanned rows { layout with density := denser }) ∧
      ∀ lines,
        shared rows { layout with cachelinesPerRow := lines } =
            lines.toNat * shared rows { layout with cachelinesPerRow := 1 } ∧
          scanned rows { layout with cachelinesPerRow := lines } =
            lines.toNat * scanned rows { layout with cachelinesPerRow := 1 } := by
  intro shared scanned
  refine ⟨sharedDensity_mono density frequency, Treatment.intersection_mono density frequency, ?_⟩
  intro rows
  refine ⟨?_, ?_, ?_⟩
  · intro fewer more ordered
    exact ⟨sharedDensity_le_of_slots density frequency rows ordered,
      @Treatment.intersection_le { layout with addressSlotsPerRow := fewer }
        { layout with addressSlotsPerRow := more } signal density density.2 frequency le_rfl ordered
        rfl rows⟩
  · intro denser ordered limit
    exact @Treatment.intersection_le layout { layout with density := denser } signal density limit
      frequency ordered (UInt32.le_refl _) rfl rows
  · intro lines
    exact ⟨sharedDensity_lines layout signal rows lines,
      Treatment.intersection_lines density frequency rows lines⟩

theorem estimates_follow_calibration_quarter :
    let shared (rows : Nat) (layout : Layout ℝ) := sharedDensity rows (1 / 4) layout
    let scanned (rows : Nat) (layout : Layout ℝ) :=
      (Treatment.intersection.estimate rows (1 / 4) layout).cachelines
    Layout.twoSlots.density ∈ Icc 0 1 ∧ (1 / 4 : ℝ) ∈ Icc (0 : ℝ) 1 ∧
      shared 1 .twoSlots ≤ shared 4 .twoSlots ∧ scanned 1 .twoSlots ≤ scanned 2 .twoSlots ∧
      scanned 3 { Layout.twoSlots with addressSlotsPerRow := 5 } ≤
        scanned 3 { Layout.twoSlots with addressSlotsPerRow := 7 } ∧
      scanned 3 .twoSlots ≤ scanned 3 { Layout.twoSlots with density := 3 / 4 } ∧
      shared 3 { Layout.twoSlots with cachelinesPerRow := 7 } =
        7 * shared 3 { Layout.twoSlots with cachelinesPerRow := 1 } := by
  intro shared scanned
  have density : Layout.twoSlots.density ∈ Icc 0 1 := by norm_num [Layout.density_twoSlots]
  have frequency : (1 / 4 : ℝ) ∈ Icc (0 : ℝ) 1 := by norm_num
  have denser : Layout.twoSlots.density ≤ 3 / 4 := by norm_num [Layout.density_twoSlots]
  obtain ⟨sharedRows, scannedRows, calibrated⟩ :=
    estimates_follow_calibration .twoSlots (1 / 4) density frequency
  obtain ⟨slots, rising, lines⟩ := calibrated 3
  exact ⟨density, frequency, sharedRows (by omega), scannedRows (by omega),
    (slots 5 7 (by decide)).2, rising (3 / 4) denser (by norm_num), (lines 7).1⟩

end RowScan
