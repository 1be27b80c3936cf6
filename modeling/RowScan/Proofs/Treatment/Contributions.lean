import Mathlib
import RowScan.Proofs.Treatment.Order

/-!
What single rows add to an estimate, in exact arithmetic. The floor is what a row would add if only
the signal were left of the rows before it. Rows of an intersection, and shared rows of a rare term,
add less and less but never less than the floor; shared rows of a term more frequent than the
density lie below the floor and above it in turn.
-/

namespace RowScan

open Set (Icc)

variable {layout : Layout ℝ} {signal : ℝ}

noncomputable def contribution (estimate : Nat → ℝ) (row : Nat) : ℝ :=
  estimate row - estimate (row - 1)

/-- The cache lines a row is expected to touch when no noise is left. -/
noncomputable def signalFloor (layout : Layout ℝ) (signal : ℝ) : ℝ :=
  layout.cachelinesPerRow.toNat * (1 - (1 - signal) ^ layout.addressSlotsPerRow.toNat)

theorem one_sub_pow_anti {less more : ℝ} (low : 0 ≤ less) (ordered : less ≤ more) (slots : Nat) :
    1 - more ^ slots ≤ 1 - less ^ slots :=
  sub_le_sub_left (pow_le_pow_left₀ low ordered slots) 1

theorem full_mul_le (layout : Layout ℝ) {less more : ℝ} (ordered : less ≤ more) :
    layout.cachelinesPerRow.toNat * less ≤ layout.cachelinesPerRow.toNat * more :=
  mul_le_mul_of_nonneg_left ordered (Nat.cast_nonneg _)

theorem signalFloor_nonneg (layout : Layout ℝ) (frequency : signal ∈ Icc 0 1) :
    0 ≤ signalFloor layout signal := by
  have rest : 1 - signal ∈ Icc (0 : ℝ) 1 := by
    constructor <;> linarith [frequency.1, frequency.2]
  exact mul_nonneg (Nat.cast_nonneg _) (one_sub_pow_mem rest _).1

/-! Shared rows. -/

theorem sharedDensity_succ (layout : Layout ℝ) (signal : ℝ) (rows : Nat) :
    sharedDensity (rows + 1) signal layout =
      sharedDensity rows signal layout + SharedScan.touched layout signal (rows + 1) := by
  rw [sharedDensity_real, sharedDensity_real, Finset.sum_range_succ]

theorem contribution_shared (layout : Layout ℝ) (signal : ℝ) (row : Nat) :
    contribution (fun rows => sharedDensity rows signal layout) (row + 1) =
      SharedScan.touched layout signal (row + 1) := by
  rw [contribution, Nat.add_sub_cancel, sharedDensity_succ, add_sub_cancel_left]

namespace SharedScan

theorem touched_anti {less more : Nat} (density : layout.density ∈ Icc 0 1)
    (frequency : signal ∈ Icc 0 1)
    (ordered : deadDraw layout signal less ≤ deadDraw layout signal more) :
    touched layout signal more ≤ touched layout signal less := by
  rw [touched_eq, touched_eq]
  exact full_mul_le layout (one_sub_pow_anti (deadDraw_mem density frequency less).1 ordered _)

theorem touched_decay (density : layout.density ∈ Icc 0 1) (frequency : signal ∈ Icc 0 1)
    (rare : signal ≤ layout.density) (row : Nat) :
    touched layout signal (row + 1) ≤ touched layout signal row := by
  have noise : layout.density - signal ∈ Icc (0 : ℝ) 1 := by
    constructor <;> linarith [density.2, frequency.1]
  have shrunk : (layout.density - signal) ^ (row + 1) ≤ (layout.density - signal) ^ row :=
    pow_le_pow_of_le_one noise.1 noise.2 (Nat.le_succ row)
  apply touched_anti density frequency
  exact mul_le_mul_of_nonneg_right (by linarith) (by linarith [frequency.2])

theorem signalFloor_le_touched (density : layout.density ∈ Icc 0 1)
    (frequency : signal ∈ Icc 0 1) {row : Nat} (positive : 0 ≤ (layout.density - signal) ^ row) :
    signalFloor layout signal ≤ touched layout signal row := by
  rw [touched_eq]
  apply full_mul_le layout
  apply one_sub_pow_anti (deadDraw_mem density frequency row).1
  exact mul_le_of_le_one_left (by linarith [frequency.2]) (by linarith)

theorem touched_le_signalFloor (frequency : signal ∈ Icc 0 1) {row : Nat}
    (negative : (layout.density - signal) ^ row ≤ 0) :
    touched layout signal row ≤ signalFloor layout signal := by
  have rest : 0 ≤ 1 - signal := by linarith [frequency.2]
  rw [touched_eq]
  apply full_mul_le layout
  apply one_sub_pow_anti rest
  exact le_mul_of_one_le_left rest (by linarith)

end SharedScan

/-! Rows of an intersection. -/

theorem Treatment.intersection_succ (density : layout.density ∈ Icc 0 1)
    (frequency : signal ∈ Icc 0 1) (rows : Nat) :
    (intersection.estimate (rows + 1) signal layout).cachelines =
      layout.cachelinesPerRow.toNat *
        (1 + ∑ row ∈ Finset.Icc 1 rows, IntersectionScan.liveBehind layout signal row) := by
  cases rows with
  | zero => simp [estimate]
  | succ rows =>
      rw [estimate, if_neg (by omega)]
      exact intersectionSum_eq_sum density frequency (rows + 1)

theorem Treatment.intersection_zero (layout : Layout ℝ) (signal : ℝ) :
    (intersection.estimate 0 signal layout).cachelines = 0 := by
  simp [estimate]

namespace IntersectionScan

theorem noise_pow_nonneg (density : layout.density ∈ Icc 0 1) (frequency : signal ∈ Icc 0 1)
    (row : Nat) : 0 ≤ noise layout signal ^ row :=
  pow_nonneg (noise_mem density frequency).1 row

theorem contribution_first (density : layout.density ∈ Icc 0 1) (frequency : signal ∈ Icc 0 1) :
    contribution (fun rows => (Treatment.intersection.estimate rows signal layout).cachelines) 1 =
      layout.cachelinesPerRow.toNat := by
  rw [contribution, Treatment.intersection_succ density frequency, Treatment.intersection_zero]
  simp

theorem contribution_later (density : layout.density ∈ Icc 0 1) (frequency : signal ∈ Icc 0 1)
    (row : Nat) :
    contribution (fun rows => (Treatment.intersection.estimate rows signal layout).cachelines)
        (row + 2) =
      layout.cachelinesPerRow.toNat * liveBehind layout signal (row + 1) := by
  rw [contribution, Treatment.intersection_succ density frequency (row + 1),
    Nat.add_sub_cancel (row + 1) 1, Treatment.intersection_succ density frequency row,
    Finset.sum_Icc_succ_top (by omega)]
  ring

theorem liveBehind_decay (density : layout.density ∈ Icc 0 1) (frequency : signal ∈ Icc 0 1)
    (rows : Nat) : liveBehind layout signal (rows + 2) ≤ liveBehind layout signal (rows + 1) := by
  have unit := noise_mem density frequency
  have shrunk : noise layout signal ^ (rows + 2) ≤ noise layout signal ^ (rows + 1) :=
    pow_le_pow_of_le_one unit.1 unit.2 (Nat.le_succ _)
  have dead := noise_pow_le density frequency rows
  exact one_sub_pow_anti (by linarith) (by linarith) _

theorem floor_le_liveBehind (density : layout.density ∈ Icc 0 1) (frequency : signal ∈ Icc 0 1)
    (rows : Nat) :
    1 - (1 - signal) ^ layout.addressSlotsPerRow.toNat ≤ liveBehind layout signal (rows + 1) := by
  have positive := noise_pow_nonneg density frequency (rows + 1)
  have dead := noise_pow_le density frequency rows
  exact one_sub_pow_anti (by linarith) (by linarith) _

theorem contribution_decay (density : layout.density ∈ Icc 0 1) (frequency : signal ∈ Icc 0 1)
    (rows : Nat) :
    let added := contribution fun rows =>
      (Treatment.intersection.estimate rows signal layout).cachelines
    signalFloor layout signal ≤ added (rows + 2) ∧ added (rows + 2) ≤ added (rows + 1) := by
  intro added
  have later (row : Nat) : added (row + 2) = _ := contribution_later density frequency row
  refine ⟨?_, ?_⟩
  · rw [later]
    exact full_mul_le layout (floor_le_liveBehind density frequency rows)
  · cases rows with
    | zero =>
        have first : added 1 = _ := contribution_first density frequency
        rw [later, first]
        exact mul_le_of_le_one_right (Nat.cast_nonneg _) (liveBehind_le_one density frequency 0)
    | succ rows =>
        rw [later, later]
        exact full_mul_le layout (liveBehind_decay density frequency rows)

end IntersectionScan

/-- In exact arithmetic, from the second row on each row of an intersection adds at least the floor
and at most what the row before it added, and the first adds all its cache lines. Shared rows of a
term no more frequent than the density add less and less and never less than the floor. Those of a
more frequent term add at most the floor in odd places and at least the floor in even ones. -/
theorem contributions_around_floor (layout : Layout ℝ) (signal : ℝ)
    (density : layout.density ∈ Icc 0 1) (frequency : signal ∈ Icc 0 1) :
    let full : ℝ := layout.cachelinesPerRow.toNat
    let floor := full * (1 - (1 - signal) ^ layout.addressSlotsPerRow.toNat)
    let scanned := contribution fun rows =>
      (Treatment.intersection.estimate rows signal layout).cachelines
    let shared := contribution fun rows => sharedDensity rows signal layout
    (scanned 1 = full ∧ ∀ rows, 1 ≤ rows →
      floor ≤ scanned (rows + 1) ∧ scanned (rows + 1) ≤ scanned rows) ∧
    (signal ≤ layout.density → ∀ row, 1 ≤ row →
      shared (row + 1) ≤ shared row ∧ floor ≤ shared row) ∧
    (layout.density < signal → ∀ row, 1 ≤ row →
      (Odd row → shared row ≤ floor) ∧ (Even row → floor ≤ shared row)) := by
  intro full floor scanned shared
  have touched (row : Nat) (counted : 1 ≤ row) :
      shared row = SharedScan.touched layout signal row := by
    obtain ⟨earlier, rfl⟩ : ∃ earlier, row = earlier + 1 := ⟨row - 1, by omega⟩
    exact contribution_shared layout signal earlier
  refine ⟨⟨IntersectionScan.contribution_first density frequency, ?_⟩, ?_, ?_⟩
  · intro rows counted
    obtain ⟨earlier, rfl⟩ : ∃ earlier, rows = earlier + 1 := ⟨rows - 1, by omega⟩
    exact IntersectionScan.contribution_decay density frequency earlier
  · intro rare row counted
    rw [touched row counted, touched (row + 1) (by omega)]
    refine ⟨SharedScan.touched_decay density frequency rare row, ?_⟩
    exact SharedScan.signalFloor_le_touched density frequency (pow_nonneg (by linarith) row)
  · intro frequent row counted
    rw [touched row counted]
    have negative : layout.density - signal ≤ 0 := by linarith
    exact ⟨fun odd => SharedScan.touched_le_signalFloor frequency (odd.pow_nonpos negative),
      fun even => SharedScan.signalFloor_le_touched density frequency (even.pow_nonneg _)⟩

theorem Layout.density_twoSlots : twoSlots.density = 1 / 2 := by
  norm_num [twoSlots]

theorem contributions_around_floor_quarters :
    let shared signal := contribution fun rows => sharedDensity rows signal .twoSlots
    let scanned := contribution fun rows =>
      (Treatment.intersection.estimate rows (1 / 4) .twoSlots).cachelines
    Layout.twoSlots.density ∈ Icc 0 1 ∧ (1 / 4 : ℝ) ∈ Icc (0 : ℝ) 1 ∧
      (3 / 4 : ℝ) ∈ Icc (0 : ℝ) 1 ∧ 1 / 4 ≤ Layout.twoSlots.density ∧
      Layout.twoSlots.density < 3 / 4 ∧
      105 / 4 ≤ scanned 3 ∧ scanned 3 ≤ scanned 2 ∧
      shared (1 / 4) 2 ≤ shared (1 / 4) 1 ∧ 105 / 4 ≤ shared (1 / 4) 2 ∧
      shared (3 / 4) 1 ≤ 225 / 4 ∧ 225 / 4 ≤ shared (3 / 4) 2 := by
  intro shared scanned
  have density : Layout.twoSlots.density ∈ Icc 0 1 := by norm_num [Layout.density_twoSlots]
  have rare : (1 / 4 : ℝ) ∈ Icc (0 : ℝ) 1 := by norm_num
  have frequent : (3 / 4 : ℝ) ∈ Icc (0 : ℝ) 1 := by norm_num
  have below : 1 / 4 ≤ Layout.twoSlots.density := by norm_num [Layout.density_twoSlots]
  have above : Layout.twoSlots.density < 3 / 4 := by norm_num [Layout.density_twoSlots]
  have lines : Layout.twoSlots.cachelinesPerRow.toNat = 60 := rfl
  have slots : Layout.twoSlots.addressSlotsPerRow.toNat = 2 := rfl
  obtain ⟨⟨_, later⟩, decay, _⟩ := contributions_around_floor .twoSlots (1 / 4) density rare
  obtain ⟨_, _, turns⟩ := contributions_around_floor .twoSlots (3 / 4) density frequent
  rw [lines, slots] at later decay turns
  have third := later 2 (by omega)
  have first := decay below 1 le_rfl
  have second := decay below 2 (by omega)
  have odd := (turns above 1 le_rfl).1 odd_one
  have even := (turns above 2 (by omega)).2 even_two
  norm_num at third second odd even
  exact ⟨density, rare, frequent, below, above, third.1, third.2, first.1, second.2, odd, even⟩

end RowScan
