import Mathlib
import RowScan.Estimator
import RowScan.Proofs.Success

/-!
A trace is estimated record by record, whoever does the work: workers that finish every record, in
any order, give the answers of the sequential loop.
-/

namespace RowScan.Estimator

variable [Arithmetic R]

def fillSlot (estimator : Estimator R) (records : Array TermRecord)
    (slots : Array (Option (Except Violation (Comparison R)))) (position : Nat) :
    Array (Option (Except Violation (Comparison R))) :=
  match records[position]? with
  | some record => slots.setIfInBounds position (some (estimator.estimate record position))
  | none => slots

theorem slots_eq (estimator : Estimator R) (records : Array TermRecord) (finished : List Nat) :
    estimator.slots records finished =
      finished.foldl (estimator.fillSlot records) (Array.replicate records.size none) := rfl

theorem size_fillSlot (estimator : Estimator R) (records : Array TermRecord)
    (slots : Array (Option (Except Violation (Comparison R)))) (position : Nat) :
    (estimator.fillSlot records slots position).size = slots.size := by
  unfold fillSlot
  split <;> simp

theorem getElem?_fillSlot (estimator : Estimator R) (records : Array TermRecord)
    (slots : Array (Option (Except Violation (Comparison R)))) (position other : Nat)
    (sized : slots.size = records.size) :
    (estimator.fillSlot records slots position)[other]? =
      if other = position then
        records[other]?.map fun record => some (estimator.estimate record other)
      else slots[other]? := by
  unfold fillSlot
  by_cases same : other = position
  · subst same
    cases found : records[other]? with
    | none =>
        have beyond : slots.size ≤ other := by
          rw [sized]
          exact Array.getElem?_eq_none_iff.mp found
        simpa using beyond
    | some record =>
        have inside : other < slots.size := by
          rw [sized]
          exact (Array.getElem?_eq_some_iff.mp found).1
        simp [inside]
  · rw [if_neg same]
    split
    · rw [Array.getElem?_setIfInBounds_ne (Ne.symm same)]
    · rfl

theorem getElem?_foldl_fillSlot (estimator : Estimator R) (records : Array TermRecord)
    (finished : List Nat) (slots : Array (Option (Except Violation (Comparison R))))
    (position : Nat) (sized : slots.size = records.size) :
    (finished.foldl (estimator.fillSlot records) slots)[position]? =
      if position ∈ finished then
        records[position]?.map fun record => some (estimator.estimate record position)
      else slots[position]? := by
  induction finished generalizing slots with
  | nil => rfl
  | cons first rest ih =>
      rw [List.foldl_cons, ih _ ((estimator.size_fillSlot records slots first).trans sized),
        getElem?_fillSlot estimator records slots first position sized]
      by_cases later : position ∈ rest
      · simp [later]
      · by_cases now : position = first <;> simp [later, now]

theorem toList_slots (estimator : Estimator R) (records : List TermRecord) (finished : List Nat)
    (covered : ∀ position < records.length, position ∈ finished) :
    (estimator.slots records.toArray finished).toList =
      records.zipIdx.map fun (record, position) => some (estimator.estimate record position) := by
  apply List.ext_getElem?
  intro position
  rw [Array.getElem?_toList, slots_eq,
    getElem?_foldl_fillSlot estimator records.toArray finished _ position (by simp)]
  by_cases inside : position < records.length
  · simp [covered position inside, inside]
  · simp [inside]

theorem parallel_of_covered (estimator : Estimator R) (records : List TermRecord)
    (finished : List Nat) (covered : ∀ position < records.length, position ∈ finished) :
    estimator.parallel finished records = estimator.sequential records := by
  unfold parallel sequential
  rw [toList_slots estimator records finished covered]
  simp [List.filterMap_map]

theorem runScheduled_eq_sequential (estimator : Estimator R) (workers : Bool) (finished : List Nat)
    (records : List TermRecord) (once : finished.Perm (List.range records.length)) :
    estimator.runScheduled workers finished records = estimator.sequential records := by
  unfold runScheduled
  split
  · apply parallel_of_covered
    intro position inside
    exact once.mem_iff.mpr (List.mem_range.mpr inside)
  · rfl

theorem run_eq_sequential (estimator : Estimator R) (workers : Bool) (records : List TermRecord) :
    estimator.run workers records = estimator.sequential records :=
  estimator.runScheduled_eq_sequential workers _ records (List.Perm.refl _)

theorem run_eq_ok (estimator : Estimator R) (workers : Bool) (records : List TermRecord)
    (comparisons : List (Comparison R)) :
    estimator.run workers records = .ok comparisons ↔
      records.zipIdx.map (fun (record, position) => estimator.estimate record position) =
        comparisons.map .ok := by
  rw [run_eq_sequential, sequential, mapM_eq_ok]

theorem result_runTrace (estimator : Estimator R) (workers : Bool) (trace : Reader) :
    (estimator.runTrace workers trace).2 = (Trace.readAll trace).2 >>= estimator.run workers := by
  rcases read : Trace.readAll trace with ⟨events, violation | records⟩
  · simp only [runTrace, read]
    rfl
  · cases estimated : estimator.run workers records <;> simp [runTrace, read, estimated, bind,
      Except.bind]

theorem estimate_eq_ok (estimator : Estimator R) (record : TermRecord) (position : Nat)
    (comparison : Comparison R) :
    estimator.estimate record position = .ok comparison ↔
      estimator.layout.reservedRows.toNat ≤ record.rows.toNat ∧
        comparison.term = record.term ∧ comparison.position = position ∧
        comparison.quadwords = record.quadwords ∧ comparison.cachelines = record.cachelines ∧
        Estimate.mk comparison.expected comparison.wholeRows =
          estimator.treatment.estimate (record.rows.toNat - estimator.layout.reservedRows.toNat)
            (estimator.frequencies.lookup record.term) estimator.layout := by
  unfold estimate TermRecord.effectiveRows
  by_cases enough : estimator.layout.reservedRows.toNat ≤ record.rows.toNat
  · simp only [enough, if_true, true_and, Except.ok.injEq]
    constructor
    · rintro rfl
      exact ⟨rfl, rfl, rfl, rfl, rfl⟩
    · rintro ⟨sameTerm, samePosition, sameQuadwords, sameCachelines, sameEstimate⟩
      rcases comparison with ⟨term, place, quadwords, cachelines, expected, wholeRows⟩
      simp only at sameTerm samePosition sameQuadwords sameCachelines sameEstimate
      rw [← sameEstimate, sameTerm, samePosition, sameQuadwords, sameCachelines]
  · simp [enough]

theorem length_of_run (estimator : Estimator R) (workers : Bool) (records : List TermRecord)
    (comparisons : List (Comparison R))
    (estimated : estimator.run workers records = .ok comparisons) :
    comparisons.length = records.length := by
  rw [run_eq_ok] at estimated
  simpa using (congrArg List.length estimated).symm

theorem record_of_run (estimator : Estimator R) (workers : Bool) (records : List TermRecord)
    (comparisons : List (Comparison R))
    (estimated : estimator.run workers records = .ok comparisons) (position : Nat)
    (comparison : Comparison R) (found : comparisons[position]? = some comparison) :
    ∃ record, records[position]? = some record ∧
      estimator.estimate record position = .ok comparison := by
  rw [run_eq_ok] at estimated
  obtain ⟨⟨record, place⟩, listed, answered⟩ := getElem?_map_ok estimated found
  obtain ⟨_, here, rfl, rfl⟩ : ∃ other, records[position]? = some other ∧ other = record ∧
      position = place := by
    simpa [List.getElem?_zipIdx] using listed
  exact ⟨_, here, answered⟩

theorem term_of_run (estimator : Estimator R) (workers : Bool) (records : List TermRecord)
    (comparisons : List (Comparison R))
    (estimated : estimator.run workers records = .ok comparisons) (position : Nat)
    (comparison : Comparison R) (found : comparisons[position]? = some comparison) :
    ∃ record, records[position]? = some record ∧ comparison.term = record.term := by
  obtain ⟨record, here, answered⟩ :=
    estimator.record_of_run workers records comparisons estimated position comparison found
  obtain ⟨_, same, _⟩ := (estimator.estimate_eq_ok record position comparison).mp answered
  exact ⟨record, here, same⟩

theorem position_of_run (estimator : Estimator R) (workers : Bool) (records : List TermRecord)
    (comparisons : List (Comparison R))
    (estimated : estimator.run workers records = .ok comparisons) (position : Nat)
    (comparison : Comparison R) (found : comparisons[position]? = some comparison) :
    comparison.position = position := by
  obtain ⟨record, _, answered⟩ :=
    estimator.record_of_run workers records comparisons estimated position comparison found
  exact ((estimator.estimate_eq_ok record position comparison).mp answered).2.2.1

def Admits (estimator : Estimator R) (record : TermRecord) : Prop :=
  estimator.layout.reservedRows.toNat ≤ record.rows.toNat

instance (estimator : Estimator R) (record : TermRecord) : Decidable (estimator.Admits record) :=
  inferInstanceAs (Decidable (estimator.layout.reservedRows.toNat ≤ record.rows.toNat))

theorem exists_estimate (estimator : Estimator R) (record : TermRecord) (position : Nat)
    (admitted : estimator.Admits record) :
    ∃ comparison, estimator.estimate record position = .ok comparison := by
  have enough : estimator.layout.reservedRows.toNat ≤ record.rows.toNat := admitted
  simp [estimate, TermRecord.effectiveRows, enough]

theorem estimate_eq_error (estimator : Estimator R) (record : TermRecord) (position : Nat)
    (refused : ¬ estimator.Admits record) :
    estimator.estimate record position = .error (.values estimator.input record.line record.term
      (.reservedRows record.rows.toNat estimator.layout.reservedRows.toNat)) := by
  have short : ¬ estimator.layout.reservedRows.toNat ≤ record.rows.toNat := refused
  simp [estimate, TermRecord.effectiveRows, short]

/-- What a record is refused for by those who call the trace `input`: too few rows. -/
def refusal? (input : String) (layout : Layout R) (record : TermRecord) : Option Violation :=
  if record.rows.toNat < layout.reservedRows.toNat then
    some (.values input record.line record.term
      (.reservedRows record.rows.toNat layout.reservedRows.toNat))
  else none

theorem fault?_estimate (estimator : Estimator R) (record : TermRecord) (position : Nat) :
    fault? (estimator.estimate record position) =
      refusal? estimator.input estimator.layout record := by
  by_cases admitted : estimator.Admits record
  · obtain ⟨comparison, estimated⟩ := estimator.exists_estimate record position admitted
    rw [estimated, refusal?, if_neg (Nat.not_lt.mpr admitted), fault?_ok]
  · rw [estimator.estimate_eq_error record position admitted, refusal?,
      if_pos (Nat.lt_of_not_le admitted), fault?_error]

theorem fault?_run (estimator : Estimator R) (workers : Bool) (records : List TermRecord) :
    fault? (estimator.run workers records) =
      (records.filterMap (refusal? estimator.input estimator.layout)).head? := by
  rw [run_eq_sequential, sequential, fault?_mapM]
  simp only [fault?_estimate]
  conv_rhs => rw [← List.zipIdx_map_fst 0 records, List.filterMap_map]
  rfl

theorem sequential_eq_ok (estimator : Estimator R) (records : List TermRecord)
    (admitted : ∀ record ∈ records, estimator.Admits record) :
    ∃ comparisons, estimator.sequential records = .ok comparisons ∧
      comparisons.length = records.length ∧
      ∀ (position : Nat) (record : TermRecord), records[position]? = some record →
        ∃ comparison, comparisons[position]? = some comparison ∧
          estimator.estimate record position = .ok comparison := by
  obtain ⟨comparisons, answered⟩ :
      ∃ comparisons, estimator.sequential records = .ok comparisons := by
    apply exists_mapM_eq_ok
    intro entry member
    exact estimator.exists_estimate _ _ (admitted _ (List.fst_mem_of_mem_zipIdx member))
  have same := (mapM_eq_ok _ _ _).mp answered
  refine ⟨comparisons, answered, ?_, ?_⟩
  · simpa using (congrArg List.length same).symm
  · intro position record found
    have here := congrArg (fun answers => answers[position]?) same
    simp only [List.getElem?_map, List.getElem?_zipIdx, found, Option.map_some,
      Nat.zero_add] at here
    obtain ⟨comparison, listed, estimated⟩ := Option.map_eq_some_iff.mp here.symm
    exact ⟨comparison, listed, estimated.symm⟩

theorem sequential_eq_error (estimator : Estimator R) (records : List TermRecord)
    (position : Nat) (record : TermRecord) (found : records[position]? = some record)
    (refused : ¬ estimator.Admits record)
    (first : ∀ earlier < position, ∀ other, records[earlier]? = some other →
      estimator.Admits other) :
    estimator.sequential records = .error (.values estimator.input record.line record.term
      (.reservedRows record.rows.toNat estimator.layout.reservedRows.toNat)) := by
  have placed : records.zipIdx[position]? = some (record, position) := by
    simp [List.getElem?_zipIdx, found]
  refine mapM_eq_error placed (estimator.estimate_eq_error record position refused) ?_
  intro earlier before entry listed
  obtain ⟨other, found, rfl⟩ : ∃ other, records[earlier]? = some other ∧
      (other, earlier) = entry := by
    simpa [List.getElem?_zipIdx] using listed
  exact estimator.exists_estimate other earlier (first earlier before other found)

/-- With or without workers, and in whatever order they finish the records, each of them once, a
trace gives the estimates of its records in their order, or the refusal of the first record that has
too few rows. -/
theorem runScheduled_outcome (estimator : Estimator R) (workers : Bool) (finished : List Nat)
    (records : List TermRecord) (once : finished.Perm (List.range records.length)) :
    estimator.runScheduled workers finished records = estimator.run false records ∧
      ((∀ record ∈ records, estimator.Admits record) →
        ∃ comparisons, estimator.runScheduled workers finished records = .ok comparisons ∧
          comparisons.length = records.length ∧
          ∀ (position : Nat) (record : TermRecord), records[position]? = some record →
            ∃ comparison, comparisons[position]? = some comparison ∧
              estimator.estimate record position = .ok comparison) ∧
      ∀ (position : Nat) (record : TermRecord), records[position]? = some record →
        ¬ estimator.Admits record →
        (∀ earlier < position, ∀ other, records[earlier]? = some other →
          estimator.Admits other) →
        estimator.runScheduled workers finished records =
          .error (.values estimator.input record.line record.term
            (.reservedRows record.rows.toNat estimator.layout.reservedRows.toNat)) := by
  rw [runScheduled_eq_sequential estimator workers finished records once, run_eq_sequential]
  refine ⟨rfl, estimator.sequential_eq_ok records, ?_⟩
  intro position record found refused first
  exact estimator.sequential_eq_error records position record found refused first

def recordAt (line : Nat) (rows : UInt64) : TermRecord :=
  ⟨line, "a", rows, 0, 0, 0, ⟨"", "", ""⟩⟩

def shortTrace : List TermRecord :=
  List.replicate 100 (recordAt 1 3) ++ recordAt 102 0 ::
    (List.replicate 4899 (recordAt 1 3) ++ [recordAt 5002 0])

def plainEstimator : Estimator Float := ⟨.empty, .reference, .rowCount, unnamed⟩

theorem runScheduled_outcome_shortTrace :
    (List.range 5001).reverse.Perm (List.range shortTrace.length) ∧
      plainEstimator.runScheduled true (List.range 5001).reverse shortTrace =
        .error (.values "trace" 102 "a" (.reservedRows 0 1)) := by
  have once : (List.range 5001).reverse.Perm (List.range shortTrace.length) := by
    have long : shortTrace.length = 5001 := by simp [shortTrace, -List.reduceReplicate]
    rw [long]
    exact List.reverse_perm _
  have outcome := runScheduled_outcome plainEstimator true _ shortTrace once
  refine ⟨once, outcome.2.2 100 (recordAt 102 0) ?_ ?_ ?_⟩
  · simp [shortTrace, -List.reduceReplicate]
  · decide
  · intro earlier before other listed
    obtain rfl : recordAt 1 3 = other := by
      simpa [shortTrace, List.getElem?_append, List.getElem?_replicate, before,
        -List.reduceReplicate] using listed
    decide

end RowScan.Estimator
