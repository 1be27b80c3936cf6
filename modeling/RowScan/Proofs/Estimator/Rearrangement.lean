import Mathlib
import RowScan.Proofs.Estimator

/-!
Traces that are rearranged or cut in two. Records are estimated one by one, so a record takes its
estimate along to another place, and only its position there is new. Where a trace is cut in two,
what fails first is what fails in the first part or, if nothing does, in the second.
-/

namespace RowScan

namespace Comparison

def moveTo (comparison : Comparison R) (position : Nat) : Comparison R :=
  { comparison with position := position }

def raise (count : Nat) (comparison : Comparison R) : Comparison R :=
  comparison.moveTo (count + comparison.position)

end Comparison

/-- The records of a trace in another order: at each place the record that `origin` says. -/
def rearrange (records : List TermRecord) (origin : Equiv.Perm (Fin records.length)) :
    List TermRecord :=
  List.ofFn fun place => records[origin place]

theorem getElem?_rearrange (records : List TermRecord) (origin : Equiv.Perm (Fin records.length))
    (place : Fin records.length) :
    (rearrange records origin)[(place : Nat)]? = records[(origin place : Nat)]? := by
  simp [rearrange]

theorem mem_rearrange (records : List TermRecord) (origin : Equiv.Perm (Fin records.length))
    (record : TermRecord) : record ∈ rearrange records origin ↔ record ∈ records := by
  rw [rearrange, List.mem_ofFn, List.mem_iff_get]
  exact (origin.surjective.exists (p := fun place => records.get place = record)).symm

namespace Estimator

variable [Arithmetic R]

theorem estimate_moveTo (estimator : Estimator R) (record : TermRecord) (first second : Nat) :
    estimator.estimate record second =
      (estimator.estimate record first).map (Comparison.moveTo · second) := by
  unfold estimate
  cases record.effectiveRows estimator.layout <;> rfl

theorem estimate_raise (estimator : Estimator R) (record : TermRecord) (count position : Nat) :
    estimator.estimate record (count + position) =
      (estimator.estimate record position).map (Comparison.raise count) := by
  unfold estimate
  cases record.effectiveRows estimator.layout <;> rfl

theorem exists_sequential_iff (estimator : Estimator R) (records : List TermRecord) :
    (∃ results, estimator.sequential records = .ok results) ↔
      ∀ record ∈ records, estimator.Admits record := by
  rw [← fault?_eq_none, ← estimator.run_eq_sequential false, fault?_run, List.head?_eq_none_iff,
    List.filterMap_eq_nil_iff]
  simp [refusal?, Admits]

theorem mapM_estimate_behind (estimator : Estimator R) (count : Nat) (records : List TermRecord) :
    (records.zipIdx count).mapM (fun (record, position) => estimator.estimate record position) =
      (estimator.sequential records).map (List.map (Comparison.raise count)) := by
  rw [List.zipIdx_eq_map_add, List.mapM_map]
  simp only [Function.comp_def, estimate_raise]
  exact mapM_map_step _ _ _

theorem sequential_append (estimator : Estimator R) (first second : List TermRecord) :
    estimator.sequential (first ++ second) =
      match estimator.sequential first, estimator.sequential second with
      | .error violation, _ => .error violation
      | .ok _, .error violation => .error violation
      | .ok results, .ok later => .ok (results ++ later.map (Comparison.raise first.length)) := by
  have whole : estimator.sequential (first ++ second) = do
      let results ← estimator.sequential first
      let later ← (estimator.sequential second).map (List.map (Comparison.raise first.length))
      return results ++ later := by
    rw [← mapM_estimate_behind, sequential, List.zipIdx_append, List.mapM_append, Nat.zero_add]
    rfl
  rw [whole]
  cases estimator.sequential first with
  | error violation => rfl
  | ok results => cases estimator.sequential second <;> rfl

theorem getElem?_of_sequential (estimator : Estimator R) (records : List TermRecord)
    (results : List (Comparison R)) (estimated : estimator.sequential records = .ok results)
    (position : Nat) :
    results[position]?.map .ok =
      records[position]?.map fun record => estimator.estimate record position := by
  rw [sequential, mapM_eq_ok] at estimated
  have here := congrArg (fun answers => answers[position]?) estimated
  simp only [List.getElem?_map, List.getElem?_zipIdx, Nat.zero_add, Option.map_map] at here
  exact here.symm

theorem sequential_rearrange (estimator : Estimator R) (records : List TermRecord)
    (origin : Equiv.Perm (Fin records.length)) (results moved : List (Comparison R))
    (estimated : estimator.sequential records = .ok results)
    (again : estimator.sequential (rearrange records origin) = .ok moved)
    (place : Fin records.length) :
    moved[(place : Nat)]? = results[(origin place : Nat)]?.map (Comparison.moveTo · place) := by
  apply Option.map_injective (fun _ _ => Except.ok.inj : Function.Injective
    (Except.ok : Comparison R → Except Violation (Comparison R)))
  calc moved[(place : Nat)]?.map .ok
      = records[(origin place : Nat)]?.map fun record => estimator.estimate record place := by
        rw [estimator.getElem?_of_sequential _ moved again, getElem?_rearrange]
    _ = (records[(origin place : Nat)]?.map fun record =>
          estimator.estimate record (origin place)).map
            (Except.map (Comparison.moveTo · place)) := by
        simp only [Option.map_map, Function.comp_def, ← estimate_moveTo]
    _ = (results[(origin place : Nat)]?.map (Comparison.moveTo · place)).map .ok := by
        rw [← estimator.getElem?_of_sequential _ results estimated, Option.map_map, Option.map_map]
        rfl

/-- With or without workers, whatever the order in which they finish the records of each trace: a
trace in another order is estimated exactly if the trace is, and its results are those of the trace
at the places where its records were, moved to where they are. And a trace in two parts fails as
the first part or else as the second, or has the results of the first in front of those of the
second. -/
theorem rearranged_or_split (estimator : Estimator R) (workers : Bool)
    (schedule : List TermRecord → List Nat)
    (once : ∀ records, (schedule records).Perm (List.range records.length)) :
    let run records := estimator.runScheduled workers (schedule records) records
    (∀ (records : List TermRecord) (origin : Equiv.Perm (Fin records.length)),
      ((∃ moved, run (rearrange records origin) = .ok moved) ↔
        ∃ results, run records = .ok results) ∧
      ∀ results moved, run records = .ok results → run (rearrange records origin) = .ok moved →
        moved.length = results.length ∧ ∀ place : Fin records.length,
          ∃ result, results[(origin place : Nat)]? = some result ∧
            moved[(place : Nat)]? = some { result with position := place }) ∧
    ∀ first second, run (first ++ second) =
      match run first, run second with
      | .error violation, _ => .error violation
      | .ok _, .error violation => .error violation
      | .ok results, .ok later => .ok (results ++ later.map (Comparison.raise first.length)) := by
  intro run
  have sequentially (records : List TermRecord) : run records = estimator.sequential records :=
    estimator.runScheduled_eq_sequential workers _ records (once records)
  simp only [sequentially]
  refine ⟨fun records origin => ⟨?_, ?_⟩, estimator.sequential_append⟩
  · simp only [exists_sequential_iff, mem_rearrange]
  · intro results moved estimated again
    have size : results.length = records.length := by
      rw [← run_eq_sequential estimator false] at estimated
      exact estimator.length_of_run false records results estimated
    have sizeMoved : moved.length = records.length := by
      rw [← run_eq_sequential estimator false] at again
      rw [estimator.length_of_run false _ moved again, rearrange, List.length_ofFn]
    refine ⟨sizeMoved.trans size.symm, fun place => ?_⟩
    have inside : (origin place : Nat) < results.length := by
      rw [size]
      exact (origin place).isLt
    refine ⟨results[(origin place : Nat)], List.getElem?_eq_getElem inside, ?_⟩
    rw [estimator.sequential_rearrange records origin results moved estimated again place,
      List.getElem?_eq_getElem inside]
    rfl

def mixedTrace : List TermRecord := [recordAt 2 3, recordAt 3 9, recordAt 4 2]

def earlyTrace : List TermRecord := List.replicate 4000 (recordAt 2 3)

def lateTrace : List TermRecord := List.replicate 200 (recordAt 4002 3) ++ [recordAt 4202 0]

theorem rearranged_or_split_late :
    let backwards (records : List TermRecord) := (List.range records.length).reverse
    let run records := plainEstimator.runScheduled true (backwards records) records
    (∀ records, (backwards records).Perm (List.range records.length)) ∧
      (∃ results moved, rearrange mixedTrace Fin.revPerm = mixedTrace.reverse ∧
        run mixedTrace = .ok results ∧ run (rearrange mixedTrace Fin.revPerm) = .ok moved ∧
        ∃ result, results[2]? = some result ∧
          moved[0]? = some { result with position := 0 }) ∧
      earlyTrace.length < parallelThreshold ∧ lateTrace.length < parallelThreshold ∧
      parallelThreshold ≤ (earlyTrace ++ lateTrace).length ∧
      run (earlyTrace ++ lateTrace) = .error (.values "trace" 4202 "a" (.reservedRows 0 1)) := by
  intro backwards run
  have once (records : List TermRecord) :
      (backwards records).Perm (List.range records.length) := List.reverse_perm _
  have sequentially (records : List TermRecord) : run records = plainEstimator.sequential records :=
    plainEstimator.runScheduled_eq_sequential true _ records (once records)
  have estimated (records : List TermRecord)
      (admitted : ∀ record ∈ records, plainEstimator.Admits record) :
      ∃ results, run records = .ok results := by
    rwa [sequentially, exists_sequential_iff]
  have earlyLength : earlyTrace.length = 4000 := List.length_replicate
  have lateLength : lateTrace.length = 201 := rfl
  have late : run lateTrace = .error (.values "trace" 4202 "a" (.reservedRows 0 1)) := by
    rw [sequentially]
    refine sequential_eq_error plainEstimator lateTrace 200 (recordAt 4202 0) rfl (by decide) ?_
    intro earlier before other listed
    obtain rfl : recordAt 4002 3 = other := by
      simpa [lateTrace, List.getElem?_append, List.getElem?_replicate, before,
        -List.reduceReplicate] using listed
    decide
  obtain ⟨mixed, mixedEstimated⟩ := estimated mixedTrace (by decide)
  obtain ⟨early, earlyEstimated⟩ := estimated earlyTrace fun record member => by
    rw [List.eq_of_mem_replicate member]
    decide
  obtain ⟨order, split⟩ := plainEstimator.rearranged_or_split true backwards once
  obtain ⟨same, placed⟩ := order mixedTrace Fin.revPerm
  obtain ⟨moved, again⟩ := same.mpr ⟨mixed, mixedEstimated⟩
  obtain ⟨_, each⟩ := placed mixed moved mixedEstimated again
  refine ⟨once, ⟨mixed, moved, rfl, mixedEstimated, again, each ⟨0, by decide⟩⟩, ?_, ?_, ?_, ?_⟩
  · rw [earlyLength]
    decide
  · rw [lateLength]
    decide
  · rw [List.length_append, earlyLength, lateLength]
    decide
  · have whole := split earlyTrace lateTrace
    simp only [run] at earlyEstimated late
    simpa only [earlyEstimated, late] using whole

end Estimator

end RowScan
