import Mathlib
import RowScan.Proofs.Run.Effects

/-!
What a failed run leaves behind. Nothing changes before the table is in its place, so a run that
fails earlier leaves no trace; a summary that cannot be written leaves the table behind it.
-/

namespace RowScan.Settings

theorem Ends.puts_of_failure {settings : Settings} {tree : FileTree} {failure : RunFailure}
    {puts : List (Location × ByteArray)} (ends : settings.Ends tree (.error failure) puts)
    (early : ∀ path fault, failure ≠ .summary path fault) : puts = [] := by
  cases ends with
  | refused _ _ => rfl
  | unplaced _ _ => rfl
  | uncreated _ _ _ _ => exact absurd rfl (early _ _)
  | cut _ _ _ _ _ _ => exact absurd rfl (early _ _)

/-- A failed run leaves the tree as it was exactly when it did not fail at the summary, or when all
that it had put into the tree by then was there before. -/
theorem failed_run_unchanged_iff (settings : Settings) (tree : FileTree) (failure : RunFailure)
    (failed : (settings.runOn tree).1.result = .error failure) :
    ∃ puts, settings.Ends tree (.error failure) puts ∧
      (settings.runOn tree).2 = tree.putAll puts ∧
      ((∀ location, (settings.runOn tree).2.node? location = tree.node? location) ↔
        (∀ path fault, failure ≠ .summary path fault) ∨
          ∀ location content, puts.lookup location = some content →
            tree.node? location = some (.file content)) := by
  obtain ⟨puts, ends, after⟩ := settings.runOn_ends tree
  rw [failed] at ends
  refine ⟨puts, ends, after, ?_⟩
  rw [after, tree.putAll_unchanged_iff puts ends.named]
  constructor
  · exact Or.inr
  · rintro (early | held)
    · simp [ends.puts_of_failure early]
    · exact held

def headerOfFrequencies : ByteArray := "hash,gramSize,streamId,frequency,text\n".toUTF8

def headerOfTrace : ByteArray :=
  "query,rows,matches,quadwords,cachelines,parse,plan,match\n".toUTF8

theorem estimates_headers :
    ((overTwoFiles "d/s").estimates ⟨.ok headerOfFrequencies, .ok headerOfTrace⟩).2 = .ok [] := by
  have nothing : ((overTwoFiles "d/s").estimates
      ⟨.ok headerOfFrequencies, .ok headerOfTrace⟩).2.toOption.map List.isEmpty = some true := by
    decide +kernel
  simp only [Option.map_eq_some_iff, toOption_eq_some, List.isEmpty_iff] at nothing
  obtain ⟨_, estimated, rfl⟩ := nothing
  exact estimated

theorem runOn_headers :
    ((overTwoFiles "d/s").runOn (twoFiles headerOfFrequencies headerOfTrace)).1.result =
        .error (.summary "d/s" (.system .notFound)) ∧
      ((overTwoFiles "d/s").runOn (twoFiles headerOfFrequencies headerOfTrace)).2 =
        (twoFiles headerOfFrequencies headerOfTrace).put ["o"] (.file (tableBytes [])) := by
  have unwritten (frequencies trace table summary : ByteArray) :
      ((twoFiles frequencies trace).put ["o"] (.file table)).write "d/s" summary =
        (.error (.system .notFound), (twoFiles frequencies trace).put ["o"] (.file table)) := by
    cbv
  apply runOn_of_written (overTwoFiles "d/s") _ _ _ [] "d/s" (.error (.system .notFound))
  · rw [inputs_overTwoFiles, estimates_headers]
  · exact replace_twoFiles headerOfFrequencies headerOfTrace (tableBytes [])
  · rfl
  · exact unwritten headerOfFrequencies headerOfTrace (tableBytes []) (summaryBytes [])

theorem failed_run_unchanged_iff_headers :
    ((overTwoFiles "d/s").runOn (twoFiles headerOfFrequencies headerOfTrace)).1.result =
        .error (.summary "d/s" (.system .notFound)) ∧
      ∃ puts, (overTwoFiles "d/s").Ends (twoFiles headerOfFrequencies headerOfTrace)
          (.error (.summary "d/s" (.system .notFound))) puts ∧
        ((overTwoFiles "d/s").runOn (twoFiles headerOfFrequencies headerOfTrace)).2 =
          (twoFiles headerOfFrequencies headerOfTrace).putAll puts :=
  have failed := runOn_headers.1
  have ⟨puts, ends, after, _⟩ := failed_run_unchanged_iff (overTwoFiles "d/s") _ _ failed
  ⟨failed, puts, ends, after⟩

/-- The table stands where no file was before, although the run failed. -/
theorem table_left_by_failed_run :
    ((overTwoFiles "d/s").runOn (twoFiles headerOfFrequencies headerOfTrace)).1.result =
        .error (.summary "d/s" (.system .notFound)) ∧
      (twoFiles headerOfFrequencies headerOfTrace).node? ["o"] = none ∧
      ((overTwoFiles "d/s").runOn (twoFiles headerOfFrequencies headerOfTrace)).2.node? ["o"] =
        some (.file "Query,TermPos,Quadwords,Cachelines,ExpectedCachelines\n".toUTF8) := by
  have text : tableBytes [] =
      "Query,TermPos,Quadwords,Cachelines,ExpectedCachelines\n".toUTF8 := by decide +kernel
  refine ⟨runOn_headers.1, rfl, ?_⟩
  rw [runOn_headers.2, FileTree.node?_put_self _ _ _ (by decide), text]

end RowScan.Settings
