import Mathlib
import RowScan.Proofs.Comparison.Reread
import RowScan.Proofs.Run.Join

/-!
The two results of a run agree: whoever reads the output and sums up its rows finds the summary that
the run has returned.
-/

namespace RowScan

namespace Settings

theorem position_lt_of_estimates (settings : Settings) (inputs : Inputs)
    (comparisons : List (Comparison Float))
    (estimated : (settings.estimates inputs).2 = .ok comparisons) :
    ∀ comparison ∈ comparisons, comparison.position < comparisons.length := by
  intro comparison member
  obtain ⟨_, _, frequencies, records, _, _, _, _, ran⟩ :=
    settings.estimates_eq_ok inputs comparisons estimated
  obtain ⟨position, found⟩ := List.mem_iff_getElem?.mp member
  rw [Estimator.position_of_run _ true records comparisons ran position comparison found]
  exact (List.getElem?_eq_some_iff.mp found).1

/-- The rows of the output of a run that succeeds give its summary again, bit for bit. The number of
terms is bounded only by what the column of the positions can hold. -/
theorem summary_matches_output (settings : Settings) (tree : FileTree) (summary : Summary Float)
    (apart : settings.SummaryApart tree)
    (finite : ∀ comparisons, (settings.estimates (settings.inputs tree)).2 = .ok comparisons →
      ∀ comparison ∈ comparisons, Double.IsFinite comparison.expected)
    (counted : summary.terms ≤ Natural.limit64)
    (succeeded : (settings.runOn tree).1.result = .ok summary) :
    ∃ (bytes : ByteArray) (rows : List Row) (reread : List (Comparison Float)),
      (settings.runOn tree).2.read settings.output = .ok bytes ∧
      (Reader.ofBytes settings.output bytes).answers =
        .ok ⟨1, Comparison.columns⟩ :: rows.map .ok ∧
      rows.mapM (Comparison.ofRow settings.output) = .ok reread ∧
      Summary.ofComparisons reread = summary := by
  obtain ⟨puts, ends, after⟩ := settings.runOn_ends tree
  rw [succeeded] at ends
  obtain ⟨comparisons, estimated, rfl, output, _⟩ := ends.read_apart apart
  rw [Summary.terms_ofComparisons] at counted
  have small : ∀ comparison ∈ comparisons, comparison.position < Natural.limit64 := by
    intro comparison member
    exact (settings.position_lt_of_estimates _ comparisons estimated comparison member).trans_le
      counted
  exact ⟨tableBytes comparisons, _, comparisons.map Comparison.shown, by rw [after, output],
    Comparison.answers_tableText settings.output comparisons,
    Comparison.mapM_ofRow settings.output comparisons (finite comparisons estimated) small,
    Comparison.ofComparisons_shown comparisons⟩

def brokenTrace : ByteArray :=
  ("query,rows,matches,quadwords,cachelines,parse,plan,match\n" ++
    "\"a\r\r\nb\",2,0,24,7,,,\n\"\"\"cat\"\"\n\ndog\",1,0,12,5,,,\n").toUTF8

theorem estimates_brokenTrace : ∃ comparisons,
    ((overTwoFiles "s").estimates ⟨.ok dogFrequencies, .ok brokenTrace⟩).2 = .ok comparisons ∧
      comparisons.map (fun comparison => (comparison.term, Double.ofFloat comparison.expected)) =
        [("a\r\nb", .finite false 0x404e000000000000), ("\"cat\"\n\ndog", .finite false 0)] := by
  have evaluated : ((overTwoFiles "s").estimates
      ⟨.ok dogFrequencies, .ok brokenTrace⟩).2.toOption.map
        (List.map fun comparison => (comparison.term, Double.ofFloat comparison.expected)) =
      some [("a\r\nb", .finite false 0x404e000000000000),
        ("\"cat\"\n\ndog", .finite false 0)] := by decide +kernel
  simpa only [Option.map_eq_some_iff, toOption_eq_some] using evaluated

theorem summary_matches_output_broken : ∃ summary,
    (overTwoFiles "s").SummaryApart (twoFiles dogFrequencies brokenTrace) ∧
    ((overTwoFiles "s").runOn (twoFiles dogFrequencies brokenTrace)).1.result = .ok summary ∧
    summary.terms = 2 ∧
    ∃ (bytes : ByteArray) (rows : List Row) (reread : List (Comparison Float)),
      ((overTwoFiles "s").runOn (twoFiles dogFrequencies brokenTrace)).2.read "o" = .ok bytes ∧
      (Reader.ofBytes "o" bytes).answers = .ok ⟨1, Comparison.columns⟩ :: rows.map .ok ∧
      rows.mapM (Comparison.ofRow "o") = .ok reread ∧
      Summary.ofComparisons reread = summary := by
  obtain ⟨comparisons, estimated, numbers⟩ := estimates_brokenTrace
  have apart := (namesDistinctFiles_twoFiles dogFrequencies brokenTrace).summaryApart
  have succeeded := runOn_twoFiles dogFrequencies brokenTrace comparisons estimated
  have two : (Summary.ofComparisons comparisons).terms = 2 := by
    rw [Summary.terms_ofComparisons]
    simpa using congrArg List.length numbers
  refine ⟨Summary.ofComparisons comparisons, apart, succeeded, two,
    summary_matches_output (overTwoFiles "s") _ _ apart ?_ (by rw [two]; decide) succeeded⟩
  intro others again
  rw [inputs_overTwoFiles, estimated] at again
  obtain rfl := Except.ok.inj again
  intro comparison member
  have shown : (comparison.term, Double.ofFloat comparison.expected) ∈ comparisons.map
      fun comparison => (comparison.term, Double.ofFloat comparison.expected) :=
    List.mem_map_of_mem member
  rw [numbers] at shown
  simp only [List.mem_cons, List.not_mem_nil, or_false, Prod.mk.injEq] at shown
  rcases shown with ⟨_, sixty⟩ | ⟨_, zero⟩
  · exact ⟨_, _, sixty⟩
  · exact ⟨_, _, zero⟩

end Settings

end RowScan
