import Mathlib
import RowScan.CommandLine.Execution
import RowScan.Proofs.Run.FirstFailure

/-!
What an aborted run says. A run that ends with a violation has changed nothing, and the last event
of its execution says so; whatever is wrong with the layout or the inputs is such a violation.
-/

namespace RowScan

def Quiet (events : List Event) : Prop := ∀ event ∈ events, event.level ≠ .error

theorem quiet_nil : Quiet [] := by
  simp [Quiet]

theorem quiet_append (first later : List Event) :
    Quiet (first ++ later) ↔ Quiet first ∧ Quiet later := by
  simp [Quiet, or_imp, forall_and]

theorem quiet_cons (event : Event) (later : List Event) :
    Quiet (event :: later) ↔ event.level ≠ .error ∧ Quiet later := by
  simp [Quiet]

theorem Frequencies.quiet_addRows (input : String) (frequencies : Frequencies Float)
    (events : Array Event) (answers : List (Except Violation Row)) (before : Quiet events.toList) :
    Quiet (addRows input frequencies events answers).1.toList := by
  induction answers generalizing frequencies events with
  | nil => exact before
  | cons answer rest ih =>
      cases answer with
      | error violation => exact before
      | ok row =>
          cases decoded : entryOfRow input row with
          | error violation => simpa [addRows, decoded] using before
          | ok entry =>
              simp only [addRows, decoded]
              apply ih
              split
              · rw [Array.toList_push, quiet_append, quiet_cons]
                exact ⟨before, by simp [Event.level], quiet_nil⟩
              · exact before

theorem Frequencies.quiet_load (input : String) (bytes : ByteArray) :
    Quiet (load input bytes).1 := by
  unfold load
  rcases (Reader.ofBytes input bytes).header columns with ⟨violation | done, reader⟩
  · exact quiet_nil
  · have added := quiet_addRows input empty #[] reader.answers quiet_nil
    simp only
    rcases found : addRows input empty #[] reader.answers with ⟨duplicates, violation | frequencies⟩
    all_goals rw [found] at added
    · exact added
    · simp only [loadEvents, quiet_append, quiet_cons]
      refine ⟨⟨added, ?_⟩, by simp [Event.level], quiet_nil⟩
      split
      · exact quiet_nil
      · simp [Quiet, Event.level]

theorem Trace.quiet_load (input : String) (bytes : ByteArray) : Quiet (load input bytes).1 := by
  unfold load
  cases openTable input bytes with
  | error violation => exact quiet_nil
  | ok reader =>
      simp only [readAll]
      cases (answers reader).mapM id with
      | error violation => exact quiet_nil
      | ok records => simp [Quiet, Event.level]

namespace Settings

theorem quiet_decode (read : Except IoFault ByteArray)
    (load : ByteArray → List Event × Except Violation α) (quiet : ∀ bytes, Quiet (load bytes).1) :
    Quiet (decode read load).1 := by
  cases read with
  | error fault => exact quiet_nil
  | ok bytes => exact quiet bytes

theorem quiet_estimateRecords (settings : Settings) (frequencies : Frequencies Float)
    (records : List TermRecord) : Quiet (settings.estimateRecords frequencies records).1 := by
  simp only [estimateRecords]
  cases (settings.estimator frequencies).run true records with
  | error violation => simp [Quiet, Event.level]
  | ok comparisons => simp [Quiet, Event.level, Estimator.events]

theorem quiet_estimateTrace (settings : Settings) (frequencies : Frequencies Float)
    (trace : Except IoFault ByteArray) : Quiet (settings.estimateTrace frequencies trace).1 := by
  have read := quiet_decode trace (Trace.load settings.trace) (Trace.quiet_load settings.trace)
  unfold estimateTrace
  rcases found : decode trace (Trace.load settings.trace) with ⟨events, violation | records⟩
  all_goals rw [found] at read
  · exact read
  · rw [quiet_append, quiet_cons]
    exact ⟨read, by simp [Event.level], settings.quiet_estimateRecords frequencies records⟩

theorem quiet_estimates (settings : Settings) (inputs : Inputs) :
    Quiet (settings.estimates inputs).1 := by
  have read := quiet_decode inputs.frequencies (Frequencies.load settings.frequencies)
    (Frequencies.quiet_load settings.frequencies)
  unfold estimates
  cases settings.layout.validate with
  | error violation => exact quiet_nil
  | ok valid =>
      simp only
      rcases found : decode inputs.frequencies (Frequencies.load settings.frequencies) with
        ⟨events, violation | frequencies⟩
      all_goals rw [found] at read
      · exact read
      · rw [quiet_append, quiet_cons]
        exact ⟨read, by simp [Event.level],
          settings.quiet_estimateTrace frequencies inputs.trace⟩

theorem quiet_runOn (settings : Settings) (tree : FileTree) :
    Quiet (settings.runOn tree).1.events := by
  have estimated := settings.quiet_estimates (settings.inputs tree)
  rw [runOn_eq]
  rcases found : settings.estimates (settings.inputs tree) with ⟨events, failure | comparisons⟩
  all_goals rw [found] at estimated
  · exact estimated
  · simp only [commit_eq]
    rcases tree.replace settings.output (tableBytes comparisons) with ⟨fault | done, after⟩
    · exact estimated
    · have written : Quiet (events ++ [.wrote comparisons.length settings.output,
          .compared (Summary.ofComparisons comparisons).figures]) := by
        rw [quiet_append]
        exact ⟨estimated, by simp [Quiet, Event.level]⟩
      simp only [writeSummary_eq]
      cases settings.summaryFile with
      | none => exact written
      | some path =>
          simp only
          rcases after.write path (summaryBytes comparisons) with ⟨fault | finished, last⟩
          · exact written
          · rw [quiet_append]
            exact ⟨written, by simp [Quiet, Event.level]⟩

/-- What is wrong with the layout and the inputs of a run, in the order in which it counts: the
layout, what keeps either input from being opened or decoded, and records with too few rows. -/
def causes (settings : Settings) (inputs : Inputs) : List Violation :=
  (fault? settings.layout.validate).toList ++ settings.frequencyViolations inputs.frequencies ++
    settings.traceViolations inputs.trace ++ settings.recordViolations inputs.trace

theorem map_violation?_failures (settings : Settings) (inputs : Inputs) :
    (settings.failures inputs).map RunFailure.violation? =
      (settings.causes inputs).map some := by
  simp only [failures, causes, List.map_append, List.map_map]
  rfl

theorem head?_causes (settings : Settings) (tree : FileTree) (violation : Violation) :
    (settings.causes (settings.inputs tree)).head? = some violation ↔
      ∃ failure, (settings.runOn tree).1.result = .error failure ∧ failure.stage < 4 ∧
        failure.violation? = some violation := by
  have same := congrArg List.head? (settings.map_violation?_failures (settings.inputs tree))
  rw [List.head?_map, List.head?_map] at same
  constructor
  · intro first
    rw [first, Option.map_some, Option.map_eq_some_iff] at same
    obtain ⟨failure, listed, found⟩ := same
    have failed := (settings.head?_failures tree failure).mp listed
    exact ⟨failure, failed.1, failed.2, found⟩
  · rintro ⟨failure, failed, before, found⟩
    have listed := (settings.head?_failures tree failure).mpr ⟨failed, before⟩
    rw [listed, Option.map_some, found] at same
    obtain ⟨cause, first, kept⟩ := Option.map_eq_some_iff.mp same.symm
    exact first.trans kept

theorem unchanged_of_violation (settings : Settings) (tree : FileTree) (failure : RunFailure)
    (violation : Violation) (failed : (settings.runOn tree).1.result = .error failure)
    (found : failure.violation? = some violation) : (settings.runOn tree).2 = tree := by
  obtain ⟨puts, ends, after⟩ := settings.runOn_ends tree
  rw [failed] at ends
  have early : ∀ path fault, failure ≠ .summary path fault := by
    rintro path fault rfl
    simp [RunFailure.violation?, RunFailure.cause] at found
  rw [after, ends.puts_of_failure early]
  rfl

theorem chain_of_violation (failure : RunFailure) (violation : Violation)
    (found : failure.violation? = some violation) : violation.chain <:+ failure.chain := by
  have cause : failure.cause = .inl violation := Sum.getLeft?_eq_some_iff.mp found
  rw [RunFailure.chain, cause]
  exact List.suffix_append _ _

theorem aborted_mem_abortion (failure : RunFailure) (contract : Contract) (line : Option Nat) :
    .aborted contract line ∈ Execution.abortion failure ↔
      ∃ violation, failure.violation? = some violation ∧ violation.contract = contract ∧
        violation.line? = line := by
  unfold Execution.abortion
  cases failure.violation? with
  | none => simp
  | some violation =>
      rw [List.mem_singleton, Event.aborted.injEq]
      constructor
      · rintro ⟨rfl, rfl⟩
        exact ⟨violation, rfl, rfl, rfl⟩
      · rintro ⟨other, same, rfl, rfl⟩
        obtain rfl := Option.some.inj same
        exact ⟨rfl, rfl⟩

theorem aborted_mem_events (filter : Filter) (report : RunReport) (quiet : Quiet report.events)
    (contract : Contract) (line : Option Nat) :
    .aborted contract line ∈ (Execution.ofReport filter report).events ↔
      filter.shows (.aborted contract line) = true ∧ ∃ failure violation,
        report.result = .error failure ∧ failure.violation? = some violation ∧
        violation.contract = contract ∧ violation.line? = line := by
  -- The run itself reports no error, so the event can only be the one added behind its own.
  have absent : .aborted contract line ∉ report.events := fun member => quiet _ member rfl
  unfold Execution.ofReport
  cases report.result with
  | ok summary => simp [absent]
  | error failure =>
      rw [List.mem_filter, List.mem_append, or_iff_right absent, aborted_mem_abortion, and_comm]
      simp

/-- An execution says that it was aborted exactly when a violation is behind the failure of its run,
with the contract and the line of that violation. Such a run has changed nothing. Whatever is wrong
with the layout or the inputs ends the run in this way, the first of it with its own violation. -/
theorem abortion_truthful (settings : Settings) (tree : FileTree) (filter : Filter) :
    (∀ contract line,
      .aborted contract line ∈ (Execution.ofReport filter (settings.runOn tree).1).events ↔
        filter.shows (.aborted contract line) = true ∧ ∃ failure violation,
          (settings.runOn tree).1.result = .error failure ∧
          failure.violation? = some violation ∧
          violation.contract = contract ∧ violation.line? = line) ∧
    (∀ failure violation, (settings.runOn tree).1.result = .error failure →
      failure.violation? = some violation →
        (settings.runOn tree).2 = tree ∧ violation.chain <:+ failure.chain) ∧
    ∀ violation, (settings.causes (settings.inputs tree)).head? = some violation ↔
      ∃ failure, (settings.runOn tree).1.result = .error failure ∧ failure.stage < 4 ∧
        failure.violation? = some violation := by
  refine ⟨aborted_mem_events filter _ (settings.quiet_runOn tree), ?_, settings.head?_causes tree⟩
  intro failure violation failed found
  exact ⟨settings.unchanged_of_violation tree failure violation failed found,
    chain_of_violation failure violation found⟩

theorem abortion_truthful_empty :
    .aborted .schema (some 1) ∈ (Execution.ofReport .standard
        ((overTwoFiles "s").runOn (twoFiles .empty headerOfTrace)).1).events ∧
      ((overTwoFiles "s").runOn (twoFiles .empty headerOfTrace)).2 =
        twoFiles .empty headerOfTrace := by
  have evaluated : ((overTwoFiles "s").causes ⟨.ok .empty, .ok headerOfTrace⟩).head?.map
      (fun violation => (violation.contract, violation.line?)) = some (.schema, some 1) := by
    decide +kernel
  have shown : Filter.standard.shows (.aborted .schema (some 1)) = true := by decide +kernel
  rw [← inputs_overTwoFiles] at evaluated
  obtain ⟨violation, first, described⟩ := Option.map_eq_some_iff.mp evaluated
  obtain ⟨contract, line⟩ := Prod.mk.inj described
  obtain ⟨said, unchanged, caused⟩ :=
    abortion_truthful (overTwoFiles "s") (twoFiles .empty headerOfTrace) .standard
  obtain ⟨failure, failed, _, found⟩ := (caused violation).mp first
  exact ⟨(said _ _).mpr ⟨shown, failure, violation, failed, found, contract, line⟩,
    (unchanged failure violation failed found).1⟩

end Settings

end RowScan
