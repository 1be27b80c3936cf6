import Mathlib
import RowScan.Proofs.Estimator
import RowScan.Proofs.Inputs.FirstOffence
import RowScan.Proofs.Run.Failure

/-!
Which failure a run reports. Everything that can fail before the output is touched is listed in the
order of the steps, and within a file in the order of its text; a run fails with the first of the
list, whatever stands behind it.
-/

namespace RowScan

/-- The step of a run that a failure belongs to. The output is touched from step 4 on. -/
def RunFailure.stage : RunFailure → Nat
  | .layout _ => 0
  | .frequencies .. => 1
  | .trace .. => 2
  | .estimates .. => 3
  | .output .. => 4
  | .summary .. => 5

namespace Settings

def inputViolations (read : Except IoFault ByteArray) (violations : List Line → List Violation) :
    List Violation :=
  match read with
  | .error fault => [.io fault]
  | .ok bytes => violations (linesOf bytes)

def frequencyViolations (settings : Settings) (read : Except IoFault ByteArray) :
    List Violation :=
  inputViolations read (Table.violations settings.frequencies Frequencies.columns
    (Frequencies.entryOfRow settings.frequencies))

def traceViolations (settings : Settings) (read : Except IoFault ByteArray) : List Violation :=
  inputViolations read (Table.violations settings.trace Trace.columns
    (Trace.recordOfRow settings.trace))

def refusals (settings : Settings) (rows : List (Except Violation Row)) : List Violation :=
  rows.filterMap fun answer => (answer.bind (Trace.recordOfRow settings.trace)).toOption.bind
    (Estimator.refusal? settings.trace settings.layout)

def recordViolations (settings : Settings) (read : Except IoFault ByteArray) : List Violation :=
  match read with
  | .error _ => []
  | .ok bytes =>
      settings.refusals (Grammar.answersOfLines settings.trace (linesOf bytes)).tail

/-- Everything that can fail before the output is touched, in the order in which it counts. -/
def failures (settings : Settings) (inputs : Inputs) : List RunFailure :=
  (fault? settings.layout.validate).toList.map .layout ++
    (settings.frequencyViolations inputs.frequencies).map (.frequencies settings.frequencies) ++
    (settings.traceViolations inputs.trace).map (.trace settings.trace) ++
    (settings.recordViolations inputs.trace).map (.estimates settings.trace)

theorem fault?_decode (read : Except IoFault ByteArray)
    (load : ByteArray → List Event × Except Violation α) (violations : List Line → List Violation)
    (loaded : ∀ bytes, fault? (load bytes).2 = (violations (linesOf bytes)).head?) :
    fault? (decode read load).2 = (inputViolations read violations).head? := by
  cases read with
  | error fault => rfl
  | ok bytes => exact loaded bytes

theorem answersOfLines_of_load (input : String) (bytes : ByteArray) (records : List TermRecord)
    (loaded : (Trace.load input bytes).2 = .ok records) :
    Grammar.answersOfLines input (linesOf bytes) = (Reader.ofBytes input bytes).answers := by
  obtain ⟨line, rows, answered, _⟩ := Trace.load_eq_ok input bytes records loaded
  obtain ⟨later, whole, unbroken⟩ := Reader.answers_ofBytes_lines input bytes
  have text : .broken ∉ linesOf bytes := by
    intro broken
    have failed : .error (.io .notUtf8) ∈ (Reader.ofBytes input bytes).answers := by
      rw [whole]
      simp [Grammar.answersOfLines, broken]
    simp [answered] at failed
  rw [whole, unbroken text, List.append_nil]

theorem recordViolations_of_load (settings : Settings) (read : Except IoFault ByteArray)
    (records : List TermRecord)
    (loaded : (decode read (Trace.load settings.trace)).2 = .ok records) :
    settings.recordViolations read =
      records.filterMap (Estimator.refusal? settings.trace settings.layout) := by
  cases read with
  | error fault => simp [decode] at loaded
  | ok bytes =>
      obtain ⟨line, rows, answered, decoded⟩ := Trace.load_eq_ok settings.trace bytes records loaded
      calc settings.recordViolations (.ok bytes)
          = settings.refusals (rows.map .ok) := by
            rw [recordViolations, answersOfLines_of_load _ _ _ loaded, answered, List.tail_cons]
        _ = (rows.map (Trace.recordOfRow settings.trace)).filterMap fun answer =>
              answer.toOption.bind (Estimator.refusal? settings.trace settings.layout) := by
            rw [refusals, List.filterMap_map, List.filterMap_map]
            rfl
        _ = _ := by
            rw [decoded, List.filterMap_map]
            rfl

theorem fault?_estimateTrace (settings : Settings) (frequencies : Frequencies Float)
    (trace : Except IoFault ByteArray) :
    fault? (settings.estimateTrace frequencies trace).2 =
      ((settings.traceViolations trace).map (RunFailure.trace settings.trace) ++
        (settings.recordViolations trace).map (RunFailure.estimates settings.trace)).head? := by
  have first := fault?_decode trace (Trace.load settings.trace) _
    (Trace.fault?_load settings.trace)
  change _ = (settings.traceViolations trace).head? at first
  rw [List.head?_append, List.head?_map, ← first]
  unfold estimateTrace
  rcases loaded : decode trace (Trace.load settings.trace) with ⟨events, violation | records⟩
  · rfl
  · rw [settings.recordViolations_of_load trace records (by rw [loaded]), List.head?_map]
    have run := (settings.estimator frequencies).fault?_run true records
    simp only [estimateRecords, fault?_ok, Option.map_none, Option.none_or]
    change _ = (records.filterMap (Estimator.refusal? settings.trace settings.layout)).head? at run
    rw [← run]
    cases (settings.estimator frequencies).run true records <;> rfl

theorem fault?_estimates (settings : Settings) (inputs : Inputs) :
    fault? (settings.estimates inputs).2 = (settings.failures inputs).head? := by
  have first := fault?_decode inputs.frequencies (Frequencies.load settings.frequencies) _
    (Frequencies.fault?_load settings.frequencies)
  change _ = (settings.frequencyViolations inputs.frequencies).head? at first
  unfold estimates failures
  rw [List.append_assoc, List.append_assoc, List.head?_append, List.head?_map]
  cases settings.layout.validate with
  | error violation => rfl
  | ok valid =>
      simp only [fault?_ok, Option.toList_none, List.head?_nil, Option.map_none, Option.none_or]
      rw [List.head?_append, List.head?_map, ← first]
      rcases decode inputs.frequencies (Frequencies.load settings.frequencies) with
        ⟨events, violation | frequencies⟩
      · rfl
      · exact settings.fault?_estimateTrace frequencies inputs.trace

theorem stages_failures (settings : Settings) (inputs : Inputs) :
    (settings.failures inputs).Pairwise fun first later => first.stage ≤ later.stage := by
  have same (wrap : Violation → RunFailure) (stage : Nat)
      (staged : ∀ violation, (wrap violation).stage = stage) (violations : List Violation) :
      (violations.map wrap).Pairwise fun first later => first.stage ≤ later.stage := by
    rw [List.pairwise_map]
    exact List.pairwise_of_forall fun first later => by rw [staged, staged]
  unfold failures
  rw [List.pairwise_append, List.pairwise_append, List.pairwise_append]
  refine ⟨⟨⟨same _ 0 (fun _ => rfl) _, same _ 1 (fun _ => rfl) _, ?_⟩,
    same _ 2 (fun _ => rfl) _, ?_⟩, same _ 3 (fun _ => rfl) _, ?_⟩
  all_goals
    simp only [List.mem_append, List.mem_map]
    grind [RunFailure.stage]

theorem stage_lt_of_mem (settings : Settings) (inputs : Inputs) (failure : RunFailure)
    (member : failure ∈ settings.failures inputs) : failure.stage < 4 := by
  simp only [failures, List.mem_append, List.mem_map] at member
  rcases member with ((⟨_, _, rfl⟩ | ⟨_, _, rfl⟩) | ⟨_, _, rfl⟩) | ⟨_, _, rfl⟩
  all_goals simp [RunFailure.stage]

theorem estimates_of_ends {settings : Settings} {tree : FileTree} {failure : RunFailure}
    {puts : List (Location × ByteArray)} (ends : settings.Ends tree (.error failure) puts)
    (before : failure.stage < 4) :
    (settings.estimates (settings.inputs tree)).2 = .error failure := by
  cases ends with
  | refused estimated _ => exact estimated
  | unplaced _ _ => simp [RunFailure.stage] at before
  | uncreated _ _ _ _ => simp [RunFailure.stage] at before
  | cut _ _ _ _ _ _ => simp [RunFailure.stage] at before

theorem head?_failures (settings : Settings) (tree : FileTree) (failure : RunFailure) :
    (settings.failures (settings.inputs tree)).head? = some failure ↔
      (settings.runOn tree).1.result = .error failure ∧ failure.stage < 4 := by
  rw [← fault?_estimates, fault?_eq_some]
  constructor
  · intro estimated
    have listed := (settings.fault?_estimates (settings.inputs tree)).symm
    rw [estimated, fault?_error] at listed
    refine ⟨?_, settings.stage_lt_of_mem _ failure (List.mem_of_mem_head? listed)⟩
    rw [runOn_eq]
    rcases found : settings.estimates (settings.inputs tree) with ⟨events, result⟩
    obtain rfl : result = .error failure := by rw [← estimated, found]
    rfl
  · rintro ⟨failed, before⟩
    obtain ⟨puts, ends, _⟩ := settings.runOn_ends tree
    rw [failed] at ends
    exact estimates_of_ends ends before

/-- Where a failure lies: what it names and, for a failure on a row, the text before that row. -/
def Locates (settings : Settings) (inputs : Inputs) : RunFailure → Prop
  | .layout violation => settings.layout.validate = .error violation
  | .frequencies path violation =>
      path = settings.frequencies ∧ match inputs.frequencies with
        | .error fault => violation = .io fault
        | .ok bytes => Table.Located path Frequencies.columns (Frequencies.entryOfRow path)
            (linesOf bytes) violation
  | .trace path violation =>
      path = settings.trace ∧ match inputs.trace with
        | .error fault => violation = .io fault
        | .ok bytes =>
            Table.Located path Trace.columns (Trace.recordOfRow path) (linesOf bytes) violation
  | .estimates path violation =>
      path = settings.trace ∧ ∃ bytes before rest record, inputs.trace = .ok bytes ∧
        readable (linesOf bytes) = before ++ rest ∧
        violation.place? = some (path, 1 + newlines before) ∧
        (Grammar.answerAt path (1 + newlines before) (unifyEndings rest)).bind
          (Trace.recordOfRow path) = .ok record ∧
        Estimator.refusal? path settings.layout record = some violation
  | .output .. | .summary .. => False

theorem place_of_refusal {input : String} {row : Row} {record : TermRecord}
    {layout : Layout Float} {violation : Violation}
    (decoded : Trace.recordOfRow input row = .ok record)
    (refused : Estimator.refusal? input layout record = some violation) :
    violation.place? = some (input, row.line) := by
  obtain ⟨line, _⟩ := (Trace.recordOfRow_eq_ok input row record).mp decoded
  unfold Estimator.refusal? at refused
  split at refused
  · obtain rfl := Option.some.inj refused
    rw [← line]
    rfl
  · simp at refused

theorem locates_of_mem (settings : Settings) (inputs : Inputs) (failure : RunFailure)
    (member : failure ∈ settings.failures inputs) : settings.Locates inputs failure := by
  simp only [failures, List.mem_append, List.mem_map, Option.mem_toList] at member
  rcases member with ((⟨violation, refused, rfl⟩ | ⟨violation, listed, rfl⟩) |
    ⟨violation, listed, rfl⟩) | ⟨violation, listed, rfl⟩
  · exact (fault?_eq_some _ _).mp refused
  · refine ⟨rfl, ?_⟩
    unfold frequencyViolations inputViolations at listed
    cases read : inputs.frequencies with
    | error fault => simpa [read] using listed
    | ok bytes =>
        rw [read] at listed
        exact Table.located_of_mem (Frequencies.place_of_entryOfRow settings.frequencies) listed
  · refine ⟨rfl, ?_⟩
    unfold traceViolations inputViolations at listed
    cases read : inputs.trace with
    | error fault => simpa [read] using listed
    | ok bytes =>
        rw [read] at listed
        exact Table.located_of_mem (Trace.place_of_recordOfRow settings.trace) listed
  · refine ⟨rfl, ?_⟩
    unfold recordViolations at listed
    cases read : inputs.trace with
    | error fault => simp [read] at listed
    | ok bytes =>
        rw [read] at listed
        obtain ⟨answer, inside, found⟩ := List.mem_filterMap.mp listed
        obtain ⟨record, decoded, refused⟩ := Option.bind_eq_some_iff.mp found
        rw [toOption_eq_some] at decoded
        rcases Grammar.answersOfLines_located _ _ answer (List.mem_of_mem_tail inside) with
          ⟨rfl, _⟩ | ⟨before, rest, split, rfl⟩
        · simp [Except.bind] at decoded
        · obtain ⟨row, answered, ofRow⟩ := (bind_eq_ok _ _ _).mp decoded
          have place := place_of_refusal ofRow refused
          rw [Grammar.line_of_answerAt answered] at place
          exact ⟨bytes, before, rest, record, rfl, split, place, decoded, refused⟩

def RefusesRecord (settings : Settings) (row : Row) (violation : Violation) : Prop :=
  ∃ record, Trace.recordOfRow settings.trace row = .ok record ∧
    Estimator.refusal? settings.trace settings.layout record = some violation

/-- Inputs that differ only behind the place of a failure: in what is read later, and in what stands
behind a front of the file in which it was found that holds all lines of its first offence. A record
with too few rows only counts when the whole file decodes. -/
inductive SameBefore (settings : Settings) (inputs : Inputs) : RunFailure → Inputs → Prop where
  | layout (violation : Violation) (other : Inputs) :
      SameBefore settings inputs (.layout violation) other
  | frequencies (path : String) (violation : Violation) (trace : Except IoFault ByteArray) :
      SameBefore settings inputs (.frequencies path violation) ⟨inputs.frequencies, trace⟩
  | frequencyLines {start tail : ByteArray} {violation : Violation} {count : Nat} (path : String)
      (rest : ByteArray) (trace : Except IoFault ByteArray)
      (read : inputs.frequencies = .ok (start ++ tail)) (closed : EndsLine start)
      (offence : Frequencies.Offence settings.frequencies (start ++ tail) violation count)
      (inside : count ≤ start.data.toList.count 10) :
      SameBefore settings inputs (.frequencies path violation) ⟨.ok (start ++ rest), trace⟩
  | traceLines {start tail : ByteArray} {violation : Violation} {count : Nat} (path : String)
      (rest : ByteArray) (read : inputs.trace = .ok (start ++ tail)) (closed : EndsLine start)
      (offence : Trace.Offence settings.trace (start ++ tail) violation count)
      (inside : count ≤ start.data.toList.count 10) :
      SameBefore settings inputs (.trace path violation) ⟨inputs.frequencies, .ok (start ++ rest)⟩
  | records {start tail : ByteArray} {violation : Violation} {count : Nat} (path : String)
      (rest : ByteArray) (read : inputs.trace = .ok (start ++ tail)) (closed : EndsLine start)
      (offence : Table.Offence settings.trace Trace.columns settings.RefusesRecord (start ++ tail)
        violation count)
      (inside : count ≤ start.data.toList.count 10)
      (decoded : settings.traceViolations (.ok (start ++ rest)) = []) :
      SameBefore settings inputs (.estimates path violation)
        ⟨inputs.frequencies, .ok (start ++ rest)⟩

theorem refusals_of_refuses (settings : Settings) {row : Row} {violation : Violation}
    (refused : settings.RefusesRecord row violation) (later : List (Except Violation Row)) :
    settings.refusals (.ok row :: later) = violation :: settings.refusals later := by
  obtain ⟨record, decoded, short⟩ := refused
  have here : ((Except.ok row).bind (Trace.recordOfRow settings.trace)).toOption.bind
      (Estimator.refusal? settings.trace settings.layout) = some violation := by
    rw [Except.bind, decoded]
    exact short
  exact List.filterMap_cons_some here

theorem refusals_of_passed (settings : Settings) {rows : List Row}
    (passed : ∀ row ∈ rows, ∀ violation, ¬ settings.RefusesRecord row violation) :
    settings.refusals (rows.map .ok) = [] := by
  simp only [refusals, List.filterMap_eq_nil_iff, List.forall_mem_map]
  intro row member
  by_contra refused
  obtain ⟨violation, same⟩ := Option.ne_none_iff_exists'.mp refused
  obtain ⟨record, decoded, short⟩ := Option.bind_eq_some_iff.mp same
  exact passed row member violation ⟨record, (toOption_eq_some _ _).mp decoded, short⟩

theorem head?_recordViolations_of_offence (settings : Settings) {bytes : ByteArray}
    {violation : Violation} {count : Nat} (decoded : settings.traceViolations (.ok bytes) = [])
    (offence : Table.Offence settings.trace Trace.columns settings.RefusesRecord bytes violation
      count) :
    (settings.recordViolations (.ok bytes)).head? = some violation := by
  obtain ⟨records, loaded⟩ : ∃ records, (Trace.load settings.trace bytes).2 = .ok records := by
    rw [← fault?_eq_none, Trace.fault?_load]
    exact congrArg List.head? decoded
  obtain ⟨line, rows, answered, _⟩ := Trace.load_eq_ok settings.trace bytes records loaded
  simp only [recordViolations, answersOfLines_of_load _ _ _ loaded]
  cases offence with
  | unreadable failed _ _ =>
      have member : .error (.io .notUtf8) ∈ (Reader.ofBytes settings.trace bytes).answers := by
        rw [failed]
        exact List.mem_append_right _ List.mem_cons_self
      simp [answered] at member
  | header headed other =>
      rw [answered, List.cons.injEq, Except.ok.injEq] at headed
      exact absurd (headed.1 ▸ rfl) other
  | row found passed refused =>
      rw [found, List.map_cons, List.cons_append, List.tail_cons, refusals, List.filterMap_append]
      change (settings.refusals _ ++ settings.refusals _).head? = _
      rw [settings.refusals_of_passed passed.2, settings.refusals_of_refuses refused]
      rfl

theorem head?_failures_eq (settings : Settings) (inputs : Inputs) :
    (settings.failures inputs).head? =
      ((fault? settings.layout.validate).map .layout).or
        (((settings.frequencyViolations inputs.frequencies).head?.map
            (.frequencies settings.frequencies)).or
          (((settings.traceViolations inputs.trace).head?.map (.trace settings.trace)).or
            ((settings.recordViolations inputs.trace).head?.map (.estimates settings.trace)))) := by
  simp only [failures, List.append_assoc, List.head?_append, List.head?_map, Option.head?_toList]

theorem head?_failures_same (settings : Settings) (inputs other : Inputs) (failure : RunFailure)
    (same : settings.SameBefore inputs failure other)
    (first : (settings.failures inputs).head? = some failure) :
    (settings.failures other).head? = some failure := by
  rw [head?_failures_eq] at first ⊢
  -- The step that failed decides which of the inputs may differ.
  cases layout : fault? settings.layout.validate with
  | some violation => simpa [layout] using first
  | none =>
      rw [layout] at first
      simp only [Option.map_none, Option.none_or] at first ⊢
      cases frequencies : (settings.frequencyViolations inputs.frequencies).head? with
      | some violation =>
          simp only [frequencies, Option.map_some, Option.some_or, Option.some.injEq] at first
          subst first
          cases same with
          | frequencies _ _ trace => simp [frequencies]
          | @frequencyLines start _ _ _ _ rest trace read closed offence inside =>
              have kept : (settings.frequencyViolations (.ok (start ++ rest))).head? =
                  some violation :=
                (offence.replace closed inside rest).head?_violations
                  (Frequencies.refused_iff settings.frequencies)
              simp only [kept, Option.map_some, Option.some_or]
      | none =>
          simp only [frequencies, Option.map_none, Option.none_or] at first
          cases trace : (settings.traceViolations inputs.trace).head? with
          | some violation =>
              simp only [trace, Option.map_some, Option.some_or, Option.some.injEq] at first
              subst first
              cases same with
              | @traceLines start _ _ _ _ rest read closed offence inside =>
                  have kept : (settings.traceViolations (.ok (start ++ rest))).head? =
                      some violation :=
                    (offence.replace closed inside rest).head?_violations
                      fun row violation => Trace.decodes_iff settings.trace row (.error violation)
                  simp only [frequencies, kept, Option.map_none, Option.none_or, Option.map_some,
                    Option.some_or]
          | none =>
              simp only [trace, Option.map_none, Option.none_or] at first
              obtain ⟨violation, refused, rfl⟩ := Option.map_eq_some_iff.mp first
              cases same with
              | records _ rest read closed offence inside decoded =>
                  have none_later := (congrArg List.head? decoded).trans List.head?_nil
                  have kept := settings.head?_recordViolations_of_offence decoded
                    (offence.replace closed inside rest)
                  simp only [frequencies, none_later, kept, Option.map_none, Option.none_or,
                    Option.map_some]

/-- A run fails before its output is touched exactly with the first of all possible failures. They
count in the order of the steps; each lies where its row starts and names the path of its file; and
what stands behind the first of them does not matter. -/
theorem first_failure_reported (settings : Settings) (tree : FileTree) :
    (∀ failure, (settings.failures (settings.inputs tree)).head? = some failure ↔
      (settings.runOn tree).1.result = .error failure ∧ failure.stage < 4) ∧
    ((settings.failures (settings.inputs tree)).Pairwise fun first later =>
      first.stage ≤ later.stage) ∧
    (∀ failure ∈ settings.failures (settings.inputs tree),
      settings.Locates (settings.inputs tree) failure) ∧
    (∀ text : String, readable (linesOf text.toUTF8) = text.toList ∧
      .broken ∉ linesOf text.toUTF8) ∧
    ∀ (other : FileTree) (failure : RunFailure),
      settings.SameBefore (settings.inputs tree) failure (settings.inputs other) →
      failure.stage < 4 →
      (settings.runOn tree).1.result = .error failure →
      (settings.runOn other).1.result = .error failure := by
  refine ⟨settings.head?_failures tree, settings.stages_failures _, settings.locates_of_mem _,
    readable_text, ?_⟩
  intro other failure same before failed
  have first := (settings.head?_failures tree failure).mpr ⟨failed, before⟩
  have still := settings.head?_failures_same _ _ failure same first
  exact ((settings.head?_failures other failure).mp still).1

def mixedTrace : ByteArray := headerOfTrace ++ "dog,0,0,0,0,,,\nx\n".toUTF8

theorem first_failure_reported_mixed :
    ∃ failure : RunFailure,
      failure.chain = ["Failed to read trace \"t\"",
        "Malformed record in t at line 3: expected 8 fields, found 1"] ∧
      ∀ rest, ((overTwoFiles "s").runOn
        (twoFiles headerOfFrequencies (mixedTrace ++ rest))).1.result = .error failure := by
  have evaluated : (fault? (overTwoFiles "s").layout.validate).isNone = true ∧
      ((overTwoFiles "s").frequencyViolations (.ok headerOfFrequencies)).isEmpty = true ∧
      ((overTwoFiles "s").traceViolations (.ok mixedTrace)).head?.map
        (fun violation => (violation.chain, violation.atEnd)) =
      some (["Malformed record in t at line 3: expected 8 fields, found 1"], false) := by
    decide +kernel
  obtain ⟨valid, listed, found⟩ := evaluated
  obtain ⟨violation, first, described⟩ := Option.map_eq_some_iff.mp found
  obtain ⟨worded, midway⟩ := Prod.mk.inj described
  have counts : ((overTwoFiles "s").failures ⟨.ok headerOfFrequencies, .ok mixedTrace⟩).head? =
      some (.trace "t" violation) := by
    rw [head?_failures_eq, Option.isNone_iff_eq_none.mp valid, List.isEmpty_iff.mp listed, first]
    rfl
  have closed : EndsLine mixedTrace := by
    unfold EndsLine
    decide +kernel
  have whole : mixedTrace = mixedTrace ++ .empty := ByteArray.append_empty.symm
  have loaded : (Trace.load "t" mixedTrace).2 = .error violation := by
    rw [← fault?_eq_some, Trace.fault?_load]
    exact first
  obtain ⟨count, inside, offence⟩ := (Trace.load_eq_error_iff_offence midway).mp loaded
  rw [length_linesOf mixedTrace closed] at inside
  rw [whole] at offence
  obtain ⟨counted, _, _, _, same⟩ :=
    first_failure_reported (overTwoFiles "s") (twoFiles headerOfFrequencies mixedTrace)
  rw [inputs_overTwoFiles] at counted same
  obtain ⟨failed, before⟩ := (counted _).mp counts
  refine ⟨.trace "t" violation, ?_, fun rest => same _ _ ?_ before failed⟩
  · rw [RunFailure.chain, RunFailure.cause, Sum.elim_inl, worded]
    rfl
  · rw [inputs_overTwoFiles]
    exact .traceLines "t" rest (congrArg Except.ok whole) closed offence inside

end Settings

end RowScan
