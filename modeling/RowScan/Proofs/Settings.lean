import Mathlib
import RowScan.Proofs.Layout
import RowScan.Settings

/-!
Which environments have settings. A layout or a treatment that cannot be used is a violation of the
rules of the configuration; a thread count that cannot be read is a failure without a violation.
-/

namespace RowScan

theorem mapError_eq_error {α β ε : Type} (answer : Except ε α) (wrap : ε → β) (fault : β) :
    answer.mapError wrap = .error fault ↔ ∃ cause, answer = .error cause ∧ wrap cause = fault := by
  cases answer <;> simp [Except.mapError]

namespace Treatment

theorem exists_ofName (name : String) :
    (∃ treatment, ofName name = .ok treatment) ↔
      ∃ treatment ∈ all, sameIgnoringCase treatment.name (Blank.trim name) = true := by
  unfold ofName
  cases found : all.find? fun treatment => sameIgnoringCase treatment.name (Blank.trim name) with
  | none =>
      rw [List.find?_eq_none] at found
      simp only [reduceCtorEq, exists_false, false_iff]
      rintro ⟨treatment, listed, same⟩
      exact found treatment listed same
  | some treatment =>
      have same := List.find?_some found
      exact iff_of_true ⟨treatment, rfl⟩ ⟨treatment, List.mem_of_find?_eq_some found, same⟩

theorem contract_of_ofName {name : String} {violation : Violation}
    (failed : ofName name = .error violation) : violation.contract = .config := by
  unfold ofName at failed
  split at failed
  · simp at failed
  · obtain rfl := Except.error.inj failed
    rfl

end Treatment

namespace Settings

def NamesTreatment (lookup : String → Option String) : Prop :=
  Meets lookup treatmentVariable fun text =>
    ∃ treatment ∈ Treatment.all, Treatment.sameIgnoringCase treatment.name text = true

structure Acceptable (lookup : String → Option String) : Prop where
  layout : Layout.Acceptable lookup
  treatment : NamesTreatment lookup
  threads : Meets lookup threadsVariable fun text => ∃ number < 2 ^ 64, Natural.Spells text number

variable {lookup : String → Option String}

theorem exists_treatmentOf (lookup : String → Option String) :
    (∃ treatment, treatmentOf lookup = .ok treatment) ↔ NamesTreatment lookup := by
  unfold treatmentOf NamesTreatment Meets
  cases lookup treatmentVariable with
  | none => simp
  | some text => simpa using Treatment.exists_ofName text

theorem contract_of_treatmentOf {violation : Violation}
    (failed : treatmentOf lookup = .error violation) : violation.contract = .config := by
  unfold treatmentOf at failed
  split at failed
  · simp at failed
  · exact Treatment.contract_of_ofName failed

theorem exists_threadsOf (lookup : String → Option String) :
    (∃ threads, threadsOf lookup = .ok threads) ↔
      Meets lookup threadsVariable fun text => ∃ number < 2 ^ 64, Natural.Spells text number := by
  unfold threadsOf Meets
  cases lookup threadsVariable with
  | none => simp
  | some text =>
      simp only [mapError_eq_ok, Option.some.injEq, forall_eq']
      exact Natural.exists_read Natural.limit64 (Blank.trim text) (by decide)

theorem violation?_of_threadsOf {failure : SettingsFailure}
    (failed : threadsOf lookup = .error failure) : failure.violation? = none := by
  unfold threadsOf at failed
  split at failed
  · simp at failed
  · obtain ⟨_, _, rfl⟩ := (mapError_eq_error _ _ _).mp failed
    rfl

variable {frequencies trace output : String}

theorem ofEnvironment_eq_ok (settings : Settings) :
    ofEnvironment lookup frequencies trace output = .ok settings ↔
      Layout.ofLookup lookup = .ok settings.layout ∧
      treatmentOf lookup = .ok settings.treatment ∧ threadsOf lookup = .ok settings.threads ∧
      settings.frequencies = frequencies ∧ settings.trace = trace ∧ settings.output = output ∧
      settings.summaryFile = lookup summaryVariable := by
  simp only [ofEnvironment, bind_eq_ok, mapError_eq_ok]
  constructor
  · rintro ⟨layout, layoutRead, treatment, treatmentRead, threads, threadsRead, same⟩
    obtain rfl : _ = settings := by simpa [pure, Except.pure] using same
    exact ⟨layoutRead, treatmentRead, threadsRead, rfl, rfl, rfl, rfl⟩
  · rintro ⟨layout, treatment, threads, rfl, rfl, rfl, summary⟩
    exact ⟨_, layout, _, treatment, _, threads, by simp [pure, Except.pure, ← summary]⟩

theorem exists_ofEnvironment (lookup : String → Option String) (frequencies trace output : String) :
    (∃ settings, ofEnvironment lookup frequencies trace output = .ok settings) ↔
      Acceptable lookup := by
  constructor
  · rintro ⟨settings, found⟩
    obtain ⟨layout, treatment, threads, _⟩ := (ofEnvironment_eq_ok settings).mp found
    exact ⟨(Layout.exists_ofLookup lookup).mp ⟨_, layout⟩,
      (exists_treatmentOf lookup).mp ⟨_, treatment⟩, (exists_threadsOf lookup).mp ⟨_, threads⟩⟩
  · rintro ⟨layoutMet, treatmentMet, threadsMet⟩
    obtain ⟨layout, layoutRead⟩ := (Layout.exists_ofLookup lookup).mpr layoutMet
    obtain ⟨treatment, treatmentRead⟩ := (exists_treatmentOf lookup).mpr treatmentMet
    obtain ⟨threads, threadsRead⟩ := (exists_threadsOf lookup).mpr threadsMet
    exact ⟨⟨frequencies, trace, output, layout, treatment, threads, lookup summaryVariable⟩,
      (ofEnvironment_eq_ok _).mpr ⟨layoutRead, treatmentRead, threadsRead, rfl, rfl, rfl, rfl⟩⟩

theorem violation_of_ofEnvironment {failure : SettingsFailure}
    (failed : ofEnvironment lookup frequencies trace output = .error failure) :
    (Layout.Acceptable lookup ∧ NamesTreatment lookup ∧ failure.violation? = none) ∨
      ¬ (Layout.Acceptable lookup ∧ NamesTreatment lookup) ∧
        ∃ violation, failure.violation? = some violation ∧ violation.contract = .config := by
  simp only [ofEnvironment, bind_eq_error, mapError_eq_error, mapError_eq_ok] at failed
  rcases failed with
    ⟨violation, refused, rfl⟩ |
      ⟨layout, layoutRead, ⟨violation, refused, rfl⟩ |
        ⟨treatment, treatmentRead, refused | ⟨threads, threadsRead, same⟩⟩⟩
  · refine Or.inr ⟨?_, violation, rfl, Layout.contract_of_ofLookup refused⟩
    rintro ⟨met, _⟩
    obtain ⟨layout, read⟩ := (Layout.exists_ofLookup lookup).mpr met
    simp [read] at refused
  · refine Or.inr ⟨?_, violation, rfl, contract_of_treatmentOf refused⟩
    rintro ⟨_, met⟩
    obtain ⟨treatment, read⟩ := (exists_treatmentOf lookup).mpr met
    simp [read] at refused
  · exact Or.inl ⟨(Layout.exists_ofLookup lookup).mp ⟨layout, layoutRead⟩,
      (exists_treatmentOf lookup).mp ⟨treatment, treatmentRead⟩, violation?_of_threadsOf refused⟩
  · simp [pure, Except.pure] at same

/-- An environment has settings exactly when each variable that is set holds a value of its range.
If it has none, the failure is a violation of the rules of the configuration, unless nothing but
the thread count is wrong. -/
theorem environment_accepted_iff (lookup : String → Option String)
    (frequencies trace output : String) :
    ((∃ settings, ofEnvironment lookup frequencies trace output = .ok settings) ↔
      Acceptable lookup) ∧
    ∀ failure, ofEnvironment lookup frequencies trace output = .error failure →
      (Layout.Acceptable lookup ∧ NamesTreatment lookup → failure.violation? = none) ∧
      (¬ (Layout.Acceptable lookup ∧ NamesTreatment lookup) →
        ∃ violation, failure.violation? = some violation ∧ violation.contract = .config) := by
  refine ⟨exists_ofEnvironment lookup frequencies trace output, ?_⟩
  intro failure failed
  rcases violation_of_ofEnvironment failed with ⟨layout, treatment, absent⟩ | ⟨wrong, violated⟩
  · exact ⟨fun _ => absent, fun wrong => absurd ⟨layout, treatment⟩ wrong⟩
  · exact ⟨fun met => absurd met wrong, fun _ => violated⟩

def blockedEnvironment (name : String) : Option String :=
  [("ROWCOST_TREATMENT", "blocked"), ("ROWCOST_THREADS", "many")].lookup name

theorem environment_accepted_iff_blocked :
    ∃ failure, ofEnvironment blockedEnvironment "f" "t" "o" = .error failure ∧
      ¬ NamesTreatment blockedEnvironment ∧
      ∃ violation, failure.violation? = some violation ∧ violation.contract = .config := by
  have wrong : ¬ NamesTreatment blockedEnvironment := by
    intro named
    exact absurd (named "blocked" rfl) (by decide)
  obtain ⟨accepted, refused⟩ := environment_accepted_iff blockedEnvironment "f" "t" "o"
  cases found : ofEnvironment blockedEnvironment "f" "t" "o" with
  | ok settings => exact absurd (accepted.mp ⟨settings, found⟩).treatment wrong
  | error failure =>
      exact ⟨failure, rfl, wrong, (refused failure found).2 fun met => wrong met.2⟩

def manyThreads (name : String) : Option String := [("ROWCOST_THREADS", "many")].lookup name

theorem threads_refused_without_violation :
    ∃ failure, ofEnvironment manyThreads "f" "t" "o" = .error failure ∧
      ¬ Acceptable manyThreads ∧ failure.violation? = none ∧
      failure.chain =
        ["ROWCOST_THREADS=\"many\" is not a thread count", "invalid digit found in string"] := by
  obtain ⟨layout, layoutRead⟩ := (Layout.exists_ofLookup manyThreads).mpr
    ⟨meets_of_unset rfl, meets_of_unset rfl, meets_of_unset rfl, meets_of_unset rfl⟩
  have treatmentRead : treatmentOf manyThreads = .ok .standard := rfl
  have unread : threadsOf manyThreads = .error (.threads "many" .digit) := rfl
  have failed : ofEnvironment manyThreads "f" "t" "o" = .error (.threads "many" .digit) := by
    rw [ofEnvironment, layoutRead, treatmentRead, unread]
    rfl
  refine ⟨_, failed, ?_, rfl, by decide +kernel⟩
  intro accepted
  obtain ⟨settings, found⟩ := (exists_ofEnvironment manyThreads "f" "t" "o").mpr accepted
  simp [found] at failed

end Settings

end RowScan
