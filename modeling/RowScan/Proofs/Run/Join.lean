import Mathlib
import RowScan.Proofs.Estimator
import RowScan.Proofs.Frequencies
import RowScan.Proofs.Run.Effects
import RowScan.Proofs.Trace

/-!
What a run that succeeds has computed: the join of the trace with the frequencies, row by row, with
nothing else in the tree changed.
-/

namespace RowScan

/-- A path names the place it finds, and the place where a file is created by it. -/
def FileTree.Names (tree : FileTree) (path : String) (location : Location) : Prop :=
  tree.find path = .ok location ∨ tree.creation path = .ok location

theorem FileTree.Leads.names {tree : FileTree} {path : String} {location : Location}
    (leads : tree.Leads path location) : tree.Names path location :=
  Or.inr ((tree.creation_eq_ok path location).mpr leads)

theorem FileTree.enter_ordinary (tree : FileTree) (location next : Location) (name : String)
    (ordinary : Path.isSpecial name = false) (entered : tree.enter location name = .ok next) :
    next = location ++ [name] := by
  simp only [Path.isSpecial, decide_eq_false_iff_not, not_or] at ordinary
  unfold enter at entered
  grind

theorem FileTree.Names.unique {tree : FileTree} {path : String} {location other : Location}
    (named : tree.Names path other) (leads : tree.Leads path location) : other = location := by
  obtain ⟨parent, walked, _, rfl⟩ := leads.approached
  rcases named with found | created
  · obtain ⟨_, whole⟩ := (tree.find_eq_ok path other).mp found
    rw [pieces_of_bare path leads.bare] at whole
    simp only [walk, mapError_eq_ok, List.foldlM_append, bind_eq_ok] at walked whole
    obtain ⟨reached, before, last⟩ := whole
    obtain rfl : reached = parent := by simpa [before] using walked
    rw [List.foldlM_cons, bind_eq_ok] at last
    obtain ⟨next, entered, done⟩ := last
    obtain rfl : next = other := by simpa [pure, Except.pure] using done
    exact tree.enter_ordinary reached next _ leads.ordinary entered
  · obtain ⟨otherParent, otherWalked, _, rfl⟩ :=
      ((tree.creation_eq_ok path other).mp created).approached
    obtain rfl : otherParent = parent := by simpa [otherWalked] using walked
    rfl

namespace Settings

/-- The four paths of a run, or three without a summary, name different places. -/
def NamesDistinctFiles (settings : Settings) (tree : FileTree) : Prop :=
  List.Pairwise
    (fun first second => ∀ location, tree.Names first location → ¬ tree.Names second location)
    (settings.output :: settings.frequencies :: settings.trace :: settings.summaryFile.toList)

theorem NamesDistinctFiles.input {settings : Settings} {tree : FileTree}
    (distinct : settings.NamesDistinctFiles tree) {path written : String} {location : Location}
    (read : path = settings.frequencies ∨ path = settings.trace)
    (listed : written ∈ settings.output :: settings.summaryFile.toList)
    (named : tree.Names path location) : ¬ tree.Names written location := by
  intro taken
  simp only [NamesDistinctFiles, List.pairwise_cons, List.mem_cons] at distinct listed
  obtain ⟨fromOutput, fromFrequencies, fromTrace, _⟩ := distinct
  rcases listed with rfl | later
  · rcases read with rfl | rfl
    · exact fromOutput _ (Or.inl rfl) location taken named
    · exact fromOutput _ (Or.inr (Or.inl rfl)) location taken named
  · rcases read with rfl | rfl
    · exact fromFrequencies _ (Or.inr later) location named taken
    · exact fromTrace _ later location named taken

def SummaryApart (settings : Settings) (tree : FileTree) : Prop :=
  ∀ path, settings.summaryFile = some path →
    ∀ location, tree.Names settings.output location → ¬ tree.Names path location

theorem NamesDistinctFiles.summaryApart {settings : Settings} {tree : FileTree}
    (distinct : settings.NamesDistinctFiles tree) : settings.SummaryApart tree := by
  intro path wanted
  simp only [NamesDistinctFiles, List.pairwise_cons, wanted] at distinct
  exact distinct.1 path (by simp)

theorem decode_eq_ok {α : Type} (read : Except IoFault ByteArray)
    (load : ByteArray → List Event × Except Violation α) (value : α)
    (decoded : (decode read load).2 = .ok value) :
    ∃ bytes, read = .ok bytes ∧ (load bytes).2 = .ok value := by
  cases read with
  | error fault => simp [decode] at decoded
  | ok bytes => exact ⟨bytes, rfl, decoded⟩

theorem estimateRecords_eq_ok (settings : Settings) (frequencies : Frequencies Float)
    (records : List TermRecord) (comparisons : List (Comparison Float))
    (estimated : (settings.estimateRecords frequencies records).2 = .ok comparisons) :
    (settings.estimator frequencies).run true records = .ok comparisons := by
  unfold estimateRecords at estimated
  cases ran : (settings.estimator frequencies).run true records with
  | error violation => simp [ran] at estimated
  | ok found => simpa [ran] using estimated

theorem estimateTrace_eq_ok (settings : Settings) (frequencies : Frequencies Float)
    (trace : Except IoFault ByteArray) (comparisons : List (Comparison Float))
    (estimated : (settings.estimateTrace frequencies trace).2 = .ok comparisons) :
    ∃ bytes records, trace = .ok bytes ∧ (Trace.load settings.trace bytes).2 = .ok records ∧
      (settings.estimator frequencies).run true records = .ok comparisons := by
  unfold estimateTrace at estimated
  rcases decoded : decode trace (Trace.load settings.trace) with ⟨events, violation | records⟩
  · simp [decoded] at estimated
  · simp only [decoded] at estimated
    obtain ⟨bytes, read, loaded⟩ := decode_eq_ok trace _ records (by rw [decoded])
    exact ⟨bytes, records, read, loaded,
      settings.estimateRecords_eq_ok frequencies records comparisons estimated⟩

theorem estimates_eq_ok (settings : Settings) (inputs : Inputs)
    (comparisons : List (Comparison Float))
    (estimated : (settings.estimates inputs).2 = .ok comparisons) :
    ∃ frequencyBytes traceBytes frequencies records,
      inputs.frequencies = .ok frequencyBytes ∧ inputs.trace = .ok traceBytes ∧
      (Frequencies.load settings.frequencies frequencyBytes).2 = .ok frequencies ∧
      (Trace.load settings.trace traceBytes).2 = .ok records ∧
      (settings.estimator frequencies).run true records = .ok comparisons := by
  unfold estimates at estimated
  cases validated : settings.layout.validate with
  | error violation => simp [validated] at estimated
  | ok _ =>
      simp only [validated] at estimated
      rcases decoded : decode inputs.frequencies (Frequencies.load settings.frequencies) with
        ⟨events, violation | frequencies⟩
      · simp [decoded] at estimated
      · simp only [decoded] at estimated
        obtain ⟨frequencyBytes, read, loaded⟩ :=
          decode_eq_ok inputs.frequencies _ frequencies (by rw [decoded])
        obtain ⟨traceBytes, records, readTrace, loadedTrace, ran⟩ :=
          settings.estimateTrace_eq_ok frequencies inputs.trace comparisons estimated
        exact ⟨frequencyBytes, traceBytes, frequencies, records, read, readTrace, loaded,
          loadedTrace, ran⟩

theorem Ends.of_success {settings : Settings} {tree : FileTree} {summary : Summary Float}
    {puts : List (Location × ByteArray)} (ends : settings.Ends tree (.ok summary) puts) :
    ∃ comparisons target,
      (settings.estimates (settings.inputs tree)).2 = .ok comparisons ∧
      summary = Summary.ofComparisons comparisons ∧ tree.Leads settings.output target ∧
      (settings.summaryFile = none ∧ puts = [(target, tableBytes comparisons)] ∨
        ∃ path location, settings.summaryFile = some path ∧ tree.Leads path location ∧
          puts = [(location, summaryBytes comparisons), (target, tableBytes comparisons)]) := by
  cases ends with
  | @table comparisons target estimated placed unwanted =>
      exact ⟨comparisons, target, estimated, rfl, placed, Or.inl ⟨unwanted, rfl⟩⟩
  | @complete comparisons target location path estimated placed wanted created =>
      have same := tree.sameDirectories_put target (tableBytes comparisons) placed.named placed.free
      exact ⟨comparisons, target, estimated, rfl, placed,
        Or.inr ⟨path, location, wanted, created.transfer same.symm, rfl⟩⟩

theorem Ends.led {settings : Settings} {tree : FileTree} {summary : Summary Float}
    {puts : List (Location × ByteArray)} (ends : settings.Ends tree (.ok summary) puts) :
    ∀ entry ∈ puts, ∃ path ∈ settings.output :: settings.summaryFile.toList,
      tree.Leads path entry.1 := by
  obtain ⟨comparisons, target, _, _, placed, ⟨_, rfl⟩ | ⟨path, location, wanted, created, rfl⟩⟩ :=
    ends.of_success
  · simpa using Or.inl placed
  · intro entry member
    rcases List.mem_cons.mp member with rfl | member
    · exact ⟨path, by simp [wanted], created⟩
    · obtain rfl := List.mem_singleton.mp member
      exact ⟨settings.output, List.mem_cons_self, placed⟩

theorem Ends.sameDirectories {settings : Settings} {tree : FileTree} {summary : Summary Float}
    {puts : List (Location × ByteArray)} (ends : settings.Ends tree (.ok summary) puts) :
    tree.SameDirectories (tree.putAll puts) := by
  apply tree.sameDirectories_putAll puts ends.named
  intro entry member
  obtain ⟨path, _, leads⟩ := ends.led entry member
  exact leads.free

theorem Ends.elsewhere {settings : Settings} {tree : FileTree} {summary : Summary Float}
    {puts : List (Location × ByteArray)} (ends : settings.Ends tree (.ok summary) puts)
    (location : Location) (unnamed : ∀ path ∈ settings.output :: settings.summaryFile.toList,
      ¬ tree.Names path location) : (tree.putAll puts).node? location = tree.node? location := by
  apply tree.node?_putAll_of_elsewhere puts location ends.named
  rintro entry member rfl
  obtain ⟨path, listed, leads⟩ := ends.led entry member
  exact unnamed path listed leads.names

theorem Ends.read_apart {settings : Settings} {tree : FileTree} {summary : Summary Float}
    {puts : List (Location × ByteArray)} (ends : settings.Ends tree (.ok summary) puts)
    (apart : settings.SummaryApart tree) :
    ∃ comparisons, (settings.estimates (settings.inputs tree)).2 = .ok comparisons ∧
      summary = Summary.ofComparisons comparisons ∧
      (tree.putAll puts).read settings.output = .ok (tableBytes comparisons) ∧
      ∀ path, settings.summaryFile = some path →
        (tree.putAll puts).read path = .ok (summaryBytes comparisons) := by
  obtain ⟨comparisons, target, estimated, same, placed, ⟨unwanted, rfl⟩ |
    ⟨path, location, wanted, created, rfl⟩⟩ := ends.of_success
  · refine ⟨comparisons, estimated, same, ?_, by simp [unwanted]⟩
    apply (placed.transfer ends.sameDirectories).read
    simp [tree.node?_putAll _ target ends.named]
  · refine ⟨comparisons, estimated, same, ?_, ?_⟩
    · -- The summary is put last and would hide a table in the same place.
      have different : target ≠ location := by
        rintro rfl
        exact apart path wanted target placed.names created.names
      have passed : (target == location) = false := by simp [different]
      apply (placed.transfer ends.sameDirectories).read
      simp [tree.node?_putAll _ target ends.named, List.lookup_cons, passed]
    · intro other chosen
      obtain rfl : path = other := by simpa [wanted] using chosen
      apply (created.transfer ends.sameDirectories).read
      simp [tree.node?_putAll _ location ends.named]

theorem place_twoFiles {frequencies trace : ByteArray} {name : String} {location : Location}
    (listed : name ∈ ["o", "f", "t", "s"])
    (named : (twoFiles frequencies trace).Names name location) : location = [name] := by
  have creates : (twoFiles frequencies trace).creation name = .ok [name] := by
    simp only [List.mem_cons, List.not_mem_nil, or_false] at listed
    rcases listed with rfl | rfl | rfl | rfl <;> cbv
  exact named.unique ((FileTree.creation_eq_ok _ name _).mp creates)

theorem namesDistinctFiles_twoFiles (frequencies trace : ByteArray) :
    (overTwoFiles "s").NamesDistinctFiles (twoFiles frequencies trace) := by
  have names : List.Pairwise (· ≠ ·) ["o", "f", "t", "s"] := by decide
  refine List.Pairwise.imp_of_mem ?_ names
  intro first second listed listedToo different location named namedToo
  have same := (place_twoFiles listed named).symm.trans (place_twoFiles listedToo namedToo)
  exact different (List.singleton_inj.mp same)

theorem runOn_twoFiles (frequencies trace : ByteArray) (comparisons : List (Comparison Float))
    (estimated : ((overTwoFiles "s").estimates ⟨.ok frequencies, .ok trace⟩).2 =
      .ok comparisons) :
    ((overTwoFiles "s").runOn (twoFiles frequencies trace)).1.result =
      .ok (Summary.ofComparisons comparisons) := by
  have written (table summary : ByteArray) :
      ((twoFiles frequencies trace).put ["o"] (.file table)).write "s" summary =
        (.ok (), ((twoFiles frequencies trace).put ["o"] (.file table)).put ["s"]
          (.file summary)) := by
    cbv
  exact (runOn_of_written (overTwoFiles "s") _ _ _ comparisons "s" (.ok ())
    (by rw [inputs_overTwoFiles, estimated])
    (replace_twoFiles frequencies trace (tableBytes comparisons)) rfl
    (written (tableBytes comparisons) (summaryBytes comparisons))).1

def dogFrequencies : ByteArray :=
  "hash,gramSize,streamId,frequency,text\n1,1,0,0.5,dog\n2,1,0,0.25,dog\n".toUTF8

end Settings

end RowScan
