import Mathlib
import RowScan.Proofs.Files.Tree
import RowScan.Run

/-!
Every way a run on a tree of files can end, and what it has put into the tree by then. The inputs
are read and estimated before anything is put; the table comes next and the summary last.
-/

namespace RowScan

namespace FileTree

/-- Puts files into a tree, the last of the list first. -/
def putAll (tree : FileTree) (puts : List (Location × ByteArray)) : FileTree :=
  puts.foldr (fun entry tree => tree.put entry.1 (.file entry.2)) tree

theorem node?_putAll (tree : FileTree) (puts : List (Location × ByteArray)) (location : Location)
    (named : ∀ entry ∈ puts, entry.1 ≠ []) :
    (tree.putAll puts).node? location =
      match puts.lookup location with
      | some content => some (.file content)
      | none => tree.node? location := by
  induction puts with
  | nil => rfl
  | cons entry rest ih =>
      rcases entry with ⟨place, content⟩
      have later := ih fun other member => named other (List.mem_cons_of_mem _ member)
      have split : tree.putAll ((place, content) :: rest) =
          (tree.putAll rest).put place (.file content) := rfl
      rw [split]
      by_cases same : location = place
      · subst same
        rw [node?_put_self _ _ _ (named _ List.mem_cons_self), List.lookup_cons_self]
      · have passed : (location == place) = false := by simp [same]
        simp only [node?_put _ _ _ _ same, later, List.lookup_cons, passed]

theorem node?_putAll_of_elsewhere (tree : FileTree) (puts : List (Location × ByteArray))
    (location : Location) (named : ∀ entry ∈ puts, entry.1 ≠ [])
    (elsewhere : ∀ entry ∈ puts, entry.1 ≠ location) :
    (tree.putAll puts).node? location = tree.node? location := by
  have missing : puts.lookup location = none := by
    rw [List.lookup_eq_none_iff]
    intro entry member
    simpa using (elsewhere entry member).symm
  rw [node?_putAll tree puts location named, missing]

theorem putAll_unchanged_iff (tree : FileTree) (puts : List (Location × ByteArray))
    (named : ∀ entry ∈ puts, entry.1 ≠ []) :
    (∀ location, (tree.putAll puts).node? location = tree.node? location) ↔
      ∀ location content, puts.lookup location = some content →
        tree.node? location = some (.file content) := by
  constructor
  · intro unchanged location content found
    rw [← unchanged location, node?_putAll tree puts location named, found]
  · intro held location
    rw [node?_putAll tree puts location named]
    cases found : puts.lookup location with
    | none => rfl
    | some content => exact (held location content found).symm

theorem sameDirectories_putAll (tree : FileTree) (puts : List (Location × ByteArray))
    (named : ∀ entry ∈ puts, entry.1 ≠ [])
    (free : ∀ entry ∈ puts, tree.node? entry.1 ≠ some .directory) :
    tree.SameDirectories (tree.putAll puts) := by
  induction puts with
  | nil => exact ⟨rfl, fun _ => Iff.rfl⟩
  | cons entry rest ih =>
      have same := ih (fun other member => named other (List.mem_cons_of_mem _ member))
        fun other member => free other (List.mem_cons_of_mem _ member)
      have unblocked : (tree.putAll rest).node? entry.1 ≠ some .directory :=
        fun taken => free entry List.mem_cons_self ((same.directory entry.1).mp taken)
      exact same.trans
        ((tree.putAll rest).sameDirectories_put _ _ (named entry List.mem_cons_self) unblocked)

end FileTree

namespace Settings

def runOn (settings : Settings) (tree : FileTree) : RunReport × FileTree :=
  (settings.run : StateM FileTree RunReport).run tree

def inputs (settings : Settings) (tree : FileTree) : Inputs where
  frequencies := tree.read settings.frequencies
  trace := tree.read settings.trace

def tableBytes (comparisons : List (Comparison Float)) : ByteArray :=
  (Comparison.tableText comparisons).toUTF8

def summaryBytes (comparisons : List (Comparison Float)) : ByteArray :=
  (Summary.ofComparisons comparisons).fileText.toUTF8

/-- How a run can end, with what it has put into the tree by then, the last first. -/
inductive Ends (settings : Settings) (tree : FileTree) :
    Except RunFailure (Summary Float) → List (Location × ByteArray) → Prop where
  | refused {failure : RunFailure}
      (estimated : (settings.estimates (settings.inputs tree)).2 = .error failure)
      (early : ∀ path fault, failure ≠ .summary path fault) :
      Ends settings tree (.error failure) []
  | unplaced {comparisons : List (Comparison Float)} {fault : ReplaceFault}
      (estimated : (settings.estimates (settings.inputs tree)).2 = .ok comparisons)
      (failed : (tree.replace settings.output (tableBytes comparisons)).1 = .error fault) :
      Ends settings tree (.error (.output settings.output fault)) []
  | table {comparisons : List (Comparison Float)} {target : Location}
      (estimated : (settings.estimates (settings.inputs tree)).2 = .ok comparisons)
      (placed : tree.Leads settings.output target)
      (unwanted : settings.summaryFile = none) :
      Ends settings tree (.ok (Summary.ofComparisons comparisons))
        [(target, tableBytes comparisons)]
  | uncreated {comparisons : List (Comparison Float)} {target : Location} {path : String}
      {fault : IoFault}
      (estimated : (settings.estimates (settings.inputs tree)).2 = .ok comparisons)
      (placed : tree.Leads settings.output target)
      (wanted : settings.summaryFile = some path)
      (failed : (tree.put target (.file (tableBytes comparisons))).creation path = .error fault) :
      Ends settings tree (.error (.summary path fault)) [(target, tableBytes comparisons)]
  | cut {comparisons : List (Comparison Float)} {target location : Location} {path : String}
      {room : Nat}
      (estimated : (settings.estimates (settings.inputs tree)).2 = .ok comparisons)
      (placed : tree.Leads settings.output target)
      (wanted : settings.summaryFile = some path)
      (created : (tree.put target (.file (tableBytes comparisons))).Leads path location)
      (limit : (tree.put target (.file (tableBytes comparisons))).room? location = some room)
      (scarce : room < (summaryBytes comparisons).size) :
      Ends settings tree (.error (.summary path (.system .noSpace)))
        [(location, (summaryBytes comparisons).extract 0 room), (target, tableBytes comparisons)]
  | complete {comparisons : List (Comparison Float)} {target location : Location} {path : String}
      (estimated : (settings.estimates (settings.inputs tree)).2 = .ok comparisons)
      (placed : tree.Leads settings.output target)
      (wanted : settings.summaryFile = some path)
      (created : (tree.put target (.file (tableBytes comparisons))).Leads path location) :
      Ends settings tree (.ok (Summary.ofComparisons comparisons))
        [(location, summaryBytes comparisons), (target, tableBytes comparisons)]

theorem Ends.named {settings : Settings} {tree : FileTree}
    {result : Except RunFailure (Summary Float)} {puts : List (Location × ByteArray)}
    (ends : settings.Ends tree result puts) : ∀ entry ∈ puts, entry.1 ≠ [] := by
  cases ends with
  | refused _ _ => simp
  | unplaced _ _ => simp
  | table _ placed _ => simpa using placed.named
  | uncreated _ placed _ _ => simpa using placed.named
  | cut _ placed _ created _ _ => simpa using ⟨created.named, placed.named⟩
  | complete _ placed _ created => simpa using ⟨created.named, placed.named⟩

theorem estimateTrace_early (settings : Settings) (frequencies : Frequencies Float)
    (trace : Except IoFault ByteArray) (failure : RunFailure)
    (failed : (settings.estimateTrace frequencies trace).2 = .error failure) :
    ∀ path fault, failure ≠ .summary path fault := by
  unfold estimateTrace estimateRecords at failed
  grind

theorem estimates_early (settings : Settings) (inputs : Inputs) (failure : RunFailure)
    (failed : (settings.estimates inputs).2 = .error failure) :
    ∀ path fault, failure ≠ .summary path fault := by
  unfold estimates at failed
  split at failed
  · grind
  · split at failed
    · grind
    · exact settings.estimateTrace_early _ _ failure failed

theorem runOn_eq (settings : Settings) (tree : FileTree) :
    settings.runOn tree =
      match settings.estimates (settings.inputs tree) with
      | (events, .error failure) => (⟨events, .error failure⟩, tree)
      | (events, .ok comparisons) =>
        (settings.commit events comparisons : StateM FileTree RunReport).run tree := by
  have read : settings.runOn tree =
      StateT.run (match settings.estimates (settings.inputs tree) with
        | (events, .error failure) => pure ⟨events, .error failure⟩
        | (events, .ok comparisons) => settings.commit events comparisons :
          StateM FileTree RunReport) tree := rfl
  rw [read]
  split <;> rfl

theorem commit_eq (settings : Settings) (events : List Event)
    (comparisons : List (Comparison Float)) (tree : FileTree) :
    (settings.commit events comparisons : StateM FileTree RunReport).run tree =
      match tree.replace settings.output (tableBytes comparisons) with
      | (.error fault, after) => (⟨events, .error (.output settings.output fault)⟩, after)
      | (.ok (), after) =>
        (settings.writeSummary (events ++ [.wrote comparisons.length settings.output,
            .compared (Summary.ofComparisons comparisons).figures])
          (Summary.ofComparisons comparisons) : StateM FileTree RunReport).run after := by
  have replaced (next : Except ReplaceFault Unit → StateM FileTree RunReport) :
      StateT.run
          (Storage.replace settings.output (Comparison.tableText comparisons).toUTF8 >>= next)
          tree =
        (next (tree.replace settings.output (tableBytes comparisons)).1).run
          (tree.replace settings.output (tableBytes comparisons)).2 := rfl
  unfold commit
  simp only [replaced]
  rcases tree.replace settings.output (tableBytes comparisons) with ⟨fault | done, after⟩ <;> rfl

theorem writeSummary_eq (settings : Settings) (events : List Event)
    (comparisons : List (Comparison Float)) (tree : FileTree) :
    (settings.writeSummary events (Summary.ofComparisons comparisons) :
        StateM FileTree RunReport).run tree =
      match settings.summaryFile with
      | none => (⟨events, .ok (Summary.ofComparisons comparisons)⟩, tree)
      | some path =>
        match tree.write path (summaryBytes comparisons) with
        | (.error fault, after) => (⟨events, .error (.summary path fault)⟩, after)
        | (.ok (), after) =>
          (⟨events ++ [.wroteSummary path], .ok (Summary.ofComparisons comparisons)⟩, after) := by
  unfold writeSummary
  cases settings.summaryFile with
  | none => rfl
  | some path =>
      have written (next : Except IoFault Unit → StateM FileTree RunReport) :
          StateT.run
              (Storage.write path (Summary.ofComparisons comparisons).fileText.toUTF8 >>= next)
              tree =
            (next (tree.write path (summaryBytes comparisons)).1).run
              (tree.write path (summaryBytes comparisons)).2 := rfl
      simp only [written]
      rcases tree.write path (summaryBytes comparisons) with ⟨fault | done, after⟩ <;> rfl

theorem runOn_of_written (settings : Settings) (tree replaced after : FileTree)
    (comparisons : List (Comparison Float)) (path : String) (outcome : Except IoFault Unit)
    (estimated : (settings.estimates (settings.inputs tree)).2 = .ok comparisons)
    (placed : tree.replace settings.output (tableBytes comparisons) = (.ok (), replaced))
    (wanted : settings.summaryFile = some path)
    (written : replaced.write path (summaryBytes comparisons) = (outcome, after)) :
    (settings.runOn tree).1.result =
        (outcome.mapError (.summary path)).map (fun _ => Summary.ofComparisons comparisons) ∧
      (settings.runOn tree).2 = after := by
  rw [runOn_eq]
  rcases inputs : settings.estimates (settings.inputs tree) with ⟨events, result⟩
  obtain rfl : result = .ok comparisons := by rw [← estimated, inputs]
  simp only [commit_eq, placed, writeSummary_eq, wanted, written]
  cases outcome <;> exact ⟨rfl, rfl⟩

theorem runOn_ends (settings : Settings) (tree : FileTree) :
    ∃ puts, settings.Ends tree (settings.runOn tree).1.result puts ∧
      (settings.runOn tree).2 = tree.putAll puts := by
  rw [runOn_eq]
  rcases estimated : settings.estimates (settings.inputs tree) with ⟨events, failure | comparisons⟩
  · have failed : (settings.estimates (settings.inputs tree)).2 = .error failure := by
      rw [estimated]
    exact ⟨[], .refused failed (settings.estimates_early _ failure failed), rfl⟩
  · have succeeded : (settings.estimates (settings.inputs tree)).2 = .ok comparisons := by
      rw [estimated]
    simp only [commit_eq]
    rcases tree.replace_cases settings.output (tableBytes comparisons) with
      ⟨fault, replaced⟩ | ⟨target, placed, replaced⟩
    · rw [replaced]
      exact ⟨[], .unplaced succeeded (by rw [replaced]), rfl⟩
    · rw [replaced]
      simp only [writeSummary_eq]
      cases wanted : settings.summaryFile with
      | none => exact ⟨_, .table succeeded placed wanted, rfl⟩
      | some path =>
          simp only
          rcases (tree.put target (.file (tableBytes comparisons))).write_cases path
              (summaryBytes comparisons) with
            ⟨fault, failed, written⟩ | ⟨location, created, written | ⟨room, limit, scarce, written⟩⟩
          · rw [written]
            exact ⟨_, .uncreated succeeded placed wanted failed, rfl⟩
          · rw [written]
            exact ⟨_, .complete succeeded placed wanted created, rfl⟩
          · rw [written]
            exact ⟨_, .cut succeeded placed wanted created limit scarce, rfl⟩

def twoFiles (frequencies trace : ByteArray) : FileTree where
  nodes := [(["f"], .file frequencies), (["t"], .file trace)]
  home := []
  capacity := none

def overTwoFiles (summaryFile : String) : Settings where
  frequencies := "f"
  trace := "t"
  output := "o"
  layout := Layout.reference
  treatment := .standard
  threads := 0
  summaryFile := some summaryFile

theorem inputs_overTwoFiles (summaryFile : String) (frequencies trace : ByteArray) :
    (overTwoFiles summaryFile).inputs (twoFiles frequencies trace) =
      ⟨.ok frequencies, .ok trace⟩ := by
  have readFrequencies : (twoFiles frequencies trace).read "f" = .ok frequencies := by cbv
  have readTrace : (twoFiles frequencies trace).read "t" = .ok trace := by cbv
  exact congr (congrArg Inputs.mk readFrequencies) readTrace

theorem replace_twoFiles (frequencies trace content : ByteArray) :
    (twoFiles frequencies trace).replace "o" content =
      (.ok (), (twoFiles frequencies trace).put ["o"] (.file content)) := by
  cbv

end Settings

end RowScan
