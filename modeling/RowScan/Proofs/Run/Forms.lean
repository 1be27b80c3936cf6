import Mathlib
import RowScan.Proofs.Files.Outline
import RowScan.Proofs.Inputs.Forms
import RowScan.Proofs.Run.Join

/-!
The form of the text in its files makes no difference to a run. On trees whose files hold the same
up to the form, runs report the same and put the same files, unless one of them runs out of room.
-/

namespace RowScan

inductive SameNode : FileNode → FileNode → Prop where
  | directory : SameNode .directory .directory
  | file {first second : ByteArray} (same : SameText first second) :
      SameNode (.file first) (.file second)

theorem SameNode.emptied {first second : FileNode} (same : SameNode first second) :
    first.emptied = second.emptied := by
  cases same <;> rfl

inductive SameRead : Except IoFault ByteArray → Except IoFault ByteArray → Prop where
  | failed (fault : IoFault) : SameRead (.error fault) (.error fault)
  | read {first second : ByteArray} (same : SameText first second) :
      SameRead (.ok first) (.ok second)

def SameEntry (first second : Location × FileNode) : Prop :=
  first.1 = second.1 ∧ SameNode first.2 second.2

theorem emptied_of_sameEntry {nodes others : List (Location × FileNode)}
    (same : List.Forall₂ SameEntry nodes others) :
    nodes.map (fun entry => (entry.1, entry.2.emptied)) =
      others.map fun entry => (entry.1, entry.2.emptied) := by
  induction same with
  | nil => rfl
  | cons first _ ih => rw [List.map_cons, List.map_cons, ih, first.1, first.2.emptied]

theorem lookup_of_sameEntry {nodes others : List (Location × FileNode)}
    (same : List.Forall₂ SameEntry nodes others) (location : Location) :
    Option.Rel SameNode (nodes.lookup location) (others.lookup location) := by
  induction same with
  | nil => exact .none
  | cons first _ ih =>
      rw [List.lookup_cons, List.lookup_cons, first.1]
      split
      · exact .some first.2
      · exact ih

namespace FileTree

/-- Trees with the same entries up to the form of the texts in their files. -/
structure SameForms (tree other : FileTree) : Prop where
  home : tree.home = other.home
  nodes : List.Forall₂ SameEntry tree.nodes other.nodes

theorem SameForms.outline {tree other : FileTree} (same : tree.SameForms other) :
    tree.outline = other.outline := by
  rw [FileTree.outline, FileTree.outline, emptied_of_sameEntry same.nodes, same.home]

theorem SameForms.node? {tree other : FileTree} (same : tree.SameForms other)
    (location : Location) :
    Option.Rel SameNode (tree.node? location) (other.node? location) := by
  unfold FileTree.node?
  split
  · exact .some .directory
  · exact lookup_of_sameEntry same.nodes location

theorem SameForms.read {tree other : FileTree} (same : tree.SameForms other) (path : String) :
    SameRead (tree.read path) (other.read path) := by
  have found : tree.find path = other.find path := by
    rw [← find_outline, same.outline, find_outline]
  unfold FileTree.read
  rw [found]
  cases other.find path with
  | error fault => exact .failed fault
  | ok location =>
      have nodes := same.node? location
      simp only [bind, Except.bind]
      rcases first : tree.node? location with _ | node <;>
        rcases second : other.node? location with _ | otherNode <;>
        rw [first, second] at nodes
      · exact .failed _
      · cases nodes
      · cases nodes
      · cases nodes with
        | some alike =>
            cases alike with
            | directory => exact .failed _
            | file alike => exact .read alike

theorem putAll_append (tree : FileTree) (puts : List (Location × ByteArray))
    (location : Location) (content : ByteArray) :
    tree.putAll (puts ++ [(location, content)]) =
      (tree.put location (.file content)).putAll puts := by
  rw [putAll, List.foldr_append]
  rfl

end FileTree

def RunFailure.OutOfRoom : RunFailure → Prop
  | .output _ fault => fault = .fill (.io (.system .noSpace))
  | .summary _ fault => fault = .system .noSpace
  | _ => False

namespace Settings

theorem decode_congr {read other : Except IoFault ByteArray}
    {load : ByteArray → List Event × Except Violation α} (same : SameRead read other)
    (loaded : ∀ first second, SameText first second → load first = load second) :
    decode read load = decode other load := by
  cases same with
  | failed fault => rfl
  | read same => exact loaded _ _ same

theorem estimates_congr (settings : Settings) {inputs others : Inputs}
    (frequencies : SameRead inputs.frequencies others.frequencies)
    (trace : SameRead inputs.trace others.trace) :
    settings.estimates inputs = settings.estimates others := by
  have loaded := decode_congr frequencies fun first second same =>
    (same.load settings.frequencies).1
  have traced := decode_congr trace fun first second same => (same.load settings.trace).2
  simp only [estimates, estimateTrace, loaded, traced]

/-- Two reports, each with the tree behind it, that are the same with the same files put into either
tree, unless a file did not fit. -/
def SameEnd (tree other : FileTree) (first second : RunReport × FileTree) : Prop :=
  (∃ failure : RunFailure, failure.OutOfRoom ∧
      (first.1.result = .error failure ∨ second.1.result = .error failure)) ∨
    first.1 = second.1 ∧
      ∃ puts, first.2 = tree.putAll puts ∧ second.2 = other.putAll puts

theorem SameEnd.put {tree other : FileTree} {first second : RunReport × FileTree}
    (location : Location) (content : ByteArray)
    (same : SameEnd (tree.put location (.file content)) (other.put location (.file content)) first
      second) : SameEnd tree other first second := by
  refine same.imp_right fun ⟨report, puts, firstTree, secondTree⟩ =>
    ⟨report, puts ++ [(location, content)], ?_, ?_⟩
  · rw [firstTree, FileTree.putAll_append]
  · rw [secondTree, FileTree.putAll_append]

theorem writeSummary_sameEnd (settings : Settings) (events : List Event)
    (comparisons : List (Comparison Float)) {tree other : FileTree}
    (same : tree.outline = other.outline) :
    SameEnd tree other
      ((settings.writeSummary events (Summary.ofComparisons comparisons) :
        StateM FileTree RunReport).run tree)
      ((settings.writeSummary events (Summary.ofComparisons comparisons) :
        StateM FileTree RunReport).run other) := by
  rw [writeSummary_eq, writeSummary_eq]
  cases settings.summaryFile with
  | none => exact Or.inr ⟨rfl, [], rfl, rfl⟩
  | some path =>
      simp only
      rcases tree.write_eq path (summaryBytes comparisons) with full | written
      · rcases found : tree.write path (summaryBytes comparisons) with ⟨outcome, after⟩
        obtain rfl : outcome = .error (.system .noSpace) := by rw [← full, found]
        exact Or.inl ⟨.summary path (.system .noSpace), rfl, Or.inl rfl⟩
      · rcases other.write_eq path (summaryBytes comparisons) with full | otherWritten
        · rcases found : other.write path (summaryBytes comparisons) with ⟨outcome, after⟩
          obtain rfl : outcome = .error (.system .noSpace) := by rw [← full, found]
          exact Or.inl ⟨.summary path (.system .noSpace), rfl, Or.inr rfl⟩
        · right
          rw [written, otherWritten, FileTree.creation_congr same]
          cases other.creation path with
          | error fault => exact ⟨rfl, [], rfl, rfl⟩
          | ok location => exact ⟨rfl, [(location, summaryBytes comparisons)], rfl, rfl⟩

theorem commit_sameEnd (settings : Settings) (events : List Event)
    (comparisons : List (Comparison Float)) {tree other : FileTree}
    (same : tree.outline = other.outline) :
    SameEnd tree other
      ((settings.commit events comparisons : StateM FileTree RunReport).run tree)
      ((settings.commit events comparisons : StateM FileTree RunReport).run other) := by
  rw [commit_eq, commit_eq]
  rcases tree.replace_eq settings.output (tableBytes comparisons) with full | replaced
  · rcases found : tree.replace settings.output (tableBytes comparisons) with ⟨outcome, after⟩
    obtain rfl : outcome = .error (.fill (.io (.system .noSpace))) := by rw [← full, found]
    exact Or.inl ⟨.output settings.output (.fill (.io (.system .noSpace))), rfl, Or.inl rfl⟩
  · rcases other.replace_eq settings.output (tableBytes comparisons) with full | otherReplaced
    · rcases found : other.replace settings.output (tableBytes comparisons) with ⟨outcome, after⟩
      obtain rfl : outcome = .error (.fill (.io (.system .noSpace))) := by rw [← full, found]
      exact Or.inl ⟨.output settings.output (.fill (.io (.system .noSpace))), rfl, Or.inr rfl⟩
    · rw [replaced, otherReplaced, FileTree.replaced_congr same]
      cases other.replaced settings.output (tableBytes comparisons) with
      | error fault => exact Or.inr ⟨rfl, [], rfl, rfl⟩
      | ok target =>
          apply SameEnd.put target (tableBytes comparisons)
          apply writeSummary_sameEnd
          rw [FileTree.outline_put, FileTree.outline_put, same]

theorem estimates_of_sameForms (settings : Settings) {tree other : FileTree}
    (same : tree.SameForms other) :
    settings.estimates (settings.inputs tree) = settings.estimates (settings.inputs other) :=
  settings.estimates_congr (same.read settings.frequencies) (same.read settings.trace)

theorem runOn_sameEnd (settings : Settings) {tree other : FileTree}
    (same : tree.SameForms other) :
    SameEnd tree other (settings.runOn tree) (settings.runOn other) := by
  rw [runOn_eq, runOn_eq, settings.estimates_of_sameForms same]
  rcases settings.estimates (settings.inputs other) with ⟨events, failure | comparisons⟩
  · exact Or.inr ⟨rfl, [], rfl, rfl⟩
  · exact settings.commit_sameEnd events comparisons same.outline

/-- The ends of lines, a byte order mark in front and the LF of the last line make no difference in
any combination. A text loads in each of its forms as it does without the changes, with the same
reports, the same values and lines or the same failure; runs over files in different forms estimate
the same, and end the same unless a file does not fit. -/
theorem forms_make_no_difference :
    (∀ (text : String) (changes : List Respelling), IsPlain text → changes.Nodup → ∀ input,
      Frequencies.load input (respelled changes text).toUTF8 =
          Frequencies.load input text.toUTF8 ∧
        Trace.load input (respelled changes text).toUTF8 = Trace.load input text.toUTF8) ∧
    ∀ (settings : Settings) (tree other : FileTree), tree.SameForms other →
      settings.estimates (settings.inputs tree) = settings.estimates (settings.inputs other) ∧
        SameEnd tree other (settings.runOn tree) (settings.runOn other) := by
  refine ⟨fun text changes plain once input => load_respelled plain once input, ?_⟩
  intro settings tree other same
  exact ⟨settings.estimates_of_sameForms same, settings.runOn_sameEnd same⟩

def quotedListing : String :=
  "hash,gramSize,streamId,frequency,text\n1,1,0,0.5,\"cat\nfish\""

def quotedTerms : String :=
  "query,rows,matches,quadwords,cachelines,parse,plan,match\n\"cat\nfish\",100,1,2,3,a,b,\"c\n\"\n"

def allChanges : List Respelling := [.mark, .ending, .returns]

def respelledFiles : FileTree :=
  twoFiles (respelled allChanges quotedListing).toUTF8 (respelled [.mark] quotedTerms).toUTF8

def plainFiles : FileTree :=
  twoFiles (respelled [] quotedListing).toUTF8 (respelled [] quotedTerms).toUTF8

theorem forms_make_no_difference_quoted :
    IsPlain quotedListing ∧ IsPlain quotedTerms ∧ allChanges.Nodup ∧
      respelled allChanges quotedListing =
        "\ufeffhash,gramSize,streamId,frequency,text\r\n1,1,0,0.5,\"cat\r\nfish\"\r\n" ∧
      Frequencies.load "f" (respelled allChanges quotedListing).toUTF8 =
        Frequencies.load "f" quotedListing.toUTF8 ∧
      respelledFiles.SameForms plainFiles ∧
      ((overTwoFiles "s").runOn respelledFiles).1 = ((overTwoFiles "s").runOn plainFiles).1 ∧
      ∃ summary, ((overTwoFiles "s").runOn plainFiles).1.result = .ok summary := by
  have listing : IsPlain quotedListing := ⟨by decide, by decide⟩
  have terms : IsPlain quotedTerms := ⟨by decide, by decide⟩
  have once : allChanges.Nodup := by decide
  have same : respelledFiles.SameForms plainFiles :=
    ⟨rfl, .cons ⟨rfl, .file (.forms listing once (by decide))⟩
      (.cons ⟨rfl, .file (.forms terms (by decide) (by decide))⟩ .nil)⟩
  obtain ⟨loads, runs⟩ := forms_make_no_difference
  obtain ⟨estimated, ends⟩ := runs (overTwoFiles "s") respelledFiles plainFiles same
  have succeeds : ((overTwoFiles "s").estimates ⟨.ok (respelled allChanges quotedListing).toUTF8,
      .ok (respelled [.mark] quotedTerms).toUTF8⟩).2.toOption.isSome = true := by decide +kernel
  obtain ⟨comparisons, found⟩ := Option.isSome_iff_exists.mp succeeds
  rw [toOption_eq_some] at found
  have foundPlain := congrArg Prod.snd estimated
  rw [respelledFiles, plainFiles, inputs_overTwoFiles, inputs_overTwoFiles, found] at foundPlain
  have first : ((overTwoFiles "s").runOn respelledFiles).1.result =
      .ok (Summary.ofComparisons comparisons) := by
    rw [respelledFiles]
    exact runOn_twoFiles _ _ comparisons found
  have second : ((overTwoFiles "s").runOn plainFiles).1.result =
      .ok (Summary.ofComparisons comparisons) := by
    rw [plainFiles]
    exact runOn_twoFiles _ _ comparisons foundPlain.symm
  refine ⟨listing, terms, once, by decide +kernel, (loads _ _ listing once "f").1, same, ?_,
    Summary.ofComparisons comparisons, second⟩
  rcases ends with ⟨failure, _, failed | failed⟩ | ⟨report, _⟩
  · rw [first] at failed
    simp at failed
  · rw [second] at failed
    simp at failed
  · exact report

end Settings

end RowScan
