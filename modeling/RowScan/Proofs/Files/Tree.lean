import Mathlib
import RowScan.Files.Tree
import RowScan.Proofs.Success

/-!
What the operations on a tree change and what they keep. `FileTree.replace_cases` and
`FileTree.write_cases` say everything that replacing and writing a file can do; a path leads to the
same place in all trees that have the same directories.
-/

namespace RowScan.FileTree

theorem lookup_filter_ne (nodes : List (Location × FileNode)) (location other : Location)
    (different : other ≠ location) :
    (nodes.filter fun entry => entry.1 ≠ location).lookup other = nodes.lookup other := by
  induction nodes with
  | nil => rfl
  | cons entry rest ih =>
      rcases entry with ⟨place, node⟩
      by_cases removed : place = location
      · have passed : (other == place) = false := by simp [removed, different]
        simp only [List.lookup_cons, passed]
        simpa [List.filter_cons, removed] using ih
      · have kept : decide (place ≠ location) = true := by simp [removed]
        simp only [List.filter_cons, kept, if_true, List.lookup_cons, ih]

theorem node?_erase (tree : FileTree) (location other : Location) (different : other ≠ location) :
    (tree.erase location).node? other = tree.node? other := by
  simp only [node?, erase, lookup_filter_ne _ _ _ different]

theorem node?_put_self (tree : FileTree) (location : Location) (node : FileNode)
    (named : location ≠ []) : (tree.put location node).node? location = some node := by
  simp [node?, put, named]

theorem node?_put (tree : FileTree) (location other : Location) (node : FileNode)
    (different : other ≠ location) :
    (tree.put location node).node? other = tree.node? other := by
  have passed : (other == location) = false := by simp [different]
  rw [← node?_erase tree location other different]
  simp only [node?, put, List.lookup_cons, passed]

theorem erase_put (tree : FileTree) (location : Location) (node : FileNode) :
    (tree.put location node).erase location = tree.erase location := by
  simp [put, erase, List.filter_filter]

theorem put_put (tree : FileTree) (location : Location) (first second : FileNode) :
    (tree.put location first).put location second = tree.put location second := by
  have erased := erase_put tree location first
  simp only [put] at erased ⊢
  rw [erased]

def Fresh (tree : FileTree) (location : Location) : Prop :=
  ∀ entry ∈ tree.nodes, entry.1 ≠ location

theorem erase_of_fresh (tree : FileTree) (location : Location) (fresh : tree.Fresh location) :
    tree.erase location = tree := by
  have kept : (tree.nodes.filter fun entry => entry.1 ≠ location) = tree.nodes := by
    apply List.filter_eq_self.mpr
    intro entry member
    simpa using fresh entry member
  simp only [erase, kept]

theorem lookup_of_fresh (tree : FileTree) (location : Location) (fresh : tree.Fresh location) :
    tree.nodes.lookup location = none := by
  rw [List.lookup_eq_none_iff]
  intro entry member
  simpa using (fresh entry member).symm

theorem fresh_temporaryName (tree : FileTree) (directory : Location) :
    tree.Fresh (directory ++ [tree.temporaryName]) := by
  intro entry member same
  have listed : (entry.1.getLastD "").length ∈
      tree.nodes.map fun entry => (entry.1.getLastD "").length := List.mem_map_of_mem member
  have bound := List.le_max_of_mem listed
  simp only [same, List.getLastD_concat, temporaryName, String.length_append, String.length_ofList,
    List.length_replicate, List.foldl_max_eq_max (List.ne_nil_of_mem listed)] at bound
  have start : temporaryStart.length = 4 := rfl
  omega

/-- The trees have the same directories and start relative paths at the same one. -/
structure SameDirectories (tree other : FileTree) : Prop where
  home : other.home = tree.home
  directory (location : Location) :
    other.node? location = some .directory ↔ tree.node? location = some .directory

theorem SameDirectories.symm {tree other : FileTree} (same : tree.SameDirectories other) :
    other.SameDirectories tree :=
  ⟨same.home.symm, fun location => (same.directory location).symm⟩

theorem SameDirectories.trans {tree other third : FileTree} (first : tree.SameDirectories other)
    (second : other.SameDirectories third) : tree.SameDirectories third :=
  ⟨second.home.trans first.home,
    fun location => (second.directory location).trans (first.directory location)⟩

theorem sameDirectories_put (tree : FileTree) (location : Location) (content : ByteArray)
    (named : location ≠ []) (free : tree.node? location ≠ some .directory) :
    tree.SameDirectories (tree.put location (.file content)) := by
  refine ⟨rfl, ?_⟩
  intro other
  by_cases same : other = location
  · subst same
    simp [node?_put_self tree other _ named, free]
  · rw [node?_put tree location other _ same]

theorem enter_transfer {tree other : FileTree} (same : tree.SameDirectories other)
    (location next : Location) (name : String) (entered : tree.enter location name = .ok next)
    (present : (other.node? next).isSome) : other.enter location name = .ok next := by
  unfold enter at entered ⊢
  cases found : tree.node? location with
  | none => simp [found] at entered
  | some node =>
      cases node with
      | file content => simp [found] at entered
      | directory =>
          simp only [found, (same.directory location).mpr found] at entered ⊢
          grind

theorem enter_directory (tree : FileTree) (location next : Location) (name : String)
    (entered : tree.enter location name = .ok next) : tree.node? location = some .directory := by
  unfold enter at entered
  split at entered
  · assumption
  · simp at entered
  · simp at entered

theorem enterAll_transfer {tree other : FileTree} (same : tree.SameDirectories other)
    (names : List String) (location reached : Location)
    (walked : names.foldlM tree.enter location = .ok reached)
    (present : (other.node? reached).isSome) :
    names.foldlM other.enter location = .ok reached := by
  induction names generalizing location with
  | nil => exact walked
  | cons name rest ih =>
      rw [List.foldlM_cons] at walked ⊢
      cases entered : tree.enter location name with
      | error fault =>
          rw [entered] at walked
          simp [bind, Except.bind] at walked
      | ok next =>
          rw [entered] at walked
          have later : rest.foldlM tree.enter next = .ok reached := walked
          -- Where the walk goes on it stands on a directory, and both trees have the same ones.
          have found : (other.node? next).isSome := by
            cases rest with
            | nil =>
                obtain rfl : next = reached := by simpa [pure, Except.pure] using later
                exact present
            | cons second rest =>
                rw [List.foldlM_cons] at later
                cases further : tree.enter next second with
                | error fault => simp [further, bind, Except.bind] at later
                | ok _ =>
                    have directory := tree.enter_directory next _ second further
                    simp [(same.directory next).mpr directory]
          rw [enter_transfer same location next name entered found]
          exact ih next later

theorem walk_transfer {tree other : FileTree} (same : tree.SameDirectories other) (path : String)
    (names : List String) (reached : Location) (walked : tree.walk path names = .ok reached)
    (present : (other.node? reached).isSome) : other.walk path names = .ok reached := by
  simp only [walk, mapError_eq_ok, start, same.home] at walked ⊢
  exact enterAll_transfer same names _ reached walked present

theorem check_eq_ok (first second : IoFault) (path : String)
    (checked : Path.check first path = .ok ()) : Path.check second path = .ok () := by
  unfold Path.check at checked ⊢
  grind

/-- A file can be created at the location, or moved there, by the path. -/
structure Leads (tree : FileTree) (path : String) (location : Location) : Prop where
  checked (nul : IoFault) : Path.check nul path = .ok ()
  approached : ∃ parent, tree.walk path (Path.splitLast path).parents = .ok parent ∧
    tree.node? parent = some .directory ∧ location = parent ++ [(Path.splitLast path).last]
  ordinary : Path.isSpecial (Path.splitLast path).last = false
  short : (Path.splitLast path).last.utf8ByteSize ≤ Path.nameLimit
  bare : (Path.splitLast path).trailingSlash = false
  free : tree.node? location ≠ some .directory

theorem Leads.named {tree : FileTree} {path : String} {location : Location}
    (leads : tree.Leads path location) : location ≠ [] := by
  obtain ⟨parent, _, _, rfl⟩ := leads.approached
  simp

theorem approach_eq_ok (tree : FileTree) (path : String) (parent : Location) :
    tree.approach path = .ok parent ↔
      tree.walk path (Path.splitLast path).parents = .ok parent ∧
        tree.node? parent = some .directory := by
  simp only [approach, bind_eq_ok]
  constructor
  · rintro ⟨reached, walked, answer⟩
    split at answer
    · rename_i directory
      obtain rfl : reached = parent := by simpa [pure, Except.pure] using answer
      exact ⟨walked, directory⟩
    · simp [throw, throwThe, MonadExceptOf.throw] at answer
  · rintro ⟨walked, directory⟩
    exact ⟨parent, walked, by simp [directory, pure, Except.pure]⟩

theorem fileAt_eq_ok (tree : FileTree) (parent location : Location) (name : String) :
    tree.fileAt parent name = .ok location ↔
      location = parent ++ [name] ∧ tree.node? location ≠ some .directory := by
  unfold fileAt
  grind

theorem creation_eq_ok (tree : FileTree) (path : String) (location : Location) :
    tree.creation path = .ok location ↔ tree.Leads path location := by
  simp only [creation, bind_eq_ok, unless_eq_ok, approach_eq_ok, fileAt_eq_ok, not_or,
    Bool.not_eq_true, Nat.not_lt]
  constructor
  · rintro ⟨_, checked, parent, ⟨walked, directory⟩, ⟨ordinary, bare⟩, short, placed, free⟩
    exact ⟨fun nul => check_eq_ok _ nul path checked, ⟨parent, walked, directory, placed⟩, ordinary,
      short, bare, free⟩
  · rintro ⟨checked, ⟨parent, walked, directory, placed⟩, ordinary, short, bare, free⟩
    exact ⟨(), checked _, parent, ⟨walked, directory⟩, ⟨ordinary, bare⟩, short, placed, free⟩

theorem moveTarget_eq_ok (tree : FileTree) (path : String) (location : Location) :
    tree.moveTarget path = .ok location ↔ tree.Leads path location := by
  simp only [moveTarget, bind_eq_ok, unless_eq_ok, approach_eq_ok, fileAt_eq_ok,
    Bool.not_eq_true, Nat.not_lt]
  constructor
  · rintro ⟨_, checked, parent, ⟨walked, directory⟩, ordinary, short, bare, placed, free⟩
    exact ⟨fun nul => check_eq_ok _ nul path checked, ⟨parent, walked, directory, placed⟩, ordinary,
      short, bare, free⟩
  · rintro ⟨checked, ⟨parent, walked, directory, placed⟩, ordinary, short, bare, free⟩
    exact ⟨(), checked _, parent, ⟨walked, directory⟩, ordinary, short, bare, placed, free⟩

theorem Leads.transfer {tree other : FileTree} (same : tree.SameDirectories other) {path : String}
    {location : Location} (leads : tree.Leads path location) : other.Leads path location := by
  obtain ⟨parent, walked, directory, placed⟩ := leads.approached
  have kept := (same.directory parent).mpr directory
  have again := walk_transfer same path _ parent walked (by simp [kept])
  exact ⟨leads.checked, ⟨parent, again, kept, placed⟩, leads.ordinary, leads.short, leads.bare,
    fun taken => leads.free ((same.directory location).mp taken)⟩

theorem pieces_of_bare (path : String) (bare : (Path.splitLast path).trailingSlash = false) :
    Path.pieces path = (Path.splitLast path).parents ++ [(Path.splitLast path).last] := by
  unfold Path.splitLast at bare ⊢
  cases reversed : (Path.pieces path).reverse with
  | nil => simp [reversed] at bare
  | cons last parents =>
      have named : last ≠ "" := by
        rintro rfl
        simp only [reversed] at bare
        split at bare
        · simp at bare
        · simp at bare
      simp only [List.dropWhile_cons, named, decide_false, Bool.false_eq_true, if_false]
      rw [← List.reverse_cons, ← reversed, List.reverse_reverse]

theorem find_eq_ok (tree : FileTree) (path : String) (location : Location) :
    tree.find path = .ok location ↔
      Path.check .nulInName path = .ok () ∧ tree.walk path (Path.pieces path) = .ok location := by
  simp only [find, bind_eq_ok]
  exact ⟨fun ⟨_, checked, walked⟩ => ⟨checked, walked⟩, fun both => ⟨(), both⟩⟩

theorem read_eq_ok (tree : FileTree) (path : String) (content : ByteArray) :
    tree.read path = .ok content ↔
      ∃ location, tree.find path = .ok location ∧
        tree.node? location = some (.file content) := by
  simp only [read, bind_eq_ok]
  refine exists_congr fun location => and_congr_right fun _ => ?_
  split
  · rename_i found
    simp [found, pure, Except.pure]
  · rename_i found
    simp [found, throw, throwThe, MonadExceptOf.throw]
  · rename_i found
    simp [found, throw, throwThe, MonadExceptOf.throw]

theorem enter_child (tree : FileTree) (parent : Location) (name : String)
    (directory : tree.node? parent = some .directory) (ordinary : Path.isSpecial name = false)
    (short : name.utf8ByteSize ≤ Path.nameLimit)
    (present : (tree.node? (parent ++ [name])).isSome) :
    tree.enter parent name = .ok (parent ++ [name]) := by
  simp only [Path.isSpecial, decide_eq_false_iff_not, not_or] at ordinary
  simp [enter, directory, ordinary, Nat.not_lt.mpr short, present]

theorem Leads.find {tree : FileTree} {path : String} {location : Location}
    (leads : tree.Leads path location) (present : (tree.node? location).isSome) :
    tree.find path = .ok location := by
  obtain ⟨parent, walked, directory, rfl⟩ := leads.approached
  have entered := tree.enter_child parent _ directory leads.ordinary leads.short present
  rw [find_eq_ok, pieces_of_bare path leads.bare]
  refine ⟨leads.checked _, ?_⟩
  simp only [walk, mapError_eq_ok] at walked ⊢
  rw [List.foldlM_append, bind_eq_ok]
  refine ⟨parent, walked, ?_⟩
  rw [List.foldlM_cons, bind_eq_ok]
  exact ⟨_, entered, rfl⟩

theorem Leads.read {tree : FileTree} {path : String} {location : Location} {content : ByteArray}
    (leads : tree.Leads path location) (found : tree.node? location = some (.file content)) :
    tree.read path = .ok content :=
  (tree.read_eq_ok path content).mpr ⟨location, leads.find (by simp [found]), found⟩

def room? (tree : FileTree) (location : Location) : Option Nat :=
  tree.capacity.map fun capacity => capacity - (tree.erase location).used

theorem fill_cases (tree : FileTree) (location : Location) (content : ByteArray) :
    tree.fill location content = (.ok (), tree.put location (.file content)) ∨
      ∃ room, tree.room? location = some room ∧ room < content.size ∧
        tree.fill location content =
          (.error (.system .noSpace), tree.put location (.file (content.extract 0 room))) := by
  unfold fill room?
  cases tree.capacity with
  | none => exact Or.inl rfl
  | some capacity =>
      by_cases fits : content.size ≤ capacity - (tree.erase location).used
      · left
        have whole := ByteArray.extract_zero_max_size (a := content)
          (i := capacity - (tree.erase location).used)
        rw [Nat.max_eq_left fits] at whole
        simp [fits, whole]
      · right
        exact ⟨_, rfl, Nat.lt_of_not_le fits, by simp [fits]⟩

theorem write_cases (tree : FileTree) (path : String) (content : ByteArray) :
    (∃ fault, tree.creation path = .error fault ∧
      tree.write path content = (.error fault, tree)) ∨
    ∃ location, tree.Leads path location ∧
      (tree.write path content = (.ok (), tree.put location (.file content)) ∨
        ∃ room, tree.room? location = some room ∧ room < content.size ∧
          tree.write path content =
            (.error (.system .noSpace), tree.put location (.file (content.extract 0 room)))) := by
  unfold write
  cases created : tree.creation path with
  | error fault => exact Or.inl ⟨fault, rfl, rfl⟩
  | ok location =>
      right
      exact ⟨location, (tree.creation_eq_ok path location).mp created,
        tree.fill_cases location content⟩

/-- Replacing a file puts it in its place in full or changes nothing: the temporary file is gone
either way. -/
theorem replace_cases (tree : FileTree) (path : String) (content : ByteArray) :
    (∃ fault, tree.replace path content = (.error fault, tree)) ∨
      ∃ target, tree.Leads path target ∧
        tree.replace path content = (.ok (), tree.put target (.file content)) := by
  unfold replace
  cases tree.temporaryPlace path with
  | error fault => exact Or.inl ⟨_, rfl⟩
  | ok directory =>
      simp only
      generalize named : directory ++ [tree.temporaryName] = temporary
      have fresh : tree.Fresh temporary := named ▸ tree.fresh_temporaryName directory
      -- The temporary name is new, so without its file the tree is the one before.
      have removed (first second : FileNode) :
          ((tree.put temporary first).put temporary second).erase temporary = tree := by
        rw [put_put, erase_put, tree.erase_of_fresh temporary fresh]
      rcases (tree.put temporary (.file .empty)).fill_cases temporary content with
        filled | ⟨room, _, _, filled⟩
      · rw [filled]
        simp only [removed]
        cases moved : ((tree.put temporary (.file .empty)).put temporary
            (.file content)).moveTarget path with
        | error fault => exact Or.inl ⟨_, rfl⟩
        | ok target =>
            right
            refine ⟨target, ?_, rfl⟩
            have entryless : temporary ≠ [] := by simp [← named]
            have free : tree.node? temporary ≠ some .directory := by
              simp [node?, entryless, tree.lookup_of_fresh temporary fresh]
            have same := tree.sameDirectories_put temporary content entryless free
            rw [put_put, moveTarget_eq_ok] at moved
            exact moved.transfer same.symm
      · rw [filled]
        simp only [removed]
        exact Or.inl ⟨_, rfl⟩

end RowScan.FileTree
