import Mathlib
import RowScan.Proofs.Files.Tree

/-!
What a tree of files is without what its files hold. Paths lead to the same places in trees with the
same outline, and writing or replacing a file has the same outcome in them unless one of them runs
out of room.
-/

namespace RowScan

def FileNode.emptied : FileNode → FileNode
  | .directory => .directory
  | .file _ => .file .empty

@[simp] theorem FileNode.emptied_eq_directory (node : FileNode) :
    node.emptied = .directory ↔ node = .directory := by
  cases node <;> simp [emptied]

namespace FileTree

/-- The directories and the names of files of a tree. -/
def outline (tree : FileTree) : FileTree where
  nodes := tree.nodes.map fun entry => (entry.1, entry.2.emptied)
  home := tree.home
  capacity := none

theorem lookup_emptied (nodes : List (Location × FileNode)) (location : Location) :
    (nodes.map fun entry => (entry.1, entry.2.emptied)).lookup location =
      (nodes.lookup location).map FileNode.emptied := by
  induction nodes with
  | nil => rfl
  | cons entry rest ih =>
      rw [List.map_cons, List.lookup_cons, List.lookup_cons, ih]
      split <;> rfl

theorem node?_outline (tree : FileTree) (location : Location) :
    tree.outline.node? location = (tree.node? location).map FileNode.emptied := by
  unfold node? outline
  split
  · rfl
  · exact lookup_emptied tree.nodes location

theorem directory_outline_iff (tree : FileTree) (location : Location) :
    tree.outline.node? location = some .directory ↔ tree.node? location = some .directory := by
  rw [node?_outline]
  simp

theorem enter_outline (tree : FileTree) : tree.outline.enter = tree.enter := by
  funext location name
  unfold enter
  simp only [node?_outline, Option.isSome_map]
  rcases tree.node? location with _ | _ | content <;> rfl

theorem walk_outline (tree : FileTree) (path : String) (names : List String) :
    tree.outline.walk path names = tree.walk path names := by
  rw [walk, walk, enter_outline]
  rfl

theorem find_outline (tree : FileTree) (path : String) :
    tree.outline.find path = tree.find path := by
  simp only [find, walk_outline]

theorem directory_outline (tree : FileTree) (path : String) :
    tree.outline.directory path = tree.directory path := by
  simp only [directory, find_outline, directory_outline_iff]

theorem approach_outline (tree : FileTree) (path : String) :
    tree.outline.approach path = tree.approach path := by
  simp only [approach, walk_outline, directory_outline_iff]

theorem fileAt_outline (tree : FileTree) (parent : Location) (name : String) :
    tree.outline.fileAt parent name = tree.fileAt parent name := by
  simp only [fileAt, directory_outline_iff]

theorem creation_outline (tree : FileTree) (path : String) :
    tree.outline.creation path = tree.creation path := by
  simp only [creation, approach_outline, fileAt_outline]

theorem moveTarget_outline (tree : FileTree) (path : String) :
    tree.outline.moveTarget path = tree.moveTarget path := by
  simp only [moveTarget, approach_outline, fileAt_outline]

theorem temporaryPlace_outline (tree : FileTree) (path : String) :
    tree.outline.temporaryPlace path = tree.temporaryPlace path := by
  simp only [temporaryPlace, directory_outline]

theorem temporaryName_outline (tree : FileTree) :
    tree.outline.temporaryName = tree.temporaryName := by
  simp only [temporaryName, outline, List.map_map]
  rfl

theorem outline_put (tree : FileTree) (location : Location) (node : FileNode) :
    (tree.put location node).outline = tree.outline.put location node.emptied := by
  simp only [outline, put, erase, List.map_cons, List.filter_map]
  rfl

/-! Writing without a limit on room. -/

def replaced (tree : FileTree) (path : String) (content : ByteArray) :
    Except ReplaceFault Location :=
  match tree.temporaryPlace path with
  | .error fault => .error (.create (Path.join (Path.parent path) temporaryShown) fault)
  | .ok directory =>
      (((tree.put (directory ++ [tree.temporaryName]) (.file content)).moveTarget path).mapError
        ReplaceFault.move)

theorem replaced_congr {tree other : FileTree} (same : tree.outline = other.outline)
    (path : String) (content : ByteArray) :
    tree.replaced path content = other.replaced path content := by
  unfold replaced
  rw [← temporaryPlace_outline, ← temporaryPlace_outline other, same]
  cases other.outline.temporaryPlace path with
  | error fault => rfl
  | ok directory =>
      simp only
      rw [← moveTarget_outline, ← moveTarget_outline (other.put _ _), outline_put, outline_put,
        ← temporaryName_outline, ← temporaryName_outline other, same]

theorem creation_congr {tree other : FileTree} (same : tree.outline = other.outline)
    (path : String) : tree.creation path = other.creation path := by
  rw [← creation_outline, same, creation_outline]

theorem replace_eq (tree : FileTree) (path : String) (content : ByteArray) :
    (tree.replace path content).1 = .error (.fill (.io (.system .noSpace))) ∨
      tree.replace path content = match tree.replaced path content with
        | .error fault => (.error fault, tree)
        | .ok target => (.ok (), tree.put target (.file content)) := by
  unfold replace replaced
  cases tree.temporaryPlace path with
  | error fault => exact Or.inr rfl
  | ok directory =>
      simp only
      generalize named : directory ++ [tree.temporaryName] = temporary
      have fresh : tree.Fresh temporary := named ▸ tree.fresh_temporaryName directory
      rcases (tree.put temporary (.file .empty)).fill_cases temporary content with
        filled | ⟨room, _, _, filled⟩
      · right
        rw [filled, put_put]
        simp only [erase_put, tree.erase_of_fresh temporary fresh]
        cases (tree.put temporary (.file content)).moveTarget path <;> rfl
      · left
        rw [filled]

theorem write_eq (tree : FileTree) (path : String) (content : ByteArray) :
    (tree.write path content).1 = .error (.system .noSpace) ∨
      tree.write path content = match tree.creation path with
        | .error fault => (.error fault, tree)
        | .ok location => (.ok (), tree.put location (.file content)) := by
  unfold write
  cases tree.creation path with
  | error fault => exact Or.inr rfl
  | ok location =>
      rcases tree.fill_cases location content with filled | ⟨room, _, _, filled⟩
      · exact Or.inr filled
      · left
        simp only [filled]

end FileTree

end RowScan
