import RowScan.Files.Tree

/-!
The file operations of a run, for any place where files can be kept: a tree held as state, or the
file system of a machine.
-/

namespace RowScan

class Storage (m : Type → Type) where
  read : String → m (Except IoFault ByteArray)
  write : String → ByteArray → m (Except IoFault Unit)
  /-- Writes a file so that it appears only when it is complete. -/
  replace : String → ByteArray → m (Except ReplaceFault Unit)

instance : Storage (StateM FileTree) where
  read path := fun tree => (tree.read path, tree)
  write path content := fun tree => tree.write path content
  replace path content := fun tree => tree.replace path content

end RowScan
