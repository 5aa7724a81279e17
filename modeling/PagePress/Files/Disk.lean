import PagePress.Bundle
import PagePress.Files.Tree

/-!
# Disks

The programs that work with files do so through the operations of a disk. One disk is a tree in
memory; the command line brings another.
-/
namespace PagePress

/-- The operations on files that programs in `m` have. -/
class Disk (m : Type → Type) where
  isPresent : String → m Bool
  readText : String → m (Except FileError String)
  createDirectories : String → m (Except FileError Unit)
  write : String → Content → m (Except FileError Unit)
  rename : String → String → m (Except FileError Unit)
  remove : String → m (Except FileError Unit)

namespace FileTree

/-- An operation that leaves the tree alone when it fails. -/
def attempt (operation : FileTree → Except FileError FileTree) :
    StateM FileTree (Except FileError Unit) := fun tree =>
  match operation tree with
  | .ok tree => (.ok (), tree)
  | .error e => (.error e, tree)

instance : Disk (StateM FileTree) where
  isPresent path := fun tree => (tree.isPresent path, tree)
  readText path := fun tree => (tree.readText path, tree)
  createDirectories path := fun tree =>
    let (tree, result) := tree.createDirectories path
    (result, tree)
  write path content := attempt (·.write path content)
  rename source target := attempt (·.rename source target)
  remove path := attempt (·.remove path)

end FileTree

namespace Disk

variable {m : Type → Type} [Monad m] [Disk m]

/-- The name under which a file is written before it is complete. -/
def partialName (name : String) : String := "." ++ name ++ ".partial"

/-- Writes a file beside its target and then puts it in its place. -/
def replace (scratch target : String) (content : Content) : m (Except FileError Unit) := do
  match ← write scratch content with
  | .error e => return .error e
  | .ok () => rename scratch target

/-- Saves a file in a directory, which is made if need be. The file appears under its name only
when it is complete. -/
def save (directory name : String) (content : Content) : m (Except BundleError Unit) := do
  match ← createDirectories directory with
  | .error e => return .error (.io e.message)
  | .ok () =>
    let target := Path.join directory name
    let scratch := Path.join directory (partialName name)
    match ← replace scratch target content with
    | .ok () => return .ok ()
    | .error e =>
      let _ ← (remove scratch : m _)
      return .error (.save target e.message)

end Disk

end PagePress
