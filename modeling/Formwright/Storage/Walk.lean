import Formwright.Storage.FileTree

/-!
# Walking file trees

A walk finds all files below a directory, links followed. It fails where a link leads nowhere or to
a directory that it stands in.
-/
namespace Formwright

/-- Why a walk fails. -/
inductive WalkError where
  /-- A file operation on a path fails. -/
  | onPath (path : String) (error : FileError)
  /-- A link leads to a directory that it stands in. -/
  | loop (ancestor child : String)
deriving DecidableEq, Repr

/-- The wording of a failed walk. -/
def WalkError.message : WalkError → String
  | .onPath path error => "IO error for operation on " ++ path ++ ": " ++ error.message
  | .loop ancestor child =>
    "File system loop found: " ++ child ++ " points to an ancestor " ++ ancestor

/-- A directory that a walk is in. -/
structure OpenDirectory where
  /-- The path of the directory as messages show it. -/
  shown : String
  /-- The steps from where the walk starts. -/
  path : FilePath
  /-- The path of the directory itself, without links. -/
  real : FilePath

namespace OpenDirectory

/-- The path of an entry of a directory as messages show it. -/
def shownChild (directory : OpenDirectory) (name : String) : String :=
  if directory.shown.endsWith "/" then directory.shown ++ name
  else directory.shown ++ "/" ++ name

/-- An entry of a directory that is a directory and stands at a path of its own. -/
def child (directory : OpenDirectory) (name : String) (real : FilePath) : OpenDirectory :=
  ⟨directory.shownChild name, directory.path ++ [name], real⟩

end OpenDirectory

namespace FileTree

/-- Whether a path does not come after another one; paths are compared name by name. -/
def pathLe : FilePath → FilePath → Bool
  | [], _ => true
  | _ :: _, [] => false
  | name :: later, otherName :: otherLater =>
    if name = otherName then pathLe later otherLater else decide (name ≤ otherName)

/-- The files found through one entry of the innermost open directory; `walk` walks a directory
inside the directories that are open. -/
def walkEntry (tree : FileTree)
    (walk : List OpenDirectory → OpenDirectory → Except WalkError (List FilePath))
    (outer : List OpenDirectory) (directory : OpenDirectory) (name : String) :
    Except WalkError (List FilePath) :=
  match tree.entry? (directory.real ++ [name]) with
  | some .directory =>
    walk (directory :: outer) (directory.child name (directory.real ++ [name]))
  | some (.file _) => .ok [directory.path ++ [name]]
  | some (.link _) =>
    match tree.locate (directory.real ++ [name]) with
    | .error error => .error (.onPath (directory.shownChild name) error)
    | .ok ⟨real, some .directory⟩ =>
      match (directory :: outer).find? (·.real = real) with
      | some ancestor => .error (.loop ancestor.shown (directory.shownChild name))
      | none => walk (directory :: outer) (directory.child name real)
    | .ok ⟨_, some _⟩ => .ok [directory.path ++ [name]]
    | .ok ⟨_, none⟩ => .error (.onPath (directory.shownChild name) .notFound)
  | none => .ok []

/-- The files below a directory; `fuel` bounds how deep directories are nested. -/
def walkFrom (tree : FileTree) :
    Nat → List OpenDirectory → OpenDirectory → Except WalkError (List FilePath)
  | 0, _, _ => .ok []
  | fuel + 1, outer, directory => do
    let found ← (tree.names directory.real).mapM
      (walkEntry tree (walkFrom tree fuel) outer directory)
    .ok found.flatten

/-- The paths of the files below a directory, from that directory on, in increasing order. -/
def filesBelow (tree : FileTree) (shown : String) (directory : FilePath) :
    Except WalkError (List FilePath) := do
  match tree.locate directory with
  | .error error => .error (.onPath shown error)
  | .ok place =>
    let found ← tree.walkFrom (2 * tree.entries.length + 2) [] ⟨shown, [], place.path⟩
    .ok (found.mergeSort pathLe)

end FileTree
end Formwright
