import Formwright.Json.Parser
import Formwright.Registry.Json
import Formwright.Storage.Walk

/-!
# Registries from directories

A registry is gathered from all files below a directory whose names end in `.json`. A file whose
value has an object of components is a registry of its own; any other file is the entry of one
component, which the file is named after. A file that spells neither is passed over. Files are taken
in increasing order of their paths, and later ones win.
-/
namespace Formwright

/-- Why no registry is gathered. -/
inductive LoadError where
  | file (error : FileError)
  /-- The directory to gather from is missing; its path as messages show it. -/
  | noDirectory (shown : String)
  | walk (error : WalkError)
deriving DecidableEq, Repr

/-- The wording of a failure. -/
def LoadError.message : LoadError → String
  | .file error => "I/O error: " ++ error.message
  | .noDirectory shown => "registry error: registry directory " ++ shown ++ " does not exist"
  | .walk error => "directory walk failed: " ++ error.message

namespace ComponentRegistry

/-- The name of a file before its last point and what follows the point; a point at the front does
not count. -/
def splitExtension (name : String) : String × Option String :=
  let reversed := name.toList.reverse
  let ending := reversed.takeWhile (· != '.')
  match reversed.drop (ending.length + 1) with
  | [] => (name, none)
  | stem => (String.ofList stem.reverse, some (String.ofList ending.reverse))

/-- Whether a path names a file that counts for a registry. -/
def isRegistryFile (path : FilePath) : Bool :=
  (path.getLast?.map splitExtension).any (·.2 == some "json")

/-- The name of the component that a file is the entry of. -/
def componentOf (path : FilePath) : String :=
  ((path.getLast?.map splitExtension).map Prod.fst).getD ""

/-- What the text of a file adds to a registry, where the component that the file is named after is
given. -/
def contribution (component text : String) : ComponentRegistry :=
  match Json.parse text with
  | .error _ => empty
  | .ok value =>
    match value.get? "components" with
    | some (.object _) =>
      match reader value with
      | .ok registry => registry
      | .error _ => empty
    | _ =>
      match RegistryEntry.reader value with
      | .ok entry => ⟨[(component, entry)]⟩
      | .error _ => empty

/-- The registry with what a file below a directory adds to it. -/
def addFile (tree : FileTree) (directory : FilePath) (registry : ComponentRegistry)
    (path : FilePath) : Except LoadError ComponentRegistry := do
  let text ← (tree.readText (directory ++ path)).mapError .file
  .ok (registry.extend (contribution (componentOf path) text))

/-- The registry gathered from a directory, which messages show as `shown`. -/
def load (tree : FileTree) (shown : String) (directory : FilePath) :
    Except LoadError ComponentRegistry := do
  if !tree.isDirectory directory then throw (.noDirectory shown)
  let files ← (tree.filesBelow shown directory).mapError .walk
  (files.filter isRegistryFile).foldlM (addFile tree directory) empty

end ComponentRegistry
end Formwright
