import Formwright.Text.Words

/-!
# File trees

A tree of files, directories and symbolic links as a value. A path is a list of steps from the root
of the tree; the root itself is a directory and has no entry.
-/
namespace Formwright

/-- Why a file operation fails. -/
inductive FileError where
  | notFound
  | alreadyExists
  | notDirectory
  | isDirectory
  | nameTooLong
  | tooManyLinks
  | nulInName
  | invalidText
deriving DecidableEq, Repr

/-- The wording of a failure, as the operating system has it. -/
def FileError.message : FileError → String
  | .notFound => "No such file or directory (os error 2)"
  | .alreadyExists => "File exists (os error 17)"
  | .notDirectory => "Not a directory (os error 20)"
  | .isDirectory => "Is a directory (os error 21)"
  | .nameTooLong => "File name too long (os error 36)"
  | .tooManyLinks => "Too many levels of symbolic links (os error 40)"
  | .nulInName => "file name contained an unexpected NUL byte"
  | .invalidText => "stream did not contain valid UTF-8"

/-- A path: the names of the directories on the way and of the entry. -/
abbrev FilePath := List String

/-- What may stand at a path. -/
inductive FileEntry where
  | file (content : ByteArray)
  | directory
  | link (target : String)

/-- A tree of files. -/
structure FileTree where
  entries : List (FilePath × FileEntry) := []

namespace FileTree

/-- What stands at a path, links not followed. -/
def entry? (tree : FileTree) (path : FilePath) : Option FileEntry :=
  if path.isEmpty then some .directory else tree.entries.lookup path

/-- The tree with an entry at a path, in place of any that stood there. -/
def put (tree : FileTree) (path : FilePath) (entry : FileEntry) : FileTree :=
  ⟨(path, entry) :: tree.entries.filter (·.1 != path)⟩

/-- The tree without the entry at a path. -/
def erase (tree : FileTree) (path : FilePath) : FileTree :=
  ⟨tree.entries.filter (·.1 != path)⟩

/-- The names of the entries of a directory, in increasing order. -/
def names (tree : FileTree) (directory : FilePath) : List String :=
  let found := tree.entries.filterMap fun (path, _) =>
    if path.dropLast = directory then path.getLast? else none
  found.mergeSort (decide <| · ≤ ·)

/-- The steps of a path that is written with slashes. -/
def steps (path : String) : FilePath :=
  (Text.pieces (· == '/') path.toList).map String.ofList

/-- The path that a text names inside a directory; a text that starts with a slash names one from
the root. -/
def resolve (directory : FilePath) (path : String) : FilePath :=
  if path.startsWith "/" then steps path else directory ++ steps path

/-- Where a path leads: the path of the entry itself, without links on the way, and the entry, if
there is one. -/
structure Place where
  path : FilePath
  entry : Option FileEntry

/-- The longest name, in bytes. -/
def maxName : Nat := 255

/-- The longest path, in bytes. -/
def maxPath : Nat := 4095

/-- How many links a path may lead through. -/
def maxLinks : Nat := 40

/-- The size in bytes of a path that is written with a slash before each step. -/
def pathSize : FilePath → Nat
  | [] => 0
  | step :: later => 1 + step.utf8ByteSize + pathSize later

/-- Why a path is refused before anything is looked up. -/
def refusal? (path : FilePath) : Option FileError :=
  if path.any (·.toList.contains '\x00') then some .nulInName
  else if maxPath < pathSize path then some .nameTooLong
  else none

/-- Where some steps lead from a directory; `onLink` says where they lead from a directory once a
link has been replaced by the steps to its target. -/
def follow (tree : FileTree) (onLink : FilePath → FilePath → Except FileError Place) :
    FilePath → FilePath → Except FileError Place
  | base, [] => .ok ⟨base, tree.entry? base⟩
  | base, step :: later =>
    if step = "" ∨ step = "." then follow tree onLink base later
    else if step = ".." then follow tree onLink base.dropLast later
    else if maxName < step.utf8ByteSize then .error .nameTooLong
    else
      let path := base ++ [step]
      match tree.entry? path with
      | some .directory => follow tree onLink path later
      | some (.link target) =>
        onLink (if target.startsWith "/" then [] else base) (steps target ++ later)
      | some (.file content) =>
        if later.isEmpty then .ok ⟨path, some (.file content)⟩ else .error .notDirectory
      | none => if later.isEmpty then .ok ⟨path, none⟩ else .error .notFound

/-- Where some steps lead from a directory through a number of links at most. -/
def locateFrom (tree : FileTree) : Nat → FilePath → FilePath → Except FileError Place
  | 0 => follow tree fun _ _ => .error .tooManyLinks
  | links + 1 => follow tree (locateFrom tree links)

/-- Where a path leads, links followed. -/
def locate (tree : FileTree) (path : FilePath) : Except FileError Place :=
  match refusal? path with
  | some error => .error error
  | none => locateFrom tree maxLinks [] path

/-- Whether a path leads to a directory. -/
def isDirectory (tree : FileTree) (path : FilePath) : Bool :=
  match tree.locate path with
  | .ok ⟨_, some .directory⟩ => true
  | _ => false

/-- The content of the file that a path leads to. -/
def read (tree : FileTree) (path : FilePath) : Except FileError ByteArray := do
  match (← tree.locate path).entry with
  | some (.file content) => .ok content
  | some _ => .error .isDirectory
  | none => .error .notFound

/-- The text of the file that a path leads to. -/
def readText (tree : FileTree) (path : FilePath) : Except FileError String := do
  match String.fromUTF8? (← tree.read path) with
  | some text => .ok text
  | none => .error .invalidText

/-- Writes a file at a path, in place of the content of any file that it leads to. -/
def write (tree : FileTree) (path : FilePath) (content : ByteArray) :
    Except FileError FileTree := do
  let place ← tree.locate path
  match place.entry with
  | none | some (.file _) => .ok (tree.put place.path (.file content))
  | some _ => .error .isDirectory

/-- Where the entry at a path stands itself: the directory on the way is followed, the entry is
not. -/
def locateEntry (tree : FileTree) (path : FilePath) : Except FileError Place := do
  if let some error := refusal? path then throw error
  let parent ← tree.locate path.dropLast
  match parent.entry with
  | some .directory =>
    if path.getLast?.any (maxName < ·.utf8ByteSize) then throw .nameTooLong
    let own := parent.path ++ path.getLast?.toList
    .ok ⟨own, tree.entry? own⟩
  | some _ => .error .notDirectory
  | none => .error .notFound

/-- Removes the file or the link at a path. -/
def remove (tree : FileTree) (path : FilePath) : Except FileError FileTree := do
  let place ← tree.locateEntry path
  match place.entry with
  | none => .error .notFound
  | some .directory => .error .isDirectory
  | some _ => .ok (tree.erase place.path)

/-- Makes a directory at a path. -/
def makeDirectory (tree : FileTree) (path : FilePath) : Except FileError FileTree := do
  let place ← tree.locateEntry path
  match place.entry with
  | none => .ok (tree.put place.path .directory)
  | some _ => .error .alreadyExists

/-- Makes a link at a path; its target may be missing, but not the text of it. -/
def makeLink (tree : FileTree) (path : FilePath) (target : String) : Except FileError FileTree := do
  if let some error := refusal? (steps target) then throw error
  if target.isEmpty then throw .notFound
  let place ← tree.locateEntry path
  match place.entry with
  | none => .ok (tree.put place.path (.link target))
  | some _ => .error .alreadyExists

/-- Makes the directories on the way that some further steps lead, as far as they are missing. -/
def makeDirectories (tree : FileTree) : FilePath → FilePath → Except FileError FileTree
  | _, [] => .ok tree
  | done, step :: later => do
    let path := done ++ [step]
    match (← tree.locate path).entry with
    | some .directory => makeDirectories tree path later
    | some _ => .error (if later.isEmpty then .alreadyExists else .notDirectory)
    | none => makeDirectories (← tree.makeDirectory path) path later

end FileTree
end Formwright
