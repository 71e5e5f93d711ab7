import Formwright.Code.Generator
import Formwright.Document.Writer
import Formwright.Json.Shape
import Formwright.Storage.FileTree

/-!
# The cache of generated code

Generated code is kept in a directory, one file for each document and options. A file holds the code
with its digest and counts only if the two agree; a file that is read and does not count is removed.
-/
namespace Formwright
open Json

/-- What a file of the cache holds. -/
structure CacheEntry where
  /-- The digest of the code. -/
  hash : String
  code : String
deriving DecidableEq, Repr

namespace CacheEntry

/-- The entry for some code. -/
def ofCode (code : String) : CacheEntry := ⟨Sha256.hexDigest code, code⟩

/-- Whether the digest is that of the code. -/
def isSound (entry : CacheEntry) : Bool := entry.hash == Sha256.hexDigest entry.code

/-- An entry as a value. -/
def toJson (entry : CacheEntry) : Json :=
  .object [("hash", .string entry.hash), ("code", .string entry.code)]

/-- The form of an entry. -/
def form : RecordForm := ⟨"struct CacheEntry", ["hash", "code"], false⟩

/-- Reads an entry. -/
def reader : Reader CacheEntry :=
  Reader.record form
    (CacheEntry.mk <$> Fields.required "hash" Reader.text <*> Fields.required "code" Reader.text)

/-- The shape of an entry. -/
def shape : Shape := .record form ["hash", "code"] [("hash", .text), ("code", .text)]

/-- The entry that a text spells. -/
def ofText? (text : String) : Option CacheEntry := (shape.read reader text.toList).toOption

end CacheEntry

namespace Cache

/-- The key of a document and options: the digest of the fingerprint and the text of the options
with a colon between them. -/
def key (document : Document) (options : Code.Options) : String :=
  Sha256.hexDigest (document.fingerprint ++ ":" ++ options.toJson.render)

/-- The path of the file for a key in a directory. -/
def path (directory : FilePath) (key : String) : FilePath :=
  FileTree.resolve directory (key ++ ".json")

/-- The tree after an attempt to remove a file. -/
def discard (tree : FileTree) (path : FilePath) : FileTree :=
  (tree.remove path).toOption.getD tree

/-- The code under a key in a directory, and the tree after looking it up. -/
def get (tree : FileTree) (directory : FilePath) (key : String) : Option String × FileTree :=
  let path := path directory key
  match tree.readText path with
  | .error _ => (none, tree)
  | .ok text =>
    match CacheEntry.ofText? text with
    | none => (none, discard tree path)
    | some entry =>
      if entry.isSound then (some entry.code, tree) else (none, discard tree path)

/-- The tree with some code under a key in a directory. -/
def set (tree : FileTree) (directory : FilePath) (key code : String) : Except FileError FileTree :=
  tree.write (path directory key) (CacheEntry.ofCode code).toJson.render.toUTF8

/-- The code for a document, from the cache in a directory if it is there; else it is generated and
kept, if it can be. -/
def generate (tree : FileTree) (directory : FilePath) (document : Document)
    (options : Code.Options) : String × FileTree :=
  let key := key document options
  match get tree directory key with
  | (some code, tree) => (code, tree)
  | (none, tree) =>
    let code := Code.generate document options
    (code, (set tree directory key code).toOption.getD tree)

end Cache
end Formwright
