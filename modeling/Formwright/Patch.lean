import Formwright.Diagnostic
import Formwright.Node.Address
import Formwright.Node.Reader
import Formwright.Node.Writer

/-!
# Patches

A patch asks for one edit of one node. This module has the vocabulary of edits, the check of the
shape of a patch and the reasons for which a patch may be refused; carrying a patch out is up to
those who hold the tree.
-/
namespace Formwright
open Json

/-- The kinds of edit. -/
inductive PatchOp where
  | setProp
  | setCopy
  | toggleVariant
  | addNode
  | removeNode
  | moveNode
  | wrapWith
  | reorder
  | rename
  | setToken
  | setBinding
  | setDataSource
deriving DecidableEq, Repr

instance : Vocabulary PatchOp where
  members := [.setProp, .setCopy, .toggleVariant, .addNode, .removeNode, .moveNode, .wrapWith,
    .reorder, .rename, .setToken, .setBinding, .setDataSource]
  word
    | .setProp => "setProp"
    | .setCopy => "setCopy"
    | .toggleVariant => "toggleVariant"
    | .addNode => "addNode"
    | .removeNode => "removeNode"
    | .moveNode => "moveNode"
    | .wrapWith => "wrapWith"
    | .reorder => "reorder"
    | .rename => "rename"
    | .setToken => "setToken"
    | .setBinding => "setBinding"
    | .setDataSource => "setDataSource"

namespace PatchOp

/-- The wording for a word that names no edit. -/
def unknownMessage (name : String) : String := "unknown patch op '" ++ name ++ "'"

/-- The edit that a word names, or the wording for one that names none. -/
def parse (name : String) : Except String PatchOp :=
  match Vocabulary.ofWord? name with
  | some op => .ok op
  | none => .error (unknownMessage name)

end PatchOp

/-- One edit of one node. -/
structure Patch where
  targetId : NodeId
  op : PatchOp
  /-- The arguments in increasing order of their names. -/
  args : Members := []
deriving Repr

namespace Patch

/-- A patch with one more argument, in place of any of its name. -/
def withArg (patch : Patch) (key : String) (value : Json) : Patch :=
  { patch with args := insertNamed key value patch.args }

/-- A patch as a value. -/
def toJson (patch : Patch) : Json :=
  .object [("targetId", patch.targetId.toJson), ("op", wordJson patch.op),
    ("args", .object patch.args)]

/-- Reads a patch. -/
def reader : Reader Patch :=
  Reader.record ⟨"struct Patch", ["targetId", "op", "args"], false⟩
    (Patch.mk <$> Fields.required "targetId" NodeId.reader
      <*> Fields.required "op" (Reader.word PatchOp)
      <*> Fields.withDefault "args" [] Reader.members)

/-- The node that a patch is about. -/
def target? (patch : Patch) (tree : Node) : Option Node := tree.find? patch.targetId

/-! ## The shape of patches -/

/-- A problem with a field of a patch. -/
def fault (path message : String) : List Diagnostic :=
  [.ofError Diagnostic.patchError message path]

/-- A field of a patch that is left out. -/
def missing (key : String) : List Diagnostic :=
  fault ("/" ++ key) ("Required field \"" ++ key ++ "\" is missing")

/-- Checks the id of the target. -/
def targetFaults : Option Json → List Diagnostic
  | none => missing "targetId"
  | some (.string held) =>
    if NodeId.isVersion4 held then [] else fault "/targetId" ("Invalid uuid: '" ++ held ++ "'")
  | some other => fault "/targetId" ("Expected string, received " ++ other.kindName)

/-- Whether a value is the word of an edit. -/
def isOp : Json → Bool
  | .string held => held ∈ Vocabulary.words PatchOp
  | _ => false

/-- Checks the kind of edit. -/
def opFaults : Option Json → List Diagnostic
  | none => missing "op"
  | some value =>
    if isOp value then []
    else fault "/op" ("Invalid enum value. Expected one of "
      ++ ", ".intercalate (Vocabulary.words PatchOp) ++ ", received " ++ value.render)

/-- Checks the arguments. -/
def argsFaults : Option Json → List Diagnostic
  | none => missing "args"
  | some (.object _) => []
  | some other => fault "/args" ("Expected object, received " ++ other.kindName)

/-- Checks the shape of a patch without any tree. -/
def validate : Json → ValidationResult
  | .object members => .ofDiagnostics (targetFaults (members.lookup "targetId")
      ++ opFaults (members.lookup "op") ++ argsFaults (members.lookup "args"))
  | other =>
    .ofDiagnostics (fault "" ("Expected a patch object, received " ++ other.kindName))

end Patch

/-- Why a patch is refused. -/
inductive PatchFailure where
  | targetNotFound (targetId : NodeId)
  | unsupportedOp (op : PatchOp)
  | invalidArgs (message : String)
  | invalidResult (diagnostics : List Diagnostic)
  | conflict (message : String)
deriving DecidableEq, Repr

namespace PatchFailure

/-- The wording of a failure. -/
def message : PatchFailure → String
  | .targetNotFound targetId => "target " ++ targetId.print ++ " not found"
  | .unsupportedOp op => "unsupported op " ++ Vocabulary.word op
  | .invalidArgs message => "invalid args: " ++ message
  | .invalidResult diagnostics =>
    "patched tree is invalid (" ++ toString diagnostics.length ++ " diagnostics)"
  | .conflict message => "conflict: " ++ message

/-- A failure as a value. -/
def toJson : PatchFailure → Json
  | .targetNotFound targetId =>
    .object [("reason", .string "targetNotFound"), ("targetId", targetId.toJson)]
  | .unsupportedOp op => .object [("reason", .string "unsupportedOp"), ("op", wordJson op)]
  | .invalidArgs message =>
    .object [("reason", .string "invalidArgs"), ("message", .string message)]
  | .invalidResult diagnostics =>
    .object [("reason", .string "invalidResult"),
      ("diagnostics", .array (diagnostics.map Diagnostic.toJson))]
  | .conflict message => .object [("reason", .string "conflict"), ("message", .string message)]

/-- The variants of a failure. -/
def tagForm : TagForm where
  title := "internally tagged enum PatchFailure"
  tag := "reason"
  names := ["targetNotFound", "unsupportedOp", "invalidArgs", "invalidResult", "conflict"]

/-- The form of a variant with one field. -/
def form (variant field : String) : RecordForm :=
  ⟨"struct variant PatchFailure::" ++ variant, [field], true⟩

/-- Reads a failure of which the variant is known. -/
def readVariant : String → Reader PatchFailure
  | "targetNotFound" => Reader.record (form "TargetNotFound" "targetId")
      (.targetNotFound <$> Fields.required "targetId" NodeId.reader)
  | "unsupportedOp" => Reader.record (form "UnsupportedOp" "op")
      (.unsupportedOp <$> Fields.required "op" (Reader.word PatchOp .nullOrEmpty))
  | "invalidArgs" => Reader.record (form "InvalidArgs" "message")
      (.invalidArgs <$> Fields.required "message" Reader.text)
  | "invalidResult" => Reader.record (form "InvalidResult" "diagnostics")
      (.invalidResult
        <$> Fields.required "diagnostics" (Reader.list (Diagnostic.reader .nullOrEmpty)))
  | _ => Reader.record (form "Conflict" "message")
      (.conflict <$> Fields.required "message" Reader.text)

/-- Reads a failure. -/
def reader : Reader PatchFailure := fun value => do
  let (variant, content) ← tagForm.split value
  readVariant variant content

end PatchFailure
end Formwright
