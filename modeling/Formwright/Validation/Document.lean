import Formwright.Node.Reader
import Formwright.Validation.Registry
import Formwright.Validation.Shape

/-!
# Validation of node documents

A node document is checked for its shape and, if that is sound, read and checked against a registry.
-/
namespace Formwright.Validation

/-- The problem of a document of sound shape that is not read as a node tree. -/
def unread : Diagnostic := .ofError Diagnostic.unknownError "Failed to read node tree" ""

/-- The diagnostics of a document: those of its shape or, if there are none, those of the tree that
it spells. -/
def diagnostics (document : Json) (registry : ComponentRegistry) : List Diagnostic :=
  match Shape.node "" document with
  | [] =>
    match Node.ofJson? document with
    | some tree => RegistryCheck.node registry "" tree
    | none => [unread]
  | faults => faults

/-- Validates a document of any kind of node. -/
def validateNode (document : Json) (registry : ComponentRegistry) : ValidationResult :=
  .ofDiagnostics (diagnostics document registry)

/-- The error of a document whose root names another kind than a page. -/
def rootFaults (members : Members) : List Diagnostic :=
  match (members.lookup "type").bind Json.string? with
  | some "page" => []
  | some other =>
    [.ofError Diagnostic.schemaError
      ("Document root must be a page, received '" ++ other ++ "'") "/type"]
  | none => []

/-- Validates a document that must be a page. -/
def validatePage (document : Json) (registry : ComponentRegistry) : ValidationResult :=
  match document with
  | .object members => .ofDiagnostics (rootFaults members ++ diagnostics document registry)
  | other =>
    .ofDiagnostics [.ofError Diagnostic.invalidType
      ("Expected a page object, received " ++ other.kindName) ""]

/-- Validates a tree that is read already. -/
def validateTree (tree : Node) (registry : ComponentRegistry) : ValidationResult :=
  .ofDiagnostics (RegistryCheck.node registry "" tree)

/-- Validates several documents; the results keep their order. -/
def validateAll (documents : List Json) (registry : ComponentRegistry) : List ValidationResult :=
  documents.map (validateNode · registry)

end Formwright.Validation
