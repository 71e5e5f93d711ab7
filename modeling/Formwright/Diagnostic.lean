import Formwright.Document.Writer
import Formwright.Json.Record

/-!
# Diagnostics

Validation never fails: everything it finds is a diagnostic, and a result is valid if none of its
diagnostics is an error.
-/
namespace Formwright
open Json

/-- How grave a diagnostic is. -/
inductive Level where
  | error
  | warning
  | info
deriving DecidableEq, Repr

instance : Vocabulary Level where
  members := [.error, .warning, .info]
  word
    | .error => "error"
    | .warning => "warning"
    | .info => "info"

/-- Something that validation found. -/
structure Diagnostic where
  level : Level
  message : String
  /-- The JSON pointer to what the diagnostic is about. -/
  path : Option String := none
  /-- The code that tells diagnostics of one sort from others. -/
  code : Option String := none
deriving DecidableEq, Repr

namespace Diagnostic

/-! ## Codes -/

/-- The shape of a document is unsound. -/
def schemaError : String := "SCHEMA_VALIDATION_ERROR"

/-- A document is not of the type wanted. -/
def invalidType : String := "INVALID_TYPE"

/-- A component is not in the registry. -/
def invalidComponent : String := "INVALID_COMPONENT"

/-- A variant is not defined for its component. -/
def invalidVariant : String := "INVALID_VARIANT"

/-- A slot is not defined for its component. -/
def invalidSlot : String := "INVALID_SLOT"

/-- A prop is not documented for its component. -/
def unknownProp : String := "UNKNOWN_PROP"

/-- The shape of a patch is unsound. -/
def patchError : String := "PATCH_VALIDATION_ERROR"

/-- A document of sound shape is not read. -/
def unknownError : String := "UNKNOWN_ERROR"

/-- Generated code does not parse. -/
def codegenSyntaxError : String := "CODEGEN_SYNTAX_ERROR"

/-- An error with its code. -/
def ofError (code message path : String) : Diagnostic := ⟨.error, message, some path, some code⟩

/-- A warning with its code. -/
def ofWarning (code message path : String) : Diagnostic :=
  ⟨.warning, message, some path, some code⟩

/-- Whether the diagnostic is an error. -/
def isError (diagnostic : Diagnostic) : Bool := diagnostic.level == .error

/-- Whether the diagnostic has a code. -/
def hasCode (diagnostic : Diagnostic) (code : String) : Bool := diagnostic.code == some code

/-- One line that shows a diagnostic; the empty pointer is shown as a slash. -/
def display (diagnostic : Diagnostic) : String :=
  "[" ++ Vocabulary.word diagnostic.level ++ "]"
    ++ (match diagnostic.code with
      | some code => " " ++ code
      | none => "")
    ++ (match diagnostic.path with
      | some path => " at " ++ (if path.isEmpty then "/" else path)
      | none => "")
    ++ ": " ++ diagnostic.message

/-- A diagnostic as a value. -/
def toJson (diagnostic : Diagnostic) : Json :=
  .object ([("level", wordJson diagnostic.level), ("message", .string diagnostic.message)]
    ++ optionalMember "path" diagnostic.path .string
    ++ optionalMember "code" diagnostic.code .string)

/-- Reads a diagnostic; inside a tagged value an object without members may stand beside the
word of its level. -/
def reader (beside : Reader.WordValue := .null) : Reader Diagnostic :=
  Reader.record ⟨"struct Diagnostic", ["level", "message", "path", "code"], false⟩
    (Diagnostic.mk <$> Fields.required "level" (Reader.word Level beside)
      <*> Fields.required "message" Reader.text <*> Fields.optional "path" Reader.text
      <*> Fields.optional "code" Reader.text)

end Diagnostic

/-- What validation found in a document. -/
structure ValidationResult where
  /-- Whether no diagnostic is an error; a result that is read may say otherwise. -/
  valid : Bool
  diagnostics : List Diagnostic
deriving DecidableEq, Repr

namespace ValidationResult

/-- The result of some diagnostics. -/
def ofDiagnostics (diagnostics : List Diagnostic) : ValidationResult :=
  ⟨!diagnostics.any (·.isError), diagnostics⟩

/-- The errors of a result. -/
def errors (result : ValidationResult) : List Diagnostic :=
  result.diagnostics.filter (·.level == .error)

/-- The warnings of a result. -/
def warnings (result : ValidationResult) : List Diagnostic :=
  result.diagnostics.filter (·.level == .warning)

/-- The diagnostics of a result that have a code. -/
def withCode (result : ValidationResult) (code : String) : List Diagnostic :=
  result.diagnostics.filter (·.hasCode code)

/-- The diagnostics of two results, one after the other; validity is told anew. -/
def merge (first second : ValidationResult) : ValidationResult :=
  ofDiagnostics (first.diagnostics ++ second.diagnostics)

/-- A result as a value. -/
def toJson (result : ValidationResult) : Json :=
  .object [("valid", .bool result.valid),
    ("diagnostics", .array (result.diagnostics.map Diagnostic.toJson))]

/-- Reads a result. -/
def reader : Reader ValidationResult :=
  Reader.record ⟨"struct ValidationResult", ["valid", "diagnostics"], false⟩
    (ValidationResult.mk <$> Fields.required "valid" Reader.bool
      <*> Fields.required "diagnostics" (Reader.list Diagnostic.reader))

end ValidationResult
end Formwright
