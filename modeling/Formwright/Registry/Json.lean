import Formwright.Document.Writer
import Formwright.Json.Shape
import Formwright.Registry.Basic

/-!
# Registries as JSON

Registries are exchanged as JSON values and as JSON texts. A text is checked while it is scanned,
so the place of its first fault is known.
-/
namespace Formwright
open Json

/-- A table of values as an object. -/
def tableJson {α : Type} (toJson : α → Json) (entries : List (String × α)) : Json :=
  .object (entries.map fun (key, value) => (key, toJson value))

/-- A list of texts as a value. -/
def textsJson (texts : List String) : Json := .array (texts.map .string)

/-- Notes on a role as a value. -/
def RoleNotes.toJson (notes : RoleNotes) : Json :=
  .object (optionalMember "role" notes.role .string ++ optionalMember "notes" notes.notes .string)

/-- The form of notes on a role. -/
def RoleNotes.form : RecordForm := ⟨"struct RegistryA11y", ["role", "notes"], false⟩

/-- Reads notes on a role. -/
def RoleNotes.reader : Reader RoleNotes :=
  Reader.record form
    (RoleNotes.mk <$> Fields.optional "role" Reader.text <*> Fields.optional "notes" Reader.text)

/-- The shape of notes on a role. -/
def RoleNotes.shape : Shape :=
  .record form [] [("role", .optional .text), ("notes", .optional .text)]

/-- An entry as a value. -/
def RegistryEntry.toJson (entry : RegistryEntry) : Json :=
  .object ([("import", .string entry.source)]
    ++ optionalMember "variants" entry.variants textsJson
    ++ optionalMember "props" entry.props (tableJson .string)
    ++ optionalMember "slots" entry.slots textsJson
    ++ optionalMember "a11y" entry.accessibility RoleNotes.toJson)

/-- The form of an entry. -/
def RegistryEntry.form : RecordForm :=
  ⟨"struct RegistryEntry", ["import", "variants", "props", "slots", "a11y"], false⟩

/-- Reads an entry. -/
def RegistryEntry.reader : Reader RegistryEntry :=
  Reader.record form
    (RegistryEntry.mk <$> Fields.required "import" Reader.text
      <*> Fields.optional "variants" (Reader.list Reader.text)
      <*> Fields.optional "props" (Reader.table Reader.text)
      <*> Fields.optional "slots" (Reader.list Reader.text)
      <*> Fields.optional "a11y" RoleNotes.reader)

/-- The shape of an entry. -/
def RegistryEntry.shape : Shape :=
  .record form ["import"] [("import", .text), ("variants", .optional (.list .text)),
    ("props", .optional (.table .text)), ("slots", .optional (.list .text)),
    ("a11y", .optional RoleNotes.shape)]

namespace ComponentRegistry

/-- A registry as a value. -/
def toJson (registry : ComponentRegistry) : Json :=
  .object [("components", tableJson RegistryEntry.toJson registry.components)]

/-- The form of a registry. -/
def form : RecordForm := ⟨"struct ComponentRegistry", ["components"], false⟩

/-- Reads a registry. -/
def reader : Reader ComponentRegistry :=
  Reader.record form
    (ComponentRegistry.mk
      <$> Fields.withDefault "components" [] (Reader.table RegistryEntry.reader))

/-- The shape of a registry. -/
def shape : Shape := .record form [] [("components", .table RegistryEntry.shape)]

/-- The registry that a text spells. -/
def ofText (text : String) : Except Fault ComponentRegistry := shape.read reader text.toList

end ComponentRegistry
end Formwright
