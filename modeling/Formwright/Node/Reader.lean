import Formwright.Json.Record
import Formwright.Node.Basic

/-!
# Reading node trees

A node is read from an object. The variants of a value inside a node may be given by their place
among the names, and what stands beside a word may be an object without members.
-/
namespace Formwright
open Json

/-- Reads a word of a vocabulary inside a node. -/
def innerWord (α : Type) [Vocabulary α] : Reader α := Reader.word α .nullOrEmpty

/-- Reads an id. -/
def NodeId.reader : Reader NodeId := fun value => do
  let text ← Reader.text value
  match NodeId.parse? text with
  | some nodeId => .ok nodeId
  | none => .error (.wrongValue (.text text) "a UUID string")

/-- Reads what a node says to assistive technology. -/
def Accessibility.reader : Reader Accessibility :=
  Reader.record
    ⟨"struct A11y", ["role", "label", "labelledBy", "describedBy", "live", "hidden"], true⟩
    (Accessibility.mk <$> Fields.optional "role" Reader.text
      <*> Fields.optional "label" Reader.text <*> Fields.optional "labelledBy" Reader.text
      <*> Fields.optional "describedBy" Reader.text
      <*> Fields.optional "live" (innerWord LiveRegion)
      <*> Fields.optional "hidden" Reader.bool)

/-- Reads a layout. -/
def Layout.reader : Reader Layout :=
  Reader.record
    ⟨"struct Layout", ["width", "height", "maxWidth", "padding", "margin", "gap", "align",
      "justify"], true⟩
    (Layout.mk <$> Fields.optional "width" Reader.text <*> Fields.optional "height" Reader.text
      <*> Fields.optional "maxWidth" Reader.text
      <*> Fields.optional "padding" (innerWord Spacing)
      <*> Fields.optional "margin" (innerWord Spacing)
      <*> Fields.optional "gap" (innerWord Spacing)
      <*> Fields.optional "align" (innerWord Align)
      <*> Fields.optional "justify" (innerWord Justify))

/-- Reads an envelope. -/
def Envelope.fields : Fields Envelope :=
  Envelope.mk <$> Fields.required "id" NodeId.reader <*> Fields.optional "name" Reader.text
    <*> Fields.optional "a11y" Accessibility.reader <*> Fields.optional "layout" Layout.reader
    <*> Fields.optional "testId" Reader.text <*> Fields.optional "dataUiId" Reader.text

/-- The variants of a data source. -/
def DataSource.tagForm : TagForm where
  title := "internally tagged enum DataSource"
  tag := "type"
  names := ["placeholder", "static", "url"]
  byPlace := true

/-- Reads a data source of which the variant is known. -/
def DataSource.readVariant : String → Reader DataSource
  | "placeholder" =>
    Reader.record ⟨"struct variant DataSource::Placeholder", ["id", "description"], true⟩
      ((fun id description => DataSource.mk id (.placeholder description))
        <$> Fields.required "id" Reader.text <*> Fields.optional "description" Reader.text)
  | "static" =>
    Reader.record ⟨"struct variant DataSource::Static", ["id", "data"], true⟩
      ((fun id data => DataSource.mk id (.static data))
        <$> Fields.required "id" Reader.text <*> Fields.required "data" Reader.any)
  | _ =>
    Reader.record ⟨"struct variant DataSource::Url", ["id", "url", "method", "refreshMs"], true⟩
      ((fun id url method refreshMs => DataSource.mk id (.url url method refreshMs))
        <$> Fields.required "id" Reader.text <*> Fields.required "url" Reader.text
        <*> Fields.optional "method" (innerWord HttpMethod)
        <*> Fields.optional "refreshMs" Reader.uint64)

/-- Reads a data source. -/
def DataSource.reader : Reader DataSource := fun value => do
  let (variant, content) ← tagForm.split value
  readVariant variant content

/-- The variants of a payload. -/
def Payload.tagForm : TagForm where
  title := "internally tagged enum SectionPayload"
  tag := "kind"
  names := ["dataTable", "chart"]
  byPlace := true

/-- Reads a payload of which the variant is known. -/
def Payload.readVariant : String → Reader Payload
  | "dataTable" =>
    Reader.record ⟨"struct variant SectionPayload::DataTable", ["dataSourceId", "columns"], true⟩
      ((fun source columns => Payload.mk source (.table columns))
        <$> Fields.required "dataSourceId" Reader.text
        <*> Fields.withDefault "columns" [] (Reader.list Reader.text))
  | _ =>
    Reader.record ⟨"struct variant SectionPayload::Chart", ["dataSourceId", "chartType"], true⟩
      ((fun source kind => Payload.mk source (.chart kind))
        <$> Fields.required "dataSourceId" Reader.text
        <*> Fields.required "chartType" (innerWord ChartKind))

/-- Reads a payload. -/
def Payload.reader : Reader Payload := fun value => do
  let (variant, content) ← tagForm.split value
  readVariant variant content

/-- Reads a binding. -/
def Binding.reader : Reader Binding :=
  Reader.record ⟨"struct Binding", ["sourceId", "path", "prop"], true⟩
    (Binding.mk <$> Fields.required "sourceId" Reader.text <*> Fields.required "path" Reader.text
      <*> Fields.required "prop" Reader.text)

/-- Reads a container, its children apart; nothing is a container of the kind of components. -/
def Container.fields? : NodeKind → Option (Fields Container)
  | .page => some (Container.page <$> Fields.optional "title" Reader.text
      <*> Fields.withDefault "dataSources" [] (Reader.list DataSource.reader))
  | .section => some (Container.section <$> Fields.optional "title" Reader.text
      <*> Fields.optional "payload" Payload.reader)
  | .grid => some (Container.grid <$> Fields.required "columns" Reader.uint8)
  | .stack => some (Container.stack
      <$> Fields.withDefault "direction" .vertical (innerWord Direction))
  | .twoColumn => some (Container.twoColumn <$> Fields.optional "ratio" Reader.text)
  | .threeColumn => some (pure .threeColumn)
  | .sidebar => some (Container.sidebar <$> Fields.withDefault "side" .left (innerWord Side)
      <*> Fields.optional "width" Reader.text)
  | .block => some (pure .block)
  | .component => none

/-- Reads an instance of a component, its slots apart. -/
def Component.fields : Fields Component :=
  Component.mk <$> Fields.required "component" Reader.text
    <*> Fields.withDefault "props" [] Reader.members <*> Fields.optional "variant" Reader.text
    <*> Fields.withDefault "bind" [] (Reader.list Binding.reader)

namespace Node

/-- The kinds of node as variants of a tagged value. -/
def tagForm (byPlace : Bool) : TagForm where
  title := "internally tagged enum Node"
  tag := "type"
  names := Vocabulary.words NodeKind
  byPlace := byPlace

/-- The kind that the members of a node name. -/
def kindOf? (byPlace : Bool) (members : Members) : Option NodeKind := do
  let tag ← members.lookup "type"
  let name ← ((tagForm byPlace).variant tag).toOption
  Vocabulary.ofWord? name

/-- The fields of a node that are no nodes. -/
inductive Head where
  | container (envelope : Envelope) (body : Container)
  | component (envelope : Envelope) (element : Component)

/-- Reads the fields of a node that are no nodes. -/
def head? (byPlace : Bool) (members : Members) : Option Head := do
  let kind ← kindOf? byPlace members
  let envelope ← (Envelope.fields (.keyed members)).toOption
  match Container.fields? kind with
  | some fields => some (.container envelope (← (fields (.keyed members)).toOption))
  | none => some (.component envelope (← (Component.fields (.keyed members)).toOption))

mutual

/-- Reads a node; `byPlace` says whether its kind may be given by its place. -/
def read? (byPlace : Bool) : Json → Option Node
  | .object members => do
    match ← head? byPlace members with
    | .container envelope body => some (.container envelope body (← readChildren? members))
    | .component envelope element => some (.component envelope element (← readSlots? members))
  | _ => none

/-- Reads the children among the members of a container. -/
def readChildren? : List (String × Json) → Option (List Node)
  | [] => some []
  | (key, value) :: later => if key = childrenKey then readList? value else readChildren? later

/-- Reads the slots among the members of a component. -/
def readSlots? : List (String × Json) → Option (List (String × List Node))
  | [] => some []
  | (key, value) :: later => if key = slotsKey then readTable? value else readSlots? later

/-- Reads a table of lists of nodes. -/
def readTable? : Json → Option (List (String × List Node))
  | .object members => readEntries? members
  | _ => none

/-- Reads the entries of a table of lists of nodes. -/
def readEntries? : List (String × Json) → Option (List (String × List Node))
  | [] => some []
  | (key, value) :: later => return (key, ← readList? value) :: (← readEntries? later)

/-- Reads a list of nodes. -/
def readList? : Json → Option (List Node)
  | .array items => readItems? items
  | _ => none

/-- Reads the items of a list of nodes. -/
def readItems? : List Json → Option (List Node)
  | [] => some []
  | item :: later => return (← read? true item) :: (← readItems? later)

end

/-- The node tree that a value spells. -/
def ofJson? (value : Json) : Option Node := read? false value

end Node
end Formwright
