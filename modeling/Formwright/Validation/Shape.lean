import Formwright.Diagnostic
import Formwright.Node.Basic
import Formwright.Pointer

/-!
# The shape of node documents

A check of a JSON value that should spell a node tree. It reports everything that is wrong with the
value at once, each problem with the pointer to it, and ignores keys that it does not know. A value
without any such problem is read as a node tree.
-/
namespace Formwright.Shape

/-- A problem of shape. -/
def fault (path message : String) : List Diagnostic :=
  [.ofError Diagnostic.schemaError message path]

/-- A value of another kind than expected. -/
def unexpected (path expected : String) (value : Json) : List Diagnostic :=
  fault path ("Expected " ++ expected ++ ", received " ++ value.kindName)

/-- A field that is left out and must not be. -/
def missing (path key : String) : List Diagnostic :=
  fault (Pointer.push path key) ("Required field \"" ++ key ++ "\" is missing")

/-- A check of the value of a field. -/
abbrev Check := String → Json → List Diagnostic

/-- Checks a field where it is present. -/
def optional (members : Members) (key path : String) (check : Check) : List Diagnostic :=
  match members.lookup key with
  | some value => check (Pointer.push path key) value
  | none => []

/-- Checks a field that must be present. -/
def required (members : Members) (key path : String) (check : Check) : List Diagnostic :=
  match members.lookup key with
  | some value => check (Pointer.push path key) value
  | none => missing path key

/-- The value is a text. -/
def text : Check := fun path value =>
  match value with
  | .string _ => []
  | other => unexpected path "string" other

/-- The value is a text that is not blank. -/
def filledText : Check := fun path value =>
  match value with
  | .string held =>
    if (Text.trim held.toList).isEmpty then fault path "String must not be empty" else []
  | other => unexpected path "string" other

/-- The value is a truth value. -/
def truth : Check := fun path value =>
  match value with
  | .bool _ => []
  | other => unexpected path "boolean" other

/-- The value is any value. -/
def anything : Check := fun _ _ => []

/-- A word in single quotes. -/
def quotedWord (word : String) : String := "'" ++ word ++ "'"

/-- The value is one of some words. -/
def oneOf (words : List String) : Check := fun path value =>
  match value with
  | .string held =>
    if held ∈ words then []
    else fault path ("Invalid enum value. Expected " ++ " | ".intercalate (words.map quotedWord)
      ++ ", received " ++ quotedWord held)
  | other => unexpected path "string" other

/-- The value is an object whose members pass a check. -/
def object (check : String → Members → List Diagnostic) : Check := fun path value =>
  match value with
  | .object members => check path members
  | other => unexpected path "object" other

/-- Checks the items of a list, from an index on. -/
def itemsFrom (check : Check) (path : String) : Nat → List Json → List Diagnostic
  | _, [] => []
  | place, item :: later =>
    check (Pointer.index path place) item ++ itemsFrom check path (place + 1) later

/-- The value is a list whose items pass a check. -/
def list (check : Check) : Check := fun path value =>
  match value with
  | .array items => itemsFrom check path 0 items
  | other => unexpected path "array" other

/-! ## The fields of nodes -/

/-- The value is an id of version 4. -/
def nodeId : Check := fun path value =>
  match value with
  | .string held =>
    if NodeId.isVersion4 held then [] else fault path ("Invalid uuid: " ++ quotedWord held)
  | other => unexpected path "string" other

/-- Checks what a node says to assistive technology. -/
def accessibility (path : String) (members : Members) : List Diagnostic :=
  (["role", "label", "labelledBy", "describedBy"].flatMap fun key =>
      optional members key path text)
    ++ optional members "live" path (oneOf (Vocabulary.words LiveRegion))
    ++ optional members "hidden" path truth

/-- Checks a layout. -/
def layout (path : String) (members : Members) : List Diagnostic :=
  (["width", "height", "maxWidth"].flatMap fun key => optional members key path text)
    ++ (["padding", "margin", "gap"].flatMap fun key =>
      optional members key path (oneOf (Vocabulary.words Spacing)))
    ++ optional members "align" path (oneOf (Vocabulary.words Align))
    ++ optional members "justify" path (oneOf (Vocabulary.words Justify))

/-- Checks what every node carries. -/
def envelope (path : String) (members : Members) : List Diagnostic :=
  required members "id" path nodeId
    ++ (["name", "testId", "dataUiId"].flatMap fun key => optional members key path text)
    ++ optional members "a11y" path (object accessibility)
    ++ optional members "layout" path (object layout)

/-- The value is a number of columns. -/
def columns : Check := fun path value =>
  match value.natural? with
  | some count =>
    if 1 ≤ count && count ≤ 12 then []
    else fault path
      ("Grid columns must be between 1 and 12, received " ++ toString count)
  | none => unexpected path "integer" value

/-- The value is a number of milliseconds. -/
def milliseconds : Check := fun path value =>
  match value.natural? with
  | some _ => []
  | none => unexpected path "non-negative integer" value

/-- Checks the fields of a tagged value that its tag decides on, once the tag is one of its
words. -/
def tagged (members : Members) (key path : String) (words : List String)
    (fields : String → List Diagnostic) : List Diagnostic :=
  required members key path fun tagPath tag =>
    match tag with
    | .string held => if held ∈ words then fields held else oneOf words tagPath tag
    | _ => oneOf words tagPath tag

/-- Checks a data source. -/
def dataSource (path : String) (members : Members) : List Diagnostic :=
  required members "id" path filledText
    ++ tagged members "type" path ["placeholder", "static", "url"] fun kind =>
      match kind with
      | "placeholder" => optional members "description" path text
      | "static" => required members "data" path anything
      | _ =>
        required members "url" path filledText
          ++ optional members "method" path (oneOf (Vocabulary.words HttpMethod))
          ++ optional members "refreshMs" path milliseconds

/-- Checks a payload. -/
def payload (path : String) (members : Members) : List Diagnostic :=
  tagged members "kind" path ["dataTable", "chart"] fun kind =>
    required members "dataSourceId" path filledText
      ++ match kind with
        | "dataTable" => optional members "columns" path (list text)
        | _ => required members "chartType" path (oneOf (Vocabulary.words ChartKind))

/-- Checks a binding. -/
def binding (path : String) (members : Members) : List Diagnostic :=
  ["sourceId", "path", "prop"].flatMap fun key => required members key path filledText

/-- Checks the fields of a node that its kind decides on and that stand before the nodes below
it. -/
def ownFields (kind : NodeKind) (path : String) (members : Members) : List Diagnostic :=
  match kind with
  | .page =>
    optional members "title" path text
      ++ optional members "dataSources" path (list (object dataSource))
  | .section =>
    optional members "title" path text ++ optional members "payload" path (object payload)
  | .grid => required members "columns" path columns
  | .stack => optional members "direction" path (oneOf (Vocabulary.words Direction))
  | .twoColumn => optional members "ratio" path (oneOf columnRatios)
  | .sidebar =>
    optional members "side" path (oneOf (Vocabulary.words Side))
      ++ optional members "width" path text
  | .threeColumn | .block => []
  | .component =>
    required members "component" path filledText
      ++ optional members "props" path (object fun _ _ => [])
      ++ optional members "variant" path text

/-- Checks the fields of a node that stand after the nodes below it. -/
def lastFields (kind : NodeKind) (path : String) (members : Members) : List Diagnostic :=
  match kind with
  | .component => optional members "bind" path (list (object binding))
  | _ => []

/-- Checks the tag of a node. -/
def kindTag : Check := oneOf (Vocabulary.words NodeKind)

/-- The kind that a node names, if it names one. -/
def kind? (members : Members) : Option NodeKind := do
  Vocabulary.ofWord? (← (← members.lookup "type").string?)

/-! ## Nodes -/

mutual

/-- Checks a node and everything below it. Without a kind only its envelope can be checked. -/
def node (path : String) : Json → List Diagnostic
  | .object members =>
    required members "type" path kindTag ++ envelope path members
      ++ match kind? members with
        | none => []
        | some kind =>
          ownFields kind path members
            ++ (if kind.isContainer then children path members else slots path members)
            ++ lastFields kind path members
  | other => unexpected path "node object" other

/-- Checks the children among the members of a container. -/
def children (path : String) : List (String × Json) → List Diagnostic
  | [] => []
  | (key, value) :: later =>
    if key = Node.childrenKey then nodes (Pointer.push path Node.childrenKey) value
    else children path later

/-- Checks the slots among the members of a component. -/
def slots (path : String) : List (String × Json) → List Diagnostic
  | [] => []
  | (key, value) :: later =>
    if key = Node.slotsKey then slotTable (Pointer.push path Node.slotsKey) value
    else slots path later

/-- Checks the slots of a component. -/
def slotTable (path : String) : Json → List Diagnostic
  | .object members => slotEntries path members
  | other => unexpected path "object" other

/-- Checks the entries of the slots of a component. -/
def slotEntries (path : String) : List (String × Json) → List Diagnostic
  | [] => []
  | (slot, value) :: later => nodes (Pointer.push path slot) value ++ slotEntries path later

/-- Checks a list of nodes. -/
def nodes (path : String) : Json → List Diagnostic
  | .array items => nodesFrom path 0 items
  | other => unexpected path "array" other

/-- Checks the nodes of a list, from an index on. -/
def nodesFrom (path : String) (place : Nat) : List Json → List Diagnostic
  | [] => []
  | item :: later => node (Pointer.index path place) item ++ nodesFrom path (place + 1) later

end

end Formwright.Shape
