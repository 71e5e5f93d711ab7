import Formwright.Document.Writer
import Formwright.Node.Basic

/-!
# Writing node trees

A node as a JSON value: its kind, its envelope, the fields of its kind and the nodes below it. Texts
and other values that are absent are left out, and so are empty slots and bindings; the children of
a container and the props of a component are always there.
-/
namespace Formwright

/-- The members of what a node says to assistive technology. -/
def Accessibility.toJson (a11y : Accessibility) : Json :=
  .object (optionalMember "role" a11y.role .string ++ optionalMember "label" a11y.label .string
    ++ optionalMember "labelledBy" a11y.labelledBy .string
    ++ optionalMember "describedBy" a11y.describedBy .string
    ++ optionalMember "live" a11y.live wordJson ++ optionalMember "hidden" a11y.hidden .bool)

/-- A layout as a value. -/
def Layout.toJson (layout : Layout) : Json :=
  .object (optionalMember "width" layout.width .string
    ++ optionalMember "height" layout.height .string
    ++ optionalMember "maxWidth" layout.maxWidth .string
    ++ optionalMember "padding" layout.padding wordJson
    ++ optionalMember "margin" layout.margin wordJson ++ optionalMember "gap" layout.gap wordJson
    ++ optionalMember "align" layout.align wordJson
    ++ optionalMember "justify" layout.justify wordJson)

/-- An id as a value. -/
def NodeId.toJson (nodeId : NodeId) : Json := .string nodeId.print

/-- The members of an envelope. -/
def Envelope.members (envelope : Envelope) : Members :=
  [("id", envelope.id.toJson)] ++ optionalMember "name" envelope.name .string
    ++ optionalMember "a11y" envelope.accessibility Accessibility.toJson
    ++ optionalMember "layout" envelope.layout Layout.toJson
    ++ optionalMember "testId" envelope.testId .string
    ++ optionalMember "dataUiId" envelope.dataUiId .string

/-- A data source as a value. -/
def DataSource.toJson (source : DataSource) : Json :=
  match source.origin with
  | .placeholder description =>
    .object ([("type", .string "placeholder"), ("id", .string source.id)]
      ++ optionalMember "description" description .string)
  | .static data => .object [("type", .string "static"), ("id", .string source.id), ("data", data)]
  | .url url method refreshMs =>
    .object ([("type", .string "url"), ("id", .string source.id), ("url", .string url)]
      ++ optionalMember "method" method wordJson
      ++ optionalMember "refreshMs" refreshMs fun ms => .ofNat ms.toNat)

/-- A payload as a value. -/
def Payload.toJson (payload : Payload) : Json :=
  match payload.view with
  | .table columns =>
    .object [("kind", .string "dataTable"), ("dataSourceId", .string payload.dataSourceId),
      ("columns", .array (columns.map .string))]
  | .chart kind =>
    .object [("kind", .string "chart"), ("dataSourceId", .string payload.dataSourceId),
      ("chartType", wordJson kind)]

/-- A binding as a value. -/
def Binding.toJson (binding : Binding) : Json :=
  .object [("sourceId", .string binding.sourceId), ("path", .string binding.path),
    ("prop", .string binding.prop)]

/-- The members of a container, its children apart. -/
def Container.members : Container → Members
  | .page title dataSources =>
    optionalMember "title" title .string
      ++ [("dataSources", .array (dataSources.map DataSource.toJson))]
  | .section title payload =>
    optionalMember "title" title .string ++ optionalMember "payload" payload Payload.toJson
  | .grid columns => [("columns", .ofNat columns.toNat)]
  | .stack direction => [("direction", wordJson direction)]
  | .twoColumn ratio => optionalMember "ratio" ratio .string
  | .threeColumn => []
  | .sidebar side width => [("side", wordJson side)] ++ optionalMember "width" width .string
  | .block => []

/-- The members of an instance of a component, its slots apart. -/
def Component.members (element : Component) : Members :=
  [("component", .string element.component), ("props", .object element.props)]
    ++ optionalMember "variant" element.variant .string
    ++ nonEmptyMember "bind" element.bindings Binding.toJson

namespace Node

mutual

/-- A node as a value. -/
def toJson : Node → Json
  | .container envelope body children =>
    .object ([("type", wordJson body.kind)] ++ envelope.members ++ body.members
      ++ [(childrenKey, .array (toJsonAll children))])
  | .component envelope element slots =>
    .object ([("type", wordJson NodeKind.component)] ++ envelope.members ++ element.members
      ++ (if slots.isEmpty then [] else [(slotsKey, .object (toJsonSlots slots))]))

/-- Nodes as values. -/
def toJsonAll : List Node → List Json
  | [] => []
  | node :: later => toJson node :: toJsonAll later

/-- Slots as members. -/
def toJsonSlots : List (String × List Node) → List (String × Json)
  | [] => []
  | (key, nodes) :: later => (key, .array (toJsonAll nodes)) :: toJsonSlots later

end

end Node
end Formwright
