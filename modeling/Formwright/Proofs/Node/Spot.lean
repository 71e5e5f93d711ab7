import Formwright.Proofs.Json.Alike
import Formwright.Proofs.Node.Rewriting

/-!
# The vocabulary of documents of trees

Inside a document of a tree, what a value is read as is told by the key that it stands under and by
what it stands in. Each object that is read as a node or as a record inside a node has a vocabulary
of its own, which depends on its kind or its variant. All other keys are foreign to it, those of
other kinds included.
-/
namespace Formwright
open Json

/-- What an object, a table or a list inside a document is read as. -/
inductive Spot where
  /-- A node; `byPlace` says whether its kind may be given by its place. -/
  | node (byPlace : Bool)
  | accessibility
  | layout
  | payload
  | dataSource
  | binding
  /-- A list of nodes. -/
  | nodes
  /-- A table of lists of nodes. -/
  | slots
  | dataSources
  | bindings
deriving DecidableEq

/-! ## Vocabularies -/

/-- The keys of a variant of data sources that stand beside its type and its id. -/
def DataSource.variantKeys : String → List String
  | "placeholder" => ["description"]
  | "static" => ["data"]
  | _ => ["url", "method", "refreshMs"]

/-- The keys of a variant of payloads that stand beside its kind. -/
def Payload.variantKeys : String → List String
  | "dataTable" => ["dataSourceId", "columns"]
  | _ => ["dataSourceId", "chartType"]

/-- What stands under the keys of an envelope and is no simple value. -/
def Envelope.spots : List (String × Spot) := [("a11y", .accessibility), ("layout", .layout)]

/-- What stands under the keys of a kind and is no simple value. -/
def NodeKind.spots : NodeKind → List (String × Spot)
  | .page => [("dataSources", .dataSources), (Node.childrenKey, .nodes)]
  | .section => [("payload", .payload), (Node.childrenKey, .nodes)]
  | .grid | .stack | .twoColumn | .threeColumn | .sidebar | .block => [(Node.childrenKey, .nodes)]
  | .component => [("bind", .bindings), (Node.slotsKey, .slots)]

namespace Node

/-- The keys of a node with the given members: those of all nodes and, if it names a kind, those of
the kind. -/
def vocabulary (byPlace : Bool) (members : Members) : List String :=
  "type" :: Envelope.keys ++ ((kindOf? byPlace members).map NodeKind.keys).getD []

/-- What stands under the keys of a node with the given members and is no simple value. -/
def spots (byPlace : Bool) (members : Members) : List (String × Spot) :=
  Envelope.spots ++ ((kindOf? byPlace members).map NodeKind.spots).getD []

end Node

namespace Spot

/-- The vocabulary of an object with the given members that is read as a node or as a record. -/
def vocabulary? (members : Members) : Spot → Option (List String)
  | .node byPlace => some (Node.vocabulary byPlace members)
  | .accessibility => some Accessibility.keys
  | .layout => some Layout.keys
  | .payload =>
    some ("kind" :: ((Payload.tagForm.named? members).map Payload.variantKeys).getD [])
  | .dataSource =>
    some ("type" :: "id" ::
      ((DataSource.tagForm.named? members).map DataSource.variantKeys).getD [])
  | .binding => some Binding.keys
  | .nodes | .slots | .dataSources | .bindings => none

/-- What the value under a key of an object with the given members is read as, if it is no simple
value. -/
def below? (members : Members) (name : String) : Spot → Option Spot
  | .node byPlace => (Node.spots byPlace members).lookup name
  | .slots => some .nodes
  | _ => none

/-- What the items of a list are read as. -/
def item? : Spot → Option Spot
  | .nodes => some (.node true)
  | .dataSources => some .dataSource
  | .bindings => some .binding
  | _ => none

end Spot

/-- A document becomes another one when a key with a value is put into an object inside it that is
read as a node or as a record inside a node, and the key is foreign to the object. -/
inductive Extends (key : String) (value : Json) : Spot → Json → Json → Prop where
  | here {spot : Spot} {members : Members} {keys : List String}
      (known : spot.vocabulary? members = some keys) (foreign : key ∉ keys) :
      Extends key value spot (.object members) (.object (insertNamed key value members))
  | member {spot inner : Spot} {before after : Members} {name : String} {held held' : Json}
      (read : spot.below? (before ++ (name, held) :: after) name = some inner)
      (first : name ∉ before.map Prod.fst) (below : Extends key value inner held held') :
      Extends key value spot (.object (before ++ (name, held) :: after))
        (.object (before ++ (name, held') :: after))
  | item {spot inner : Spot} {before after : List Json} {held held' : Json}
      (read : spot.item? = some inner) (below : Extends key value inner held held') :
      Extends key value spot (.array (before ++ held :: after)) (.array (before ++ held' :: after))

end Formwright
