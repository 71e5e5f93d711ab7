import Formwright.Json.Basic
import Formwright.Node.Id
import Formwright.Vocabulary

/-!
# Node trees

A page is a tree of nodes. A node is a container with a list of children or an instance of a
component with named slots, each of which holds a list of nodes. Nothing in a tree points upwards.
-/
namespace Formwright

/-- How a change of a node is announced to assistive technology. -/
inductive LiveRegion where
  | off
  | polite
  | assertive
deriving DecidableEq, Repr

instance : Vocabulary LiveRegion where
  members := [.off, .polite, .assertive]
  word
    | .off => "off"
    | .polite => "polite"
    | .assertive => "assertive"

/-- What a node says to assistive technology. -/
structure Accessibility where
  role : Option String := none
  label : Option String := none
  labelledBy : Option String := none
  describedBy : Option String := none
  live : Option LiveRegion := none
  hidden : Option Bool := none
deriving DecidableEq, Repr

/-- A step of the spacing scale. -/
inductive Spacing where
  | none
  | xs
  | sm
  | md
  | lg
  | xl
deriving DecidableEq, Repr

instance : Vocabulary Spacing where
  members := [.none, .xs, .sm, .md, .lg, .xl]
  word
    | .none => "none"
    | .xs => "xs"
    | .sm => "sm"
    | .md => "md"
    | .lg => "lg"
    | .xl => "xl"

/-- How content is aligned across its direction. -/
inductive Align where
  | start
  | center
  | finish
  | stretch
deriving DecidableEq, Repr

instance : Vocabulary Align where
  members := [.start, .center, .finish, .stretch]
  word
    | .start => "start"
    | .center => "center"
    | .finish => "end"
    | .stretch => "stretch"

/-- How content is distributed along its direction. -/
inductive Justify where
  | start
  | center
  | finish
  | between
  | around
deriving DecidableEq, Repr

instance : Vocabulary Justify where
  members := [.start, .center, .finish, .between, .around]
  word
    | .start => "start"
    | .center => "center"
    | .finish => "end"
    | .between => "between"
    | .around => "around"

/-- The size and the spacing of a node. -/
structure Layout where
  width : Option String := none
  height : Option String := none
  maxWidth : Option String := none
  padding : Option Spacing := none
  margin : Option Spacing := none
  gap : Option Spacing := none
  align : Option Align := none
  justify : Option Justify := none
deriving DecidableEq, Repr

/-- What every node carries. -/
structure Envelope where
  id : NodeId
  name : Option String := none
  accessibility : Option Accessibility := none
  layout : Option Layout := none
  testId : Option String := none
  dataUiId : Option String := none
deriving DecidableEq, Repr

/-- How data is requested. -/
inductive HttpMethod where
  | get
  | post
deriving DecidableEq, Repr

instance : Vocabulary HttpMethod where
  members := [.get, .post]
  word
    | .get => "GET"
    | .post => "POST"

/-- Where the data of a source comes from. -/
inductive DataOrigin where
  | placeholder (description : Option String)
  | static (data : Json)
  | url (url : String) (method : Option HttpMethod) (refreshMs : Option UInt64)
deriving Repr

/-- A source of data. -/
structure DataSource where
  id : String
  origin : DataOrigin
deriving Repr

/-- The kinds of chart. -/
inductive ChartKind where
  | bar
  | line
  | area
  | pie
deriving DecidableEq, Repr

instance : Vocabulary ChartKind where
  members := [.bar, .line, .area, .pie]
  word
    | .bar => "bar"
    | .line => "line"
    | .area => "area"
    | .pie => "pie"

/-- How a section shows its data. -/
inductive DataView where
  | table (columns : List String)
  | chart (kind : ChartKind)
deriving DecidableEq, Repr

/-- What a section shows of a data source. -/
structure Payload where
  dataSourceId : String
  view : DataView
deriving DecidableEq, Repr

/-- The direction that a stack runs in. -/
inductive Direction where
  | vertical
  | horizontal
deriving DecidableEq, Repr

instance : Vocabulary Direction where
  members := [.vertical, .horizontal]
  word
    | .vertical => "vertical"
    | .horizontal => "horizontal"

/-- The side that a sidebar stands on. -/
inductive Side where
  | left
  | right
deriving DecidableEq, Repr

instance : Vocabulary Side where
  members := [.left, .right]
  word
    | .left => "left"
    | .right => "right"

/-- A prop that takes its value from a place in a data source. -/
structure Binding where
  sourceId : String
  path : String
  prop : String
deriving DecidableEq, Repr

/-- The kinds of node. -/
inductive NodeKind where
  | page
  | section
  | grid
  | stack
  | twoColumn
  | threeColumn
  | sidebar
  | block
  | component
deriving DecidableEq, Repr

instance : Vocabulary NodeKind where
  members := [.page, .section, .grid, .stack, .twoColumn, .threeColumn, .sidebar, .block,
    .component]
  word
    | .page => "page"
    | .section => "section"
    | .grid => "grid"
    | .stack => "stack"
    | .twoColumn => "twoColumn"
    | .threeColumn => "threeColumn"
    | .sidebar => "sidebar"
    | .block => "block"
    | .component => "component"

/-- Whether nodes of a kind have children. -/
def NodeKind.isContainer (kind : NodeKind) : Bool := kind != .component

/-- The ratios that two columns can stand in. -/
def columnRatios : List String := ["1:1", "1:2", "2:1"]

/-- A container without its children. -/
inductive Container where
  | page (title : Option String) (dataSources : List DataSource)
  | section (title : Option String) (payload : Option Payload)
  | grid (columns : UInt8)
  | stack (direction : Direction)
  | twoColumn (ratio : Option String)
  | threeColumn
  | sidebar (side : Side) (width : Option String)
  | block
deriving Repr

/-- The kind of a container. -/
def Container.kind : Container → NodeKind
  | .page .. => .page
  | .section .. => .section
  | .grid .. => .grid
  | .stack .. => .stack
  | .twoColumn .. => .twoColumn
  | .threeColumn => .threeColumn
  | .sidebar .. => .sidebar
  | .block => .block

/-- An instance of a registry component without its slots. -/
structure Component where
  /-- The name of the component in the registry. -/
  component : String
  props : Members := []
  variant : Option String := none
  bindings : List Binding := []
deriving Repr

/-- A node with everything below it. -/
inductive Node where
  | container (envelope : Envelope) (body : Container) (children : List Node)
  | component (envelope : Envelope) (element : Component) (slots : List (String × List Node))
deriving Repr

namespace Node

/-- What the node carries whatever it is. -/
def envelope : Node → Envelope
  | .container envelope _ _ => envelope
  | .component envelope _ _ => envelope

/-- The id of a node. -/
def id (node : Node) : NodeId := node.envelope.id

/-- The kind of a node. -/
def kind : Node → NodeKind
  | .container _ body _ => body.kind
  | .component .. => .component

/-- The children of a container. -/
def children? : Node → Option (List Node)
  | .container _ _ children => some children
  | .component .. => none

/-- The key of the children of a container. -/
def childrenKey : String := "children"

/-- The key of the slots of a component. -/
def slotsKey : String := "slots"

end Node
end Formwright
