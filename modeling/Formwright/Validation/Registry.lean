import Formwright.Diagnostic
import Formwright.Node.Basic
import Formwright.Pointer
import Formwright.Registry.Basic

/-!
# Node trees against a registry

A check of a node tree that is read already: its components must be in the registry, with a variant
and slots that the registry allows, and props that it does not know are warned of. Below a component
that is not in the registry nothing is checked.
-/
namespace Formwright.RegistryCheck

/-- A text in double quotes. -/
def doubleQuoted (text : String) : String := "\"" ++ text ++ "\""

/-- The error of a component that is not in the registry. -/
def unknownComponent (path component : String) : Diagnostic :=
  .ofError Diagnostic.invalidComponent ("Unknown component " ++ doubleQuoted component ++ ".")
    (Pointer.push path "component")

/-- The error of a variant that an entry does not allow. -/
def variantFaults (entry : RegistryEntry) (path : String) (element : Component) :
    List Diagnostic :=
  match element.variant with
  | some variant =>
    if entry.allowsVariant variant then []
    else [.ofError Diagnostic.invalidVariant
      ("Variant " ++ doubleQuoted variant ++ " is not defined for component "
        ++ doubleQuoted element.component ++ ". Allowed: "
        ++ ", ".intercalate (entry.variants.getD []) ++ ".")
      (Pointer.push path "variant")]
  | none => []

/-- The errors of the slots that an entry does not declare. -/
def slotFaults (entry : RegistryEntry) (path component : String) (slots : List String) :
    List Diagnostic :=
  (slots.filter fun slot => !entry.allowsSlot slot).map fun slot =>
    .ofError Diagnostic.invalidSlot
      ("Slot " ++ doubleQuoted slot ++ " is not defined for component "
        ++ doubleQuoted component ++ ".")
      (Pointer.push (Pointer.push path Node.slotsKey) slot)

/-- The warnings of the props that an entry does not know. -/
def propWarnings (entry : RegistryEntry) (path : String) (element : Component) :
    List Diagnostic :=
  ((element.props.map Prod.fst).filter fun prop => entry.knowsProp prop == some false).map
    fun prop =>
      .ofWarning Diagnostic.unknownProp
        ("Prop " ++ doubleQuoted prop ++ " is not documented for component "
          ++ doubleQuoted element.component ++ ".")
        (Pointer.push (Pointer.push path "props") prop)

/-- What an entry has to say of a component that uses the given slots. -/
def entryDiagnostics (entry : RegistryEntry) (path : String) (element : Component)
    (slots : List String) : List Diagnostic :=
  variantFaults entry path element ++ slotFaults entry path element.component slots
    ++ propWarnings entry path element

mutual

/-- The diagnostics of a node and of all nodes below it. -/
def node (registry : ComponentRegistry) (path : String) : Node → List Diagnostic
  | .container _ _ children => nodesFrom registry (Pointer.push path Node.childrenKey) 0 children
  | .component _ element slots =>
    match registry.get? element.component with
    | none => [unknownComponent path element.component]
    | some entry =>
      entryDiagnostics entry path element (slots.map Prod.fst)
        ++ slotNodes registry (Pointer.push path Node.slotsKey) slots

/-- The diagnostics of the nodes of a list, from an index on. -/
def nodesFrom (registry : ComponentRegistry) (path : String) (place : Nat) :
    List Node → List Diagnostic
  | [] => []
  | child :: later =>
    node registry (Pointer.index path place) child ++ nodesFrom registry path (place + 1) later

/-- The diagnostics of the nodes in some slots. -/
def slotNodes (registry : ComponentRegistry) (path : String) :
    List (String × List Node) → List Diagnostic
  | [] => []
  | (slot, nodes) :: later =>
    nodesFrom registry (Pointer.push path slot) 0 nodes ++ slotNodes registry path later

end

end Formwright.RegistryCheck
