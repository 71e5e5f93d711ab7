import Formwright.Json.Basic

/-!
# Component registries

A registry says which components a node tree may use and what is known of each: its variants, its
props and its slots. It is always handed to those who need it.
-/
namespace Formwright

/-- What is known of a component's role for assistive technology. -/
structure RoleNotes where
  role : Option String := none
  notes : Option String := none
deriving DecidableEq, Repr

/-- What a registry says of one component. -/
structure RegistryEntry where
  /-- The module that the component is imported from. -/
  source : String
  variants : Option (List String) := none
  /-- The types of the known props, by name. -/
  props : Option (List (String × String)) := none
  slots : Option (List String) := none
  accessibility : Option RoleNotes := none
deriving DecidableEq, Repr

namespace RegistryEntry

/-- Whether a variant is allowed: any is, unless there are variants to choose from. -/
def allowsVariant (entry : RegistryEntry) (variant : String) : Bool :=
  match entry.variants with
  | some (first :: later) => variant ∈ first :: later
  | _ => true

/-- Whether a slot is declared; without declarations no slot is. -/
def allowsSlot (entry : RegistryEntry) (slot : String) : Bool :=
  match entry.slots with
  | some slots => slot ∈ slots
  | none => false

/-- Whether a prop is known, where the entry describes its props at all. -/
def knowsProp (entry : RegistryEntry) (prop : String) : Option Bool :=
  entry.props.map fun props => (props.lookup prop).isSome

/-- An entry with the given variants. -/
def withVariants (entry : RegistryEntry) (variants : List String) : RegistryEntry :=
  { entry with variants := some variants }

/-- An entry with the given props; of several with one name the last counts. -/
def withProps (entry : RegistryEntry) (props : List (String × String)) : RegistryEntry :=
  { entry with props := some (sortNamed props) }

/-- An entry with the given slots. -/
def withSlots (entry : RegistryEntry) (slots : List String) : RegistryEntry :=
  { entry with slots := some slots }

/-- An entry with the given role. -/
def withRole (entry : RegistryEntry) (role : String) : RegistryEntry :=
  { entry with accessibility := some { role } }

end RegistryEntry

/-- The components that node trees may use. -/
structure ComponentRegistry where
  /-- The entries in increasing order of their names. -/
  components : List (String × RegistryEntry) := []
deriving DecidableEq, Repr

namespace ComponentRegistry

/-- The registry without components. -/
def empty : ComponentRegistry := {}

/-- The entry of a component. -/
def get? (registry : ComponentRegistry) (name : String) : Option RegistryEntry :=
  registry.components.lookup name

/-- Whether a component is in the registry. -/
def contains (registry : ComponentRegistry) (name : String) : Bool := (registry.get? name).isSome

/-- The names of the registered components, in their order. -/
def names (registry : ComponentRegistry) : List String := registry.components.map Prod.fst

/-- The number of components. -/
def size (registry : ComponentRegistry) : Nat := registry.components.length

/-- Whether the registry has no components. -/
def isEmpty (registry : ComponentRegistry) : Bool := registry.components.isEmpty

/-- The registry with an entry for a component, in place of any that it had. -/
def insert (registry : ComponentRegistry) (name : String) (entry : RegistryEntry) :
    ComponentRegistry :=
  ⟨insertNamed name entry registry.components⟩

/-- The registry with all entries of another one, which take the place of its own. -/
def extend (registry other : ComponentRegistry) : ComponentRegistry :=
  other.components.foldl (fun merged entry => merged.insert entry.1 entry.2) registry

end ComponentRegistry
end Formwright
