import Formwright.Lowering
import Formwright.Node.Address

/-!
# Walks over pages

A walk over the page of a document makes a known list of stops: at the nodes that frame the page,
and in between at the component of every field and at the button of every action, in document order.
So a page has a known number of nodes, and the ids of its nodes come from known keys.
-/
namespace Formwright

namespace Node

/-- A walk over two lists is the walks over both. -/
theorem walkAll_append (front back : List Node) :
    walkAll (front ++ back) = walkAll front ++ walkAll back := by
  induction front with
  | nil => rfl
  | cons node later ih => rw [List.cons_append, walkAll, walkAll, ih, List.append_assoc]

/-- A walk over nodes with nothing below them comes to these nodes only. -/
theorem walkAll_eq_self {nodes : List Node} (leaves : ∀ node ∈ nodes, node.walk = [node]) :
    walkAll nodes = nodes := by
  induction nodes with
  | nil => rfl
  | cons node later ih =>
    rw [List.forall_mem_cons] at leaves
    rw [walkAll, leaves.1, ih leaves.2, List.singleton_append]

/-- The component that a node is an instance of. -/
def component? : Node → Option String
  | .container .. => none
  | .component _ element _ => some element.component

end Node

namespace Lowering
open Node

/-! ## Marks -/

/-- What a node says of the field or the action that it shows. -/
structure Mark where
  dataUiId : String
  name : Option String
  component : Option String
deriving DecidableEq

/-- The mark of a node, if it shows something. -/
def mark? (node : Node) : Option Mark :=
  node.envelope.dataUiId.map fun dataUiId => ⟨dataUiId, node.envelope.name, node.component?⟩

/-- The marks of a node and the nodes below it, in the order of a walk. -/
def marks (node : Node) : List Mark := node.walk.filterMap mark?

/-- The mark of a field: its id, its name and its control. -/
def Mark.ofField (field : Field) : Mark :=
  ⟨field.id, some field.name, some (Vocabulary.word field.control)⟩

/-- The mark of an action: its id, on a button. -/
def Mark.ofAction (action : Action) : Mark := ⟨action.id, none, some "Button"⟩

/-! ## Stops -/

/-- A stop of a walk over a page. -/
inductive Stop where
  /-- At a node that shows neither a field nor an action. -/
  | frame (key : String)
  | field (field : Field)
  | action (action : Action)

namespace Stop

/-- The key that the id of the node at a stop is made of. -/
def key : Stop → String
  | .frame held => held
  | .field shown => shown.id
  | .action shown => shown.id

/-- The mark of the node at a stop. -/
def mark? : Stop → Option Mark
  | .frame _ => none
  | .field shown => some (.ofField shown)
  | .action shown => some (.ofAction shown)

end Stop

/-- The stops at the fields of a document in their layout. -/
def layoutStops (scaffold : Option Scaffold) (fields : List Field) : List Stop :=
  .frame "fields" ::
    match scaffold with
    | some .twoColumn =>
      let half := (fields.length + 1) / 2
      .frame "fields/left" :: (fields.take half).map .field
        ++ .frame "fields/right" :: (fields.drop half).map .field
    | _ => fields.map .field

/-- The stop at the description of a document, if it has one. -/
def descriptionStops (description : Option String) : List Stop :=
  (description.map fun _ => .frame "description").toList

/-- The stops at the row of actions of a document, if it has any. -/
def actionStops (actions : List Action) : List Stop :=
  if actions.isEmpty then [] else .frame "actions" :: actions.map .action

/-- The stops in the section of a document. -/
def sectionStops (document : Document) : List Stop :=
  match document.scaffold with
  | some .formAuth =>
    .frame "card" :: (document.fields.map .field ++ document.actions.map .action)
  | scaffold =>
    descriptionStops document.description ++ layoutStops scaffold document.fields
      ++ actionStops document.actions

/-- The stops of a walk over the page of a document. -/
def stops (document : Document) : List Stop :=
  .frame "page" :: .frame "section" :: sectionStops document

/-! ## The walk -/

section

variable (ids : IdSource)

/-- The node at a stop has the id and the mark that the stop tells. -/
def Stop.shown (stop : Stop) : NodeId × Option Mark := (ids.id stop.key, stop.mark?)

/-- The id and the mark of a node. -/
def shown (node : Node) : NodeId × Option Mark := (node.id, mark? node)

/-- A walk over the components of fields stops at each of them. -/
theorem map_shown_fieldNodes (fields : List Field) :
    (walkAll (fields.map (fieldNode ids))).map shown =
      (fields.map Stop.field).map (Stop.shown ids) := by
  rw [walkAll_eq_self (List.forall_mem_map.mpr fun _ _ => rfl), List.map_map, List.map_map]
  exact List.map_congr_left fun field _ => rfl

/-- A walk over the buttons of actions stops at each of them. -/
theorem map_shown_actionNodes (actions : List Action) :
    (walkAll (actions.map (actionNode ids))).map shown =
      (actions.map Stop.action).map (Stop.shown ids) := by
  rw [walkAll_eq_self (List.forall_mem_map.mpr fun _ _ => rfl), List.map_map, List.map_map]
  exact List.map_congr_left fun action _ => rfl

section

variable {ids} {envelope : Envelope} {key : String}

/-- A walk over a container that frames the page stops at it first. -/
theorem map_shown_container (made : envelope.id = ids.id key) (unmarked : envelope.dataUiId = none)
    (body : Container) (children : List Node) :
    (Node.container envelope body children).walk.map shown =
      Stop.shown ids (.frame key) :: (walkAll children).map shown := by
  rw [walk, List.map_cons]
  simp [shown, Stop.shown, Stop.key, Stop.mark?, mark?, Node.id, Node.envelope, made, unmarked]

/-- A walk over a component that frames the page stops at it first. -/
theorem map_shown_component (made : envelope.id = ids.id key) (unmarked : envelope.dataUiId = none)
    (element : Component) (slots : List (String × List Node)) :
    (Node.component envelope element slots).walk.map shown =
      Stop.shown ids (.frame key) :: (walkSlots slots).map shown := by
  rw [walk, List.map_cons]
  simp [shown, Stop.shown, Stop.key, Stop.mark?, mark?, Node.id, Node.envelope, made, unmarked]

end

/-- The walk over the card of a document. -/
theorem map_shown_card (document : Document) (fields : List Field) (actions : List Action) :
    (card ids document (fields.map (fieldNode ids)) (actions.map (actionNode ids))).walk.map shown =
      (Stop.frame "card" :: (fields.map .field ++ actions.map .action)).map (Stop.shown ids) := by
  rw [List.map_cons, List.map_append, ← map_shown_fieldNodes, ← map_shown_actionNodes, card,
    map_shown_component rfl rfl]
  cases actions <;> simp [walkSlots, walkAll]

/-- The walk over the layout of the fields. -/
theorem map_shown_fieldBody (scaffold : Option Scaffold) (fields : List Field) :
    (fieldBody ids scaffold (fields.map (fieldNode ids))).walk.map shown =
      (layoutStops scaffold fields).map (Stop.shown ids) := by
  have all := map_shown_fieldNodes ids
  have single (body : Container) :
      (Node.container (named (ids.id "fields") "fields") body
        (fields.map (fieldNode ids))).walk.map shown =
        (Stop.frame "fields" :: fields.map .field).map (Stop.shown ids) := by
    rw [map_shown_container rfl rfl, all, List.map_cons]
  cases scaffold with
  | none => exact single _
  | some scaffold =>
    cases scaffold with
    | formAuth | settingsPage | dashboard => exact single _
    | twoColumn =>
      simp only [fieldBody, layoutStops, List.length_map, ← List.map_take, ← List.map_drop]
      rw [map_shown_container rfl rfl, walkAll, walkAll, walkAll, List.append_nil, List.map_append,
        map_shown_container rfl rfl, map_shown_container rfl rfl, all, all]
      simp only [List.map_cons, List.map_append, List.cons_append]

/-- The walk over the description of a document. -/
theorem map_shown_description (description : Option String) :
    (walkAll (description.map (descriptionNode ids)).toList).map shown =
      (descriptionStops description).map (Stop.shown ids) := by
  cases description <;> rfl

/-- The walk over the row of actions of a document. -/
theorem map_shown_actionRow (actions : List Action) :
    (walkAll (if (actions.map (actionNode ids)).isEmpty then []
      else [.container (named (ids.id "actions") "actions") (.stack .horizontal)
        (actions.map (actionNode ids))])).map shown =
      (actionStops actions).map (Stop.shown ids) := by
  rw [List.isEmpty_map, actionStops]
  split
  · rfl
  · rw [walkAll, walkAll, List.append_nil, map_shown_container rfl rfl, map_shown_actionNodes,
      List.map_cons]

/-- The walk over what stands in the section of a document. -/
theorem map_shown_sectionBody (document : Document) :
    (walkAll (sectionBody ids document)).map shown =
      (sectionStops document).map (Stop.shown ids) := by
  have layout (scaffold : Option Scaffold) :
      (walkAll ((document.description.map (descriptionNode ids)).toList
        ++ [fieldBody ids scaffold (document.fields.map (fieldNode ids))]
        ++ if (document.actions.map (actionNode ids)).isEmpty then []
          else [.container (named (ids.id "actions") "actions") (.stack .horizontal)
            (document.actions.map (actionNode ids))])).map shown =
      (descriptionStops document.description ++ layoutStops scaffold document.fields
        ++ actionStops document.actions).map (Stop.shown ids) := by
    rw [walkAll_append, walkAll_append, List.map_append, List.map_append, map_shown_description,
      map_shown_actionRow, walkAll, walkAll, List.append_nil, map_shown_fieldBody, List.map_append,
      List.map_append]
  unfold sectionBody sectionStops
  cases document.scaffold with
  | none => exact layout none
  | some scaffold =>
    cases scaffold with
    | formAuth =>
      simp only
      rw [walkAll, walkAll, List.append_nil, map_shown_card]
    | settingsPage | dashboard | twoColumn => exact layout _

end

/-- The walk over the page of a document makes the stops of the document. -/
theorem map_shown_page (document : Document) :
    (page document).walk.map shown = (stops document).map (Stop.shown ⟨document.fingerprint⟩) := by
  rw [page, map_shown_container rfl rfl, walkAll, walkAll, List.append_nil,
    map_shown_container rfl rfl, map_shown_sectionBody]
  rfl

end Lowering
end Formwright
