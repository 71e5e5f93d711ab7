import Formwright.Lowering
import Formwright.Proofs.Node.Id
import Formwright.Proofs.Node.WellFormed
import Formwright.Proofs.Registry.DesignSystem
import Formwright.Proofs.Validation.Registry

/-!
# Pages under the design system

Every node of the page of a document is well formed, and the design system allows all that it uses,
whatever the document holds: each way to make a node is covered by what the design system offers.
-/
namespace Formwright.Lowering
open ComponentRegistry RegistryCheck Text

/-- The node is well formed by itself, and the design system has nothing to say of it. -/
structure IsAccepted (node : Node) : Prop where
  sound : node.IsSound
  conforms : Conforms designSystem node
  known : KnowsProps designSystem node

/-- The ids of a page are of version 4. -/
theorem version_id (ids : IdSource) (key : String) : (ids.id key).version.val = 4 :=
  NodeId.version_derived _

section

variable {envelope : Envelope} {body : Container} {children : List Node} {element : Component}
  {slots : List (String × List Node)} {variants slotNames propNames : List String}

/-- A well-formed container is accepted throughout where its children are. -/
theorem container_accepted (version : envelope.id.version.val = 4) (wellFormed : body.WellFormed)
    (below : ∀ child ∈ children, child.Throughout IsAccepted) :
    (Node.container envelope body children).Throughout IsAccepted :=
  (Node.throughout_container_iff ..).mpr ⟨⟨⟨version, wellFormed⟩, trivial, trivial⟩, below⟩

/-- An instance of a component without bindings that uses nothing but what the design system offers
is accepted throughout where the nodes in its slots are. -/
theorem component_accepted
    (offers : designSystem.Offers element.component variants slotNames propNames)
    (version : envelope.id.version.val = 4) (filled : IsFilled element.component)
    (unbound : element.bindings = [])
    (variant : ∀ variant, element.variant = some variant → variant ∈ variants)
    (slotted : ∀ slot ∈ slots.map Prod.fst, slot ∈ slotNames)
    (described : ∀ prop ∈ element.props.map Prod.fst, prop ∈ propNames)
    (below : ∀ slot ∈ slots, ∀ node ∈ slot.2, node.Throughout IsAccepted) :
    (Node.component envelope element slots).Throughout IsAccepted := by
  obtain ⟨entry, found, allowed, declared, knows⟩ := offers
  have wellFormed : element.WellFormed := ⟨filled, by simp [unbound]⟩
  have known : KnowsProps designSystem (.component envelope element slots) := by
    intro other same prop used
    obtain rfl := Option.some.inj (found.symm.trans same)
    simp [knows prop (described prop used)]
  exact (Node.throughout_component_iff ..).mpr ⟨⟨⟨version, wellFormed⟩,
    ⟨entry, found, fun held present => allowed held (variant held present),
      fun slot used => declared slot (slotted slot used)⟩, known⟩, below⟩

end

/-- Props are named as their entries are. -/
theorem mem_keys_of_mem_props {entries : List (String × Option Json)} {prop : String}
    (named : prop ∈ (props entries).map Prod.fst) : prop ∈ entries.map Prod.fst := by
  rw [props, mem_keys_sortNamed] at named
  simp only [List.mem_map, List.mem_filterMap, Option.map_eq_some_iff] at named ⊢
  obtain ⟨_, ⟨entry, listed, _, _, rfl⟩, rfl⟩ := named
  exact ⟨entry, listed, rfl⟩

/-! ## The nodes of a page -/

/-- The props of a field besides those that all controls have are named by its control. -/
theorem keys_controlProps (field : Field) :
    (controlProps field).map Prod.fst = field.control.ownProps := by
  unfold controlProps
  cases field.control <;> rfl

/-- The props of an action besides its label are among those of buttons. -/
theorem mem_keys_actionProps {action : Action} {prop : String}
    (named : prop ∈ (actionProps action).map Prod.fst) : prop ∈ ["type", "href"] := by
  have keys : (actionProps action).map Prod.fst = ["type"] ∨
      (actionProps action).map Prod.fst = ["href"] := by
    unfold actionProps
    cases action.kind with
    | submit | button => exact .inl rfl
    | link => exact .inr rfl
  rcases keys with type | href
  · rw [type, List.mem_singleton] at named
    exact List.mem_cons.mpr (.inl named)
  · rw [href] at named
    exact List.mem_cons_of_mem "type" named

/-- The variant of an action is one of buttons. -/
theorem mem_actionVariant (action : Action) :
    actionVariant action ∈ ["default", "secondary", "outline", "ghost", "destructive", "link"] := by
  unfold actionVariant
  cases action.kind <;> cases action.variant <;> decide

section

variable (ids : IdSource)

/-- The component of a field is accepted. -/
theorem fieldNode_accepted (field : Field) : (fieldNode ids field).Throughout IsAccepted := by
  have filled : IsFilled (Vocabulary.word field.control) := by cases field.control <;> decide
  refine component_accepted (designSystem_offers_control field.control) (version_id ids _) filled
    rfl nofun nofun (fun prop used => ?_) nofun
  have named := mem_keys_of_mem_props used
  rwa [List.map_append, keys_controlProps] at named

/-- The button of an action is accepted. -/
theorem actionNode_accepted (action : Action) : (actionNode ids action).Throughout IsAccepted := by
  refine component_accepted designSystem_offers_button (version_id ids _)
    (show IsFilled "Button" by decide) rfl (fun variant shown => ?_) nofun (fun prop used => ?_)
    nofun
  · exact Option.some.inj shown ▸ mem_actionVariant action
  · have named := mem_keys_of_mem_props used
    rw [List.map_append, List.mem_append] at named
    exact List.mem_cons.mpr (named.imp List.mem_singleton.mp mem_keys_actionProps)

/-- The text that describes a document is accepted. -/
theorem descriptionNode_accepted (text : String) :
    (descriptionNode ids text).Throughout IsAccepted :=
  component_accepted designSystem_offers_text (version_id ids _) (show IsFilled "Text" by decide)
    rfl (fun _ shown => List.mem_singleton.mpr (Option.some.inj shown).symm) nofun
    (fun _ used => used) nofun

variable {fields actions : List Node}

/-- The card around fields and actions is accepted where they are. -/
theorem card_accepted (document : Document)
    (fieldsAccepted : ∀ node ∈ fields, node.Throughout IsAccepted)
    (actionsAccepted : ∀ node ∈ actions, node.Throughout IsAccepted) :
    (card ids document fields actions).Throughout IsAccepted := by
  refine component_accepted designSystem_offers_card (version_id ids _)
    (show IsFilled "Card" by decide) rfl nofun ?slotted (fun _ used => mem_keys_of_mem_props used)
    ?below
  case slotted =>
    cases actions <;> simp
  case below =>
    rw [List.forall_mem_append, List.forall_mem_singleton]
    refine ⟨fieldsAccepted, ?_⟩
    split
    · nofun
    · exact List.forall_mem_singleton.mpr actionsAccepted

/-- The layout that the fields stand in is accepted where they are. -/
theorem fieldBody_accepted (scaffold : Option Scaffold)
    (fieldsAccepted : ∀ node ∈ fields, node.Throughout IsAccepted) :
    (fieldBody ids scaffold fields).Throughout IsAccepted := by
  unfold fieldBody
  split
  · refine container_accepted (version_id ids _) (by simp [Container.WellFormed]) ?_
    rw [List.forall_mem_cons, List.forall_mem_singleton]
    exact ⟨container_accepted (version_id ids _) trivial fun child taken =>
        fieldsAccepted child (List.mem_of_mem_take taken),
      container_accepted (version_id ids _) trivial fun child left =>
        fieldsAccepted child (List.mem_of_mem_drop left)⟩
  · exact container_accepted (version_id ids _) (by simp [Container.WellFormed]) fieldsAccepted
  · exact container_accepted (version_id ids _) trivial fieldsAccepted

/-- What stands in the section of a document is accepted. -/
theorem sectionBody_accepted (document : Document) :
    ∀ node ∈ sectionBody ids document, node.Throughout IsAccepted := by
  have fieldsAccepted : ∀ node ∈ document.fields.map (fieldNode ids),
      node.Throughout IsAccepted :=
    List.forall_mem_map.mpr fun field _ => fieldNode_accepted ids field
  have actionsAccepted : ∀ node ∈ document.actions.map (actionNode ids),
      node.Throughout IsAccepted :=
    List.forall_mem_map.mpr fun action _ => actionNode_accepted ids action
  unfold sectionBody
  split
  · exact List.forall_mem_singleton.mpr (card_accepted ids document fieldsAccepted actionsAccepted)
  · simp only [List.forall_mem_append, List.forall_mem_singleton]
    refine ⟨⟨?description, fieldBody_accepted ids _ fieldsAccepted⟩, ?actions⟩
    case description =>
      intro node shown
      obtain ⟨text, _, rfl⟩ := Option.map_eq_some_iff.mp (Option.mem_toList.mp shown)
      exact descriptionNode_accepted ids text
    case actions =>
      split
      · nofun
      · exact List.forall_mem_singleton.mpr
          (container_accepted (version_id ids _) trivial actionsAccepted)

end

/-- The page of a document is accepted throughout. -/
theorem page_accepted (document : Document) : (page document).Throughout IsAccepted := by
  refine container_accepted (version_id _ _) nofun (List.forall_mem_singleton.mpr ?_)
  exact container_accepted (version_id _ _) nofun (sectionBody_accepted _ document)

end Formwright.Lowering
