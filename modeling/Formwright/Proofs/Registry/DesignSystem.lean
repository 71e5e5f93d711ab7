import Formwright.Document.Basic
import Formwright.Proofs.Json.Lookup
import Formwright.Registry.DesignSystem

/-!
# What the design system offers

The variants, slots and props that the entries of the design system allow for the components that
pages are made of.
-/
namespace Formwright

attribute [local simp] lookup_cons_ite

namespace RegistryEntry

variable (entry : RegistryEntry)

/-- An entry knows exactly the props that it is given. -/
@[simp]
theorem knowsProp_withProps (props : List (String × String)) (prop : String) :
    (entry.withProps props).knowsProp prop = some (decide (prop ∈ props.map Prod.fst)) := by
  simp only [withProps, knowsProp, Option.map_some, Option.some.injEq]
  rw [Bool.eq_iff_iff, decide_eq_true_iff, isSome_lookup_iff, mem_keys_sortNamed]

/-- A role is no matter of props. -/
@[simp]
theorem knowsProp_withRole (role prop : String) :
    (entry.withRole role).knowsProp prop = entry.knowsProp prop := rfl

/-- Slots are no matter of props. -/
@[simp]
theorem knowsProp_withSlots (slots : List String) (prop : String) :
    (entry.withSlots slots).knowsProp prop = entry.knowsProp prop := rfl

end RegistryEntry

namespace Control

/-- The props that every control of a field may be given. -/
def sharedProps : List String :=
  ["name", "label", "placeholder", "helperText", "required", "defaultValue"]

/-- The props that a control may be given besides. -/
def ownProps : Control → List String
  | .input => ["type", "minLength", "maxLength", "pattern"]
  | .textarea => ["minLength", "maxLength"]
  | .select => ["options"]
  | .checkbox | .datePicker | .fileUpload => []

end Control

namespace ComponentRegistry

/-- The registry has an entry for a component that allows all of some variants, slots and props. -/
def Offers (registry : ComponentRegistry) (component : String)
    (variants slots props : List String) : Prop :=
  ∃ entry, registry.get? component = some entry ∧
    (∀ variant ∈ variants, entry.allowsVariant variant) ∧ (∀ slot ∈ slots, entry.allowsSlot slot) ∧
    ∀ prop ∈ props, entry.knowsProp prop = some true

/-- The design system knows the props of every control. -/
theorem designSystem_offers_control (control : Control) :
    designSystem.Offers (Vocabulary.word control) [] []
      (Control.sharedProps ++ control.ownProps) := by
  cases control <;>
    refine ⟨_, by simp [designSystem, get?, lookup_sortNamed, Vocabulary.word]; rfl, nofun, nofun,
      ?_⟩ <;>
    simp only [controlEntry, RegistryEntry.knowsProp_withProps, RegistryEntry.knowsProp_withRole,
      Option.some.injEq, decide_eq_true_iff] <;>
    decide

/-- The design system allows the variants of the buttons of actions and knows their props. -/
theorem designSystem_offers_button :
    designSystem.Offers "Button"
      ["default", "secondary", "outline", "ghost", "destructive", "link"] []
      ["label", "type", "href"] := by
  refine ⟨_, by simp [designSystem, get?, lookup_sortNamed]; rfl, by decide, nofun, ?_⟩
  simp only [RegistryEntry.knowsProp_withProps, RegistryEntry.knowsProp_withRole,
    Option.some.injEq, decide_eq_true_iff]
  decide

/-- The design system allows muted texts and knows their props. -/
theorem designSystem_offers_text : designSystem.Offers "Text" ["muted"] [] ["text"] := by
  refine ⟨_, by simp [designSystem, get?, lookup_sortNamed]; rfl, by decide, nofun, ?_⟩
  simp only [RegistryEntry.knowsProp_withProps, Option.some.injEq, decide_eq_true_iff]
  decide

/-- The design system allows the slots of cards and knows their props. -/
theorem designSystem_offers_card :
    designSystem.Offers "Card" [] ["content", "footer"] ["title", "description"] := by
  refine ⟨_, by simp [designSystem, get?, lookup_sortNamed]; rfl, nofun, by decide, ?_⟩
  simp only [RegistryEntry.knowsProp_withProps, RegistryEntry.knowsProp_withSlots,
    Option.some.injEq, decide_eq_true_iff]
  decide

end ComponentRegistry

end Formwright
