import Formwright.Node.Address
import Formwright.Text.Words
import Mathlib.Data.List.TakeWhile

/-!
# Well-formed trees

What a node tree must satisfy beyond its type, so that it can be written and accepted again: ids of
version 4, grids of 1 to 12 columns, one of three ratios, and names that are not blank wherever
something is referred to by name. It is told node by node and asked of every node of the tree.
-/
namespace Formwright

namespace Text

/-- A text without the characters that it is trimmed of is empty exactly when it has no others. -/
theorem trimBy_eq_nil_iff (drops : Char → Bool) (text : List Char) :
    trimBy drops text = [] ↔ ∀ c ∈ text, drops c = true := by
  rw [trimBy, List.reverse_eq_nil_iff, List.dropWhile_eq_nil_iff]
  simp only [List.mem_reverse]
  constructor
  · intro rest
    rw [← List.takeWhile_append_dropWhile (p := drops) (l := text)]
    intro c member
    rcases List.mem_append.mp member with first | later
    · exact List.mem_takeWhile_imp first
    · exact rest c later
  · intro all c member
    exact all c ((List.dropWhile_sublist drops).mem member)

/-- A text that is not blank: one of its characters is no white space. -/
def IsFilled (text : String) : Prop := ∃ c ∈ text.toList, isBlank c = false

instance (text : String) : Decidable (IsFilled text) :=
  decidable_of_iff (text.toList.any (!isBlank ·)) (by simp [IsFilled])

/-- Trimming leaves something exactly of a text that is not blank. -/
theorem isEmpty_trim_iff (text : String) :
    (trim text.toList).isEmpty = true ↔ ¬IsFilled text := by
  rw [List.isEmpty_iff, trim, trimBy_eq_nil_iff]
  simp [IsFilled]

end Text

open Text

/-- A source of data with an id and, where it is requested, with an address. -/
def DataSource.WellFormed (source : DataSource) : Prop :=
  IsFilled source.id ∧
    match source.origin with
    | .url url _ _ => IsFilled url
    | _ => True

/-- A payload that names a data source. -/
def Payload.WellFormed (payload : Payload) : Prop := IsFilled payload.dataSourceId

/-- A binding that names a data source, a place in it and a prop. -/
def Binding.WellFormed (binding : Binding) : Prop :=
  IsFilled binding.sourceId ∧ IsFilled binding.path ∧ IsFilled binding.prop

/-- A container whose own fields are well formed. -/
def Container.WellFormed : Container → Prop
  | .page _ dataSources => ∀ source ∈ dataSources, source.WellFormed
  | .section _ payload => ∀ held, payload = some held → held.WellFormed
  | .grid columns => 1 ≤ columns.toNat ∧ columns.toNat ≤ 12
  | .twoColumn ratio => ∀ held, ratio = some held → held = "1:1" ∨ held = "1:2" ∨ held = "2:1"
  | .stack _ | .threeColumn | .sidebar .. | .block => True

/-- An instance of a component that names one and whose bindings are well formed. -/
def Component.WellFormed (element : Component) : Prop :=
  IsFilled element.component ∧ ∀ binding ∈ element.bindings, binding.WellFormed

namespace Node

/-- A node that is well formed by itself. -/
def IsSound : Node → Prop
  | .container envelope body _ => envelope.id.version.val = 4 ∧ body.WellFormed
  | .component envelope element _ => envelope.id.version.val = 4 ∧ element.WellFormed

/-- A tree of which every node is well formed. -/
def WellFormed (tree : Node) : Prop := ∀ node ∈ tree.walk, node.IsSound

end Node
end Formwright
