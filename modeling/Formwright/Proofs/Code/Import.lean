import Formwright.Code.Import
import Formwright.Proofs.Code.Spelling
import Formwright.Proofs.Json.Parsed

/-!
# Imports of generated code

Every component that is imported is imported once, from the module of the component that it is a
part of. The modules and the components of each stand in increasing order.
-/
namespace Formwright.Code

/-! ## Texts in order -/

/-- Putting texts in order keeps them. -/
theorem mem_sortTexts {texts : List String} {text : String} :
    text ∈ sortTexts texts ↔ text ∈ texts := by
  simp [sortTexts, mem_keys_sortNamed]

/-- Texts that are put in order are in order, each once. -/
theorem pairwise_sortTexts (texts : List String) : (sortTexts texts).Pairwise (· < ·) :=
  isSorted_sortNamed _

/-! ## Components and modules -/

section

variable {document : Document} {options : Options}

/-- The components that an import names are those of the document that lie in its module. -/
theorem mem_names_iff {used : Import} (listed : used ∈ imports document options) {name : String} :
    name ∈ used.names ↔
      name ∈ usedComponents document ∧ modulePath options name = used.module := by
  obtain ⟨module, -, rfl⟩ := List.mem_map.mp listed
  simp [mem_sortTexts]

/-- A component of the document is named by an import. -/
theorem exists_import (options : Options) {name : String} (used : name ∈ usedComponents document) :
    ∃ found ∈ imports document options, name ∈ found.names := by
  have path : modulePath options name ∈
      sortTexts ((sortTexts (usedComponents document)).map (modulePath options)) :=
    mem_sortTexts.mpr (List.mem_map.mpr ⟨name, mem_sortTexts.mpr used, rfl⟩)
  have listed := List.mem_map_of_mem path (f := fun module =>
    (⟨module, (sortTexts (usedComponents document)).filter
      fun component => modulePath options component == module⟩ : Import))
  exact ⟨_, listed, by simp [mem_sortTexts, used]⟩

/-- The modules of imports. -/
theorem map_module_imports :
    (imports document options).map Import.module =
      sortTexts ((sortTexts (usedComponents document)).map (modulePath options)) := by
  simp [imports, Function.comp_def]

/-- Every import names a component. -/
theorem names_ne_nil {used : Import} (listed : used ∈ imports document options) :
    used.names ≠ [] := by
  have path := List.mem_map_of_mem (f := Import.module) listed
  rw [map_module_imports, mem_sortTexts, List.mem_map] at path
  obtain ⟨name, component, same⟩ := path
  exact List.ne_nil_of_mem ((mem_names_iff listed).mpr ⟨mem_sortTexts.mp component, same⟩)

/-- Imports with one module are one. -/
theorem eq_of_module_eq {first second : Import} (listed : first ∈ imports document options)
    (listed' : second ∈ imports document options) (same : first.module = second.module) :
    first = second := by
  obtain ⟨module, -, rfl⟩ := List.mem_map.mp listed
  obtain ⟨module', -, rfl⟩ := List.mem_map.mp listed'
  obtain rfl : module = module' := same
  rfl

/-- A component is named by one import only. -/
theorem existsUnique_import {name : String} (used : name ∈ usedComponents document) :
    ∃! found, found ∈ imports document options ∧ name ∈ found.names := by
  obtain ⟨found, listed, named⟩ := exists_import options used
  refine ⟨found, ⟨listed, named⟩, fun other ⟨otherListed, otherNamed⟩ => ?_⟩
  refine eq_of_module_eq otherListed listed ?_
  rw [← ((mem_names_iff otherListed).mp otherNamed).2, ((mem_names_iff listed).mp named).2]

/-- The modules of imports stand in increasing order. -/
theorem pairwise_modules : ((imports document options).map Import.module).Pairwise (· < ·) := by
  rw [map_module_imports]
  exact pairwise_sortTexts _

/-- The components of an import stand in increasing order. -/
theorem pairwise_names {used : Import} (listed : used ∈ imports document options) :
    used.names.Pairwise (· < ·) := by
  obtain ⟨module, -, rfl⟩ := List.mem_map.mp listed
  exact (pairwise_sortTexts _).filter _

end

/-- A path is what stands before the slashes at its end, and those slashes. -/
theorem exists_trailingSlashes (path : String) :
    ∃ slashes : List Char, path = withoutTrailingSlashes path ++ String.ofList slashes ∧
      (∀ c ∈ slashes, c = '/') ∧ (withoutTrailingSlashes path).toList.getLast? ≠ some '/' := by
  refine ⟨(path.toList.reverse.takeWhile (· == '/')).reverse, ?_, ?_, ?_⟩
  · rw [← String.toList_inj, withoutTrailingSlashes, String.toList_append, String.toList_ofList,
      String.toList_ofList, ← List.reverse_append, List.takeWhile_append_dropWhile,
      List.reverse_reverse]
  · intro c member
    simpa using List.all_eq_true.mp List.all_takeWhile c (List.mem_reverse.mp member)
  · rw [withoutTrailingSlashes, String.toList_ofList, List.getLast?_reverse]
    intro slash
    have stopped := List.head?_dropWhile_not (· == '/') path.toList.reverse
    simp [slash] at stopped

/-- The component that a component is a part of. -/
def rootComponent (component : String) : String :=
  if "Select".toList.isPrefixOf component.toList then "Select"
  else if "Card".toList.isPrefixOf component.toList then "Card"
  else component

/-- A component lies in the module of the component that it is a part of. -/
theorem moduleName_eq (component : String) :
    moduleName component = kebabCase (rootComponent component) := by
  unfold moduleName rootComponent compoundRoots
  rw [List.find?_cons, List.find?_cons, List.find?_nil]
  cases "Select".toList.isPrefixOf component.toList with
  | true => rfl
  | false => cases "Card".toList.isPrefixOf component.toList <;> rfl

/-- A character that is not in upper case stays in kebab case. -/
theorem kebabChar_of_not_isUpper {c : Char} (plain : c.isUpper = false) :
    kebabChar c = [c.toLower] := by
  rw [kebabChar, if_neg (by simp [plain]), Text.toLower_of_not_isUpper plain]

/-- A word starts in upper case and goes on otherwise. -/
def IsCapitalized (word : List Char) : Prop :=
  ∃ first later, word = first :: later ∧ first.isUpper = true ∧ ∀ c ∈ later, c.isUpper = false

/-- Every word in kebab case has a hyphen before it. -/
theorem IsCapitalized.flatMap_kebabChar {word : List Char} (sound : IsCapitalized word) :
    word.flatMap kebabChar = '-' :: word.map Char.toLower := by
  obtain ⟨first, later, rfl, upper, plain⟩ := sound
  have below : later.flatMap kebabChar = later.map Char.toLower := by
    rw [List.map_eq_flatMap]
    exact List.flatMap_congr fun c member => kebabChar_of_not_isUpper (plain c member)
  rw [List.flatMap_cons, below, kebabChar, if_pos upper]
  rfl

/-- Words are put together by a mark before each but the first. -/
theorem intercalate_cons_eq_flatMap (mark : Char) (first : List Char) (later : List (List Char)) :
    [mark].intercalate (first :: later) = first ++ later.flatMap (mark :: ·) := by
  induction later generalizing first with
  | nil => simp
  | cons next later ih => rw [List.intercalate_cons_cons, ih]; simp

/-- A name of words that start in upper case and go on otherwise is, in kebab case, its words in
lower case with hyphens between them. -/
theorem kebabCase_flatten {words : List (List Char)} (sound : ∀ word ∈ words, IsCapitalized word) :
    kebabCase (String.ofList words.flatten) =
      String.ofList (['-'].intercalate (words.map (List.map Char.toLower))) := by
  have hyphened : words.flatten.flatMap kebabChar =
      words.flatMap fun word => '-' :: word.map Char.toLower := by
    rw [List.flatten_eq_flatMap, List.flatMap_assoc]
    exact List.flatMap_congr fun word member => (sound word member).flatMap_kebabChar
  cases words with
  | nil => rfl
  | cons word others =>
    obtain ⟨first, later, rfl, upper, -⟩ := sound word List.mem_cons_self
    rw [List.map_cons, intercalate_cons_eq_flatMap, List.flatMap_map]
    -- The first letter alone would get a hyphen in the middle of a name.
    have whole : '-' :: first.toLower :: (later ++ others.flatten).flatMap kebabChar =
        '-' :: ((first :: later).map Char.toLower
          ++ others.flatMap fun word => '-' :: word.map Char.toLower) := by
      simpa [kebabChar, upper] using hyphened
    rw [kebabCase, String.toList_ofList]
    exact congrArg String.ofList (List.cons.inj whole).2

example : kebabCase "DatePicker" = "date-picker" := by decide

/-- The components of the design system that markup can use. -/
def markupComponents : List String := ["Label", "Input", "Textarea", "Select", "SelectContent",
  "SelectItem", "SelectTrigger", "SelectValue", "Checkbox", "DatePicker", "FileUpload", "Button",
  "Card", "CardContent", "CardFooter", "CardHeader", "CardTitle", "CardDescription", "Separator"]

/-- The components that a document uses are some that markup can use. -/
theorem mem_markupComponents {document : Document} {name : String}
    (used : name ∈ usedComponents document) : name ∈ markupComponents := by
  have controls (control : Control) : ∀ name ∈ "Label" :: controlComponents control,
      name ∈ markupComponents := by
    cases control <;> decide
  have scaffolds : ∀ name ∈ scaffoldComponents document, name ∈ markupComponents := by
    unfold scaffoldComponents
    split
    · split <;> decide
    · decide
    · nofun
  simp only [usedComponents, List.mem_append, List.mem_flatMap] at used
  rcases used with (⟨field, -, part⟩ | button) | part
  · exact controls field.control name part
  · split at button
    · contradiction
    · obtain rfl := List.mem_singleton.mp button
      decide
  · exact scaffolds name part

/-- The name of a component starts and goes on like an identifier. -/
theorem isName_of_mem_usedComponents {document : Document} {name : String}
    (used : name ∈ usedComponents document) : isName name = true := by
  have all : ∀ name ∈ markupComponents, isName name = true := by decide
  exact all name (mem_markupComponents used)

end Formwright.Code
