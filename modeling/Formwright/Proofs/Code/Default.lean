import Formwright.Code.Generator
import Formwright.Proofs.Document.Canonical

/-!
# Defaults in generated code

The default of a field is read in one place of the generated code, the initial state, and there it
is printed. So documents that are alike have the same code.
-/
namespace Formwright.Code
open Json

/-! ## Code without defaults -/

/-- The imports of a document do not depend on defaults. -/
theorem imports_withoutDefaults (document : Document) (options : Options) :
    imports document.withoutDefaults options = imports document options := by
  have used : usedComponents document.withoutDefaults = usedComponents document := by
    simp only [usedComponents, Document.withoutDefaults, List.flatMap_map]
    rfl
  simp only [imports, used]

/-- The name of the component does not depend on defaults. -/
theorem componentName_withoutDefaults (document : Document) (options : Options) :
    componentName document.withoutDefaults options = componentName document options := rfl

/-- The rule table does not depend on defaults. -/
theorem ruleTable_withoutDefault (fields : List Field) :
    ruleTable (fields.map Field.withoutDefault) = ruleTable fields := by
  simp only [ruleTable, List.filter_map, List.isEmpty_map, List.flatMap_map]
  rfl

/-- The markup of a document does not depend on defaults. -/
theorem markupLines_withoutDefaults (document : Document) :
    markupLines document.withoutDefaults = markupLines document := by
  have blocks : allFields document.withoutDefaults = allFields document := by
    simp only [allFields, Document.withoutDefaults, List.flatMap_map]
    rfl
  have fields (style : PageStyle) : pageFields style document.withoutDefaults =
      pageFields style document := by
    simp only [pageFields, blocks]
    simp only [Document.withoutDefaults, List.isEmpty_map]
  have cards : cardLines document.withoutDefaults = cardLines document := by
    simp only [cardLines, blocks]
    rfl
  have pages (style : PageStyle) : pageLines style document.withoutDefaults =
      pageLines style document := by
    simp only [pageLines, fields]
    rfl
  simp only [markupLines, cards, pages]
  rfl

/-! ## Defaults as they are printed -/

/-- The value that a field starts with is told by the field without its default and the outline of
the default. -/
theorem initialValue_eq {left right : Field} (same : left.withoutDefault = right.withoutDefault)
    (alike : left.defaultValue.map outline = right.defaultValue.map outline) :
    initialValue left = initialValue right := by
  have controls : left.control = right.control := by
    simpa only [Field.withoutDefault] using congrArg Field.control same
  unfold initialValue
  cases held : left.defaultValue with
  | none =>
    have absent : right.defaultValue = none := by simpa [held, eq_comm] using alike
    simp only [absent, controls]
  | some value =>
    obtain ⟨value', present, printed⟩ : ∃ value', right.defaultValue = some value' ∧
        value'.outline = value.outline := by simpa [held, eq_comm] using alike
    simp only [present, (render_eq_iff _ _).mpr printed]

/-- The entry of a field in the initial state is told by the field without its default and the
outline of the default. -/
theorem stateEntry_eq {left right : Field} (same : left.withoutDefault = right.withoutDefault)
    (alike : left.defaultValue.map outline = right.defaultValue.map outline) :
    stateEntry left = stateEntry right := by
  have names : left.name = right.name := by
    simpa only [Field.withoutDefault] using congrArg Field.name same
  rw [stateEntry, stateEntry, names, initialValue_eq same alike]

/-- Documents that are alike have the same state. -/
theorem stateLines_eq {left right : Document} (alike : left.Alike right) :
    stateLines left.fields = stateLines right.fields := by
  have fields : left.fields.map Field.withoutDefault = right.fields.map Field.withoutDefault :=
    congrArg Document.fields alike.withoutDefaults
  have pairs : (left.fields.map fun field =>
        (field.withoutDefault, field.defaultValue.map outline)) =
      right.fields.map fun field => (field.withoutDefault, field.defaultValue.map outline) := by
    rw [← List.zip_map', ← List.zip_map', fields]
    exact congrArg _ alike.defaultOutlines
  have entries : left.fields.map stateEntry = right.fields.map stateEntry :=
    map_eq_map_of_told (fun _ _ paired =>
      stateEntry_eq (congrArg Prod.fst paired) (congrArg Prod.snd paired)) pairs
  have empty : left.fields.isEmpty = right.fields.isEmpty := by
    simpa only [List.isEmpty_map] using congrArg List.isEmpty entries
  rw [stateLines, stateLines, entries, empty]

/-- Documents that are alike have the same code. -/
theorem generate_eq_of_alike {left right : Document} (alike : left.Alike right)
    (options : Options) : generate left options = generate right options := by
  have same := alike.withoutDefaults
  have used : imports left options = imports right options := by
    rw [← imports_withoutDefaults, same, imports_withoutDefaults]
  have rules : ruleTable left.fields = ruleTable right.fields := by
    rw [← ruleTable_withoutDefault left.fields, ← ruleTable_withoutDefault right.fields]
    exact congrArg (fun document => ruleTable document.fields) same
  have markup : markupLines left = markupLines right := by
    rw [← markupLines_withoutDefaults, same, markupLines_withoutDefaults]
  have name : componentName left options = componentName right options := by
    rw [← componentName_withoutDefaults, same, componentName_withoutDefaults]
  simp only [generate, sourceLines, componentLines, used, rules, markup, name,
    stateLines_eq alike]

end Formwright.Code
