import Formwright.Proofs.Code.Source

/-!
# Imports and markup agree

The components of the design system that the markup of a document opens are those that its code
imports, except that the footer of a card and the choices of a select control are imported even if
there is nothing to put into them.
-/
namespace Formwright.Code

/-! ## Components in markup -/

/-- Whether a tag is that of a component, and not of an element that every browser has. -/
def isComponent (tag : String) : Bool := tag.toList.head?.any Char.isUpper

variable {name : String}

/-- A component is none of the elements that every browser has. -/
theorem ne_of_isComponent (component : isComponent name = true) :
    ∀ tag ∈ ["div", "p", "a", "h1", "form"], name ≠ tag := by
  have plain : ∀ tag ∈ ["div", "p", "a", "h1", "form"], isComponent tag = false := by decide
  rintro tag listed rfl
  rw [plain name listed] at component
  contradiction

/-- The block of a field opens its label and the components of its control, but a choice only if
there is one. -/
theorem tag_mem_fieldUses_iff (component : isComponent name = true) (field : Field) :
    Use.tag name ∈ fieldUses field ↔ name ∈ "Label" :: controlComponents field.control ∧
      (name = "SelectItem" → field.choices ≠ []) := by
  have other := ne_of_isComponent component
  simp only [List.forall_mem_cons, List.not_mem_nil] at other
  have helper : Use.tag name ∉ optionalUses "p" field.helperText := by
    cases field.helperText <;> simp [optionalUses, other]
  unfold fieldUses controlUses
  cases field.control <;> simp [controlComponents, helper, other]
  -- What is left is that no other component of a control is named like a choice.
  all_goals grind

/-- The buttons of a document open their component if there are any, in an element around them. -/
theorem tag_mem_actionBlockUses_iff (component : isComponent name = true) (tag : String)
    (document : Document) :
    Use.tag name ∈ actionBlockUses tag document ↔
      document.actions ≠ [] ∧ (name = tag ∨ name = "Button") := by
  have other := ne_of_isComponent component
  simp only [List.forall_mem_cons, List.not_mem_nil] at other
  have each (action : Action) : Use.tag name ∈ actionUses action ↔ name = "Button" := by
    unfold actionUses
    cases action.kind <;> simp [other]
  cases held : document.actions with
  | nil => simp [actionBlockUses, held]
  | cons action later =>
    have buttons : Use.tag name ∈ (action :: later).flatMap actionUses ↔ name = "Button" := by
      simp only [List.mem_flatMap, each]
      exact ⟨fun ⟨_, _, named⟩ => named, fun named => ⟨action, List.mem_cons_self, named⟩⟩
    simp [actionBlockUses, held, buttons, -List.flatMap_cons]

/-- The component is opened by the blocks of some fields. -/
def OpenedByFields (name : String) (fields : List Field) : Prop :=
  ∃ field ∈ fields, name ∈ "Label" :: controlComponents field.control ∧
    (name = "SelectItem" → field.choices ≠ [])

/-- A page opens the components of its fields and buttons, and a separator if it has one. -/
theorem tag_mem_pageUses_iff (component : isComponent name = true) (style : PageStyle)
    (document : Document) :
    Use.tag name ∈ pageUses style document ↔ OpenedByFields name document.fields ∨
      (document.actions ≠ [] ∧ name = "Button") ∨ (style.separator ∧ name = "Separator") := by
  have other := ne_of_isComponent component
  simp only [List.forall_mem_cons, List.not_mem_nil] at other
  have fields : Use.tag name ∈ document.fields.flatMap fieldUses ↔
      OpenedByFields name document.fields := by
    simp only [List.mem_flatMap, tag_mem_fieldUses_iff component, OpenedByFields]
  have arranged : Use.tag name ∈ pageFieldUses style document ↔
      OpenedByFields name document.fields := by
    unfold pageFieldUses
    split <;> simp [fields, other]
  have description : Use.tag name ∉ optionalUses "p" document.description := by
    cases document.description <;> simp [optionalUses, other]
  have buttons := tag_mem_actionBlockUses_iff component "div" document
  cases held : style.separator <;>
    simp [pageUses, arranged, description, buttons, held, other]
  grind

/-- A card opens its parts, its footer only around buttons, and the components of its fields and
buttons. -/
theorem tag_mem_cardUses_iff (component : isComponent name = true) {document : Document}
    (card : document.scaffold = some .formAuth) :
    Use.tag name ∈ cardUses document ↔ OpenedByFields name document.fields ∨
      (document.actions ≠ [] ∧ name = "Button") ∨
      (name ∈ scaffoldComponents document ∧ (name = "CardFooter" → document.actions ≠ [])) := by
  have other := ne_of_isComponent component
  simp only [List.forall_mem_cons, List.not_mem_nil] at other
  have fields : Use.tag name ∈ document.fields.flatMap fieldUses ↔
      OpenedByFields name document.fields := by
    simp only [List.mem_flatMap, tag_mem_fieldUses_iff component, OpenedByFields]
  have buttons := tag_mem_actionBlockUses_iff component "CardFooter" document
  cases held : document.description <;>
    simp [cardUses, scaffoldComponents, card, optionalUses, fields, buttons, held, other]
  all_goals grind

/-- The markup of a document opens just the components of its fields, its buttons and its
scaffold, but no choice and no footer for nothing. -/
theorem tag_mem_markupUses_iff (component : isComponent name = true) (document : Document) :
    Use.tag name ∈ markupUses document ↔ OpenedByFields name document.fields ∨
      (document.actions ≠ [] ∧ name = "Button") ∨
      (name ∈ scaffoldComponents document ∧ (name = "CardFooter" → document.actions ≠ [])) := by
  cases held : document.scaffold with
  | none =>
    simp [markupUses, scaffoldComponents, held, tag_mem_pageUses_iff component]
  | some scaffold =>
    cases scaffold with
    | formAuth =>
      simp only [markupUses, held]
      exact tag_mem_cardUses_iff component held
    | settingsPage =>
      simp [markupUses, scaffoldComponents, held, tag_mem_pageUses_iff component]
      grind
    | dashboard | twoColumn =>
      simp [markupUses, scaffoldComponents, held, tag_mem_pageUses_iff component]

/-! ## Components in imports -/

/-- The components of a document are those of its fields, of its buttons and of its scaffold. -/
theorem mem_usedComponents_iff {document : Document} :
    name ∈ usedComponents document ↔
      (∃ field ∈ document.fields, name ∈ "Label" :: controlComponents field.control) ∨
      (document.actions ≠ [] ∧ name = "Button") ∨ name ∈ scaffoldComponents document := by
  cases held : document.actions <;>
    simp only [usedComponents, held, List.mem_append, List.mem_flatMap] <;> simp [or_assoc]

/-- The name of every component that a document uses is told from that of an element. -/
theorem isComponent_of_mem_usedComponents {document : Document}
    (used : name ∈ usedComponents document) : isComponent name = true := by
  have all : ∀ name ∈ markupComponents, isComponent name = true := by decide
  exact all name (mem_markupComponents used)

/-- The components that markup opens are components of its document. -/
theorem mem_usedComponents_of_tag_mem {document : Document}
    (opened : Use.tag name ∈ markupUses document) (component : isComponent name = true) :
    name ∈ usedComponents document := by
  rw [tag_mem_markupUses_iff component] at opened
  rw [mem_usedComponents_iff]
  rcases opened with ⟨field, listed, part, -⟩ | button | ⟨part, -⟩
  · exact .inl ⟨field, listed, part⟩
  · exact .inr (.inl button)
  · exact .inr (.inr part)

/-- A component of a document is opened by its markup, unless it is the footer of a card without
buttons, or a choice where no select control has any. -/
theorem tag_mem_of_mem_usedComponents {document : Document}
    (used : name ∈ usedComponents document) :
    Use.tag name ∈ markupUses document ∨
      (name = "CardFooter" ∧ document.scaffold = some .formAuth ∧ document.actions = []) ∨
      (name = "SelectItem" ∧
        ∀ field ∈ document.fields, field.control = .select → field.choices = []) := by
  rw [tag_mem_markupUses_iff (isComponent_of_mem_usedComponents used)]
  rcases mem_usedComponents_iff.mp used with ⟨field, listed, part⟩ | button | part
  · by_cases choice : name = "SelectItem"
    · by_cases offered : ∃ field ∈ document.fields, field.control = .select ∧ field.choices ≠ []
      -- The choices may be those of another field than the one that the import is due to.
      · obtain ⟨other, otherListed, selects, filled⟩ := offered
        refine .inl (.inl ⟨other, otherListed, ?_, fun _ => filled⟩)
        simp [choice, selects, controlComponents]
      · exact .inr (.inr ⟨choice, by simpa using offered⟩)
    · exact .inl (.inl ⟨field, listed, part, fun same => absurd same choice⟩)
  · exact .inl (.inr (.inl button))
  · by_cases footer : name = "CardFooter"
    · cases held : document.actions with
      | cons action later => exact .inl (.inr (.inr ⟨part, fun _ => List.cons_ne_nil _ _⟩))
      | nil =>
        refine .inr (.inl ⟨footer, ?_, rfl⟩)
        subst footer
        unfold scaffoldComponents at part
        split at part
        · assumption
        · simp at part
        · contradiction
    · exact .inl (.inr (.inr ⟨part, fun same => absurd same footer⟩))

/-- The code for a document imports every component that its markup opens. Every component that is
imported is opened, but perhaps the footer of a card without buttons and the choices of select
controls without any, and it is imported once, from the module of the component that it is a part
of. Modules, and the components of each, stand in increasing order. -/
theorem imports_agree (document : Document) (options : Options) :
    ∃ used, usesOf? (generate document options) = some used ∧
      (∀ name, Use.tag name ∈ used → isComponent name = true →
        ∃ found ∈ imports document options, name ∈ found.names) ∧
      (∀ found ∈ imports document options, ∀ name ∈ found.names,
        (Use.tag name ∈ used ∨
          (name = "CardFooter" ∧ document.scaffold = some .formAuth ∧ document.actions = []) ∨
          (name = "SelectItem" ∧
            ∀ field ∈ document.fields, field.control = .select → field.choices = [])) ∧
        ∃! found, found ∈ imports document options ∧ name ∈ found.names) ∧
      ((imports document options).map Import.module).Pairwise (· < ·) ∧
      (∀ found ∈ imports document options, found.names.Pairwise (· < ·)) ∧
      ∃ base slashes, options.importBase = base ++ slashes ∧ (∀ c ∈ slashes.toList, c = '/') ∧
        base.toList.getLast? ≠ some '/' ∧
        ∀ found ∈ imports document options, found.names ≠ [] ∧ ∀ name ∈ found.names,
          found.module = base ++ "/" ++ kebabCase (rootComponent name) := by
  refine ⟨markupUses document, usesOf?_generate document options, ?_, ?_, pairwise_modules,
    fun _ => pairwise_names, ?_⟩
  · intro name opened component
    exact exists_import options (mem_usedComponents_of_tag_mem opened component)
  · intro found listed name named
    have used := ((mem_names_iff listed).mp named).1
    exact ⟨tag_mem_of_mem_usedComponents used, existsUnique_import used⟩
  · obtain ⟨slashes, split, every, last⟩ := exists_trailingSlashes options.importBase
    refine ⟨withoutTrailingSlashes options.importBase, String.ofList slashes, split,
      by simpa using every, last, fun found listed => ⟨names_ne_nil listed, ?_⟩⟩
    intro name named
    rw [← ((mem_names_iff listed).mp named).2, modulePath, moduleName_eq]

end Formwright.Code
