import Formwright.Proofs.Code.ReadBack
import Formwright.Proofs.Code.Widget
import Formwright.Proofs.Document.RoundTrip
import Formwright.Proofs.Lowering.Walk

/-!
# The two back ends of a document

A document becomes a page and it becomes code, in two passes that know nothing of each other. The
controls and buttons that the code shows are read from its text, those of the page from its nodes,
and they are the same; and what the rule table of the code demands of a field is what the props of
its node say.
-/
namespace Formwright

/-! ## Controls and buttons from nodes -/

namespace Node

/-- The props of a node. -/
def props : Node → Members
  | .container .. => []
  | .component _ element _ => element.props

/-- The variant of a node. -/
def variant? : Node → Option String
  | .container .. => none
  | .component _ element _ => element.variant

/-- The text of a prop, which may be left out but must not be of another kind. -/
def textProp? (node : Node) (name : String) : Option (Option String) :=
  match node.props.lookup name with
  | none => some none
  | some (.string text) => some (some text)
  | some _ => none

end Node

namespace Widget

/-- The control or the button that a node shows. -/
def ofNode? (node : Node) : Option Widget := do
  match ← node.component? with
  | "Input" => some (.input (← node.textProp? "type") (← node.textProp? "placeholder"))
  | "Textarea" => some (.textarea (← node.textProp? "placeholder"))
  | "Select" =>
    let options ← (Json.Reader.list Choice.reader (← node.props.lookup "options")).toOption
    some (.select (← node.textProp? "placeholder") options)
  | "Checkbox" => some .checkbox
  | "DatePicker" => some (.datePicker (← node.textProp? "placeholder"))
  | "FileUpload" => some .fileUpload
  | "Button" =>
    some (.button (node.variant?.getD "default") (← node.textProp? "type")
      (← node.textProp? "href") (← ← node.textProp? "label"))
  | _ => none

end Widget

namespace Lowering
open Node

/-! ## Props -/

/-- Of props with different names, each is found under its name where it has a value. -/
theorem lookup_props {entries : List (String × Option Json)}
    (distinct : (entries.map Prod.fst).Nodup) (name : String) :
    (props entries).lookup name = (entries.lookup name).join := by
  rw [props, lookup_sortNamed]
  induction entries with
  | nil => rfl
  | cons entry later ih =>
    obtain ⟨held, value⟩ := entry
    obtain ⟨fresh, distinct⟩ := List.nodup_cons.mp distinct
    have absent : later.lookup held = none := by
      rw [← Option.not_isSome_iff_eq_none, isSome_lookup_iff]
      exact fresh
    have below := ih distinct
    rw [lookup_cons_ite]
    cases value with
    | none =>
      rw [List.filterMap_cons_none rfl, below]
      split
      · next same => rw [same, absent]; rfl
      · rfl
    | some value =>
      simp only [List.filterMap_cons, Option.map_some, List.reverse_cons, List.lookup_append]
      rw [below, lookup_cons_ite, List.lookup_nil]
      split
      · next same => rw [same, absent]; rfl
      · rw [Option.or_none]

/-- What the props of a field are made of. -/
def fieldEntries (field : Field) : List (String × Option Json) :=
  [("name", some (.string field.name)), ("label", some (.string field.label)),
    ("placeholder", field.placeholder.map .string),
    ("helperText", field.helperText.map .string),
    ("required", if field.isRequired then some (.bool true) else none),
    ("defaultValue", field.defaultValue)] ++ controlProps field

/-- What the props of an action are made of. -/
def actionEntries (action : Action) : List (String × Option Json) :=
  [("label", some (.string action.label))] ++ actionProps action

section

variable (ids : IdSource)

/-- The props of a field are found among what they are made of. -/
theorem lookup_fieldNode (field : Field) (name : String) :
    (fieldNode ids field).props.lookup name = ((fieldEntries field).lookup name).join := by
  refine lookup_props ?_ name
  cases control : field.control <;> simp [controlProps, lengthProps, control]

/-- The props of an action are found among what they are made of. -/
theorem lookup_actionNode (action : Action) (name : String) :
    (actionNode ids action).props.lookup name = ((actionEntries action).lookup name).join := by
  refine lookup_props ?_ name
  cases kind : action.kind <;> simp [actionProps, kind]

/-- The placeholder of a field is a prop of its node, if it has one. -/
theorem textProp?_placeholder (field : Field) :
    (fieldNode ids field).textProp? "placeholder" = some field.placeholder := by
  have found : (fieldNode ids field).props.lookup "placeholder" =
      field.placeholder.map .string := by
    rw [lookup_fieldNode]
    rfl
  rw [textProp?, found]
  cases field.placeholder <;> rfl

/-- The node of a field shows its control. -/
theorem ofNode?_fieldNode (field : Field) :
    Widget.ofNode? (fieldNode ids field) = some (Widget.ofField field) := by
  have placeholder := textProp?_placeholder ids field
  have component : (fieldNode ids field).component? = some (Vocabulary.word field.control) := rfl
  unfold Widget.ofNode? Widget.ofField
  rw [component]
  cases control : field.control with
  | input =>
    have found : (fieldNode ids field).textProp? "type" =
        some (some (Code.inputType field.name)) := by
      rw [textProp?, lookup_fieldNode, fieldEntries, controlProps, control]
      rfl
    simp [Vocabulary.word, placeholder, found]
  | select =>
    have found : (fieldNode ids field).props.lookup "options" =
        some (.array (field.choices.map Choice.toJson)) := by
      rw [lookup_fieldNode, fieldEntries, controlProps, control]
      rfl
    have read := Json.Reader.list_ok field.choices Choice.reader_toJson
    simp [Vocabulary.word, placeholder, found, read, Except.toOption]
  | textarea | checkbox | datePicker | fileUpload => simp [Vocabulary.word, placeholder]

/-- The node of an action shows its button. -/
theorem ofNode?_actionNode (action : Action) :
    Widget.ofNode? (actionNode ids action) = some (Widget.ofAction action) := by
  have component : (actionNode ids action).component? = some "Button" := rfl
  have variant : (actionNode ids action).variant? = some (actionVariant action) := rfl
  unfold Widget.ofNode? Widget.ofAction
  rw [component]
  cases kind : action.kind <;>
    simp [variant, actionVariant, textProp?, lookup_actionNode, actionEntries, actionProps, kind,
      List.lookup_cons]

/-! ## The nodes of fields and actions -/

/-- Whether a node shows a field or an action, and does not only frame the page. -/
def isContent (node : Node) : Bool := node.envelope.dataUiId.isSome

/-- The nodes that show a field or an action, in the order of a walk. -/
def contents (tree : Node) : List Node := tree.walk.filter isContent

/-- The nodes of a list and below it that show a field or an action. -/
def contentsIn (nodes : List Node) : List Node := (walkAll nodes).filter isContent

/-- What two lists show. -/
theorem contentsIn_append (front back : List Node) :
    contentsIn (front ++ back) = contentsIn front ++ contentsIn back := by
  rw [contentsIn, walkAll_append, List.filter_append]
  rfl

/-- A container that frames the page shows what its children do. -/
theorem contentsIn_container {envelope : Envelope} (frames : envelope.dataUiId = none)
    (body : Container) (children : List Node) :
    contentsIn [.container envelope body children] = contentsIn children := by
  rw [contentsIn, walkAll, walkAll, List.append_nil, walk, List.filter_cons_of_neg]
  · rfl
  · simp [isContent, Node.envelope, frames]

/-- The components of fields show themselves. -/
theorem contentsIn_fieldNodes (fields : List Field) :
    contentsIn (fields.map (fieldNode ids)) = fields.map (fieldNode ids) := by
  rw [contentsIn, walkAll_eq_self (List.forall_mem_map.mpr fun _ _ => rfl), List.filter_eq_self]
  exact List.forall_mem_map.mpr fun _ _ => rfl

/-- The buttons of actions show themselves. -/
theorem contentsIn_actionNodes (actions : List Action) :
    contentsIn (actions.map (actionNode ids)) = actions.map (actionNode ids) := by
  rw [contentsIn, walkAll_eq_self (List.forall_mem_map.mpr fun _ _ => rfl), List.filter_eq_self]
  exact List.forall_mem_map.mpr fun _ _ => rfl

/-- The layout of the fields shows them. -/
theorem contentsIn_fieldBody (scaffold : Option Scaffold) (fields : List Field) :
    contentsIn [fieldBody ids scaffold (fields.map (fieldNode ids))] =
      fields.map (fieldNode ids) := by
  have single (body : Container) :
      contentsIn [.container (named (ids.id "fields") "fields") body (fields.map (fieldNode ids))] =
        fields.map (fieldNode ids) := by
    rw [contentsIn_container rfl, contentsIn_fieldNodes]
  cases scaffold with
  | none => exact single _
  | some scaffold =>
    cases scaffold with
    | formAuth | settingsPage | dashboard => exact single _
    | twoColumn =>
      simp only [fieldBody, ← List.map_take, ← List.map_drop]
      rw [contentsIn_container rfl, ← List.singleton_append, contentsIn_append,
        contentsIn_container rfl, contentsIn_container rfl, contentsIn_fieldNodes,
        contentsIn_fieldNodes, ← List.map_append, List.take_append_drop]

/-- The row of actions shows them. -/
theorem contentsIn_actionRow (actions : List Action) :
    contentsIn (if (actions.map (actionNode ids)).isEmpty then []
      else [.container (named (ids.id "actions") "actions") (.stack .horizontal)
        (actions.map (actionNode ids))]) = actions.map (actionNode ids) := by
  split
  · next none =>
    rw [List.isEmpty_iff.mp none]
    rfl
  · rw [contentsIn_container rfl, contentsIn_actionNodes]

/-- The card of a document shows its fields and its actions. -/
theorem contentsIn_card (document : Document) (fields : List Field) (actions : List Action) :
    contentsIn [card ids document (fields.map (fieldNode ids)) (actions.map (actionNode ids))] =
      fields.map (fieldNode ids) ++ actions.map (actionNode ids) := by
  have walked : contentsIn [card ids document (fields.map (fieldNode ids))
      (actions.map (actionNode ids))] = contentsIn (fields.map (fieldNode ids))
        ++ contentsIn (actions.map (actionNode ids)) := by
    rw [← contentsIn_append, contentsIn, contentsIn, walkAll, walkAll, List.append_nil, card, walk,
      List.filter_cons_of_neg (by simp [isContent, Node.envelope])]
    cases actions <;> simp [walkSlots, walkAll_append, walkAll]
  rw [walked, contentsIn_fieldNodes, contentsIn_actionNodes]

/-- What stands in the section of a document shows its fields and then its actions. -/
theorem contentsIn_sectionBody (document : Document) :
    contentsIn (sectionBody ids document) =
      document.fields.map (fieldNode ids) ++ document.actions.map (actionNode ids) := by
  have description : contentsIn (document.description.map (descriptionNode ids)).toList = [] := by
    cases document.description <;> rfl
  unfold sectionBody
  cases document.scaffold with
  | none =>
    simp only
    rw [contentsIn_append, contentsIn_append, description, contentsIn_fieldBody,
      contentsIn_actionRow, List.nil_append]
  | some scaffold =>
    cases scaffold with
    | formAuth => exact contentsIn_card ids document _ _
    | settingsPage | dashboard | twoColumn =>
      simp only
      rw [contentsIn_append, contentsIn_append, description, contentsIn_fieldBody,
        contentsIn_actionRow, List.nil_append]

end

/-- The page of a document shows its fields and then its actions. -/
theorem contents_page (document : Document) :
    contents (page document) =
      document.fields.map (fieldNode ⟨document.fingerprint⟩)
        ++ document.actions.map (actionNode ⟨document.fingerprint⟩) := by
  have whole : contents (page document) = contentsIn [page document] := by
    rw [contentsIn, walkAll, walkAll, List.append_nil, contents]
  rw [whole, page, contentsIn_container rfl, contentsIn_container rfl, contentsIn_sectionBody]

/-- The page of a document shows the controls of its fields and the buttons of its actions. -/
theorem mapM_ofNode?_page (document : Document) :
    (contents (page document)).mapM Widget.ofNode? = some
      (document.fields.map Widget.ofField ++ document.actions.map Widget.ofAction) := by
  rw [contents_page, List.mapM_append, List.mapM_map, List.mapM_map]
  have each {α : Type} (parts : List α) (widget : α → Widget) :
      parts.mapM (fun part => some (widget part)) = some (parts.map widget) := List.mapM_pure
  simp only [Function.comp_def, ofNode?_fieldNode, ofNode?_actionNode, each, Option.bind_eq_bind,
    Option.bind_some, Option.pure_def]

/-! ## Rules -/

/-- What a rule table that holds the given rules for a field says is what the props of the node of
the field say: whether a value is required, and how long a text must and may be, as far as the rules
do not say that more than once. -/
structure RulesAgree (control : Control) (rules : List (Demand × String)) (node : Node) :
    Prop where
  required : (∃ message, (.required, message) ∈ rules) ↔
    node.props.lookup "required" = some (.bool true)
  optional : (¬∃ message, (.required, message) ∈ rules) ↔ node.props.lookup "required" = none
  least : control.isTextual → (rules.filterMap fun rule => minimum? rule.1).length ≤ 1 →
    (rules.filterMap fun rule => minimum? rule.1).map (fun value => Json.ofNat value.toNat) =
      (node.props.lookup "minLength").toList
  most : control.isTextual → (rules.filterMap fun rule => maximum? rule.1).length ≤ 1 →
    (rules.filterMap fun rule => maximum? rule.1).map (fun value => Json.ofNat value.toNat) =
      (node.props.lookup "maxLength").toList

/-- The rules of a field, with what is shown when one is broken. -/
def rulesIn (field : Field) : List (Demand × String) :=
  field.rules.map fun rule => (rule.demand, Code.ruleMessage field.label rule)

/-- A limit that is given no more than once is the last one. -/
theorem map_limit_eq_toList {limit : Demand → Option UInt32} (field : Field)
    (once : ((rulesIn field).filterMap fun rule => limit rule.1).length ≤ 1) :
    ((rulesIn field).filterMap fun rule => limit rule.1).map
      (fun value => Json.ofNat value.toNat) = (lastLimit limit field.rules).toList := by
  have same : (rulesIn field).filterMap (fun rule => limit rule.1) =
      field.rules.filterMap fun rule => limit rule.demand := by
    rw [rulesIn, List.filterMap_map]
    rfl
  rw [same] at once ⊢
  rw [lastLimit]
  generalize field.rules.filterMap (fun rule => limit rule.demand) = limits at once ⊢
  match limits with
  | [] | [_] => rfl
  | _ :: _ :: _ => simp at once

/-- The rules of a field and the props of its node agree. -/
theorem rulesAgree_fieldNode (ids : IdSource) (field : Field) :
    RulesAgree field.control (rulesIn field) (fieldNode ids field) := by
  have required : (∃ message, (Demand.required, message) ∈ rulesIn field) ↔
      field.isRequired = true := by
    simp [rulesIn, Field.isRequired]
  have shown : (fieldNode ids field).props.lookup "required" =
      if field.isRequired then some (.bool true) else none := by
    rw [lookup_fieldNode]
    rfl
  refine ⟨?_, ?_, fun textual once => ?_, fun textual once => ?_⟩
  · rw [required, shown]
    cases field.isRequired <;> simp
  · rw [required, shown]
    cases field.isRequired <;> simp
  · rw [map_limit_eq_toList field once, lookup_fieldNode, fieldEntries, controlProps]
    cases control : field.control with
    | input | textarea => rfl
    | select | checkbox | datePicker | fileUpload => simp [control, Control.isTextual] at textual
  · rw [map_limit_eq_toList field once, lookup_fieldNode, fieldEntries, controlProps]
    cases control : field.control with
    | input | textarea => rfl
    | select | checkbox | datePicker | fileUpload => simp [control, Control.isTextual] at textual

end Lowering

namespace Code
open Lowering

/-- In the table of the rules of the fields that have any, the rules of a field are found under its
name, if no other field has that name. -/
theorem lookup_ruledFields {fields : List Field} {field : Field} (listed : field ∈ fields)
    (sole : ∀ other ∈ fields, other.name = field.name → other = field) :
    (((ruledFields fields).map fun field => (field.name, rulesIn field)).lookup field.name).getD []
      = rulesIn field := by
  cases found : ((ruledFields fields).map fun field => (field.name, rulesIn field)).lookup
    field.name with
  | none =>
    have absent : field.name ∉ ((ruledFields fields).map fun field =>
        (field.name, rulesIn field)).map Prod.fst := by
      rw [← isSome_lookup_iff, found]
      simp
    have ruleless : field.rules = [] := by
      by_contra ruled
      refine absent (List.mem_map.mpr ⟨_, List.mem_map_of_mem (List.mem_filter.mpr
        ⟨listed, ?_⟩), rfl⟩)
      simpa using ruled
    simp [rulesIn, ruleless]
  | some rules =>
    obtain ⟨other, ruled, same⟩ := List.mem_map.mp (mem_of_lookup found)
    obtain ⟨name, rfl⟩ := Prod.mk.inj same
    rw [Option.getD_some, sole other (List.mem_filter.mp ruled).1 name]

end Code

open Code Lowering

/-- The code for a document shows the same controls and buttons as the page of the document, those
of its fields and then of its actions. The rules that the table of the code holds for a field, under
its name and in document order, agree with the props of its node; and under a name that only one
field has, they are found in the table. -/
theorem backEnds_agree (document : Document) (options : Options) :
    (∃ widgets, widgetsOf? (generate document options) = some widgets ∧
      (contents (page document)).mapM Widget.ofNode? = some widgets ∧
      widgets = document.fields.map Widget.ofField ++ document.actions.map Widget.ofAction) ∧
    contents (page document) = document.fields.map (fieldNode ⟨document.fingerprint⟩)
      ++ document.actions.map (actionNode ⟨document.fingerprint⟩) ∧
    ∃ table, rulesOf? (generate document options) = some table ∧
      table = ((document.fields.filter fun field => !field.rules.isEmpty).map fun field =>
        (field.name, rulesIn field)) ∧
      ∀ field ∈ document.fields,
        RulesAgree field.control (rulesIn field) (fieldNode ⟨document.fingerprint⟩ field) ∧
        ((∀ other ∈ document.fields, other.name = field.name → other = field) →
          (table.lookup field.name).getD [] = rulesIn field) :=
  ⟨⟨_, widgetsOf?_generate document options, mapM_ofNode?_page document, rfl⟩,
    contents_page document, _, rulesOf?_generate document options, rfl, fun field listed =>
      ⟨rulesAgree_fieldNode _ field, lookup_ruledFields listed⟩⟩

/-- A text with a limit and a link without an address, in both back ends. -/
theorem backEnds_agree_link :
    let field : Field := { Field.plain "email" "Email" .input with
      placeholder := some "a \"b\"", rules := [⟨.required, none⟩, ⟨.minLength 3, none⟩] }
    let document : Document := { kind := .form, title := "Sign in", fields := [field]
                                 actions := [⟨"go", "Go & see", .link, .primary, none⟩] }
    let node := fieldNode ⟨document.fingerprint⟩ field
    widgetsOf? (generate document {}) = some [.input (some "email") (some "a \"b\""),
        .button "link" none (some "#") "Go & see"] ∧
      (∃ table, rulesOf? (generate document {}) = some table ∧
        (table.lookup "email").getD [] = rulesIn field) ∧
      node.props.lookup "required" = some (.bool true) ∧
      (node.props.lookup "minLength").toList = [.ofNat 3] := by
  intro field document node
  obtain ⟨⟨widgets, shown, -, rfl⟩, -, table, read, -, agree⟩ := backEnds_agree document {}
  obtain ⟨rules, found⟩ := agree field List.mem_cons_self
  refine ⟨shown.trans (by decide +kernel), ⟨table, read, found (by simp [document])⟩,
    rules.required.mp ⟨_, List.mem_cons_self⟩, ?_⟩
  exact (rules.least rfl (by decide)).symm

end Formwright
