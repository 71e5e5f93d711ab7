import Formwright.Proofs.Node.WellFormed
import Formwright.Proofs.Prompt.Draft
import Formwright.Proofs.Text.Tidy
import Formwright.Prompt.Reading

/-!
# What every prompt is read into

Whatever a prompt says, its document has a tidy title, coherent fields under distinct names and the
usual actions, unless the prompt is code; then it has a title only.
-/
namespace Formwright
open Text

/-! ## Titles -/

namespace Title

/-- A text in title case is tidy if it has characters. -/
theorem isTidy_titleCase {text : List Char} (filled : titleCase text ≠ []) :
    IsTidy (titleCase text) := by
  have capitalized : ∀ word ∈ (words text).map capitalize, IsWord word :=
    List.forall_mem_map.mpr fun word listed => (isWord_of_mem_words listed).capitalize
  refine isTidy_joinWords capitalized fun none => filled ?_
  rw [titleCase, none]
  rfl

/-- The common titles of kinds are tidy. -/
theorem isTidy_ofKind (kind : DocumentKind) (language : Language) :
    IsTidy ((ofKind kind).text language).toList := by
  cases kind <;> cases language <;> exact isTidy_of_words (by decide) (by decide)

/-- The common titles of scaffolds are tidy. -/
theorem isTidy_ofScaffold {registers : Bool} {scaffold : Scaffold} {wording : Wording}
    (common : ofScaffold? registers scaffold = some wording) (language : Language) :
    IsTidy (wording.text language).toList := by
  cases scaffold with
  | twoColumn => simp [ofScaffold?] at common
  | formAuth =>
    obtain rfl := Option.some.inj common
    cases registers <;> cases language <;> exact isTidy_of_words (by decide) (by decide)
  | settingsPage | dashboard =>
    obtain rfl := Option.some.inj common
    cases language <;> exact isTidy_of_words (by decide) (by decide)

/-- The title of a document is tidy. -/
theorem isTidy_find (text : List Char) (kind : DocumentKind) (scaffold : Option Scaffold)
    (registers : Bool) (language : Language) :
    IsTidy (find text kind scaffold registers language).1.toList := by
  unfold find
  split
  · next title name found =>
    obtain ⟨cue, -, gives⟩ := List.exists_of_findSome?_eq_some found
    obtain ⟨taken, written, same⟩ := Option.map_eq_some_iff.mp gives
    obtain ⟨rfl, -⟩ := Prod.mk.inj same
    obtain ⟨phrase, filled⟩ := Option.filter_eq_some_iff.mp written
    obtain ⟨captured, -, rfl⟩ := Option.map_eq_some_iff.mp phrase
    rw [String.toList_ofList]
    exact isTidy_titleCase (by simpa using filled)
  · split
    · next wording common =>
      obtain ⟨held, -, common⟩ := Option.bind_eq_some_iff.mp common
      exact isTidy_ofScaffold common language
    · exact isTidy_ofKind kind language

end Title

/-! ## Fields -/

/-- A rule is named exactly if it found fields. -/
theorem FieldList.find_rule_eq_none_iff (text : List Char) :
    (find text).2 = none ↔ (find text).1 = [] := by
  unfold find
  split
  · next cue found =>
    have filled := List.find?_some found
    simpa using filled
  · split
    · simp
    · next some => simpa using some

namespace Prompt

/-- The drafts of a request are those of some tokens, and the rule that gave them is named exactly
if there are any; a form to sign in by has some. -/
theorem drafts_spec (text : List Char) (topic : Topic) :
    (∃ tokens, (drafts text topic).1 = Draft.ofTokens topic.language tokens) ∧
      ((drafts text topic).2 = none ↔ (drafts text topic).1 = []) ∧
      (topic.scaffold = some .formAuth → (drafts text topic).1 ≠ []) := by
  have named := FieldList.find_rule_eq_none_iff text
  unfold drafts
  split
  · next rule found =>
    rw [found] at named
    split
    · have some : Draft.credentials topic.language ≠ [] :=
        Draft.ofTokens_ne_nil (List.cons_ne_nil _ _) _
      exact ⟨⟨_, rfl⟩, by simp [some], fun _ => some⟩
    · next other => exact ⟨⟨[], rfl⟩, named.trans (by simp), fun signIn => absurd signIn other⟩
  · next tokens rule filled found =>
    rw [found] at named
    have some : tokens ≠ [] := fun none => filled none
    have made := Draft.ofTokens_ne_nil some topic.language
    exact ⟨⟨tokens, rfl⟩, by simp [made, named.not.mpr some], fun _ => made⟩

end Prompt

/-! ## Actions -/

/-- The primary action that submits a form, under a label that is not blank. -/
structure Action.IsSubmit (action : Action) : Prop where
  id_eq : action.id = "action-submit"
  kind_eq : action.kind = .submit
  variant_eq : action.variant = .primary
  labelled : IsFilled action.label

/-- A button in outline that leaves a form. -/
structure Action.IsWayOut (action : Action) : Prop where
  id_eq : action.id = "action-cancel" ∨ action.id = "action-back"
  kind_eq : action.kind = .button
  variant_eq : action.variant = .outline

/-- The usual actions of a form: one that submits it, and at most one that leaves it. -/
def Action.AreUsual (actions : List Action) : Prop :=
  ∃ first others, actions = first :: others ∧ first.IsSubmit ∧ others.length ≤ 1 ∧
    ∀ other ∈ others, other.IsWayOut

namespace ActionRule

/-- A quoted label is not blank. -/
theorem isFilled_quotedLabel {text : List Char} {label : String}
    (quotes : quotedLabel? text = some label) : IsFilled label := by
  unfold quotedLabel? at quotes
  split at quotes
  · simp at quotes
  · next written _ =>
    obtain ⟨left, rfl⟩ : trim written ≠ [] ∧ String.ofList (trim written) = label := by
      simpa using quotes
    rw [IsFilled, String.toList_ofList]
    exact exists_of_trimBy_ne_nil left

/-- The label of the action that submits a form is not blank. -/
theorem isFilled_submitLabel (text : List Char) (language : Language) :
    IsFilled (submitLabel text language).1 := by
  have primaries : ∀ cue ∈ primary, ∀ language, IsFilled (cue.value.text language) := by
    simp only [primary, List.forall_mem_cons]
    refine ⟨?_, ?_, ?_, ?_, ?_, ?_, ?_, ?_, ?_, nofun⟩ <;> intro language <;> cases language <;>
      decide
  unfold submitLabel
  split
  · next label quotes => exact isFilled_quotedLabel quotes
  · split
    · next cue found => exact primaries cue (List.mem_of_find?_eq_some found) language
    · cases language <;> decide

/-- The actions of a form are the usual ones. -/
theorem areUsual_find (text : List Char) (language : Language) :
    Action.AreUsual (find text language).1 := by
  have names : ∀ cue ∈ secondary, cue.name = "cancel" ∨ cue.name = "back" := by
    simp [secondary]
  refine ⟨_, _, rfl, ⟨rfl, rfl, rfl, isFilled_submitLabel text language⟩, ?_, ?_⟩
  · cases Cue.first? secondary text with
    | none => exact Nat.zero_le 1
    | some cue => exact Nat.le_refl 1
  · intro other member
    obtain ⟨cue, found, rfl⟩ := Option.map_eq_some_iff.mp (Option.mem_toList.mp member)
    have listed := names cue (List.mem_of_find?_eq_some found)
    exact ⟨listed.imp (congrArg ("action-" ++ ·)) (congrArg ("action-" ++ ·)), rfl, rfl⟩

end ActionRule

/-! ## Readings -/

/-- What a prompt is read into: a tidy title, coherent fields under distinct names, which a form to
sign in by always has, and the usual actions; of code nothing but the title. -/
structure Reading.IsWellFormed (reading : Reading) : Prop where
  title : IsTidy reading.document.title.toList
  names : (reading.document.fields.map (·.name)).Nodup
  fields : ∀ field ∈ reading.document.fields, field.IsCoherent
  fieldRule : reading.report.fieldRule = none ↔ reading.document.fields = []
  signIn : reading.document.scaffold = some .formAuth → reading.report.codeLike = false →
    reading.document.fields ≠ []
  code : reading.report.codeLike = true → reading.document.fields = [] ∧
    reading.document.actions = [] ∧ reading.document.description = none
  actions : reading.report.codeLike = false → Action.AreUsual reading.document.actions

namespace Prompt

/-- A prompt that is code is read as code. -/
theorem read_of_isCode {prompt : String}
    (code : (Request.ofPrompt prompt.toList).isCode = true) :
    read prompt = readCode (Request.ofPrompt prompt.toList) := by
  simp only [read, code, if_true]

/-- A prompt that is not code is read as a request. -/
theorem read_of_not_isCode {prompt : String}
    (plain : (Request.ofPrompt prompt.toList).isCode = false) :
    read prompt = readRequest (Request.ofPrompt prompt.toList) := by
  simp only [read, plain, Bool.false_eq_true, if_false]

/-- The document of a prompt in plain language that gives no scaffold, by what the parts of the
document are found to be in the text of the request. -/
theorem document_read {prompt : String} {text : List Char} {language : Language}
    {kind : DocumentKind} {title : String} {tokens : List String} {actions : List Action}
    {qualifiers : Qualifiers} (plain : (Request.ofPrompt prompt.toList).isCode = false)
    (spoken : (Request.ofPrompt prompt.toList).text = text)
    (inLanguage : (Topic.ofText text).language = language)
    (ofKind : (Topic.ofText text).kind = kind)
    (unscaffolded : (Topic.ofText text).scaffold = none)
    (titled : (Title.find text kind none (Cue.registration.matchesIn text) language).1 = title)
    (listed : (FieldList.find text).1 = tokens)
    (acted : (ActionRule.find text language).1 = actions)
    (qualified : Qualifiers.ofText text = qualifiers) :
    (read prompt).document =
      { kind, title, actions
        fields := (qualifiers.apply (Draft.ofTokens language tokens)).map (·.field) } := by
  have drafted : (drafts text (Topic.ofText text)).1 = Draft.ofTokens language tokens := by
    rw [← listed, ← inLanguage, drafts]
    split
    · next rule found => simp [found, unscaffolded, Draft.ofTokens, Draft.ofTokensAfter]
    · next tokens rule _ found => rw [found]
  rw [read_of_not_isCode plain]
  subst titled acted
  simp only [readRequest, spoken, inLanguage, ofKind, unscaffolded, drafted, qualified,
    Option.bind_none, Option.map_none]

/-- The fields of a request: those of its drafts, with what the qualifiers say about them. -/
theorem fields_readRequest (request : Request) :
    (readRequest request).document.fields = ((Qualifiers.ofText request.text).apply
      (drafts request.text (Topic.ofText request.text)).1).map (·.field) := rfl

/-- The fields of a request have distinct names. -/
theorem nodup_names_readRequest (request : Request) :
    ((readRequest request).document.fields.map (·.name)).Nodup := by
  obtain ⟨⟨tokens, made⟩, -⟩ := drafts_spec request.text (Topic.ofText request.text)
  have distinct := (Draft.nodup_names_ofTokensAfter (Topic.ofText request.text).language [] []
    tokens).1
  rw [fields_readRequest, List.map_map, made]
  rwa [← Draft.ofTokens, ← Draft.names_apply (Qualifiers.ofText request.text)] at distinct

/-- The fields of a request are coherent. -/
theorem isCoherent_of_mem_readRequest (request : Request) :
    ∀ field ∈ (readRequest request).document.fields, field.IsCoherent := by
  obtain ⟨⟨tokens, made⟩, -⟩ := drafts_spec request.text (Topic.ofText request.text)
  rw [fields_readRequest, made]
  exact List.forall_mem_map.mpr
    (Draft.isCoherent_of_mem_apply Draft.isCoherent_of_mem_ofTokensAfter)

/-- A request has no fields exactly if it has no drafts. -/
theorem fields_readRequest_eq_nil_iff (request : Request) :
    (readRequest request).document.fields = [] ↔
      (drafts request.text (Topic.ofText request.text)).1 = [] := by
  rw [fields_readRequest, ← List.length_eq_zero_iff, List.length_map, Draft.length_apply,
    List.length_eq_zero_iff]

/-- The actions of a request are the usual ones. -/
theorem areUsual_readRequest (request : Request) :
    Action.AreUsual (readRequest request).document.actions :=
  ActionRule.areUsual_find request.text _

/-- What is code is read into a well-formed document. -/
theorem isWellFormed_readCode (request : Request) : (readCode request).IsWellFormed where
  title := Title.isTidy_ofKind _ _
  names := List.nodup_nil
  fields := nofun
  fieldRule := ⟨fun _ => rfl, fun _ => rfl⟩
  signIn := nofun
  code := fun _ => ⟨rfl, rfl, rfl⟩
  actions := nofun

/-- A request in plain language is read into a well-formed document. -/
theorem isWellFormed_readRequest (request : Request) : (readRequest request).IsWellFormed := by
  obtain ⟨-, named, signIn⟩ := drafts_spec request.text (Topic.ofText request.text)
  have none := fields_readRequest_eq_nil_iff request
  exact {
    title := Title.isTidy_find request.text _ _ _ _
    names := nodup_names_readRequest request
    fields := isCoherent_of_mem_readRequest request
    fieldRule := named.trans none.symm
    signIn := fun auth _ => none.not.mpr (signIn auth)
    code := nofun
    actions := fun _ => areUsual_readRequest request }

/-- Every prompt is read into a well-formed document. -/
theorem read_isWellFormed (prompt : String) : (read prompt).IsWellFormed := by
  simp only [read]
  split
  · exact isWellFormed_readCode _
  · exact isWellFormed_readRequest _

end Prompt
end Formwright
