import Formwright.Proofs.Prompt.Identifier
import Formwright.Prompt.Qualification

/-!
# Fields of drafts

Every draft holds a coherent field: the name is an identifier, the id is made of the name, and there
are choices exactly for a select. The names of the drafts for some tokens are distinct. Qualifiers
change rules only, so that what holds of the names and the choices of drafts holds after them.
-/
namespace Formwright

/-- A field whose id is made of its name, which is an identifier, and that has choices exactly if it
is a select. -/
structure Field.IsCoherent (field : Field) : Prop where
  id_eq : field.id = "field-" ++ field.name
  identifier : Code.isIdentifier field.name = true
  choices_iff : field.choices ≠ [] ↔ field.control = .select

/-- There are always choices to start with. -/
theorem suggestedChoices_ne_nil (token : String) (language : Language) :
    suggestedChoices token language ≠ [] := by
  have listed : ∀ row ∈ choiceKeywords, ∀ language, row.1 language ≠ [] := by
    simp only [choiceKeywords, List.forall_mem_cons]
    refine ⟨?_, ?_, ?_, nofun⟩ <;> intro language <;> cases language <;> exact List.cons_ne_nil _ _
  unfold suggestedChoices KeywordTable.value?
  cases found : choiceKeywords.find? fun row => row.2.any (startsWord token) with
  | none => cases language <;> exact List.cons_ne_nil _ _
  | some row => exact listed row (List.mem_of_find?_eq_some found) language

namespace Draft

/-! ## The draft of a token -/

/-- An input keeps its id, its name, its control and its choices. -/
theorem input_keeps (field : Field) (language : Language) (profile : Profile) :
    (input field language profile).id = field.id ∧
      (input field language profile).name = field.name ∧
      (input field language profile).control = field.control ∧
      (input field language profile).choices = field.choices := by
  cases profile <;> exact ⟨rfl, rfl, rfl, rfl⟩

/-- A completed field keeps its id, its name and its control. -/
theorem complete_keeps (field : Field) (token : String) (language : Language) (profile : Profile) :
    (complete field token language profile).id = field.id ∧
      (complete field token language profile).name = field.name ∧
      (complete field token language profile).control = field.control := by
  obtain ⟨sameId, sameName, sameControl, -⟩ := input_keeps field language profile
  unfold complete
  split
  · exact ⟨sameId, sameName, sameControl⟩
  all_goals exact ⟨rfl, rfl, rfl⟩

/-- A completed field without choices gets some exactly if it is a select. -/
theorem choices_complete_ne_nil_iff {field : Field} (bare : field.choices = []) (token : String)
    (language : Language) (profile : Profile) :
    (complete field token language profile).choices ≠ [] ↔ field.control = .select := by
  obtain ⟨-, -, -, sameChoices⟩ := input_keeps field language profile
  unfold complete
  cases shown : field.control with
  | input => simp [sameChoices, bare]
  | select => simp [suggestedChoices_ne_nil]
  | textarea | checkbox | datePicker | fileUpload => simp [bare]

/-- The draft of a token has the given name. -/
theorem name_ofToken (language : Language) (token name : String) :
    (ofToken language token name).field.name = name :=
  (complete_keeps _ token language _).2.1

/-- The draft of a token is coherent if the given name is an identifier. -/
theorem isCoherent_ofToken {name : String} (sound : Code.isIdentifier name = true)
    (language : Language) (token : String) : (ofToken language token name).field.IsCoherent := by
  have sameName := name_ofToken language token name
  obtain ⟨sameId, -, sameControl⟩ := complete_keeps
    (Field.plain name (labelFor token) ((Control.ofToken? token).getD .input)) token language
    ((Profile.ofToken? token).getD .generic)
  refine ⟨?_, ?_, ?_⟩
  · rw [sameName]
    exact sameId
  · rwa [sameName]
  · exact (choices_complete_ne_nil_iff rfl token language _).trans (by rw [← sameControl]; rfl)

/-! ## The drafts of some tokens -/

/-- The names of drafts, in their order. -/
def names (drafts : List Draft) : List String := drafts.map (·.field.name)

/-- The drafts of tokens are coherent. -/
theorem isCoherent_of_mem_ofTokensAfter {language : Language} {seen taken tokens : List String} :
    ∀ draft ∈ ofTokensAfter language seen taken tokens, draft.field.IsCoherent := by
  induction tokens generalizing seen taken with
  | nil => nofun
  | cons token later ih =>
    rw [ofTokensAfter]
    split
    · exact ih
    · refine List.forall_mem_cons.mpr ⟨?_, ih⟩
      exact isCoherent_ofToken (isIdentifier_freeName (isIdentifier_identifierFor token) taken)
        language token

/-- The names of the drafts of tokens are distinct and differ from those that are taken. -/
theorem nodup_names_ofTokensAfter (language : Language) (seen taken tokens : List String) :
    (names (ofTokensAfter language seen taken tokens)).Nodup ∧
      ∀ name ∈ names (ofTokensAfter language seen taken tokens), name ∉ taken := by
  induction tokens generalizing seen taken with
  | nil => exact ⟨List.nodup_nil, nofun⟩
  | cons token later ih =>
    rw [ofTokensAfter]
    split
    · exact ih seen taken
    · obtain ⟨distinct, fresh⟩ :=
        ih (token :: seen) (taken ++ [freeName taken (identifierFor token)])
      simp only [names, List.map_cons, name_ofToken] at distinct fresh ⊢
      refine ⟨List.nodup_cons.mpr ⟨fun again => ?_, distinct⟩, List.forall_mem_cons.mpr ⟨?_, ?_⟩⟩
      · exact fresh _ again (List.mem_append_right taken List.mem_cons_self)
      · exact freeName_notMem taken _
      · exact fun name member used => fresh name member (List.mem_append_left _ used)

/-- Tokens have drafts. -/
theorem ofTokens_ne_nil {tokens : List String} (some : tokens ≠ []) (language : Language) :
    ofTokens language tokens ≠ [] := by
  cases tokens with
  | nil => exact absurd rfl some
  | cons token later => simp [ofTokens, ofTokensAfter]

/-! ## Qualifiers -/

/-- A draft with a rule in front differs in its rules only. -/
theorem withRules_require (draft : Draft) (rules : List Rule) :
    draft.require.withRules rules = draft.withRules rules := by
  unfold require
  split <;> rfl

/-- Drafts of which some have a rule replaced differ in their rules only. -/
theorem map_withRules_replaceRule (meant : Draft → Bool) (replaced : Demand → Bool)
    (demand : Demand) (drafts : List Draft) (rules : List Rule) :
    (drafts.map fun draft =>
        if meant draft then draft.replaceRule replaced demand else draft).map
      (·.withRules rules) = drafts.map (·.withRules rules) := by
  rw [List.map_map]
  refine List.map_congr_left fun draft _ => ?_
  simp only [Function.comp]
  split <;> rfl

/-- Drafts with a least length differ in their rules only. -/
theorem map_withRules_limitBelow (least : UInt32) (drafts : List Draft) (rules : List Rule) :
    (limitBelow least drafts).map (·.withRules rules) = drafts.map (·.withRules rules) :=
  map_withRules_replaceRule _ _ _ drafts rules

/-- Drafts with a greatest length differ in their rules only. -/
theorem map_withRules_limitAbove (most : UInt32) (drafts : List Draft) (rules : List Rule) :
    (limitAbove most drafts).map (·.withRules rules) = drafts.map (·.withRules rules) :=
  map_withRules_replaceRule _ _ _ drafts rules

/-- Qualified drafts differ from the drafts in their rules only. -/
theorem map_withRules_apply (qualifiers : Qualifiers) (drafts : List Draft) (rules : List Rule) :
    (qualifiers.apply drafts).map (·.withRules rules) = drafts.map (·.withRules rules) := by
  have required : (if qualifiers.required then drafts.map require else drafts).map
      (·.withRules rules) = drafts.map (·.withRules rules) := by
    split
    · rw [List.map_map]
      exact List.map_congr_left fun draft _ => withRules_require draft rules
    · rfl
  unfold Qualifiers.apply
  cases qualifiers.minLength with
  | none =>
    cases qualifiers.maxLength with
    | none => exact required
    | some most => exact (map_withRules_limitAbove most _ rules).trans required
  | some least =>
    have below := (map_withRules_limitBelow least _ rules).trans required
    cases qualifiers.maxLength with
    | none => exact below
    | some most => exact (map_withRules_limitAbove most _ rules).trans below

/-- Qualified drafts have the names of the drafts. -/
theorem names_apply (qualifiers : Qualifiers) (drafts : List Draft) :
    names (qualifiers.apply drafts) = names drafts := by
  have same := congrArg names (map_withRules_apply qualifiers drafts [])
  simpa [names, Function.comp_def, withRules] using same

/-- There are as many qualified drafts as drafts. -/
theorem length_apply (qualifiers : Qualifiers) (drafts : List Draft) :
    (qualifiers.apply drafts).length = drafts.length := by
  simpa [names] using congrArg List.length (names_apply qualifiers drafts)

/-- A qualified draft differs from one of the drafts in its rules only. -/
theorem exists_of_mem_apply {qualifiers : Qualifiers} {drafts : List Draft} {draft : Draft}
    (member : draft ∈ qualifiers.apply drafts) :
    ∃ source ∈ drafts, source.withRules [] = draft.withRules [] := by
  have bare : draft.withRules [] ∈ drafts.map (·.withRules []) := by
    rw [← map_withRules_apply qualifiers]
    exact List.mem_map_of_mem member
  exact List.mem_map.mp bare

/-- Qualified drafts are coherent if the drafts are. -/
theorem isCoherent_of_mem_apply {qualifiers : Qualifiers} {drafts : List Draft}
    (sound : ∀ draft ∈ drafts, draft.field.IsCoherent) :
    ∀ draft ∈ qualifiers.apply drafts, draft.field.IsCoherent := by
  intro draft member
  obtain ⟨source, listed, same⟩ := exists_of_mem_apply member
  obtain ⟨id_eq, identifier, choices_iff⟩ := sound source listed
  have coherent : (draft.withRules []).field.IsCoherent := same ▸ ⟨id_eq, identifier, choices_iff⟩
  exact ⟨coherent.id_eq, coherent.identifier, coherent.choices_iff⟩

end Draft
end Formwright
