import Formwright.Proofs.Prompt.Reading

/-!
# Length rules of the fields of a prompt

A rule on the length of a value makes sense for controls whose value is a text. A greatest length is
only ever given to those. A least length goes to the passwords of a prompt if there are any, and the
word that tells of a password may stand in a token that asks for another control: this is the one
way in which a field whose value is no text gets a least length.
-/
namespace Formwright

/-! ## Rules by name -/

/-- A field has a rule of a name after its rules of one kind are replaced by another rule if it had
one before or the new rule has the name, as long as the kind has another name. -/
theorem Draft.hasRule_replaceRule {replaced : Demand → Bool} {name : String}
    (apart : ∀ demand, replaced demand = true → demand.name ≠ name) (draft : Draft)
    (demand : Demand) : (draft.replaceRule replaced demand).field.hasRule name =
      (draft.field.hasRule name || demand.name == name) := by
  have kept : (draft.field.rules.filter (!replaced ·.demand)).any (·.demand.name == name) =
      draft.field.rules.any (·.demand.name == name) := by
    rw [List.any_filter]
    congr 1
    funext rule
    cases dropped : replaced rule.demand with
    | false => rfl
    | true =>
      have other : (rule.demand.name == name) = false :=
        beq_eq_false_iff_ne.mpr (apart rule.demand dropped)
      rw [other]
      rfl
  simp [replaceRule, withRules, Field.hasRule, kept]

/-- A new rule is there after it replaces others. -/
theorem Draft.hasRule_replaceRule_self (draft : Draft) (replaced : Demand → Bool)
    (demand : Demand) : (draft.replaceRule replaced demand).field.hasRule demand.name = true := by
  simp [replaceRule, withRules, Field.hasRule]

/-- A required field has the same rules of other names as before. -/
theorem Draft.hasRule_require {name : String} (other : name ≠ "required") (draft : Draft) :
    draft.require.field.hasRule name = draft.field.hasRule name := by
  have apart : (Demand.required.name == name) = false := beq_eq_false_iff_ne.mpr other.symm
  unfold require
  split
  · rfl
  · rw [withRules, Field.hasRule, List.any_cons, apart, Bool.false_or, Field.hasRule]

/-! ## Qualified drafts one by one -/

namespace Draft

/-- Whether a least length is meant for a draft, where there are passwords among the drafts or
not. -/
def isMeantBelow (hasPassword : Bool) (draft : Draft) : Bool :=
  if hasPassword then draft.profile == .password else draft.field.control.isTextual

/-- A draft with a least length if there is one and it is meant for it. -/
def limitedBelow (least : Option UInt32) (hasPassword : Bool) (draft : Draft) : Draft :=
  match least with
  | some least =>
    if draft.isMeantBelow hasPassword then draft.replaceRule Demand.isMinLength (.minLength least)
    else draft
  | none => draft

/-- A draft with a greatest length if there is one and the value of the field is a text. -/
def limitedAbove (most : Option UInt32) (draft : Draft) : Draft :=
  match most with
  | some most =>
    if draft.field.control.isTextual then draft.replaceRule Demand.isMaxLength (.maxLength most)
    else draft
  | none => draft

/-- A draft with what qualifiers say about it, where there are passwords among the drafts or not. -/
def qualified (qualifiers : Qualifiers) (hasPassword : Bool) (draft : Draft) : Draft :=
  ((if qualifiers.required then draft.require else draft).limitedBelow qualifiers.minLength
    hasPassword).limitedAbove qualifiers.maxLength

/-- A required draft keeps its profile and its control. -/
theorem require_keeps (draft : Draft) : draft.require.profile = draft.profile ∧
    draft.require.field.control = draft.field.control := by
  unfold require
  split <;> exact ⟨rfl, rfl⟩

/-- A draft with a least length keeps its control. -/
theorem control_limitedBelow (least : Option UInt32) (hasPassword : Bool) (draft : Draft) :
    (draft.limitedBelow least hasPassword).field.control = draft.field.control := by
  cases least with
  | none => rfl
  | some least =>
    unfold limitedBelow
    dsimp only
    split <;> rfl

/-- A draft with a greatest length keeps its control. -/
theorem control_limitedAbove (most : Option UInt32) (draft : Draft) :
    (draft.limitedAbove most).field.control = draft.field.control := by
  cases most with
  | none => rfl
  | some most =>
    unfold limitedAbove
    dsimp only
    split <;> rfl

/-- Drafts get a least length one by one, except that there may be passwords among them. -/
theorem limitBelow_eq_map (least : UInt32) (drafts : List Draft) : limitBelow least drafts =
    drafts.map (limitedBelow (some least) (drafts.any (·.profile == .password))) := rfl

/-- Drafts get a greatest length one by one. -/
theorem limitAbove_eq_map (most : UInt32) (drafts : List Draft) :
    limitAbove most drafts = drafts.map (limitedAbove (some most)) := rfl

/-- Drafts are qualified one by one, except that there may be passwords among them. -/
theorem apply_eq_map (qualifiers : Qualifiers) (drafts : List Draft) :
    qualifiers.apply drafts =
      drafts.map (qualified qualifiers (drafts.any (·.profile == .password))) := by
  have passwords : (if qualifiers.required then drafts.map require else drafts).any
      (·.profile == .password) = drafts.any (·.profile == .password) := by
    split
    · rw [List.any_map]
      congr 1
      funext draft
      rw [Function.comp_apply, (require_keeps draft).1]
    · rfl
  have required : (if qualifiers.required then drafts.map require else drafts) =
      drafts.map fun draft => if qualifiers.required then draft.require else draft := by
    split
    · rfl
    · rw [List.map_id']
  unfold Qualifiers.apply qualified
  dsimp only
  cases qualifiers.minLength with
  | none =>
    cases qualifiers.maxLength with
    | none => exact required
    | some most =>
      dsimp only
      rw [limitAbove_eq_map, required, List.map_map]
      rfl
  | some least =>
    have below := limitBelow_eq_map least
      (if qualifiers.required then drafts.map require else drafts)
    rw [passwords, required, List.map_map] at below
    cases qualifiers.maxLength with
    | none =>
      dsimp only
      rw [required, below]
      rfl
    | some most =>
      dsimp only
      rw [limitAbove_eq_map, required, below, List.map_map]
      rfl

/-- A qualified draft keeps its control. -/
theorem control_qualified (qualifiers : Qualifiers) (hasPassword : Bool) (draft : Draft) :
    (draft.qualified qualifiers hasPassword).field.control = draft.field.control := by
  rw [qualified, control_limitedAbove, control_limitedBelow]
  split
  · exact (require_keeps draft).2
  · rfl

/-- The rules of a name are the same with a least length, if that has another name. -/
theorem hasRule_limitedBelow {name : String} (other : name ≠ "minLength") (least : Option UInt32)
    (hasPassword : Bool) (draft : Draft) :
    (draft.limitedBelow least hasPassword).field.hasRule name = draft.field.hasRule name := by
  have apart : ∀ demand : Demand, demand.isMinLength = true → demand.name ≠ name := by
    intro demand limits
    cases demand <;> first | exact other.symm | contradiction
  unfold limitedBelow
  split
  · next least =>
    split
    · rw [hasRule_replaceRule apart, beq_eq_false_iff_ne.mpr (apart (.minLength least) rfl),
        Bool.or_false]
    · rfl
  · rfl

/-- The rules of a name are the same with a greatest length, if that has another name. -/
theorem hasRule_limitedAbove {name : String} (other : name ≠ "maxLength") (most : Option UInt32)
    (draft : Draft) :
    (draft.limitedAbove most).field.hasRule name = draft.field.hasRule name := by
  have apart : ∀ demand : Demand, demand.isMaxLength = true → demand.name ≠ name := by
    intro demand limits
    cases demand <;> first | exact other.symm | contradiction
  unfold limitedAbove
  split
  · next most =>
    split
    · rw [hasRule_replaceRule apart, beq_eq_false_iff_ne.mpr (apart (.maxLength most) rfl),
        Bool.or_false]
    · rfl
  · rfl

/-- A draft has a least length if it had one before, or if there is one that is meant for it. -/
theorem hasRule_minLength_limitedBelow (least : Option UInt32) (hasPassword : Bool)
    (draft : Draft) : (draft.limitedBelow least hasPassword).field.hasRule "minLength" =
      (draft.field.hasRule "minLength" || (least.isSome && draft.isMeantBelow hasPassword)) := by
  cases least with
  | none => rw [Option.isSome_none, Bool.false_and, Bool.or_false, limitedBelow]
  | some least =>
    unfold limitedBelow
    dsimp only
    split
    · next meant =>
      have given := hasRule_replaceRule_self draft Demand.isMinLength (.minLength least)
      rw [meant, Option.isSome_some, Bool.true_and, Bool.or_true]
      exact given
    · next spared => simp [spared]

/-- A draft has a greatest length if it had one before, or if there is one and the value of the
field is a text. -/
theorem hasRule_maxLength_limitedAbove (most : Option UInt32) (draft : Draft) :
    (draft.limitedAbove most).field.hasRule "maxLength" =
      (draft.field.hasRule "maxLength" || (most.isSome && draft.field.control.isTextual)) := by
  cases most with
  | none => rw [Option.isSome_none, Bool.false_and, Bool.or_false, limitedAbove]
  | some most =>
    unfold limitedAbove
    dsimp only
    split
    · next textual =>
      have given := hasRule_replaceRule_self draft Demand.isMaxLength (.maxLength most)
      rw [textual, Option.isSome_some, Bool.true_and, Bool.or_true]
      exact given
    · next spared => simp [spared]

/-- A least length is meant for a required draft if it is for the draft. -/
theorem isMeantBelow_require (hasPassword : Bool) (draft : Draft) :
    draft.require.isMeantBelow hasPassword = draft.isMeantBelow hasPassword := by
  obtain ⟨profile, control⟩ := require_keeps draft
  rw [isMeantBelow, profile, control, isMeantBelow]

/-- A qualified draft has a least length if it had one before, or if there is one that is meant for
it. -/
theorem hasRule_minLength_qualified (qualifiers : Qualifiers) (hasPassword : Bool) (draft : Draft) :
    (draft.qualified qualifiers hasPassword).field.hasRule "minLength" =
      (draft.field.hasRule "minLength" ||
        (qualifiers.minLength.isSome && draft.isMeantBelow hasPassword)) := by
  rw [qualified, hasRule_limitedAbove (by decide), hasRule_minLength_limitedBelow]
  split
  · rw [hasRule_require (by decide), isMeantBelow_require]
  · rfl

/-- A qualified draft has a greatest length if it had one before, or if there is one and the value
of the field is a text. -/
theorem hasRule_maxLength_qualified (qualifiers : Qualifiers) (hasPassword : Bool) (draft : Draft) :
    (draft.qualified qualifiers hasPassword).field.hasRule "maxLength" =
      (draft.field.hasRule "maxLength" ||
        (qualifiers.maxLength.isSome && draft.field.control.isTextual)) := by
  rw [qualified, hasRule_maxLength_limitedAbove, hasRule_limitedBelow (by decide),
    control_limitedBelow]
  split
  · rw [hasRule_require (by decide), (require_keeps draft).2]
  · rfl

/-! ## The drafts of tokens -/

/-- A field without rules is completed without a greatest length. -/
theorem hasRule_maxLength_complete {field : Field} (bare : field.rules = []) (token : String)
    (language : Language) (profile : Profile) :
    (complete field token language profile).hasRule "maxLength" = false := by
  unfold complete
  cases field.control with
  | input => cases profile <;> simp [input, Field.hasRule, bare, Demand.name]
  | checkbox =>
    dsimp only
    split <;> simp [Field.hasRule, Demand.name]
  | textarea | select | datePicker | fileUpload => simp [Field.hasRule, bare]

/-- A field without rules whose value is no text is completed without a least length. -/
theorem hasRule_minLength_complete {field : Field} (bare : field.rules = [])
    (other : field.control.isTextual = false) (token : String) (language : Language)
    (profile : Profile) : (complete field token language profile).hasRule "minLength" = false := by
  unfold complete
  cases shown : field.control with
  | input | textarea => simp [shown, Control.isTextual] at other
  | checkbox =>
    dsimp only
    split <;> simp [Field.hasRule, Demand.name]
  | select | datePicker | fileUpload => simp [Field.hasRule, bare]

/-- The control of a draft is the one that its token asks for, or else an input. -/
theorem control_ofToken (language : Language) (token name : String) :
    (ofToken language token name).field.control = (Control.ofToken? token).getD .input :=
  (complete_keeps _ token language _).2.2

/-- The drafts for tokens are made of tokens that are not seen before. -/
theorem exists_of_mem_ofTokensAfter {language : Language} {seen taken tokens : List String}
    {draft : Draft} (member : draft ∈ ofTokensAfter language seen taken tokens) :
    ∃ token ∈ tokens, ∃ name, draft = ofToken language token name := by
  induction tokens generalizing seen taken with
  | nil => simp [ofTokensAfter] at member
  | cons token later ih =>
    have rest {seen taken : List String}
        (member : draft ∈ ofTokensAfter language seen taken later) :
        ∃ other ∈ token :: later, ∃ name, draft = ofToken language other name := by
      obtain ⟨other, listed, made⟩ := ih member
      exact ⟨other, List.mem_cons_of_mem token listed, made⟩
    rw [ofTokensAfter] at member
    split at member
    · exact rest member
    · rcases List.mem_cons.mp member with made | later
      · exact ⟨token, List.mem_cons_self, _, made⟩
      · exact rest later

/-- Every token that is not seen before has a draft. -/
theorem exists_mem_ofTokensAfter {tokens : List String} {token : String} (listed : token ∈ tokens)
    (language : Language) {seen : List String} (new : token ∉ seen) (taken : List String) :
    ∃ name, ofToken language token name ∈ ofTokensAfter language seen taken tokens := by
  induction tokens generalizing seen taken with
  | nil => simp at listed
  | cons first later ih =>
    rw [ofTokensAfter]
    split
    · next old =>
      have other : token ≠ first := fun same => new (same ▸ old)
      exact ih (List.mem_of_ne_of_mem other listed) new taken
    · by_cases same : token = first
      · rw [← same]
        exact ⟨_, List.mem_cons_self⟩
      · have unseen : token ∉ first :: seen := by
          rw [List.mem_cons, not_or]
          exact ⟨same, new⟩
        obtain ⟨name, made⟩ := ih (List.mem_of_ne_of_mem same listed) unseen _
        exact ⟨name, List.mem_cons_of_mem _ made⟩

/-- A token that tells of a password and asks for a control whose value is no text. -/
def IsHiddenPassword (token : String) : Prop :=
  Profile.ofToken? token = some .password ∧
    ((Control.ofToken? token).getD .input).isTextual = false

instance (token : String) : Decidable (IsHiddenPassword token) :=
  inferInstanceAs (Decidable (_ ∧ _))

/-- A draft of a token is a password outside text exactly if the token is one. -/
theorem isHiddenPassword_iff (language : Language) (token name : String) :
    IsHiddenPassword token ↔ (ofToken language token name).profile = .password ∧
      (ofToken language token name).field.control.isTextual = false := by
  have profile : Profile.ofToken? token = some .password ↔
      (ofToken language token name).profile = .password := by
    rw [ofToken]
    cases Profile.ofToken? token <;> simp
  rw [IsHiddenPassword, control_ofToken, profile]

/-- After qualification some field whose value is no text has a least length exactly if there is a
least length and a password outside text among the tokens. -/
theorem textual_of_minLength_iff (qualifiers : Qualifiers) (language : Language)
    (tokens : List String) :
    (∀ draft ∈ qualifiers.apply (ofTokens language tokens),
        draft.field.hasRule "minLength" = true → draft.field.control.isTextual = true) ↔
      ¬(qualifiers.minLength.isSome = true ∧ ∃ token ∈ tokens, IsHiddenPassword token) := by
  rw [apply_eq_map, List.forall_mem_map]
  constructor
  · rintro textual ⟨limits, token, listed, hidden⟩
    obtain ⟨name, member⟩ := exists_mem_ofTokensAfter listed language List.not_mem_nil []
    obtain ⟨profile, other⟩ := (isHiddenPassword_iff language token name).mp hidden
    have hasPassword : (ofTokens language tokens).any (·.profile == .password) = true :=
      List.any_eq_true.mpr ⟨_, member, by rw [profile]; rfl⟩
    have given := hasRule_minLength_qualified qualifiers true (ofToken language token name)
    rw [isMeantBelow, if_pos rfl, profile, limits, beq_self_eq_true, Bool.and_self,
      Bool.or_true] at given
    rw [hasPassword] at textual
    have shown := textual _ member given
    rw [control_qualified, other] at shown
    exact Bool.noConfusion shown
  · intro unlimited draft member given
    obtain ⟨token, listed, name, rfl⟩ := exists_of_mem_ofTokensAfter member
    rw [control_qualified]
    -- A field whose value is no text starts without a least length, so it would be given one.
    by_contra shown
    have other := Bool.eq_false_iff.mpr shown
    have bare : (ofToken language token name).field.hasRule "minLength" = false := by
      apply hasRule_minLength_complete rfl
      rwa [control_ofToken] at other
    rw [hasRule_minLength_qualified, bare, Bool.false_or, Bool.and_eq_true] at given
    obtain ⟨limits, meant⟩ := given
    unfold isMeantBelow at meant
    split at meant
    · have profile := beq_iff_eq.mp meant
      have hidden := (isHiddenPassword_iff language token name).mpr ⟨profile, other⟩
      exact unlimited ⟨limits, token, listed, hidden⟩
    · exact shown meant

/-- After qualification the value of every field with a greatest length is a text. -/
theorem textual_of_maxLength (qualifiers : Qualifiers) (language : Language)
    (tokens : List String) :
    ∀ draft ∈ qualifiers.apply (ofTokens language tokens),
      draft.field.hasRule "maxLength" = true → draft.field.control.isTextual = true := by
  rw [apply_eq_map, List.forall_mem_map]
  intro draft member limited
  obtain ⟨token, -, name, rfl⟩ := exists_of_mem_ofTokensAfter member
  have bare : (ofToken language token name).field.hasRule "maxLength" = false :=
    hasRule_maxLength_complete rfl token language _
  rw [hasRule_maxLength_qualified, bare, Bool.false_or, Bool.and_eq_true] at limited
  rw [control_qualified]
  exact limited.2

end Draft

/-! ## Prompts -/

namespace Prompt
open Draft

/-- The drafts of a request are made of the tokens that it lists, or of tokens among which there is
no password outside text. -/
theorem exists_ofTokens_drafts (text : List Char) (topic : Topic) :
    ∃ tokens, (drafts text topic).1 = ofTokens topic.language tokens ∧
      ((∃ token ∈ tokens, IsHiddenPassword token) ↔
        ∃ token ∈ (FieldList.find text).1, IsHiddenPassword token) := by
  have shown (language : Language) : ¬∃ token ∈
      ["email", Wording.text ⟨"password", "hasło"⟩ language], IsHiddenPassword token := by
    cases language <;> decide +kernel
  unfold drafts
  cases found : FieldList.find text with
  | mk tokens rule =>
    cases tokens with
    | nil =>
      dsimp only
      split
      · exact ⟨_, rfl, iff_of_false (shown topic.language) (by simp)⟩
      · exact ⟨[], rfl, Iff.rfl⟩
    | cons token later => exact ⟨token :: later, rfl, Iff.rfl⟩

/-- In the document of a request, the value of each field with a greatest length is a text. So is
the value of each field with a least length, exactly unless the request has a least length and names
a password outside text. -/
theorem lengthRules_readRequest (request : Request) :
    (∀ field ∈ (readRequest request).document.fields,
      field.hasRule "maxLength" = true → field.control.isTextual = true) ∧
    ((∀ field ∈ (readRequest request).document.fields,
        field.hasRule "minLength" = true → field.control.isTextual = true) ↔
      ¬((Qualifiers.ofText request.text).minLength.isSome = true ∧
        ∃ token ∈ (FieldList.find request.text).1, IsHiddenPassword token)) := by
  obtain ⟨tokens, made, hidden⟩ := exists_ofTokens_drafts request.text (Topic.ofText request.text)
  have below := textual_of_minLength_iff (Qualifiers.ofText request.text)
    (Topic.ofText request.text).language tokens
  rw [hidden] at below
  rw [fields_readRequest, made, List.forall_mem_map, List.forall_mem_map]
  exact ⟨textual_of_maxLength _ _ _, below⟩

/-- In the document of every prompt, the value of each field with a greatest length is a text. So is
the value of each field with a least length, exactly unless the prompt is a request with a least
length that names a password outside text. -/
theorem lengthRules_textual (prompt : String) :
    (∀ field ∈ (read prompt).document.fields,
      field.hasRule "maxLength" = true → field.control.isTextual = true) ∧
    ((∀ field ∈ (read prompt).document.fields,
        field.hasRule "minLength" = true → field.control.isTextual = true) ↔
      ¬((Request.ofPrompt prompt.toList).isCode = false ∧
        (Qualifiers.ofText (Request.ofPrompt prompt.toList).text).minLength.isSome = true ∧
        ∃ token ∈ (FieldList.find (Request.ofPrompt prompt.toList).text).1,
          IsHiddenPassword token)) := by
  cases code : (Request.ofPrompt prompt.toList).isCode with
  | true =>
    have bare : (readCode (Request.ofPrompt prompt.toList)).document.fields = [] := rfl
    rw [read_of_isCode code, bare]
    simp
  | false =>
    have held := lengthRules_readRequest (Request.ofPrompt prompt.toList)
    rw [read_of_not_isCode code]
    simpa using held

/-- A select that is named after a password gets the least length of passwords. -/
theorem lengthRules_passwordType : ¬∀ field ∈
    (read "with password type, min 9 chars").document.fields,
      field.hasRule "minLength" = true → field.control.isTextual = true := by
  have code : (Request.ofPrompt "with password type, min 9 chars".toList).isCode = false := by
    decide +kernel
  have text : (Request.ofPrompt "with password type, min 9 chars".toList).text =
      "with password type, min 9 chars".toList := by
    decide +kernel
  have limits : (Qualifiers.ofText "with password type, min 9 chars".toList).minLength.isSome =
      true := by
    decide +kernel
  have tokens : (FieldList.find "with password type, min 9 chars".toList).1 =
      ["password type"] := by
    decide +kernel
  have hidden : IsHiddenPassword "password type" := by
    decide +kernel
  have held := (lengthRules_readRequest
    (Request.ofPrompt "with password type, min 9 chars".toList)).2
  rw [text, tokens] at held
  rw [read_of_not_isCode code, held]
  exact fun unlimited => unlimited ⟨limits, _, List.mem_singleton_self _, hidden⟩

end Prompt

end Formwright
