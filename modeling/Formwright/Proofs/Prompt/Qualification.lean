import Formwright.Proofs.Json.NumberText
import Formwright.Proofs.Prompt.LengthRule
import Mathlib.Data.List.Forall2

/-!
# What qualifiers do to drafts

The qualifiers of a prompt change nothing of the drafts but their rules. The rules of a qualified
draft are a first one for a value that is required, the rules that no qualifier replaces in their
order, and the limits of the length. So qualifying again changes nothing, and no field of a prompt
has two rules of one kind.
-/
namespace Formwright

/-! ## The names of qualifiers -/

namespace Qualifiers

/-- The names of qualifiers tell which of them are present, with their numbers. -/
structure AreTold (qualifiers : Qualifiers) (names : List String) : Prop where
  required_iff : "required" ∈ names ↔ qualifiers.required = true
  minLength_iff : ∀ least : UInt32,
    "minLength:" ++ toString least.toNat ∈ names ↔ qualifiers.minLength = some least
  maxLength_iff : ∀ most : UInt32,
    "maxLength:" ++ toString most.toNat ∈ names ↔ qualifiers.maxLength = some most

/-- Texts that begin differently differ. -/
theorem ne_of_take_ne {first later : String} (count : Nat)
    (apart : first.toList.take count ≠ later.toList.take count) : first ≠ later :=
  fun same => apart (same ▸ rfl)

/-- A number after a text is told by the whole. -/
theorem append_toString_inj (front : String) (left right : UInt32) :
    front ++ toString left.toNat = front ++ toString right.toNat ↔ left = right := by
  rw [String.append_right_inj, Json.toString_injective.eq_iff, UInt32.toNat_inj]

/-- What the names of qualifiers are. -/
theorem mem_names_iff (qualifiers : Qualifiers) (text : String) :
    text ∈ qualifiers.names ↔ qualifiers.required = true ∧ text = "required" ∨
      (∃ least, qualifiers.minLength = some least ∧ text = "minLength:" ++ toString least.toNat) ∨
      ∃ most, qualifiers.maxLength = some most ∧ text = "maxLength:" ++ toString most.toNat := by
  have numbered (front : String) (number : Option UInt32) :
      text ∈ (number.map fun value => front ++ toString value.toNat).toList ↔
        ∃ value, number = some value ∧ text = front ++ toString value.toNat := by
    cases number <;> simp
  rw [names, List.mem_append, List.mem_append, or_assoc, numbered, numbered]
  refine or_congr ?_ Iff.rfl
  split <;> simp_all

/-- The qualifiers that are present are told by their names. -/
theorem areTold_names (qualifiers : Qualifiers) : qualifiers.AreTold qualifiers.names := by
  have requiredLeast (least : UInt32) : "required" ≠ "minLength:" ++ toString least.toNat :=
    ne_of_take_ne 2 (by simp)
  have requiredMost (most : UInt32) : "required" ≠ "maxLength:" ++ toString most.toNat :=
    ne_of_take_ne 2 (by simp)
  have leastMost (least most : UInt32) :
      "minLength:" ++ toString least.toNat ≠ "maxLength:" ++ toString most.toNat :=
    ne_of_take_ne 2 (by simp)
  refine ⟨?_, fun least => ?_, fun most => ?_⟩
  · simp only [mem_names_iff, requiredLeast, requiredMost, and_true, and_false, exists_false,
      or_false]
  · simp only [mem_names_iff, (requiredLeast least).symm, leastMost, append_toString_inj, and_false,
      exists_false, false_or, or_false, exists_eq_right']
  · simp only [mem_names_iff, (requiredMost most).symm, (leastMost _ most).symm,
      append_toString_inj, and_false, exists_false, false_or, exists_eq_right']

end Qualifiers

/-- A demand limits the length from below exactly if its name says so. -/
theorem Demand.isMinLength_iff (demand : Demand) :
    demand.isMinLength = true ↔ demand.name = "minLength" := by
  cases demand <;> simp [isMinLength, name]

/-- A demand limits the length from above exactly if its name says so. -/
theorem Demand.isMaxLength_iff (demand : Demand) :
    demand.isMaxLength = true ↔ demand.name = "maxLength" := by
  cases demand <;> simp [isMaxLength, name]

/-- A limit from below is none from above. -/
theorem Demand.not_both_limits (demand : Demand) :
    demand.isMinLength = false ∨ demand.isMaxLength = false := by
  cases demand <;> simp [isMinLength, isMaxLength]

namespace Draft

/-! ## The rules of a qualified draft -/

section

variable (qualifiers : Qualifiers) (hasPassword : Bool) (draft : Draft)

/-- The rule that a draft gets in front, if a value is required and no rule says so yet. -/
def frontRule : List Rule :=
  if qualifiers.required && !draft.field.isRequired then [⟨.required, none⟩] else []

/-- The least length that a draft gets, if there is one and it is meant for the draft. -/
def leastRule : List Rule :=
  if draft.isMeantBelow hasPassword then
    (qualifiers.minLength.map fun least => ⟨.minLength least, none⟩).toList
  else []

/-- The greatest length that a draft gets, if there is one and the value of the field is a text. -/
def mostRule : List Rule :=
  if draft.field.control.isTextual then
    (qualifiers.maxLength.map fun most => ⟨.maxLength most, none⟩).toList
  else []

/-- Whether a rule of a draft is a least length that is replaced. -/
def replacesLeast (rule : Rule) : Bool :=
  qualifiers.minLength.isSome && draft.isMeantBelow hasPassword && rule.demand.isMinLength

/-- Whether a rule of a draft is a greatest length that is replaced. -/
def replacesMost (rule : Rule) : Bool :=
  qualifiers.maxLength.isSome && draft.field.control.isTextual && rule.demand.isMaxLength

/-- Whether a rule of a draft stays. -/
def keeps (rule : Rule) : Bool :=
  !draft.replacesLeast qualifiers hasPassword rule && !draft.replacesMost qualifiers rule

end

section

variable {qualifiers : Qualifiers} {hasPassword : Bool} {draft : Draft} {rules : List Rule}

/-- A draft with its own rules is the draft. -/
@[simp]
theorem withRules_self : draft.withRules draft.field.rules = draft := rfl

/-- Of rules that a draft is given one after the other only the last stay. -/
@[simp]
theorem withRules_withRules (later : List Rule) :
    (draft.withRules rules).withRules later = draft.withRules later := rfl

/-- A draft that is given rules has them. -/
@[simp]
theorem rules_withRules : (draft.withRules rules).field.rules = rules := rfl

/-- The rule for a least length does not depend on the rules that a draft has. -/
@[simp]
theorem leastRule_withRules : (draft.withRules rules).leastRule qualifiers hasPassword =
    draft.leastRule qualifiers hasPassword := rfl

/-- The rule for a greatest length does not depend on the rules that a draft has. -/
@[simp]
theorem mostRule_withRules :
    (draft.withRules rules).mostRule qualifiers = draft.mostRule qualifiers := rfl

/-- Which rules for a least length are replaced does not depend on the rules that a draft has. -/
@[simp]
theorem replacesLeast_withRules : (draft.withRules rules).replacesLeast qualifiers hasPassword =
    draft.replacesLeast qualifiers hasPassword := rfl

/-- Which rules for a greatest length are replaced does not depend on the rules that a draft has. -/
@[simp]
theorem replacesMost_withRules :
    (draft.withRules rules).replacesMost qualifiers = draft.replacesMost qualifiers := rfl

/-- Which rules stay does not depend on the rules that a draft has. -/
@[simp]
theorem keeps_withRules : (draft.withRules rules).keeps qualifiers hasPassword =
    draft.keeps qualifiers hasPassword := rfl

/-- A draft whose value is required if qualifiers say so has a rule in front of its rules. -/
theorem required_eq : (if qualifiers.required then draft.require else draft) =
    draft.withRules (draft.frontRule qualifiers ++ draft.field.rules) := by
  unfold frontRule require
  cases qualifiers.required <;> cases draft.field.isRequired <;> rfl

/-- A draft with a least length if there is one and it is meant for it has it after the rules that
it does not replace. -/
theorem limitedBelow_eq : draft.limitedBelow qualifiers.minLength hasPassword =
    draft.withRules (draft.field.rules.filter (!draft.replacesLeast qualifiers hasPassword ·)
      ++ draft.leastRule qualifiers hasPassword) := by
  unfold limitedBelow leastRule replacesLeast
  cases qualifiers.minLength with
  | none => simp
  | some least => cases draft.isMeantBelow hasPassword <;> simp [replaceRule]

/-- A draft with a greatest length if there is one and its value is a text has it after the rules
that it does not replace. -/
theorem limitedAbove_eq : draft.limitedAbove qualifiers.maxLength =
    draft.withRules (draft.field.rules.filter (!draft.replacesMost qualifiers ·)
      ++ draft.mostRule qualifiers) := by
  unfold limitedAbove mostRule replacesMost
  cases qualifiers.maxLength with
  | none => simp
  | some most => cases draft.field.control.isTextual <;> simp [replaceRule]

/-- The rule in front demands a value. -/
theorem forall_mem_frontRule {holds : Rule → Prop} (held : holds ⟨.required, none⟩) :
    ∀ rule ∈ draft.frontRule qualifiers, holds rule := by
  unfold frontRule
  split
  · simpa using held
  · nofun

/-- A new least length is meant for the draft. -/
theorem forall_mem_leastRule {holds : Rule → Prop}
    (held : ∀ least, qualifiers.minLength = some least → draft.isMeantBelow hasPassword = true →
      holds ⟨.minLength least, none⟩) :
    ∀ rule ∈ draft.leastRule qualifiers hasPassword, holds rule := by
  unfold leastRule
  split
  · next meant =>
    cases given : qualifiers.minLength with
    | none => nofun
    | some least => simpa using held least given meant
  · nofun

/-- A new greatest length stands at a text. -/
theorem forall_mem_mostRule {holds : Rule → Prop}
    (held : ∀ most, qualifiers.maxLength = some most → draft.field.control.isTextual = true →
      holds ⟨.maxLength most, none⟩) :
    ∀ rule ∈ draft.mostRule qualifiers, holds rule := by
  unfold mostRule
  split
  · next textual =>
    cases given : qualifiers.maxLength with
    | none => nofun
    | some most => simpa using held most given textual
  · nofun

/-- The rules of a qualified draft: one in front, those that stay in their order, and the limits of
the length. -/
theorem qualified_eq : draft.qualified qualifiers hasPassword =
    draft.withRules (draft.frontRule qualifiers
      ++ draft.field.rules.filter (draft.keeps qualifiers hasPassword)
      ++ draft.leastRule qualifiers hasPassword ++ draft.mostRule qualifiers) := by
  have both (rules : List Rule) :
      (rules.filter (!draft.replacesLeast qualifiers hasPassword ·)).filter
        (!draft.replacesMost qualifiers ·) = rules.filter (draft.keeps qualifiers hasPassword) := by
    rw [List.filter_filter]
    exact List.filter_congr fun rule _ => Bool.and_comm _ _
  have front : (draft.frontRule qualifiers).filter (draft.keeps qualifiers hasPassword) =
      draft.frontRule qualifiers :=
    List.filter_eq_self.mpr (forall_mem_frontRule (by
      simp [keeps, replacesLeast, replacesMost, Demand.isMinLength, Demand.isMaxLength]))
  have least : (draft.leastRule qualifiers hasPassword).filter
      (!draft.replacesMost qualifiers ·) = draft.leastRule qualifiers hasPassword :=
    List.filter_eq_self.mpr (forall_mem_leastRule fun least _ _ => by
      simp [replacesMost, Demand.isMaxLength])
  rw [qualified, required_eq, limitedBelow_eq, limitedAbove_eq]
  simp only [withRules_withRules, rules_withRules, replacesLeast_withRules, replacesMost_withRules,
    leastRule_withRules, mostRule_withRules]
  rw [List.filter_append, both, List.filter_append, front, least]

/-- The rules of some kind of a qualified draft. -/
theorem filter_rules_qualified (wanted : Rule → Bool) :
    (draft.qualified qualifiers hasPassword).field.rules.filter wanted =
      (draft.frontRule qualifiers).filter wanted
        ++ (draft.field.rules.filter wanted).filter (draft.keeps qualifiers hasPassword)
        ++ (draft.leastRule qualifiers hasPassword).filter wanted
        ++ (draft.mostRule qualifiers).filter wanted := by
  rw [qualified_eq, rules_withRules, List.filter_append, List.filter_append, List.filter_append,
    List.filter_filter, List.filter_filter]
  simp only [Bool.and_comm]

/-- The rules that stay in a qualified draft. -/
theorem filter_keeps_qualified :
    (draft.qualified qualifiers hasPassword).field.rules.filter (draft.keeps qualifiers hasPassword)
      = draft.frontRule qualifiers
        ++ draft.field.rules.filter (draft.keeps qualifiers hasPassword) := by
  have front : (draft.frontRule qualifiers).filter (draft.keeps qualifiers hasPassword) =
      draft.frontRule qualifiers :=
    List.filter_eq_self.mpr (forall_mem_frontRule (by
      simp [keeps, replacesLeast, replacesMost, Demand.isMinLength, Demand.isMaxLength]))
  have least : (draft.leastRule qualifiers hasPassword).filter
      (draft.keeps qualifiers hasPassword) = [] :=
    List.filter_eq_nil_iff.mpr (forall_mem_leastRule fun least given meant => by
      simp [keeps, replacesLeast, given, meant, Demand.isMinLength])
  have most : (draft.mostRule qualifiers).filter (draft.keeps qualifiers hasPassword) = [] :=
    List.filter_eq_nil_iff.mpr (forall_mem_mostRule fun most given textual => by
      simp [keeps, replacesMost, given, textual, Demand.isMaxLength])
  rw [filter_rules_qualified, front, least, most, List.append_nil, List.append_nil,
    List.filter_filter]
  simp only [Bool.and_self]

/-- A qualified draft has the least lengths that are not replaced, and its new one. -/
theorem filter_isMinLength_qualified :
    (draft.qualified qualifiers hasPassword).field.rules.filter (·.demand.isMinLength) =
      (draft.field.rules.filter (·.demand.isMinLength)).filter
        (draft.keeps qualifiers hasPassword) ++ draft.leastRule qualifiers hasPassword := by
  have front : (draft.frontRule qualifiers).filter (·.demand.isMinLength) = [] :=
    List.filter_eq_nil_iff.mpr (forall_mem_frontRule nofun)
  have least : (draft.leastRule qualifiers hasPassword).filter (·.demand.isMinLength) =
      draft.leastRule qualifiers hasPassword :=
    List.filter_eq_self.mpr (forall_mem_leastRule fun _ _ _ => rfl)
  have most : (draft.mostRule qualifiers).filter (·.demand.isMinLength) = [] :=
    List.filter_eq_nil_iff.mpr (forall_mem_mostRule fun _ _ _ => nofun)
  rw [filter_rules_qualified, front, least, most, List.nil_append, List.append_nil]

/-- A qualified draft has the greatest lengths that are not replaced, and its new one. -/
theorem filter_isMaxLength_qualified :
    (draft.qualified qualifiers hasPassword).field.rules.filter (·.demand.isMaxLength) =
      (draft.field.rules.filter (·.demand.isMaxLength)).filter
        (draft.keeps qualifiers hasPassword) ++ draft.mostRule qualifiers := by
  have front : (draft.frontRule qualifiers).filter (·.demand.isMaxLength) = [] :=
    List.filter_eq_nil_iff.mpr (forall_mem_frontRule nofun)
  have least : (draft.leastRule qualifiers hasPassword).filter (·.demand.isMaxLength) = [] :=
    List.filter_eq_nil_iff.mpr (forall_mem_leastRule fun _ _ _ => nofun)
  have most : (draft.mostRule qualifiers).filter (·.demand.isMaxLength) =
      draft.mostRule qualifiers :=
    List.filter_eq_self.mpr (forall_mem_mostRule fun _ _ _ => rfl)
  rw [filter_rules_qualified, front, least, most, List.nil_append, List.append_nil]

/-- The rules of a qualified draft that demand a value. -/
theorem filter_required_qualified :
    (draft.qualified qualifiers hasPassword).field.rules.filter (·.demand == .required) =
      draft.frontRule qualifiers ++ draft.field.rules.filter (·.demand == .required) := by
  have front : (draft.frontRule qualifiers).filter (·.demand == .required) =
      draft.frontRule qualifiers :=
    List.filter_eq_self.mpr (forall_mem_frontRule rfl)
  have kept : (draft.field.rules.filter (·.demand == .required)).filter
      (draft.keeps qualifiers hasPassword) = draft.field.rules.filter (·.demand == .required) :=
    List.filter_eq_self.mpr fun rule member => by
      have demands := beq_iff_eq.mp (List.mem_filter.mp member).2
      simp [keeps, replacesLeast, replacesMost, demands, Demand.isMinLength, Demand.isMaxLength]
  have least : (draft.leastRule qualifiers hasPassword).filter (·.demand == .required) = [] :=
    List.filter_eq_nil_iff.mpr (forall_mem_leastRule fun _ _ _ => nofun)
  have most : (draft.mostRule qualifiers).filter (·.demand == .required) = [] :=
    List.filter_eq_nil_iff.mpr (forall_mem_mostRule fun _ _ _ => nofun)
  rw [filter_rules_qualified, front, kept, least, most, List.append_nil, List.append_nil]

/-- The value of a qualified draft is required if qualifiers say so, or if it was before. -/
theorem isRequired_qualified : (draft.qualified qualifiers hasPassword).field.isRequired =
    (qualifiers.required || draft.field.isRequired) := by
  have told (field : Field) : field.isRequired =
      !(field.rules.filter (·.demand == .required)).isEmpty := by
    rw [Field.isRequired, Bool.eq_iff_iff]
    simp
  have before := told draft.field
  rw [told, filter_required_qualified, frontRule]
  cases qualifiers.required <;> cases required : draft.field.isRequired <;> simp_all

/-- Qualifying a draft again changes nothing. -/
theorem qualified_qualified :
    (draft.qualified qualifiers hasPassword).qualified qualifiers hasPassword =
      draft.qualified qualifiers hasPassword := by
  have same (later : List Rule) : (draft.qualified qualifiers hasPassword).withRules later =
      draft.withRules later := by rw [qualified_eq, withRules_withRules]
  have front : (draft.qualified qualifiers hasPassword).frontRule qualifiers = [] := by
    rw [frontRule, isRequired_qualified]
    cases qualifiers.required <;> rfl
  have keeps : (draft.qualified qualifiers hasPassword).keeps qualifiers hasPassword =
      draft.keeps qualifiers hasPassword := by rw [qualified_eq, keeps_withRules]
  have least : (draft.qualified qualifiers hasPassword).leastRule qualifiers hasPassword =
      draft.leastRule qualifiers hasPassword := by rw [qualified_eq, leastRule_withRules]
  have most : (draft.qualified qualifiers hasPassword).mostRule qualifiers =
      draft.mostRule qualifiers := by rw [qualified_eq, mostRule_withRules]
  calc (draft.qualified qualifiers hasPassword).qualified qualifiers hasPassword
    _ = draft.withRules ([] ++ (draft.frontRule qualifiers
          ++ draft.field.rules.filter (draft.keeps qualifiers hasPassword))
          ++ draft.leastRule qualifiers hasPassword ++ draft.mostRule qualifiers) := by
      rw [qualified_eq, same, front, keeps, filter_keeps_qualified, least, most]
    _ = draft.qualified qualifiers hasPassword := by rw [List.nil_append, qualified_eq]

end

/-- What qualifiers make of a draft, where there are passwords among the drafts or not. -/
structure IsQualified (qualifiers : Qualifiers) (hasPassword : Bool) (before after : Draft) :
    Prop where
  /-- Nothing changes but the rules. -/
  frame : after = before.withRules after.field.rules
  required : qualifiers.required = true → after.field.isRequired = true ∧
    (before.field.isRequired = false → after.field.rules.head? = some ⟨.required, none⟩)
  minLength : ∀ least, qualifiers.minLength = some least →
    before.isMeantBelow hasPassword = true →
      after.field.rules.filter (·.demand.isMinLength) = [⟨.minLength least, none⟩]
  maxLength : ∀ most, qualifiers.maxLength = some most → before.field.control.isTextual = true →
    after.field.rules.filter (·.demand.isMaxLength) = [⟨.maxLength most, none⟩]
  /-- A least length that is not replaced stays. -/
  keepsMinLength : qualifiers.minLength = none ∨ before.isMeantBelow hasPassword = false →
    after.field.rules.filter (·.demand.isMinLength) =
      before.field.rules.filter (·.demand.isMinLength)
  /-- A greatest length that is not replaced stays. -/
  keepsMaxLength : qualifiers.maxLength = none ∨ before.field.control.isTextual = false →
    after.field.rules.filter (·.demand.isMaxLength) =
      before.field.rules.filter (·.demand.isMaxLength)
  /-- The rules that are not replaced stand in the order in which they stood. -/
  order : after.field.rules.filter (before.keeps qualifiers hasPassword) =
    before.frontRule qualifiers ++ before.field.rules.filter (before.keeps qualifiers hasPassword)

/-- A draft is qualified in this way. -/
theorem isQualified_qualified (qualifiers : Qualifiers) (hasPassword : Bool) (draft : Draft) :
    IsQualified qualifiers hasPassword draft (draft.qualified qualifiers hasPassword) where
  frame := by rw [qualified_eq, rules_withRules]
  required given := by
    refine ⟨by rw [isRequired_qualified, given, Bool.true_or], fun lacking => ?_⟩
    rw [qualified_eq, rules_withRules, frontRule, given, lacking]
    rfl
  minLength least given meant := by
    have replaced : (draft.field.rules.filter (·.demand.isMinLength)).filter
        (draft.keeps qualifiers hasPassword) = [] :=
      List.filter_eq_nil_iff.mpr fun rule member => by
        simp [keeps, replacesLeast, given, meant, (List.mem_filter.mp member).2]
    rw [filter_isMinLength_qualified, replaced, leastRule, if_pos meant, given]
    rfl
  maxLength most given textual := by
    have replaced : (draft.field.rules.filter (·.demand.isMaxLength)).filter
        (draft.keeps qualifiers hasPassword) = [] :=
      List.filter_eq_nil_iff.mpr fun rule member => by
        simp [keeps, replacesMost, given, textual, (List.mem_filter.mp member).2]
    rw [filter_isMaxLength_qualified, replaced, mostRule, if_pos textual, given]
    rfl
  keepsMinLength spared := by
    have kept : (draft.field.rules.filter (·.demand.isMinLength)).filter
        (draft.keeps qualifiers hasPassword) =
          draft.field.rules.filter (·.demand.isMinLength) :=
      List.filter_eq_self.mpr fun rule member => by
        have limits := (List.mem_filter.mp member).2
        have other := rule.demand.not_both_limits.resolve_left (by simp [limits])
        rcases spared with absent | other <;> simp [keeps, replacesLeast, replacesMost, *]
    have none : draft.leastRule qualifiers hasPassword = [] := by
      rcases spared with absent | other
      · simp [leastRule, absent]
      · simp [leastRule, other]
    rw [filter_isMinLength_qualified, kept, none, List.append_nil]
  keepsMaxLength spared := by
    have kept : (draft.field.rules.filter (·.demand.isMaxLength)).filter
        (draft.keeps qualifiers hasPassword) =
          draft.field.rules.filter (·.demand.isMaxLength) :=
      List.filter_eq_self.mpr fun rule member => by
        have limits := (List.mem_filter.mp member).2
        have other := rule.demand.not_both_limits.resolve_right (by simp [limits])
        rcases spared with absent | other <;> simp [keeps, replacesLeast, replacesMost, *]
    have none : draft.mostRule qualifiers = [] := by
      rcases spared with absent | other
      · simp [mostRule, absent]
      · simp [mostRule, other]
    rw [filter_isMaxLength_qualified, kept, none, List.append_nil]
  order := filter_keeps_qualified

/-- Drafts are qualified one by one, and qualifying them again changes nothing. -/
theorem apply_apply (qualifiers : Qualifiers) (drafts : List Draft) :
    qualifiers.apply (qualifiers.apply drafts) = qualifiers.apply drafts := by
  have profile (hasPassword : Bool) (draft : Draft) :
      (draft.qualified qualifiers hasPassword).profile = draft.profile := by
    rw [qualified_eq]
    rfl
  have passwords : (qualifiers.apply drafts).any (·.profile == .password) =
      drafts.any (·.profile == .password) := by
    rw [apply_eq_map, List.any_map]
    simp only [Function.comp_def, profile]
  rw [apply_eq_map qualifiers (qualifiers.apply drafts), passwords, apply_eq_map, List.map_map]
  exact List.map_congr_left fun draft _ => qualified_qualified

/-- Drafts are qualified one by one, in their order. -/
theorem forall₂_isQualified_apply (qualifiers : Qualifiers) (drafts : List Draft) :
    List.Forall₂ (IsQualified qualifiers (drafts.any (·.profile == .password))) drafts
      (qualifiers.apply drafts) := by
  rw [apply_eq_map, List.forall₂_map_right_iff, List.forall₂_same]
  exact fun draft _ => isQualified_qualified qualifiers _ draft

/-! ## One rule of each kind -/

/-- A draft of which no two rules are of one kind. -/
def HasDistinctRules (draft : Draft) : Prop := (draft.field.rules.map (·.demand.name)).Nodup

/-- A required draft has no two rules of one kind if the draft has none. -/
theorem HasDistinctRules.require {draft : Draft} (distinct : draft.HasDistinctRules) :
    draft.require.HasDistinctRules := by
  unfold Draft.require
  split
  · exact distinct
  · next lacking =>
    refine List.nodup_cons.mpr ⟨fun listed => ?_, distinct⟩
    obtain ⟨rule, member, same⟩ := List.mem_map.mp listed
    have demands : rule.demand = .required := by
      cases held : rule.demand <;> simp [held, Demand.name] at same
      rfl
    exact lacking (List.any_eq_true.mpr ⟨rule, member, beq_iff_eq.mpr demands⟩)

/-- A rule in place of all rules of its kind is the only one. -/
theorem HasDistinctRules.replaceRule {draft : Draft} {replaced : Demand → Bool} {demand : Demand}
    (distinct : draft.HasDistinctRules)
    (told : ∀ other : Demand, other.name = demand.name → replaced other = true) :
    (draft.replaceRule replaced demand).HasDistinctRules := by
  have stay : ((draft.field.rules.filter (!replaced ·.demand)).map (·.demand.name)).Nodup :=
    distinct.sublist (List.filter_sublist.map _)
  rw [HasDistinctRules, Draft.replaceRule, rules_withRules, List.map_append, List.map_singleton,
    List.nodup_append]
  refine ⟨stay, List.pairwise_singleton _ _, fun name member other last same => ?_⟩
  obtain ⟨rule, kept, rfl⟩ := List.mem_map.mp member
  obtain rfl := List.mem_singleton.mp last
  have spared := (List.mem_filter.mp kept).2
  rw [told rule.demand same] at spared
  contradiction

/-- A draft with a least length has no two rules of one kind if the draft has none. -/
theorem HasDistinctRules.limitedBelow {draft : Draft} (distinct : draft.HasDistinctRules)
    (least : Option UInt32) (hasPassword : Bool) :
    (draft.limitedBelow least hasPassword).HasDistinctRules := by
  unfold Draft.limitedBelow
  split
  · next least =>
    split
    · exact distinct.replaceRule fun other same => other.isMinLength_iff.mpr same
    · exact distinct
  · exact distinct

/-- A draft with a greatest length has no two rules of one kind if the draft has none. -/
theorem HasDistinctRules.limitedAbove {draft : Draft} (distinct : draft.HasDistinctRules)
    (most : Option UInt32) : (draft.limitedAbove most).HasDistinctRules := by
  unfold Draft.limitedAbove
  split
  · next most =>
    split
    · exact distinct.replaceRule fun other same => other.isMaxLength_iff.mpr same
    · exact distinct
  · exact distinct

/-- A qualified draft has no two rules of one kind if the draft has none. -/
theorem HasDistinctRules.qualified {draft : Draft} (distinct : draft.HasDistinctRules)
    (qualifiers : Qualifiers) (hasPassword : Bool) :
    (draft.qualified qualifiers hasPassword).HasDistinctRules := by
  have required : (if qualifiers.required then draft.require else draft).HasDistinctRules := by
    split
    · exact distinct.require
    · exact distinct
  exact (required.limitedBelow _ _).limitedAbove _

/-- The draft of a token has no two rules of one kind. -/
theorem hasDistinctRules_ofToken (language : Language) (token name : String) :
    (ofToken language token name).HasDistinctRules := by
  have bare (field : Field) (none : field.rules = []) (profile : Profile) :
      ((complete field token language profile).rules.map (·.demand.name)).Nodup := by
    unfold complete
    cases field.control with
    | input => cases profile <;> simp [input, none, Demand.name]
    | checkbox =>
      dsimp only
      split <;> simp
    | textarea | select | datePicker | fileUpload => simp [none]
  exact bare _ rfl _

end Draft

namespace Prompt
open Draft

/-- No two rules of a field of a request are of one kind. -/
theorem nodup_rules_readRequest (request : Request) :
    ∀ field ∈ (readRequest request).document.fields, (field.rules.map (·.demand.name)).Nodup := by
  obtain ⟨⟨tokens, made⟩, -⟩ := drafts_spec request.text (Topic.ofText request.text)
  rw [fields_readRequest, made, apply_eq_map, List.map_map, List.forall_mem_map]
  intro draft member
  obtain ⟨token, -, name, rfl⟩ := exists_of_mem_ofTokensAfter member
  exact (hasDistinctRules_ofToken _ token name).qualified _ _

/-- No two rules of a field of a prompt are of one kind. -/
theorem nodup_rules_read (prompt : String) :
    ∀ field ∈ (read prompt).document.fields, (field.rules.map (·.demand.name)).Nodup := by
  simp only [read]
  split
  · exact List.forall_mem_nil _
  · exact nodup_rules_readRequest _

/-- The qualifiers of a text are told by their names, change nothing of any drafts but their rules
as the names say, and change nothing when they are applied again. No two rules of a field of a
prompt are of one kind. -/
theorem qualifiers_qualify :
    (∀ text drafts, (Qualifiers.ofText text).AreTold (Qualifiers.ofText text).names ∧
      List.Forall₂ (IsQualified (Qualifiers.ofText text) (drafts.any (·.profile == .password)))
        drafts ((Qualifiers.ofText text).apply drafts) ∧
      (Qualifiers.ofText text).apply ((Qualifiers.ofText text).apply drafts) =
        (Qualifiers.ofText text).apply drafts) ∧
    ∀ prompt, ∀ field ∈ (read prompt).document.fields, (field.rules.map (·.demand.name)).Nodup :=
  ⟨fun _ drafts => ⟨Qualifiers.areTold_names _, forall₂_isQualified_apply _ drafts,
    apply_apply _ drafts⟩, nodup_rules_read⟩

/-- The least length of a prompt stands in place of the one that passwords have. -/
theorem qualifiers_qualify_password :
    ∃ field ∈ (read "with password, min 9 chars").document.fields,
      field.rules.map (·.demand) = [.required, .minLength 9] ∧
        (field.rules.map (·.demand.name)).Nodup := by
  have code : (Request.ofPrompt "with password, min 9 chars".toList).isCode = false := by
    decide +kernel
  have text : (Request.ofPrompt "with password, min 9 chars".toList).text =
      "with password, min 9 chars".toList := by decide +kernel
  have found : FieldList.find "with password, min 9 chars".toList =
      (["password"], some "with-list") := by decide +kernel
  have told : Qualifiers.ofText "with password, min 9 chars".toList = ⟨false, some 9, none⟩ := by
    decide +kernel
  have rules : (read "with password, min 9 chars").document.fields.map
      (fun field => field.rules.map (·.demand)) = [[.required, .minLength 9]] := by
    rw [read_of_not_isCode code, fields_readRequest, text, told, drafts, found]
    dsimp only
    generalize (Topic.ofText _).language = language
    cases language <;> decide +kernel
  have listed : [Demand.required, .minLength 9] ∈ (read
      "with password, min 9 chars").document.fields.map (fun field => field.rules.map (·.demand)) :=
    rules ▸ List.mem_singleton_self _
  obtain ⟨field, member, same⟩ := List.mem_map.mp listed
  exact ⟨field, member, same, qualifiers_qualify.2 _ field member⟩

end Prompt
end Formwright
