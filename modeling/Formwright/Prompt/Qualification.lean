import Formwright.Prompt.Draft

/-!
# Qualified drafts

The qualifiers of a prompt add rules to the drafts of its fields and change nothing else: a draft
gets at most one rule of each kind that a qualifier speaks of.
-/
namespace Formwright

/-- Whether a demand limits the length of values from below. -/
def Demand.isMinLength : Demand → Bool
  | .minLength _ => true
  | _ => false

/-- Whether a demand limits the length of values from above. -/
def Demand.isMaxLength : Demand → Bool
  | .maxLength _ => true
  | _ => false

namespace Draft

/-- A draft with other rules. -/
def withRules (draft : Draft) (rules : List Rule) : Draft :=
  { draft with field := { draft.field with rules } }

/-- A draft whose field is required; if no rule says so yet, a new first one does. -/
def require (draft : Draft) : Draft :=
  if draft.field.isRequired then draft
  else draft.withRules (⟨.required, none⟩ :: draft.field.rules)

/-- A draft with a last rule in place of the rules of one kind. -/
def replaceRule (draft : Draft) (replaced : Demand → Bool) (demand : Demand) : Draft :=
  draft.withRules (draft.field.rules.filter (!replaced ·.demand) ++ [⟨demand, none⟩])

/-- Drafts with a least length. It is meant for the passwords where there are any, and for all
fields of text otherwise. -/
def limitBelow (least : UInt32) (drafts : List Draft) : List Draft :=
  let hasPassword := drafts.any (·.profile == .password)
  drafts.map fun draft =>
    let meant := if hasPassword then draft.profile == .password else draft.field.control.isTextual
    if meant then draft.replaceRule Demand.isMinLength (.minLength least) else draft

/-- Drafts with a greatest length, which is meant for all fields of text. -/
def limitAbove (most : UInt32) (drafts : List Draft) : List Draft :=
  drafts.map fun draft =>
    if draft.field.control.isTextual then
      draft.replaceRule Demand.isMaxLength (.maxLength most)
    else draft

end Draft

/-- Drafts with what the qualifiers of a prompt say about them. -/
def Qualifiers.apply (qualifiers : Qualifiers) (drafts : List Draft) : List Draft :=
  let required := if qualifiers.required then drafts.map Draft.require else drafts
  let below := match qualifiers.minLength with
    | some least => Draft.limitBelow least required
    | none => required
  match qualifiers.maxLength with
  | some most => Draft.limitAbove most below
  | none => below

end Formwright
