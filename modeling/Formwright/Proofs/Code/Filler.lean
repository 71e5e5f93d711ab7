import Formwright.Proofs.Code.Table

/-!
# What stands around the rule table and the state

The rule table and the state are found in the lexemes of generated code by the lexemes that stand
before either. Whatever stands around them uses nothing, and does not look like their start.
-/
namespace Formwright.Code

/-! ## Finding lexemes -/

/-- What stands after the first place where the given lexemes stand one after the other. -/
def after? (head : List Lexeme) : List Lexeme → Option (List Lexeme)
  | [] => none
  | token :: rest =>
    if head.isPrefixOf (token :: rest) then some ((token :: rest).drop head.length)
    else after? head rest

/-- Whether two lists differ at a place that both have. -/
def differ : List Lexeme → List Lexeme → Bool
  | first :: later, first' :: later' => first != first' || differ later later'
  | _, _ => false

/-- Whether the given lexemes start nowhere in a list, whatever follows it: from every place on, the
list differs from them before either ends. -/
def passes (head : List Lexeme) : List Lexeme → Bool
  | [] => true
  | token :: rest => differ head (token :: rest) && passes head rest

section

variable {head tokens : List Lexeme}

/-- Lists differ at a place whatever follows. -/
theorem differ_append (apart : differ head tokens = true) (rest : List Lexeme) :
    differ head (tokens ++ rest) = true := by
  induction head generalizing tokens with
  | nil => contradiction
  | cons first later ih =>
    cases tokens with
    | nil => contradiction
    | cons first' later' =>
      rw [differ, Bool.or_eq_true] at apart
      rw [List.cons_append, differ, Bool.or_eq_true]
      exact apart.imp id ih

/-- A list that differs from another at a place that both have does not start it. -/
theorem isPrefixOf_of_differ (apart : differ head tokens = true) :
    head.isPrefixOf tokens = false := by
  induction head generalizing tokens with
  | nil => contradiction
  | cons first later ih =>
    cases tokens with
    | nil => contradiction
    | cons first' later' =>
      rw [differ, Bool.or_eq_true, bne_iff_ne] at apart
      rw [List.isPrefixOf, Bool.and_eq_false_iff, beq_eq_false_iff_ne]
      exact apart.imp id ih

/-- Lexemes start nowhere in two lists one after the other if they start in neither. -/
theorem passes_append {rest : List Lexeme} (front : passes head tokens = true)
    (back : passes head rest = true) : passes head (tokens ++ rest) = true := by
  induction tokens with
  | nil => exact back
  | cons token later ih =>
    rw [passes, Bool.and_eq_true] at front
    have apart := differ_append front.1 rest
    rw [List.cons_append] at apart ⊢
    rw [passes, apart, ih front.2]
    rfl

/-- Lexemes start nowhere in those of parts if they start in none of the parts. -/
theorem passes_flatMap {α : Type} (parts : List α) {spelled : α → List Lexeme}
    (each : ∀ part, passes head (spelled part) = true) :
    passes head (parts.flatMap spelled) = true := by
  induction parts with
  | nil => rfl
  | cons part later ih => exact passes_append (each part) ih

/-- Lexemes in which others do not start are passed. -/
theorem after?_append (passed : passes head tokens = true) (rest : List Lexeme) :
    after? head (tokens ++ rest) = after? head rest := by
  induction tokens with
  | nil => rfl
  | cons token later ih =>
    rw [passes, Bool.and_eq_true] at passed
    have other := isPrefixOf_of_differ (differ_append passed.1 rest)
    rw [List.cons_append] at other ⊢
    rw [after?, other, if_neg Bool.false_ne_true, ih passed.2]

/-- Lexemes are found where they stand. -/
theorem after?_self (filled : head ≠ []) (rest : List Lexeme) :
    after? head (head ++ rest) = some rest := by
  obtain ⟨first, later, rfl⟩ := List.exists_cons_of_ne_nil filled
  have starts : (first :: later).isPrefixOf (first :: (later ++ rest)) = true :=
    List.isPrefixOf_iff_prefix.mpr (List.prefix_append (first :: later) rest)
  rw [List.cons_append, after?, if_pos starts, ← List.cons_append, List.drop_left]

end

/-- Lexemes that use nothing, and in which neither the rule table nor the state starts. -/
def IsFiller (tokens : List Lexeme) : Prop :=
  IsQuiet tokens ∧ passes tableHead tokens = true ∧ passes stateHead tokens = true

instance (tokens : List Lexeme) : Decidable (IsFiller tokens) :=
  inferInstanceAs (Decidable ((_ ∧ _) ∧ _))

/-- Fillers can stand one after the other. -/
theorem IsFiller.append {tokens rest : List Lexeme} (front : IsFiller tokens)
    (back : IsFiller rest) : IsFiller (tokens ++ rest) :=
  ⟨front.1.append back.1, passes_append front.2.1 back.2.1, passes_append front.2.2 back.2.2⟩

/-- Lines are read as a filler. -/
def Line.Fill (outer : List Region) (lines : List Line) (inner : List Region) : Prop :=
  ∃ tokens, AllRead outer lines inner tokens ∧ IsFiller tokens

/-- Lines that are read as fillers can stand one after the other. -/
theorem Line.Fill.append {outer middle inner : List Region} {lines later : List Line}
    (front : Line.Fill outer lines middle) (back : Line.Fill middle later inner) :
    Line.Fill outer (lines ++ later) inner := by
  obtain ⟨tokens, read, filler⟩ := front
  obtain ⟨tokens', read', filler'⟩ := back
  exact ⟨tokens ++ tokens', read.append read', filler.append filler'⟩

/-- No lines are a filler. -/
theorem Line.fill_nil (outer : List Region) : Line.Fill outer [] outer :=
  ⟨[], .nil outer, by decide⟩

/-- Whether given lines are read as a filler. -/
def Line.fills (outer : List Region) (lines : List Line) (inner : List Region) : Bool :=
  (readAll? outer lines).any fun read => read.1 = inner ∧ IsFiller read.2

/-- Given lines are read as a filler, in all regions around them. -/
theorem Line.fill_of_fills {top inner : List Region} {lines : List Line}
    (fills : Line.fills top lines inner = true) (outer : List Region) :
    Fill (top ++ outer) lines (inner ++ outer) := by
  obtain ⟨⟨reached, tokens⟩, read, held⟩ := (Option.any_eq_true ..).mp fills
  obtain ⟨rfl, filler⟩ := of_decide_eq_true held
  exact ⟨tokens, allRead_of_readAll? read outer, filler⟩

/-! ## The rule table -/

/-- The state does not start in a key. -/
theorem passes_key (name : String) : passes stateHead [keyToken name, .mark ':'] = true := by
  unfold keyToken
  split <;> simp [passes, differ, stateHead]

/-- The state does not start in a rule. -/
theorem passes_rule (label : String) (rule : Rule) :
    passes stateHead (ruleTokens label rule ++ [.mark ',']) = true := by
  unfold ruleTokens
  cases rule.demand <;> simp [demandTokens, passes, differ, stateHead]

/-- The state does not start in the rules of a field. -/
theorem passes_rules (field : Field) : passes stateHead (rulesTokens field) = true := by
  have opened : passes stateHead [.mark '['] = true := rfl
  have closed : passes stateHead [.mark ']'] = true := rfl
  have rules := passes_flatMap field.rules (passes_rule field.label)
  have whole := passes_append opened (passes_append rules closed)
  exact whole

/-- The state does not start in the rule table. -/
theorem passes_table (fields : List Field) :
    passes stateHead (tableHead ++ tableTokens fields) = true := by
  have comma : passes stateHead [.mark ','] = true := rfl
  have opened : passes stateHead [.mark '\x7b'] = true := rfl
  have closed : passes stateHead [.mark '\x7d'] = true := rfl
  have each (field : Field) : passes stateHead (ruleEntryTokens field) = true :=
    passes_append (passes_key field.name) (passes_append (passes_rules field) comma)
  have entries := passes_flatMap (ruledFields fields) each
  have table := passes_append opened (passes_append entries closed)
  exact passes_append (by decide) table

end Formwright.Code
