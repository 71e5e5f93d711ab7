import Formwright.Proofs.Code.Source

/-!
# The rule table and the state read back

From generated code alone it can be told which fields have rules, what each rule demands and what it
says when it is broken, and what every field starts with. The name of a field is spelled in four
ways, and every one of them stands for the name of that field and of no other.
-/
namespace Formwright.Code

/-! ## Rules from their literals -/

namespace Literal

/-- The text of a string literal. -/
def text? : Literal → Option String
  | .string text => some text
  | _ => none

/-- The source text of a pattern. -/
def source? : Literal → Option String
  | .pattern source => some source
  | _ => none

/-- The number that decimal digits stand for, if it has no more than 32 bits. -/
def limit? : Literal → Option UInt32
  | .number text =>
    let value := Nat.ofDigitChars 10 text.toList 0
    if text.toList.all Char.isDigit ∧ value < UInt32.size then some (UInt32.ofNat value) else none
  | _ => none

/-- The items of an array. -/
def items? : Literal → Option (List Literal)
  | .array items => some items
  | _ => none

/-- The members of an object. -/
def members? : Literal → Option (List (String × Literal))
  | .object members => some members
  | _ => none

/-- The demand of the given name, with what limits the value. -/
def demand? (name : String) (limit : Option Literal) : Option Demand :=
  if name = "required" then some .required
  else if name = "email" then some .email
  else if name = "minLength" then (limit.bind limit?).map .minLength
  else if name = "maxLength" then (limit.bind limit?).map .maxLength
  else if name = "pattern" then (limit.bind source?).map .pattern
  else none

/-- What a rule demands and what is shown when it is broken. -/
def rule? (literal : Literal) : Option (Demand × String) := do
  let members ← literal.members?
  let name ← (members.lookup "type").bind text?
  let demand ← demand? name (members.lookup "value")
  let message ← (members.lookup "message").bind text?
  some (demand, message)

/-- The fields of a rule table with their rules. -/
def rules? (literal : Literal) : Option (List (String × List (Demand × String))) := do
  (← literal.members?).mapM fun (name, rules) => do
    some (name, ← (← rules.items?).mapM rule?)

/-- The digits of a number stand for it. -/
theorem limit?_digits (value : UInt32) : limit? (.number (toString value.toNat)) = some value := by
  have digits : (toString value.toNat).toList.all Char.isDigit = true :=
    List.all_eq_true.mpr fun c member => Text.isDigit_of_mem_toString member
  have whole : Nat.ofDigitChars 10 (toString value.toNat).toList 0 = value.toNat := by simp
  have small : value.toNat < UInt32.size := value.toNat_lt
  simp only [limit?, digits, whole, small, and_self, ↓reduceIte, UInt32.ofNat_toNat]

/-- The demand of a rule is told from its literal. -/
theorem demand?_ofDemand (demand : Demand) (rest : List (String × Literal)) :
    demand? demand.name ((ofDemand demand ++ rest).lookup "value") = some demand := by
  have digits (value : UInt32) : limit? (.number value.toNat.repr) = some value :=
    limit?_digits value
  cases demand <;> simp [demand?, Demand.name, ofDemand, source?, digits]

/-- A rule is told from its literal. -/
theorem rule?_ofRule (label : String) (rule : Rule) :
    rule? (ofRule label rule) = some (rule.demand, ruleMessage label rule) := by
  have demand := demand?_ofDemand rule.demand
    [("message", .string (ruleMessage label rule))]
  have message : (ofDemand rule.demand ++ [("message", string (ruleMessage label rule))]).lookup
      "message" = some (.string (ruleMessage label rule)) := by
    cases rule.demand <;> rfl
  simp [rule?, ofRule, members?, List.lookup_cons, text?, demand, message]

/-- The rules of the fields that have any are told from the literal of the rule table. -/
theorem rules?_ofTable (fields : List Field) :
    rules? (ofTable fields) = some ((ruledFields fields).map fun field =>
      (field.name, field.rules.map fun rule => (rule.demand, ruleMessage field.label rule))) := by
  have each (field : Field) : (field.rules.map (ofRule field.label)).mapM rule? =
      some (field.rules.map fun rule => (rule.demand, ruleMessage field.label rule)) := by
    rw [List.mapM_map]
    simp only [Function.comp_def, rule?_ofRule]
    exact List.mapM_pure
  simp only [rules?, ofTable, members?, Option.bind_eq_bind, Option.bind_some, List.mapM_map,
    Function.comp_def, items?, each]
  exact List.mapM_pure

end Literal

/-! ## What is used under the name of a field -/

/-- Whether something is used under the name of a field. -/
def Use.isNamed : Use → Bool
  | .tag _ => false
  | .change _ | .value _ | .error _ => true

/-- What the block of a field uses under the name of the field: its value, unless that is a file,
the handler of changes, and twice its error. -/
def nameUses (field : Field) : List Use :=
  (if field.control = .fileUpload then [] else [.value field.name])
    ++ [.change field.name, .error field.name, .error field.name]

/-- The block of a field uses nothing under any other name. -/
theorem filter_fieldUses (field : Field) :
    (fieldUses field).filter Use.isNamed = nameUses field := by
  have helper : (optionalUses "p" field.helperText).filter Use.isNamed = [] := by
    cases field.helperText <;> rfl
  have control : (controlUses field).filter Use.isNamed =
      (if field.control = .fileUpload then [] else [.value field.name])
        ++ [.change field.name] := by
    unfold controlUses
    cases field.control <;> simp [List.filter_cons, Use.isNamed]
  simp [fieldUses, nameUses, helper, control, List.filter_cons, Use.isNamed]

/-- Actions use nothing under the name of a field. -/
theorem filter_actionBlockUses (tag : String) (document : Document) :
    (actionBlockUses tag document).filter Use.isNamed = [] := by
  have each (action : Action) : (actionUses action).filter Use.isNamed = [] := by
    unfold actionUses
    cases action.kind <;> rfl
  unfold actionBlockUses
  split
  · rfl
  · simp [List.filter_flatMap, each, Use.isNamed]

/-- Markup uses under the names of the fields what their blocks do. -/
theorem filter_markupUses (document : Document) :
    (markupUses document).filter Use.isNamed = document.fields.flatMap nameUses := by
  have fields : (document.fields.flatMap fieldUses).filter Use.isNamed =
      document.fields.flatMap nameUses := by
    simp only [List.filter_flatMap, filter_fieldUses]
  have optional (tag : String) (text : Option String) :
      (optionalUses tag text).filter Use.isNamed = [] := by
    cases text <;> rfl
  have page (style : PageStyle) : (pageUses style document).filter Use.isNamed =
      document.fields.flatMap nameUses := by
    have arranged : (pageFieldUses style document).filter Use.isNamed =
        document.fields.flatMap nameUses := by
      unfold pageFieldUses
      split <;> simp [fields, Use.isNamed]
    have separator : (if style.separator then [Use.tag "Separator"] else []).filter Use.isNamed =
        [] := by
      cases style.separator <;> rfl
    simp [pageUses, optional, arranged, separator, filter_actionBlockUses, Use.isNamed]
  unfold markupUses
  split
  · simp [cardUses, optional, fields, filter_actionBlockUses, Use.isNamed]
  all_goals exact page _

/-! ## Names and their spellings -/

/-- An identifier is not a string literal. -/
theorem ne_stringLiteral {name : String} (sound : isIdentifier name = true) (text : String) :
    name ≠ stringLiteral text := by
  obtain ⟨first, later, spelled, starts, -⟩ := exists_of_isName (isName_of_isIdentifier sound)
  rintro rfl
  rw [stringLiteral, Json.quote, String.toList_ofList] at spelled
  obtain ⟨rfl, -⟩ := List.cons.inj spelled
  exact absurd starts (by decide)

/-- Different names are different keys. -/
theorem objectKey_injective : Function.Injective objectKey := by
  intro first second same
  unfold objectKey at same
  split at same <;> split at same
  · exact same
  · next sound _ => exact absurd same (ne_stringLiteral sound second)
  · next sound => exact absurd same.symm (ne_stringLiteral sound first)
  · exact stringLiteral_injective same

/-- Different names are different members of an object. -/
theorem member_injective (object : String) : Function.Injective (member object) := by
  intro first second same
  have chars := congrArg String.toList same
  unfold member at chars
  split at chars <;> split at chars
  · exact String.toList_inj.mp (by simpa using chars)
  · simp at chars
  · simp at chars
  · have literals : (stringLiteral first).toList ++ [']'] =
        (stringLiteral second).toList ++ [']'] := by
      simpa using chars
    exact stringLiteral_injective (String.toList_inj.mp (List.append_cancel_right literals))

/-! ## Reading back -/

/-- The rules of the fields in the rule table of a source. -/
def rulesOf? (source : String) : Option (List (String × List (Demand × String))) := do
  (← Literal.read? (← after? tableHead (← tokenize? source))).rules?

/-- What the fields start with in the state of a source. -/
def stateOf? (source : String) : Option (List (String × Literal)) := do
  (← Literal.read? (← after? stateHead (← tokenize? source))).members?

/-- The rule table is read back as the rules of the fields that have any. -/
theorem rulesOf?_generate (document : Document) (options : Options) :
    rulesOf? (generate document options) = some ((ruledFields document.fields).map fun field =>
      (field.name, field.rules.map fun rule => (rule.demand, ruleMessage field.label rule))) := by
  obtain ⟨lead, middle, tail, leadFills, -, -, made⟩ := exists_tokenize?_generate document options
  have found : after? tableHead (sourceTokens document.fields lead middle tail) =
      some (tableTokens document.fields
        ++ (middle ++ (stateHead ++ (stateTokens document.fields ++ tail)))) := by
    rw [sourceTokens, after?_append leadFills.2.1, List.append_assoc, after?_self (by decide)]
  simp only [rulesOf?, made, found, Option.bind_eq_bind, Option.bind_some,
    (Literal.spelled_table document.fields).read?, Literal.rules?_ofTable]

/-- The state is read back as what the fields start with. -/
theorem stateOf?_generate (document : Document) (options : Options) :
    stateOf? (generate document options) =
      some (document.fields.map fun field => (field.name, Literal.ofInitial field)) := by
  obtain ⟨lead, middle, tail, leadFills, middleFills, -, made⟩ :=
    exists_tokenize?_generate document options
  -- Both tables are constants, so the rule table must be passed before the state is found.
  have found : after? stateHead (sourceTokens document.fields lead middle tail) =
      some (stateTokens document.fields ++ tail) := by
    rw [sourceTokens, after?_append leadFills.2.2, after?_append (passes_table _),
      after?_append middleFills.2.2, after?_self (by decide)]
  simp only [stateOf?, made, found, Option.bind_eq_bind, Option.bind_some,
    (Literal.spelled_state document.fields).read?]
  rfl

/-- From the code for a document alone the rules of its fields are read back, in their order and
with what each demands and says; so is what every field starts with. Under the names of the fields,
in their order, the markup reads the value, calls the handler of changes and reads the error.
Different names are spelled differently wherever they stand. -/
theorem readBack_generate (document : Document) (options : Options) :
    rulesOf? (generate document options) = some
      ((document.fields.filter fun field => !field.rules.isEmpty).map fun field =>
        (field.name, field.rules.map fun rule =>
          (rule.demand, rule.message.getD (defaultMessage field.label rule.demand)))) ∧
    stateOf? (generate document options) = some
      (document.fields.map fun field => (field.name, Literal.ofInitial field)) ∧
    (usesOf? (generate document options)).map (List.filter Use.isNamed) = some
      (document.fields.flatMap nameUses) ∧
    Function.Injective objectKey ∧ Function.Injective stringLiteral ∧
    ∀ object, Function.Injective (member object) := by
  refine ⟨rulesOf?_generate document options, stateOf?_generate document options, ?_,
    objectKey_injective, stringLiteral_injective, member_injective⟩
  rw [usesOf?_generate, Option.map_some, filter_markupUses]

end Formwright.Code
