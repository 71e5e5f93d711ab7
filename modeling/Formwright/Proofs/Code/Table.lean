import Formwright.Code.RuleTable
import Formwright.Code.State
import Formwright.Proofs.Code.Literal
import Formwright.Proofs.Code.Usage

/-!
# The rule table and the state in generated code

The rule table and the initial state of generated code are object literals with the names of fields
for keys. The lexemes of either spell the literal that it stands for, and the rules of a table are
told from its literal.
-/
namespace Formwright.Code

variable {outer : List Region}

/-! ## Rules -/

/-- The lexemes of what limits a value. -/
def demandTokens : Demand → List Lexeme
  | .required | .email => []
  | .minLength value | .maxLength value =>
    [.word "value", .mark ':', .number (toString value.toNat), .mark ',']
  | .pattern source => [.word "value", .mark ':', .word "new", .word "RegExp", .mark '(',
      .literal source, .mark ')', .mark ',']

/-- The lexemes of a rule. -/
def ruleTokens (label : String) (rule : Rule) : List Lexeme :=
  [.mark '\x7b', .word "type", .mark ':', .literal rule.demand.name, .mark ',']
    ++ demandTokens rule.demand
    ++ [.word "message", .mark ':', .literal (ruleMessage label rule), .mark '\x7d']

/-- What limits a value is read as its lexemes. -/
theorem reads_demandValue (demand : Demand) :
    Reads (.code :: outer) (demandValue demand) Pending.idle.endsAt (.code :: outer)
      (demandTokens demand) := by
  have nothing : Reads (.code :: outer) "" Pending.idle.endsAt (.code :: outer) [] :=
    fun _ _ _ => rfl
  have lead := reads_of_isRead (by decide :
    isRead [.code] "value: " .idle [.code] [.word "value", .mark ':'] = true) outer
  have comma := reads_of_isRead (rfl : isRead [.code] ", " .idle [.code] [.mark ','] = true) outer
  have limited (value : UInt32) : Reads (.code :: outer)
      ("value: " ++ toString value.toNat ++ ", ") Pending.idle.endsAt (.code :: outer)
      [.word "value", .mark ':', .number (toString value.toNat), .mark ','] :=
    (lead.append (reads_magnitude (Json.startsInDigit_toString _)
      (Json.isNumeric_toString _))).before comma rfl
  cases demand with
  | required | email => exact nothing
  | minLength value | maxLength value => exact limited value
  | pattern source =>
    have made := reads_of_isRead (by decide : isRead [.code] "new RegExp(" .idle [.code]
      [.word "new", .word "RegExp", .mark '('] = true) outer
    have closed := reads_of_isRead (rfl : isRead [.code] ")" .idle [.code] [.mark ')'] = true) outer
    exact (lead.append ((made.append (reads_stringLiteral source)).append closed)).append comma

/-- The literal of a rule is read as its lexemes. -/
theorem reads_ruleLiteral (label : String) (rule : Rule) :
    Reads (.code :: outer) (ruleLiteral label rule) Pending.idle.endsAt (.code :: outer)
      (ruleTokens label rule) := by
  have kind (demand : Demand) : isRead [.code] ("\x7b type: \"" ++ demand.name ++ "\", ") .idle
      [.code, .code] [.mark '\x7b', .word "type", .mark ':', .literal demand.name, .mark ','] =
        true := by
    cases demand <;> simp only [Demand.name] <;> decide
  have lead := reads_of_isRead (by decide :
    isRead [.code] "message: " .idle [.code] [.word "message", .mark ':'] = true) (.code :: outer)
  have closed := reads_of_isRead (rfl :
    isRead [.code, .code] " \x7d" .idle [.code] [.mark '\x7d'] = true) outer
  have whole := ((((reads_of_isRead (kind rule.demand) outer).append
    (reads_demandValue rule.demand)).append lead).append
      (reads_stringLiteral (ruleMessage label rule))).append closed
  simpa [ruleTokens, ruleLiteral] using whole

/-- The members of a rule that say what limits a value. -/
def Literal.ofDemand : Demand → List (String × Literal)
  | .required | .email => []
  | .minLength value | .maxLength value => [("value", .number (toString value.toNat))]
  | .pattern source => [("value", .pattern source)]

/-- The literal of a rule. -/
def Literal.ofRule (label : String) (rule : Rule) : Literal :=
  .object (("type", .string rule.demand.name)
    :: (ofDemand rule.demand ++ [("message", .string (ruleMessage label rule))]))

/-- A natural number is spelled by its digits. -/
theorem Literal.spelled_natural (value : Nat) :
    Spelled (.number (toString value)) [.number (toString value)] := by
  rintro (_ | fuel) rest enough
  · contradiction
  · simp [readWithin?]

/-- A rule is spelled by its lexemes. -/
theorem Literal.spelled_rule (label : String) (rule : Rule) :
    Spelled (ofRule label rule) (ruleTokens label rule) := by
  have message := (spelled_string (ruleMessage label rule)).lastMember
    (rfl : key? (.word "message") = some "message")
  unfold ofRule ruleTokens
  cases rule.demand with
  | required | email => exact (MembersSpelled.cons rfl (spelled_string _) message).object
  | minLength value | maxLength value =>
    exact (MembersSpelled.cons rfl (spelled_string _)
      (MembersSpelled.cons rfl (spelled_natural value.toNat) message)).object
  | pattern source =>
    exact (MembersSpelled.cons rfl (spelled_string _)
      (MembersSpelled.cons rfl (spelled_pattern source) message)).object

/-! ## The rule table -/

/-- The lexemes of the rules of a field. -/
def rulesTokens (field : Field) : List Lexeme :=
  .mark '[' :: (field.rules.flatMap (fun rule => ruleTokens field.label rule ++ [.mark ','])
    ++ [.mark ']'])

/-- The lexemes of the entry of a field in the rule table. -/
def ruleEntryTokens (field : Field) : List Lexeme :=
  keyToken field.name :: .mark ':' :: (rulesTokens field ++ [.mark ','])

/-- A key does not start with a blank. -/
theorem head?_objectKey (name : String) :
    (objectKey name).toList.head?.any (fun c => !Json.isGap c) = true := by
  unfold objectKey
  split
  · next sound =>
    obtain ⟨first, later, spelled, starts, -⟩ := exists_of_isName (isName_of_isIdentifier sound)
    simp [spelled, isGap_of_startsIdentifier starts]
  · simp [stringLiteral, Json.quote, Json.quoteChars]
    rfl

/-- The entry of a field in the rule table is read as its lexemes. -/
theorem allRead_ruleEntry (field : Field) :
    Line.AllRead (.code :: outer) (ruleEntry field) (.code :: outer) (ruleEntryTokens field) := by
  have opened : Line.AllRead (.code :: outer) [.opening (objectKey field.name ++ ": [")]
      (.code :: outer) [keyToken field.name, .mark ':', .mark '['] := by
    have bracket := reads_of_isRead (rfl :
      isRead [.code] ": [" .idle [.code] [.mark ':', .mark '['] = true) outer
    exact ((reads_objectKey field.name).before bracket rfl).line
      (any_head?_append (head?_objectKey field.name) _) rfl (by decide) rfl
  have rules : Line.AllRead (.code :: outer)
      (field.rules.map fun rule => .plain (ruleLiteral field.label rule ++ ",")) (.code :: outer)
      (field.rules.flatMap fun rule => ruleTokens field.label rule ++ [.mark ',']) := by
    rw [List.map_eq_flatMap]
    refine Line.allRead_flatMap field.rules fun rule => ?_
    exact ((reads_ruleLiteral field.label rule).append (reads_comma outer)).line
      (by simp [ruleLiteral]; rfl) rfl (by decide) rfl
  have closed : Line.AllRead (.code :: outer) [.closing "],"] (.code :: outer)
      [.mark ']', .mark ','] :=
    Line.allRead_of_readAll? (rfl : Line.readAll? [.code] [.closing "],"] = some ([.code], _)) outer
  have whole := (opened.append rules).append closed
  simpa [ruleEntry, ruleEntryTokens, rulesTokens, Line.block] using whole

/-- The fields that have rules. -/
def ruledFields (fields : List Field) : List Field :=
  fields.filter fun field => !field.rules.isEmpty

/-- The literal of the rule table. -/
def Literal.ofTable (fields : List Field) : Literal :=
  .object ((ruledFields fields).map fun field =>
    (field.name, .array (field.rules.map (ofRule field.label))))

/-- The lexemes of the rule table, from its opening brace to its closing one. -/
def tableTokens (fields : List Field) : List Lexeme :=
  .mark '\x7b' :: ((ruledFields fields).flatMap ruleEntryTokens ++ [.mark '\x7d'])

/-- A key stands for the name that it was made of. -/
theorem Literal.key?_keyToken (name : String) : key? (keyToken name) = some name := by
  unfold keyToken
  split <;> rfl

/-- The rules of a field are spelled by their lexemes. -/
theorem Literal.spelled_rules (field : Field) :
    Spelled (.array (field.rules.map (ofRule field.label))) (rulesTokens field) :=
  (itemsSpelled_flatMap field.rules (spelled_rule field.label)).array

/-- The rule table is spelled by its lexemes. -/
theorem Literal.spelled_table (fields : List Field) :
    Spelled (ofTable fields) (tableTokens fields) :=
  (membersSpelled_flatMap (ruledFields fields) (fun field => key?_keyToken field.name)
    spelled_rules).object

/-- The lexemes before the rule table. -/
def tableHead : List Lexeme := [.word "const", .word "validationRules", .mark ':', .word "Record",
  .mark '<', .word "string", .mark ',', .word "ValidationRule", .mark '[', .mark ']', .mark '>',
  .mark '=']

/-- The rule table is read as its lexemes. -/
theorem allRead_ruleTable (fields : List Field) :
    Line.AllRead (.code :: outer) (ruleTable fields) (.code :: outer)
      (tableHead ++ tableTokens fields ++ [.mark ';']) := by
  simp only [ruleTable, tableTokens, ruledFields]
  split
  · next none =>
    rw [List.isEmpty_iff.mp none]
    exact Line.allRead_of_readAll? (by decide +kernel :
      Line.readAll? [.code] [.plain
        "const validationRules: Record<string, ValidationRule[]> = \x7b\x7d;"] =
          some ([.code], _)) outer
  · have opened := Line.allRead_of_readAll? (by decide +kernel :
      Line.readAll? [.code] [.opening
        "const validationRules: Record<string, ValidationRule[]> = \x7b"] =
          some ([.code, .code], tableHead ++ [.mark '\x7b'])) outer
    have closed := Line.allRead_of_readAll? (by decide :
      Line.readAll? [.code, .code] [.closing "\x7d;"] =
          some ([.code], [.mark '\x7d', .mark ';'])) outer
    have whole := (opened.append (Line.allRead_flatMap
      (fields.filter fun field => !field.rules.isEmpty) allRead_ruleEntry)).append closed
    simpa [Line.block] using whole

/-- A key uses nothing. -/
theorem isQuiet_key (name : String) : IsQuiet [keyToken name, .mark ':'] := by
  unfold keyToken
  split <;> exact ⟨rfl, rfl⟩

/-- The rules of a field use nothing. -/
theorem isQuiet_rules (field : Field) : IsQuiet (rulesTokens field) := by
  have each (rule : Rule) : IsQuiet (ruleTokens field.label rule ++ [.mark ',']) := by
    unfold ruleTokens
    cases rule.demand <;> exact ⟨rfl, rfl⟩
  have opened : IsQuiet [.mark '['] := ⟨rfl, rfl⟩
  have closed : IsQuiet [.mark ']'] := ⟨rfl, rfl⟩
  exact opened.append ((isQuiet_flatMap field.rules each).append closed)

/-- The rule table uses nothing. -/
theorem isQuiet_table (fields : List Field) : IsQuiet (tableTokens fields) := by
  have comma : IsQuiet [.mark ','] := ⟨rfl, rfl⟩
  have opened : IsQuiet [.mark '\x7b'] := ⟨rfl, rfl⟩
  have closed : IsQuiet [.mark '\x7d'] := ⟨rfl, rfl⟩
  have each (field : Field) : IsQuiet (ruleEntryTokens field) :=
    (isQuiet_key field.name).append ((isQuiet_rules field).append comma)
  exact opened.append ((isQuiet_flatMap (ruledFields fields) each).append closed)

/-! ## The initial state -/

/-- The lexemes of the value that a field starts with. -/
def initialTokens (field : Field) : List Lexeme :=
  match field.defaultValue, field.control with
  | some value, _ => jsonTokens value
  | none, .checkbox => [.word "false"]
  | none, .datePicker => [.word "undefined"]
  | none, _ => [.literal ""]

/-- The lexemes of the entry of a field in the initial state. -/
def stateEntryTokens (field : Field) : List Lexeme :=
  keyToken field.name :: .mark ':' :: (initialTokens field ++ [.mark ','])

/-- The lexemes of the initial state, from its opening brace to its closing one. -/
def stateTokens (fields : List Field) : List Lexeme :=
  .mark '\x7b' :: (fields.flatMap stateEntryTokens ++ [.mark '\x7d'])

/-- The literal of the value that a field starts with. -/
def Literal.ofInitial (field : Field) : Literal :=
  match field.defaultValue, field.control with
  | some value, _ => .ofJson value
  | none, .checkbox => .bool false
  | none, .datePicker => .undefined
  | none, _ => .string ""

/-- The literal of the initial state. -/
def Literal.ofState (fields : List Field) : Literal :=
  .object (fields.map fun field => (field.name, ofInitial field))

/-- The value that a field starts with is spelled by its lexemes. -/
theorem Literal.spelled_initial (field : Field) :
    Spelled (ofInitial field) (initialTokens field) := by
  unfold ofInitial initialTokens
  cases field.defaultValue with
  | some value => exact spelled_json value
  | none =>
    cases field.control with
    | checkbox | datePicker => exact spelled_word rfl
    | input | textarea | select | fileUpload => exact spelled_string ""

/-- The initial state is spelled by its lexemes. -/
theorem Literal.spelled_state (fields : List Field) :
    Spelled (ofState fields) (stateTokens fields) :=
  (membersSpelled_flatMap fields (fun field => key?_keyToken field.name) spelled_initial).object

/-- The lexemes before the initial state. -/
def stateHead : List Lexeme := [.word "const", .mark '[', .word "values", .mark ',',
  .word "setValues", .mark ']', .mark '=', .word "useState", .mark '<', .word "FormValues",
  .mark '>', .mark '(']

/-- The lexemes after the initial state, with those of the errors. -/
def stateTail : List Lexeme := [.mark ')', .mark ';', .word "const", .mark '[', .word "errors",
  .mark ',', .word "setErrors", .mark ']', .mark '=', .word "useState", .mark '<', .word "Record",
  .mark '<', .word "string", .mark ',', .word "string", .mark '|', .word "undefined", .mark '>',
  .mark '>', .mark '(', .mark '\x7b', .mark '\x7d', .mark ')', .mark ';']

/-- The value that a field starts with is read as its lexemes. -/
theorem reads_initialValue (field : Field) :
    Reads (.code :: outer) (initialValue field) endsValue (.code :: outer)
      (initialTokens field) := by
  unfold initialValue initialTokens
  cases field.defaultValue with
  | some value => exact reads_json value outer
  | none =>
    have word {text : String} (sound : isName text = true) :
        Reads (.code :: outer) text endsValue (.code :: outer) [.word text] :=
      (reads_word sound).mono fun _ => endsAt_word_of_endsValue
    have empty : Reads (.code :: outer) "\"\"" endsValue (.code :: outer) [.literal ""] :=
      (reads_of_isRead (rfl : isRead [.code] "\"\"" .idle [.code] [.literal ""] = true)
        outer).mono fun _ _ => rfl
    cases field.control with
    | checkbox => exact word rfl
    | datePicker => exact word rfl
    | input | textarea | select | fileUpload => exact empty

/-- The entry of a field in the initial state is read as its lexemes. -/
theorem allRead_stateEntry (field : Field) :
    Line.AllRead (.code :: outer) [stateEntry field] (.code :: outer) (stateEntryTokens field) := by
  have colon := reads_of_isRead (rfl : isRead [.code] ": " .idle [.code] [.mark ':'] = true) outer
  have whole := (((reads_objectKey field.name).before colon rfl).append
    (reads_initialValue field)).before (reads_comma outer) rfl
  exact whole.line (any_head?_append (any_head?_append (any_head?_append
    (head?_objectKey field.name) _) _) _) rfl (by decide) rfl

/-- The state of the component is read as its lexemes. -/
theorem allRead_stateLines (fields : List Field) :
    Line.AllRead (.code :: outer) (stateLines fields) (.code :: outer)
      (stateHead ++ stateTokens fields ++ stateTail) := by
  simp only [stateLines, stateTokens]
  split
  · next none =>
    rw [List.isEmpty_iff.mp none]
    exact Line.allRead_of_readAll? (by decide +kernel : Line.readAll? [.code]
      ([.plain ("const [values, setValues] = useState<FormValues>(\x7b" ++ "\x7d);")]
        ++ [.plain ("const [errors, setErrors] = "
          ++ "useState<Record<string, string | undefined>>(\x7b\x7d);")]) =
        some ([.code], _)) outer
  · have opened := Line.allRead_of_readAll? (by decide +kernel : Line.readAll? [.code]
      [.opening "const [values, setValues] = useState<FormValues>(\x7b"] =
        some ([.code, .code], stateHead ++ [.mark '\x7b'])) outer
    have closed := Line.allRead_of_readAll? (by decide +kernel : Line.readAll? [.code, .code]
      [.closing "\x7d);", .plain ("const [errors, setErrors] = "
        ++ "useState<Record<string, string | undefined>>(\x7b\x7d);")] =
          some ([.code], .mark '\x7d' :: stateTail)) outer
    have whole := (opened.append (Line.allRead_flatMap fields allRead_stateEntry)).append closed
    simpa [Line.block, List.map_eq_flatMap] using whole

/-- A number uses nothing. -/
theorem uses_number_append (text : String) (rest : List Lexeme) :
    uses (numberTokens text ++ rest) = uses rest := by
  unfold numberTokens
  split <;> rfl

mutual

/-- A value uses nothing. -/
theorem uses_json_append : ∀ (value : Json) {rest : List Lexeme}, startsApart rest = true →
    uses (jsonTokens value ++ rest) = uses rest
  | .null, _, apart => by rw [jsonTokens]; exact uses_word_cons _ apart
  | .bool _, _, apart => by rw [jsonTokens]; exact uses_word_cons _ apart
  | .integer _, _, _ => by rw [jsonTokens, uses_number_append]
  | .float _, _, _ => by rw [jsonTokens, uses_number_append]
  | .string _, _, _ => by rw [jsonTokens]; rfl
  | .array items, rest, _ => by rw [jsonTokens]; exact uses_items_append items rest
  | .object members, rest, _ => by rw [jsonTokens]; exact uses_members_append members rest

/-- The items of an array use nothing. -/
theorem uses_items_append : ∀ (items : List Json) (rest : List Lexeme),
    uses (itemTokens items ++ rest) = uses rest
  | [], _ => by rw [itemTokens]; rfl
  | [item], rest => by
    rw [itemTokens, List.append_assoc, uses_json_append item rfl]
    rfl
  | item :: next :: later, rest => by
    rw [itemTokens, List.append_assoc, List.cons_append, uses_json_append item rfl]
    · exact uses_items_append (next :: later) rest
    · nofun

/-- The members of an object use nothing. -/
theorem uses_members_append : ∀ (members : List (String × Json)) (rest : List Lexeme),
    uses (memberEntryTokens members ++ rest) = uses rest
  | [], _ => by rw [memberEntryTokens]; rfl
  | [(key, value)], rest => by
    rw [memberEntryTokens, List.cons_append, List.cons_append, List.append_assoc]
    exact uses_json_append value rfl
  | (key, value) :: next :: later, rest => by
    rw [memberEntryTokens, List.cons_append, List.cons_append, List.append_assoc, List.cons_append]
    · exact (uses_json_append value rfl).trans (uses_members_append (next :: later) rest)
    · nofun

end

/-- The initial state uses nothing. -/
theorem isQuiet_state (fields : List Field) : IsQuiet (stateTokens fields) := by
  have value (field : Field) : IsQuiet (initialTokens field ++ [.mark ',']) := by
    refine ⟨isSettled_append_of_startsApart _ rfl rfl, ?_⟩
    unfold initialTokens
    cases field.defaultValue with
    | some value => exact uses_json_append value rfl
    | none => cases field.control <;> rfl
  have opened : IsQuiet [.mark '\x7b'] := ⟨rfl, rfl⟩
  have closed : IsQuiet [.mark '\x7d'] := ⟨rfl, rfl⟩
  exact opened.append ((isQuiet_flatMap fields fun field =>
    (isQuiet_key field.name).append (value field)).append closed)

end Formwright.Code
