import Formwright.Proofs.Code.Source

/-!
# The name of the exported component

Generated code exports one function, and its name is read from the lexemes of the code. The name
starts and goes on like an identifier and is no reserved word. A name that the generator makes up
itself, after the title or of the words of the name asked for, is none that strict code refuses
either. The generator does not look at the other names of the code: the exported one is among them
exactly if it was asked for.
-/
namespace Formwright.Code

/-! ## The exported name -/

/-- The lexemes that a default export of a function starts with. -/
def exportHead : List Lexeme := [.word "export", .word "default", .word "function"]

/-- The name that the first default export of a source declares: none if the source is not read to
its end or exports no function. -/
def exportedName? (source : String) : Option String := do
  let tokens ← tokenize? source
  match ← after? exportHead tokens with
  | .word name :: _ => some name
  | _ => none

/-- A lexeme that does not occur starts nothing. -/
theorem passes_of_notMem {first : Lexeme} {later tokens : List Lexeme} (absent : first ∉ tokens) :
    passes (first :: later) tokens = true := by
  induction tokens with
  | nil => rfl
  | cons token rest ih =>
    rw [List.mem_cons, not_or] at absent
    have apart : (first != token) = true := bne_iff_ne.mpr absent.1
    rw [passes, differ, apart, ih absent.2]
    rfl

/-- Lines are read as lexemes without a given one. -/
def Line.Lacks (token : Lexeme) (outer : List Region) (lines : List Line) (inner : List Region) :
    Prop :=
  ∃ tokens, AllRead outer lines inner tokens ∧ token ∉ tokens

/-- Lines that lack a lexeme can stand one after the other. -/
theorem Line.Lacks.append {token : Lexeme} {outer middle inner : List Region}
    {lines later : List Line} (front : Line.Lacks token outer lines middle)
    (back : Line.Lacks token middle later inner) :
    Line.Lacks token outer (lines ++ later) inner := by
  obtain ⟨tokens, read, absent⟩ := front
  obtain ⟨tokens', read', absent'⟩ := back
  refine ⟨tokens ++ tokens', read.append read', ?_⟩
  rw [List.mem_append, not_or]
  exact ⟨absent, absent'⟩

/-- Whether given lines are read as lexemes without a given one. -/
def Line.lacks (token : Lexeme) (outer : List Region) (lines : List Line) (inner : List Region) :
    Bool :=
  (readAll? outer lines).any fun read => read.1 = inner ∧ token ∉ read.2

/-- Given lines lack a lexeme in all regions around them. -/
theorem Line.lacks_of_lacks {token : Lexeme} {top inner : List Region} {lines : List Line}
    (held : Line.lacks token top lines inner = true) (outer : List Region) :
    Lacks token (top ++ outer) lines (inner ++ outer) := by
  obtain ⟨⟨reached, tokens⟩, read, known⟩ := (Option.any_eq_true ..).mp held
  obtain ⟨rfl, absent⟩ := of_decide_eq_true known
  exact ⟨tokens, allRead_of_readAll? read outer, absent⟩

/-- Lines that are read as nothing lack every lexeme. -/
theorem Line.lacks_nil (token : Lexeme) (outer : List Region) : Line.Lacks token outer [] outer :=
  ⟨[], .nil outer, List.not_mem_nil⟩

/-- The words among names with commas between them are those names. -/
theorem mem_of_word_mem_nameTokens {word : String} {names : List String}
    (member : .word word ∈ nameTokens names) : word ∈ names := by
  induction names with
  | nil => simp [nameTokens] at member
  | cons name later ih =>
    cases later with
    | nil => simpa [nameTokens] using member
    | cons next later =>
      have whole : nameTokens (name :: next :: later) =
          .word name :: .mark ',' :: nameTokens (next :: later) := rfl
      rw [whole, List.mem_cons, List.mem_cons] at member
      rcases member with first | comma | rest
      · exact List.mem_cons.mpr (.inl (Lexeme.word.inj first))
      · contradiction
      · exact List.mem_cons_of_mem name (ih rest)

/-- The lines of imports do not export. -/
theorem lacks_importLines {outer : List Region} {listed : List Import}
    (known : ∀ used ∈ listed, ∀ name ∈ used.names, name ∈ markupComponents) :
    Line.Lacks (.word "export") (.code :: outer) (listed.map Import.line) (.code :: outer) := by
  have sound : ∀ name ∈ markupComponents, isName name = true ∧ name ≠ "export" := by decide
  induction listed with
  | nil => exact Line.lacks_nil _ _
  | cons used later ih =>
    rw [List.forall_mem_cons] at known
    have read : Line.AllRead (.code :: outer) [used.line] (.code :: outer) used.tokens :=
      allRead_importLine fun name named => (sound name (known.1 name named)).1
    have absent : Lexeme.word "export" ∉ used.tokens := by
      intro member
      simp only [Import.tokens, List.mem_append, List.mem_cons, List.not_mem_nil, or_false,
        Lexeme.word.injEq, reduceCtorEq, false_or] at member
      rcases member with (opened | named) | closed
      · exact absurd opened (by decide)
      · have listed := known.1 _ (mem_of_word_mem_nameTokens named)
        exact (sound _ listed).2 rfl
      · exact absurd closed (by decide)
    exact Line.Lacks.append ⟨used.tokens, read, absent⟩ (ih known.2)

/-- No key of an object is the word that exports start with. -/
theorem keyToken_ne_export (name : String) : Lexeme.word "export" ≠ keyToken name := by
  unfold keyToken
  split
  · next sound =>
    intro same
    rw [← Lexeme.word.inj same] at sound
    exact absurd sound (by decide)
  · exact nofun

/-- The rule table does not export. -/
theorem lacks_ruleTable (fields : List Field) :
    Line.Lacks (.word "export") [.code] (ruleTable fields) [.code] := by
  have rules (label : String) (rule : Rule) : .word "export" ∉ ruleTokens label rule := by
    unfold ruleTokens
    cases rule.demand <;> simp [demandTokens]
  have entries (field : Field) : .word "export" ∉ ruleEntryTokens field := by
    simp [ruleEntryTokens, rulesTokens, keyToken_ne_export, rules]
  have table : .word "export" ∉ tableHead ++ tableTokens fields ++ [.mark ';'] := by
    simp [tableHead, tableTokens, entries]
  exact ⟨_, allRead_ruleTable fields, table⟩

/-- The lines before the component. -/
def leadingLines (document : Document) (options : Options) : List Line :=
  (if options.clientDirective then [.plain "\"use client\";", .blank] else [])
    ++ [.plain "import \x7b useState, type FormEvent \x7d from \"react\";"]
    ++ (imports document options).map Import.line
    ++ (.blank :: (typeLines ++ [.blank])) ++ ruleTable document.fields
    ++ (.blank :: (checkLines ++ [.blank]))

/-- The lines before the component do not export. -/
theorem lacks_leadingLines (document : Document) (options : Options) :
    Line.Lacks (.word "export") [.code] (leadingLines document options) [.code] := by
  have directive : Line.Lacks (.word "export") [.code]
      (if options.clientDirective then [.plain "\"use client\";", .blank] else []) [.code] := by
    split
    · exact Line.lacks_of_lacks (by decide : Line.lacks (.word "export") [.code]
        [.plain "\"use client\";", .blank] [.code] = true) []
    · exact Line.lacks_nil _ _
  have react : Line.Lacks (.word "export") [.code]
      [.plain "import \x7b useState, type FormEvent \x7d from \"react\";"] [.code] :=
    Line.lacks_of_lacks (by decide : Line.lacks (.word "export") [.code]
      [.plain "import \x7b useState, type FormEvent \x7d from \"react\";"] [.code] = true) []
  have listed : Line.Lacks (.word "export") [.code]
      ((imports document options).map Import.line) [.code] :=
    lacks_importLines fun used member name named =>
      mem_markupComponents ((mem_names_iff member).mp named).1
  have types := Line.lacks_of_lacks (by decide +kernel : Line.lacks (.word "export") [.code]
    (.blank :: (typeLines ++ [.blank])) [.code] = true) []
  have checks := Line.lacks_of_lacks (by decide +kernel : Line.lacks (.word "export") [.code]
    (.blank :: (checkLines ++ [.blank])) [.code] = true) []
  exact ((((directive.append react).append listed).append types).append
    (lacks_ruleTable document.fields)).append checks

/-- The lines of a source are those before the component and the component. -/
theorem sourceLines_eq (document : Document) (options : Options) :
    sourceLines document options =
      leadingLines document options ++ componentLines document options := by
  simp [sourceLines, leadingLines]

/-- The component is read as lexemes that start with the export of its name. -/
theorem exists_allRead_componentLines (document : Document) (options : Options) :
    ∃ back, Line.AllRead [.code] (componentLines document options) [.code]
      (exportHead ++ .word (componentName document options) :: back) := by
  obtain ⟨back, tail, -⟩ := show_tailLines document
  have head : Line.AllRead [.code] [.opening (componentHead (componentName document options))]
      [.code, .code] (componentTokens (componentName document options)) :=
    allRead_componentHead (isName_componentName document options)
  have state : Line.AllRead [.code, .code] (stateLines document.fields) [.code, .code] _ :=
    allRead_stateLines document.fields
  refine ⟨(componentTokens "").drop 4
    ++ (stateHead ++ stateTokens document.fields ++ stateTail ++ back), ?_⟩
  simpa [componentLines, Line.block, componentTokens, exportHead] using
    head.append (state.append tail)

/-- The code for a document exports its component. -/
theorem exportedName?_generate (document : Document) (options : Options) :
    exportedName? (generate document options) = some (componentName document options) := by
  obtain ⟨front, lead, absent⟩ := lacks_leadingLines document options
  obtain ⟨back, component⟩ := exists_allRead_componentLines document options
  have read := lead.append component
  rw [← sourceLines_eq] at read
  have made := tokenize?_render read
  have passed : passes exportHead front = true := passes_of_notMem absent
  have found := (after?_append passed _).trans (after?_self (by decide : exportHead ≠ [])
    (.word (componentName document options) :: back))
  simp only [exportedName?, generate, made, Option.bind_eq_bind, Option.bind_some, found]

/-! ## Names that the generator makes up -/

/-- A name after a title ends in what the kind of its document asks for. -/
theorem kindSuffix_suffix_titleName (title : String) (kind : DocumentKind) :
    (kindSuffix kind).toList <:+ (titleName title kind).toList := by
  unfold titleName
  dsimp only
  split
  · rw [String.toList_append]
    exact List.suffix_append _ _
  · split
    · next ends => exact List.isSuffixOf_iff_suffix.mp ends
    · rw [String.toList_append]
      exact List.suffix_append _ _

/-- A name after a title is not written in lower case. -/
theorem titleName_not_lower (title : String) (kind : DocumentKind) :
    ∃ c ∈ (titleName title kind).toList, c.isLower = false := by
  have upper : ((kindSuffix kind).toList.any fun c => !c.isLower) = true := by
    cases kind <;> rfl
  obtain ⟨c, member, other⟩ := List.any_eq_true.mp upper
  refine ⟨c, (kindSuffix_suffix_titleName title kind).subset member, ?_⟩
  rwa [Bool.not_eq_true'] at other

/-- A name of the words of a text is not written in lower case. -/
theorem pascalCase_not_lower {text : String} (filled : (pascalCase text).isEmpty = false) :
    ∃ c ∈ (pascalCase text).toList, c.isLower = false := by
  unfold pascalCase at filled ⊢
  cases listed : Text.wordsBy (fun c => !c.isAlphanum) text.toList with
  | nil => simp [listed] at filled
  | cons word others =>
    have found : word ∈ Text.wordsBy (fun c => !c.isAlphanum) text.toList :=
      listed ▸ List.mem_cons_self
    obtain ⟨first, later, rfl⟩ := List.exists_cons_of_ne_nil (Text.mem_wordsBy_iff.mp found).2
    -- The first letter of the first word stands in the name, in upper case.
    have plain := isAlphanum_of_mem_wordsBy found first List.mem_cons_self
    refine ⟨first.toUpper, ?_, isLower_toUpper plain⟩
    simp only [List.flatMap_cons, Text.capitalizeAscii, List.cons_append]
    split <;> simp

/-- A name that is not written in lower case is none of some that are. -/
theorem notMem_of_not_lower {name : String} {words : List String}
    (lower : ∀ word ∈ words, word.toList.all Char.isLower = true)
    (marked : ∃ c ∈ name.toList, c.isLower = false) : name ∉ words := by
  obtain ⟨c, member, other⟩ := marked
  intro listed
  rw [List.all_eq_true.mp (lower name listed) c member] at other
  exact Bool.noConfusion other

/-! ## The names of the code -/

/-- The names that only strict code reserves, or refuses to bind. -/
def strictWords : List String := ["implements", "interface", "package", "private", "protected",
  "public", "eval", "arguments"]

/-- The names that generated code imports beside components, declares beside its component, or takes
from the environment. -/
def fixedNames : List String := ["useState", "FormEvent", "FormValues", "ValidationRule",
  "validationRules", "validateField", "String", "Boolean", "Object", "RegExp", "Record"]

/-- The names that the code for a document binds or uses beside that of its component. -/
def otherNames (document : Document) (options : Options) : List String :=
  (imports document options).flatMap Import.names ++ fixedNames

/-- The name that was asked for, made an identifier if need be. -/
def requestedName? (options : Options) : Option String :=
  options.componentName.map fun name => if isIdentifier name then name else pascalCase name

/-- The name of the component is the one asked for if that has any characters, and else the one
after the title. -/
theorem componentName_cases (document : Document) (options : Options) :
    requestedName? options = some (componentName document options) ∨
      componentName document options = titleName document.title document.kind ∧
        ∀ asked ∈ requestedName? options, asked = "" := by
  unfold requestedName? componentName
  cases options.componentName with
  | none => exact .inr ⟨rfl, nofun⟩
  | some name =>
    dsimp only [Option.map_some]
    split
    · exact .inl rfl
    · split
      · next none =>
        rw [String.isEmpty_iff] at none
        exact .inr ⟨rfl, fun asked same => by simpa [none] using same.symm⟩
      · exact .inl rfl

/-- The other names of the code are known ones. -/
theorem mem_of_mem_otherNames {document : Document} {options : Options} {name : String}
    (member : name ∈ otherNames document options) : name ∈ markupComponents ++ fixedNames := by
  rw [otherNames, List.mem_append] at member
  rw [List.mem_append]
  rcases member with imported | fixed
  · obtain ⟨used, listed, named⟩ := List.mem_flatMap.mp imported
    exact .inl (mem_markupComponents ((mem_names_iff listed).mp named).1)
  · exact .inr fixed

/-- No other name ends like one after a title. -/
theorem titleName_notMem_otherNames (document : Document) (options : Options) (title : String)
    (kind : DocumentKind) : titleName title kind ∉ otherNames document options := by
  have apart : ∀ name ∈ markupComponents ++ fixedNames, ∀ kind ∈ Vocabulary.members,
      ¬(kindSuffix kind).toList <:+ name.toList := by
    decide +kernel
  intro member
  exact apart _ (mem_of_mem_otherNames member) kind (by cases kind <;> decide)
    (kindSuffix_suffix_titleName title kind)

/-- The name of the component is an identifier that was asked for, or not written in lower case. -/
theorem componentName_asked_or_not_lower (document : Document) (options : Options) :
    (options.componentName = some (componentName document options) ∧
        isIdentifier (componentName document options) = true) ∨
      ∃ c ∈ (componentName document options).toList, c.isLower = false := by
  have titled := titleName_not_lower document.title document.kind
  unfold componentName
  split
  · exact .inr titled
  · next asked =>
    split
    · next sound => exact .inl ⟨asked, sound⟩
    · split
      · exact .inr titled
      · next filled => exact .inr (pascalCase_not_lower (Bool.eq_false_iff.mpr filled))

/-- The name of the component is not reserved. -/
theorem componentName_notMem_reservedWords (document : Document) (options : Options) :
    componentName document options ∉ reservedWords := by
  rcases componentName_asked_or_not_lower document options with ⟨-, sound⟩ | marked
  · exact notMem_reservedWords_of_isIdentifier sound
  · exact notMem_of_not_lower all_isLower_reservedWords marked

/-- The name of the component is none that only strict code refuses, unless it was asked for. -/
theorem componentName_notMem_strictWords (document : Document) (options : Options) :
    componentName document options ∉ strictWords ∨
      options.componentName = some (componentName document options) := by
  have lower : ∀ word ∈ strictWords, word.toList.all Char.isLower = true := by
    decide +kernel
  rcases componentName_asked_or_not_lower document options with ⟨asked, -⟩ | marked
  · exact .inr asked
  · exact .inl (notMem_of_not_lower lower marked)

/-- The name of the component is among the other names exactly if the name asked for is. -/
theorem componentName_mem_otherNames_iff (document : Document) (options : Options) :
    componentName document options ∈ otherNames document options ↔
      ∃ asked ∈ requestedName? options, asked ∈ otherNames document options := by
  rcases componentName_cases document options with asked | ⟨titled, empty⟩
  · rw [asked]
    simp
  · have apart := titleName_notMem_otherNames document options document.title document.kind
    have filled : "" ∉ markupComponents ++ fixedNames := by decide
    rw [titled]
    constructor
    · intro member
      exact absurd member apart
    · rintro ⟨asked, requested, member⟩
      rw [empty asked requested] at member
      exact absurd (mem_of_mem_otherNames member) filled

/-- The code for a document exports one name. It starts and goes on like an identifier and is not
reserved, and unless it was asked for as it stands, strict code binds it too. It is among the other
names of the code exactly if the name that was asked for is. -/
theorem exportedName?_sound (document : Document) (options : Options) :
    ∃ name, exportedName? (generate document options) = some name ∧
      isName name = true ∧ name ∉ reservedWords ∧
      (name ∉ strictWords ∨ options.componentName = some name) ∧
      (name ∈ otherNames document options ↔
        ∃ asked ∈ requestedName? options, asked ∈ otherNames document options) :=
  ⟨componentName document options, exportedName?_generate document options,
    isName_componentName document options, componentName_notMem_reservedWords document options,
    componentName_notMem_strictWords document options,
    componentName_mem_otherNames_iff document options⟩

/-- A form with one button and no fields. -/
def sendForm : Document where
  kind := .form
  title := "Contact"
  actions := [{ id := "send", label := "Send", kind := .submit, variant := .primary }]

/-- The name of an imported component is exported if it is asked for, and so is a name that strict
code refuses. -/
theorem exportedName?_asked :
    (exportedName? (generate sendForm { componentName := "Button" }) = some "Button" ∧
      "Button" ∈ otherNames sendForm { componentName := "Button" }) ∧
    exportedName? (generate sendForm { componentName := "interface" }) = some "interface" ∧
      "interface" ∈ strictWords := by
  have button : componentName sendForm { componentName := "Button" } = "Button" := by decide
  have interface : componentName sendForm { componentName := "interface" } = "interface" := by
    decide
  have imported : "Button" ∈ otherNames sendForm { componentName := "Button" } := by
    decide +kernel
  rw [exportedName?_generate, exportedName?_generate, button, interface]
  exact ⟨⟨rfl, imported⟩, rfl, by decide⟩

end Formwright.Code
