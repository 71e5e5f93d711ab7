import Formwright.Proofs.Code.Filler
import Formwright.Proofs.Code.Import
import Formwright.Proofs.Code.Markup

/-!
# The lexemes of generated code

The code for a document is read to its end: no lexeme and no region is left open. Between fixed
lexemes it consists of the imports, the rule table, the name of the component, the initial state and
the markup, and only the markup uses anything.
-/
namespace Formwright.Code

/-! ## The name of the component -/

/-- A name with letters and digits after it is a name. -/
theorem isName_append {name : String} (sound : isName name = true) {later : String}
    (goesOn : later.toList.all continuesIdentifier = true) : isName (name ++ later) = true := by
  obtain ⟨first, rest, spelled, starts, within⟩ := exists_of_isName sound
  rw [isName, String.toList_append, spelled, List.cons_append]
  simp only [starts, Bool.true_and, List.all_append, goesOn, Bool.and_true]
  exact List.all_eq_true.mpr within

/-- Words of letters and digits that are put together are a name, if there are any. -/
theorem isName_pascalCase {text : String} (filled : (pascalCase text).isEmpty = false) :
    isName (pascalCase text) = true := by
  have plain : ∀ c ∈ (Text.wordsBy (fun c => !c.isAlphanum) text.toList).flatMap
      Text.capitalizeAscii, c.isAlphanum = true := by
    intro c member
    obtain ⟨word, listed, inside⟩ := List.mem_flatMap.mp member
    exact isAlphanum_of_mem_capitalizeAscii (isAlphanum_of_mem_wordsBy listed) c inside
  simp only [pascalCase] at filled ⊢
  split at filled
  · contradiction
  · next first later joined =>
    rw [joined] at plain ⊢
    have goesOn := all_continuesIdentifier plain
    have whole := plain first List.mem_cons_self
    split
    · rw [isName, String.toList_ofList]
      exact goesOn
    · next letter =>
      rw [isName, String.toList_ofList]
      simp only [Bool.and_eq_true]
      rw [List.all_cons, Bool.and_eq_true] at goesOn
      refine ⟨?_, goesOn.2⟩
      simp_all [startsIdentifier, Char.isAlphanum]

/-- The name of a component after its document starts and goes on like an identifier. -/
theorem isName_titleName (title : String) (kind : DocumentKind) :
    isName (titleName title kind) = true := by
  have ending : (kindSuffix kind).toList.all continuesIdentifier = true := by
    cases kind <;> decide
  simp only [titleName]
  split
  · exact isName_append (rfl : isName "Generated" = true) ending
  · next filled =>
    have base := isName_pascalCase (Bool.eq_false_iff.mpr filled)
    split
    · exact base
    · exact isName_append base ending

/-- The name of the component starts and goes on like an identifier. -/
theorem isName_componentName (document : Document) (options : Options) :
    isName (componentName document options) = true := by
  unfold componentName
  split
  · exact isName_titleName _ _
  · split
    · next sound => exact isName_of_isIdentifier sound
    · split
      · exact isName_titleName _ _
      · next filled => exact isName_pascalCase (Bool.eq_false_iff.mpr filled)

/-! ## Imports -/

variable {outer : List Region}

/-- The lexemes of names with commas between them. -/
def nameTokens (names : List String) : List Lexeme := (names.map .word).intersperse (.mark ',')

/-- The lexemes of an import. -/
def Import.tokens (used : Import) : List Lexeme :=
  [.word "import", .mark '\x7b'] ++ nameTokens used.names
    ++ [.mark '\x7d', .word "from", .literal used.module, .mark ';']

/-- Names with commas between them are read as words. -/
theorem reads_names {names : List String} (sound : ∀ name ∈ names, isName name = true) :
    Reads (.code :: outer) (", ".intercalate names) (Pending.word []).endsAt (.code :: outer)
      (nameTokens names) := by
  induction names with
  | nil => exact fun _ _ _ => rfl
  | cons name later ih =>
    rw [List.forall_mem_cons] at sound
    have here : Reads (.code :: outer) name (Pending.word []).endsAt (.code :: outer)
      [.word name] := reads_word sound.1
    cases later with
    | nil => simpa [nameTokens] using here
    | cons next later =>
      have comma := reads_of_isRead (rfl : isRead [.code] ", " .idle [.code] [.mark ','] = true)
        outer
      rw [String.intercalate_cons_cons]
      exact (here.before comma rfl).append (ih sound.2)

/-- The line of an import is read as its lexemes. -/
theorem allRead_importLine {used : Import} (sound : ∀ name ∈ used.names, isName name = true) :
    Line.AllRead (.code :: outer) [used.line] (.code :: outer) used.tokens := by
  have opened := reads_of_isRead (by decide : isRead [.code] "import \x7b " .idle
    [.code, .code] [.word "import", .mark '\x7b'] = true) outer
  have origin := reads_of_isRead (by decide : isRead [.code, .code] " \x7d from " .idle
    [.code] [.mark '\x7d', .word "from"] = true) outer
  have closed := reads_of_isRead (rfl : isRead [.code] ";" .idle [.code] [.mark ';'] = true) outer
  have whole := (((opened.append (reads_names sound)).before origin rfl).append
    (reads_stringLiteral used.module)).append closed
  have read : Line.AllRead (.code :: outer) [used.line] (.code :: outer) _ :=
    whole.line (by simp; rfl) rfl (by decide) (by simp [Import.line, Line.text])
  simpa [Import.tokens] using read

/-- Names with commas between them use nothing. -/
theorem uses_names_append (names : List String) {rest : List Lexeme}
    (apart : startsApart rest = true) : uses (nameTokens names ++ rest) = uses rest := by
  induction names with
  | nil => rfl
  | cons name later ih =>
    cases later with
    | nil => exact uses_word_cons name apart
    | cons next later => exact (uses_word_cons name rfl).trans ih

/-- Lexemes that go on after a word with neither a comma nor a closing brace start nowhere in names
with commas between them and a brace after them. -/
theorem passes_names_append {first : String} {second : Lexeme} {more : List Lexeme}
    (comma : second ≠ .mark ',') (brace : second ≠ .mark '\x7d') (names : List String)
    {rest : List Lexeme}
    (passed : passes (.word first :: second :: more) (.mark '\x7d' :: rest) = true) :
    passes (.word first :: second :: more) (nameTokens names ++ .mark '\x7d' :: rest) = true := by
  induction names with
  | nil => exact passed
  | cons name later ih =>
    cases later with
    | nil => simpa [nameTokens, passes, differ, brace] using passed
    | cons next later =>
      have whole : nameTokens (name :: next :: later) =
          .word name :: .mark ',' :: nameTokens (next :: later) := rfl
      rw [whole, List.cons_append, List.cons_append]
      simp [passes, differ, comma, ih]

/-- An import is a filler. -/
theorem isFiller_import (used : Import) : IsFiller used.tokens := by
  have opened : IsFiller [.word "import", .mark '\x7b'] := by decide
  have named : IsFiller (nameTokens used.names
      ++ [.mark '\x7d', .word "from", .literal used.module, .mark ';']) := by
    refine ⟨⟨isSettled_append_of_startsApart _ rfl rfl, uses_names_append used.names rfl⟩, ?_, ?_⟩
    · rw [tableHead]
      exact passes_names_append (by decide) (by decide) used.names rfl
    · rw [stateHead]
      exact passes_names_append (by decide) (by decide) used.names rfl
  rw [Import.tokens, List.append_assoc]
  exact opened.append named

/-- The lines of imports are a filler. -/
theorem fill_importLines {listed : List Import}
    (sound : ∀ used ∈ listed, ∀ name ∈ used.names, isName name = true) :
    Line.Fill (.code :: outer) (listed.map Import.line) (.code :: outer) := by
  induction listed with
  | nil => exact Line.fill_nil _
  | cons used later ih =>
    rw [List.forall_mem_cons] at sound
    have here : Line.Fill (.code :: outer) [used.line] (.code :: outer) :=
      ⟨_, allRead_importLine sound.1, isFiller_import used⟩
    exact here.append (ih sound.2)

/-! ## The whole source -/

/-- The lexemes of the first line of the component. -/
def componentTokens (name : String) : List Lexeme :=
  [.word "export", .word "default", .word "function", .word name, .mark '(', .mark '\x7b',
    .word "onSubmit", .mark '\x7d', .mark ':', .mark '\x7b', .word "onSubmit", .mark '?', .mark ':',
    .mark '(', .word "values", .mark ':', .word "FormValues", .mark ')', .mark '=', .mark '>',
    .word "void", .mark '\x7d', .mark ')', .mark '\x7b']

/-- The first line of the component is read as its lexemes. -/
theorem allRead_componentHead {name : String} (sound : isName name = true) :
    Line.AllRead (.code :: outer) [.opening (componentHead name)] (.code :: .code :: outer)
      (componentTokens name) := by
  have opened := reads_of_isRead (by decide : isRead [.code] "export default function "
    .idle [.code] [.word "export", .word "default", .word "function"] = true) outer
  have closed := reads_of_isRead (by decide : isRead [.code]
    "(\x7b onSubmit \x7d: \x7b onSubmit?: (values: FormValues) => void \x7d) \x7b" .idle
    [.code, .code] ((componentTokens "").drop 4) = true) outer
  have read := (opened.append (reads_word sound)).before closed rfl
  exact read.line (by simp; rfl) rfl (by decide) rfl

/-- The first line of the component is a filler. -/
theorem isFiller_component (name : String) : IsFiller (componentTokens name) := by
  refine ⟨⟨rfl, rfl⟩, ?_, ?_⟩ <;> simp [componentTokens, passes, differ, tableHead, stateHead]

/-- The lines before the rule table are a filler. -/
theorem fill_leadLines (document : Document) (options : Options) :
    Line.Fill [.code]
      ((if options.clientDirective then [.plain "\"use client\";", .blank] else [])
        ++ [.plain "import \x7b useState, type FormEvent \x7d from \"react\";"]
        ++ (imports document options).map Import.line ++ .blank :: (typeLines ++ [.blank]))
      [.code] := by
  have directive : Line.Fill [.code]
      (if options.clientDirective then [.plain "\"use client\";", .blank] else []) [.code] := by
    split
    · exact Line.fill_of_fills (by decide :
        Line.fills [.code] [.plain "\"use client\";", .blank] [.code] = true) []
    · exact Line.fill_nil _
  have react : Line.Fill [.code]
      [.plain "import \x7b useState, type FormEvent \x7d from \"react\";"] [.code] :=
    Line.fill_of_fills (by decide : Line.fills [.code]
      [.plain "import \x7b useState, type FormEvent \x7d from \"react\";"] [.code] = true) []
  have listed : Line.Fill [.code] ((imports document options).map Import.line) [.code] :=
    fill_importLines fun used member name named =>
      isName_of_mem_usedComponents ((mem_names_iff member).mp named).1
  have types := Line.fill_of_fills (by decide +kernel :
    Line.fills [.code] (.blank :: (typeLines ++ [.blank])) [.code] = true) []
  exact ((directive.append react).append listed).append types

/-- The lines between the rule table and the state are a filler. -/
theorem fill_middleLines (document : Document) (options : Options) :
    Line.Fill [.code] (.blank :: (checkLines
      ++ [.blank, .opening (componentHead (componentName document options))])) [.code, .code] := by
  have checks := Line.fill_of_fills (by decide +kernel :
    Line.fills [.code] (.blank :: (checkLines ++ [.blank])) [.code] = true) []
  have opened : Line.Fill [.code] [.opening (componentHead (componentName document options))]
      [.code, .code] :=
    ⟨_, allRead_componentHead (isName_componentName document options), isFiller_component _⟩
  simpa using checks.append opened

/-- The lines between the state and the markup use nothing. -/
theorem show_handlerLines :
    Line.Show [.code, .code] (.blank :: (handlerLines ++ [.blank, .opening "return ("]))
      [.code, .code] [] :=
  Line.show_of_linesUses? (by decide +kernel : Line.linesUses? [.code, .code]
    (.blank :: (handlerLines ++ [.blank, .opening "return ("])) = some ([.code, .code], [])) []

/-- The lines after the markup use nothing. -/
theorem show_lastLines :
    Line.Show [.code, .code] [.closing ");", .closing "\x7d"] [.code] [] :=
  Line.show_of_linesUses? (by decide : Line.linesUses? [.code, .code]
    [.closing ");", .closing "\x7d"] = some ([.code], [])) []

/-- The lines after the state use what the markup of the document does. -/
theorem show_tailLines (document : Document) :
    Line.Show [.code, .code] (.blank :: (handlerLines
      ++ .blank :: Line.block "return (" (markupLines document) ");") ++ [.closing "\x7d"])
      [.code] (markupUses document) := by
  have markup : Line.Show [.code, .code] (markupLines document) [.code, .code] _ :=
    show_markupLines document
  have whole := (show_handlerLines.append markup).append show_lastLines
  simpa [Line.block] using whole

/-- Lines that are read in code and lead back to it are a source that is read to its end. -/
theorem tokenize?_render {lines : List Line} {tokens : List Lexeme}
    (read : Line.AllRead [.code] lines [.code] tokens) :
    tokenize? (Line.render lines) = some tokens := by
  have scanned := read.scan_renderAt 0 []
  rw [List.append_nil] at scanned
  simp only [tokenize?, Line.render, Reading.outermost, scanned]
  simp [Reading.scan, Reading.emit]

/-- The lexemes of the code for a document, with the given ones before the rule table, between it
and the state, and after the state. -/
def sourceTokens (fields : List Field) (lead middle tail : List Lexeme) : List Lexeme :=
  lead ++ (tableHead ++ tableTokens fields
    ++ (middle ++ (stateHead ++ (stateTokens fields ++ tail))))

/-- The code for a document is read to its end. What stands before the rule table, and between it
and the state, is a filler, and what stands after the state uses what the markup does. -/
theorem exists_tokenize?_generate (document : Document) (options : Options) :
    ∃ lead middle tail, IsFiller lead ∧ IsFiller middle ∧ uses tail = markupUses document ∧
      tokenize? (generate document options) =
        some (sourceTokens document.fields lead middle tail) := by
  obtain ⟨lead, leadRead, leadFills⟩ := fill_leadLines document options
  obtain ⟨middle, middleRead, middleFills⟩ := fill_middleLines document options
  obtain ⟨tail, tailRead, tailSettled, tailUses⟩ := show_tailLines document
  have table : Line.AllRead [.code] (ruleTable document.fields) [.code] _ :=
    allRead_ruleTable document.fields
  have state : Line.AllRead [.code, .code] (stateLines document.fields) [.code, .code] _ :=
    allRead_stateLines document.fields
  have semicolon : IsFiller [.mark ';'] := by decide
  have quiet : IsQuiet stateTail := ⟨by decide, by decide⟩
  refine ⟨lead, .mark ';' :: middle, stateTail ++ tail, leadFills,
    semicolon.append middleFills, ?_, ?_⟩
  · rw [uses_append quiet.1, quiet.2, List.nil_append, tailUses]
  · -- The lines are read in the same order as they are put together, but not in the same blocks.
    have whole : Line.AllRead [.code] (sourceLines document options) [.code]
        (sourceTokens document.fields lead (.mark ';' :: middle) (stateTail ++ tail)) := by
      have read := leadRead.append (table.append (middleRead.append (state.append tailRead)))
      simpa [sourceLines, componentLines, sourceTokens, Line.block] using read
    exact tokenize?_render whole

/-- What a source uses: nothing can be said if it is not read to its end. -/
def usesOf? (source : String) : Option (List Use) := (tokenize? source).map uses

/-- The code for a document uses what its markup does. -/
theorem usesOf?_generate (document : Document) (options : Options) :
    usesOf? (generate document options) = some (markupUses document) := by
  obtain ⟨lead, middle, tail, leadFills, middleFills, tailUses, made⟩ :=
    exists_tokenize?_generate document options
  have front : IsQuiet (lead ++ (tableHead ++ tableTokens document.fields ++ (middle
      ++ (stateHead ++ stateTokens document.fields)))) := by
    have table : IsQuiet tableHead := ⟨by decide, by decide⟩
    have state : IsQuiet stateHead := ⟨by decide, by decide⟩
    exact leadFills.1.append ((table.append (isQuiet_table _)).append
      (middleFills.1.append (state.append (isQuiet_state _))))
  have whole := uses_append front.1 tail
  rw [front.2, tailUses, List.nil_append] at whole
  rw [usesOf?, made, Option.map_some, ← whole]
  simp [sourceTokens]

end Formwright.Code
