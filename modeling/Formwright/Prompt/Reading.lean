import Formwright.Document.Writer
import Formwright.Prompt.ActionRule
import Formwright.Prompt.FieldList
import Formwright.Prompt.Qualification
import Formwright.Prompt.Request
import Formwright.Prompt.Title

/-!
# Reading prompts

A prompt in plain language is read into a form document. Every prompt can be read: what is not
recognized takes a common value, and a report tells which rules decided.
-/
namespace Formwright
open Json

/-- Which rules decided how a prompt was read. -/
structure Report where
  language : Language
  /-- Whether code was taken out of the prompt. -/
  sanitized : Bool
  /-- Whether the prompt is code rather than a request, so that no fields are looked for. -/
  codeLike : Bool
  documentRule : Option String
  scaffoldRule : Option String
  titleRule : String
  /-- The rule that gave the fields, if there are any. -/
  fieldRule : Option String
  actionRule : String
  qualifiers : List String
deriving DecidableEq, Repr

/-- A report as a value. -/
def Report.toJson (report : Report) : Json :=
  .object [("language", wordJson report.language), ("sanitized", .bool report.sanitized),
    ("codeLike", .bool report.codeLike), ("documentRule", .ofText? report.documentRule),
    ("scaffoldRule", .ofText? report.scaffoldRule), ("titleRule", .string report.titleRule),
    ("fieldRule", .ofText? report.fieldRule), ("actionRule", .string report.actionRule),
    ("qualifiers", .array (report.qualifiers.map .string))]

/-- How a prompt was read. -/
structure Reading where
  document : Document
  report : Report

/-- A reading as a value. -/
def Reading.toJson (reading : Reading) : Json :=
  .object [("dsl", reading.document.toJson), ("report", reading.report.toJson)]

namespace Prompt

/-- What a request is about. -/
structure Topic where
  language : Language
  /-- The cue of the kind of document, if the request gives one. -/
  kindCue : Option (Cue DocumentKind)
  /-- The cue of the scaffold, if the request gives one. -/
  scaffoldCue : Option (Cue Scaffold)

namespace Topic

/-- What a text is about. -/
def ofText (text : List Char) : Topic where
  language := Language.ofText text
  kindCue := Cue.first? Cue.documents text
  scaffoldCue := Cue.first? Cue.scaffolds text

/-- The kind of document; without a cue it is a form. -/
def kind (topic : Topic) : DocumentKind := (topic.kindCue.map (·.value)).getD .form

/-- The scaffold of the document. -/
def scaffold (topic : Topic) : Option Scaffold := topic.scaffoldCue.map (·.value)

end Topic

/-- The fields of a request as drafts, with the name of the rule that gave them. A form to sign in
by has fields even if the request names none. -/
def drafts (text : List Char) (topic : Topic) : List Draft × Option String :=
  match FieldList.find text with
  | ([], rule) =>
    if topic.scaffold = some .formAuth then
      (Draft.credentials topic.language, some "auth-template")
    else ([], rule)
  | (tokens, rule) => (Draft.ofTokens topic.language tokens, rule)

/-- The reading of a prompt that is code: a document without content. -/
def readCode (request : Request) : Reading :=
  let topic := Topic.ofText request.text
  { document :=
      { kind := topic.kind, title := (Title.ofKind topic.kind).text topic.language
        scaffold := topic.scaffold }
    report :=
      { language := topic.language, sanitized := request.stripped, codeLike := true
        documentRule := topic.kindCue.map (·.name)
        scaffoldRule := topic.scaffoldCue.map (·.name)
        titleRule := "document-default", fieldRule := none, actionRule := "none"
        qualifiers := [] } }

/-- The reading of a prompt in plain language. -/
def readRequest (request : Request) : Reading :=
  let text := request.text
  let topic := Topic.ofText text
  let registers := Cue.registration.matchesIn text
  let (title, titleRule) := Title.find text topic.kind topic.scaffold registers topic.language
  let (drafts, fieldRule) := drafts text topic
  let (actions, actionRule) := ActionRule.find text topic.language
  let qualifiers := Qualifiers.ofText text
  let description := topic.scaffold.bind (Title.descriptionOf? registers)
  { document :=
      { kind := topic.kind, title, scaffold := topic.scaffold
        description := description.map (·.text topic.language)
        fields := (qualifiers.apply drafts).map (·.field), actions }
    report :=
      { language := topic.language, sanitized := request.stripped, codeLike := false
        documentRule := topic.kindCue.map (·.name)
        scaffoldRule := topic.scaffoldCue.map (·.name)
        titleRule, fieldRule, actionRule, qualifiers := qualifiers.names } }

/-- Reads a prompt. -/
def read (prompt : String) : Reading :=
  let request := Request.ofPrompt prompt.toList
  if request.isCode then readCode request else readRequest request

end Prompt
end Formwright
