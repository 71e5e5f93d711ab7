import Formwright.Proofs.Pattern.Matching
import Formwright.Proofs.Prompt.Reading
import Mathlib.Data.List.Nodup

/-!
# Prompts that ask for an account to be created

A prompt for a form to sign in by may tell that an account is to be created. Then the description,
and the common title where it is taken, are worded for that. The label of the action that submits
the form comes from another table: it is worded for an account to be created exactly if the prompt
mentions no signing in and tells of the account in words that the table knows. There is one phrase
that the table does not know.
-/
namespace Formwright

/-! ## Where patterns match -/

namespace Pattern

/-- One of some patterns matches in a text where a word starts or ends if one of them does. -/
theorem matchesIn_wordEdge_anyOf_iff (patterns : List Pattern) (text : List Char) :
    (wordEdge ++ anyOf patterns).matchesIn text = true ↔ ∃ place ∈ Place.all text,
      place.isWordEdge = true ∧
        ∃ pattern ∈ patterns, pattern.admits place (fun _ => true) = true := by
  have split (place : Place) : (wordEdge ++ anyOf patterns).admits place (fun _ => true) =
      (place.isWordEdge && (anyOf patterns).admits place fun _ => true) := rfl
  simp only [matchesIn_iff, split, Bool.and_eq_true, admits_anyOf_iff]

/-- Of two lists of patterns put together one matches where a word starts or ends if one of either
list does. -/
theorem matchesIn_wordEdge_anyOf_append_iff (front back : List Pattern) (text : List Char) :
    (wordEdge ++ anyOf (front ++ back)).matchesIn text = true ↔
      (wordEdge ++ anyOf front).matchesIn text = true ∨
        (wordEdge ++ anyOf back).matchesIn text = true := by
  simp only [matchesIn_wordEdge_anyOf_iff, List.mem_append, or_and_right, exists_or, and_or_left]

end Pattern

/-- Where the names of cues are distinct, the name of one of them is given exactly if its pattern
matches. -/
theorem Cue.name_mem_given_iff {α : Type} {cues : List (Cue α)}
    (distinct : (cues.map Cue.name).Nodup) {cue : Cue α} (listed : cue ∈ cues)
    (text : List Char) :
    cue.name ∈ (given cues text).map Cue.name ↔ cue.pattern.matchesIn text = true := by
  rw [List.mem_map]
  constructor
  · rintro ⟨other, found, same⟩
    obtain ⟨member, matched⟩ := List.mem_filter.mp found
    rwa [List.inj_on_of_nodup_map distinct member listed same] at matched
  · intro matched
    exact ⟨cue, List.mem_filter.mpr ⟨listed, matched⟩, rfl⟩

/-! ## The label of the submit action -/

namespace ActionRule
open Pattern

/-- The words for an account to be created that the table of labels knows. -/
def registrationWords : List Pattern := [
  "sign" ++ maybe " " ++ "up", "register", "registration",
  "create " ++ maybe "an " ++ "account", stem "rejestracj", stem "zarejestruj", "załóż konto"]

/-- A phrase for an account to be created that the table of labels does not know. -/
def unknownPhrase : Pattern := wordEdge ++ "zaloz konto"

/-- The label for an account to be created. -/
def registerLabel : Wording := ⟨"Create Account", "Zarejestruj się"⟩

/-- The cue of the label for an account to be created. -/
def registerCue : Cue Wording := ⟨"register", registerLabel, wordEdge ++ anyOf registrationWords⟩

/-- The cue of the label for signing in. -/
def loginCue : Cue Wording := ⟨"login", ⟨"Sign In", "Zaloguj się"⟩, wordEdge ++ anyOf [
  "log" ++ maybe " " ++ "in", "sign" ++ maybe " " ++ "in", stem "zaloguj", stem "logowani"]⟩

/-- Of the purposes of prompts, signing in stands before creating an account. -/
theorem primary_eq : primary = loginCue :: registerCue :: primary.drop 2 := rfl

/-- The names of the purposes of prompts are distinct. -/
theorem nodup_names_primary : (primary.map Cue.name).Nodup := by
  decide

/-- The purpose of signing in is given where its pattern matches. -/
theorem login_mem_given_iff (text : List Char) :
    "login" ∈ (Cue.given primary text).map Cue.name ↔ loginCue.pattern.matchesIn text = true :=
  Cue.name_mem_given_iff nodup_names_primary (primary_eq ▸ List.mem_cons_self) text

/-- The purpose of creating an account is given where its pattern matches. -/
theorem register_mem_given_iff (text : List Char) :
    "register" ∈ (Cue.given primary text).map Cue.name ↔
      registerCue.pattern.matchesIn text = true :=
  Cue.name_mem_given_iff nodup_names_primary
    (primary_eq ▸ List.mem_cons_of_mem loginCue List.mem_cons_self) text

/-- A text tells that an account is to be created in words that the table of labels knows or in a
phrase that it does not know. -/
theorem matchesIn_registration_iff (text : List Char) :
    Cue.registration.matchesIn text = true ↔
      "register" ∈ (Cue.given primary text).map Cue.name ∨ unknownPhrase.matchesIn text = true := by
  rw [register_mem_given_iff]
  exact matchesIn_wordEdge_anyOf_append_iff registrationWords ["zaloz konto"] text

/-- No other purpose than creating an account has its label, and neither has a text without one. -/
theorem text_ne_registerLabel (language : Language) :
    loginCue.value.text language ≠ registerLabel.text language ∧
      (∀ cue ∈ primary.drop 2, cue.value.text language ≠ registerLabel.text language) ∧
      plainSubmit.text language ≠ registerLabel.text language := by
  cases language <;> decide

/-- Without a quoted label, the label is that for an account to be created exactly if the text gives
that purpose and does not give that of signing in, which stands before it. -/
theorem submitLabel_eq_registerLabel_iff {text : List Char} (unquoted : quotedLabel? text = none)
    (language : Language) : (submitLabel text language).1 = registerLabel.text language ↔
      "login" ∉ (Cue.given primary text).map Cue.name ∧
        "register" ∈ (Cue.given primary text).map Cue.name := by
  obtain ⟨login, others, plain⟩ := text_ne_registerLabel language
  rw [login_mem_given_iff, register_mem_given_iff, submitLabel, unquoted, Cue.first?, primary_eq,
    List.find?_cons, List.find?_cons]
  by_cases signsIn : loginCue.pattern.matchesIn text = true
  · simp [signsIn, login]
  · by_cases registers : registerCue.pattern.matchesIn text = true
    · have labelled : registerCue.value = registerLabel := rfl
      simp [signsIn, registers, labelled]
    · -- The label is that of another purpose, or the plain one.
      refine iff_of_false ?_ fun given => registers given.2
      simp only [signsIn, registers]
      cases found : (primary.drop 2).find? (·.pattern.matchesIn text) with
      | none => exact plain
      | some cue => exact others cue (List.mem_of_find?_eq_some found)

end ActionRule

/-! ## Prompts -/

/-- Where the title is the common one of a scaffold, it is worded like that. -/
theorem Title.find_eq_of_scaffoldDefault {text : List Char} {kind : DocumentKind}
    {scaffold : Option Scaffold} {registers : Bool} {language : Language} {wording : Wording}
    (common : scaffold.bind (ofScaffold? registers) = some wording)
    (rule : (find text kind scaffold registers language).2 = "scaffold-default") :
    (find text kind scaffold registers language).1 = wording.text language := by
  have names : ∀ cue ∈ cues, cue.name ≠ "scaffold-default" := by
    decide
  unfold find at rule ⊢
  cases found : cues.findSome? fun cue => (written? cue text).map (·, cue.name) with
  | none => rw [common]
  | some taken =>
    obtain ⟨cue, listed, gives⟩ := List.exists_of_findSome?_eq_some found
    obtain ⟨title, -, rfl⟩ := Option.map_eq_some_iff.mp gives
    rw [found] at rule
    exact absurd rule (names cue listed)

/-- A request for a form to sign in by that tells that an account is to be created and quotes no
label for its button. -/
structure Request.AsksToRegister (request : Request) : Prop where
  plain : request.isCode = false
  signIn : (Prompt.Topic.ofText request.text).scaffold = some .formAuth
  registers : Cue.registration.matchesIn request.text = true
  unquoted : ActionRule.quotedLabel? request.text = none

/-- A request asks to register if its text says so. -/
theorem Request.asksToRegister_of_text {request : Request} {text : List Char}
    (plain : request.isCode = false) (same : request.text = text)
    (said : (Prompt.Topic.ofText text).scaffold = some .formAuth ∧
      Cue.registration.matchesIn text = true ∧ ActionRule.quotedLabel? text = none) :
    request.AsksToRegister := by
  subst same
  exact ⟨plain, said.1, said.2.1, said.2.2⟩

namespace Prompt

/-- How a document is worded for an account to be created: its description, and its title if that is
the common one. -/
structure IsWordedToRegister (reading : Reading) : Prop where
  description : reading.document.description = some (Wording.text
    ⟨"Create an account to get started.", "Utwórz konto, aby rozpocząć."⟩ reading.report.language)
  title : reading.report.titleRule = "scaffold-default" → reading.document.title =
    Wording.text ⟨"Create Account", "Rejestracja"⟩ reading.report.language

/-- The names of the purposes that a text gives, in the order of their table. -/
def purposes (text : List Char) : List String := (Cue.given ActionRule.primary text).map Cue.name

/-- A request that asks to register is worded for an account to be created, but its submit action is
labelled for that exactly if that is a purpose of the request and signing in is none. -/
theorem wording_readRequest {request : Request} (asks : request.AsksToRegister) :
    IsWordedToRegister (readRequest request) ∧
    (∃ submit others, (readRequest request).document.actions = submit :: others ∧
      submit.kind = .submit ∧
      (submit.label = ActionRule.registerLabel.text (readRequest request).report.language ↔
        "login" ∉ purposes request.text ∧ "register" ∈ purposes request.text)) ∧
    ("register" ∈ purposes request.text ∨
      ActionRule.unknownPhrase.matchesIn request.text = true) := by
  obtain ⟨-, signIn, registers, unquoted⟩ := asks
  refine ⟨⟨?_, ?_⟩, ⟨_, _, rfl, rfl, ?_⟩, ?_⟩
  · simp only [readRequest, signIn, registers]
    rfl
  · intro rule
    apply Title.find_eq_of_scaffoldDefault _ rule
    rw [signIn, registers]
    rfl
  · exact ActionRule.submitLabel_eq_registerLabel_iff unquoted _
  · exact (ActionRule.matchesIn_registration_iff request.text).mp registers

/-- A prompt that asks to register is worded for an account to be created, but its submit action is
labelled for that exactly if that is a purpose of the prompt and signing in is none. It is a purpose
unless the prompt tells of it by one phrase. -/
theorem registration_wording {prompt : String}
    (asks : (Request.ofPrompt prompt.toList).AsksToRegister) :
    IsWordedToRegister (read prompt) ∧
    (∃ submit others, (read prompt).document.actions = submit :: others ∧
      submit.kind = .submit ∧
      (submit.label = ActionRule.registerLabel.text (read prompt).report.language ↔
        "login" ∉ purposes (Request.ofPrompt prompt.toList).text ∧
          "register" ∈ purposes (Request.ofPrompt prompt.toList).text)) ∧
    ("register" ∈ purposes (Request.ofPrompt prompt.toList).text ∨
      ActionRule.unknownPhrase.matchesIn (Request.ofPrompt prompt.toList).text = true) := by
  rw [read_of_not_isCode asks.plain]
  exact wording_readRequest asks

/-- A prompt to sign up is worded and labelled for that. -/
theorem registration_wording_signUp :
    (Request.ofPrompt "sign up".toList).AsksToRegister ∧
      ∃ submit others, (read "sign up").document.actions = submit :: others ∧
        submit.label = ActionRule.registerLabel.text (read "sign up").report.language := by
  have text : (Request.ofPrompt "sign up".toList).text = "sign up".toList := by decide +kernel
  have asks : (Request.ofPrompt "sign up".toList).AsksToRegister :=
    Request.asksToRegister_of_text (by decide +kernel) text (by decide +kernel)
  obtain ⟨-, ⟨submit, others, listed, -, labelled⟩, -⟩ := registration_wording asks
  rw [text] at labelled
  exact ⟨asks, submit, others, listed, labelled.mpr (by decide +kernel)⟩

/-- A prompt that asks to register has another label if signing in is a purpose of it too, or if
creating an account is none. -/
theorem exists_label_ne {prompt : String} {text : List Char}
    (asks : (Request.ofPrompt prompt.toList).AsksToRegister)
    (same : (Request.ofPrompt prompt.toList).text = text)
    (other : "login" ∈ purposes text ∨ "register" ∉ purposes text) :
    ∃ submit others, (read prompt).document.actions = submit :: others ∧
      submit.label ≠ ActionRule.registerLabel.text (read prompt).report.language := by
  obtain ⟨-, ⟨submit, others, listed, -, labelled⟩, -⟩ := wording_readRequest asks
  rw [same] at labelled
  rw [read_of_not_isCode asks.plain]
  refine ⟨submit, others, listed, fun worded => ?_⟩
  obtain ⟨noLogin, register⟩ := labelled.mp worded
  rcases other with login | noRegister
  · exact noLogin login
  · exact noRegister register

/-- A prompt to sign in or to create an account is worded for the latter and labelled for the
former, and one that uses the phrase that the table of labels does not know is labelled like any
other. -/
theorem registration_wording_mixed :
    ((Request.ofPrompt "login or sign up".toList).AsksToRegister ∧
      ∃ submit others, (read "login or sign up").document.actions = submit :: others ∧
        submit.label ≠ ActionRule.registerLabel.text (read "login or sign up").report.language) ∧
    ((Request.ofPrompt "auth zaloz konto".toList).AsksToRegister ∧
      ∃ submit others, (read "auth zaloz konto").document.actions = submit :: others ∧
        submit.label ≠ ActionRule.registerLabel.text
          (read "auth zaloz konto").report.language) := by
  have mixed : (Request.ofPrompt "login or sign up".toList).text = "login or sign up".toList := by
    decide +kernel
  have phrase : (Request.ofPrompt "auth zaloz konto".toList).text =
      "auth zaloz konto".toList := by
    decide +kernel
  have asks : (Request.ofPrompt "login or sign up".toList).AsksToRegister :=
    Request.asksToRegister_of_text (by decide +kernel) mixed (by decide +kernel)
  have asksToo : (Request.ofPrompt "auth zaloz konto".toList).AsksToRegister :=
    Request.asksToRegister_of_text (by decide +kernel) phrase (by decide +kernel)
  exact ⟨⟨asks, exists_label_ne asks mixed (.inl (by decide +kernel))⟩,
    ⟨asksToo, exists_label_ne asksToo phrase (.inr (by decide +kernel))⟩⟩

end Prompt
end Formwright
