import Formwright.Prompt.FieldList
import Formwright.Proofs.Prompt.Reading
import Formwright.Proofs.Prompt.Token
import Formwright.Proofs.Text.Joining

/-!
# The form of tokens

Whatever text a token comes from, it is a few words with single spaces between them that start and
end with a letter or digit (`Token.IsSpelled`). What decides is how a piece of a list is cleaned: it
is cut into words at white space and some marks, the words are joined with single spaces, and what
is trimmed at the ends takes whole words away or parts of them and adds none. So the label of every
field that is read from a prompt is tidy (`Prompt.isTidy_label_of_mem_read`).
-/
namespace Formwright
open Text

namespace Token

/-! ## Cleaned pieces -/

/-- The words of a piece have characters, and no white space, quotes and parentheses among them. -/
theorem isWord_of_mem_wordsBy {text word : List Char}
    (listed : word ∈ wordsBy separatesWords text) :
    IsWord word ∧ ∀ c ∈ word, c ∉ ['"', '\'', '(', ')'] := by
  obtain ⟨cut, filled⟩ := mem_wordsBy_iff.mp listed
  have inside (c : Char) (member : c ∈ word) :
      isBlank c = false ∧ c ∉ ['"', '\'', '(', ')'] := by
    have whole := separates_of_mem_pieces cut c member
    rwa [separatesWords, Bool.or_eq_false_iff, decide_eq_false_iff_not] at whole
  exact ⟨⟨filled, fun c member => (inside c member).1⟩, fun c member => (inside c member).2⟩

/-! ## Spelled tokens -/

/-- A token as it is written: at most four words with single spaces between them, with a letter or
digit at both ends, and without other white space, quotes and parentheses. The word `email` is
always written so. -/
@[mk_iff]
structure IsSpelled (token : String) : Prop where
  filled : token ≠ ""
  spaced : joinWords (words token.toList) = token.toList
  few : (words token.toList).length ≤ 4
  start : token.toList.head?.any isAlphanumeric = true
  finish : token.toList.getLast?.any isAlphanumeric = true
  blanks : ∀ c ∈ token.toList, isBlank c = true → c = ' '
  marks : ∀ c ∈ token.toList, c ∉ ['"', '\'', '(', ')']
  address : token ≠ "e-mail" ∧ token ≠ "e mail"

instance (token : String) : Decidable (IsSpelled token) :=
  -- The characters of the token are gone through, and not all characters that there are.
  letI : Decidable (∀ c ∈ token.toList, isBlank c = true → c = ' ') := List.decidableBAll _ _
  letI : Decidable (∀ c ∈ token.toList, c ∉ ['"', '\'', '(', ')']) := List.decidableBAll _ _
  decidable_of_iff _ (isSpelled_iff token).symm

/-- The word `email` is written as a token is. -/
theorem isSpelled_email : IsSpelled "email" := by decide +kernel

/-- What is left of a few words that are joined and trimmed is written as a token is, if it is not
one of the other spellings of `email`. -/
theorem isSpelled_trimBy {words : List (List Char)}
    (sound : ∀ word ∈ words, IsWord word ∧ ∀ c ∈ word, c ∉ ['"', '\'', '(', ')'])
    (some : words ≠ []) (few : words.length ≤ 4) {text : List Char}
    (trimmed : text = trimBy (!isAlphanumeric ·) (joinWords words)) (left : text ≠ [])
    (other : ¬(text = "e-mail".toList ∨ text = "e mail".toList)) :
    IsSpelled (String.ofList text) := by
  have proper : ∀ word ∈ words, IsWord word := fun word listed => (sound word listed).1
  have within : text <:+: joinWords words := trimmed ▸ infix_of_trimBy _ _
  obtain ⟨start, finish⟩ := ends_of_trimBy (!isAlphanumeric ·) (joinWords words)
  rw [← trimmed] at start finish
  have tidy : IsTidy text := by
    rw [trimmed] at left ⊢
    refine isTidy_trimBy (isTidy_joinWords proper some) (fun c blank => ?_) left
    simp [isAlphanumeric_of_isBlank blank]
  have blanks : ∀ c ∈ text, isBlank c = true → c = ' ' := fun c member =>
    eq_space_of_mem_joinWords proper (within.subset member)
  rw [not_or] at other
  constructor
  case filled =>
    rw [← String.toList_inj.ne, String.toList_ofList]
    exact left
  case address =>
    rw [← String.toList_inj.ne, ← String.toList_inj.ne, String.toList_ofList]
    exact other
  all_goals rw [String.toList_ofList]
  case spaced => exact joinWords_words tidy blanks
  case few => exact (length_words_le proper some within).trans few
  case start =>
    rw [List.head?_eq_some_head left] at start ⊢
    simpa using start
  case finish =>
    rw [List.getLast?_eq_some_getLast left] at finish ⊢
    simpa using finish
  case blanks => exact blanks
  case marks =>
    intro c member mark
    have inked : c ≠ ' ' := by
      rintro rfl
      exact absurd mark (by decide)
    obtain ⟨word, listed, inside⟩ := exists_mem_of_mem_joinWords (within.subset member) inked
    exact (sound word listed).2 c inside mark

/-- The token in a piece of a text is written as a token is, and it is the piece when it is cleaned,
if that is not another spelling of `email`. -/
theorem isSpelled_of_ofPiece? {piece : List Char} {token : String}
    (found : ofPiece? piece = some token) :
    IsSpelled token ∧ token = spelled (cleaned (lower (trim piece))) := by
  obtain ⟨-, same, left, words, cut, trimmed, some, few⟩ := cleaned_of_ofPiece? found
  have sound : ∀ word ∈ words, IsWord word ∧ ∀ c ∈ word, c ∉ ['"', '\'', '(', ')'] := by
    intro word listed
    exact isWord_of_mem_wordsBy (cut ▸ listed)
  refine ⟨?_, same⟩
  rw [same, spelled]
  split
  · exact isSpelled_email
  · next other => exact isSpelled_trimBy sound some few trimmed left other

/-- The tokens of a list of fields and those that the dictionary finds are written as tokens are,
whatever the text. Each is what is left of a piece of the list, or of what an entry of the
dictionary matches, when that is cleaned; if another spelling of `email` is left, it is `email`. -/
theorem tokens_isSpelled (text : List Char) :
    (∀ token ∈ ofList text, IsSpelled token ∧
      ∃ piece ∈ separator.split (beforeQuote text),
        token = spelled (cleaned (lower (trim piece)))) ∧
    ∀ token ∈ ofDictionary text, IsSpelled token ∧
      ∃ found ∈ dictionaryMatches text,
        token = spelled (cleaned (lower (trim (lower found.matched)))) := by
  constructor
  · intro token listed
    obtain ⟨piece, cut, found⟩ := List.mem_filterMap.mp listed
    obtain ⟨sound, same⟩ := isSpelled_of_ofPiece? found
    exact ⟨sound, piece, cut, same⟩
  · intro token listed
    obtain ⟨place, matched, found⟩ := List.mem_filterMap.mp listed
    obtain ⟨sound, same⟩ := isSpelled_of_ofPiece? found
    exact ⟨sound, place, matched, same⟩

/-- A list with brackets, a quote and another spelling of `email` has two tokens, and the dictionary
finds one of two words. -/
theorem tokens_isSpelled_address :
    ofList "Full  name, (E-mail) \"Send\"".toList = ["full name", "email"] ∧
      "phone number" ∈ ofDictionary "my phone number or e-mail".toList ∧
      IsSpelled "full name" ∧ IsSpelled "phone number" := by
  have listed : ofList "Full  name, (E-mail) \"Send\"".toList = ["full name", "email"] := by
    decide +kernel
  have known : "phone number" ∈ ofDictionary "my phone number or e-mail".toList := by
    have found : ∃ found ∈ dictionary.filterMap (·.search "my phone number or e-mail".toList),
        ofPiece? (lower found.matched) = some "phone number" := by
      decide +kernel
    rw [ofDictionary, List.mem_filterMap]
    simpa only [dictionaryMatches, List.mem_mergeSort] using found
  exact ⟨listed, known, ((tokens_isSpelled _).1 "full name" (listed ▸ List.mem_cons_self)).1,
    ((tokens_isSpelled _).2 "phone number" known).1⟩

end Token

/-! ## Fields of prompts -/

/-- The tokens of the fields that a text names are written as tokens are. -/
theorem FieldList.isSpelled_of_mem_find {text : List Char} {token : String}
    (found : token ∈ (find text).1) : Token.IsSpelled token := by
  unfold find at found
  split at found
  · next cue _ =>
    unfold tokens at found
    split at found
    · cases found
    · next list _ =>
      have listed : token ∈ Token.ofList list := by
        split at found
        · exact found
        · exact (List.mem_filter.mp found).1
      obtain ⟨piece, -, found⟩ := List.mem_filterMap.mp listed
      exact (Token.isSpelled_of_ofPiece? found).1
  · split at found
    · cases found
    · obtain ⟨matched, -, found⟩ := List.mem_filterMap.mp found
      exact (Token.isSpelled_of_ofPiece? found).1

/-- A token is tidy. -/
theorem Token.IsSpelled.isTidy {token : String} (sound : IsSpelled token) :
    IsTidy token.toList :=
  isTidy_of_words sound.spaced (String.toList_eq_nil_iff.not.mpr sound.filled)

namespace Draft

/-- The label of the draft for a token is the token with its first letter in upper case. -/
theorem label_ofToken (language : Language) (token name : String) :
    (ofToken language token name).field.label = labelFor token := by
  unfold ofToken complete
  cases (Control.ofToken? token).getD .input with
  | input => cases (Profile.ofToken? token).getD .generic <;> rfl
  | textarea | select | checkbox | datePicker | fileUpload => rfl

/-- The labels of the drafts for tokens are those for some of the tokens. -/
theorem exists_label_of_mem_ofTokensAfter {language : Language} {seen taken tokens : List String} :
    ∀ draft ∈ ofTokensAfter language seen taken tokens,
      ∃ token ∈ tokens, draft.field.label = labelFor token := by
  induction tokens generalizing seen taken with
  | nil => nofun
  | cons token later ih =>
    have among {draft : Draft} (named : ∃ other ∈ later, draft.field.label = labelFor other) :
        ∃ other ∈ token :: later, draft.field.label = labelFor other := by
      obtain ⟨other, listed, same⟩ := named
      exact ⟨other, List.mem_cons_of_mem token listed, same⟩
    rw [ofTokensAfter]
    split
    · exact fun draft member => among (ih draft member)
    · refine List.forall_mem_cons.mpr ⟨?_, fun draft member => among (ih draft member)⟩
      exact ⟨token, List.mem_cons_self, label_ofToken language token _⟩

/-- The drafts for tokens in the form of tokens have tidy labels. -/
theorem isTidy_label_of_mem_ofTokens {language : Language} {tokens : List String}
    (sound : ∀ token ∈ tokens, Token.IsSpelled token) :
    ∀ draft ∈ ofTokens language tokens, IsTidy draft.field.label.toList := by
  intro draft member
  obtain ⟨token, listed, same⟩ := exists_label_of_mem_ofTokensAfter draft member
  rw [same, labelFor, String.toList_ofList]
  exact (sound token listed).isTidy.capitalize

/-- The drafts of a form to sign in by have tidy labels. -/
theorem isTidy_label_of_mem_credentials (language : Language) :
    ∀ draft ∈ credentials language, IsTidy draft.field.label.toList := by
  apply isTidy_label_of_mem_ofTokens
  cases language <;> decide +kernel

/-- Qualified drafts have tidy labels if the drafts have. -/
theorem isTidy_label_of_mem_apply {qualifiers : Qualifiers} {drafts : List Draft}
    (tidy : ∀ draft ∈ drafts, IsTidy draft.field.label.toList) :
    ∀ draft ∈ qualifiers.apply drafts, IsTidy draft.field.label.toList := by
  intro draft member
  obtain ⟨source, listed, same⟩ := exists_of_mem_apply member
  have named : source.field.label = draft.field.label := congrArg (·.field.label) same
  exact named ▸ tidy source listed

end Draft

namespace Prompt

/-- The drafts of a request have tidy labels. -/
theorem isTidy_label_of_mem_drafts (text : List Char) (topic : Topic) :
    ∀ draft ∈ (drafts text topic).1, IsTidy draft.field.label.toList := by
  have sound : ∀ token ∈ (FieldList.find text).1, Token.IsSpelled token :=
    fun token => FieldList.isSpelled_of_mem_find
  unfold drafts
  split
  · split
    · exact Draft.isTidy_label_of_mem_credentials topic.language
    · nofun
  · next tokens rule filled found =>
    rw [found] at sound
    exact Draft.isTidy_label_of_mem_ofTokens sound

/-- Whatever a prompt says, the labels of the fields that it is read into are tidy. -/
theorem isTidy_label_of_mem_read (prompt : String) :
    ∀ field ∈ (read prompt).document.fields, IsTidy field.label.toList := by
  simp only [read]
  split
  · exact List.forall_mem_nil _
  · rw [fields_readRequest]
    exact List.forall_mem_map.mpr
      (Draft.isTidy_label_of_mem_apply (isTidy_label_of_mem_drafts _ _))

end Prompt
end Formwright
