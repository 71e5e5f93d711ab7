import Formwright.Prompt.Token
import Formwright.Proofs.Pattern.Verbal
import Formwright.Proofs.Text.Joining
import Formwright.Proofs.Text.Layout

/-!
# Tokens and the words that name no fields

A piece of a list is left out if it holds a digit, or a word for an action or a quality, and only
then it is cleaned. To take out words that say nothing and to cut the rest into words makes no run
of word characters that was not there. But to trim the piece does: a low line belongs to words and
is no letter or digit, and so do marks that join letters. So a token has no digits, and holds such a
word exactly if it was clipped from the word (`ofList_foreign_iff_clipped`), as it is in `_submit_`.
-/
namespace Formwright.Token
open Text Pattern

/-! ## Words that name no fields -/

/-- What tells that something is no field is a word that stands by itself, or a digit. -/
theorem exists_foreign_eq : ∃ words : Pattern,
    foreign = anyOf [standing words, .one isDecimal] ∧
      (standing words).IsVerbal ∧ (standing words).isFilled = true := by
  refine ⟨_, rfl, ⟨⟨trivial, isVerbal_anyOf ?_⟩, trivial⟩, by decide⟩
  repeat' refine List.forall_mem_cons.mpr ⟨?_, ?_⟩
  all_goals first
    | exact isVerbal_text (by decide)
    | exact isVerbal_stem (by decide)
    | nofun

/-- A text that is not found to name no field has no digits. -/
theorem isDecimal_of_not_foreign {text : List Char} (kept : foreign.matchesIn text = false) :
    ∀ c ∈ text, isDecimal c = false := by
  intro c member
  rw [Bool.eq_false_iff]
  intro digit
  obtain ⟨words, split, -, -⟩ := exists_foreign_eq
  have found : foreign.matchesIn text = true := by
    rw [split, matchesIn_anyOf_iff]
    exact ⟨_, by simp, (matchesIn_one_iff isDecimal text).mpr ⟨c, member, digit⟩⟩
  rw [kept] at found
  cases found

/-- In a text without digits it is one of the runs that names no field. -/
theorem matchesIn_foreign_iff {text : List Char} (wordy : ∀ c ∈ text, isDecimal c = false) :
    foreign.matchesIn text = true ↔ ∃ run ∈ runs text, foreign.matchesIn run = true := by
  obtain ⟨words, split, verbal, filled⟩ := exists_foreign_eq
  have cases (part : List Char) : foreign.matchesIn part = true ↔
      (standing words).matchesIn part = true ∨ ∃ c ∈ part, isDecimal c = true := by
    rw [split, matchesIn_anyOf_iff, ← matchesIn_one_iff]
    simp
  constructor
  · intro found
    rcases (cases text).mp found with word | ⟨c, member, digit⟩
    · obtain ⟨run, listed, found⟩ := (matchesIn_iff_exists_run verbal filled text).mp word
      exact ⟨run, listed, (cases run).mpr (.inl found)⟩
    · rw [wordy c member] at digit
      cases digit
  · rintro ⟨run, listed, found⟩
    rcases (cases run).mp found with word | ⟨c, member, digit⟩
    · exact (cases text).mpr (.inl ((matchesIn_iff_exists_run verbal filled text).mpr
        ⟨run, listed, word⟩))
    · have within := (infix_of_mem_pieces (mem_wordsBy_iff.mp listed).1).subset member
      rw [wordy c within] at digit
      cases digit

/-! ## Cleaned pieces -/

/-- A piece of a list without the words in it that say nothing, cut into words and trimmed. -/
def cleaned (lowered : List Char) : List Char :=
  trimBy (!isAlphanumeric ·) (joinWords (wordsBy separatesWords (noise.replaceAll [' '] lowered)))

/-- The token that a cleaned piece is taken for: other spellings of `email` are not kept. -/
def spelled (text : List Char) : String :=
  if text = "e-mail".toList ∨ text = "e mail".toList then "email" else String.ofList text

/-- A piece that has a token names a field, as far as its words tell, and is cut into a few words of
which something is left when they are joined and trimmed; the token is what is left. -/
theorem cleaned_of_ofPiece? {piece : List Char} {token : String}
    (found : ofPiece? piece = some token) :
    foreign.matchesIn (lower (trim piece)) = false ∧
    token = spelled (cleaned (lower (trim piece))) ∧ cleaned (lower (trim piece)) ≠ [] ∧
    ∃ words, words = wordsBy separatesWords (noise.replaceAll [' '] (lower (trim piece))) ∧
      cleaned (lower (trim piece)) = trimBy (!isAlphanumeric ·) (joinWords words) ∧
      words ≠ [] ∧ words.length ≤ maxWords := by
  rw [ofPiece?] at found
  obtain ⟨kept, found⟩ := Option.ite_none_left_eq_some.mp found
  obtain ⟨few, found⟩ := Option.ite_none_left_eq_some.mp found
  obtain ⟨left, found⟩ := Option.ite_none_left_eq_some.mp found
  rw [Bool.or_eq_true, Bool.or_eq_true, not_or, not_or, Bool.not_eq_true (foreign.matchesIn _)]
    at kept
  rw [Bool.or_eq_true, not_or, List.isEmpty_iff, decide_eq_true_eq, Nat.not_lt] at few
  rw [List.isEmpty_iff] at left
  refine ⟨kept.1.2, ?_, left, _, rfl, by rw [cleaned], few⟩
  simp only [Bool.or_eq_true, beq_iff_eq] at found
  rw [spelled, cleaned]
  split at found
  · next other =>
    rw [if_pos other]
    exact (Option.some.inj found).symm
  · next plain =>
    rw [if_neg plain]
    exact (Option.some.inj found).symm

/-- A token is a cleaned piece in which no word or digit was found that names no field, or it is the
one for an e-mail address. -/
theorem cases_of_ofPiece? {piece : List Char} {token : String}
    (found : ofPiece? piece = some token) :
    foreign.matchesIn (lower (trim piece)) = false ∧
      (token.toList = "email".toList ∨ token.toList = cleaned (lower (trim piece))) := by
  obtain ⟨kept, same, -⟩ := cleaned_of_ofPiece? found
  refine ⟨kept, ?_⟩
  rw [same, spelled]
  split
  · exact .inl rfl
  · exact .inr String.toList_ofList

/-- A cleaned piece has no other characters than the piece, and spaces. -/
theorem mem_of_mem_cleaned {lowered : List Char} {c : Char} (member : c ∈ cleaned lowered)
    (inked : c ≠ ' ') : c ∈ lowered := by
  have unspaced : ' ' ∉ [c] := by simpa using inked.symm
  have joined := (infix_of_trimBy _ _).subset member
  obtain ⟨word, listed, inside⟩ := exists_mem_of_mem_joinWords joined inked
  have within := (infix_of_mem_pieces (mem_wordsBy_iff.mp listed).1).subset inside
  rw [← List.singleton_infix_iff] at within ⊢
  exact held_of_replaceAll unspaced within

/-- What separates the words of a token is no word character. -/
theorem isWord_of_separatesWords {c : Char} (separates : separatesWords c = true) :
    isWord c = false := by
  rcases Bool.or_eq_true_iff.mp separates with blank | mark
  · exact isWord_of_isBlank blank
  · have marks : ['"', '\'', '(', ')'].all (!isWord ·) = true := by decide
    simpa using List.all_eq_true.mp marks c (of_decide_eq_true mark)

/-- A run of a cleaned piece is what is left of a run of the piece when characters that are neither
letters nor digits are clipped from its ends. -/
theorem exists_of_mem_runs_cleaned {lowered run : List Char}
    (listed : run ∈ runs (cleaned lowered)) :
    ∃ before after, before ++ (run ++ after) ∈ runs lowered ∧
      ∀ c ∈ before ++ after, isAlphanumeric c = false := by
  obtain ⟨before, after, joined, clipped⟩ := exists_of_mem_wordsBy_trimBy listed
  obtain ⟨word, cut, within⟩ := exists_of_mem_wordsBy_joinWords (by decide) joined
  have finer (c : Char) (separates : separatesWords c = true) : (!isWord c) = true := by
    rw [isWord_of_separatesWords separates]
    rfl
  exact ⟨before, after,
    mem_runs_of_replaceAll (isEdged_standing _) (mem_wordsBy_of_mem_wordsBy finer cut within),
    fun c member => by simpa using clipped c member⟩

/-! ## Tokens -/

/-- What is left of a run of a piece when word characters that are neither letters nor digits are
clipped from its ends. -/
def IsClipped (piece run : List Char) : Prop :=
  ∃ before after, before ++ (run ++ after) ∈ runs (lower (trim piece)) ∧ before ++ after ≠ [] ∧
    ∀ c ∈ before ++ after, isAlphanumeric c = false

/-- What is clipped from a run are word characters of the piece. -/
theorem IsClipped.exists_mark {piece run : List Char} (clipped : IsClipped piece run) :
    ∃ c ∈ lower (trim piece), isWord c = true ∧ isAlphanumeric c = false := by
  obtain ⟨before, after, listed, some, marks⟩ := clipped
  obtain ⟨c, member⟩ := List.exists_mem_of_ne_nil _ some
  have within : c ∈ before ++ (run ++ after) := by
    rw [List.mem_append] at member ⊢
    exact member.imp_right (List.mem_append_right run)
  obtain ⟨cut, -⟩ := mem_wordsBy_iff.mp listed
  refine ⟨c, (infix_of_mem_pieces cut).subset within, ?_, marks c member⟩
  simpa using separates_of_mem_pieces cut c within

/-- A token of a list comes from a piece of it and has no digits. It holds a word that is no field
exactly if the word stands in the piece with word characters around it that are neither letters nor
digits; where no such characters are, it never does. -/
theorem ofList_foreign_iff_clipped {list : List Char} {token : String}
    (listed : token ∈ ofList list) :
    (∀ c ∈ token.toList, isDecimal c = false) ∧
    ∃ piece ∈ separator.split (beforeQuote list), ofPiece? piece = some token ∧
      ((∀ c ∈ lower (trim piece), isWord c = true → isAlphanumeric c = true) →
        foreign.matchesIn token.toList = false) ∧
      (foreign.matchesIn token.toList = true ↔
        ∃ run ∈ runs token.toList, foreign.matchesIn run = true ∧ IsClipped piece run) := by
  obtain ⟨piece, cut, found⟩ := List.mem_filterMap.mp listed
  obtain ⟨kept, spelled⟩ := cases_of_ofPiece? found
  have wordy : ∀ c ∈ token.toList, isDecimal c = false := by
    intro c member
    rcases spelled with email | cleaned
    · have plain : "email".toList.all (!isDecimal ·) = true := by decide
      simpa using List.all_eq_true.mp plain c (email ▸ member)
    · by_cases space : c = ' '
      · rw [space]
        decide
      · exact isDecimal_of_not_foreign kept c (mem_of_mem_cleaned (cleaned ▸ member) space)
  have clipped (run : List Char) (within : run ∈ runs token.toList)
      (word : foreign.matchesIn run = true) : IsClipped piece run := by
    rcases spelled with email | cleaned
    · have plain : ∀ run ∈ runs "email".toList, foreign.matchesIn run = false := by decide +kernel
      rw [plain run (email ▸ within)] at word
      cases word
    · obtain ⟨before, after, whole, marks⟩ := exists_of_mem_runs_cleaned (cleaned ▸ within)
      refine ⟨before, after, whole, fun none => ?_, marks⟩
      obtain ⟨rfl, rfl⟩ := List.append_eq_nil_iff.mp none
      -- The run itself would have stood in the piece, which was looked through for such words.
      rw [List.nil_append, List.append_nil] at whole
      have before := (matchesIn_foreign_iff (isDecimal_of_not_foreign kept)).mpr ⟨run, whole, word⟩
      rw [kept] at before
      cases before
  have same : foreign.matchesIn token.toList = true ↔
      ∃ run ∈ runs token.toList, foreign.matchesIn run = true ∧ IsClipped piece run := by
    rw [matchesIn_foreign_iff wordy]
    exact exists_congr fun run => and_congr_right fun within =>
      ⟨fun word => ⟨word, clipped run within word⟩, And.left⟩
  refine ⟨wordy, piece, cut, found, fun plain => ?_, same⟩
  rw [Bool.eq_false_iff]
  intro word
  obtain ⟨run, -, -, around⟩ := same.mp word
  obtain ⟨c, member, inside, mark⟩ := around.exists_mark
  rw [plain c member inside] at mark
  cases mark

/-- The word `submit` is no field, and yet a token where it stands between low lines. -/
theorem submit_mem_ofList :
    "submit" ∈ ofList "name, _submit_".toList ∧ foreign.matchesIn "submit".toList = true := by
  decide +kernel

/-- The token `submit` holds a word that is no field, since it was clipped from one between low
lines. -/
theorem ofList_foreign_iff_clipped_submit :
    "submit" ∈ ofList "name, _submit_".toList ∧ foreign.matchesIn "submit".toList = true ∧
      ∃ piece ∈ separator.split (beforeQuote "name, _submit_".toList),
        ∃ run ∈ runs "submit".toList, foreign.matchesIn run = true ∧ IsClipped piece run := by
  obtain ⟨listed, word⟩ := submit_mem_ofList
  obtain ⟨-, piece, cut, -, -, same⟩ := ofList_foreign_iff_clipped listed
  exact ⟨listed, word, piece, cut, same.mp word⟩

/-- Not all tokens of lists are free of words that are no fields. -/
theorem not_forall_ofList_not_foreign :
    ¬∀ (list : List Char) (token : String), token ∈ ofList list →
      foreign.matchesIn token.toList = false := by
  intro free
  obtain ⟨listed, word⟩ := submit_mem_ofList
  rw [free _ _ listed] at word
  cases word

end Formwright.Token
