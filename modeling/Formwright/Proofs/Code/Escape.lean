import Formwright.Code.Escape
import Formwright.Json.Parser
import Formwright.Proofs.Json.Quoted
import Formwright.Proofs.Text.Run
import Mathlib.Logic.Function.Basic

/-!
# Escaped texts are read back

Whatever text stands in an attribute value, in a text child or in a string literal, reading it gives
the text back and stops at the end of the construct that it stands in. So no two texts are escaped
alike, and no text can end its own construct.
-/
namespace Formwright.Code

/-! ## Attribute values -/

/-- What an attribute value stands for: from left to right, either of the two entities stands for
its character, and any other character for itself. -/
def decodeEntities : List Char → List Char
  | [] => []
  | '&' :: 'a' :: 'm' :: 'p' :: ';' :: rest => '&' :: decodeEntities rest
  | '&' :: 'q' :: 'u' :: 'o' :: 't' :: ';' :: rest => '"' :: decodeEntities rest
  | c :: rest => c :: decodeEntities rest

/-- The text of an attribute value up to its closing quote, and what follows the quote. -/
def readAttribute (chars : List Char) : String × List Char :=
  (String.ofList (decodeEntities (chars.takeWhile (· != '"'))), (chars.dropWhile (· != '"')).drop 1)

/-- A character stands in an attribute value as its entity, or as itself where that is neither a
quote nor an ampersand. -/
theorem attributeChar_cases (c : Char) :
    c = '&' ∧ attributeChar c = "&amp;".toList ∨ c = '"' ∧ attributeChar c = "&quot;".toList ∨
      c ≠ '&' ∧ c ≠ '"' ∧ attributeChar c = [c] := by
  by_cases ampersand : c = '&'
  · exact .inl ⟨ampersand, by simp [attributeChar, ampersand]⟩
  · by_cases quote : c = '"'
    · exact .inr (.inl ⟨quote, by simp [attributeChar, quote]⟩)
    · exact .inr (.inr ⟨ampersand, quote, by simp [attributeChar, ampersand, quote]⟩)

/-- A character is decoded from what it stands as. -/
theorem decodeEntities_attributeChar (c : Char) (rest : List Char) :
    decodeEntities (attributeChar c ++ rest) = c :: decodeEntities rest := by
  rcases attributeChar_cases c with ⟨rfl, written⟩ | ⟨rfl, written⟩ | ⟨ampersand, -, written⟩
  · rfl
  · rfl
  · simp [written, decodeEntities, ampersand]

/-- A text is decoded from what it stands as. -/
theorem decodeEntities_attributeText (text : String) :
    decodeEntities (attributeText text).toList = text.toList := by
  rw [attributeText, String.toList_ofList]
  induction text.toList with
  | nil => rfl
  | cons c later ih => rw [List.flatMap_cons, decodeEntities_attributeChar, ih]

/-- There is no quote in an attribute value. -/
theorem quote_notMem_attributeText (text : String) : '"' ∉ (attributeText text).toList := by
  rw [attributeText, String.toList_ofList, List.mem_flatMap]
  rintro ⟨c, -, member⟩
  rcases attributeChar_cases c with ⟨-, written⟩ | ⟨-, written⟩ | ⟨-, quote, written⟩
  · simp [written] at member
  · simp [written] at member
  · exact quote (List.mem_singleton.mp (written ▸ member)).symm

/-- Every ampersand in an attribute value starts one of the two entities. -/
theorem entity_of_ampersand (text : List Char) {rest : List Char}
    (held : '&' :: rest <:+ text.flatMap attributeChar) :
    "amp;".toList <+: rest ∨ "quot;".toList <+: rest := by
  induction text with
  | nil => simp at held
  | cons c later ih =>
    rw [List.flatMap_cons] at held
    rcases attributeChar_cases c with ⟨-, written⟩ | ⟨-, written⟩ | ⟨ampersand, -, written⟩
    · simp only [written, String.reduceToList, List.cons_append, List.nil_append,
        List.suffix_cons_iff, List.cons.injEq, Char.reduceEq, true_and, false_and,
        false_or] at held
      rcases held with rfl | held
      · exact .inl (List.prefix_append "amp;".toList _)
      · exact ih held
    · simp only [written, String.reduceToList, List.cons_append, List.nil_append,
        List.suffix_cons_iff, List.cons.injEq, Char.reduceEq, true_and, false_and,
        false_or] at held
      rcases held with rfl | held
      · exact .inr (List.prefix_append "quot;".toList _)
      · exact ih held
    · simp only [written, List.singleton_append, List.suffix_cons_iff, List.cons.injEq,
        Ne.symm ampersand, false_and, false_or] at held
      exact ih held

/-- An attribute value is read back, up to its closing quote. -/
theorem readAttribute_attributeText (text : String) (rest : List Char) :
    readAttribute ((attributeText text).toList ++ '"' :: rest) = (text, rest) := by
  have inside : ∀ c ∈ (attributeText text).toList, (c != '"') = true := fun c member =>
    bne_iff_ne.mpr fun quote => quote_notMem_attributeText text (quote ▸ member)
  rw [readAttribute, List.takeWhile_append_of_pos inside, List.dropWhile_append_of_pos inside]
  simp [decodeEntities_attributeText]

/-- A text as it stands in an attribute value. -/
structure IsAttributeValue (value text : String) : Prop where
  /-- The entities are decoded in one pass. -/
  decoded : decodeEntities value.toList = text.toList
  quoteless : '"' ∉ value.toList
  entities : ∀ rest, '&' :: rest <:+ value.toList →
    "amp;".toList <+: rest ∨ "quot;".toList <+: rest
  /-- The value goes on to the quote that follows it. -/
  ends : ∀ rest, readAttribute (value.toList ++ '"' :: rest) = (text, rest)

/-- A text stands in an attribute value as itself. -/
theorem isAttributeValue_attributeText (text : String) :
    IsAttributeValue (attributeText text) text where
  decoded := decodeEntities_attributeText text
  quoteless := quote_notMem_attributeText text
  entities rest held := by
    rw [attributeText, String.toList_ofList] at held
    exact entity_of_ampersand text.toList held
  ends := readAttribute_attributeText text

/-! ## String literals -/

/-- Whether no quote stands free between the quotes of a literal: a reverse solidus hides the
character after it, and there is one. -/
def hidesQuotes : List Char → Bool
  | [] => true
  | ['\\'] => false
  | '\\' :: _ :: rest => hidesQuotes rest
  | c :: rest => c != '"' && hidesQuotes rest

/-- A character that is neither a quote nor a reverse solidus hides nothing. -/
theorem hidesQuotes_cons {c : Char} (quote : c ≠ '"') (solidus : c ≠ '\\') (rest : List Char) :
    hidesQuotes (c :: rest) = hidesQuotes rest := by
  simp [hidesQuotes, quote, solidus]

/-- A hexadecimal digit is neither a control character nor a quote nor a reverse solidus. -/
theorem hexDigit_plain : ∀ digit : Fin 16, 0x20 ≤ (Json.hexDigit digit.val).toNat ∧
    Json.hexDigit digit.val ≠ '"' ∧ Json.hexDigit digit.val ≠ '\\' := by
  decide

/-- A character between quotes is written without control characters, and a quote among what it is
written as does not stand free. -/
theorem quoteChar_closed (c : Char) :
    (∀ d ∈ Json.quoteChar c, 0x20 ≤ d.toNat) ∧
      ∀ rest, hidesQuotes (Json.quoteChar c ++ rest) = hidesQuotes rest := by
  have shown {text : List Char} (all : text.all (fun d => decide (0x20 ≤ d.toNat)) = true) :
      ∀ d ∈ text, 0x20 ≤ d.toNat := by
    simpa using all
  by_cases named : c ∈ Json.namedEscapes
  · simp only [Json.namedEscapes, List.mem_cons, List.not_mem_nil, or_false] at named
    rcases named with rfl | rfl | rfl | rfl | rfl | rfl | rfl <;>
      exact ⟨shown rfl, fun rest => by cases rest <;> rfl⟩
  · simp only [Json.namedEscapes, List.mem_cons, List.not_mem_nil, or_false, not_or] at named
    by_cases control : c.toNat < 0x20
    · obtain ⟨highShown, highQuote, highSolidus⟩ := hexDigit_plain ⟨c.toNat / 16, by omega⟩
      obtain ⟨lowShown, lowQuote, lowSolidus⟩ := hexDigit_plain ⟨c.toNat % 16, by omega⟩
      have written : Json.quoteChar c = "\\u00".toList ++
          [Json.hexDigit (c.toNat / 16), Json.hexDigit (c.toNat % 16)] := by
        simp [Json.quoteChar, named, control]
      refine ⟨?_, fun rest => ?_⟩
      · rw [written, List.forall_mem_append]
        exact ⟨shown rfl, by simp [highShown, lowShown]⟩
      · simp only [written, String.reduceToList, List.cons_append, List.nil_append]
        rw [hidesQuotes, hidesQuotes_cons (by decide) (by decide),
          hidesQuotes_cons (by decide) (by decide), hidesQuotes_cons highQuote highSolidus,
          hidesQuotes_cons lowQuote lowSolidus]
    · have written : Json.quoteChar c = [c] := by simp [Json.quoteChar, named, control]
      refine ⟨?_, fun rest => ?_⟩
      · simpa [written] using control
      · rw [written, List.singleton_append, hidesQuotes_cons named.1 named.2.1]

/-- Between quotes no quote stands free. -/
theorem hidesQuotes_quoted (text : List Char) :
    hidesQuotes (text.flatMap Json.quoteChar) = true := by
  induction text with
  | nil => rfl
  | cons c later ih => rw [List.flatMap_cons, (quoteChar_closed c).2, ih]

/-- A string literal holds no control characters. -/
theorem le_toNat_of_mem_stringLiteral {text : String} {c : Char}
    (member : c ∈ (stringLiteral text).toList) : 0x20 ≤ c.toNat := by
  rw [stringLiteral, Json.quote, String.toList_ofList, Json.quoteChars] at member
  rcases List.mem_append.mp member with inside | last
  · rcases List.mem_cons.mp inside with rfl | inside
    · decide
    · obtain ⟨d, -, written⟩ := List.mem_flatMap.mp inside
      exact (quoteChar_closed d).1 c written
  · obtain rfl := List.mem_singleton.mp last
    decide

/-- A string literal of a text. -/
structure IsLiteral (literal text : String) : Prop where
  /-- The literal is JSON text. -/
  parsed : Json.parse literal = .ok (.string text)
  /-- Whatever follows it, reading the literal ends at its last character. -/
  ends : ∀ depth rest, Json.value depth (literal.toList ++ rest) = .ok (.string text, rest)
  printable : ∀ c ∈ literal.toList, 0x20 ≤ c.toNat
  /-- The quotes at its two ends are the only ones that stand free. -/
  closed : ∃ inner, literal.toList = '"' :: (inner ++ ['"']) ∧ hidesQuotes inner = true

/-- A string literal is read as a value, up to its last character. -/
theorem value_stringLiteral (text : String) (depth : Nat) (rest : List Char) :
    Json.value depth ((stringLiteral text).toList ++ rest) = .ok (.string text, rest) := by
  have scalar : Json.scalar '"' (text.toList.flatMap Json.quoteChar ++ '"' :: rest) =
      .ok (.string text, rest) := by
    simp [Json.scalar, Json.stringBody_quoted, bind, Except.bind]
  rw [stringLiteral, Json.quote, String.toList_ofList, Json.quoteChars, List.append_assoc,
    List.cons_append, List.singleton_append]
  simpa [Json.value, Json.skipGap, Json.isGap] using scalar

/-- A text is written as a string literal of itself. -/
theorem isLiteral_stringLiteral (text : String) : IsLiteral (stringLiteral text) text where
  parsed := by
    have read := value_stringLiteral text Json.maxDepth []
    rw [List.append_nil] at read
    simp [Json.parse, Json.wholeText, read, Json.skipGap, bind, Except.bind]
  ends := value_stringLiteral text
  printable _ := le_toNat_of_mem_stringLiteral
  closed := ⟨text.toList.flatMap Json.quoteChar,
    by simp [stringLiteral, Json.quote, Json.quoteChars], hidesQuotes_quoted text.toList⟩

/-! ## Text children -/

/-- The text of a text child up to the tag after it, and the text from there: a string literal in
braces, or what stands before the tag. -/
def readChild? : List Char → Option (String × List Char)
  | '\x7b' :: '"' :: rest =>
    match Json.stringBody rest with
    | .ok (text, '\x7d' :: after) => some (text, after)
    | _ => none
  | chars => some (String.ofList (chars.takeWhile (· != '<')), chars.dropWhile (· != '<'))

/-- A text as it stands in a text child. -/
structure IsTextChild (child text : String) : Prop where
  /-- A child that starts with a brace is a string literal in braces. -/
  braced : child.toList.head? = some '\x7b' →
    ∃ literal, IsLiteral literal text ∧ child = "\x7b" ++ literal ++ "\x7d"
  /-- Any other child is the text itself, without anything that markup would interpret. -/
  plain : child.toList.head? ≠ some '\x7b' → child = text ∧
    (∀ c ∈ child.toList, c ∉ ['\x7b', '\x7d', '<', '>', '&', '\n', '\r']) ∧
    (∀ c ∈ child.toList.head?, Text.isBlank c = false) ∧
    ∀ c ∈ child.toList.getLast?, Text.isBlank c = false
  /-- The child goes on to the tag that follows it. -/
  ends : ∀ rest, readChild? (child.toList ++ '<' :: rest) = some (text, '<' :: rest)

/-- A text stands in a text child as a string literal in braces, or as itself where it has nothing
that markup would interpret. -/
theorem textChild_cases (text : String) :
    textChild text = "\x7b" ++ stringLiteral text ++ "\x7d" ∨
      textChild text = text ∧ (∀ c ∈ text.toList, isMarkup c = false) ∧
        Text.trim text.toList = text.toList := by
  unfold textChild
  split
  · exact .inl rfl
  · next plain =>
    simp only [Bool.or_eq_true, List.any_eq_true, bne_iff_ne, not_or, not_exists, not_and,
      Bool.not_eq_true, ne_eq, Decidable.not_not] at plain
    exact .inr ⟨rfl, plain.1, plain.2⟩

/-- A text that is not put in braces does not start with one. -/
theorem head?_ne_brace {chars : List Char} (clear : ∀ c ∈ chars, isMarkup c = false) :
    chars.head? ≠ some '\x7b' := fun brace =>
  absurd (clear _ (List.mem_of_mem_head? brace)) (by decide)

/-- A text child is read back, up to the tag that follows it. -/
theorem readChild?_textChild (text : String) (rest : List Char) :
    readChild? ((textChild text).toList ++ '<' :: rest) = some (text, '<' :: rest) := by
  rcases textChild_cases text with braced | ⟨plain, clear, -⟩
  · have spelled : (textChild text).toList ++ '<' :: rest =
        '\x7b' :: '"' :: (text.toList.flatMap Json.quoteChar ++ '"' :: '\x7d' :: '<' :: rest) := by
      simp [braced, stringLiteral, Json.quote, Json.quoteChars]
    rw [spelled, readChild?, Json.stringBody_quoted]
    rfl
  · have inside : ∀ c ∈ text.toList, (c != '<') = true := fun c member =>
      bne_iff_ne.mpr fun angle => absurd (clear c member) (by rw [angle]; decide)
    have start : (text.toList ++ '<' :: rest).head? ≠ some '\x7b' := by
      cases spelled : text.toList with
      | nil => simp
      | cons c later =>
        have other := head?_ne_brace clear
        rwa [spelled] at other
    rw [plain, readChild?]
    · simp [List.takeWhile_append_of_pos inside, List.dropWhile_append_of_pos inside]
    · intro more same
      rw [same] at start
      exact start rfl

/-- A text stands in a text child as itself. -/
theorem isTextChild_textChild (text : String) : IsTextChild (textChild text) text where
  braced brace := by
    rcases textChild_cases text with braced | ⟨plain, clear, -⟩
    · exact ⟨stringLiteral text, isLiteral_stringLiteral text, braced⟩
    · exact absurd (plain ▸ brace) (head?_ne_brace clear)
  plain other := by
    rcases textChild_cases text with braced | ⟨plain, clear, trimmed⟩
    · exact absurd (by simp [braced]) other
    · have ends := Text.ends_of_trimBy Text.isBlank text.toList
      rw [← Text.trim, trimmed] at ends
      obtain ⟨start, finish⟩ := ends
      rw [plain]
      refine ⟨rfl, fun c member interpreted => ?_, start, finish⟩
      exact absurd (clear c member) (by simp [isMarkup, interpreted])
  ends := readChild?_textChild text

/-! ## All three places -/

/-- Different texts have different string literals. -/
theorem stringLiteral_injective : Function.Injective stringLiteral := by
  intro left right same
  have read := value_stringLiteral left 0 []
  rw [same, value_stringLiteral] at read
  exact (Json.string.inj (Prod.mk.inj (Except.ok.inj read)).1).symm

/-- Every text stands in a string literal, in an attribute value and in a text child as itself, and
in none of them two texts stand alike. -/
theorem escapes_lossless :
    (∀ text, IsLiteral (stringLiteral text) text ∧ IsAttributeValue (attributeText text) text ∧
      IsTextChild (textChild text) text) ∧
    Function.Injective stringLiteral ∧ Function.Injective attributeText ∧
      Function.Injective textChild := by
  refine ⟨fun text => ⟨isLiteral_stringLiteral text, isAttributeValue_attributeText text,
    isTextChild_textChild text⟩, stringLiteral_injective, fun left right same => ?_,
    fun left right same => ?_⟩
  · have read := readAttribute_attributeText left []
    rw [same, readAttribute_attributeText] at read
    exact (Prod.mk.inj read).1.symm
  · have read := readChild?_textChild left []
    rw [same, readChild?_textChild] at read
    exact (Prod.mk.inj (Option.some.inj read)).1.symm

end Formwright.Code
