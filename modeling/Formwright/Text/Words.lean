import Formwright.Text.Letter

/-!
# Pieces and words of a text

Texts are cut at the characters that a predicate separates by, and trimmed of the characters that
it names at either end.
-/
namespace Formwright.Text

/-- The pieces between the separators of a text, in order: one more than there are separators. -/
def pieces (separates : Char → Bool) : List Char → List (List Char)
  | [] => [[]]
  | c :: rest =>
    if separates c then [] :: pieces separates rest
    else match pieces separates rest with
      | [] => [[c]]
      | piece :: later => (c :: piece) :: later

/-- The non-empty pieces between the separators of a text. -/
def wordsBy (separates : Char → Bool) (text : List Char) : List (List Char) :=
  (pieces separates text).filter (!·.isEmpty)

/-- The words of a text: its maximal runs without white space. -/
def words (text : List Char) : List (List Char) := wordsBy isBlank text

/-- Words with single spaces between them. -/
def joinWords (words : List (List Char)) : List Char := [' '].intercalate words

/-- A text without the characters at its two ends that a predicate names. -/
def trimBy (drops : Char → Bool) (text : List Char) : List Char :=
  ((text.dropWhile drops).reverse.dropWhile drops).reverse

/-- A text without the white space at its two ends. -/
def trim (text : List Char) : List Char := trimBy isBlank text

/-- Whether some characters stand next to each other, in order, somewhere in a text. -/
def occursIn (needle : List Char) : List Char → Bool
  | [] => needle.isEmpty
  | c :: rest => needle.isPrefixOf (c :: rest) || occursIn needle rest

end Formwright.Text
