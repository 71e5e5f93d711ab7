import Formwright.Text.CaseRun
import Formwright.Text.Letter

/-!
# Lower case and upper case

The full case mappings of texts, with the two spellings of the small sigma.
-/
namespace Formwright.Text

/-- The lower-case form of a character that stands alone. -/
def lowerChar (c : Char) : List Char :=
  if c.toNat < 0x80 then [c.toLower]
  else if c == 'İ' then ['i', '\u0307']
  else [Char.ofNat (lowerPages.apply c.toNat)]

/-- The upper-case form of a character. -/
def upperChar (c : Char) : List Char :=
  if c.toNat < 0x80 then [c.toUpper]
  else match upperSpecial.lookup c.toNat with
    | some codes => codes.map Char.ofNat
    | none => [Char.ofNat (upperPages.apply c.toNat)]

/-- Whether the first character that case analysis does not skip is a cased one. -/
def meetsCased (text : List Char) : Bool :=
  match text.dropWhile fun c => inRanges ignorableRanges c.toNat with
  | [] => false
  | c :: _ => inRanges casedRanges c.toNat

/-- The lower-case form of a text whose reversed left context is given: a capital sigma after a
cased character and before none is written in its final form. -/
def lowerAfter : List Char → List Char → List Char
  | _, [] => []
  | before, c :: rest =>
    let lowered :=
      if c == 'Σ' then [if meetsCased before && !meetsCased rest then 'ς' else 'σ']
      else lowerChar c
    lowered ++ lowerAfter (c :: before) rest

/-- The lower-case form of a text. -/
def lower (text : List Char) : List Char := lowerAfter [] text

/-- A text with its first character in upper case. -/
def capitalize : List Char → List Char
  | [] => []
  | first :: rest => upperChar first ++ rest

/-- An ASCII letter in upper case at the front of a text; any other first character stays. -/
def capitalizeAscii : List Char → List Char
  | [] => []
  | first :: rest => first.toUpper :: rest

end Formwright.Text
