/-!
# Closed vocabularies

An enumeration whose members are written as words: the words are listed once, in the order in
which the members are declared, and reading a word is looking it up.
-/
namespace Formwright

/-- A type whose members are written as words of a fixed list. -/
class Vocabulary (α : Type) where
  /-- The members, in their order. -/
  members : List α
  /-- How a member is written. -/
  word : α → String

namespace Vocabulary

variable {α : Type} [Vocabulary α]

/-- The words of a vocabulary, in its order. -/
def words (α : Type) [Vocabulary α] : List String := (members (α := α)).map word

/-- The member that a word stands for. -/
def ofWord? (text : String) : Option α := members.find? fun member => word member = text

end Vocabulary
end Formwright
