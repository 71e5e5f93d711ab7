/-!
# Lines of generated code

Code is a list of lines, of which some open a construct and some close one. The depth of a line is
the number of constructs open around it, and its indentation is two spaces for each of them.
-/
namespace Formwright.Code

/-- A line of code. -/
inductive Line where
  /-- An empty line. -/
  | blank
  /-- A line that neither opens nor closes anything. -/
  | plain (text : String)
  /-- A line that opens a construct. -/
  | opening (text : String)
  /-- A line that closes the innermost open construct. -/
  | closing (text : String)
deriving DecidableEq, Repr

namespace Line

/-- A text at a depth, with the end of its line. -/
def indented (depth : Nat) (text : String) : String :=
  String.ofList (List.replicate (2 * depth) ' ') ++ text ++ "\n"

/-- The text of lines that start at a depth. -/
def renderAt : Nat → List Line → String
  | _, [] => ""
  | depth, .blank :: rest => "\n" ++ renderAt depth rest
  | depth, .plain text :: rest => indented depth text ++ renderAt depth rest
  | depth, .opening text :: rest => indented depth text ++ renderAt (depth + 1) rest
  | depth, .closing text :: rest => indented (depth - 1) text ++ renderAt (depth - 1) rest

/-- The text of some lines. -/
def render (lines : List Line) : String := renderAt 0 lines

/-- Lines inside a construct. -/
def block (first : String) (body : List Line) (last : String) : List Line :=
  [.opening first] ++ body ++ [.closing last]

end Line
end Formwright.Code
