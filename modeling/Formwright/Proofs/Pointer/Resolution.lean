import Formwright.Pointer
import Formwright.Proofs.Json.Lookup
import Formwright.Proofs.Text.Words

/-!
# What pointers name

A pointer is read back as the steps that it was made of, and the steps lead from a document down to
the value that the pointer names: a step into an object is a key of it, and a step into a list is
an index in decimal digits. A pointer with one more step than one that names an object or a list
names what stands there under that key or at that index.
-/
namespace Formwright.Pointer
open Text

/-! ## Steps -/

/-- The key that a token of a pointer spells; in a sound token every tilde begins an escape. -/
def unescape? : List Char → Option (List Char)
  | [] => some []
  | '~' :: '0' :: rest => (unescape? rest).map ('~' :: ·)
  | '~' :: '1' :: rest => (unescape? rest).map ('/' :: ·)
  | '~' :: _ => none
  | c :: rest => (unescape? rest).map (c :: ·)

/-- The step that a token of a pointer spells. -/
def step? (token : List Char) : Option String := (unescape? token).map String.ofList

/-- The steps of a pointer, if the text is one: the empty pointer has none, and in any other each
step stands after a slash. -/
def steps? (pointer : String) : Option (List String) :=
  match pieces (· == '/') pointer.toList with
  | [] :: tokens => tokens.mapM step?
  | _ => none

/-- A character other than a tilde spells itself. -/
theorem unescape?_cons {c : Char} (plain : c ≠ '~') (rest : List Char) :
    unescape? (c :: rest) = (unescape? rest).map (c :: ·) := by
  rw [unescape?] <;> simp [plain]

/-- A key in escaped form is read back. -/
theorem unescape?_escape (key : List Char) : unescape? (key.flatMap escapeChar) = some key := by
  induction key with
  | nil => rfl
  | cons c later ih =>
    rw [List.flatMap_cons]
    by_cases tilde : c = '~'
    · subst tilde
      simp [escapeChar, unescape?, ih]
    · by_cases slash : c = '/'
      · subst slash
        simp [escapeChar, unescape?, ih]
      · have plain : escapeChar c = [c] := by simp [escapeChar, tilde, slash]
        rw [plain, List.singleton_append, unescape?_cons tilde, ih, Option.map_some]

/-- There is no slash in a key in escaped form. -/
theorem not_slash_of_mem_escape {key : List Char} :
    ∀ c ∈ key.flatMap escapeChar, (c == '/') = false := by
  intro c member
  obtain ⟨held, _, inside⟩ := List.mem_flatMap.mp member
  by_cases tilde : held = '~'
  · subst tilde
    exact (by simp [escapeChar] : ∀ d ∈ escapeChar '~', (d == '/') = false) c inside
  · by_cases slash : held = '/'
    · subst slash
      exact (by simp [escapeChar] : ∀ d ∈ escapeChar '/', (d == '/') = false) c inside
    · obtain rfl : c = held := by simpa [escapeChar, tilde, slash] using inside
      simpa using slash

/-- One token more at the end of a pointer is one piece more. -/
theorem pieces_append_token {token : List Char} (whole : ∀ c ∈ token, (c == '/') = false)
    (base : String) :
    pieces (· == '/') (base ++ "/" ++ String.ofList token).toList =
      pieces (· == '/') base.toList ++ [token] := by
  rw [← pieces_eq_singleton whole]
  simpa using pieces_append_cons rfl base.toList token

/-- One token more at the end of a pointer is one step more. -/
theorem steps?_append {base : String} {steps : List String} {token : List Char} {step : String}
    (whole : ∀ c ∈ token, (c == '/') = false) (spelled : step? token = some step)
    (made : steps? base = some steps) :
    steps? (base ++ "/" ++ String.ofList token) = some (steps ++ [step]) := by
  unfold steps? at made ⊢
  rw [pieces_append_token whole]
  split at made
  · rename_i tokens found
    rw [found, List.cons_append]
    simp [made, spelled]
  · contradiction

/-- A pointer to what stands under a key has the key as its last step. -/
theorem steps?_push {base : String} {steps : List String} (made : steps? base = some steps)
    (key : String) : steps? (push base key) = some (steps ++ [key]) :=
  steps?_append not_slash_of_mem_escape (by simp [step?, unescape?_escape]) made

/-- A key without tildes and slashes stands in a pointer as it is. -/
theorem escape_eq_self {key : String} (plain : ∀ c ∈ key.toList, c ≠ '~' ∧ c ≠ '/') :
    escape key = key := by
  have alone : ∀ c ∈ key.toList, escapeChar c = [c] := by
    intro c member
    obtain ⟨tilde, slash⟩ := plain c member
    simp [escapeChar, tilde, slash]
  rw [escape, List.flatMap_def, List.map_congr_left alone, ← List.flatMap_def,
    List.flatMap_singleton', String.ofList_toList]

/-- The index of an item stands in a pointer like a key that is spelled in its digits. -/
theorem index_eq_push (base : String) (place : Nat) :
    index base place = push base (toString place) := by
  rw [push, escape_eq_self, index]
  intro c written
  have digit := isDigit_of_mem_toString written
  constructor <;> rintro rfl <;> exact absurd digit (by decide)

/-- A pointer to an item of a list has the digits of its index as its last step. -/
theorem steps?_index {base : String} {steps : List String} (made : steps? base = some steps)
    (place : Nat) : steps? (index base place) = some (steps ++ [toString place]) := by
  rw [index_eq_push]
  exact steps?_push made _

/-! ## Values -/

/-- The index that a step spells in decimal digits, without a zero before others. -/
def place? (step : String) : Option Nat :=
  let place := Nat.ofDigitChars 10 step.toList 0
  if toString place = step then some place else none

/-- The digits of an index spell the index. -/
theorem place?_toString (place : Nat) : place? (toString place) = some place := by
  have spelled : Nat.ofDigitChars 10 (toString place).toList 0 = place := by
    rw [Nat.toString_eq_repr, Nat.repr, String.toList_ofList]
    exact Nat.ofDigitChars_toDigits (by decide) (by decide)
  simp only [place?, spelled, ↓reduceIte]

end Formwright.Pointer

namespace Formwright.Json
open Pointer

/-- What a step leads to from a value. -/
def child? : Json → String → Option Json
  | .object members, step => members.lookup step
  | .array items, step => (place? step).bind fun place => items[place]?
  | _, _ => none

/-- What some steps lead to from a value. -/
def follow? (value : Json) (steps : List String) : Option Json := steps.foldlM child? value

/-- What a pointer names in a document. -/
def at? (document : Json) (pointer : String) : Option Json := (steps? pointer).bind document.follow?

variable {document : Json} {base : String}

/-- The empty pointer names the document. -/
theorem at?_root : document.at? "" = some document := rfl

/-- A pointer with one step more names the child, at that step, of what it named before. -/
theorem at?_of_steps {pointer step : String} {value : Json}
    (named : document.at? base = some value)
    (made : ∀ steps, steps? base = some steps → steps? pointer = some (steps ++ [step])) :
    document.at? pointer = value.child? step := by
  obtain ⟨steps, found, led⟩ := Option.bind_eq_some_iff.mp named
  rw [at?, made steps found, Option.bind_some, follow?, List.foldlM_append]
  simp only [follow?] at led
  simp [led]

/-- A pointer to an object, with a key added, names what stands under the key. -/
theorem at?_push {members : Members} (named : document.at? base = some (.object members))
    (key : String) : document.at? (push base key) = members.lookup key :=
  at?_of_steps named fun _ made => steps?_push made key

/-- A pointer to a list, with an index added, names what stands at the index. -/
theorem at?_index {items : List Json} (named : document.at? base = some (.array items))
    (place : Nat) : document.at? (index base place) = items[place]? := by
  rw [at?_of_steps named fun _ made => steps?_index made place, child?, place?_toString,
    Option.bind_some]

end Formwright.Json
