import Formwright.Proofs.Pointer.Resolution
import Formwright.Proofs.Text.Joining

/-!
# Pointers and their segments

A pointer is built step by step, and each step adds one segment: a key, or an index in decimal
digits. Cutting the pointer at its slashes and undoing the escapes in each piece gives the segments
back, whatever the keys hold (`segments_read_back`), and no other text is a pointer
(`steps?_eq_some_iff`). Escapes are made and undone by replacing texts, one after the other: first
the tilde is written `~0` and then the slash `~1`, and first `~1` is read as a slash and then `~0`
as a tilde. In the other order a tilde that was read would start an escape.
-/
namespace Formwright

namespace Text

/-! ## Replacements -/

/-- A text with a replacement for the occurrences of some characters, which are sought from left to
right, where the next `skip` characters belong to an occurrence that is replaced already. -/
def replaceAfter (needle replacement : List Char) : (skip : Nat) → List Char → List Char
  | _, [] => []
  | skip + 1, _ :: rest => replaceAfter needle replacement skip rest
  | 0, c :: rest =>
    if needle.isPrefixOf (c :: rest) then
      replacement ++ replaceAfter needle replacement (needle.length - 1) rest
    else c :: replaceAfter needle replacement 0 rest

/-- A text with a replacement for all occurrences of some characters. -/
def replace (needle replacement text : List Char) : List Char :=
  replaceAfter needle replacement 0 text

variable {needle replacement : List Char}

/-- What belongs to an occurrence is passed over. -/
theorem replaceAfter_append (skipped rest : List Char) :
    replaceAfter needle replacement skipped.length (skipped ++ rest) =
      replace needle replacement rest := by
  induction skipped with
  | nil => rfl
  | cons c later ih => rw [List.length_cons, List.cons_append, replaceAfter, ih]

/-- An occurrence at the start of a text is replaced. -/
theorem replace_append (c : Char) (later rest : List Char) :
    replace (c :: later) replacement (c :: later ++ rest) =
      replacement ++ replace (c :: later) replacement rest := by
  have starts : (c :: later).isPrefixOf (c :: (later ++ rest)) = true := by
    rw [List.isPrefixOf_iff_prefix]
    exact List.prefix_append (c :: later) rest
  rw [List.cons_append, replace, replaceAfter, if_pos starts]
  exact congrArg (replacement ++ ·) (replaceAfter_append later rest)

/-- A character with which no occurrence starts is kept. -/
theorem replace_cons {c : Char} {rest : List Char} (other : ¬needle <+: c :: rest) :
    replace needle replacement (c :: rest) = c :: replace needle replacement rest := by
  rw [← List.isPrefixOf_iff_prefix] at other
  rw [replace, replaceAfter, if_neg other]
  rfl

end Text

namespace Pointer
open Text

/-! ## Escapes -/

/-- To escape a key is to write its tildes and then its slashes as two characters. -/
theorem flatMap_escapeChar_eq_replace (key : List Char) :
    key.flatMap escapeChar = replace ['/'] ['~', '1'] (replace ['~'] ['~', '0'] key) := by
  induction key with
  | nil => rfl
  | cons c later ih =>
    rw [List.flatMap_cons, ih]
    by_cases tilde : c = '~'
    · subst tilde
      have wrote : replace ['~'] ['~', '0'] ('~' :: later) =
          '~' :: '0' :: replace ['~'] ['~', '0'] later :=
        replace_append '~' [] later
      rw [wrote, replace_cons (by simp), replace_cons (by simp)]
      rfl
    · have kept : replace ['~'] ['~', '0'] (c :: later) = c :: replace ['~'] ['~', '0'] later :=
        replace_cons (by simpa using Ne.symm tilde)
      rw [kept]
      by_cases slash : c = '/'
      · subst slash
        exact (replace_append '/' [] _).symm
      · rw [replace_cons (by simpa using Ne.symm slash)]
        simp [escapeChar, tilde, slash]

/-- A token of a pointer with the escapes undone: first those of slashes, then those of tildes. -/
def unescape (token : List Char) : List Char :=
  replace ['~', '0'] ['~'] (replace ['~', '1'] ['/'] token)

/-- A character that starts no escape is read as itself. -/
theorem unescape_cons {c : Char} (plain : c ≠ '~') (rest : List Char) :
    unescape (c :: rest) = c :: unescape rest := by
  have free (digit : Char) (text : List Char) : ¬['~', digit] <+: c :: text := by
    simp [Ne.symm plain]
  rw [unescape, replace_cons (free '1' _), replace_cons (free '0' _), unescape]

/-- An escaped slash is read as a slash. -/
theorem unescape_slash (rest : List Char) :
    unescape ('~' :: '1' :: rest) = '/' :: unescape rest := by
  have read : replace ['~', '1'] ['/'] ('~' :: '1' :: rest) =
      '/' :: replace ['~', '1'] ['/'] rest :=
    replace_append '~' ['1'] rest
  rw [unescape, read, replace_cons (by simp), unescape]

/-- An escaped tilde is read as a tilde, and what follows it does not change that. -/
theorem unescape_tilde (rest : List Char) :
    unescape ('~' :: '0' :: rest) = '~' :: unescape rest := by
  have kept : replace ['~', '1'] ['/'] ('~' :: '0' :: rest) =
      '~' :: '0' :: replace ['~', '1'] ['/'] rest := by
    rw [replace_cons (by simp), replace_cons (by simp)]
  rw [unescape, kept]
  exact replace_append '~' ['0'] _

/-- Where every tilde begins an escape, to undo the escapes gives the key that is spelled. -/
theorem unescape_of_unescape? {token key : List Char} (spelled : unescape? token = some key) :
    unescape token = key := by
  fun_induction unescape? token generalizing key with
  | case1 =>
    obtain rfl := Option.some.inj spelled
    rfl
  | case2 rest ih =>
    obtain ⟨later, found, rfl⟩ := Option.map_eq_some_iff.mp spelled
    rw [unescape_tilde, ih found]
  | case3 rest ih =>
    obtain ⟨later, found, rfl⟩ := Option.map_eq_some_iff.mp spelled
    rw [unescape_slash, ih found]
  | case4 => cases spelled
  | case5 c rest _ _ plain ih =>
    obtain ⟨later, found, rfl⟩ := Option.map_eq_some_iff.mp spelled
    rw [unescape_cons plain, ih found]

/-- A key in escaped form is read back. -/
theorem unescape_flatMap_escapeChar (key : List Char) : unescape (key.flatMap escapeChar) = key :=
  unescape_of_unescape? (unescape?_escape key)

/-! ## Steps -/

/-- A step of a pointer. -/
inductive Step where
  /-- Into an object, to what stands under a key. -/
  | key (text : String)
  /-- Into a list, to the item at an index. -/
  | place (number : Nat)
deriving DecidableEq, Repr

/-- The segment that a step adds. -/
def Step.segment : Step → String
  | .key text => text
  | .place number => toString number

/-- A pointer with one step more. -/
def Step.extend (base : String) : Step → String
  | .key text => push base text
  | .place number => index base number

/-- A pointer with some steps more, one after the other. -/
def extend (base : String) (steps : List Step) : String := steps.foldl Step.extend base

/-- What stands before, between and after the slashes of a pointer, with the escapes undone. -/
def parts (pointer : String) : List String :=
  (pieces (· == '/') pointer.toList).map fun token => String.ofList (unescape token)

/-- A step adds its segment like a key. -/
theorem Step.extend_eq_push (base : String) (step : Step) :
    step.extend base = push base step.segment := by
  cases step with
  | key text => rfl
  | place number => exact index_eq_push base number

/-- Steps with the same segments lead to the same pointer. -/
theorem extend_eq_foldl_push (base : String) (steps : List Step) :
    extend base steps = (steps.map Step.segment).foldl push base := by
  rw [extend, List.foldl_map]
  congr 1
  funext base step
  exact Step.extend_eq_push base step

/-- One step more is one piece more: the segment of the step in escaped form. -/
theorem pieces_step (base : String) (step : Step) :
    pieces (· == '/') (step.extend base).toList =
      pieces (· == '/') base.toList ++ [step.segment.toList.flatMap escapeChar] := by
  rw [Step.extend_eq_push]
  exact pieces_append_token not_slash_of_mem_escape base

/-- The pieces that some steps add are their segments in escaped form. -/
theorem pieces_extend (base : String) (steps : List Step) :
    pieces (· == '/') (extend base steps).toList =
      pieces (· == '/') base.toList ++
        steps.map fun step => step.segment.toList.flatMap escapeChar := by
  induction steps generalizing base with
  | nil => simp [extend]
  | cons step later ih =>
    rw [extend, List.foldl_cons, ← extend, ih, pieces_step, List.append_assoc,
      List.singleton_append, List.map_cons]

/-- The parts that some steps add are their segments. -/
theorem parts_extend (base : String) (steps : List Step) :
    parts (extend base steps) = parts base ++ steps.map Step.segment := by
  have read : ∀ step ∈ steps, String.ofList (unescape (step.segment.toList.flatMap escapeChar)) =
      step.segment := by
    intro step _
    rw [unescape_flatMap_escapeChar, String.ofList_toList]
  rw [parts, pieces_extend, List.map_append, List.map_map, ← parts]
  exact congrArg (parts base ++ ·) (List.map_congr_left read)

/-- The segments of the steps that a pointer was built by are read back, after what it was built
on; in a pointer from the root this is the empty text before the first slash. So two pointers from
one place are the same exactly if their steps have the same segments. -/
theorem segments_read_back (base : String) (steps others : List Step) :
    parts (extend base steps) = parts base ++ steps.map Step.segment ∧
    parts (extend "" steps) = "" :: steps.map Step.segment ∧
    (extend base steps = extend base others ↔
      steps.map Step.segment = others.map Step.segment) := by
  refine ⟨parts_extend base steps, parts_extend "" steps, fun same => ?_, fun same => ?_⟩
  · have read := congrArg parts same
    rw [parts_extend, parts_extend] at read
    exact List.append_cancel_left read
  · rw [extend_eq_foldl_push, same, extend_eq_foldl_push]

/-- The order of the replacements matters where a key holds what looks like an escape. -/
example : escape "~1" = "~01" ∧ unescape "~01".toList = "~1".toList ∧
    replace ['~', '1'] ['/'] (replace ['~', '0'] ['~'] "~01".toList) = ['/'] := by
  decide

/-! ## Pointers in sound form -/

/-- In a token without slashes the key that it spells is written in the only way there is. -/
theorem flatMap_escapeChar_of_unescape? {token key : List Char}
    (whole : ∀ c ∈ token, (c == '/') = false) (spelled : unescape? token = some key) :
    key.flatMap escapeChar = token := by
  fun_induction unescape? token generalizing key with
  | case1 =>
    obtain rfl := Option.some.inj spelled
    rfl
  | case2 rest ih | case3 rest ih =>
    obtain ⟨later, found, rfl⟩ := Option.map_eq_some_iff.mp spelled
    rw [List.flatMap_cons, ih (fun d member => whole d (by simp [member])) found]
    rfl
  | case4 => cases spelled
  | case5 c rest _ _ plain ih =>
    obtain ⟨later, found, rfl⟩ := Option.map_eq_some_iff.mp spelled
    rw [List.forall_mem_cons, beq_eq_false_iff_ne] at whole
    have tilde : c ≠ '~' := plain
    rw [List.flatMap_cons, ih whole.2 found]
    simp [escapeChar, tilde, whole.1]

/-- Tokens without slashes are the escaped forms of the steps that they spell. -/
theorem eq_map_of_mapM_step? {tokens : List (List Char)} {steps : List String}
    (whole : ∀ token ∈ tokens, ∀ c ∈ token, (c == '/') = false)
    (spelled : tokens.mapM step? = some steps) :
    tokens = steps.map fun key => key.toList.flatMap escapeChar := by
  induction tokens generalizing steps with
  | nil =>
    obtain rfl := Option.some.inj spelled
    rfl
  | cons token later ih =>
    rw [List.forall_mem_cons] at whole
    rw [List.mapM_cons] at spelled
    obtain ⟨key, read, spelled⟩ := Option.bind_eq_some_iff.mp spelled
    obtain ⟨others, readLater, spelled⟩ := Option.bind_eq_some_iff.mp spelled
    obtain rfl := Option.some.inj spelled
    obtain ⟨text, found, rfl⟩ := Option.map_eq_some_iff.mp read
    rw [List.map_cons, ← ih whole.2 readLater, String.toList_ofList,
      flatMap_escapeChar_of_unescape? whole.1 found]

/-- The steps after which a pointer names a value are followed by those that are added to it. -/
theorem steps?_extend {base : String} {made : List String} (read : steps? base = some made)
    (steps : List Step) : steps? (extend base steps) = some (made ++ steps.map Step.segment) := by
  induction steps generalizing base made with
  | nil => simpa [extend] using read
  | cons step later ih =>
    have next : steps? (step.extend base) = some (made ++ [step.segment]) := by
      rw [Step.extend_eq_push]
      exact steps?_push read _
    rw [extend, List.foldl_cons, ← extend, ih next, List.append_assoc, List.singleton_append,
      List.map_cons]

/-- A text is a pointer with some steps exactly if it is built by them from the root. -/
theorem steps?_eq_some_iff {pointer : String} {steps : List String} :
    steps? pointer = some steps ↔ pointer = extend "" (steps.map .key) := by
  constructor
  · intro read
    have same : pieces (· == '/') pointer.toList =
        pieces (· == '/') (extend "" (steps.map .key)).toList := by
      have whole : ∀ token ∈ pieces (· == '/') pointer.toList, ∀ c ∈ token, (c == '/') = false :=
        fun token => separates_of_mem_pieces
      rw [pieces_extend, List.map_map]
      unfold steps? at read
      split at read
      · next tokens cut =>
        rw [cut] at whole ⊢
        exact congrArg ([] :: ·) (eq_map_of_mapM_step?
          (fun token listed => whole token (List.mem_cons_of_mem [] listed)) read)
      · cases read
    have joined := congrArg ['/'].intercalate same
    rw [intercalate_pieces, intercalate_pieces] at joined
    exact String.toList_injective joined
  · rintro rfl
    have root : steps? "" = some [] := rfl
    have read := steps?_extend root (steps.map .key)
    simpa [Function.comp_def, Step.segment] using read

end Pointer
end Formwright
