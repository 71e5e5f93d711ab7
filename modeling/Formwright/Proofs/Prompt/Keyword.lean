import Formwright.Prompt.Keyword

/-!
# Where keywords count

A keyword counts in a token if it occurs in it at the start of a word. The scan for a keyword goes
on behind an occurrence that starts no word, so it does not see what overlaps that occurrence. It
finds nothing but starts of words, and it finds every one that no earlier occurrence overlaps. It
misses some start of a word just for the keywords that start a word inside themselves, and none of
the keywords of the tables does that.

The scan is done in bytes. It always ends, and no cut that it makes goes through a character.
-/
namespace Formwright
open Text (isAlphanumeric)

variable {token text rest front back keyword before after : List Char} {c : Char} {skip : Nat}

/-! ## Starts of words -/

/-- A word can start behind some text: nothing stands there, or its last character belongs to no
word. -/
def AtWordStart (front : List Char) : Prop := ∀ c ∈ front.getLast?, isAlphanumeric c = false

/-- The character before the text that is left tells whether a word can start there. -/
theorem atWordStart_iff : AtWordStart front ↔ (!front.getLast?.any isAlphanumeric) = true := by
  cases last : front.getLast? <;> simp [AtWordStart, last]

instance : DecidablePred AtWordStart := fun _ => decidable_of_iff _ atWordStart_iff.symm

/-- A keyword occurs in a token at the start of a word. -/
def StartsWord (token keyword : List Char) : Prop :=
  ∃ front back, token = front ++ keyword ++ back ∧ AtWordStart front

/-- A keyword goes on, at the start of a word inside it, the way it starts. -/
def RestartsInside (keyword : List Char) : Prop :=
  ∃ shift < keyword.length, 0 < shift ∧ keyword.drop shift <+: keyword ∧
    AtWordStart (keyword.take shift)

instance : DecidablePred RestartsInside := fun keyword =>
  inferInstanceAs (Decidable (∃ shift < keyword.length, 0 < shift ∧
    keyword.drop shift <+: keyword ∧ AtWordStart (keyword.take shift)))

/-- Only the last part of a text tells whether a word can start behind it. -/
theorem atWordStart_append (nonempty : back ≠ []) :
    AtWordStart (front ++ back) ↔ AtWordStart back := by
  rw [AtWordStart, AtWordStart, List.getLast?_append, List.getLast?_eq_some_getLast nonempty,
    Option.some_or]

/-! ## What the scan finds -/

/-- An occurrence that is not skipped counts if a word can start there. Else the scan goes on behind
it, and where nothing occurs with the next character. -/
theorem startsWordAfter_cons (before : Option Char) :
    startsWordAfter keyword before skip (c :: rest) =
      if skip = 0 ∧ keyword <+: c :: rest then
        !before.any isAlphanumeric || startsWordAfter keyword (some c) (keyword.length - 1) rest
      else startsWordAfter keyword (some c) (skip - 1) rest := by
  simp [startsWordAfter]

/-- What the scan finds starts a word. -/
theorem exists_of_startsWordAfter (read : List Char)
    (found : startsWordAfter keyword read.getLast? skip text = true) :
    ∃ front back, text = front ++ keyword ++ back ∧ AtWordStart (read ++ front) := by
  induction text generalizing read skip with
  | nil =>
    simp only [startsWordAfter, Bool.and_eq_true, List.isEmpty_iff] at found
    obtain ⟨⟨_, rfl⟩, start⟩ := found
    exact ⟨[], [], rfl, by rwa [List.append_nil, atWordStart_iff]⟩
  | cons c rest ih =>
    have onward {skip' : Nat} (later : startsWordAfter keyword (some c) skip' rest = true) :
        ∃ front back, c :: rest = front ++ keyword ++ back ∧ AtWordStart (read ++ front) := by
      rw [← List.getLast?_concat (l := read)] at later
      obtain ⟨front, back, rfl, start⟩ := ih (read ++ [c]) later
      exact ⟨c :: front, back, rfl, by rwa [List.append_assoc] at start⟩
    rw [startsWordAfter_cons] at found
    split at found
    · next occurs =>
      rcases Bool.or_eq_true_iff.mp found with start | later
      · obtain ⟨_, back, same⟩ := occurs
        exact ⟨[], back, same.symm, by rwa [List.append_nil, atWordStart_iff]⟩
      · exact onward later
    · exact onward found

/-- An earlier occurrence of a keyword reaches into the one between two parts of a token. -/
def IsOverlapped (front keyword back : List Char) : Prop :=
  ∃ middle, middle <:+ front ∧ middle ≠ [] ∧ middle.length < keyword.length ∧
    keyword <+: middle ++ keyword ++ back

/-- The scan finds each start of a word that no earlier occurrence reaches into: it never skips more
than what stands before it. -/
theorem startsWordAfter_of_not_isOverlapped (read : List Char) (fits : skip ≤ front.length)
    (start : AtWordStart (read ++ front)) (clear : ¬ IsOverlapped front keyword back) :
    startsWordAfter keyword read.getLast? skip (front ++ keyword ++ back) = true := by
  induction front generalizing read skip with
  | nil =>
    obtain rfl : skip = 0 := Nat.le_zero.mp fits
    rw [List.append_nil, atWordStart_iff] at start
    have occurs : keyword <+: [] ++ keyword ++ back := List.prefix_append keyword back
    cases whole : [] ++ keyword ++ back with
    | nil =>
      rw [whole, List.prefix_nil] at occurs
      simp [startsWordAfter, occurs, start]
    | cons c rest =>
      rw [whole] at occurs
      rw [startsWordAfter_cons, if_pos ⟨rfl, occurs⟩, start, Bool.true_or]
  | cons c front ih =>
    have onward {skip' : Nat} (fits' : skip' ≤ front.length) :
        startsWordAfter keyword (some c) skip' (front ++ keyword ++ back) = true := by
      rw [← List.getLast?_concat (l := read)]
      refine ih (read ++ [c]) fits' (by rwa [List.append_assoc]) ?_
      rintro ⟨middle, inside, overlaps⟩
      exact clear ⟨middle, inside.trans (List.suffix_cons c front), overlaps⟩
    rw [List.cons_append, List.cons_append, startsWordAfter_cons]
    split
    · next occurs =>
      have room : keyword.length ≤ (c :: front).length := Nat.not_lt.mp fun short =>
        clear ⟨c :: front, List.suffix_rfl, nofun, short, occurs.2⟩
      rw [onward (Nat.sub_le_of_le_add room), Bool.or_true]
    · exact onward (Nat.sub_le_of_le_add fits)

/-! ## Keywords that start a word inside themselves -/

/-- At the start of a word no occurrence is overlapped, unless the keyword starts a word inside
itself. -/
theorem not_isOverlapped (whole : ¬ RestartsInside keyword) (start : AtWordStart front) :
    ¬ IsOverlapped front keyword back := by
  rintro ⟨middle, ⟨before, rfl⟩, nonempty, short, occurs⟩
  rw [List.append_assoc] at occurs
  obtain ⟨tail, same⟩ : middle <+: keyword :=
    List.prefix_of_prefix_length_le (List.prefix_append _ _) occurs (Nat.le_of_lt short)
  have again : tail <+: keyword := by
    rw [← same, List.prefix_append_right_inj, same] at occurs
    refine List.prefix_of_prefix_length_le occurs (List.prefix_append _ _) ?_
    rw [← same, List.length_append]
    exact Nat.le_add_left _ _
  refine whole ⟨middle.length, short, List.length_pos_iff.mpr nonempty, ?_, ?_⟩
  · rwa [← same, List.drop_left, same]
  · rw [← same, List.take_left]
    exact (atWordStart_append nonempty).mp start

/-- Nothing is found in a text that ends before the keyword would. -/
theorem startsWordAfter_of_short {before : Option Char}
    (short : text.length < skip + keyword.length) :
    startsWordAfter keyword before skip text = false := by
  induction text generalizing before skip with
  | nil =>
    have left : skip = 0 → keyword ≠ [] := by
      rintro rfl rfl
      contradiction
    cases skip with
    | zero => simp [startsWordAfter, left]
    | succ skip => simp [startsWordAfter]
  | cons c rest ih =>
    rw [List.length_cons] at short
    have absent : ¬ (skip = 0 ∧ keyword <+: c :: rest) := by
      rintro ⟨rfl, occurs⟩
      have long := occurs.length_le
      rw [List.length_cons] at long
      omega
    rw [startsWordAfter_cons, if_neg absent]
    exact ih (by omega)

/-- A keyword that starts a word inside itself starts a word of some text where the scan does not
find it: an occurrence behind a letter hides the one inside it. -/
theorem exists_missed (restarts : RestartsInside keyword) :
    ∃ token, StartsWord token keyword ∧ startsWordAfter keyword none 0 token = false := by
  obtain ⟨shift, short, positive, again, start⟩ := restarts
  obtain ⟨letter, isLetter, other⟩ :
      ∃ letter, isAlphanumeric letter = true ∧ ∀ later, ¬ keyword <+: letter :: later := by
    cases keyword with
    | nil => contradiction
    | cons initial _ =>
      by_cases taken : initial = 'a'
      · exact ⟨'b', by decide, by simp [taken]⟩
      · exact ⟨'a', by decide, by simp [taken]⟩
  have occurs : keyword <+: keyword.take shift ++ keyword := by
    have within : keyword.take shift ++ keyword.drop shift <+: keyword.take shift ++ keyword :=
      (List.prefix_append_right_inj _).mpr again
    rwa [List.take_append_drop] at within
  have taken : keyword.take shift ≠ [] := by
    rw [← List.length_pos_iff, List.length_take]
    omega
  refine ⟨[letter] ++ keyword.take shift ++ keyword,
    ⟨[letter] ++ keyword.take shift, [], (List.append_nil _).symm,
      (atWordStart_append taken).mpr start⟩, ?_⟩
  cases hidden : keyword.take shift ++ keyword with
  | nil => exact absurd (List.append_eq_nil_iff.mp hidden).1 taken
  | cons c rest =>
    rw [hidden] at occurs
    have room : rest.length < keyword.length - 1 + keyword.length := by
      have sizes := congrArg List.length hidden
      rw [List.length_append, List.length_take, List.length_cons] at sizes
      omega
    rw [List.append_assoc, hidden, List.singleton_append, startsWordAfter_cons,
      if_neg fun starts => other _ starts.2, startsWordAfter_cons, if_pos ⟨rfl, occurs⟩,
      startsWordAfter_of_short room]
    simp [isLetter]

/-- The scan is exact for just the keywords that start no word inside themselves. -/
theorem startsWordAfter_exact_iff :
    (∀ token, startsWordAfter keyword none 0 token = true ↔ StartsWord token keyword) ↔
      ¬ RestartsInside keyword := by
  constructor
  · intro exact restarts
    obtain ⟨token, starts, missed⟩ := exists_missed restarts
    exact absurd ((exact token).mpr starts) (missed ▸ Bool.false_ne_true)
  · intro whole token
    constructor
    · exact exists_of_startsWordAfter []
    · rintro ⟨front, back, rfl, start⟩
      exact startsWordAfter_of_not_isOverlapped [] (Nat.zero_le _) start
        (not_isOverlapped whole start)

/-- The keywords of all tables. -/
def tableKeywords : List String :=
  Control.keywords.flatMap Prod.snd ++ Profile.keywords.flatMap Prod.snd ++
    choiceKeywords.flatMap Prod.snd

/-- No keyword of a table starts a word inside itself. -/
theorem not_restartsInside_of_mem {keyword : String} (listed : keyword ∈ tableKeywords) :
    ¬ RestartsInside keyword.toList := by
  have all : ∀ keyword ∈ tableKeywords, ¬ RestartsInside keyword.toList := by decide +kernel
  exact all keyword listed

/-! ## Cuts in bytes -/

namespace Text

/-- The number of bytes of a text. -/
def byteSize : List Char → Nat
  | [] => 0
  | c :: rest => c.utf8Size + byteSize rest

/-- The two parts of a text that is cut behind a number of bytes. It cannot be cut inside a
character or behind its end. -/
def cutAt? : Nat → List Char → Option (List Char × List Char)
  | 0, text => some ([], text)
  | _ + 1, [] => none
  | offset + 1, c :: rest =>
    if c.utf8Size ≤ offset + 1 then
      (cutAt? (offset + 1 - c.utf8Size) rest).map fun (front, back) => (c :: front, back)
    else none

/-- The number of bytes before the first occurrence of a keyword. -/
def offset? (keyword : List Char) : List Char → Option Nat
  | [] => if keyword.isEmpty then some 0 else none
  | c :: rest =>
    if keyword <+: c :: rest then some 0 else (offset? keyword rest).map (c.utf8Size + ·)

/-- Two texts after one another take the bytes of both. -/
@[simp] theorem byteSize_append (front back : List Char) :
    byteSize (front ++ back) = byteSize front + byteSize back := by
  induction front with
  | nil => rw [List.nil_append, byteSize, Nat.zero_add]
  | cons c front ih => rw [List.cons_append, byteSize, byteSize, ih, Nat.add_assoc]

/-- A text can be cut between any two parts. -/
theorem cutAt?_byteSize (front back : List Char) :
    cutAt? (byteSize front) (front ++ back) = some (front, back) := by
  induction front with
  | nil => rw [byteSize, List.nil_append, cutAt?]
  | cons c front ih =>
    have positive := c.utf8Size_pos
    obtain ⟨size, same⟩ : ∃ size, c.utf8Size + byteSize front = size + 1 :=
      Nat.exists_eq_add_one.mpr (by omega)
    have left : size + 1 - c.utf8Size = byteSize front := by omega
    rw [byteSize, same, List.cons_append, cutAt?, if_pos (by omega), left, ih]
    rfl

/-- A letter of two bytes is not cut. -/
example : cutAt? 2 "aż".toList = none := by decide

end Text

open Text (byteSize cutAt? offset?)

/-- What comes of a scan in bytes. -/
inductive ScanResult where
  | answer (found : Bool)
  /-- A cut goes through a character or behind the end. -/
  | badCut
  | unfinished
deriving DecidableEq, Repr

/-- The scan of a token from a byte on: the first occurrence of the keyword counts if a word can
start there, and else the scan goes on behind it. -/
def scanFrom (token keyword : List Char) : (rounds start : Nat) → ScanResult
  | 0, _ => .unfinished
  | rounds + 1, start =>
    match cutAt? start token with
    | none => .badCut
    | some (_, rest) =>
      match offset? keyword rest with
      | none => .answer false
      | some offset =>
        match cutAt? (start + offset) token with
        | none => .badCut
        | some (front, _) =>
          if !front.getLast?.any isAlphanumeric then .answer true
          else scanFrom token keyword rounds (start + offset + byteSize keyword)

/-- The characters that are skipped are passed over. -/
theorem startsWordAfter_skip (read skipped : List Char) :
    startsWordAfter keyword read.getLast? skipped.length (skipped ++ rest) =
      startsWordAfter keyword (read ++ skipped).getLast? 0 rest := by
  induction skipped generalizing read with
  | nil => rw [List.append_nil, List.nil_append, List.length_nil]
  | cons c skipped ih =>
    have later := ih (read ++ [c])
    rw [List.getLast?_concat, List.append_assoc] at later
    simpa [startsWordAfter] using later

/-- Without an occurrence nothing is found. -/
theorem startsWordAfter_of_absent (absent : offset? keyword text = none) (before : Option Char) :
    startsWordAfter keyword before 0 text = false := by
  induction text generalizing before with
  | nil => simp_all [startsWordAfter, offset?]
  | cons c rest ih =>
    rw [offset?] at absent
    split at absent
    · contradiction
    · next passed =>
      rw [startsWordAfter_cons, if_neg fun occurs => passed occurs.2]
      exact ih (Option.map_eq_none_iff.mp absent) (some c)

/-- The first occurrence is found if a word can start there, and else what is found behind it. -/
theorem exists_of_offset? (nonempty : keyword ≠ []) (read : List Char) {offset : Nat}
    (met : offset? keyword text = some offset) :
    ∃ front back, text = front ++ keyword ++ back ∧ byteSize front = offset ∧
      startsWordAfter keyword read.getLast? 0 text =
        (!(read ++ front).getLast?.any isAlphanumeric ||
          startsWordAfter keyword (read ++ front ++ keyword).getLast? 0 back) := by
  induction text generalizing read offset with
  | nil => simp [offset?, nonempty] at met
  | cons c rest ih =>
    rw [offset?] at met
    split at met
    · next occurs =>
      rw [startsWordAfter_cons, if_pos ⟨rfl, occurs⟩]
      cases keyword with
      | nil => contradiction
      | cons initial later =>
        obtain ⟨back, same⟩ := occurs
        obtain ⟨rfl, rfl⟩ : initial = c ∧ later ++ back = rest := List.cons.inj same
        refine ⟨[], back, rfl, Option.some.inj met, ?_⟩
        rw [List.append_nil, ← List.getLast?_concat (l := read), List.length_cons,
          Nat.add_sub_cancel, startsWordAfter_skip, List.append_assoc, List.singleton_append]
    · next passed =>
      obtain ⟨inner, met', rfl⟩ := Option.map_eq_some_iff.mp met
      obtain ⟨front, back, rfl, rfl, scanned⟩ := ih (read ++ [c]) met'
      refine ⟨c :: front, back, rfl, rfl, ?_⟩
      rw [List.getLast?_concat] at scanned
      rw [startsWordAfter_cons, if_neg fun occurs => passed occurs.2, List.append_cons read]
      exact scanned

/-- The scan in bytes always ends, makes no bad cut, and finds what the scan in characters finds. -/
theorem scanFrom_eq (nonempty : keyword ≠ []) (read : List Char) {rounds : Nat}
    (enough : text.length < rounds) :
    scanFrom (read ++ text) keyword rounds (byteSize read) =
      .answer (startsWordAfter keyword read.getLast? 0 text) := by
  induction rounds generalizing read text with
  | zero => contradiction
  | succ rounds ih =>
    rw [scanFrom, Text.cutAt?_byteSize]
    dsimp only
    cases met : offset? keyword text with
    | none => rw [startsWordAfter_of_absent met]
    | some offset =>
      obtain ⟨front, back, rfl, rfl, scanned⟩ := exists_of_offset? nonempty read met
      have cut : cutAt? (byteSize read + byteSize front) (read ++ (front ++ keyword ++ back)) =
          some (read ++ front, keyword ++ back) := by
        rw [← Text.byteSize_append, List.append_assoc, ← List.append_assoc read,
          Text.cutAt?_byteSize]
      dsimp only
      rw [cut, scanned]
      dsimp only
      split
      · next start => rw [start, Bool.true_or]
      · next inside =>
        have fewer : back.length < rounds := by
          have positive := List.length_pos_iff.mpr nonempty
          rw [List.length_append, List.length_append] at enough
          omega
        have onward := ih (read ++ front ++ keyword) fewer
        rw [Bool.not_eq_true] at inside
        rw [inside, Bool.false_or]
        simpa [Nat.add_assoc] using onward

/-- The scan in bytes of a whole token; the empty keyword is found at once. -/
theorem scanFrom_zero {rounds : Nat} (enough : text.length < rounds) :
    scanFrom text keyword rounds 0 = .answer (startsWordAfter keyword none 0 text) := by
  by_cases empty : keyword = []
  · subst empty
    cases rounds with
    | zero => contradiction
    | succ rounds => cases text <;> simp [scanFrom, cutAt?, offset?, startsWordAfter]
  · exact scanFrom_eq empty [] enough

/-! ## Which starts of words are found -/

/-- What a keyword that counts in a token tells.

* It starts a word of the token.
* Where it starts a word and no earlier occurrence reaches into it, it counts.
* For just the keywords that start no word inside themselves these are all starts of words, and the
  keywords of the tables are among them.
* For every token and keyword, the scan in bytes ends after no more rounds than the token has
  characters, and one; no cut that it makes goes through a character; and it tells whether the
  keyword counts. -/
theorem startsWord_sound_and_exact_iff (keyword : String) :
    (∀ token, startsWord token keyword = true → StartsWord token.toList keyword.toList) ∧
    (∀ front back, AtWordStart front → ¬ IsOverlapped front keyword.toList back →
      startsWord (String.ofList (front ++ keyword.toList ++ back)) keyword = true) ∧
    ((∀ token, startsWord token keyword = true ↔ StartsWord token.toList keyword.toList) ↔
      ¬ RestartsInside keyword.toList) ∧
    (keyword ∈ tableKeywords → ¬ RestartsInside keyword.toList) ∧
    ∀ (token : String) (rounds : Nat), token.toList.length < rounds →
      scanFrom token.toList keyword.toList rounds 0 = .answer (startsWord token keyword) := by
  refine ⟨fun token => exists_of_startsWordAfter [], fun front back start clear => ?_, ?_,
    not_restartsInside_of_mem, fun token rounds => scanFrom_zero⟩
  · rw [startsWord, String.toList_ofList]
    exact startsWordAfter_of_not_isOverlapped [] (Nat.zero_le _) start clear
  · rw [← startsWordAfter_exact_iff]
    constructor
    · intro exact token
      have same := exact (String.ofList token)
      rwa [startsWord, String.toList_ofList] at same
    · exact fun exact token => exact token.toList

/-- A keyword of two letters with a space between them starts the last two words of a token, where
the scan does not find it: an occurrence inside the first word reaches into it. -/
theorem startsWord_overlapped :
    ¬ (startsWord "xa a a" "a a" = true ↔ StartsWord "xa a a".toList "a a".toList) := by
  have missed : startsWord "xa a a" "a a" = false := by decide
  have starts : StartsWord "xa a a".toList "a a".toList :=
    ⟨['x', 'a', ' '], [], by decide, by decide⟩
  exact fun same => absurd (same.mpr starts) (missed ▸ Bool.false_ne_true)

end Formwright
