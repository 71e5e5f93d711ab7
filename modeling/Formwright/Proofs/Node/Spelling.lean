import Formwright.Proofs.Node.Id
import Formwright.Proofs.Text.Words

/-!
# Spellings of ids

An id may be spelled in four ways, in either case: by its digits alone, in hyphenated groups, and in
such groups between braces or after a scheme. These and no other texts are read as the id, and all
of them are printed alike: as the hyphenated groups in lower case (`parse?_print_iff_spells`).
-/
namespace Formwright.NodeId

/-! ## Digits in either case -/

/-- A character up to another one has no larger code point. -/
theorem toNat_le_of_le {c last : Char} (upTo : c ≤ last) : c.toNat ≤ last.toNat :=
  UInt32.le_iff_toNat_le.mp upTo

/-- Hexadecimal digits are ASCII characters. -/
theorem toNat_lt_of_hexValue?_eq_some {c : Char} {digit : Fin 16}
    (read : hexValue? c = some digit) : c.toNat < 0x80 := by
  obtain ⟨value, read, -⟩ := Option.map_eq_some_iff.mp read
  have below {last : Char} (ascii : last.toNat < 0x80) (upTo : c ≤ last) : c.toNat < 0x80 :=
    Nat.lt_of_le_of_lt (toNat_le_of_le upTo) ascii
  unfold Json.hexValue at read
  split at read
  · next range => exact below (by decide) range.2
  · split at read
    · next range => exact below (by decide) range.2
    · split at read
      · next range => exact below (by decide) range.2
      · contradiction

/-- Characters in upper case are ASCII. -/
theorem toNat_lt_of_isUpper {c : Char} (upper : c.isUpper = true) : c.toNat < 0x80 :=
  Nat.lt_of_le_of_lt (toNat_le_of_le (of_decide_eq_true upper).2) (by decide)

/-- Characters that are ASCII in lower case are ASCII. -/
theorem toNat_lt_of_toLower {c : Char} (ascii : c.toLower.toNat < 0x80) : c.toNat < 0x80 := by
  cases upper : c.isUpper with
  | true => exact toNat_lt_of_isUpper upper
  | false => rwa [Text.toLower_of_not_isUpper upper] at ascii

/-- A character is read as a digit if it is that digit in lower case. -/
theorem hexValue?_eq_some_iff {c : Char} {digit : Fin 16} :
    hexValue? c = some digit ↔ c.toLower = Json.hexDigit digit.val := by
  have digits : ∀ digit : Fin 16, (Json.hexDigit digit.val).toNat < 0x80 := by decide
  have ascii (below : c.toNat < 0x80) :
      hexValue? c = some digit ↔ c.toLower = Json.hexDigit digit.val :=
    @Text.forall_ascii (fun c => ∀ digit : Fin 16,
        hexValue? c = some digit ↔ c.toLower = Json.hexDigit digit.val)
      (by decide +kernel) c below digit
  constructor
  · intro read
    exact (ascii (toNat_lt_of_hexValue?_eq_some read)).mp read
  · intro lower
    exact (ascii (toNat_lt_of_toLower (lower ▸ digits digit))).mpr lower

/-- Characters are read as digits if they are those digits in lower case. -/
theorem mapM_hexValue?_eq_some_iff {text : List Char} {digits : List (Fin 16)} :
    text.mapM hexValue? = some digits ↔
      text.map Char.toLower = digits.map fun digit => Json.hexDigit digit.val := by
  induction text generalizing digits with
  | nil => cases digits <;> simp
  | cons c later ih =>
    have split : (c :: later).mapM hexValue? = some digits ↔
        ∃ digit rest, digits = digit :: rest ∧ hexValue? c = some digit ∧
          later.mapM hexValue? = some rest := by
      rw [List.mapM_cons]
      cases hexValue? c <;> cases later.mapM hexValue? <;> simp [eq_comm]
    rw [split, List.map_cons]
    constructor
    · rintro ⟨digit, rest, rfl, first, others⟩
      rw [List.map_cons, hexValue?_eq_some_iff.mp first, ih.mp others]
    · intro lower
      obtain ⟨digit, rest, rfl, first, others⟩ := List.map_eq_cons_iff.mp lower.symm
      exact ⟨digit, rest, rfl, hexValue?_eq_some_iff.mpr first.symm, ih.mpr others.symm⟩

/-- A text without hyphens is read as an id if it is the digits of the id in lower case. -/
theorem ofPlain?_eq_some_iff {text : List Char} {nodeId : NodeId} :
    ofPlain? text = some nodeId ↔ text.map Char.toLower = nodeId.hexDigits := by
  rw [hexDigits, ← mapM_hexValue?_eq_some_iff, ofPlain?]
  obtain ⟨digits, length_digits⟩ := nodeId
  cases text.mapM hexValue? with
  | none => simp
  | some read =>
    simp only [Option.bind_eq_bind, Option.bind_some, ofDigits?, Option.some.injEq]
    split
    · simp
    · next other =>
      refine iff_of_false (Option.some_ne_none _).symm ?_
      rintro rfl
      exact other length_digits

/-! ## Hyphenated groups in either case -/

/-- A text with a character at a place is cut there. -/
theorem eq_take_append_drop {text : List Char} {c : Char} {place : Nat}
    (here : text[place]? = some c) : text = text.take place ++ c :: text.drop (place + 1) := by
  obtain ⟨inside, same⟩ := List.getElem?_eq_some_iff.mp here
  rw [← same, ← List.drop_eq_getElem_cons inside, List.take_append_drop]

/-- A text with hyphens in their places is groups with hyphens between them. -/
theorem exists_hyphenated {text : List Char} (length : text.length = 36)
    (hyphens : ∀ place ∈ [8, 13, 18, 23], text[place]? = some '-') :
    ∃ a b c d e : List Char,
      text = a ++ '-' :: (b ++ '-' :: (c ++ '-' :: (d ++ '-' :: e))) ∧ a.length = 8 ∧
        b.length = 4 ∧ c.length = 4 ∧ d.length = 4 ∧ e.length = 12 := by
  simp only [List.forall_mem_cons] at hyphens
  obtain ⟨first, second, third, fourth, -⟩ := hyphens
  have cut (start place : Nat) (here : text[start + place]? = some '-') :
      text.drop start =
        (text.drop start).take place ++ '-' :: text.drop (start + (place + 1)) := by
    rw [← List.drop_drop]
    exact eq_take_append_drop (by rwa [List.getElem?_drop])
  have ofB := cut 9 4 second
  have ofC := cut 14 4 third
  have ofD := cut 19 4 fourth
  refine ⟨text.take 8, (text.drop 9).take 4, (text.drop 14).take 4, (text.drop 19).take 4,
    text.drop 24, ?_, by simp [length], by simp [length], by simp [length], by simp [length],
    by simp [length]⟩
  rw [← ofD, ← ofC, ← ofB]
  exact eq_take_append_drop first

/-- A mark stays the same in lower case, and no other character becomes one. -/
theorem eq_of_toLower_eq {c mark : Char} (lower : c.toLower = mark)
    (other : mark.isLower = false) : c = mark := by
  cases upper : c.isUpper with
  | true =>
    have letter : c.toLower.isLower = true :=
      @Text.forall_ascii (fun c => c.isUpper = true → c.toLower.isLower = true)
        (by decide +kernel) c (toNat_lt_of_isUpper upper) upper
    rw [lower, other] at letter
    contradiction
  | false => rwa [Text.toLower_of_not_isUpper upper] at lower

/-- A text that has a hyphen in lower case has it. -/
theorem exists_of_map_toLower {text front back : List Char}
    (lower : text.map Char.toLower = front ++ '-' :: back) :
    ∃ before after, text = before ++ '-' :: after ∧ before.map Char.toLower = front ∧
      after.map Char.toLower = back := by
  obtain ⟨before, rest, rfl, sameFront, lower⟩ := List.map_eq_append_iff.mp lower
  obtain ⟨c, after, rfl, hyphen, sameBack⟩ := List.map_eq_cons_iff.mp lower
  obtain rfl : c = '-' := eq_of_toLower_eq hyphen rfl
  exact ⟨before, after, rfl, sameFront, sameBack⟩

/-- A text is read in hyphenated groups as an id if it is the printed id in lower case. -/
theorem ofHyphenated?_eq_some_iff {text : List Char} {nodeId : NodeId} :
    ofHyphenated? text = some nodeId ↔ text.map Char.toLower = nodeId.print.toList := by
  obtain ⟨a, b, c, d, e, digits, ofA, ofB, ofC, ofD, ofE, printed⟩ := nodeId.exists_print_groups
  rw [printed]
  constructor
  · intro read
    have form : text.length = 36 ∧ ∀ place ∈ [8, 13, 18, 23], text[place]? = some '-' := by
      unfold ofHyphenated? at read
      dsimp only at read
      split at read
      · next form => simpa using form
      · contradiction
    obtain ⟨a', b', c', d', e', rfl, ofA', ofB', ofC', ofD', ofE'⟩ :=
      exists_hyphenated form.1 form.2
    rw [ofHyphenated?_groups ofA' ofB' ofC' ofD' ofE', ofPlain?_eq_some_iff, digits] at read
    simp only [List.map_append] at read
    obtain ⟨sameA, read⟩ := List.append_inj read (by simp [ofA, ofA'])
    obtain ⟨sameB, read⟩ := List.append_inj read (by simp [ofB, ofB'])
    obtain ⟨sameC, read⟩ := List.append_inj read (by simp [ofC, ofC'])
    obtain ⟨sameD, sameE⟩ := List.append_inj read (by simp [ofD, ofD'])
    have hyphen : '-'.toLower = '-' := rfl
    simp only [List.map_append, List.map_cons, sameA, sameB, sameC, sameD, sameE, hyphen]
  · intro lower
    obtain ⟨a', rest, rfl, rfl, lowerB⟩ := exists_of_map_toLower lower
    obtain ⟨b', rest, rfl, rfl, lowerC⟩ := exists_of_map_toLower lowerB
    obtain ⟨c', rest, rfl, rfl, lowerD⟩ := exists_of_map_toLower lowerC
    obtain ⟨d', e', rfl, rfl, rfl⟩ := exists_of_map_toLower lowerD
    rw [List.length_map] at ofA ofB ofC ofD ofE
    rw [ofHyphenated?_groups ofA ofB ofC ofD ofE, ofPlain?_eq_some_iff, digits]
    simp only [List.map_append]

/-! ## The four spellings -/

/-- The spellings of an id in lower case. -/
def spellings (nodeId : NodeId) : List (List Char) := [
  nodeId.hexDigits,
  nodeId.print.toList,
  '\x7b' :: (nodeId.print.toList ++ ['\x7d']),
  scheme ++ nodeId.print.toList]

/-- Whether a text is one of the spellings of an id, in either case. -/
def Spells (text : String) (nodeId : NodeId) : Prop :=
  text.toList.map Char.toLower ∈ nodeId.spellings

/-- A printed id has 36 characters. -/
theorem length_print (nodeId : NodeId) : nodeId.print.toList.length = 36 := by
  obtain ⟨a, b, c, d, e, -, ofA, ofB, ofC, ofD, ofE, printed⟩ := nodeId.exists_print_groups
  simp [printed, ofA, ofB, ofC, ofD, ofE]

/-- A text is in braces in lower case exactly if it is in braces. -/
theorem map_toLower_eq_braced_iff {text inner : List Char} :
    text.map Char.toLower = '\x7b' :: (inner ++ ['\x7d']) ↔
      ∃ within, text = '\x7b' :: (within ++ ['\x7d']) ∧ within.map Char.toLower = inner := by
  constructor
  · intro lower
    obtain ⟨first, rest, rfl, opened, lowerRest⟩ := List.map_eq_cons_iff.mp lower
    obtain ⟨within, last, rfl, same, lowerLast⟩ := List.map_eq_append_iff.mp lowerRest
    obtain ⟨final, rfl, closed⟩ := List.map_eq_singleton_iff.mp lowerLast
    obtain rfl : first = '\x7b' := eq_of_toLower_eq opened rfl
    obtain rfl : final = '\x7d' := eq_of_toLower_eq closed rfl
    exact ⟨within, rfl, same⟩
  · rintro ⟨within, rfl, rfl⟩
    simp

/-- A text in braces, told by its two ends. -/
theorem exists_braced {text : List Char} {size : Nat} (length : text.length = size + 2)
    (opened : text.head? = some '\x7b') (closed : text.getLast? = some '\x7d') :
    ∃ within, text = '\x7b' :: (within ++ ['\x7d']) := by
  obtain ⟨front, rfl⟩ := List.getLast?_eq_some_iff.mp closed
  cases front with
  | nil => simp at length
  | cons first within =>
    obtain rfl : first = '\x7b' := by simpa using opened
    exact ⟨within, rfl⟩

/-- The texts that are read as an id are its spellings in either case. -/
theorem parse?_eq_some_iff {text : String} {nodeId : NodeId} :
    parse? text = some nodeId ↔ Spells text nodeId := by
  have ofDigits := nodeId.length_hexDigits
  have ofGroups := nodeId.length_print
  have ofScheme : scheme.length = 9 := rfl
  unfold Spells spellings parse?
  simp only [List.mem_cons, List.not_mem_nil, or_false]
  generalize text.toList = chars
  constructor
  · intro read
    split at read
    · exact .inl (ofPlain?_eq_some_iff.mp read)
    · split at read
      · exact .inr (.inl (ofHyphenated?_eq_some_iff.mp read))
      · split at read
        · next braced =>
          obtain ⟨within, rfl⟩ := exists_braced braced.1 braced.2.1 braced.2.2
          have inner : (('\x7b' :: (within ++ ['\x7d'])).drop 1).dropLast = within := by simp
          rw [inner, ofHyphenated?_eq_some_iff] at read
          exact .inr (.inr (.inl (map_toLower_eq_braced_iff.mpr ⟨within, rfl, read⟩)))
        · split at read
          · next named =>
            rw [ofHyphenated?_eq_some_iff] at read
            refine .inr (.inr (.inr ?_))
            rw [← List.take_append_drop 9 chars, List.map_append, named.2, read]
          · contradiction
  · rintro (plain | hyphenated | braced | named)
    · have length : chars.length = 32 := by rw [← ofDigits, ← plain, List.length_map]
      rw [if_pos length, ofPlain?_eq_some_iff, plain]
    · have length : chars.length = 36 := by rw [← ofGroups, ← hyphenated, List.length_map]
      rw [if_neg (by omega), if_pos length, ofHyphenated?_eq_some_iff, hyphenated]
    · obtain ⟨within, rfl, same⟩ := map_toLower_eq_braced_iff.mp braced
      have length : within.length = 36 := by rw [← ofGroups, ← same, List.length_map]
      have closed : ('\x7b' :: (within ++ ['\x7d'])).getLast? = some '\x7d' := by
        rw [← List.cons_append, List.getLast?_concat]
      simp [length, closed, ofHyphenated?_eq_some_iff, same]
    · obtain ⟨front, back, rfl, sameScheme, sameId⟩ := List.map_eq_append_iff.mp named
      have length : front.length = 9 := by rw [← ofScheme, ← sameScheme, List.length_map]
      have lengthId : back.length = 36 := by rw [← ofGroups, ← sameId, List.length_map]
      have whole : (front ++ back).length = 45 := by rw [List.length_append, length, lengthId]
      have start : ((front ++ back).take 9).map Char.toLower = scheme := by
        rw [← length, List.take_left, sameScheme]
      have rest : (front ++ back).drop 9 = back := by rw [← length, List.drop_left]
      simp [whole, start, rest, ofHyphenated?_eq_some_iff, sameId]

/-! ## The printed form -/

/-- The printed form of an id, told without printing: 36 characters, which are hyphens at four
places, and else the digits of the id in lower case. -/
structure IsPrintedForm (nodeId : NodeId) (text : List Char) : Prop where
  length : text.length = 36
  hyphens : ∀ place, text[place]? = some '-' ↔ place ∈ [8, 13, 18, 23]
  digits : text.filter (· ≠ '-') = nodeId.digits.map fun digit => Json.hexDigit digit.val
  lower : ∀ c ∈ text, c ∈ "-0123456789abcdef".toList

/-- The digits of an id are in lower case and no hyphens. -/
theorem mem_hexDigits {nodeId : NodeId} {c : Char} (member : c ∈ nodeId.hexDigits) :
    c ≠ '-' ∧ c ∈ "-0123456789abcdef".toList := by
  have all : ∀ digit : Fin 16, Json.hexDigit digit.val ≠ '-' ∧
      Json.hexDigit digit.val ∈ "-0123456789abcdef".toList := by
    decide
  obtain ⟨digit, -, rfl⟩ := List.mem_map.mp member
  exact all digit

/-- Where the hyphens are in groups with hyphens between them. -/
theorem getElem?_groups_eq_hyphen_iff {a b c d e : List Char} (ofA : a.length = 8)
    (ofB : b.length = 4) (ofC : c.length = 4) (ofD : d.length = 4) (ofE : e.length = 12)
    (plain : '-' ∉ a ++ (b ++ (c ++ (d ++ e)))) (place : Nat) :
    (a ++ '-' :: (b ++ '-' :: (c ++ '-' :: (d ++ '-' :: e))))[place]? = some '-' ↔
      place ∈ [8, 13, 18, 23] := by
  have unmarked {group : List Char} {size : Nat} (length : group.length = size)
      (free : '-' ∉ group) : group.map (· == '-') = List.replicate size false := by
    rw [List.eq_replicate_iff, List.length_map]
    refine ⟨length, fun mark member => ?_⟩
    obtain ⟨c, listed, rfl⟩ := List.mem_map.mp member
    exact beq_eq_false_iff_ne.mpr fun same => free (same ▸ listed)
  simp only [List.mem_append, not_or] at plain
  obtain ⟨freeA, freeB, freeC, freeD, freeE⟩ := plain
  have marks : (a ++ '-' :: (b ++ '-' :: (c ++ '-' :: (d ++ '-' :: e)))).map (· == '-') =
      (List.range 36).map fun place => decide (place ∈ [8, 13, 18, 23]) := by
    simp only [List.map_append, List.map_cons, unmarked ofA freeA, unmarked ofB freeB,
      unmarked ofC freeC, unmarked ofD freeD, unmarked ofE freeE]
    decide
  have here := congrArg (·[place]?) marks
  simp only [List.getElem?_map] at here
  calc
    _ ↔ (((a ++ '-' :: (b ++ '-' :: (c ++ '-' :: (d ++ '-' :: e))))[place]?).map (· == '-')) =
        some true := by simp
    _ ↔ ((List.range 36)[place]?).map (fun place => decide (place ∈ [8, 13, 18, 23])) =
        some true := by rw [here]
    _ ↔ place < 36 ∧ place ∈ [8, 13, 18, 23] := by
      by_cases inside : place < 36 <;> simp [inside]
    _ ↔ place ∈ [8, 13, 18, 23] := by
      simp only [List.mem_cons, List.not_mem_nil, or_false]
      omega

/-- A printed id has this form. -/
theorem isPrintedForm_print (nodeId : NodeId) : IsPrintedForm nodeId nodeId.print.toList := by
  obtain ⟨a, b, c, d, e, digits, ofA, ofB, ofC, ofD, ofE, printed⟩ := nodeId.exists_print_groups
  have plain : ∀ mark ∈ a ++ (b ++ (c ++ (d ++ e))),
      mark ≠ '-' ∧ mark ∈ "-0123456789abcdef".toList := by
    rw [← digits]
    exact fun _ => mem_hexDigits
  refine ⟨nodeId.length_print, fun place => ?_, ?_, fun mark member => ?_⟩
  · rw [printed]
    exact getElem?_groups_eq_hyphen_iff ofA ofB ofC ofD ofE (fun member => (plain _ member).1 rfl)
      place
  · have kept : (a ++ (b ++ (c ++ (d ++ e)))).filter (· ≠ '-') = nodeId.hexDigits := by
      rw [digits, List.filter_eq_self]
      exact fun mark member => decide_eq_true (plain mark member).1
    rw [hexDigits] at kept
    rw [printed]
    simpa using kept
  · by_cases hyphen : mark = '-'
    · subst hyphen
      decide
    · rw [printed] at member
      exact (plain mark (by simpa [hyphen] using member)).2

/-- The version of an id is the fifteenth character of its printed form. -/
theorem getElem?_print (nodeId : NodeId) :
    nodeId.print.toList[14]? = some (Json.hexDigit nodeId.version.val) := by
  obtain ⟨a, b, c, d, e, digits, ofA, ofB, ofC, ofD, ofE, printed⟩ := nodeId.exists_print_groups
  have inGroup : nodeId.print.toList[14]? = nodeId.hexDigits[12]? := by
    rw [printed, digits]
    simp [List.getElem?_append, ofA, ofB, ofC]
  have inside : 12 < nodeId.digits.length := by rw [nodeId.length_digits]; decide
  rw [inGroup, hexDigits, List.getElem?_map, List.getElem?_eq_getElem inside]
  rfl

/-- A text passes as an id of version 4 if it takes 36 bytes and spells an id in whose printed form
the fifteenth character is the digit four. -/
theorem isVersion4_iff {text : String} : isVersion4 text = true ↔ text.utf8ByteSize = 36 ∧
    ∃ nodeId, parse? text = some nodeId ∧ nodeId.print.toList[14]? = some '4' := by
  have four : ∀ digit : Fin 16, Json.hexDigit digit.val = '4' ↔ digit.val = 4 := by decide
  simp [isVersion4, Option.any_eq_true, getElem?_print, four]

/-- How ids are printed and read.

* A printed id has the form of 36 characters and is read as the id.
* The texts that are read as an id are its four spellings in either case, and each of them is
  printed as the id.
* Texts pass as ids of version 4 by their size in bytes and the fifteenth character in print.
* The printed form of every derived id passes as an id of version 4. -/
theorem parse?_print_iff_spells :
    (∀ nodeId : NodeId, IsPrintedForm nodeId nodeId.print.toList ∧
      parse? nodeId.print = some nodeId) ∧
    (∀ text nodeId, (parse? text = some nodeId ↔ Spells text nodeId) ∧
      (Spells text nodeId → (parse? text).map print = some nodeId.print)) ∧
    (∀ text, isVersion4 text = true ↔ text.utf8ByteSize = 36 ∧
      ∃ nodeId, parse? text = some nodeId ∧ nodeId.print.toList[14]? = some '4') ∧
    ∀ seed, isVersion4 (derived seed).print = true := by
  refine ⟨fun nodeId => ⟨isPrintedForm_print nodeId, parse?_print nodeId⟩,
    fun text nodeId => ⟨parse?_eq_some_iff, fun spelled => ?_⟩, fun _ => isVersion4_iff,
    fun seed => ?_⟩
  · rw [parse?_eq_some_iff.mpr spelled, Option.map_some]
  · rw [isVersion4_print]
    exact version_derived seed

/-- A spelling with the scheme, in a mixture of cases, is printed without it and in lower case. -/
theorem parse?_print_iff_spells_scheme :
    let nodeId : NodeId := ⟨[0, 0, 0, 0, 0, 0, 0, 1, 3, 12, 4, 13, 4, 14, 8, 10, 9, 15, 0, 0, 6, 10,
      1, 11, 2, 12, 3, 13, 4, 14, 5, 15], rfl⟩
    Spells "Urn:uUid:00000001-3C4D-4E8A-9F00-6A1B2C3D4E5F" nodeId ∧
      (parse? "Urn:uUid:00000001-3C4D-4E8A-9F00-6A1B2C3D4E5F").map print =
        some "00000001-3c4d-4e8a-9f00-6a1b2c3d4e5f" := by
  intro nodeId
  have spelled : Spells "Urn:uUid:00000001-3C4D-4E8A-9F00-6A1B2C3D4E5F" nodeId := by
    unfold Spells
    decide
  have printed : nodeId.print = "00000001-3c4d-4e8a-9f00-6a1b2c3d4e5f" := by decide
  exact ⟨spelled, printed ▸ (parse?_print_iff_spells.2.1 _ nodeId).2 spelled⟩

end Formwright.NodeId
