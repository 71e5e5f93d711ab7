import Formwright.Proofs.Pattern.Phrase
import Formwright.Prompt.Request

/-!
# Imports by names in two layouts

An import by names is told from its first word and the source that some names lead to. White space
counts for a name if there is enough of it. In a tighter layout there may be too little, and then
there are no names.
-/
namespace Formwright
open Pattern Text

/-- The names that are imported. White space counts for a name. -/
def importedNames : Pattern :=
  .one codeStart.importCharacter ++ reluctantMany (.one codeStart.importCharacter)

/-- What follows the names that are imported. -/
def importSource : Pattern := wordEdge ++ exactText "from" ++ gap ++ oneOf "\"'"

/-- What follows the first word of an import by names. -/
def importTail : Pattern := space ++ importedNames ++ importSource

/-- An import by names. -/
def namedImport : Pattern :=
  exactText "import" ++ space ++ importedNames ++ wordEdge ++ exactText "from" ++ gap ++ oneOf "\"'"

/-- An import without names. -/
def namelessImport : Pattern :=
  exactText "import" ++ space ++ exactText "from" ++ gap ++ oneOf "\"'"

/-- Whether names lead from a place to a source of an import. -/
def reachesSource (place : Place) : Bool :=
  (reluctantMany (.one codeStart.importCharacter)).admits place fun later =>
    importSource.admits later fun _ => true

/-- The source of an import is a phrase. -/
theorem phrase_importSource : Phrase importSource :=
  (Phrase.ofExactText "from" (by decide)).ofEdge.apart (.ofOneOf "\"'" (by decide))

/-- White space counts for a name. -/
theorem importCharacter_of_isBlank {b : Char} (blank : isBlank b = true) :
    codeStart.importCharacter b = true := by
  simp [codeStart.importCharacter, blank]

section

variable {place : Place} {c : Char} {rest : List Char}

/-- From a place a source is reached if there is one or a name goes on that leads to one. -/
theorem reachesSource_of_split (split : place.rest = c :: rest) : reachesSource place =
    ((importSource.admits place fun _ => true) ||
      (codeStart.importCharacter c && reachesSource (place.advance c rest))) :=
  admits_repetition_one split _

/-- Before white space a source is reached if one is after the first character of it. -/
theorem reachesSource_of_blank (split : place.rest = c :: rest) (blank : isBlank c = true) :
    reachesSource place = reachesSource (place.advance c rest) := by
  rw [reachesSource_of_split split, importCharacter_of_isBlank blank, Bool.true_and,
    phrase_importSource.matchesAlike.admits_eq_false (Place.not_atWord_of_blank split blank),
    Bool.false_or]

/-- At the end no source is reached. -/
theorem reachesSource_of_nil (atEnd : place.rest = []) : reachesSource place = false :=
  (admits_repetition_one_of_nil atEnd _).trans
    (phrase_importSource.matchesAlike.admits_eq_false (Place.not_atWord_of_nil atEnd))

/-- Whether some names go on from a place and lead to a source of an import. -/
def startsNames (place : Place) : Bool :=
  (one codeStart.importCharacter).admits place reachesSource

/-- A source is reached where some names lead to one. -/
theorem reachesSource_of_startsNames (starts : startsNames place = true) :
    reachesSource place = true := by
  cases split : place.rest with
  | nil =>
    rw [startsNames, admits_one_of_nil split] at starts
    cases starts
  | cons c rest =>
    rw [startsNames, admits_one split] at starts
    rw [reachesSource_of_split split, starts, Bool.or_true]

/-- White space before names is one of the names. -/
theorem admits_gap_startsNames (place : Place) :
    gap.admits place startsNames = startsNames place := by
  generalize split : place.rest = text
  induction text generalizing place with
  | nil => exact admits_repetition_one_of_nil split _
  | cons c rest ih =>
    have goesOn : gap.admits place startsNames =
        (startsNames place || (isBlank c && gap.admits (place.advance c rest) startsNames)) :=
      admits_repetition_one split _
    rw [goesOn, ih _ rfl, Bool.or_eq_left_iff_imp, Bool.and_eq_true]
    rintro ⟨blank, starts⟩
    rw [startsNames, admits_one split, importCharacter_of_isBlank blank,
      reachesSource_of_startsNames starts]
    rfl

/-- The first word of an import by names is followed by white space, a character of a name and more
of them that lead to a source. -/
theorem admits_importTail_iff (place : Place) :
    (importTail.admits place fun _ => true) = true ↔
      ∃ b c rest, place.rest = b :: c :: rest ∧ isBlank b = true ∧
        codeStart.importCharacter c = true ∧
          reachesSource ((place.advance b (c :: rest)).advance c rest) = true := by
  have spelled : (importTail.admits place fun _ => true) =
      (one isBlank).admits place fun later => gap.admits later startsNames := rfl
  simp only [spelled, admits_gap_startsNames]
  constructor
  · intro starts
    cases split : place.rest with
    | nil =>
      rw [admits_one_of_nil split] at starts
      cases starts
    | cons b later =>
      rw [admits_one split, Bool.and_eq_true] at starts
      obtain ⟨blank, starts⟩ := starts
      cases later with
      | nil =>
        rw [startsNames, admits_one_of_nil rfl] at starts
        cases starts
      | cons c rest =>
        rw [startsNames, admits_one rfl, Bool.and_eq_true] at starts
        exact ⟨b, c, rest, rfl, blank, starts⟩
  · rintro ⟨b, c, rest, split, blank, named, reaches⟩
    rw [admits_one split, blank, startsNames, admits_one rfl, named, reaches]
    rfl

end

/-- From alike places a source is reached alike. -/
theorem reachesSource_eq {loose tight : Place} (alike : loose.Alike tight) :
    reachesSource loose = reachesSource tight := by
  induction alike using Place.Alike.induct with
  | nil _ atEnd atEndToo => rw [reachesSource_of_nil atEnd, reachesSource_of_nil atEndToo]
  | char aligned _ split splitToo _ ih =>
    rw [reachesSource_of_split split, reachesSource_of_split splitToo,
      phrase_importSource.matchesAlike.admits_eq aligned, ih]
  | blank _ _ split splitToo kind kindToo ih =>
    rw [reachesSource_of_blank split kind, reachesSource_of_blank splitToo kindToo, ih]
  | surplus _ _ split kind _ ih => rw [reachesSource_of_blank split kind, ih]
  | trailing _ split kind atEnd =>
    rw [reachesSource_of_blank split kind, reachesSource_of_nil rfl, reachesSource_of_nil atEnd]

section

variable {loose tight : Place}

/-- With two blanks after its first word, an import by names goes on if a source is reached. -/
theorem admits_importTail_of_blanks {b c : Char} {rest : List Char}
    (split : loose.rest = b :: c :: rest) (blank : isBlank b = true) (next : isBlank c = true)
    (reaches : reachesSource loose = true) : (importTail.admits loose fun _ => true) = true := by
  rw [reachesSource_of_blank split blank, reachesSource_of_blank rfl next] at reaches
  exact (admits_importTail_iff loose).mpr
    ⟨b, c, rest, split, blank, importCharacter_of_isBlank next, reaches⟩

/-- Where an import by names goes on a source is reached. -/
theorem reachesSource_of_importTail (goesOn : (importTail.admits loose fun _ => true) = true) :
    reachesSource loose = true := by
  obtain ⟨b, c, rest, split, blank, named, reaches⟩ := (admits_importTail_iff loose).mp goesOn
  rw [reachesSource_of_blank split blank, reachesSource_of_split rfl, named, reaches, Bool.and_self,
    Bool.or_true]

/-- An import by names that goes on in a tighter layout did so before. -/
theorem admits_importTail_of_tight (aligned : loose.Aligned tight)
    (goesOn : (importTail.admits tight fun _ => true) = true) :
    (importTail.admits loose fun _ => true) = true := by
  have reaches : reachesSource loose = true :=
    (reachesSource_eq aligned.alike).trans (reachesSource_of_importTail goesOn)
  obtain ⟨d, e, later, splitToo, blankToo, named, reachesToo⟩ :=
    (admits_importTail_iff tight).mp goesOn
  have tightens := splitToo ▸ aligned.rest
  cases split : loose.rest with
  | nil => cases (split ▸ tightens).eq_nil
  | cons b rest =>
    rw [split] at tightens
    cases blank : isBlank b with
    | false =>
      obtain ⟨_, same, -⟩ := tightens.exists_of_char blank
      obtain ⟨rfl, -⟩ := List.cons.inj same
      rw [blank] at blankToo
      cases blankToo
    | true =>
      rcases tightens.cases_of_blank blank with
        ⟨_, _, same, -, onward⟩ | ⟨c, more, rfl, next, -⟩ | ⟨-, none⟩
      · obtain ⟨rfl, rfl⟩ := List.cons.inj same
        cases rest with
        | nil => cases onward.eq_nil
        | cons c more =>
          cases next : isBlank c with
          | true => exact admits_importTail_of_blanks split blank next reaches
          | false =>
            have first : (loose.advance b (c :: more)).Aligned (tight.advance d (e :: later)) :=
              Place.aligned_of_spaced onward blank blankToo
            obtain ⟨_, sameToo, second⟩ := first.advance rfl next
            obtain ⟨rfl, rfl⟩ := List.cons.inj sameToo
            rw [← reachesSource_eq second.alike] at reachesToo
            exact (admits_importTail_iff loose).mpr ⟨b, _, more, split, blank, named, reachesToo⟩
      · exact admits_importTail_of_blanks split blank next reaches
      · cases none

/-- What follows the first word of an import without names. -/
def namelessTail : Pattern := space ++ exactText "from" ++ gap ++ oneOf "\"'"

/-- Past white space a source makes an import without names. -/
theorem admits_namelessTail {b : Char} {rest : List Char} (split : loose.rest = b :: rest)
    (blank : isBlank b = true)
    (source : (importSource.admits (Place.pastBlanks loose.rest loose) fun _ => true) = true) :
    (namelessTail.admits loose fun _ => true) = true := by
  have phrase : Phrase (exactText "from" ++ gap ++ oneOf "\"'") :=
    (Phrase.ofExactText "from" (by decide)).apart (.ofOneOf "\"'" (by decide))
  have starts := phrase.matchesAlike.starts
  have spelled : namelessTail.matchAt loose =
      space.run ⟨loose, none⟩ ((exactText "from" ++ gap ++ oneOf "\"'").run · some) := rfl
  have past : (exactText "from" ++ gap ++ oneOf "\"'").admits (Place.pastBlanks loose.rest loose)
      (fun _ => true) = true := (Bool.and_eq_true_iff.mp source).2
  rw [← isSome_matchAt, spelled, run_space starts, run_gap (.inl starts), split, List.head?_cons,
    Option.any_some, if_pos blank, ← split]
  rw [← isSome_matchAt] at past
  exact past

/-- An import by names goes on in a tighter layout too, unless there are no names. -/
theorem admits_importTail_or (aligned : loose.Aligned tight)
    (goesOn : (importTail.admits loose fun _ => true) = true) :
    (importTail.admits tight fun _ => true) = true ∨
      (namelessTail.admits loose fun _ => true) = true := by
  have reaches : reachesSource tight = true :=
    (reachesSource_eq aligned.alike).symm.trans (reachesSource_of_importTail goesOn)
  obtain ⟨b, c, rest, split, blank, -⟩ := (admits_importTail_iff loose).mp goesOn
  cases splitToo : tight.rest with
  | nil =>
    rw [reachesSource_of_nil splitToo] at reaches
    cases reaches
  | cons d later =>
    have blankToo := (splitToo ▸ split ▸ aligned.rest).isBlank_head_of_blank blank
    rw [reachesSource_of_blank splitToo blankToo] at reaches
    cases later with
    | nil =>
      rw [reachesSource_of_nil rfl] at reaches
      cases reaches
    | cons e more =>
      rw [reachesSource_of_split rfl, Bool.or_eq_true, Bool.and_eq_true] at reaches
      rcases reaches with source | ⟨named, reaches⟩
      · -- A single blank is followed by the source, which is then past the blanks in both layouts.
        have atWord : (tight.advance d (e :: more)).AtWord := by
          by_contra outside
          rw [phrase_importSource.matchesAlike.admits_eq_false outside] at source
          cases source
        have pastToo : Place.pastBlanks tight.rest tight = tight.advance d (e :: more) := by
          obtain ⟨_, _, same, inside⟩ := atWord
          obtain ⟨rfl, -⟩ := List.cons.inj same
          rw [splitToo, Place.pastBlanks, if_pos blankToo, Place.pastBlanks_of_atWord inside]
        have past := aligned.pastBlanks
        rw [pastToo] at past
        have atWordToo : (Place.pastBlanks loose.rest loose).AtWord := by
          by_contra outside
          exact Place.not_atWord_of_tightens past.rest outside atWord
        rw [← phrase_importSource.matchesAlike.admits_eq (past.aligned atWordToo)] at source
        exact .inr (admits_namelessTail split blank source)
      · exact .inl ((admits_importTail_iff tight).mpr
          ⟨d, e, more, splitToo, blankToo, named, reaches⟩)

end

end Formwright
