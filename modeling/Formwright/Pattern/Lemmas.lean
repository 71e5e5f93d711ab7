import Formwright.Pattern.Scan

/-!
# What a scan finds

A scan finds exactly the places from which the pattern matches (`places_eq_filter`). The proof
compares both with `admits`, which says whether some way of matching leads to a wanted place,
whatever is kept on the way.
-/
namespace Formwright

/-- Whether a place is another one or comes after it in the same text. -/
structure Place.Reaches (place later : Place) : Prop where
  index_le : place.index ≤ later.index
  length_eq : later.index + later.rest.length = place.index + place.rest.length

/-- A place is reached from itself. -/
theorem Place.Reaches.refl (place : Place) : place.Reaches place := ⟨Nat.le_refl _, rfl⟩

/-- What is reached from a place that is reached is reached. -/
theorem Place.Reaches.trans {first second third : Place} (one : first.Reaches second)
    (two : second.Reaches third) : first.Reaches third :=
  ⟨Nat.le_trans one.index_le two.index_le, two.length_eq.trans one.length_eq⟩

/-- The place after the next character is reached. -/
theorem Place.reaches_advance {place : Place} {c : Char} {rest : List Char}
    (split : place.rest = c :: rest) : place.Reaches (place.advance c rest) := by
  constructor
  · simp [Place.advance]
  · simp [Place.advance, split]
    omega

/-- Only the place itself is reached without going on. -/
theorem Place.Reaches.length_lt {place later : Place} (reached : place.Reaches later)
    (moved : later.index ≠ place.index) : later.rest.length < place.rest.length := by
  have := reached.index_le
  have := reached.length_eq
  omega

namespace Pattern

/-- Whether some rounds of a body, at most as many as there are characters in `rounds`, lead to a
wanted place; each round leads to a later place. -/
def admitsRounds (body : Place → (Place → Bool) → Bool) :
    (rounds : List Char) → Place → (Place → Bool) → Bool
  | [], place, wanted => wanted place
  | _ :: rounds, place, wanted =>
    wanted place || body place fun later =>
      later.index != place.index && admitsRounds body rounds later wanted

/-- Whether some way of matching a pattern from a place leads to a wanted place. -/
def admits : Pattern → Place → (Place → Bool) → Bool
  | .empty, place, wanted => wanted place
  | .one accepts, place, wanted =>
    match place.rest with
    | [] => false
    | c :: rest => accepts c && wanted (place.advance c rest)
  | .sequence first second, place, wanted =>
    first.admits place fun middle => second.admits middle wanted
  | .choice first second, place, wanted => first.admits place wanted || second.admits place wanted
  | .repetition _ body, place, wanted => admitsRounds body.admits place.rest place wanted
  | .capture body, place, wanted => body.admits place wanted
  | .wordEdge, place, wanted => place.isWordEdge && wanted place
  | .textStart, place, wanted => place.before.isNone && wanted place
  | .lineStart, place, wanted => place.isLineStart && wanted place
  | .textEnd, place, wanted => place.rest.isEmpty && wanted place

/-! ## Admitting and matching -/

/-- Rounds of a repetition match exactly if they admit a wanted place, where its body does. -/
theorem isSome_repeatBody {body : Point → Continuation → Option Point}
    {holds : Place → (Place → Bool) → Bool}
    (agree : ∀ point next wanted, (∀ stop : Point, (next stop).isSome = wanted stop.toPlace) →
      (body point next).isSome = holds point.toPlace wanted)
    (greedy : Bool) (rounds : List Char) (point : Point) (next : Continuation)
    (wanted : Place → Bool) (same : ∀ stop : Point, (next stop).isSome = wanted stop.toPlace) :
    (repeatBody body greedy rounds point next).isSome
      = admitsRounds holds rounds point.toPlace wanted := by
  induction rounds generalizing point with
  | nil => simpa [repeatBody, admitsRounds] using same point
  | cons _ rounds ih =>
    have round := agree point
      (fun later =>
        if later.index = point.index then none else repeatBody body greedy rounds later next)
      (fun later => later.index != point.index && admitsRounds holds rounds later wanted)
      (fun stop => by
        by_cases stays : stop.index = point.index
        · simp [stays]
        · simp [stays, ih])
    simp only [admitsRounds, ← round, ← same]
    cases greedy
    · cases stop : next point <;> simp [repeatBody, stop]
    · simp only [repeatBody, if_true]
      split
      · simp_all
      · simp_all

/-- A match can be completed exactly if some way of matching leads to a place from which it can. -/
theorem isSome_run (pattern : Pattern) (point : Point) (next : Continuation)
    (wanted : Place → Bool) (same : ∀ stop : Point, (next stop).isSome = wanted stop.toPlace) :
    (pattern.run point next).isSome = pattern.admits point.toPlace wanted := by
  induction pattern generalizing point next wanted with
  | empty => exact same point
  | one accepts =>
    simp only [run, admits]
    cases point.rest with
    | nil => rfl
    | cons c rest => by_cases accepted : accepts c <;> simp [accepted, same]
  | sequence first second firstHolds secondHolds =>
    exact firstHolds point _ _ fun stop => secondHolds stop next wanted same
  | choice first second firstHolds secondHolds =>
    simp only [run, admits, ← firstHolds point next wanted same,
      ← secondHolds point next wanted same]
    split <;> simp_all
  | repetition greedy body holds =>
    exact isSome_repeatBody holds greedy point.rest point next wanted same
  | capture body holds => exact holds point _ wanted fun stop => same _
  | wordEdge | textStart | lineStart | textEnd =>
    simp only [run, admits]
    split <;> simp_all

/-! ## Which places matter -/

/-- Only the places that are reached matter to the rounds of a repetition if they alone matter to
its body. -/
theorem admitsRounds_congr {body : Place → (Place → Bool) → Bool}
    (agree : ∀ place wanted other, (∀ later, place.Reaches later → wanted later = other later) →
      body place wanted = body place other)
    (rounds : List Char) (place : Place) (wanted other : Place → Bool)
    (same : ∀ later, place.Reaches later → wanted later = other later) :
    admitsRounds body rounds place wanted = admitsRounds body rounds place other := by
  induction rounds generalizing place with
  | nil => exact same place (.refl place)
  | cons _ rounds ih =>
    simp only [admitsRounds, same place (.refl place)]
    congr 1
    apply agree
    intro later reached
    rw [ih later fun last onward => same last (reached.trans onward)]

/-- Only the places that are reached matter. -/
theorem admits_congr (pattern : Pattern) (place : Place) (wanted other : Place → Bool)
    (same : ∀ later, place.Reaches later → wanted later = other later) :
    pattern.admits place wanted = pattern.admits place other := by
  induction pattern generalizing place wanted other with
  | empty => exact same place (.refl place)
  | one accepts =>
    simp only [admits]
    split
    · rfl
    · rename_i c rest split
      rw [same _ (Place.reaches_advance split)]
  | sequence first second firstAgrees secondAgrees =>
    exact firstAgrees place _ _ fun middle reached =>
      secondAgrees middle _ _ fun later onward => same later (reached.trans onward)
  | choice first second firstAgrees secondAgrees =>
    simp only [admits, firstAgrees place wanted other same, secondAgrees place wanted other same]
  | repetition greedy body agree =>
    exact admitsRounds_congr agree place.rest place wanted other same
  | capture body agree => exact agree place wanted other same
  | wordEdge | textStart | lineStart | textEnd => simp only [admits, same place (.refl place)]

/-- Rounds of a repetition lead to no wanted place where none is wanted, if its body does not. -/
theorem admitsRounds_false {body : Place → (Place → Bool) → Bool}
    (fails : ∀ place, body place (fun _ => false) = false) (rounds : List Char) (place : Place) :
    admitsRounds body rounds place (fun _ => false) = false := by
  induction rounds generalizing place with
  | nil => rfl
  | cons _ rounds ih => simp [admitsRounds, ih, fails]

/-- Nothing leads to a wanted place where none is wanted. -/
theorem admits_false (pattern : Pattern) (place : Place) :
    pattern.admits place (fun _ => false) = false := by
  induction pattern generalizing place with
  | one accepts =>
    simp only [admits]
    split <;> simp
  | sequence first second firstFails secondFails => simp [admits, firstFails, secondFails]
  | choice first second firstFails secondFails => simp [admits, firstFails, secondFails]
  | repetition greedy body fails => exact admitsRounds_false fails place.rest place
  | capture body fails => exact fails place
  | empty | wordEdge | textStart | lineStart | textEnd => simp [admits]

/-- A body that only may lead to later places leads nowhere from the end of the text. -/
theorem admits_later_of_rest_eq_nil (pattern : Pattern) {place : Place} (atEnd : place.rest = [])
    (wanted : Place → Bool) :
    pattern.admits place (fun later => later.index != place.index && wanted later) = false := by
  rw [← pattern.admits_false place]
  apply admits_congr
  intro later reached
  by_cases stays : later.index = place.index
  · simp [stays]
  · have := reached.length_lt stays
    simp [atEnd] at this

/-- More rounds than there are characters left make no difference. -/
theorem admitsRounds_eq (body : Pattern) (rounds other : List Char) (place : Place)
    (wanted : Place → Bool) (enough : place.rest.length ≤ rounds.length)
    (enoughToo : place.rest.length ≤ other.length) :
    admitsRounds body.admits rounds place wanted = admitsRounds body.admits other place wanted := by
  induction rounds generalizing other place with
  | nil =>
    have atEnd : place.rest = [] := by simpa using enough
    cases other with
    | nil => rfl
    | cons _ other => simp [admitsRounds, body.admits_later_of_rest_eq_nil atEnd]
  | cons _ rounds ih =>
    cases other with
    | nil =>
      have atEnd : place.rest = [] := by simpa using enoughToo
      simp [admitsRounds, body.admits_later_of_rest_eq_nil atEnd]
    | cons _ other =>
      simp only [admitsRounds]
      congr 1
      apply admits_congr
      intro later reached
      by_cases stays : later.index = place.index
      · simp [stays]
      · have := reached.length_lt stays
        simp only [List.length_cons] at enough enoughToo
        rw [ih other later (by omega) (by omega)]

/-- A repetition ends at once or goes on with a round that leads to a later place. -/
theorem admits_repetition (greedy : Bool) (body : Pattern) (place : Place) (wanted : Place → Bool) :
    (repetition greedy body).admits place wanted = (wanted place || body.admits place fun later =>
      later.index != place.index && (repetition greedy body).admits later wanted) := by
  cases split : place.rest with
  | nil => simp [admits, split, admitsRounds, body.admits_later_of_rest_eq_nil split]
  | cons c rest =>
    simp only [admits, split, admitsRounds]
    congr 1
    apply admits_congr
    intro later reached
    by_cases stays : later.index = place.index
    · simp [stays]
    · have := reached.length_lt stays
      rw [split, List.length_cons] at this
      rw [admitsRounds_eq body rest later.rest later wanted (by omega) (Nat.le_refl _)]

/-! ## What an outlook tells -/

/-- Whether an outlook is the one from a place, for the wanted places. -/
def Foretells : (pattern : Pattern) → pattern.Outlook → (Place → Bool) → Place → Prop
  | .one _, later, wanted, place => later = wanted place
  | .sequence first second, outlook, wanted, place =>
    first.Foretells outlook.1 (fun middle => second.admits middle wanted) place
      ∧ second.Foretells outlook.2 wanted place
  | .choice first second, outlook, wanted, place =>
    first.Foretells outlook.1 wanted place ∧ second.Foretells outlook.2 wanted place
  | .repetition greedy body, outlook, wanted, place =>
    body.Foretells outlook (fun later => (repetition greedy body).admits later wanted) place
  | .capture body, outlook, wanted, place => body.Foretells outlook wanted place
  | .empty, _, _, _ | .wordEdge, _, _, _ | .textStart, _, _, _ | .lineStart, _, _, _
  | .textEnd, _, _, _ => True

/-- An outlook depends only on the places that are reached. -/
theorem Foretells.congr {pattern : Pattern} {outlook : pattern.Outlook}
    {wanted other : Place → Bool} {place : Place} (told : pattern.Foretells outlook wanted place)
    (same : ∀ later, place.Reaches later → wanted later = other later) :
    pattern.Foretells outlook other place := by
  induction pattern generalizing wanted other with
  | one accepts => exact told.trans (same place (.refl place))
  | sequence first second firstAgrees secondAgrees =>
    refine ⟨firstAgrees told.1 fun middle reached => ?_, secondAgrees told.2 same⟩
    exact second.admits_congr _ _ _ fun later onward => same later (reached.trans onward)
  | choice first second firstAgrees secondAgrees =>
    exact ⟨firstAgrees told.1 same, secondAgrees told.2 same⟩
  | repetition greedy body agree =>
    refine agree told fun middle reached => ?_
    exact (repetition greedy body).admits_congr _ _ _ fun later onward =>
      same later (reached.trans onward)
  | capture body agree => exact agree told same
  | empty | wordEdge | textStart | lineStart | textEnd => trivial

/-- A look from a place tells whether some way of matching leads to a wanted place, if the outlook
from the next place is right; then the new outlook is right too. -/
theorem look_eq_admits (pattern : Pattern) (outlook : pattern.Outlook) (place : Place)
    (wanted : Place → Bool)
    (told : ∀ c rest, place.rest = c :: rest →
      pattern.Foretells outlook wanted (place.advance c rest)) :
    (pattern.look outlook place (wanted place)).1 = pattern.admits place wanted
      ∧ pattern.Foretells (pattern.look outlook place (wanted place)).2 wanted place := by
  induction pattern generalizing wanted with
  | one accepts =>
    refine ⟨?_, rfl⟩
    simp only [look, admits]
    cases split : place.rest with
    | nil => exact Bool.and_false outlook
    | cons c rest =>
      have : outlook = wanted (place.advance c rest) := told c rest split
      simp [this, Bool.and_comm]
  | sequence first second firstLooks secondLooks =>
    obtain ⟨found, foretold⟩ :=
      secondLooks outlook.2 wanted fun c rest split => (told c rest split).2
    obtain ⟨foundFirst, foretoldFirst⟩ := firstLooks outlook.1
      (fun middle => second.admits middle wanted) fun c rest split => (told c rest split).1
    rw [← found] at foundFirst foretoldFirst
    exact ⟨foundFirst, foretoldFirst, foretold⟩
  | choice first second firstLooks secondLooks =>
    obtain ⟨found, foretold⟩ :=
      firstLooks outlook.1 wanted fun c rest split => (told c rest split).1
    obtain ⟨foundOther, foretoldOther⟩ :=
      secondLooks outlook.2 wanted fun c rest split => (told c rest split).2
    exact ⟨by rw [admits, ← found, ← foundOther]; rfl, foretold, foretoldOther⟩
  | repetition greedy body looks =>
    have rounds : ∀ c rest, place.rest = c :: rest → body.Foretells outlook
        (fun later => (repetition greedy body).admits later wanted) (place.advance c rest) := told
    have trial := (looks outlook
      (fun later => later.index != place.index && (repetition greedy body).admits later wanted)
      fun c rest split => (rounds c rest split).congr fun later reached => by
        have := reached.index_le
        have moved : later.index ≠ place.index := by simp only [Place.advance] at this; omega
        simp [moved]).1
    have foretold := (looks outlook _ rounds).2
    have found := admits_repetition greedy body place wanted
    rw [← trial] at found
    simp only [bne_self_eq_false, Bool.false_and] at found
    rw [found] at foretold
    exact ⟨found.symm, foretold⟩
  | capture body looks => exact looks outlook wanted told
  | empty | wordEdge | textStart | lineStart | textEnd => exact ⟨rfl, trivial⟩

/-- A look that asks for the whole pattern tells whether it matches. -/
theorem look_true (pattern : Pattern) (outlook : pattern.Outlook) (place : Place)
    (told : ∀ c rest, place.rest = c :: rest →
      pattern.Foretells outlook (fun _ => true) (place.advance c rest)) :
    (pattern.look outlook place true).1 = (pattern.matchAt place).isSome
      ∧ pattern.Foretells (pattern.look outlook place true).2 (fun _ => true) place := by
  rw [matchAt, isSome_run pattern ⟨place, none⟩ some (fun _ => true) fun _ => rfl]
  exact pattern.look_eq_admits outlook place (fun _ => true) told

/-- A scan of the places from one on finds those from which the pattern matches, and its outlook
foretells the match from the first of them. -/
theorem scan_onward_eq_filter (pattern : Pattern) (rest : List Char) (place : Place)
    (here : place.rest = rest) :
    (pattern.scan (place.onward rest)).1
        = (place.onward rest).filter (fun later => (pattern.matchAt later).isSome)
      ∧ pattern.Foretells (pattern.scan (place.onward rest)).2 (fun _ => true) place := by
  induction rest generalizing place with
  | nil =>
    obtain ⟨found, foretold⟩ := pattern.look_true pattern.blank place (by simp [here])
    refine ⟨?_, foretold⟩
    simp [Place.onward, scan, found, List.filter_cons]
  | cons c rest ih =>
    obtain ⟨later, told⟩ := ih (place.advance c rest) rfl
    obtain ⟨found, foretold⟩ := pattern.look_true _ place fun d more split => by
      rw [here] at split
      cases split
      exact told
    refine ⟨?_, foretold⟩
    rw [Place.onward, List.filter_cons, ← found, ← later]
    rfl

/-- A scan finds exactly the places from which the pattern matches. -/
theorem places_eq_filter (pattern : Pattern) (text : List Char) :
    pattern.places text = (Place.all text).filter (fun place => (pattern.matchAt place).isSome) :=
  (pattern.scan_onward_eq_filter text (.start text) rfl).1

end Pattern
end Formwright
