import Formwright.Proofs.Prompt.BareCode
import Formwright.Proofs.Prompt.Fence
import Formwright.Prompt.Reading

/-!
# The layout of prompts

A prompt is read alike however it is laid out, with one exception. White space counts for a name in
an import, so two blanks between `import` and `from` make code of what a single one leaves in plain
language.
-/
namespace Formwright
open Pattern Text

/-! ## Fences -/

/-- A fence has no white space. -/
theorem isBlank_of_mem_fence : ∀ c ∈ fence, isBlank c = false := by
  intro c member
  obtain rfl : c = '`' := by simpa [fence] using member
  decide

/-- White space is no fence. -/
theorem not_startsWith_fence_of_isBlank {b : Char} (blank : isBlank b = true) (rest : List Char) :
    ¬fence <+: b :: rest :=
  not_startsWith_fence_of_ne (by
    rintro rfl
    cases blank)

/-- Where no fence starts, none does in a tighter layout. -/
theorem not_startsWith_fence_of_tightens {loose tight : List Char}
    (tightens : Tightens loose tight) (other : ¬fence <+: loose) : ¬fence <+: tight := by
  rintro ⟨rest, rfl⟩
  obtain ⟨later, rfl, -⟩ := tightens.exists_of_append_tight isBlank_of_mem_fence
  exact other ⟨later, rfl⟩

/-- Outside of fences a text is the same in both layouts, apart from the layout. -/
theorem tightens_unfenced {inside : Bool} {loose tight : List Char}
    (tightens : Tightens loose tight) :
    Tightens (unfenced inside loose) (unfenced inside tight) := by
  have unmarked {c : Char} {rest : List Char}
      (other : ∀ later, c = '`' → rest = '`' :: '`' :: later → False) : ¬fence <+: c :: rest := by
    intro starts
    obtain ⟨later, same⟩ := startsWith_fence_iff.mp starts
    exact other later (List.cons.inj same).1 (List.cons.inj same).2
  fun_induction unfenced inside loose generalizing tight with
  | case1 rest ih =>
    have fenced : Tightens (fence ++ rest) tight := tightens
    obtain ⟨later, rfl, onward⟩ := fenced.exists_of_append isBlank_of_mem_fence
    exact .blank rfl rfl (ih onward)
  | case2 rest ih =>
    have fenced : Tightens (fence ++ rest) tight := tightens
    obtain ⟨later, rfl, onward⟩ := fenced.exists_of_append isBlank_of_mem_fence
    exact ih onward
  | case3 c rest other ih =>
    have still := not_startsWith_fence_of_tightens tightens (unmarked other)
    cases kind : isBlank c with
    | false =>
      obtain ⟨later, rfl, onward⟩ := tightens.exists_of_char kind
      rw [unfenced_false_cons still]
      exact .char kind (ih onward)
    | true =>
      rcases tightens.cases_of_blank kind with
        ⟨d, later, rfl, kindToo, onward⟩ | ⟨d, more, rfl, next, onward⟩ | ⟨rfl, rfl⟩
      · rw [unfenced_false_cons still]
        exact .blank kind kindToo (ih onward)
      · have outside := ih onward
        rw [unfenced_false_cons (not_startsWith_fence_of_isBlank next more)] at outside ⊢
        exact .surplus kind next outside
      · exact .trailing kind
  | case4 c rest other ih =>
    have still := not_startsWith_fence_of_tightens tightens (unmarked other)
    cases kind : isBlank c with
    | false =>
      obtain ⟨later, rfl, onward⟩ := tightens.exists_of_char kind
      rw [unfenced_true_cons still]
      exact ih onward
    | true =>
      rcases tightens.cases_of_blank kind with
        ⟨d, later, rfl, kindToo, onward⟩ | ⟨d, more, rfl, next, onward⟩ | ⟨rfl, rfl⟩
      · rw [unfenced_true_cons still]
        exact ih onward
      · exact ih onward
      · exact .nil
  | case5 inside =>
    rw [tightens.eq_nil]
    cases inside <;> exact .nil

/-- White space before the first fence is kept. -/
theorem unfenced_blanks_append {blanks : List Char} (blank : ∀ b ∈ blanks, isBlank b = true)
    (rest : List Char) : unfenced false (blanks ++ rest) = blanks ++ unfenced false rest :=
  unfenced_false_append (fun fenced => by cases blank '`' fenced) rest

/-- Fenced code starts with a backtick. -/
theorem startsWord_fencedCode {place : Place} {stop : Point}
    (matched : fencedCode.matchAt place = some stop) :
    ∃ c rest, place.rest = c :: rest ∧ isBlank c = false ∧
      (place.advance c rest).Passes stop.toPlace := by
  obtain ⟨rest, split⟩ := startsWith_fence_iff.mp (startsWith_fence_of_matchAt matched)
  obtain ⟨stopToo, found, moved, -⟩ := exists_matchAt_fencedCode split
  obtain rfl := Option.some.inj (matched.symm.trans found)
  obtain ⟨c, later, splitToo, passes⟩ := (passes_of_matchAt matched).exists_advance moved
  obtain ⟨rfl, rfl⟩ := List.cons.inj (split.symm.trans splitToo)
  exact ⟨_, _, split, by decide, passes⟩

/-- With spaces for fenced code a text is the same in both layouts, apart from the layout. -/
theorem tidies_replaceAll_fencedCode {loose tight : List Char} (tidies : Tidies loose tight) :
    Tidies (fencedCode.replaceAll [' '] loose) (fencedCode.replaceAll [' '] tight) := by
  obtain ⟨blanks, rest, blank, rfl, tightens⟩ := tidies
  rw [(rewrites_replaceAll fencedCode [' '] (blanks ++ rest)).eq_unfenced,
    (rewrites_replaceAll fencedCode [' '] tight).eq_unfenced]
  exact ⟨blanks, _, blank, unfenced_blanks_append blank rest, tightens_unfenced tightens⟩

/-! ## Lead-ins -/

/-- The phrases that lead in code match alike in both layouts. -/
theorem matchesAlike_of_mem_leadIns : ∀ leadIn ∈ leadIns, MatchesAlike leadIn := by
  have word (wanted : String) (solid : IsSolid wanted) : Phrase wanted := .ofText wanted solid
  have the := word "the" (by decide)
  have code := word "code" (by decide)
  have kod := word "kod" (by decide)
  have colon := word ":" (by decide)
  have existing : Phrase (anyOf ["existing", "current"]) :=
    .ofTexts ["existing", "current"] (by decide)
  have current : Phrase (anyOf ["current", "existing"]) :=
    .ofTexts ["current", "existing"] (by decide)
  have obecny : Phrase (anyOf ["obecny", "aktualny"]) :=
    .ofTexts ["obecny", "aktualny"] (by decide)
  simp only [leadIns, List.forall_mem_cons]
  refine ⟨?_, ?_, ?_, ?_, ?_, ?_, nofun⟩
  · have verbs : Phrase (anyOf ["modify", "update", "change", "edit"]) :=
      .ofTexts ["modify", "update", "change", "edit"] (by decide)
    have opening := (word "please" (by decide)).afterMaybe verbs
    have component := word "component" (by decide)
    exact ((opening.spacedMaybe the existing).spaced component).closing
      (.ofOneOf ":.," (by decide))
  · have opening := (word "here" (by decide)).spaced (word "is" (by decide))
    exact ((opening.spacedMaybe the current).spaced code).closing
      (.ofOneOf ":." (by decide))
  · exact ((current.ofEdge.spaced code).apart colon).matchesAlike
  · have kinds : Phrase (anyOf ["istniejący", "istniejacy", "obecny", "aktualny"]) :=
      .ofTexts ["istniejący", "istniejacy", "obecny", "aktualny"] (by decide)
    have opening := (word "zmodyfikuj" (by decide)).spaced kinds
    exact (opening.spaced (word "komponent" (by decide))).closing
      (.ofOneOf ":.," (by decide))
  · have kinds : Phrase (anyOf ["obecny", "aktualny", "istniejący", "istniejacy"]) :=
      .ofTexts ["obecny", "aktualny", "istniejący", "istniejacy"] (by decide)
    exact (((word "oto" (by decide)).spaced kinds).spaced kod).closing
      (.ofOneOf ":." (by decide))
  · exact ((obecny.ofEdge.spaced kod).apart colon).matchesAlike

namespace Request

/-- What is left of a prompt is the same in both layouts, apart from the layout. -/
theorem tidies_withoutFences {loose tight : List Char} (tidies : Tidies loose tight) :
    Tidies (withoutFences loose) (withoutFences tight) := by
  have each := matchesAlike_of_mem_leadIns
  have outside := tidies_replaceAll_fencedCode tidies
  rw [withoutFences, withoutFences]
  revert outside each
  generalize fencedCode.replaceAll [' '] loose = text
  generalize fencedCode.replaceAll [' '] tight = other
  induction leadIns generalizing text other with
  | nil => exact fun _ outside => outside
  | cons leadIn later ih =>
    intro each outside
    rw [List.forall_mem_cons] at each
    exact ih _ _ each.2 (each.1.tidies_replaceAll outside)

/-- Either nothing is taken out of a prompt, or something that is no white space. -/
theorem withoutFences_eq_or_ink_lt (prompt : List Char) :
    withoutFences prompt = prompt ∨ ink (withoutFences prompt) < ink prompt := by
  have each := matchesAlike_of_mem_leadIns
  have outside : fencedCode.replaceAll [' '] prompt = prompt ∨
      ink (fencedCode.replaceAll [' '] prompt) < ink prompt :=
    Rewrites.eq_or_ink_lt startsWord_fencedCode (rewrites_replaceAll fencedCode [' '] prompt)
  rw [withoutFences]
  revert outside each
  generalize fencedCode.replaceAll [' '] prompt = text
  induction leadIns generalizing text with
  | nil => exact fun _ outside => outside
  | cons leadIn later ih =>
    intro each outside
    rw [List.forall_mem_cons] at each
    have next : leadIn.replaceAll [' '] text = text ∨
        ink (leadIn.replaceAll [' '] text) < ink text :=
      Rewrites.eq_or_ink_lt each.1.exists_of_matchAt (rewrites_replaceAll leadIn [' '] text)
    have both : leadIn.replaceAll [' '] text = prompt ∨
        ink (leadIn.replaceAll [' '] text) < ink prompt := by
      rcases next with same | less
      · rwa [same]
      · rcases outside with same | before
        · exact .inr (same ▸ less)
        · exact .inr (Nat.lt_trans less before)
    exact ih _ each.2 both

/-- Whether something is taken out of a prompt does not depend on the layout. -/
theorem stripped_eq {loose tight : List Char} (tidies : Tidies loose tight) :
    (withoutFences loose != loose) = (withoutFences tight != tight) := by
  have told (prompt : List Char) :
      (withoutFences prompt != prompt) = decide (ink (withoutFences prompt) ≠ ink prompt) := by
    rw [Bool.eq_iff_iff, bne_iff_ne, decide_eq_true_iff]
    rcases withoutFences_eq_or_ink_lt prompt with same | less
    · simp [same]
    · exact ⟨fun _ => Nat.ne_of_lt less, fun other same => other (congrArg ink same)⟩
  rw [told, told, tidies.ink_eq, (tidies_withoutFences tidies).ink_eq]

/-- Two layouts of a prompt make the same request, unless bare code starts with an import without
names. -/
theorem ofPrompt_eq {loose tight : List Char} (tidies : Tidies loose tight)
    (named : startsNameless (withoutFences loose) = false) : ofPrompt loose = ofPrompt tight := by
  have kept := tidies_withoutFences tidies
  have same : words (withoutFences loose) = words (withoutFences tight) :=
    kept.wordsBy_eq fun _ blank => blank
  have both := rel_search_codeStart kept named
  rw [ofPrompt, ofPrompt, stripped_eq tidies, same]
  cases found : codeStart.search (withoutFences loose) with
  | none =>
    cases foundToo : codeStart.search (withoutFences tight) with
    | none => rfl
    | some startToo =>
      rw [found, foundToo] at both
      cases both
  | some start =>
    cases foundToo : codeStart.search (withoutFences tight) with
    | none =>
      rw [found, foundToo] at both
      cases both
    | some startToo =>
      rw [found, foundToo] at both
      cases both with
      | some pieces =>
        have prose : proseWords start.before = proseWords startToo.before :=
          congrArg List.length (pieces _ fun b blank => by rw [isLetter_of_isBlank blank]; rfl)
        have before : words start.before = words startToo.before := pieces _ fun _ blank => blank
        simp only [prose, before]

end Request

namespace Prompt

/-- A prompt is reported as code if its request is. -/
theorem codeLike_read (prompt : String) :
    (read prompt).report.codeLike = (Request.ofPrompt prompt.toList).isCode := by
  rw [read]
  cases Request.ofPrompt prompt.toList with
  | mk text stripped isCode => cases isCode <;> rfl

/-- A prompt is read as its words with single spaces between them are, the report included, unless
what is left of it without fenced code and lead-ins has bare code that starts with an import without
names. -/
theorem read_joinWords_words (prompt : String)
    (named : startsNameless (Request.withoutFences prompt.toList) = false) :
    read (String.ofList (joinWords (words prompt.toList))) = read prompt := by
  rw [read, read, String.toList_ofList,
    Request.ofPrompt_eq (tidies_joinWords_words prompt.toList) named]

/-- A prompt over several lines with a lead-in and fenced code is read as on one line. -/
theorem read_joinWords_words_leadIn :
    startsNameless (Request.withoutFences
        "Edit the\tcurrent component:\n```a```\nan  email".toList) = false ∧
      read (String.ofList (joinWords (words
          "Edit the\tcurrent component:\n```a```\nan  email".toList))) =
        read "Edit the\tcurrent component:\n```a```\nan  email" :=
  have named : startsNameless (Request.withoutFences
      "Edit the\tcurrent component:\n```a```\nan  email".toList) = false := by
    decide +kernel
  ⟨named, read_joinWords_words _ named⟩

/-- A second blank after `import` makes code of a prompt in plain language. -/
theorem read_ne_of_two_blanks :
    read "Form to import  from \"CSV\"" ≠
      read (String.ofList (joinWords (words "Form to import  from \"CSV\"".toList))) := by
  intro same
  have reported := congrArg (·.report.codeLike) same
  simp only [codeLike_read] at reported
  revert reported
  decide +kernel

end Prompt

end Formwright
