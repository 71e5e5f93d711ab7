import Formwright.Proofs.Pattern.Rewriting
import Formwright.Proofs.Text.Words
import Formwright.Prompt.Reading

/-!
# Fenced code

What stands between fences has no part in how a prompt is read. Fences are paired from left to
right, whatever the code between them looks like, and none is left when the request is read.
-/
namespace Formwright
open Pattern Text

/-- The characters of a fence. -/
def fence : List Char := "```".toList

/-- A text with a space for everything that is fenced, for a text that starts inside of a fence or
outside. -/
def unfenced : (inside : Bool) → List Char → List Char
  | false, '`' :: '`' :: '`' :: rest => ' ' :: unfenced true rest
  | true, '`' :: '`' :: '`' :: rest => unfenced false rest
  | false, c :: rest => c :: unfenced false rest
  | true, _ :: rest => unfenced true rest
  | _, [] => []

/-! ## Where fences are -/

/-- A text starts with a fence if its first three characters are backticks. -/
theorem startsWith_fence_iff {text : List Char} :
    fence <+: text ↔ ∃ rest, text = '`' :: '`' :: '`' :: rest :=
  ⟨fun ⟨rest, same⟩ => ⟨rest, same.symm⟩, fun ⟨rest, same⟩ => ⟨rest, same.symm⟩⟩

variable {c : Char} {rest : List Char}

/-- Outside of fences a character stays where no fence starts with it. -/
theorem unfenced_false_cons (other : ¬fence <+: c :: rest) :
    unfenced false (c :: rest) = c :: unfenced false rest :=
  unfenced.eq_3 c rest fun later first same =>
    other (startsWith_fence_iff.mpr ⟨later, by rw [first, same]⟩)

/-- Inside of a fence a character goes where no fence starts with it. -/
theorem unfenced_true_cons (other : ¬fence <+: c :: rest) :
    unfenced true (c :: rest) = unfenced true rest :=
  unfenced.eq_4 c rest fun later first same =>
    other (startsWith_fence_iff.mpr ⟨later, by rw [first, same]⟩)

/-- No fence starts with a character other than the backtick. -/
theorem not_startsWith_fence_of_ne (other : c ≠ '`') : ¬fence <+: c :: rest :=
  fun starts => other (List.cons_prefix_cons.mp starts).1.symm

/-- A text without backticks stands as it is before what is outside of fences. -/
theorem unfenced_false_append {plain : List Char} (unfencing : '`' ∉ plain) (rest : List Char) :
    unfenced false (plain ++ rest) = plain ++ unfenced false rest := by
  induction plain with
  | nil => rfl
  | cons c later ih =>
    obtain ⟨first, others⟩ := List.ne_and_not_mem_of_not_mem_cons unfencing
    rw [List.cons_append, unfenced_false_cons (not_startsWith_fence_of_ne (Ne.symm first)),
      ih others, List.cons_append]

/-- A text without backticks is lost inside of a fence. -/
theorem unfenced_true_append {code : List Char} (unfencing : '`' ∉ code) (rest : List Char) :
    unfenced true (code ++ rest) = unfenced true rest := by
  induction code with
  | nil => rfl
  | cons c later ih =>
    obtain ⟨first, others⟩ := List.ne_and_not_mem_of_not_mem_cons unfencing
    rw [List.cons_append, unfenced_true_cons (not_startsWith_fence_of_ne (Ne.symm first)),
      ih others]

/-! ## Finding fences -/

/-- The place after a fence. -/
def afterFence (place : Place) (rest : List Char) : Place :=
  ((place.advance '`' ('`' :: '`' :: rest)).advance '`' ('`' :: rest)).advance '`' rest

/-- A fence is matched where there is one. -/
theorem run_fence {point : Point} (split : point.rest = '`' :: '`' :: '`' :: rest)
    (next : Continuation) :
    (exactText "```").run point next = next ⟨afterFence point.toPlace rest, point.captured⟩ := by
  simp [exactText, all, run, exactly, split, afterFence, Place.advance]

/-- A fence is matched nowhere else. -/
theorem run_fence_eq_none {point : Point} (other : ¬fence <+: point.rest) (next : Continuation) :
    (exactText "```").run point next = none := by
  by_contra matched
  obtain ⟨stop, matched⟩ := Option.ne_none_iff_exists'.mp matched
  exact other (prefix_of_run_exactText matched)

/-- Where fenced code ends. -/
def fenceClose : Pattern := anyOf [exactText "```", textEnd]

/-- What follows an opening fence. -/
def fenceBody : Pattern := reluctantMany (.one fun _ => true) ++ fenceClose

/-- Fenced code that no fence closes goes on as long as there is text. -/
theorem run_fenceClose_eq {point : Point} (other : ¬fence <+: point.rest) :
    fenceClose.run point some = if point.rest.isEmpty then some point else none := by
  have choose : fenceClose = .choice (exactText "```") textEnd := rfl
  rw [choose, run, run_fence_eq_none other, run]

/-- From inside of a fence a match ends where the text goes on outside of it. -/
theorem exists_run_fenceBody (point : Point) :
    ∃ stop, fenceBody.run point some = some stop ∧
      unfenced false stop.rest = unfenced true point.rest := by
  have rounds : fenceBody.run point some = repeatBody (run (.one fun _ => true)) false point.rest
    point (fenceClose.run · some) := rfl
  rw [rounds]
  generalize left : point.rest = text
  clear rounds
  induction text generalizing point with
  | nil =>
    have other : ¬fence <+: point.rest := by simp [left, fence]
    refine ⟨point, ?_, by rw [left]; rfl⟩
    rw [repeatBody, run_fenceClose_eq other, left]
    rfl
  | cons c rest ih =>
    by_cases closed : fence <+: point.rest
    · obtain ⟨later, split⟩ := startsWith_fence_iff.mp closed
      have stops : fenceClose.run point some =
          some ⟨afterFence point.toPlace later, point.captured⟩ := by
        have choose : fenceClose = .choice (exactText "```") textEnd := rfl
        rw [choose, run, run_fence split]
      refine ⟨_, by rw [repeatBody, stops]; rfl, ?_⟩
      rw [← left, split, unfenced]
      rfl
    · obtain ⟨stop, found, goesOn⟩ := ih ⟨point.advance c rest, point.captured⟩ rfl
      refine ⟨stop, ?_, goesOn.trans (unfenced_true_cons (left ▸ closed)).symm⟩
      rw [repeatBody, run_fenceClose_eq closed, left]
      simpa [run, left, Place.advance] using found

/-- Fenced code is matched from a fence on. -/
theorem exists_matchAt_fencedCode {place : Place} (split : place.rest = '`' :: '`' :: '`' :: rest) :
    ∃ stop, fencedCode.matchAt place = some stop ∧ stop.index ≠ place.index ∧
      unfenced false stop.rest = unfenced true rest := by
  obtain ⟨stop, matched, goesOn⟩ := exists_run_fenceBody ⟨afterFence place rest, none⟩
  obtain ⟨_, onward, ⟨rfl⟩⟩ := exists_of_run _ matched
  refine ⟨stop, ?_, ?_, goesOn⟩
  · rw [matchAt]
    exact (run_fence split _).trans matched
  · have further := onward.index_le
    simp only [afterFence, Place.advance] at further
    omega

/-- Fenced code is matched from nowhere else. -/
theorem startsWith_fence_of_matchAt {place : Place} {stop : Point}
    (matched : fencedCode.matchAt place = some stop) : fence <+: place.rest :=
  prefix_of_run_exactText matched

/-- With spaces for its fenced code a text is what is outside of its fences. -/
theorem Pattern.Rewrites.eq_unfenced {place : Place} {result : List Char}
    (rewritten : Rewrites fencedCode [' '] place result) : result = unfenced false place.rest := by
  induction rewritten with
  | done atEnd => rw [atEnd, unfenced]
  | @keep place c rest result split unmatched later ih =>
    have other : ¬fence <+: c :: rest := by
      intro starts
      obtain ⟨more, same⟩ := startsWith_fence_iff.mp starts
      obtain ⟨stop, matched, moved, -⟩ := exists_matchAt_fencedCode (split.trans same)
      exact moved (unmatched stop matched)
    rw [split, unfenced_false_cons other, ih]
    rfl
  | swap matched moved later ih =>
    obtain ⟨rest, split⟩ := startsWith_fence_iff.mp (startsWith_fence_of_matchAt matched)
    obtain ⟨stop, found, -, goesOn⟩ := exists_matchAt_fencedCode split
    obtain rfl := Option.some.inj (matched.symm.trans found)
    rw [split, unfenced, ih, goesOn, List.singleton_append]

/-- No fence is left where fenced code was replaced. -/
theorem Pattern.Rewrites.no_fence_left {place : Place} {result : List Char}
    (rewritten : Rewrites fencedCode [' '] place result) : ¬fence <:+: result := by
  induction rewritten with
  | done => exact fun held => absurd (List.infix_nil.mp held) (by decide)
  | keep split unmatched later ih =>
    intro held
    rcases List.infix_cons_iff.mp held with starts | held
    · have before := (Rewrites.keep split unmatched later).starts_before (by decide) starts
      obtain ⟨rest, split⟩ := startsWith_fence_iff.mp before
      obtain ⟨stop, matched, moved, -⟩ := exists_matchAt_fencedCode split
      exact moved (unmatched stop matched)
    · exact ih held
  | swap matched moved later ih =>
    intro held
    rcases List.infix_cons_iff.mp held with starts | held
    · exact absurd (List.cons_prefix_cons.mp starts).1 (by decide)
    · exact ih held

/-! ## Requests without fences -/

namespace Request

/-- What is left of a prompt without its fences and lead-ins holds nothing without spaces that is
not outside of the fences. -/
theorem held_of_withoutFences {prompt needle : List Char} (unspaced : ' ' ∉ needle)
    (held : needle <:+: withoutFences prompt) :
    needle <:+: fencedCode.replaceAll [' '] prompt := by
  revert held
  rw [withoutFences]
  generalize fencedCode.replaceAll [' '] prompt = text
  induction leadIns generalizing text with
  | nil => exact id
  | cons leadIn later ih => exact fun held => held_of_replaceAll unspaced (ih _ held)

/-- What is left of a prompt has no fence. -/
theorem no_fence_withoutFences (prompt : List Char) : ¬fence <:+: withoutFences prompt :=
  fun held => (rewrites_replaceAll fencedCode [' '] prompt).no_fence_left
    (held_of_withoutFences (by decide) held)

/-- Something was taken out of a prompt with a fence. -/
theorem withoutFences_ne_of_fence {prompt : List Char} (fenced : fence <:+: prompt) :
    withoutFences prompt ≠ prompt :=
  fun same => no_fence_withoutFences prompt (same.symm ▸ fenced)

/-- The text before the first match of a pattern starts the text. -/
theorem prefix_of_search {pattern : Pattern} {text : List Char} {first : Match}
    (found : pattern.search text = some first) : first.before <+: text := by
  obtain ⟨place, -, found⟩ := Option.bind_eq_some_iff.mp found
  obtain ⟨stop, -, found⟩ := Option.bind_eq_some_iff.mp found
  cases found
  exact List.take_prefix place.index text

/-- A request is made of the words of a part of what is left of the prompt. -/
theorem exists_text_eq (prompt : List Char) : ∃ part, part <:+: withoutFences prompt ∧
    (ofPrompt prompt).text = joinWords (words part) := by
  have whole : withoutFences prompt <:+: withoutFences prompt := List.infix_rfl
  cases found : codeStart.search (withoutFences prompt) with
  | none => exact ⟨_, whole, by simp only [ofPrompt, found]⟩
  | some start =>
    by_cases few : proseWords start.before < minProseWords
    · exact ⟨_, whole, by simp only [ofPrompt, found, few, if_true]⟩
    · exact ⟨_, (prefix_of_search found).isInfix, by simp only [ofPrompt, found, few, if_false]⟩

/-- A request has no fence. -/
theorem no_fence_text (prompt : List Char) : ¬fence <:+: (ofPrompt prompt).text := by
  obtain ⟨part, within, made⟩ := exists_text_eq prompt
  rw [made]
  intro held
  obtain ⟨word, listed, held⟩ := exists_infix_of_infix_joinWords (by decide) (by decide) held
  have cut := infix_of_mem_pieces (mem_wordsBy_iff.mp listed).1
  exact no_fence_withoutFences prompt ((held.trans cut).trans within)

/-- Prompts that are the same before a fence and outside of it make the same request. -/
theorem ofPrompt_fenced {before behind other : List Char} (plain : '`' ∉ before)
    (same : unfenced true behind = unfenced true other) :
    ofPrompt (before ++ fence ++ behind) = ofPrompt (before ++ fence ++ other) := by
  have outside (behind : List Char) : fencedCode.replaceAll [' '] (before ++ fence ++ behind) =
      before ++ ' ' :: unfenced true behind := by
    rw [(rewrites_replaceAll fencedCode [' '] _).eq_unfenced, Place.start, List.append_assoc,
      unfenced_false_append plain]
    rfl
  have left : withoutFences (before ++ fence ++ behind) =
      withoutFences (before ++ fence ++ other) := by
    rw [withoutFences, withoutFences, outside, outside, same]
  have stripped (behind : List Char) :
      (withoutFences (before ++ fence ++ behind) != before ++ fence ++ behind) = true :=
    bne_iff_ne.mpr (withoutFences_ne_of_fence ⟨before, behind, rfl⟩)
  simp only [ofPrompt, stripped]
  rw [left]

end Request

namespace Prompt

/-- What stands between two fences has no part in how a prompt is read, and neither has what stands
behind a fence that is not closed; and a request has no fence. -/
theorem read_fenced :
    (∀ before code other after : String,
      '`' ∉ before.toList → '`' ∉ code.toList → '`' ∉ other.toList →
        read (before ++ "```" ++ code ++ "```" ++ after) =
          read (before ++ "```" ++ other ++ "```" ++ after) ∧
        read (before ++ "```" ++ code) = read (before ++ "```" ++ other)) ∧
    ∀ prompt : String, ¬"```".toList <:+: (Request.ofPrompt prompt.toList).text := by
  refine ⟨fun before code other after plain unfencing unfencingToo => ?_,
    fun prompt => Request.no_fence_text prompt.toList⟩
  have same {behind behindToo : String}
      (lost : unfenced true behind.toList = unfenced true behindToo.toList) :
      read (before ++ "```" ++ behind) = read (before ++ "```" ++ behindToo) := by
    have spelled (behind : String) :
        (before ++ "```" ++ behind).toList = before.toList ++ fence ++ behind.toList := by
      rw [String.toList_append, String.toList_append, fence]
    rw [read, read, spelled, spelled, Request.ofPrompt_fenced plain lost]
  constructor
  · have closed {code : String} (unfencing : '`' ∉ code.toList) :
        unfenced true (code ++ ("```" ++ after)).toList = unfenced false after.toList := by
      rw [String.toList_append, String.toList_append, unfenced_true_append unfencing]
      rfl
    simp only [String.append_assoc] at same ⊢
    exact same ((closed unfencing).trans (closed unfencingToo).symm)
  · have endless {code : String} (unfencing : '`' ∉ code.toList) :
        unfenced true code.toList = [] := by
      rw [← List.append_nil code.toList, unfenced_true_append unfencing]
      rfl
    exact same ((endless unfencing).trans (endless unfencingToo).symm)

/-- Fields are not looked for in fenced code, and code that no fence closes is no different from no
code. -/
theorem read_fenced_signIn :
    (read ("Sign in " ++ "```" ++ "with name and age" ++ "```" ++
        " with email")).document.fields.map (·.name) = ["email"] ∧
      read ("Sign in with email " ++ "```" ++ "class Form") =
        read ("Sign in with email " ++ "```" ++ "") := by
  have named := (read_fenced.1 "Sign in " "with name and age" "" " with email" (by decide)
    (by decide) (by decide)).1
  have behind := (read_fenced.1 "Sign in with email " "class Form" "" "" (by decide) (by decide)
    (by decide)).2
  refine ⟨?_, behind⟩
  rw [named]
  decide +kernel

end Prompt
end Formwright
