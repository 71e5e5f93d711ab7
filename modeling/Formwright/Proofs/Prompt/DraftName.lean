import Formwright.Proofs.Prompt.Draft
import Mathlib.Order.Bounds.Basic

/-!
# Names of drafts

There is one draft for each distinct token, in the order in which the tokens occur first. It has the
name made of its token if no draft before it has that name, and else that name with the least number
from 2 on with which none has it (`ofTokens_namedAfter`). The plain search, which tries one number
after the other among all names, always comes to an end, after at most one try more than there are
names.
-/
namespace Formwright

/-! ## The search for a number -/

/-- The search for a number with which a name is not taken, from the given number on, in a limited
number of tries; none of the names is ever left out. -/
def firstFree? (name : String) (taken : List String) : (tries : Nat) → Nat → Option Nat
  | 0, _ => none
  | tries + 1, number =>
    if numbered name number ∈ taken then firstFree? name taken tries (number + 1) else some number

/-- The search ends at a number whose name is free if all numbers before it are taken. -/
theorem firstFree?_eq {name : String} {taken : List String} {tries number found : Nat}
    (reached : number ≤ found)
    (blocked : ∀ tried, number ≤ tried → tried < found → numbered name tried ∈ taken)
    (free : numbered name found ∉ taken) (enough : found < number + tries) :
    firstFree? name taken tries number = some found := by
  induction tries generalizing number with
  | zero => omega
  | succ tries ih =>
    rw [firstFree?]
    rcases Nat.eq_or_lt_of_le reached with rfl | further
    · rw [if_neg free]
    · rw [if_pos (blocked number (Nat.le_refl _) further)]
      refine ih further (fun tried after => blocked tried (Nat.le_of_succ_le after)) ?_
      omega

/-- The search that leaves out the names found to be taken goes on at most once for each name. -/
theorem freeNumber_le (name : String) (bound taken : List String) (number : Nat) :
    freeNumber name bound taken number ≤ number + bound.length := by
  induction bound generalizing taken number with
  | nil => exact Nat.le_refl number
  | cons _ later ih =>
    rw [freeNumber]
    split
    · have further := ih (taken.erase (numbered name number)) (number + 1)
      rw [List.length_cons]
      omega
    · exact Nat.le_add_right _ _

/-- The names with the numbers before the one where the search ends are taken. -/
theorem numbered_mem_of_lt_freeNumber {name : String} {bound taken : List String}
    {number tried : Nat} (reached : number ≤ tried)
    (before : tried < freeNumber name bound taken number) : numbered name tried ∈ taken := by
  induction bound generalizing taken number with
  | nil => exact absurd before (Nat.not_lt.mpr reached)
  | cons _ later ih =>
    rw [freeNumber] at before
    split at before
    · next used =>
      rcases Nat.eq_or_lt_of_le reached with rfl | further
      · exact used
      · exact List.mem_of_mem_erase (ih further before)
    · exact absurd before (Nat.not_lt.mpr reached)

/-- How a name comes about that is wanted after some earlier ones: it is the wanted one if none of
them is that, and else the wanted one with the least number from 2 on that makes it none of them.
The plain search finds that number in any number of tries that is larger than that of the earlier
names. -/
structure NamedAfter (earlier : List String) (wanted name : String) : Prop where
  kept : wanted ∉ earlier → name = wanted
  changed : wanted ∈ earlier → ∃ number, name = numbered wanted number ∧
    IsLeast {tried | 2 ≤ tried ∧ numbered wanted tried ∉ earlier} number ∧
    ∀ tries, earlier.length < tries → firstFree? wanted earlier tries 2 = some number

/-- A free name comes about like that. -/
theorem namedAfter_freeName (earlier : List String) (wanted : String) :
    NamedAfter earlier wanted (freeName earlier wanted) := by
  have reached := le_freeNumber wanted earlier earlier 2
  have free : numbered wanted (freeNumber wanted earlier earlier 2) ∉ earlier :=
    numbered_freeNumber_notMem (Nat.le_refl _) 2
  have blocked : ∀ tried, 2 ≤ tried → tried < freeNumber wanted earlier earlier 2 →
      numbered wanted tried ∈ earlier :=
    fun _ => numbered_mem_of_lt_freeNumber
  constructor
  · exact fun fresh => if_pos fresh
  · intro used
    refine ⟨freeNumber wanted earlier earlier 2, if_neg (not_not_intro used), ⟨⟨reached, free⟩, ?_⟩,
      fun tries enough => firstFree?_eq reached blocked free ?_⟩
    · rintro tried ⟨after, unused⟩
      exact Nat.not_lt.mp fun before => unused (blocked tried after before)
    · have := freeNumber_le wanted earlier earlier 2
      omega

/-! ## Drafts one after the other -/

namespace Draft

/-- The drafts for tokens after some others: one for each distinct token that is not seen yet, in
the order of first occurrence, named after the taken names and those of the drafts before it. -/
theorem drafts_ofTokensAfter (language : Language) (seen taken tokens : List String) :
    let drafts := ofTokensAfter language seen taken tokens
    let unseen := (tokens.filter (· ∉ seen)).eraseDups
    drafts.length = unseen.length ∧ ∀ index token, unseen[index]? = some token →
      ∃ name, drafts[index]? = some (ofToken language token name) ∧
        NamedAfter (taken ++ (names drafts).take index) (identifierFor token) name := by
  induction tokens generalizing seen taken with
  | nil => exact ⟨rfl, nofun⟩
  | cons token later ih =>
    by_cases known : token ∈ seen
    · simpa [ofTokensAfter, known] using ih seen taken
    · have named := namedAfter_freeName taken (identifierFor token)
      have step : ofTokensAfter language seen taken (token :: later) =
          let name := freeName taken (identifierFor token)
          ofToken language token name ::
            ofTokensAfter language (token :: seen) (taken ++ [name]) later := by
        rw [ofTokensAfter, if_neg known]
      have unseen : ((token :: later).filter (· ∉ seen)).eraseDups =
          token :: (later.filter (· ∉ token :: seen)).eraseDups := by
        rw [List.filter_cons_of_pos (by simpa using known), List.eraseDups_cons, List.filter_filter]
        congr 3
        funext other
        simp [not_or, beq_eq_decide]
      obtain ⟨count, drafted⟩ :=
        ih (token :: seen) (taken ++ [freeName taken (identifierFor token)])
      dsimp only
      rw [step, unseen]
      refine ⟨congrArg Nat.succ count, fun index other listed => ?_⟩
      cases index with
      | zero =>
        obtain rfl := Option.some.inj listed
        exact ⟨_, rfl, by simpa using named⟩
      | succ index =>
        obtain ⟨name, draft, named⟩ := drafted index other listed
        refine ⟨name, draft, ?_⟩
        simpa [names, name_ofToken] using named

/-- There are as many drafts for tokens as there are distinct tokens, and they are those of the
distinct tokens in the order of first occurrence, each named after the names of the drafts before
it. The names are distinct, and each of them is an identifier. -/
theorem ofTokens_namedAfter (language : Language) (tokens : List String) :
    (ofTokens language tokens).length = tokens.eraseDups.length ∧
    (∀ index token, tokens.eraseDups[index]? = some token →
      ∃ name, (ofTokens language tokens)[index]? = some (ofToken language token name) ∧
        NamedAfter ((names (ofTokens language tokens)).take index) (identifierFor token) name) ∧
    (names (ofTokens language tokens)).Nodup ∧
    ∀ name ∈ names (ofTokens language tokens), Code.isIdentifier name = true := by
  have all : tokens.filter (· ∉ ([] : List String)) = tokens := by simp
  obtain ⟨count, drafted⟩ := drafts_ofTokensAfter language [] [] tokens
  rw [all] at count drafted
  refine ⟨count, drafted, (nodup_names_ofTokensAfter language [] [] tokens).1, ?_⟩
  intro name listed
  obtain ⟨draft, member, rfl⟩ := List.mem_map.mp listed
  exact (isCoherent_of_mem_ofTokensAfter draft member).identifier

/-- The number two is passed over for the third distinct token, since the name with that number is
the name of the first one. -/
theorem ofTokens_namedAfter_ordinal :
    ["name 2", "name", "name", "Name!"].eraseDups[2]? = some "Name!" ∧
      names (ofTokens .english ["name 2", "name", "name", "Name!"]) = ["name2", "name", "name3"] ∧
      NamedAfter ["name2", "name"] (identifierFor "Name!") "name3" := by
  have named : names (ofTokens .english ["name 2", "name", "name", "Name!"]) =
      ["name2", "name", "name3"] := by
    decide +kernel
  have third : ["name 2", "name", "name", "Name!"].eraseDups[2]? = some "Name!" := by decide
  obtain ⟨-, drafted, -⟩ := ofTokens_namedAfter .english ["name 2", "name", "name", "Name!"]
  obtain ⟨name, draft, after⟩ := drafted 2 "Name!" third
  have same := congrArg (Option.map (·.field.name)) draft
  rw [← List.getElem?_map, ← names, named, Option.map_some, name_ofToken] at same
  obtain rfl : name = "name3" := (Option.some.inj same).symm
  rw [named] at after
  exact ⟨third, named, after⟩

end Draft
end Formwright
