import Formwright.Json.Parser
import Formwright.Proofs.Json.Keyed
import Mathlib.Data.String.Basic

/-!
# Values read from text hold each key once

A text may give a key of an object twice, but the value that is read from it does not: members are
put in order by their keys, and of several with one key the last replaces those before it.
-/
namespace Formwright

variable {α β : Type}

/-- The entries stand in strictly increasing order of their names. -/
def IsSorted (entries : List (String × α)) : Prop := (entries.map Prod.fst).Pairwise (· < ·)

/-- A name among entries with one more put in is that of the new one or was there before. -/
theorem mem_keys_insertNamed {name other : String} {value : α} {entries : List (String × α)}
    (named : other ∈ (insertNamed name value entries).map Prod.fst) :
    other = name ∨ other ∈ entries.map Prod.fst := by
  rw [← isSome_lookup_iff, lookup_insertNamed] at named
  by_cases same : other = name
  · exact .inl same
  · rw [if_neg same, isSome_lookup_iff] at named
    exact .inr named

/-- Entries in order stay in order when one more is put in. -/
theorem isSorted_insertNamed {entries : List (String × α)} (sorted : IsSorted entries)
    (name : String) (value : α) : IsSorted (insertNamed name value entries) := by
  induction entries with
  | nil => simp [insertNamed, IsSorted]
  | cons entry later ih =>
    obtain ⟨other, held⟩ := entry
    obtain ⟨least, rest⟩ := List.pairwise_cons.mp sorted
    rw [insertNamed]
    split
    · rename_i same
      subst same
      exact sorted
    · rename_i different
      split
      · rename_i before
        refine List.pairwise_cons.mpr ⟨?_, sorted⟩
        intro later named
        rcases List.mem_cons.mp named with rfl | named
        · exact before
        · exact before.trans (least later named)
      · rename_i notBefore
        have after : other < name := lt_of_le_of_ne (not_lt.mp notBefore) (Ne.symm different)
        refine List.pairwise_cons.mpr ⟨fun later named => ?_, ih rest⟩
        rcases mem_keys_insertNamed named with rfl | named
        · exact after
        · exact least later named

/-- Entries in order stay in order when others are put in one by one. -/
theorem isSorted_foldl_insertNamed (entries : List (String × α)) {table : List (String × α)}
    (sorted : IsSorted table) :
    IsSorted (entries.foldl (fun sorted entry => insertNamed entry.1 entry.2 sorted) table) := by
  induction entries generalizing table with
  | nil => exact sorted
  | cons entry later ih => exact ih (isSorted_insertNamed sorted entry.1 entry.2)

/-- Entries that are put in order are in order. -/
theorem isSorted_sortNamed (entries : List (String × α)) : IsSorted (sortNamed entries) :=
  isSorted_foldl_insertNamed entries List.Pairwise.nil

/-- Entries that are put in order hold each name once. -/
theorem nodup_keys_sortNamed (entries : List (String × α)) :
    ((sortNamed entries).map Prod.fst).Nodup :=
  (isSorted_sortNamed entries).imp ne_of_lt

/-- What holds of the values of entries holds of those of the entries in order. -/
theorem forall_mem_sortNamed {entries : List (String × α)} {holds : α → Prop}
    (held : ∀ entry ∈ entries, holds entry.2) : ∀ entry ∈ sortNamed entries, holds entry.2 := by
  intro entry member
  have found := lookup_of_mem (nodup_keys_sortNamed entries) member
  rw [lookup_sortNamed] at found
  obtain ⟨before, after, same⟩ := List.lookup_eq_some_iff.mp found
  exact held (entry.1, entry.2) (List.mem_reverse.mp (by simp [same]))

namespace Json

/-- Members are keyed where each of their values is. -/
theorem membersKeyed_iff (members : Members) :
    MembersKeyed members ↔ ∀ member ∈ members, member.2.IsKeyed := by
  induction members with
  | nil => simp [MembersKeyed]
  | cons member later ih => rw [MembersKeyed, ih, List.forall_mem_cons]

/-- Items are keyed where each of them is. -/
theorem itemsKeyed_iff (items : List Json) : ItemsKeyed items ↔ ∀ item ∈ items, item.IsKeyed := by
  induction items with
  | nil => simp [ItemsKeyed]
  | cons item later ih => rw [ItemsKeyed, ih, List.forall_mem_cons]

/-- A step after another one that both succeed. -/
theorem exists_of_bind_eq_ok {ε : Type} {first : Except ε α} {next : α → Except ε β} {result : β}
    (done : first >>= next = .ok result) :
    ∃ value, first = .ok value ∧ next value = .ok result := by
  cases first with
  | error fault => contradiction
  | ok value => exact ⟨value, rfl, done⟩

/-- Whatever the scanner finds has a property. -/
def Scan.Finds (scan : Scan α) (holds : α → Prop) : Prop :=
  ∀ {text found rest}, scan text = .ok (found, rest) → holds found

section

variable {item : Scan α} {holds : α → Prop} (finds : Scan.Finds item holds)
include finds

/-- What the scanner of elements finds holds of all elements of a list. -/
theorem forall_of_listItems {bound : List Char} {before found : List α} {text rest : List Char}
    (scanned : listItems item bound before text = .ok (found, rest))
    (held : ∀ value ∈ before, holds value) : ∀ value ∈ found, holds value := by
  have next {bound : List Char} {before : List α} {text : List Char}
      (held : ∀ value ∈ before, holds value)
      (ih : ∀ {before : List α} {text : List Char},
        listItems item bound before text = .ok (found, rest) →
        (∀ value ∈ before, holds value) → ∀ value ∈ found, holds value)
      (scanned : (item text >>= fun made =>
        listItems item bound (made.1 :: before) made.2) = .ok (found, rest)) :
      ∀ value ∈ found, holds value := by
    obtain ⟨⟨value, after⟩, first, scanned⟩ := exists_of_bind_eq_ok scanned
    exact ih scanned (List.forall_mem_cons.mpr ⟨finds first, held⟩)
  induction bound generalizing before text with
  | nil => simp [listItems, Fault.here] at scanned
  | cons c bound ih =>
    rw [listItems] at scanned
    split at scanned
    · contradiction
    · obtain ⟨rfl, -⟩ := Prod.mk.inj (Except.ok.inj scanned)
      simpa using held
    · split at scanned
      · exact next held ih scanned
      · split at scanned
        · split at scanned
          · contradiction
          · contradiction
          · exact next held ih scanned
        · contradiction

/-- What the scanner of values finds holds of all values of an object. -/
theorem forall_of_objectMembers {bound : List Char} {before found : List (String × α)}
    {text rest : List Char} (scanned : objectMembers item bound before text = .ok (found, rest))
    (held : ∀ member ∈ before, holds member.2) : ∀ member ∈ found, holds member.2 := by
  induction bound generalizing before text with
  | nil => simp [objectMembers, Fault.here] at scanned
  | cons c bound ih =>
    rw [objectMembers] at scanned
    obtain ⟨⟨key, after⟩, _, scanned⟩ := exists_of_bind_eq_ok scanned
    cases key with
    | none =>
      obtain ⟨rfl, -⟩ := Prod.mk.inj (Except.ok.inj scanned)
      simpa using held
    | some key =>
      obtain ⟨_, _, scanned⟩ := exists_of_bind_eq_ok scanned
      obtain ⟨⟨value, after⟩, first, scanned⟩ := exists_of_bind_eq_ok scanned
      exact ih scanned (List.forall_mem_cons.mpr ⟨finds first, held⟩)

end

/-- A scanned number has no objects in it. -/
theorem isKeyed_of_number {negative : Bool} : Scan.Finds (number negative) IsKeyed := by
  intro text found rest scanned
  obtain ⟨⟨numeral, after⟩, _, scanned⟩ := exists_of_bind_eq_ok scanned
  dsimp only at scanned
  split at scanned
  · rename_i value valued
    obtain ⟨rfl, -⟩ := Prod.mk.inj (Except.ok.inj scanned)
    unfold Numeral.value? at valued
    split at valued
    · cases valued
      trivial
    · split at valued
      · cases valued
        trivial
      · obtain ⟨_, _, rfl⟩ := Option.map_eq_some_iff.mp valued
        trivial
  · contradiction

/-- A scanned value that is no list and no object has no objects in it. -/
theorem isKeyed_of_scalar {c : Char} : Scan.Finds (scalar c) IsKeyed := by
  intro text found rest scanned
  unfold scalar at scanned
  repeat' split at scanned
  · obtain ⟨_, _, same⟩ := exists_of_bind_eq_ok scanned
    cases same
    trivial
  · obtain ⟨_, _, same⟩ := exists_of_bind_eq_ok scanned
    cases same
    trivial
  · obtain ⟨_, _, same⟩ := exists_of_bind_eq_ok scanned
    cases same
    trivial
  · exact isKeyed_of_number scanned
  · exact isKeyed_of_number scanned
  · obtain ⟨_, _, same⟩ := exists_of_bind_eq_ok scanned
    cases same
    trivial
  · contradiction

/-- A scanned value holds each key of its objects once. -/
theorem isKeyed_of_value (depth : Nat) : Scan.Finds (value depth) IsKeyed := by
  induction depth with
  | zero =>
    intro text found rest scanned
    unfold value at scanned
    split at scanned
    · contradiction
    · contradiction
    · contradiction
    · exact isKeyed_of_scalar scanned
  | succ depth ih =>
    intro text found rest scanned
    unfold value at scanned
    split at scanned
    · contradiction
    · obtain ⟨⟨items, after⟩, first, same⟩ := exists_of_bind_eq_ok scanned
      cases same
      exact (itemsKeyed_iff items).mpr (forall_of_listItems ih first nofun)
    · obtain ⟨⟨members, after⟩, first, same⟩ := exists_of_bind_eq_ok scanned
      cases same
      refine ⟨nodup_keys_sortNamed members, (membersKeyed_iff _).mpr ?_⟩
      exact forall_mem_sortNamed (forall_of_objectMembers ih first nofun)
    · exact isKeyed_of_scalar scanned

/-- A value that is read from a text holds each key of its objects once. -/
theorem isKeyed_of_parse {text : String} {depth : Nat} {document : Json}
    (read : parse text depth = .ok document) : document.IsKeyed := by
  obtain ⟨⟨found, rest⟩, first, read⟩ := exists_of_bind_eq_ok read
  dsimp only at read
  split at read
  · cases read
    exact isKeyed_of_value depth first
  · contradiction

end Json
end Formwright
