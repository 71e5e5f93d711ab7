import Formwright.Proofs.Json.Lookup

/-!
# Values with distinct keys

In the data format an object holds each of its keys once. The members of an object stand here in a
list, so this is a property of a value: it is asked of all objects in the value.
-/
namespace Formwright

/-- Of entries with distinct names, each is found under its name. -/
theorem lookup_of_mem {α : Type} {entries : List (String × α)}
    (distinct : (entries.map Prod.fst).Nodup) {entry : String × α} (member : entry ∈ entries) :
    entries.lookup entry.1 = some entry.2 := by
  induction entries with
  | nil => contradiction
  | cons first later ih =>
    rw [List.map_cons, List.nodup_cons] at distinct
    obtain ⟨fresh, distinct⟩ := distinct
    rw [show first :: later = (first.1, first.2) :: later from rfl, lookup_cons_ite]
    rcases List.mem_cons.mp member with rfl | member
    · rw [if_pos rfl]
    · have other : entry.1 ≠ first.1 :=
        fun same => fresh (same ▸ List.mem_map_of_mem member)
      rw [if_neg other, ih distinct member]

namespace Json

mutual

/-- Every object in the value holds each of its keys once. -/
def IsKeyed : Json → Prop
  | .array items => ItemsKeyed items
  | .object members => (members.map Prod.fst).Nodup ∧ MembersKeyed members
  | _ => True

/-- Every object in one of the items holds each of its keys once. -/
def ItemsKeyed : List Json → Prop
  | [] => True
  | item :: later => item.IsKeyed ∧ ItemsKeyed later

/-- Every object under one of the keys holds each of its own keys once. -/
def MembersKeyed : List (String × Json) → Prop
  | [] => True
  | (_, value) :: later => value.IsKeyed ∧ MembersKeyed later

end

end Json
end Formwright
