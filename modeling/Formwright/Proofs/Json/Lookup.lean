import Formwright.Document.Writer

/-!
# Looking members up

What is found under a key of the members that this library writes and of the tables that it keeps
in order. A member that is left out is not found, and of several values put under one name the last
is. None of this needs the keys to be distinct.
-/
namespace Formwright

variable {α : Type}

/-- Under a name, the first entry shows its value where the name is its own. -/
theorem lookup_cons_ite (name other : String) (value : α) (entries : List (String × α)) :
    ((name, value) :: entries).lookup other =
      if other = name then some value else entries.lookup other := by
  by_cases same : other = name
  · simp [same]
  · simp [List.lookup_cons, same, beq_false_of_ne same]

/-- Whatever goes through entries up to the first one of a name is told by the value of that
entry. -/
theorem scan_eq_elim_lookup {β : Type} {scan : List (String × α) → β} {wanted : String} {absent : β}
    {found : α → β} (nil : scan [] = absent)
    (cons : ∀ name value later,
      scan ((name, value) :: later) = if name = wanted then found value else scan later)
    (entries : List (String × α)) :
    scan entries = (entries.lookup wanted).elim absent found := by
  induction entries with
  | nil => exact nil
  | cons entry later ih =>
    obtain ⟨name, value⟩ := entry
    rw [cons, lookup_cons_ite]
    by_cases here : name = wanted
    · rw [if_pos here, if_pos here.symm, Option.elim_some]
    · rw [if_neg here, if_neg (Ne.symm here), ih]

/-! ## Written members -/

/-- Under a key, an optional member shows its value where the key is its own. -/
@[simp]
theorem lookup_optionalMember (key other : String) (value : Option α) (toJson : α → Json) :
    (optionalMember key value toJson).lookup other =
      if other = key then value.map toJson else none := by
  cases value with
  | none => simp [optionalMember]
  | some held => simp [optionalMember, lookup_cons_ite]

/-- Under a key, a member for a list shows the list where the key is its own and the list has
elements. -/
@[simp]
theorem lookup_nonEmptyMember (key other : String) (values : List α) (toJson : α → Json) :
    (nonEmptyMember key values toJson).lookup other =
      if other = key ∧ values ≠ [] then some (.array (values.map toJson)) else none := by
  cases values with
  | nil => simp [nonEmptyMember]
  | cons first later => simp [nonEmptyMember, lookup_cons_ite]

/-! ## Tables in order -/

/-- A value put into a table is found under its name, and all else is found as before. -/
theorem lookup_insertNamed (name other : String) (value : α) (entries : List (String × α)) :
    (insertNamed name value entries).lookup other =
      if other = name then some value else entries.lookup other := by
  induction entries with
  | nil => simp [insertNamed, lookup_cons_ite]
  | cons entry later ih =>
    obtain ⟨held, kept⟩ := entry
    rw [insertNamed]
    split
    · rename_i same
      subst same
      simp only [lookup_cons_ite]
      split <;> rfl
    · rename_i different
      split
      · simp only [lookup_cons_ite]
      · simp only [lookup_cons_ite, ih]
        by_cases found : other = name
        · simp [found, different]
        · simp [found]

/-- Entries put into a table one by one: of several with one name the last is found. -/
theorem lookup_foldl_insertNamed (entries table : List (String × α)) (name : String) :
    (entries.foldl (fun sorted entry => insertNamed entry.1 entry.2 sorted) table).lookup name =
      (entries.reverse.lookup name).or (table.lookup name) := by
  induction entries generalizing table with
  | nil => simp
  | cons entry later ih =>
    obtain ⟨held, value⟩ := entry
    rw [List.foldl_cons, ih, lookup_insertNamed, List.reverse_cons, List.lookup_append,
      Option.or_assoc, lookup_cons_ite, List.lookup_nil]
    split <;> simp

/-- In a table put in order, the last value of a name is found. -/
theorem lookup_sortNamed (entries : List (String × α)) (name : String) :
    (sortNamed entries).lookup name = entries.reverse.lookup name := by
  rw [sortNamed, lookup_foldl_insertNamed, List.lookup_nil, Option.or_none]

/-- What is found under a name is the value of an entry of that name. -/
theorem mem_of_lookup {entries : List (String × α)} {name : String} {value : α}
    (found : entries.lookup name = some value) : (name, value) ∈ entries := by
  obtain ⟨before, after, rfl, -⟩ := List.lookup_eq_some_iff.mp found
  exact List.mem_append_right before List.mem_cons_self

/-- A name is found in a list of entries exactly when an entry has it. -/
theorem isSome_lookup_iff (entries : List (String × α)) (name : String) :
    (entries.lookup name).isSome ↔ name ∈ entries.map Prod.fst := by
  induction entries with
  | nil => simp
  | cons entry later ih =>
    obtain ⟨held, value⟩ := entry
    rw [lookup_cons_ite, List.map_cons, List.mem_cons, ← ih]
    by_cases same : name = held <;> simp [same]

/-- Putting a table in order keeps its names. -/
theorem mem_keys_sortNamed (entries : List (String × α)) (name : String) :
    name ∈ (sortNamed entries).map Prod.fst ↔ name ∈ entries.map Prod.fst := by
  rw [← isSome_lookup_iff, lookup_sortNamed, isSome_lookup_iff, List.map_reverse,
    List.mem_reverse]

end Formwright
