import Formwright.Proofs.Node.Spot
import Formwright.Validation.Shape

/-!
# Values that are alike in their place

In its place inside a document a value is checked and read. The check of a record and its reader
look up the keys of the record, each with its own list, and nothing else: so two records with the
same under these keys are alike. Lists and tables are alike where their items are.
-/
namespace Formwright
open Json

namespace Spot

/-- How a value is checked in its place. -/
def check : Spot → Shape.Check
  | .node _ => Shape.node
  | .accessibility => Shape.object Shape.accessibility
  | .layout => Shape.object Shape.layout
  | .payload => Shape.object Shape.payload
  | .dataSource => Shape.object Shape.dataSource
  | .binding => Shape.object Shape.binding
  | .nodes => Shape.nodes
  | .slots => Shape.slotTable
  | .dataSources => Shape.list (Shape.object Shape.dataSource)
  | .bindings => Shape.list (Shape.object Shape.binding)

/-- What a value is read as in its place. -/
def Content : Spot → Type
  | .node _ => Node
  | .accessibility => Accessibility
  | .layout => Layout
  | .payload => Payload
  | .dataSource => DataSource
  | .binding => Binding
  | .nodes => List Node
  | .slots => List (String × List Node)
  | .dataSources => List DataSource
  | .bindings => List Binding

/-- Reads a value in its place. -/
def read? : (spot : Spot) → Json → Option spot.Content
  | .node byPlace => Node.read? byPlace
  | .accessibility => Accessibility.reader.read?
  | .layout => Layout.reader.read?
  | .payload => Payload.reader.read?
  | .dataSource => DataSource.reader.read?
  | .binding => Binding.reader.read?
  | .nodes => Node.readList?
  | .slots => Node.readTable?
  | .dataSources => (Reader.list DataSource.reader).read?
  | .bindings => (Reader.list Binding.reader).read?

/-- In their place two values are checked and read alike, and neither is null. -/
structure Alike (spot : Spot) (value value' : Json) : Prop where
  checked : ∀ path, spot.check path value' = spot.check path value
  read : spot.read? value' = spot.read? value
  present : value ≠ .null ∧ value' ≠ .null

/-- Under a name two objects hold the same, or values that are alike in their place. -/
def AlikeAt (spots : List (String × Spot)) (members members' : Members) (name : String) : Prop :=
  members'.lookup name = members.lookup name ∨
    ∃ spot value value', spots.lookup name = some spot ∧ members.lookup name = some value ∧
      members'.lookup name = some value' ∧ spot.Alike value value'

end Spot

/-! ## Single fields -/

namespace Spot.AlikeAt

variable {spots : List (String × Spot)} {members members' : Members} {name : String}
  (alike : AlikeAt spots members members' name)
include alike

/-- A simple value is the same. -/
theorem lookup_eq (simple : spots.lookup name = none) :
    members'.lookup name = members.lookup name := by
  rcases alike with same | ⟨spot, _, _, held, _⟩
  · exact same
  · rw [simple] at held
    cases held

/-- Whatever depends on how a value is checked and read depends on no more. -/
theorem map_eq {α : Type} {view : Json → α} {spot : Spot} (held : spots.lookup name = some spot)
    (viewed : ∀ {value value'}, spot.Alike value value' → view value' = view value) :
    (members'.lookup name).map view = (members.lookup name).map view := by
  rcases alike with same | ⟨spot', value, value', held', found, found', alike⟩
  · rw [same]
  · cases held.symm.trans held'
    rw [found, found', Option.map_some, Option.map_some, viewed alike]

/-- A value is checked alike. -/
theorem check_eq {spot : Spot} (held : spots.lookup name = some spot) (path : String) :
    (members'.lookup name).map (spot.check path) = (members.lookup name).map (spot.check path) :=
  alike.map_eq held fun alike => alike.checked path

/-- A value is read alike where null may stand for it. -/
theorem optional_eq {α : Type} {spot : Spot} (held : spots.lookup name = some spot)
    (reader : Reader α)
    (reads : ∀ {value value'}, spot.Alike value value' → reader.read? value' = reader.read? value) :
    (members'.lookup name).map reader.optional.read? =
      (members.lookup name).map reader.optional.read? := by
  refine alike.map_eq held fun alike => ?_
  obtain ⟨present, present'⟩ := alike.present
  rw [Reader.read?_optional reader present, Reader.read?_optional reader present', reads alike]

end Spot.AlikeAt

namespace Shape

variable {members : Members} {key path : String} {check : Check}

/-- A field that may be left out is checked as what stands under its key is. -/
theorem optional_eq_getD :
    optional members key path check =
      ((members.lookup key).map (check (Pointer.push path key))).getD [] := by
  unfold optional
  cases members.lookup key <;> rfl

/-- A field that must be there is checked as what stands under its key is. -/
theorem required_eq_getD :
    required members key path check =
      ((members.lookup key).map (check (Pointer.push path key))).getD (missing path key) := by
  unfold required
  cases members.lookup key <;> rfl

/-- A tagged value is checked alike where its tag is the same and the fields that the tag decides on
are checked alike. -/
theorem tagged_congr {members' : Members} {words : List String}
    {fields fields' : String → List Diagnostic}
    (tag : members'.lookup key = members.lookup key)
    (same : ∀ word ∈ words, members.lookup key = some (.string word) → fields' word = fields word) :
    tagged members' key path words fields' = tagged members key path words fields := by
  unfold tagged required
  rw [tag]
  cases found : members.lookup key with
  | none => rfl
  | some value =>
    cases value with
    | string word =>
      by_cases known : word ∈ words
      · simp only [if_pos known, same word known found]
      · simp only [if_neg known]
    | _ => rfl

end Shape

/-! ## Records -/

section

variable {members members' : Members}

/-- What is said to assistive technology is told by what stands under its keys. -/
theorem Accessibility.alike
    (same : ∀ name ∈ keys, members'.lookup name = members.lookup name) :
    Spot.accessibility.Alike (.object members) (.object members') where
  checked path := by
    simp (disch := decide) [Spot.check, Shape.object, Shape.accessibility, Shape.optional_eq_getD,
      same]
  read := by
    change reader.read? (.object members') = reader.read? (.object members)
    simp (disch := decide) [reader, Record.keyed, same]
  present := ⟨nofun, nofun⟩

/-- A layout is told by what stands under its keys. -/
theorem Layout.alike (same : ∀ name ∈ keys, members'.lookup name = members.lookup name) :
    Spot.layout.Alike (.object members) (.object members') where
  checked path := by
    simp (disch := decide) [Spot.check, Shape.object, Shape.layout, Shape.optional_eq_getD,
      same]
  read := by
    change reader.read? (.object members') = reader.read? (.object members)
    simp (disch := decide) [reader, Record.keyed, same]
  present := ⟨nofun, nofun⟩

/-- A binding is told by what stands under its keys. -/
theorem Binding.alike (same : ∀ name ∈ keys, members'.lookup name = members.lookup name) :
    Spot.binding.Alike (.object members) (.object members') where
  checked path := by
    simp (disch := decide) [Spot.check, Shape.object, Shape.binding, Shape.required_eq_getD,
      same]
  read := by
    change reader.read? (.object members') = reader.read? (.object members)
    simp (disch := decide) [reader, Record.keyed, same]
  present := ⟨nofun, nofun⟩

/-- A tag that is one of the names of a tagged value names it. -/
theorem Json.TagForm.named?_eq {form : TagForm} {word : String} (known : word ∈ form.names)
    (tag : members.lookup form.tag = some (.string word)) : form.named? members = some word := by
  simp [named?, tag, Reader.read?, variant, known, Except.toOption]

/-- The fields of a variant of data sources are told by what stands under its keys. -/
theorem DataSource.readVariant_alike {word : String}
    (same : ∀ name ∈ "type" :: "id" :: variantKeys word,
      members'.lookup name = members.lookup name) :
    (readVariant word).read? (.object members') = (readVariant word).read? (.object members) := by
  unfold readVariant
  split
  · simp (disch := decide) [Record.keyed, same]
  · simp (disch := decide) [Record.keyed, same]
  · next notPlaceholder notStatic =>
    -- Any other word is read as the last variant, so it is known to have the keys of that one.
    have keys : variantKeys word = ["url", "method", "refreshMs"] := by
      unfold variantKeys
      split <;> trivial
    rw [keys] at same
    simp (disch := decide) [Record.keyed, same]

/-- A data source is told by what stands under its keys, which are those of its variant. -/
theorem DataSource.alike
    (same : ∀ name ∈ "type" :: "id" :: ((tagForm.named? members).map variantKeys).getD [],
      members'.lookup name = members.lookup name) :
    Spot.dataSource.Alike (.object members) (.object members') where
  checked path := by
    have id : members'.lookup "id" = members.lookup "id" := same "id" (by simp)
    have tag : members'.lookup "type" = members.lookup "type" := same "type" (by simp)
    simp only [Spot.check, Shape.object, Shape.dataSource, Shape.required_eq_getD, id]
    refine congrArg _ (Shape.tagged_congr tag fun word known found => ?_)
    have named : tagForm.named? members = some word := TagForm.named?_eq known found
    rw [named] at same
    simp only [List.mem_cons, List.not_mem_nil, or_false] at known
    rcases known with rfl | rfl | rfl
    · simp (disch := decide) [Shape.optional_eq_getD, same]
    · simp (disch := decide) [same]
    · simp (disch := decide) [Shape.optional_eq_getD, same]
  read := by
    refine tagForm.read?_congr (same _ (by simp [tagForm])) fun word named => ?_
    rw [named] at same
    exact readVariant_alike same
  present := ⟨nofun, nofun⟩

/-- The fields of a variant of payloads are told by what stands under its keys. -/
theorem Payload.readVariant_alike {word : String}
    (same : ∀ name ∈ "kind" :: variantKeys word, members'.lookup name = members.lookup name) :
    (readVariant word).read? (.object members') = (readVariant word).read? (.object members) := by
  unfold readVariant
  split
  · simp (disch := decide) [Record.keyed, same]
  · next notTable =>
    have keys : variantKeys word = ["dataSourceId", "chartType"] := by
      unfold variantKeys
      split <;> trivial
    rw [keys] at same
    simp (disch := decide) [Record.keyed, same]

/-- A payload is told by what stands under its keys, which are those of its variant. -/
theorem Payload.alike
    (same : ∀ name ∈ "kind" :: ((tagForm.named? members).map variantKeys).getD [],
      members'.lookup name = members.lookup name) :
    Spot.payload.Alike (.object members) (.object members') where
  checked path := by
    have tag : members'.lookup "kind" = members.lookup "kind" := same "kind" (by simp)
    simp only [Spot.check, Shape.object, Shape.payload]
    refine Shape.tagged_congr tag fun word known found => ?_
    have named : tagForm.named? members = some word := TagForm.named?_eq known found
    rw [named] at same
    simp only [List.mem_cons, List.not_mem_nil, or_false] at known
    rcases known with rfl | rfl
    · simp (disch := decide) [Shape.optional_eq_getD, Shape.required_eq_getD, same]
    · simp (disch := decide) [Shape.required_eq_getD, same]
  read := by
    refine tagForm.read?_congr (same _ (by simp [tagForm])) fun word named => ?_
    rw [named] at same
    exact readVariant_alike same
  present := ⟨nofun, nofun⟩

end

/-! ## Lists and tables -/

section

variable {before after : List Json} {held held' : Json}

/-- The items of a list are checked alike where one is put in the place of another that is checked
alike. -/
theorem Shape.itemsFrom_congr {check : Check} (same : ∀ path, check path held' = check path held)
    (path : String) (place : Nat) :
    itemsFrom check path place (before ++ held' :: after) =
      itemsFrom check path place (before ++ held :: after) := by
  induction before generalizing place with
  | nil => rw [List.nil_append, List.nil_append, itemsFrom, itemsFrom, same]
  | cons item later ih => rw [List.cons_append, List.cons_append, itemsFrom, itemsFrom, ih]

/-- The nodes of a list are checked one by one. -/
theorem Shape.nodesFrom_eq (path : String) (place : Nat) (items : List Json) :
    nodesFrom path place items = itemsFrom node path place items := by
  induction items generalizing place with
  | nil => rfl
  | cons item later ih => rw [nodesFrom, itemsFrom, ih]

/-- The nodes of a list are read one by one. -/
theorem Node.readItems?_eq (items : List Json) :
    readItems? items = items.mapM (read? true) := by
  induction items with
  | nil => rfl
  | cons item later ih =>
    rw [readItems?, List.mapM_cons, ih]

/-- The items of a list are read alike where one is put in the place of another that is read
alike. -/
theorem mapM_congr {α : Type} {read? : Json → Option α} (same : read? held' = read? held) :
    (before ++ held' :: after).mapM read? = (before ++ held :: after).mapM read? := by
  rw [List.mapM_append, List.mapM_append, List.mapM_cons, List.mapM_cons, same]

/-- Lists are alike where an item of one is put in the place of one that is alike. -/
theorem Spot.alike_of_item {spot inner : Spot} (item : spot.item? = some inner)
    (alike : inner.Alike held held') :
    spot.Alike (.array (before ++ held :: after)) (.array (before ++ held' :: after)) := by
  cases spot with
  | nodes =>
    cases item
    refine ⟨fun path => ?_, ?_, nofun, nofun⟩
    · simp only [check, Shape.nodes, Shape.nodesFrom_eq]
      exact Shape.itemsFrom_congr alike.checked path 0
    · simp only [read?, Node.readList?, Node.readItems?_eq]
      exact mapM_congr alike.read
  | dataSources | bindings =>
    cases item
    refine ⟨fun path => Shape.itemsFrom_congr alike.checked path 0, ?_, nofun, nofun⟩
    simp only [read?, Reader.read?_list_array]
    exact mapM_congr alike.read
  | _ => cases item

/-- Tables of lists of nodes are alike where a list in one is put in the place of one that is
alike. -/
theorem Spot.alike_of_entry {before after : Members} {name : String}
    (alike : Spot.nodes.Alike held held') :
    Spot.slots.Alike (.object (before ++ (name, held) :: after))
      (.object (before ++ (name, held') :: after)) := by
  refine ⟨fun path => ?_, ?_, nofun, nofun⟩
  · simp only [check, Shape.slotTable]
    induction before with
    | nil =>
      have same := alike.checked (Pointer.push path name)
      simp only [check] at same
      rw [List.nil_append, List.nil_append, Shape.slotEntries, Shape.slotEntries, same]
    | cons entry later ih =>
      rw [List.cons_append, List.cons_append, Shape.slotEntries, Shape.slotEntries, ih]
  · simp only [read?, Node.readTable?]
    induction before with
    | nil =>
      have same := alike.read
      simp only [read?] at same
      rw [List.nil_append, List.nil_append, Node.readEntries?, Node.readEntries?, same]
    | cons entry later ih =>
      rw [List.cons_append, List.cons_append, Node.readEntries?, Node.readEntries?, ih]

end

end Formwright
