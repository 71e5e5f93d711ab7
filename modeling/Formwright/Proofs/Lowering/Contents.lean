import Formwright.Proofs.Lowering.Walk

/-!
# What pages hold

A page shows every field and every action of its document once and in document order, whatever the
scaffold. It has as many nodes as it needs for that, and two columns share the fields so that the
left one has the first half of them.
-/
namespace Formwright.Lowering
open Node

/-! ## The marks of a page -/

/-- The marks at the stops at fields. -/
theorem filterMap_mark_fields (fields : List Field) :
    (fields.map Stop.field).filterMap Stop.mark? = fields.map Mark.ofField := by
  rw [List.filterMap_map, ← List.filterMap_eq_map]
  rfl

/-- The marks at the stops at actions. -/
theorem filterMap_mark_actions (actions : List Action) :
    (actions.map Stop.action).filterMap Stop.mark? = actions.map Mark.ofAction := by
  rw [List.filterMap_map, ← List.filterMap_eq_map]
  rfl

/-- The marks at the stops of a layout. -/
theorem filterMap_mark_layoutStops (scaffold : Option Scaffold) (fields : List Field) :
    (layoutStops scaffold fields).filterMap Stop.mark? = fields.map Mark.ofField := by
  unfold layoutStops
  rw [List.filterMap_cons_none rfl]
  split
  · simp only
    rw [List.cons_append, List.filterMap_cons_none rfl, List.filterMap_append,
      List.filterMap_cons_none rfl, filterMap_mark_fields, filterMap_mark_fields,
      ← List.map_append, List.take_append_drop]
  · exact filterMap_mark_fields fields

/-- The marks at the stops of a row of actions. -/
theorem filterMap_mark_actionStops (actions : List Action) :
    (actionStops actions).filterMap Stop.mark? = actions.map Mark.ofAction := by
  unfold actionStops
  split
  · next none => rw [List.isEmpty_iff.mp none]; rfl
  · rw [List.filterMap_cons_none rfl, filterMap_mark_actions]

/-- The marks at the stops of a document are those of its fields and then of its actions. -/
theorem filterMap_mark_stops (document : Document) :
    (stops document).filterMap Stop.mark? =
      document.fields.map Mark.ofField ++ document.actions.map Mark.ofAction := by
  rw [stops, List.filterMap_cons_none rfl, List.filterMap_cons_none rfl, sectionStops]
  split
  · rw [List.filterMap_cons_none rfl, List.filterMap_append, filterMap_mark_fields,
      filterMap_mark_actions]
  · have described : (descriptionStops document.description).filterMap Stop.mark? = [] := by
      cases document.description <;> rfl
    rw [List.filterMap_append, List.filterMap_append, described, filterMap_mark_layoutStops,
      filterMap_mark_actionStops, List.nil_append]

/-- The marks of a page are those of the fields of its document and then of its actions. -/
theorem marks_page (document : Document) :
    marks (page document) =
      document.fields.map Mark.ofField ++ document.actions.map Mark.ofAction := by
  have walked := congrArg (List.filterMap Prod.snd) (map_shown_page document)
  rw [List.filterMap_map, List.filterMap_map] at walked
  exact walked.trans (filterMap_mark_stops document)

/-! ## The number of nodes -/

/-- The number of the stops of a layout. -/
theorem length_layoutStops (scaffold : Option Scaffold) (fields : List Field) :
    (layoutStops scaffold fields).length =
      fields.length + if scaffold = some .twoColumn then 3 else 1 := by
  cases scaffold with
  | none => simp [layoutStops]
  | some scaffold =>
    cases scaffold with
    | formAuth | settingsPage | dashboard => simp [layoutStops]
    | twoColumn =>
      simp only [layoutStops, List.length_cons, List.length_append, List.length_map,
        List.length_take, List.length_drop, if_true]
      omega

/-- The number of the nodes of a page. -/
theorem count_page (document : Document) :
    (page document).count =
      if document.scaffold = some .formAuth then
        3 + document.fields.length + document.actions.length
      else
        2 + (if document.description.isSome then 1 else 0) + document.fields.length
          + (if document.scaffold = some .twoColumn then 3 else 1)
          + (if document.actions.isEmpty then 0 else 1 + document.actions.length) := by
  have walked := congrArg List.length (map_shown_page document)
  rw [List.length_map, List.length_map] at walked
  have described : (descriptionStops document.description).length =
      if document.description.isSome then 1 else 0 := by
    cases document.description <;> rfl
  have row : (actionStops document.actions).length =
      if document.actions.isEmpty then 0 else 1 + document.actions.length := by
    unfold actionStops
    split <;> simp [Nat.add_comm]
  rw [count, walked, stops, sectionStops]
  split
  · next auth =>
    rw [if_pos auth]
    simp only [List.length_cons, List.length_append, List.length_map]
    omega
  · next other =>
    rw [if_neg other]
    simp only [List.length_cons, List.length_append, described, row, length_layoutStops]
    omega

/-! ## Two columns -/

section

variable (ids : IdSource)

/-- A block of the components of fields. -/
def fieldBlock (key : String) (fields : List Field) : Node :=
  .container { id := ids.id key } .block (fields.map (fieldNode ids))

/-- A block holds the fields whose components stand in it. -/
theorem marks_fieldBlock (key : String) (fields : List Field) :
    marks (fieldBlock ids key fields) = fields.map Mark.ofField := by
  have walked : (fieldBlock ids key fields).walk =
      fieldBlock ids key fields :: fields.map (fieldNode ids) := by
    rw [fieldBlock, walk, walkAll_eq_self (List.forall_mem_map.mpr fun _ _ => rfl)]
  rw [marks, walked, List.filterMap_cons_none rfl, List.filterMap_map, ← List.filterMap_eq_map]
  rfl

/-- Two columns are two blocks that the fields are shared between. -/
theorem fieldBody_twoColumn (fields : List Field) :
    fieldBody ids (some .twoColumn) (fields.map (fieldNode ids)) =
      .container (named (ids.id "fields") "fields") (.twoColumn (some "1:1"))
        [fieldBlock ids "fields/left" (fields.take ((fields.length + 1) / 2)),
          fieldBlock ids "fields/right" (fields.drop ((fields.length + 1) / 2))] := by
  simp only [fieldBody, fieldBlock, List.length_map, List.map_take, List.map_drop]

end

/-- The blocks among some nodes and all nodes below them, in the order of a walk. -/
def blocksIn (nodes : List Node) : List Node := (walkAll nodes).filter (·.kind == .block)

/-- The blocks in two lists. -/
theorem blocksIn_append (front back : List Node) :
    blocksIn (front ++ back) = blocksIn front ++ blocksIn back := by
  rw [blocksIn, walkAll_append, List.filter_append]
  rfl

/-- The blocks in a container of another kind are those among its children. -/
theorem blocksIn_container {body : Container} (other : (body.kind == .block) = false)
    (envelope : Envelope) (children : List Node) :
    blocksIn [.container envelope body children] = blocksIn children := by
  rw [blocksIn, walkAll, walkAll, List.append_nil, walk, List.filter_cons_of_neg]
  · rfl
  · simpa [kind] using other

/-- The blocks in a block are the block itself and those among its children. -/
theorem blocksIn_block (envelope : Envelope) (children : List Node) :
    blocksIn [.container envelope .block children] =
      .container envelope .block children :: blocksIn children := by
  rw [blocksIn, walkAll, walkAll, List.append_nil, walk, List.filter_cons_of_pos rfl]
  rfl

/-- There are no blocks among components with nothing below them. -/
theorem blocksIn_eq_nil {nodes : List Node}
    (leaves : ∀ node ∈ nodes, node.walk = [node] ∧ node.kind = .component) :
    blocksIn nodes = [] := by
  rw [blocksIn, walkAll_eq_self fun node member => (leaves node member).1, List.filter_eq_nil_iff]
  intro node member
  rw [(leaves node member).2]
  decide

/-- A block of the components of fields has no blocks in it but itself. -/
theorem blocksIn_fieldBlock (ids : IdSource) (key : String) (fields : List Field) :
    blocksIn [fieldBlock ids key fields] = [fieldBlock ids key fields] := by
  have below : blocksIn (fields.map (fieldNode ids)) = [] :=
    blocksIn_eq_nil (List.forall_mem_map.mpr fun _ _ => ⟨rfl, rfl⟩)
  rw [fieldBlock, blocksIn_block, below]

/-- The two columns that the fields of a document are shared between. -/
def columnsOf (document : Document) : Node :=
  let ids : IdSource := ⟨document.fingerprint⟩
  let half := (document.fields.length + 1) / 2
  .container (named (ids.id "fields") "fields") (.twoColumn (some "1:1"))
    [fieldBlock ids "fields/left" (document.fields.take half),
      fieldBlock ids "fields/right" (document.fields.drop half)]

/-- Two columns stand in the section of a document between its description and its actions. -/
theorem sectionBody_twoColumn {document : Document} (split : document.scaffold = some .twoColumn) :
    ∃ before after, sectionBody ⟨document.fingerprint⟩ document =
        before ++ [columnsOf document] ++ after ∧ blocksIn before = [] ∧ blocksIn after = [] := by
  let ids : IdSource := ⟨document.fingerprint⟩
  refine ⟨(document.description.map (descriptionNode ids)).toList,
    if (document.actions.map (actionNode ids)).isEmpty then []
    else [.container (named (ids.id "actions") "actions") (.stack .horizontal)
      (document.actions.map (actionNode ids))], ?_, ?_, ?_⟩
  · rw [columnsOf, ← fieldBody_twoColumn, sectionBody, split]
  · cases document.description <;> rfl
  · have actionless : blocksIn (document.actions.map (actionNode ids)) = [] :=
      blocksIn_eq_nil (List.forall_mem_map.mpr fun _ _ => ⟨rfl, rfl⟩)
    split
    · rfl
    · rw [blocksIn_container rfl, actionless]

/-- The blocks in the two columns are the columns. -/
theorem blocksIn_columnsOf (document : Document) :
    (columnsOf document).children? = some (blocksIn [columnsOf document]) := by
  rw [columnsOf, blocksIn_container rfl, ← List.singleton_append, blocksIn_append,
    blocksIn_fieldBlock, blocksIn_fieldBlock, List.singleton_append, children?]

/-- A page with two columns comes to them, and to no blocks but theirs. -/
theorem columns_page {document : Document} (split : document.scaffold = some .twoColumn) :
    columnsOf document ∈ (page document).walk ∧
      (columnsOf document).children? = some ((page document).walk.filter (·.kind == .block)) := by
  obtain ⟨before, after, body, clearBefore, clearAfter⟩ := sectionBody_twoColumn split
  have walked : walkAll [page document] = (page document).walk := by
    rw [walkAll, walkAll, List.append_nil]
  have blocks : blocksIn [page document] = blocksIn [columnsOf document] := by
    rw [page, blocksIn_container rfl, blocksIn_container rfl, body, blocksIn_append,
      blocksIn_append, clearBefore, clearAfter, List.nil_append, List.append_nil]
  constructor
  · rw [page, walk, walkAll, walkAll, walk, body, walkAll_append, walkAll_append, walkAll,
      columnsOf, walk]
    simp
  · rw [← walked, ← blocksIn, blocks, blocksIn_columnsOf]

/-! ## Whole pages -/

/-- What a tree has in common with a document: its marks are those of the fields and then of the
actions, the left of two columns has the first half of the fields and the right one the others, and
there are as many nodes as the scaffold needs for them. -/
structure Shows (document : Document) (tree : Node) : Prop where
  marks_eq : marks tree = document.fields.map Mark.ofField ++ document.actions.map Mark.ofAction
  columns : document.scaffold = some .twoColumn → ∃ columns ∈ tree.walk, ∃ left right,
    columns.kind = .twoColumn ∧ columns.children? = some [left, right] ∧
      tree.walk.filter (·.kind == .block) = [left, right] ∧
      marks left = (document.fields.take ((document.fields.length + 1) / 2)).map Mark.ofField ∧
      marks right = (document.fields.drop ((document.fields.length + 1) / 2)).map Mark.ofField ∧
      (marks right).length = document.fields.length / 2
  count_eq : tree.count =
    if document.scaffold = some .formAuth then
      3 + document.fields.length + document.actions.length
    else
      2 + (if document.description.isSome then 1 else 0) + document.fields.length
        + (if document.scaffold = some .twoColumn then 3 else 1)
        + (if document.actions.isEmpty then 0 else 1 + document.actions.length)

/-- The page of a document shows the document. -/
theorem page_shows (document : Document) : Shows document (page document) where
  marks_eq := marks_page document
  columns := by
    intro split
    obtain ⟨stands, blocks⟩ := columns_page split
    have right := marks_fieldBlock ⟨document.fingerprint⟩ "fields/right"
      (document.fields.drop ((document.fields.length + 1) / 2))
    refine ⟨_, stands, _, _, rfl, rfl, (Option.some.inj blocks).symm, marks_fieldBlock _ _ _,
      right, ?_⟩
    rw [right, List.length_map, List.length_drop]
    omega
  count_eq := count_page document

end Formwright.Lowering
