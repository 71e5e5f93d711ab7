import Formwright.Proofs.Lowering.Contents
import Formwright.Proofs.Prompt.Reading
import Mathlib.Data.List.Nodup
import Mathlib.Data.Set.Function

/-!
# Distinct ids

The ids of the nodes of a page are derived from seeds: the fingerprint of the document and a key for
each node. The keys of the frame are fixed, all others are the ids of fields and actions. So the
seeds of one page are distinct if these ids are distinct and none is a key of the frame, which holds
of every document that is read from a prompt; and two pages have no seed in common if their
documents have different fingerprints. The ids are as distinct as the seeds, where ids are derived
without collisions.
-/
namespace Formwright
namespace Lowering
open Node

/-- The keys of the nodes that frame a page. -/
def frameKeys : List String :=
  ["page", "section", "card", "description", "fields", "fields/left", "fields/right", "actions"]

/-- The ids of the nodes of a tree, in the order of a walk. -/
def ids (tree : Node) : List NodeId := tree.walk.map Node.id

/-- The keys of the nodes of the page of a document, in the order of a walk. -/
def keys (document : Document) : List String := (stops document).map Stop.key

/-- The seeds that the ids of the page of a document are derived from, in the order of a walk; that
they are is `ids_page`. -/
def seeds (document : Document) : List String :=
  (keys document).map (document.fingerprint ++ "/" ++ ·)

/-- The ids of a page are derived from its seeds. -/
theorem ids_page (document : Document) :
    ids (page document) = (seeds document).map NodeId.derived := by
  have walked := congrArg (List.map Prod.fst) (map_shown_page document)
  rw [List.map_map, List.map_map] at walked
  rw [seeds, keys, List.map_map, List.map_map]
  exact walked

end Lowering

/-- The ids of the fields and of the actions of a document. -/
def Document.contentIds (document : Document) : List String :=
  document.fields.map (·.id) ++ document.actions.map (·.id)

/-- A document whose fields and actions have distinct ids, none of them a key of the frame. -/
structure Document.HasDistinctIds (document : Document) : Prop where
  distinct : document.contentIds.Nodup
  unreserved : ∀ id ∈ document.contentIds, id ∉ Lowering.frameKeys

namespace Lowering
open Node

/-! ## The keys of a page -/

namespace Stop

/-- The key of a stop at the frame. -/
def frameKey? : Stop → Option String
  | .frame held => some held
  | .field _ | .action _ => none

end Stop

/-- The keys of some stops are those at the frame and the ids of what is shown. -/
theorem perm_map_key (stops : List Stop) :
    (stops.map Stop.key).Perm
      (stops.filterMap Stop.frameKey? ++ (stops.filterMap Stop.mark?).map Mark.dataUiId) := by
  induction stops with
  | nil => exact .refl _
  | cons stop later ih =>
    cases stop with
    | frame held => exact ih.cons held
    | field shown => exact (ih.cons shown.id).trans List.perm_middle.symm
    | action shown => exact (ih.cons shown.id).trans List.perm_middle.symm

/-- A stop at the frame has its key. -/
theorem filterMap_frameKey_frame (key : String) (later : List Stop) :
    (Stop.frame key :: later).filterMap Stop.frameKey? = key :: later.filterMap Stop.frameKey? :=
  rfl

/-- Fields have no keys at the frame. -/
theorem filterMap_frameKey_fields (fields : List Field) :
    (fields.map Stop.field).filterMap Stop.frameKey? = [] := by
  simp [List.filterMap_map, Function.comp_def, Stop.frameKey?]

/-- Actions have no keys at the frame. -/
theorem filterMap_frameKey_actions (actions : List Action) :
    (actions.map Stop.action).filterMap Stop.frameKey? = [] := by
  simp [List.filterMap_map, Function.comp_def, Stop.frameKey?]

/-- The keys at the frame of a layout. -/
theorem frameKeys_layoutStops (scaffold : Option Scaffold) (fields : List Field) :
    ((layoutStops scaffold fields).filterMap Stop.frameKey?).Sublist
      ["fields", "fields/left", "fields/right"] := by
  unfold layoutStops
  rw [filterMap_frameKey_frame]
  refine .cons_cons _ ?_
  split
  · simp only
    rw [List.cons_append, filterMap_frameKey_frame, List.filterMap_append,
      filterMap_frameKey_frame, filterMap_frameKey_fields, filterMap_frameKey_fields]
    exact .refl _
  · rw [filterMap_frameKey_fields]
    exact List.nil_sublist _

/-- The keys at the frame of a page are some of the keys of frames, each at most once. -/
theorem frameKeys_stops (document : Document) :
    ((stops document).filterMap Stop.frameKey?).Sublist frameKeys := by
  rw [stops, filterMap_frameKey_frame, filterMap_frameKey_frame, sectionStops]
  refine .cons_cons _ (.cons_cons _ ?_)
  split
  · rw [filterMap_frameKey_frame, List.filterMap_append, filterMap_frameKey_fields,
      filterMap_frameKey_actions]
    exact .cons_cons _ (List.nil_sublist _)
  · have described : ((descriptionStops document.description).filterMap Stop.frameKey?).Sublist
        ["description"] := by
      cases document.description with
      | none => exact List.nil_sublist _
      | some text => exact .refl _
    have row : ((actionStops document.actions).filterMap Stop.frameKey?).Sublist ["actions"] := by
      unfold actionStops
      split
      · exact List.nil_sublist _
      · rw [filterMap_frameKey_frame, filterMap_frameKey_actions]
    rw [List.filterMap_append, List.filterMap_append]
    exact ((described.append (frameKeys_layoutStops _ _)).append row).cons "card"

/-- The ids of what a page shows are those of the fields and of the actions of its document. -/
theorem map_dataUiId_stops (document : Document) :
    ((stops document).filterMap Stop.mark?).map Mark.dataUiId = document.contentIds := by
  rw [filterMap_mark_stops, List.map_append, List.map_map, List.map_map]
  rfl

/-- The keys of a page are distinct. -/
theorem nodup_keys {document : Document} (own : document.HasDistinctIds) :
    (keys document).Nodup := by
  have frame := frameKeys_stops document
  have fixed : frameKeys.Nodup := by decide
  rw [keys, (perm_map_key _).nodup_iff, map_dataUiId_stops, List.nodup_append']
  refine ⟨frame.nodup fixed, own.distinct, ?_⟩
  intro key framed shown
  exact own.unreserved key shown (frame.subset framed)

/-! ## The seeds of a page -/

/-- A fingerprint has 64 characters. -/
theorem length_fingerprint (document : Document) : document.fingerprint.toList.length = 64 :=
  Sha256.length_hexDigest document.canonical

/-- Equal seeds have equal fingerprints and keys. -/
theorem seed_injective {first second : Document} {left right : String}
    (same : first.fingerprint ++ "/" ++ left = second.fingerprint ++ "/" ++ right) :
    first.fingerprint = second.fingerprint ∧ left = right := by
  have spelled := congrArg String.toList same
  simp only [String.toList_append, List.append_assoc] at spelled
  obtain ⟨prints, rest⟩ := List.append_inj spelled
    ((length_fingerprint first).trans (length_fingerprint second).symm)
  exact ⟨String.toList_inj.mp prints, String.toList_inj.mp (List.append_cancel_left rest)⟩

/-- The seeds of a page are distinct. -/
theorem nodup_seeds {document : Document} (own : document.HasDistinctIds) :
    (seeds document).Nodup :=
  (nodup_keys own).map fun _ _ same => (seed_injective same).2

/-- Pages of documents with different fingerprints have no seed in common. -/
theorem disjoint_seeds {first second : Document} (other : first.fingerprint ≠ second.fingerprint) :
    (seeds first).Disjoint (seeds second) := by
  intro seed ofFirst ofSecond
  obtain ⟨left, -, rfl⟩ := List.mem_map.mp ofFirst
  obtain ⟨right, -, same⟩ := List.mem_map.mp ofSecond
  exact other (seed_injective same).1.symm

/-- Pages without a common seed are of documents with different fingerprints. -/
theorem fingerprint_ne_of_disjoint {first second : Document}
    (apart : (seeds first).Disjoint (seeds second)) : first.fingerprint ≠ second.fingerprint := by
  have root (document : Document) : document.fingerprint ++ "/" ++ "page" ∈ seeds document :=
    List.mem_map_of_mem List.mem_cons_self
  intro same
  have shared := root second
  rw [← same] at shared
  exact apart (root first) shared

section

variable {first second : Document} (unlike : first.fingerprint ≠ second.fingerprint)
include unlike

/-- Documents with different fingerprints have different canonical texts. -/
theorem canonical_ne : first.canonical ≠ second.canonical :=
  fun same => unlike (congrArg Sha256.hexDigest same)

/-- Different fingerprints are no collision. -/
theorem injOn_canonical : Set.InjOn Sha256.hexDigest {first.canonical, second.canonical} :=
  Set.injOn_pair.mpr fun same => absurd same unlike

end

end Lowering

/-! ## Documents of prompts -/

namespace Prompt

/-- Different names make different ids of fields. -/
theorem fieldId_injective : Function.Injective ("field-" ++ · : String → String) := by
  intro left right same
  have spelled := congrArg String.toList same
  simp only [String.toList_append] at spelled
  exact String.toList_inj.mp (List.append_cancel_left spelled)

/-- The ids that the actions of a form may have. -/
def actionIds : List String := ["action-submit", "action-cancel", "action-back"]

/-- The ids of fields differ from those of actions and from the keys of the frame. -/
theorem fieldId_notMem (name : String) : "field-" ++ name ∉ Lowering.frameKeys ++ actionIds := by
  have others : ∀ text ∈ Lowering.frameKeys ++ actionIds,
      text.toList.take 6 ≠ "field-".toList := by
    decide
  intro listed
  exact others _ listed (by simp)

/-- The usual actions have distinct ids, which are among those of actions. -/
theorem ids_of_areUsual {actions : List Action} (usual : Action.AreUsual actions) :
    (actions.map (·.id)).Nodup ∧ ∀ id ∈ actions.map (·.id), id ∈ actionIds := by
  obtain ⟨first, others, rfl, ⟨submits, -, -, -⟩, few, leave⟩ := usual
  match others, few with
  | [], _ => simp [submits, actionIds]
  | [other], _ =>
    obtain ⟨leaves, -, -⟩ := leave other List.mem_cons_self
    rcases leaves with cancel | back
    · simp [submits, cancel, actionIds]
    · simp [submits, back, actionIds]

/-- A document whose fields are coherent and have distinct names and whose actions are the usual
ones has distinct ids. -/
theorem hasDistinctIds_of_coherent {document : Document}
    (names : (document.fields.map (·.name)).Nodup)
    (coherent : ∀ field ∈ document.fields, field.IsCoherent)
    (usual : Action.AreUsual document.actions) : document.HasDistinctIds := by
  have made : document.fields.map (·.id) =
      (document.fields.map (·.name)).map ("field-" ++ ·) := by
    rw [List.map_map]
    exact List.map_congr_left fun field member => (coherent field member).id_eq
  have apart : ∀ id ∈ document.fields.map (·.id), id ∉ Lowering.frameKeys ++ actionIds := by
    rw [made]
    exact List.forall_mem_map.mpr fun name _ => fieldId_notMem name
  obtain ⟨distinct, known⟩ := ids_of_areUsual usual
  constructor
  · refine List.nodup_append'.mpr ⟨?_, distinct, ?_⟩
    · rw [made]
      exact names.map fieldId_injective
    · exact fun id ofField ofAction =>
        apart id ofField (List.mem_append_right _ (known id ofAction))
  · intro id shown framed
    rcases List.mem_append.mp shown with ofField | ofAction
    · exact apart id ofField (List.mem_append_left _ framed)
    · have unframed : ∀ id ∈ actionIds, id ∉ Lowering.frameKeys := by decide
      exact unframed id (known id ofAction) framed

/-- A document that is read from a request has distinct ids. -/
theorem hasDistinctIds_readRequest (request : Request) :
    (readRequest request).document.HasDistinctIds :=
  hasDistinctIds_of_coherent (nodup_names_readRequest request)
    (isCoherent_of_mem_readRequest request) (areUsual_readRequest request)

/-- A document that is read from a prompt has distinct ids. -/
theorem hasDistinctIds_read (prompt : String) : (read prompt).document.HasDistinctIds := by
  simp only [read]
  split
  · exact ⟨List.nodup_nil, List.forall_mem_nil _⟩
  · exact hasDistinctIds_readRequest _

end Prompt

namespace Lowering

/-! ## The ids of pages -/

/-- The ids of a page are distinct where none collide. -/
theorem nodup_ids {document : Document} (own : document.HasDistinctIds)
    (apart : Set.InjOn NodeId.derived {seed | seed ∈ seeds document}) :
    (ids (page document)).Nodup := by
  rw [ids_page]
  exact (nodup_seeds own).map_on fun left ofLeft right ofRight => apart ofLeft ofRight

/-- Pages of documents with different canonical texts have no id in common, where neither their
fingerprints nor their ids collide. -/
theorem disjoint_ids {first second : Document} (other : first.canonical ≠ second.canonical)
    (prints : Set.InjOn Sha256.hexDigest {first.canonical, second.canonical})
    (apart : Set.InjOn NodeId.derived {seed | seed ∈ seeds first ++ seeds second}) :
    (ids (page first)).Disjoint (ids (page second)) := by
  have unlike : first.fingerprint ≠ second.fingerprint :=
    fun same => other (prints (by simp) (by simp) same)
  rw [ids_page, ids_page]
  intro id ofFirst ofSecond
  obtain ⟨left, listed, rfl⟩ := List.mem_map.mp ofFirst
  obtain ⟨right, also, same⟩ := List.mem_map.mp ofSecond
  obtain rfl := apart (List.mem_append_right _ also) (List.mem_append_left _ listed) same
  exact disjoint_seeds unlike listed also

/-- Pages have distinct ids: within one page of a document whose fields and actions have distinct
ids of their own, as in every document that is read from a prompt, and across the pages of documents
with different canonical texts. Ids are taken to be derived without collisions from the seeds that
are used, and fingerprints from the canonical texts. -/
theorem page_ids_apart :
    (∀ document : Document, document.HasDistinctIds →
      Set.InjOn NodeId.derived {seed | seed ∈ seeds document} → (ids (page document)).Nodup) ∧
    (∀ prompt : String,
      Set.InjOn NodeId.derived {seed | seed ∈ seeds (Prompt.read prompt).document} →
        (ids (page (Prompt.read prompt).document)).Nodup) ∧
    (∀ first second : Document, first.canonical ≠ second.canonical →
      Set.InjOn Sha256.hexDigest {first.canonical, second.canonical} →
      Set.InjOn NodeId.derived {seed | seed ∈ seeds first ++ seeds second} →
        (ids (page first)).Disjoint (ids (page second))) :=
  ⟨fun _ own apart => nodup_ids own apart,
    fun prompt apart => nodup_ids (Prompt.hasDistinctIds_read prompt) apart,
    fun _ _ other prints apart => disjoint_ids other prints apart⟩

/-! ## A page beside the page of a prompt -/

/-- A form with one field. -/
def plainForm : Document :=
  { kind := .form, title := "Form", fields := [.plain "name" "Name" .input] }

/-- A form with one field and a button to cancel. -/
def cancellableForm : Document :=
  { kind := .form, title := "Form"
    fields := [{ id := "field-name", name := "name", label := "Name", control := .input
                 placeholder := some "Enter name" }]
    actions := [{ id := "action-submit", label := "Submit", kind := .submit, variant := .primary },
      { id := "action-cancel", label := "Cancel", kind := .button, variant := .outline }] }

/-- A prompt that lists the field and the button is read as the form. -/
theorem read_cancellableForm :
    (Prompt.read "form: name; cancel").document = cancellableForm := by
  have plain : (Request.ofPrompt "form: name; cancel".toList).isCode = false := by decide +kernel
  have spoken : (Request.ofPrompt "form: name; cancel".toList).text =
      "form: name; cancel".toList := by
    decide +kernel
  have language : (Prompt.Topic.ofText "form: name; cancel".toList).language = .english := by
    decide +kernel
  have kind : (Prompt.Topic.ofText "form: name; cancel".toList).kind = .form := by decide +kernel
  have scaffold : (Prompt.Topic.ofText "form: name; cancel".toList).scaffold = none := by
    decide +kernel
  have title : (Title.find "form: name; cancel".toList .form none
      (Cue.registration.matchesIn "form: name; cancel".toList) .english).1 = "Form" := by
    decide +kernel
  have listed : (FieldList.find "form: name; cancel".toList).1 = ["name"] := by decide +kernel
  have actions : (ActionRule.find "form: name; cancel".toList .english).1 =
      cancellableForm.actions := by
    decide +kernel
  have qualifiers : Qualifiers.ofText "form: name; cancel".toList = ⟨false, none, none⟩ := by
    decide +kernel
  have fields : ((⟨false, none, none⟩ : Qualifiers).apply (Draft.ofTokens .english ["name"])).map
      (·.field) = cancellableForm.fields := by
    rfl
  rw [Prompt.document_read plain spoken language kind scaffold title listed actions qualifiers,
    fields]
  rfl

/-- The page of a form and the page of a prompt have distinct ids and none in common. -/
theorem page_ids_apart_plainForm :
    plainForm.HasDistinctIds ∧ (ids (page plainForm)).Nodup ∧
      (Prompt.read "form: name; cancel").document = cancellableForm ∧
      (ids (page cancellableForm)).Nodup ∧ plainForm.canonical ≠ cancellableForm.canonical ∧
      (ids (page plainForm)).Disjoint (ids (page cancellableForm)) := by
  have own : plainForm.HasDistinctIds := ⟨by decide, by decide⟩
  have plainPrint : plainForm.fingerprint =
      "8bf9d74e54b9a61c3cdc47fc76d78c2f5e4f22fb1aeeedde85a0a9de50aa6491" := by
    decide +kernel
  have print : cancellableForm.fingerprint =
      "7c198a4cd7ecd88ea7f767cdabf83e9efa70c2edfad86eed8ca2826b91146deb" := by
    decide +kernel
  -- Two digits of each id are enough to tell the seeds of both pages apart.
  let start (seed : String) : List (Fin 16) := (NodeId.derived seed).digits.take 2
  have plainStarts : (seeds plainForm).map start = [[1, 2], [13, 10], [1, 3], [13, 3]] := by
    have held : keys plainForm = ["page", "section", "fields", "field-name"] := rfl
    simp only [seeds, held, plainPrint, start, List.map_cons, List.map_nil, List.cons.injEq,
      and_true]
    refine ⟨?_, ?_, ?_, ?_⟩ <;> decide +kernel
  have starts : (seeds cancellableForm).map start =
      [[5, 8], [9, 14], [0, 15], [9, 11], [3, 15], [8, 10], [4, 7]] := by
    have held : keys cancellableForm = ["page", "section", "fields", "field-name", "actions",
      "action-submit", "action-cancel"] := rfl
    simp only [seeds, held, print, start, List.map_cons, List.map_nil, List.cons.injEq, and_true]
    refine ⟨?_, ?_, ?_, ?_, ?_, ?_, ?_⟩ <;> decide +kernel
  have distinct : ((seeds plainForm ++ seeds cancellableForm).map start).Nodup := by
    rw [List.map_append, plainStarts, starts]
    decide
  have apart : Set.InjOn NodeId.derived {seed | seed ∈ seeds plainForm ++ seeds cancellableForm} :=
    fun left ofLeft right ofRight same => List.inj_on_of_nodup_map distinct ofLeft ofRight
      (congrArg (·.digits.take 2) same)
  have prints : plainForm.fingerprint ≠ cancellableForm.fingerprint :=
    fingerprint_ne_of_disjoint (List.nodup_append'.mp distinct.of_map).2.2
  have other := canonical_ne prints
  obtain ⟨within, ofPrompts, across⟩ := page_ids_apart
  have ofPrompt := ofPrompts "form: name; cancel"
  rw [read_cancellableForm] at ofPrompt
  refine ⟨own, within plainForm own ?_, read_cancellableForm, ofPrompt ?_, other,
    across plainForm cancellableForm other (injOn_canonical prints) apart⟩
  · exact apart.mono fun seed => List.mem_append_left _
  · exact apart.mono fun seed => List.mem_append_right _

end Lowering
end Formwright
