import Formwright.Proofs.Cache.Entry
import Formwright.Proofs.Storage.Resolution
import Formwright.Proofs.Text.Words

/-!
# Looking into a cache

A cache is a directory that leads to a place. What is looked up under a key that is a plain name
comes from the file of that name in the place, and nothing but that file is ever touched.
-/
namespace Formwright.Cache

variable {start tree : FileTree} {directory base : FilePath} {key code : String}

/-! ## The file of a key -/

/-- The name of the file for a key. -/
def fileName (key : String) : String := key ++ ".json"

/-- The file names of different keys are different. -/
theorem fileName_injective : Function.Injective fileName := by
  intro left right same
  have spelled := congrArg String.toList same
  simp only [fileName, String.toList_append] at spelled
  exact String.toList_inj.mp (List.append_cancel_right spelled)

/-- The name of a file is a step that is taken as it stands. -/
theorem isPlain_fileName (key : String) : FileTree.IsPlain (fileName key) := by
  have ending : (fileName key).toList.getLast? = some 'n' := by
    simp [fileName]
  refine ⟨?_, ?_, ?_⟩ <;> intro same <;> rw [same] at ending <;> exact absurd ending (by decide)

/-- The file for a key without slashes stands in the directory itself. -/
theorem path_eq (plain : '/' ∉ key.toList) : path directory key = directory ++ [fileName key] := by
  have slashless : ∀ c ∈ (fileName key).toList, (c == '/') = false := by
    simp only [fileName, String.toList_append, List.forall_mem_append]
    refine ⟨fun c member => ?_, by simp⟩
    exact beq_false_of_ne fun same => plain (same ▸ member)
  have relative : (fileName key).startsWith "/" = false := by
    rw [String.startsWith_string_eq_false_iff]
    rintro ⟨rest, whole⟩
    have slash : '/' ∈ (fileName key).toList := whole ▸ List.mem_cons_self
    exact absurd (slashless '/' slash) (by decide)
  have steps : FileTree.steps (fileName key) = [fileName key] := by
    rw [FileTree.steps, Text.pieces_eq_singleton slashless, List.map_singleton,
      String.ofList_toList]
  rw [path, ← fileName, FileTree.resolve, relative, steps]
  rfl

/-- A key of a document and options has no slashes. -/
theorem slash_notMem_key (document : Document) (options : Code.Options) :
    '/' ∉ (Cache.key document options).toList := by
  have digit : ∀ nibble : Fin 16, Json.hexDigit nibble.val ≠ '/' := by decide
  rw [Cache.key, Sha256.hexDigest, String.toList_ofList, List.mem_map]
  rintro ⟨nibble, -, slash⟩
  exact digit nibble slash

/-! ## Looking up -/

/-- A directory leads to a place that has no entries. -/
structure IsEmpty (tree : FileTree) (directory base : FilePath) : Prop where
  leads : tree.locate directory = .ok ⟨base, some .directory⟩
  free : ∀ name, tree.entry? (base ++ [name]) = none

/-- The file for a key without slashes leads to the entry of its name in the place that the
directory led to when it was empty. -/
theorem locate_path {place : FileTree.Place} (empty : IsEmpty start directory base)
    (ways : tree.HasWaysOf start) (plain : '/' ∉ key.toList)
    (led : tree.locate (path directory key) = .ok place) :
    place = ⟨base ++ [fileName key], tree.entry? (base ++ [fileName key])⟩ := by
  rw [path_eq plain] at led
  exact FileTree.locate_name empty.leads ways (isPlain_fileName key) (empty.free _) led

/-- Code that is looked up is held by the file for its key, and looking it up leaves the tree as it
is. -/
theorem exists_of_get (empty : IsEmpty start directory base) (ways : tree.HasWaysOf start)
    (plain : '/' ∉ key.toList) {after : FileTree}
    (found : get tree directory key = (some code, after)) :
    after = tree ∧ ∃ content, tree.entry? (base ++ [fileName key]) = some (.file content) ∧
      CacheEntry.Holds content code := by
  rw [get] at found
  split at found
  · exact nomatch (Prod.mk.inj found).1
  · next text read =>
    split at found
    · exact nomatch (Prod.mk.inj found).1
    · next entry spelled =>
      split at found
      · next sound =>
        cases found
        obtain ⟨place, content, led, file, decoded⟩ := FileTree.exists_of_readText read
        obtain rfl := locate_path empty ways plain led
        exact ⟨rfl, content, file, text, entry, decoded, spelled, sound, rfl⟩
      · exact nomatch (Prod.mk.inj found).1

/-- A tree is left as it is, but for one entry that may be removed from it. -/
def DropsOne (tree after : FileTree) : Prop :=
  after = tree ∨ ∃ own, own ≠ [] ∧ after = tree.erase own

/-- Discarding a file removes one entry at most. -/
theorem discard_dropsOne (tree : FileTree) (path : FilePath) :
    DropsOne tree (discard tree path) := by
  rw [discard]
  cases removed : tree.remove path with
  | error fault => exact .inl rfl
  | ok after => exact .inr (FileTree.exists_of_remove removed)

/-- Looking something up removes one entry at most. -/
theorem get_dropsOne (tree : FileTree) (directory : FilePath) (key : String) :
    DropsOne tree (get tree directory key).2 := by
  rw [get]
  split
  · exact .inl rfl
  · split
    · exact discard_dropsOne tree _
    · split
      · exact .inl rfl
      · exact discard_dropsOne tree _

/-! ## Generating -/

section

variable {document : Document} {options : Code.Options} {after : FileTree}

/-- Code that the cache holds is not generated again. -/
theorem generate_of_hit
    (hit : get tree directory (Cache.key document options) = (some code, after)) :
    generate tree directory document options = (code, after) := by
  simp only [generate, hit]

/-- Code that the cache does not hold is generated and kept, if it can be. -/
theorem generate_of_miss (miss : get tree directory (Cache.key document options) = (none, after)) :
    generate tree directory document options =
      (Code.generate document options, (set after directory (Cache.key document options)
        (Code.generate document options)).toOption.getD after) := by
  simp only [generate, miss]

end

end Formwright.Cache
