import Formwright.Proofs.Cache.Lookup
import Formwright.Proofs.Storage.Frame

/-!
# What is kept is found

Code that is kept under a key is found under it, character by character, whatever the file of the
key held before and whatever is done to the files of other keys in between. Keeping it changes what
is found under no other key, and keeping other code under the key leaves nothing of it.
-/
namespace Formwright.Cache

variable {tree after : FileTree} {directory base own : FilePath} {key other code : String}
  {content : ByteArray}

/-! ## What is found -/

/-- Code is found under a key where a file is read that holds it. -/
theorem fst_get_eq_some_iff : (get tree directory key).1 = some code ↔
    ∃ content, tree.read (path directory key) = .ok content ∧ CacheEntry.Holds content code := by
  constructor
  · intro found
    cases read : tree.read (path directory key) with
    | error fault => exact nomatch (congrArg Prod.fst (get_of_unread read)).symm.trans found
    | ok content =>
      refine ⟨content, rfl, ?_⟩
      by_cases held : ∃ code, CacheEntry.Holds content code
      · obtain ⟨code', holds⟩ := held
        obtain rfl : code' = code :=
          Option.some.inj ((congrArg Prod.fst (get_of_holds read holds)).symm.trans found)
        exact holds
      · cases decoded : String.fromUTF8? content with
        | none => exact nomatch (congrArg Prod.fst (get_of_undecoded read decoded)).symm.trans found
        | some text =>
          have missed := get_of_not_holds read decoded (not_exists.mp held)
          exact nomatch (congrArg Prod.fst missed).symm.trans found
  · rintro ⟨content, read, holds⟩
    rw [get_of_holds read holds]

/-- The paths of two keys lead to one place. -/
def ShareFile (tree : FileTree) (directory : FilePath) (key other : String) : Prop :=
  ∃ place place', tree.locate (path directory key) = .ok place ∧
    tree.locate (path directory other) = .ok place' ∧ place.path = place'.path

/-- Keys that are plain names have files of their own in a directory without links. -/
theorem not_shareFile (store : tree.HoldsNoLinks directory base) (slashless : '/' ∉ key.toList)
    (slashless' : '/' ∉ other.toList) (apart : other ≠ key) :
    ¬ ShareFile tree directory key other := by
  rintro ⟨place, place', led, led', same⟩
  rw [path_eq slashless] at led
  rw [path_eq slashless'] at led'
  rw [store.path_eq (isPlain_fileName key) led, store.path_eq (isPlain_fileName other) led',
    List.append_cancel_left_eq, List.singleton_inj] at same
  exact apart (fileName_injective same).symm

/-! ## Keeping code -/

/-- The bytes of the file that keeps some code. -/
def entryBytes (code : String) : ByteArray := (CacheEntry.ofCode code).toJson.render.toUTF8

/-- Code is kept under a key where there is room for a file, and just the file is written. -/
theorem set_eq_ok_iff : set tree directory key code = .ok after ↔
    ∃ own, tree.HasRoom (path directory key) own ∧
      after = tree.put own (.file (entryBytes code)) :=
  FileTree.write_eq_ok_iff

/-- Code is found, and nothing is changed by it, wherever the path of the key leads to the file that
keeps the code. -/
theorem get_of_locate
    (led : tree.locate (path directory key) = .ok ⟨own, some (.file (entryBytes code))⟩) :
    get tree directory key = (some code, tree) :=
  get_of_holds (FileTree.read_eq_ok_iff.mpr ⟨own, led⟩) (CacheEntry.holds_ofCode code)

/-- Under a key that shares the file of the code, the code is found. -/
theorem get_of_shareFile (room : tree.HasRoom (path directory key) own)
    (shared : ShareFile tree directory key other) :
    get (tree.put own (.file (entryBytes code))) directory other =
      (some code, tree.put own (.file (entryBytes code))) := by
  obtain ⟨place, place', led, led', same⟩ := shared
  obtain ⟨entry, here⟩ := room.leads
  have there : place'.path = own := by
    rw [← same]
    exact congrArg FileTree.Place.path (Except.ok.inj (led.symm.trans here))
  have moved := FileTree.locate_of_alters (room.alters (entryBytes code)) led'
  rw [there, FileTree.entry?_put room.ne_nil, if_pos rfl] at moved
  exact get_of_locate moved

/-- What is found under a key that does not share the file is as before. -/
theorem fst_get_put (room : tree.HasRoom (path directory key) own)
    (apart : ¬ ShareFile tree directory key other) :
    (get (tree.put own (.file content)) directory other).1 = (get tree directory other).1 := by
  obtain ⟨entry, led⟩ := room.leads
  have elsewhere (place : FileTree.Place) (led' : tree.locate (path directory other) = .ok place) :
      place.path ≠ own := fun same => apart ⟨_, _, led, led', same.symm⟩
  refine Option.ext fun found => ?_
  simp only [fst_get_eq_some_iff, room.read_put_iff content elsewhere]

/-! ## Sessions -/

/-- What may be done to a cache or to its files. -/
inductive Step where
  | get (key : String)
  | set (key code : String)
  | generate (document : Document) (options : Code.Options)
  /-- Someone else writes the file of a key. -/
  | write (key : String) (content : ByteArray)
  /-- Someone removes the file of a key. -/
  | remove (key : String)
  /-- Someone makes a directory where the file of a key would stand. -/
  | makeDirectory (key : String)

namespace Step

/-- The tree after a step; a step that fails changes nothing. -/
def run (directory : FilePath) (tree : FileTree) : Step → FileTree
  | .get key => (Cache.get tree directory key).2
  | .set key code => (Cache.set tree directory key code).toOption.getD tree
  | .generate document options => (Cache.generate tree directory document options).2
  | .write key content => (tree.write (path directory key) content).toOption.getD tree
  | .remove key => discard tree (path directory key)
  | .makeDirectory key => (tree.makeDirectory (path directory key)).toOption.getD tree

/-- A step works on plain names, and on a given key only to look it up. -/
def IsApart (key : String) : Step → Prop
  | .get other => '/' ∉ other.toList
  | .generate document options => Cache.key document options ≠ key
  | .set other _ | .write other _ | .remove other | .makeDirectory other =>
    '/' ∉ other.toList ∧ other ≠ key

end Step

/-- The tree after the steps of a session. -/
def run (directory : FilePath) (tree : FileTree) (steps : List Step) : FileTree :=
  steps.foldl (Step.run directory) tree

/-- What holds before and after an attempt holds after it, whether or not it fails. -/
theorem attempt_keeps {holds : FileTree → Prop} {attempt : Except FileError FileTree}
    (before : holds tree) (success : ∀ after, attempt = .ok after → holds after) :
    holds (attempt.toOption.getD tree) := by
  cases attempt with
  | error fault => exact before
  | ok after => exact success after rfl

/-- A directory without links, in which the file of a key keeps some code. -/
structure Keeps (tree : FileTree) (directory base : FilePath) (key code : String) : Prop where
  store : tree.HoldsNoLinks directory base
  held : tree.locate (path directory key) =
    .ok ⟨base ++ [fileName key], some (.file (entryBytes code))⟩

namespace Keeps

variable (keeps : Keeps tree directory base key code)
include keeps

/-- The file stays when the entry of another key is changed. -/
theorem of_alters (altered : tree.Alters after (base ++ [fileName other])) (apart : other ≠ key) :
    Keeps after directory base key code where
  store := keeps.store.of_alters altered
  held := FileTree.locate_of_alters_of_ne altered keeps.held fun same =>
    apart (fileName_injective (List.singleton_inj.mp (List.append_cancel_left same))).symm

/-- The file stays when the file of another key is written. -/
theorem afterWrite (slashless : '/' ∉ other.toList) (apart : other ≠ key) (content : ByteArray) :
    Keeps ((tree.write (path directory other) content).toOption.getD tree) directory base key
      code := by
  rw [path_eq slashless]
  exact attempt_keeps keeps fun _ written =>
    keeps.of_alters (keeps.store.alters_of_write (isPlain_fileName other) written) apart

/-- The file stays when code is kept under another key. -/
theorem afterSet (slashless : '/' ∉ other.toList) (apart : other ≠ key) (code' : String) :
    Keeps ((set tree directory other code').toOption.getD tree) directory base key code :=
  keeps.afterWrite slashless apart (entryBytes code')

/-- The file stays when the file of another key is removed. -/
theorem afterDiscard (slashless : '/' ∉ other.toList) (apart : other ≠ key) :
    Keeps (discard tree (path directory other)) directory base key code := by
  rw [path_eq slashless, discard]
  exact attempt_keeps keeps fun _ removed =>
    keeps.of_alters (keeps.store.alters_of_remove removed) apart

/-- The file stays when any plain name is looked up. -/
theorem afterGet (slashless : '/' ∉ other.toList) :
    Keeps (get tree directory other).2 directory base key code := by
  by_cases same : other = key
  · rw [same, get_of_locate keeps.held]
    exact keeps
  · rw [get]
    split
    · exact keeps
    · split
      · exact keeps.afterDiscard slashless same
      · split
        · exact keeps
        · exact keeps.afterDiscard slashless same

/-- The file stays when code is generated under another key. -/
theorem afterGenerate {document : Document} {options : Code.Options}
    (apart : Cache.key document options ≠ key) :
    Keeps (generate tree directory document options).2 directory base key code := by
  have slashless := slash_notMem_key document options
  have looked := keeps.afterGet slashless
  cases found : get tree directory (Cache.key document options) with
  | mk answer state =>
    rw [found] at looked
    dsimp only at looked
    cases answer with
    | some held => rwa [generate_of_hit found]
    | none =>
      rw [generate_of_miss found]
      dsimp only
      exact looked.afterSet slashless apart (Code.generate document options)

/-- The file stays in a step that works on other keys. -/
theorem step {step : Step} (apart : step.IsApart key) :
    Keeps (step.run directory tree) directory base key code := by
  cases step with
  | get other => exact keeps.afterGet apart
  | set other code' => exact keeps.afterSet apart.1 apart.2 code'
  | generate document options => exact keeps.afterGenerate apart
  | write other content => exact keeps.afterWrite apart.1 apart.2 content
  | remove other => exact keeps.afterDiscard apart.1 apart.2
  | makeDirectory other =>
    rw [Step.run, path_eq apart.1]
    exact attempt_keeps keeps fun _ made =>
      keeps.of_alters (keeps.store.alters_of_makeDirectory made) apart.2

end Keeps

/-- The file stays in a session that works on other keys. -/
theorem Keeps.run (keeps : Keeps tree directory base key code) {steps : List Step}
    (apart : ∀ step ∈ steps, step.IsApart key) :
    Keeps (run directory tree steps) directory base key code := by
  induction steps generalizing tree with
  | nil => exact keeps
  | cons step later ih =>
    obtain ⟨here, onward⟩ := List.forall_mem_cons.mp apart
    exact ih (keeps.step here) onward

/-- A directory without links keeps the code that is kept in it under a plain name. -/
theorem Keeps.ofSet (store : tree.HoldsNoLinks directory base) (slashless : '/' ∉ key.toList)
    (kept : set tree directory key code = .ok after) : Keeps after directory base key code := by
  obtain ⟨own, room, rfl⟩ := set_eq_ok_iff.mp kept
  obtain ⟨entry, led⟩ := room.leads
  have plain := isPlain_fileName key
  rw [path_eq slashless] at room led
  obtain rfl : own = base ++ [fileName key] := store.path_eq plain led
  exact ⟨store.of_alters (room.alters _), by rw [path_eq slashless, room.locate_put]⟩

/-- What is found once code is kept under a key.

* The code is found under the key, and the lookup changes nothing, in every state in which the path
  of the key leads to the file that was written.
* Under any other key what is found is as before, unless its path leads to the very same file; then
  it is the code too.
* In a directory without links no other plain name leads there. There the code is found after any
  session that leaves the file of the key alone.
* Keeping other code afterwards, whatever has been written in the file in between, gives the tree
  that keeping just the other code gives, and the other code is found in it. -/
theorem get_after_set (kept : set tree directory key code = .ok after) :
    (∀ state : FileTree,
      state.locate (path directory key) = after.locate (path directory key) →
        get state directory key = (some code, state)) ∧
    (∀ other,
      (ShareFile tree directory key other → get after directory other = (some code, after)) ∧
      (¬ ShareFile tree directory key other →
        (get after directory other).1 = (get tree directory other).1)) ∧
    (∀ base, tree.HoldsNoLinks directory base → '/' ∉ key.toList →
      (∀ other, '/' ∉ other.toList → other ≠ key →
        (get after directory other).1 = (get tree directory other).1) ∧
      ∀ steps : List Step, (∀ step ∈ steps, step.IsApart key) →
        get (run directory after steps) directory key =
          (some code, run directory after steps)) ∧
    ∀ content code', ∃ before final, after.write (path directory key) content = .ok before ∧
      set before directory key code' = .ok final ∧ set after directory key code' = .ok final ∧
      set tree directory key code' = .ok final ∧
      get final directory key = (some code', final) := by
  obtain ⟨own, room, same⟩ := set_eq_ok_iff.mp kept
  refine ⟨fun state unmoved => ?_, fun other => ⟨fun shared => ?_, fun apart => ?_⟩,
    fun base store slashless => ⟨fun other slashless' apart => ?_, fun steps apart => ?_⟩,
    fun content code' => ?_⟩
  · rw [same, room.locate_put] at unmoved
    exact get_of_locate unmoved
  · rw [same]
    exact get_of_shareFile room shared
  · rw [same]
    exact fst_get_put room apart
  · rw [same]
    exact fst_get_put room (not_shareFile store slashless slashless' apart)
  · exact get_of_locate ((Keeps.ofSet store slashless kept).run apart).held
  · subst same
    have room' := (room.put (entryBytes code)).put content
    refine ⟨_, tree.put own (.file (entryBytes code')),
      FileTree.write_eq_ok_iff.mpr ⟨own, room.put _, rfl⟩, ?_, ?_, ?_,
      get_of_locate (room.locate_put _)⟩
    · exact set_eq_ok_iff.mpr ⟨own, room', by simp only [FileTree.put_put]⟩
    · exact set_eq_ok_iff.mpr ⟨own, room.put _, by rw [FileTree.put_put]⟩
    · exact set_eq_ok_iff.mpr ⟨own, room, rfl⟩

/-- Code with a quote, a backslash, a control character and characters beyond ASCII is kept where a
file of one byte stood that no text has. It is found after a session on other keys, and other code
takes its place. -/
theorem get_after_set_notText :
    let tree : FileTree :=
      ⟨[(["cache"], .directory), (["cache", "a.json"], .file ⟨#[0xff]⟩)]⟩
    let code := "\"\\\x00\nż漢😀"
    let session : List Step :=
      [.get "a", .set "b" "two", .write "c" ⟨#[0xff]⟩, .get "c", .remove "b", .makeDirectory "b"]
    ∃ after, set tree ["cache"] "a" code = .ok after ∧
      tree.HoldsNoLinks ["cache"] ["cache"] ∧ '/' ∉ "a".toList ∧
      (∀ step ∈ session, step.IsApart "a") ∧
      get (run ["cache"] after session) ["cache"] "a" =
        (some code, run ["cache"] after session) ∧
      ∃ final, set after ["cache"] "a" "other" = .ok final ∧
        get final ["cache"] "a" = (some "other", final) := by
  intro tree code session
  have slashless : '/' ∉ "a".toList := by decide
  have kept : set tree ["cache"] "a" code =
      .ok (tree.put ["cache", "a.json"] (.file (entryBytes code))) := by
    rw [set, path_eq slashless]
    rfl
  have store : tree.HoldsNoLinks ["cache"] ["cache"] := by
    refine ⟨rfl, fun name target => ?_⟩
    cases same : name == "a.json" <;> simp [tree, FileTree.entry?, List.lookup_cons, same]
  have apart : ∀ step ∈ session, step.IsApart "a" := by
    simp [session, Step.IsApart]
  obtain ⟨_, _, inStore, replaced⟩ := get_after_set kept
  obtain ⟨_, final, _, _, again, _, found⟩ := replaced ⟨#[]⟩ "other"
  exact ⟨_, kept, store, slashless, apart, (inStore _ store slashless).2 session apart, final,
    again, found⟩

end Formwright.Cache
