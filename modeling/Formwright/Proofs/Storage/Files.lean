import Formwright.Proofs.Storage.Resolution
import Formwright.Storage.Walk
import Mathlib.Data.List.Induction
import Mathlib.Data.List.Nodup
import Mathlib.Data.List.Perm.Subperm
import Mathlib.Data.String.Basic

/-!
# Files below plain directories

Below a plain directory there are directories and files only. A walk over one comes to all files
below it and to nothing else, and its list is in increasing order of paths, so it depends on the
files alone and not on the order in which they were made.
-/
namespace Formwright.FileTree

variable {tree : FileTree} {directory base path : FilePath} {content : ByteArray}

/-- What stands at a path is stored, unless it is the root. -/
theorem mem_entries_of_held {entry : FileEntry} (below : path ≠ [])
    (held : tree.entry? path = some entry) : (path, entry) ∈ tree.entries := by
  rw [ entry?, if_neg (by simpa using below)] at held
  obtain ⟨before, after, same, -⟩ := List.lookup_eq_some_iff.mp held
  simp [same]

/-- A file that stands at a path is stored. -/
theorem mem_entries_of_file (held : tree.entry? path = some (.file content)) :
    (path, .file content) ∈ tree.entries := by
  refine mem_entries_of_held ?_ held
  rintro rfl
  cases held

/-! ## Plain directories -/

/-- Below a place of the tree there are directories and files only, each in a directory and under a
name that a path may have as a step. -/
structure IsPlainBelow (tree : FileTree) (base : FilePath) : Prop where
  noLink : ∀ path target, tree.entry? (base ++ path) ≠ some (.link target)
  inside : ∀ path name entry, tree.entry? (base ++ (path ++ [name])) = some entry →
    tree.entry? (base ++ path) = some .directory
  named : ∀ path name entry, tree.entry? (base ++ (path ++ [name])) = some entry →
    IsPlain name ∧ name.utf8ByteSize ≤ maxName

namespace IsPlainBelow

variable (plain : tree.IsPlainBelow base)
include plain

/-- A place below a plain one is plain. -/
theorem below (path : FilePath) : tree.IsPlainBelow (base ++ path) where
  noLink further target := by
    rw [List.append_assoc]
    exact plain.noLink (path ++ further) target
  inside further name entry held := by
    rw [List.append_assoc] at held ⊢
    rw [← List.append_assoc path] at held
    exact plain.inside (path ++ further) name entry held
  named further name entry held := by
    rw [List.append_assoc, ← List.append_assoc path] at held
    exact plain.named (path ++ further) name entry held

/-- On the way to an entry there are directories. -/
theorem directory_of_append (path further : FilePath) {entry : FileEntry}
    (held : tree.entry? (base ++ (path ++ further)) = some entry) (on : further ≠ []) :
    tree.entry? (base ++ path) = some .directory := by
  -- From the end of the path back: what stands at each place on the way is a directory.
  induction further using List.reverseRecOn generalizing entry with
  | nil => contradiction
  | append_singleton before name ih =>
    rw [← List.append_assoc path] at held
    have parent := plain.inside (path ++ before) name entry held
    by_cases first : before = []
    · rwa [first, List.append_nil] at parent
    · exact ih parent first

/-- A path from a plain directory leads to the file that stands there, without following links. -/
theorem follow_file (onLink : FilePath → FilePath → Except FileError Place)
    (there : tree.entry? base = some .directory)
    (held : tree.entry? (base ++ path) = some (.file content)) :
    follow tree onLink base path = .ok ⟨base ++ path, some (.file content)⟩ := by
  induction path generalizing base with
  | nil =>
    rw [List.append_nil] at held
    exact nomatch there.symm.trans held
  | cons name later ih =>
    have own : base ++ name :: later = base ++ [name] ++ later := by simp
    rw [own] at held ⊢
    have first : ∃ entry, tree.entry? (base ++ ([] ++ [name])) = some entry := by
      by_cases last : later = []
      · exact ⟨_, by simpa [last] using held⟩
      · exact ⟨_, plain.directory_of_append ([] ++ [name]) later (by simpa using held) last⟩
    obtain ⟨entry, found⟩ := first
    obtain ⟨⟨notEmpty, notHere, notUp⟩, short⟩ := plain.named [] name entry found
    rw [List.nil_append] at found
    rw [follow, if_neg (by simp [notEmpty, notHere]), if_neg notUp, if_neg (Nat.not_lt.mpr short)]
    dsimp only
    by_cases last : later = []
    · subst last
      rw [List.append_nil] at held ⊢
      rw [held]
      rfl
    · have between : tree.entry? (base ++ [name]) = some .directory :=
        plain.directory_of_append [name] later (by rwa [← List.append_assoc]) last
      rw [between]
      exact ih (plain.below [name]) between held

end IsPlainBelow

/-- A path leads to a plain directory, whose entries have paths that the operating system takes. -/
structure IsPlainDirectory (tree : FileTree) (directory base : FilePath) : Prop
    extends tree.IsPlainBelow base where
  leads : tree.locate directory = .ok ⟨base, some .directory⟩
  allowed : ∀ path entry, tree.entry? (base ++ path) = some entry →
    refusal? (directory ++ path) = none

namespace IsPlainDirectory

variable (plain : tree.IsPlainDirectory directory base)
include plain

/-- A plain directory stands where it is said to. -/
theorem there : tree.entry? base = some .directory := (entry_of_locate plain.leads).symm

/-- A file below a plain directory is read. -/
theorem read_file (held : tree.entry? (base ++ path) = some (.file content)) :
    tree.read (directory ++ path) = .ok content := by
  have led : tree.locate (directory ++ path) = .ok ⟨base ++ path, some (.file content)⟩ :=
    locate_append plain.leads (plain.allowed path _ held)
      fun onLink => plain.follow_file onLink plain.there held
  rw [FileTree.read, led]
  rfl

/-- The text of a file below a plain directory is what its bytes spell. -/
theorem readText_file (held : tree.entry? (base ++ path) = some (.file content)) :
    tree.readText (directory ++ path) =
      match String.fromUTF8? content with
      | some text => .ok text
      | none => .error .invalidText :=
  readText_of_read (plain.read_file held)

/-- A directory is plain in any tree in which the same stands everywhere. -/
theorem congr {other : FileTree} (same : ∀ path, other.entry? path = tree.entry? path) :
    other.IsPlainDirectory directory base where
  noLink path target := same _ ▸ plain.noLink path target
  inside path name entry held := same _ ▸ plain.inside path name entry (same _ ▸ held)
  named path name entry held := plain.named path name entry (same _ ▸ held)
  leads := (locate_congr same directory).trans plain.leads
  allowed path entry held := plain.allowed path entry (same _ ▸ held)

end IsPlainDirectory

/-- A tree with nothing but files in the root. -/
def ofFiles (files : List (String × ByteArray)) : FileTree :=
  ⟨files.map fun (name, content) => ([name], .file content)⟩

instance (name : String) : Decidable (IsPlain name) := inferInstanceAs (Decidable (_ ∧ _ ∧ _))

/-- The root of a tree with nothing but files in it is a plain directory. -/
theorem isPlainDirectory_ofFiles {files : List (String × ByteArray)}
    (allowed : ∀ name ∈ files.map Prod.fst,
      IsPlain name ∧ name.utf8ByteSize ≤ maxName ∧ refusal? [name] = none) :
    (ofFiles files).IsPlainDirectory [] [] := by
  have known {path : FilePath} {entry : FileEntry} (below : path ≠ [])
      (held : FileTree.entry? (ofFiles files) path = some entry) : ∃ name content, path = [name] ∧
        entry = .file content ∧ IsPlain name ∧ name.utf8ByteSize ≤ maxName ∧
        refusal? [name] = none := by
    obtain ⟨⟨name, content⟩, member, same⟩ := List.mem_map.mp (mem_entries_of_held below held)
    obtain ⟨rfl, rfl⟩ := Prod.mk.inj same
    exact ⟨name, content, rfl, rfl, allowed name (List.mem_map_of_mem member)⟩
  refine ⟨⟨fun path target held => ?_, fun path name entry held => ?_,
    fun path name entry held => ?_⟩, rfl, fun path entry held => ?_⟩
  · by_cases root : path = []
    · subst root
      cases held
    · obtain ⟨_, _, _, same, _⟩ := known root held
      cases same
  · obtain ⟨other, _, same, _⟩ := known (by simp) held
    obtain rfl : path = [] := by simpa using congrArg List.length same
    rfl
  · obtain ⟨other, _, same, _, plain, short, _⟩ := known (by simp) held
    have parted : path ++ [name] = [] ++ [other] := same
    obtain ⟨-, last⟩ := List.append_inj' parted rfl
    obtain rfl := List.singleton_inj.mp last
    exact ⟨plain, short⟩
  · by_cases root : path = []
    · rw [root]
      rfl
    · obtain ⟨name, _, rfl, _, _, _, taken⟩ := known root held
      exact taken

/-! ## The order of paths -/

/-- Of two paths one does not come after the other. -/
theorem pathLe_total : ∀ path other : FilePath, (pathLe path other || pathLe other path) = true
  | [], _ => rfl
  | _ :: _, [] => rfl
  | name :: later, otherName :: otherLater => by
    rw [pathLe, pathLe]
    by_cases same : name = otherName
    · rw [if_pos same, if_pos same.symm]
      exact pathLe_total later otherLater
    · rw [if_neg same, if_neg (Ne.symm same)]
      simpa using le_total name otherName

/-- Paths of which neither comes after the other are the same. -/
theorem pathLe_antisymm : ∀ {path other : FilePath}, pathLe path other = true →
    pathLe other path = true → path = other
  | [], [], _, _ => rfl
  | [], _ :: _, _, back => nomatch back
  | _ :: _, [], forth, _ => nomatch forth
  | name :: later, otherName :: otherLater, forth, back => by
    rw [pathLe] at forth back
    by_cases same : name = otherName
    · rw [if_pos same] at forth
      rw [if_pos same.symm] at back
      rw [same, pathLe_antisymm forth back]
    · rw [if_neg same, decide_eq_true_eq] at forth
      rw [if_neg (Ne.symm same), decide_eq_true_eq] at back
      exact absurd (le_antisymm forth back) same

/-- What does not come after a path does not come after what the path does not come after. -/
theorem pathLe_trans : ∀ path other last : FilePath, pathLe path other = true →
    pathLe other last = true → pathLe path last = true
  | [], _, _, _, _ => rfl
  | _ :: _, [], _, first, _ => nomatch first
  | _ :: _, _ :: _, [], _, second => nomatch second
  | name :: later, otherName :: otherLater, lastName :: lastLater, first, second => by
    rw [pathLe] at first second ⊢
    split at first
    · next same =>
      subst same
      split at second
      · next same' =>
        rw [if_pos same']
        exact pathLe_trans later otherLater lastLater first second
      · next different =>
        rwa [if_neg different]
    · next different =>
      rw [decide_eq_true_eq] at first
      split at second
      · next same =>
        rw [if_neg (same ▸ different), decide_eq_true_eq]
        exact same ▸ first
      · next different' =>
        rw [decide_eq_true_eq] at second
        have apart : name ≠ lastName := by
          rintro rfl
          exact different (le_antisymm first second)
        rw [if_neg apart, decide_eq_true_eq]
        exact le_trans first second

/-! ## Walks -/

/-- The names of a directory are those under which something stands in it. -/
theorem mem_names_iff (tree : FileTree) (directory : FilePath) (name : String) :
    name ∈ tree.names directory ↔ ∃ entry, tree.entry? (directory ++ [name]) = some entry := by
  rw [names, List.mem_mergeSort, List.mem_filterMap]
  constructor
  · rintro ⟨⟨path, entry⟩, member, found⟩
    dsimp only at found
    split at found
    · next parent =>
      obtain ⟨before, rfl⟩ := List.getLast?_eq_some_iff.mp found
      rw [List.dropLast_concat] at parent
      subst parent
      cases shown : tree.entries.lookup (before ++ [name]) with
      | some held => exact ⟨held, by simpa [ entry?] using shown⟩
      | none => exact absurd (List.lookup_eq_none_iff.mp shown _ member) (by simp)
    · contradiction
  · rintro ⟨entry, held⟩
    exact ⟨(directory ++ [name], entry), mem_entries_of_held (by simp) held, by simp⟩

/-- Lists that are found for the elements of a list one by one: what is in them together is what is
in one of them. -/
theorem exists_mapM_flatten {ε α β : Type} {find : α → Except ε (List β)} {holds : α → β → Prop}
    {elements : List α}
    (each : ∀ element ∈ elements, ∃ found, find element = .ok found ∧
      ∀ value, value ∈ found ↔ holds element value) :
    ∃ lists, elements.mapM find = .ok lists ∧
      ∀ value, value ∈ lists.flatten ↔ ∃ element ∈ elements, holds element value := by
  induction elements with
  | nil => exact ⟨[], rfl, by simp⟩
  | cons element later ih =>
    obtain ⟨⟨found, here, first⟩, rest⟩ := List.forall_mem_cons.mp each
    obtain ⟨lists, done, others⟩ := ih rest
    refine ⟨found :: lists, ?_, fun value => ?_⟩
    · rw [List.mapM_cons, here, done]
      rfl
    · rw [List.flatten_cons, List.mem_append, first, others]
      simp

/-- A walk from a plain directory finds the files that are at most as deep as it goes. -/
theorem exists_walkFrom (fuel : Nat) (outer : List OpenDirectory) (shown : String)
    (path real : FilePath) (plain : tree.IsPlainBelow real)
    (there : tree.entry? real = some .directory) :
    ∃ found, walkFrom tree fuel outer ⟨shown, path, real⟩ = .ok found ∧
      ∀ file, file ∈ found ↔ ∃ further, file = path ++ further ∧ further.length ≤ fuel ∧
        ∃ content, tree.entry? (real ++ further) = some (.file content) := by
  -- One level of directories takes one of the fuel, and what is below it has one step less.
  induction fuel generalizing outer shown path real with
  | zero =>
    refine ⟨[], rfl, fun file => ⟨nofun, ?_⟩⟩
    rintro ⟨further, -, short, content, held⟩
    obtain rfl := List.length_eq_zero_iff.mp (Nat.le_zero.mp short)
    rw [List.append_nil, there] at held
    cases held
  | succ fuel ih =>
    have each : ∀ name ∈ tree.names real, ∃ found,
        walkEntry tree (walkFrom tree fuel) outer ⟨shown, path, real⟩ name = .ok found ∧
        ∀ file, file ∈ found ↔ ∃ further, file = path ++ name :: further ∧
          further.length ≤ fuel ∧
          ∃ content, tree.entry? (real ++ name :: further) = some (.file content) := by
      intro name member
      obtain ⟨entry, held⟩ := (mem_names_iff tree real name).mp member
      have below := plain.below [name]
      simp only [walkEntry, held, OpenDirectory.child]
      cases entry with
      | directory =>
        obtain ⟨found, walked, files⟩ := ih (⟨shown, path, real⟩ :: outer)
          (OpenDirectory.shownChild ⟨shown, path, real⟩ name) (path ++ [name]) (real ++ [name])
          below held
        exact ⟨found, walked, by simpa using files⟩
      | file content =>
        refine ⟨[path ++ [name]], rfl, fun file => ?_⟩
        rw [List.mem_singleton]
        constructor
        · rintro rfl
          exact ⟨[], rfl, Nat.zero_le _, content, held⟩
        · rintro ⟨further, rfl, -, other, found⟩
          by_cases last : further = []
          · rw [last]
          · have between := plain.directory_of_append [name] further (by simpa using found) last
            cases held.symm.trans between
      | link target => exact absurd held (plain.noLink [name] target)
    obtain ⟨lists, walked, files⟩ := exists_mapM_flatten each
    refine ⟨lists.flatten, ?_, fun file => ?_⟩
    · rw [walkFrom, walked]
      rfl
    · rw [files]
      constructor
      · rintro ⟨name, -, further, rfl, short, content, held⟩
        exact ⟨name :: further, rfl, Nat.succ_le_succ short, content, held⟩
      · rintro ⟨further, rfl, short, content, held⟩
        cases further with
        | nil =>
          rw [List.append_nil, there] at held
          cases held
        | cons name later =>
          refine ⟨name, (mem_names_iff tree real name).mpr ?_, later, rfl,
            Nat.le_of_succ_le_succ short, content, held⟩
          by_cases last : later = []
          · exact ⟨_, by rwa [last] at held⟩
          · exact ⟨_, plain.directory_of_append [name] later (by simpa using held) last⟩

/-- Below a plain directory no path has more steps than the tree has entries. -/
theorem IsPlainBelow.length_le (plain : tree.IsPlainBelow base) {entry : FileEntry}
    (held : tree.entry? (base ++ path) = some entry) : path.length ≤ tree.entries.length := by
  -- The paths on the way are distinct, and at each of them there is an entry.
  let way := (List.range path.length).map fun steps => base ++ path.take (steps + 1)
  have distinct : way.Nodup := by
    refine List.Nodup.map_on (fun steps member other member' same => ?_) List.nodup_range
    have lengths := congrArg List.length (List.append_cancel_left same)
    simp only [List.length_take] at lengths
    have := List.mem_range.mp member
    have := List.mem_range.mp member'
    omega
  have stored : way ⊆ tree.entries.map Prod.fst := by
    intro held' member
    obtain ⟨steps, within, rfl⟩ := List.mem_map.mp member
    have inside := List.mem_range.mp within
    have shown : ∃ found, tree.entry? (base ++ path.take (steps + 1)) = some found := by
      by_cases whole : path.drop (steps + 1) = []
      · refine ⟨entry, ?_⟩
        rwa [List.take_of_length_le (List.drop_eq_nil_iff.mp whole)]
      · exact ⟨_, plain.directory_of_append _ _ (by rwa [List.take_append_drop]) whole⟩
    obtain ⟨found, shown⟩ := shown
    have nonEmpty : base ++ path.take (steps + 1) ≠ [] := by
      have : 0 < path.length := by omega
      simp [List.take_eq_nil_iff, List.ne_nil_of_length_pos this]
    exact List.mem_map.mpr ⟨_, mem_entries_of_held nonEmpty shown, rfl⟩
  have bounded := (distinct.subperm stored).length_le
  simpa [way] using bounded

/-- The list of the files below a plain directory holds exactly these, in increasing order of their
paths. -/
theorem IsPlainDirectory.exists_filesBelow (plain : tree.IsPlainDirectory directory base)
    (shown : String) : ∃ files, tree.filesBelow shown directory = .ok files ∧
      files.Pairwise (fun path other => pathLe path other = true) ∧
      ∀ path, path ∈ files ↔ ∃ content, tree.entry? (base ++ path) = some (.file content) := by
  obtain ⟨found, walked, files⟩ := exists_walkFrom (2 * tree.entries.length + 2) [] shown [] base
    plain.toIsPlainBelow plain.there
  refine ⟨found.mergeSort pathLe, ?_, List.pairwise_mergeSort pathLe_trans pathLe_total found,
    fun path => ?_⟩
  · simp only [filesBelow, plain.leads, walked, bind, Except.bind]
  · rw [List.mem_mergeSort, files]
    constructor
    · rintro ⟨further, rfl, -, held⟩
      exact held
    · rintro ⟨content, held⟩
      have bounded := plain.length_le held
      exact ⟨path, rfl, by omega, content, held⟩

end Formwright.FileTree
