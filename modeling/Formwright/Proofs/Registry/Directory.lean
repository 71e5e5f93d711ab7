import Formwright.Proofs.Json.Parsed
import Formwright.Proofs.Json.Record
import Formwright.Proofs.Storage.Files
import Formwright.Registry.Directory

/-!
# What a registry is gathered from

Every file below a directory contributes entries, one entry or nothing. The registry of the
directory has for each name the entry of the last file that contributes one, in the order of paths,
and so is told by the files alone. A file that contributes nothing changes nothing, as long as it
is text.
-/
namespace Formwright

variable {α : Type}

/-- Entries in order are told by what is found under each name. -/
theorem eq_of_isSorted {entries others : List (String × α)} (sorted : IsSorted entries)
    (sortedOthers : IsSorted others) (same : ∀ name, entries.lookup name = others.lookup name) :
    entries = others := by
  have distinct {entries : List (String × α)} (sorted : IsSorted entries) :
      (entries.map Prod.fst).Nodup := sorted.imp ne_of_lt
  have within {entries others : List (String × α)} (sorted : IsSorted entries)
      (same : ∀ name, entries.lookup name = others.lookup name) :
      ∀ entry ∈ entries, entry ∈ others := fun entry member =>
    mem_of_lookup ((same entry.1).symm.trans (lookup_of_mem (distinct sorted) member))
  have permuted : entries.Perm others :=
    (List.perm_ext_iff_of_nodup (distinct sorted).of_map (distinct sortedOthers).of_map).mpr
      fun entry =>
        ⟨within sorted same entry, within sortedOthers (fun name => (same name).symm) entry⟩
  refine permuted.eq_of_pairwise (fun entry other _ _ before after => ?_)
    (List.pairwise_map.mp sorted) (List.pairwise_map.mp sortedOthers)
  exact absurd (before.trans after) (lt_irrefl entry.1)

/-- Of entries with distinct names, what is found under a name is what an entry has. -/
theorem lookup_eq_some_iff {entries : List (String × α)}
    (distinct : (entries.map Prod.fst).Nodup) {name : String} {value : α} :
    entries.lookup name = some value ↔ (name, value) ∈ entries :=
  ⟨mem_of_lookup, lookup_of_mem distinct⟩

namespace ComponentRegistry
open FileTree Json

variable {tree : FileTree} {directory base path : FilePath} {name : String} {entry : RegistryEntry}
  {registry : ComponentRegistry} {files : List FilePath}

/-! ## What a file contributes -/

/-- A file that is named after a component and holds the text contributes the entry under the
name. -/
inductive Contributes (component text name : String) (entry : RegistryEntry) : Prop where
  /-- A document with an object of components contributes all its entries, if all of it is read. -/
  | document {value : Json} {members : Members} {catalog : ComponentRegistry}
      (spelled : Json.parse text = .ok value)
      (held : value.get? "components" = some (.object members))
      (read : reader value = .ok catalog) (listed : (name, entry) ∈ catalog.components)
  /-- Any other file contributes the entry that it is read as, under the name of the file. -/
  | single {value : Json} (spelled : Json.parse text = .ok value)
      (other : ∀ members, value.get? "components" ≠ some (.object members))
      (read : RegistryEntry.reader value = .ok entry) (named : name = component)

/-- A table that is read of members has their keys. -/
theorem keys_of_table {reader : Reader α} {members : Members} {entries : List (String × α)}
    (read : Reader.table reader (.object members) = .ok entries) :
    entries.map Prod.fst = members.map Prod.fst := by
  simp only [Reader.table] at read
  induction members generalizing entries with
  | nil =>
    cases read
    rfl
  | cons member later ih =>
    rw [List.mapM_cons] at read
    obtain ⟨entry, first, read⟩ := exists_of_bind_eq_ok read
    obtain ⟨others, rest, read⟩ := exists_of_bind_eq_ok read
    cases read
    obtain ⟨key, value⟩ := member
    cases taken : reader value with
    | error mismatch => simp [taken, Except.map] at first
    | ok found =>
      simp only [taken, Except.map, Except.ok.injEq] at first
      rw [← first, List.map_cons, List.map_cons, ih rest]

/-- The catalog of a document that is read from text has each name once. -/
theorem nodup_names_of_reader {text : String} {value : Json} {members : Members}
    (spelled : Json.parse text = .ok value)
    (held : value.get? "components" = some (.object members))
    (read : reader value = .ok registry) : (registry.components.map Prod.fst).Nodup := by
  cases value with
  | object outer =>
    obtain ⟨entries, own, rfl⟩ := (Reader.yields_of_record read).exists_map
    have found : outer.lookup "components" = some (.object members) := held
    have present : (Fields.required "components" (Reader.table RegistryEntry.reader)).Yields
        (.keyed outer) entries := by
      unfold Fields.Yields Fields.withDefault at own
      unfold Fields.Yields Fields.required
      simpa only [Record.keyed, found] using own
    obtain ⟨value, found', taken⟩ := Fields.exists_of_required present
    obtain rfl := Option.some.inj (found.symm.trans found')
    have keyed := (membersKeyed_iff outer).mp (isKeyed_of_parse spelled).2 _ (mem_of_lookup found)
    dsimp only
    rw [keys_of_table taken]
    exact keyed.1
  | _ => contradiction

/-- What the text of a file adds to a registry is what the file contributes. -/
theorem get?_contribution_iff {component text : String} :
    (contribution component text).get? name = some entry ↔
      Contributes component text name entry := by
  have ofSingle (entry' : RegistryEntry) :
      get? ⟨[(component, entry')]⟩ name = some entry ↔ name = component ∧ entry' = entry := by
    rw [get?, lookup_cons_ite]
    by_cases same : name = component <;> simp [same]
  constructor
  · intro found
    unfold contribution at found
    split at found
    · contradiction
    · next value spelled =>
      split at found
      · next members held =>
        split at found
        · next catalog read => exact .document spelled held read (mem_of_lookup found)
        · contradiction
      · next other =>
        split at found
        · next single read =>
          obtain ⟨named, rfl⟩ := (ofSingle single).mp found
          exact .single spelled other read named
        · contradiction
  · intro contributes
    cases contributes with
    | document spelled held read listed =>
      simp only [contribution, spelled, held, read]
      exact lookup_of_mem (nodup_names_of_reader spelled held read) listed
    | single spelled other read named =>
      unfold contribution
      rw [spelled]
      dsimp only
      split
      · next members held => exact absurd held (other members)
      · rw [read]
        exact (ofSingle entry).mpr ⟨named, rfl⟩

/-- No name is contributed twice by one text. -/
theorem nodup_names_contribution (component text : String) :
    ((contribution component text).components.map Prod.fst).Nodup := by
  unfold contribution
  split
  · exact List.nodup_nil
  · next value spelled =>
    split
    · next members held =>
      split
      · next catalog read => exact nodup_names_of_reader spelled held read
      · exact List.nodup_nil
    · split
      · exact List.nodup_singleton _
      · exact List.nodup_nil

/-! ## Gathering -/

/-- What the file at a path adds to a registry; a file that is no text adds nothing. -/
def addition (tree : FileTree) (directory path : FilePath) : ComponentRegistry :=
  match tree.readText (directory ++ path) with
  | .ok text => contribution (componentOf path) text
  | .error _ => empty

/-- A registry with the entries of another one has these in its table. -/
theorem components_extend (registry other : ComponentRegistry) :
    (registry.extend other).components =
      other.components.foldl (fun sorted entry => insertNamed entry.1 entry.2 sorted)
        registry.components := by
  obtain ⟨entries⟩ := other
  unfold extend
  induction entries generalizing registry with
  | nil => rfl
  | cons entry later ih => exact ih (registry.insert entry.1 entry.2)

/-- A registry in order stays in order when it is extended. -/
theorem isSorted_extend (sorted : IsSorted registry.components) (other : ComponentRegistry) :
    IsSorted (registry.extend other).components := by
  rw [components_extend]
  exact isSorted_foldl_insertNamed other.components sorted

/-- In an extended registry the entries of the other one come first. -/
theorem get?_extend {other : ComponentRegistry} (distinct : (other.components.map Prod.fst).Nodup)
    (name : String) :
    (registry.extend other).get? name = (other.get? name).or (registry.get? name) := by
  have backwards : (other.components.reverse.map Prod.fst).Nodup := by
    rwa [List.map_reverse, List.nodup_reverse]
  have same : other.components.reverse.lookup name = other.components.lookup name := by
    ext entry
    rw [lookup_eq_some_iff backwards, lookup_eq_some_iff distinct, List.mem_reverse]
  rw [get?, components_extend, lookup_foldl_insertNamed, same]
  rfl

/-- A registry that is extended by an addition. -/
theorem get?_extend_addition (path : FilePath) (name : String) :
    (registry.extend (addition tree directory path)).get? name =
      ((addition tree directory path).get? name).or (registry.get? name) := by
  refine get?_extend ?_ name
  unfold addition
  split
  · exact nodup_names_contribution _ _
  · exact List.nodup_nil

/-- Files that are all text are gathered: the last one that adds an entry under a name gives it. -/
theorem exists_foldlM_addFile (readable : ∀ path ∈ files, ∃ text,
      tree.readText (directory ++ path) = .ok text) (sorted : IsSorted registry.components) :
    ∃ gathered, files.foldlM (addFile tree directory) registry = .ok gathered ∧
      IsSorted gathered.components ∧ ∀ name, gathered.get? name =
        (files.reverse.findSome? fun path => (addition tree directory path).get? name).or
          (registry.get? name) := by
  -- What the first file adds is covered by the later ones, so it is looked through after them.
  induction files generalizing registry with
  | nil => exact ⟨registry, rfl, sorted, fun _ => rfl⟩
  | cons path later ih =>
    obtain ⟨⟨text, read⟩, rest⟩ := List.forall_mem_cons.mp readable
    have added : addFile tree directory registry path =
        .ok (registry.extend (addition tree directory path)) := by
      rw [addFile, addition, read]
      rfl
    obtain ⟨gathered, done, inOrder, found⟩ :=
      ih rest (isSorted_extend sorted (addition tree directory path))
    refine ⟨gathered, ?_, inOrder, fun name => ?_⟩
    · rw [List.foldlM_cons, added]
      exact done
    · rw [found, get?_extend_addition, List.reverse_cons, List.findSome?_append, Option.or_assoc,
        List.findSome?_singleton]

/-- Where files that are no text all fail alike, so does gathering. -/
theorem foldlM_addFile_error {fault : FileError}
    (readable : ∀ path ∈ files, (∃ text, tree.readText (directory ++ path) = .ok text) ∨
      tree.readText (directory ++ path) = .error fault)
    (failing : ∃ path ∈ files, tree.readText (directory ++ path) = .error fault) :
    files.foldlM (addFile tree directory) registry = .error (.file fault) := by
  induction files generalizing registry with
  | nil =>
    obtain ⟨_, member, _⟩ := failing
    contradiction
  | cons path later ih =>
    obtain ⟨first, rest⟩ := List.forall_mem_cons.mp readable
    rw [List.foldlM_cons, addFile]
    rcases first with ⟨text, read⟩ | failed
    · have onward : ∃ path ∈ later, tree.readText (directory ++ path) = .error fault := by
        obtain ⟨other, member, failed⟩ := failing
        rcases List.mem_cons.mp member with rfl | member
        · rw [read] at failed
          contradiction
        · exact ⟨other, member, failed⟩
      rw [read]
      exact ih rest onward
    · rw [failed]
      rfl

/-- Gathered files are all text. -/
theorem readable_of_foldlM_addFile {gathered : ComponentRegistry}
    (done : files.foldlM (addFile tree directory) registry = .ok gathered) :
    ∀ path ∈ files, ∃ text, tree.readText (directory ++ path) = .ok text := by
  induction files generalizing registry with
  | nil => nofun
  | cons path later ih =>
    rw [List.foldlM_cons] at done
    obtain ⟨_, added, done⟩ := exists_of_bind_eq_ok done
    refine List.forall_mem_cons.mpr ⟨?_, ih done⟩
    cases read : tree.readText (directory ++ path) with
    | error fault =>
      rw [addFile, read] at added
      contradiction
    | ok text => exact ⟨text, rfl⟩

/-! ## The registry of a directory -/

/-- Below a directory, the registry file at a path contributes the entry under the name. -/
def IsContributed (tree : FileTree) (base path : FilePath) (name : String)
    (entry : RegistryEntry) : Prop :=
  isRegistryFile path = true ∧ ∃ content text, tree.entry? (base ++ path) = some (.file content) ∧
    String.fromUTF8? content = some text ∧ Contributes (componentOf path) text name entry

/-- The registry has for each name the entry of the last file below a directory that contributes
one, and no entries but these. -/
structure Gathers (tree : FileTree) (base : FilePath) (registry : ComponentRegistry) : Prop where
  inOrder : IsSorted registry.components
  contains_iff : ∀ name, registry.contains name = true ↔
    ∃ path entry, IsContributed tree base path name entry
  get?_iff : ∀ name entry, registry.get? name = some entry ↔
    ∃ path, IsContributed tree base path name entry ∧
      ∀ other another, IsContributed tree base other name another → pathLe other path = true

/-- What is gathered is told by what is contributed. -/
theorem Gathers.unique {other : FileTree} {registry' : ComponentRegistry}
    (gathers : Gathers tree base registry) (gathers' : Gathers other base registry')
    (same : ∀ path name entry,
      IsContributed other base path name entry ↔ IsContributed tree base path name entry) :
    registry' = registry := by
  obtain ⟨entries⟩ := registry
  obtain ⟨entries'⟩ := registry'
  refine congrArg ComponentRegistry.mk
    (eq_of_isSorted gathers'.inOrder gathers.inOrder fun name => ?_)
  ext entry
  have found := gathers'.get?_iff name entry
  simp only [same] at found
  exact found.trans (gathers.get?_iff name entry).symm

/-- Of paths in order, looked through from the last one on, the first with a value is the last that
has one. -/
theorem exists_of_findSome?_reverse {find : FilePath → Option α} {value : α}
    (inOrder : files.Pairwise fun path other => pathLe path other = true)
    (found : files.reverse.findSome? find = some value) :
    ∃ path ∈ files, find path = some value ∧
      ∀ other ∈ files, (find other).isSome → pathLe other path = true := by
  obtain ⟨later, path, before, parted, here, none⟩ := List.findSome?_eq_some_iff.mp found
  have whole : files = before.reverse ++ path :: later.reverse := by
    rw [← List.reverse_reverse files, parted]
    simp
  rw [whole, List.pairwise_append] at inOrder
  obtain ⟨-, -, upTo⟩ := inOrder
  refine ⟨path, by simp [whole], here, fun other member some => ?_⟩
  simp only [whole, List.mem_append, List.mem_cons, List.mem_reverse] at member
  rcases member with member | rfl | member
  · exact upTo other (List.mem_reverse.mpr member) path List.mem_cons_self
  · simpa using pathLe_total other other
  · simp [none other member] at some

/-- Of paths in order, looked through from the last one on, the first with a value is the last that
has one, and only that. -/
theorem findSome?_reverse_eq_some_iff {find : FilePath → Option α} {value : α}
    (inOrder : files.Pairwise fun path other => pathLe path other = true) :
    files.reverse.findSome? find = some value ↔ ∃ path ∈ files, find path = some value ∧
      ∀ other ∈ files, (find other).isSome → pathLe other path = true := by
  refine ⟨exists_of_findSome?_reverse inOrder, ?_⟩
  rintro ⟨path, member, here, last⟩
  cases found : files.reverse.findSome? find with
  | none =>
    have none := List.findSome?_eq_none_iff.mp found path (List.mem_reverse.mpr member)
    cases here.symm.trans none
  | some other =>
    obtain ⟨path', member', here', last'⟩ := exists_of_findSome?_reverse inOrder found
    have same : path' = path :=
      pathLe_antisymm (last path' member' (by simp [here'])) (last' path member (by simp [here]))
    rw [same, here] at here'
    exact here'.symm

/-- What a file below a plain directory adds is what it contributes. -/
theorem get?_addition_iff (plain : tree.IsPlainDirectory directory base) {content : ByteArray}
    (counts : isRegistryFile path = true)
    (held : tree.entry? (base ++ path) = some (.file content)) :
    (addition tree directory path).get? name = some entry ↔
      IsContributed tree base path name entry := by
  rw [addition, plain.readText_file held]
  cases decoded : String.fromUTF8? content with
  | none =>
    refine ⟨nofun, ?_⟩
    rintro ⟨-, other, text, held', spelled, -⟩
    cases held.symm.trans held'
    cases decoded.symm.trans spelled
  | some text =>
    dsimp only
    rw [get?_contribution_iff]
    refine ⟨fun contributes => ⟨counts, content, text, held, decoded, contributes⟩, ?_⟩
    rintro ⟨-, other, text', held', spelled, contributes⟩
    cases held.symm.trans held'
    cases decoded.symm.trans spelled
    exact contributes

/-- All registry files below a directory are text. -/
def HasTexts (tree : FileTree) (base : FilePath) : Prop :=
  ∀ path content, isRegistryFile path = true →
    tree.entry? (base ++ path) = some (.file content) →
    ∃ text, String.fromUTF8? content = some text

/-- The paths are those of the registry files below a directory, in order. -/
structure IsListing (tree : FileTree) (base : FilePath) (files : List FilePath) : Prop where
  inOrder : files.Pairwise fun path other => pathLe path other = true
  mem_iff : ∀ path, path ∈ files ↔ isRegistryFile path = true ∧
    ∃ content, tree.entry? (base ++ path) = some (.file content)

namespace IsListing

variable (listing : IsListing tree base files) (plain : tree.IsPlainDirectory directory base)
include listing plain

/-- Registry files below a plain directory that are all text are read. -/
theorem readable (texts : HasTexts tree base) :
    ∀ path ∈ files, ∃ text, tree.readText (directory ++ path) = .ok text := by
  intro path member
  obtain ⟨counts, content, held⟩ := (listing.mem_iff path).mp member
  obtain ⟨text, decoded⟩ := texts path content counts held
  exact ⟨text, by rw [plain.readText_file held, decoded]⟩

/-- The registry files below a plain directory, taken in the order of their paths, are gathered to
the registry of the directory. -/
theorem exists_gathered (texts : HasTexts tree base) :
    ∃ gathered, files.foldlM (addFile tree directory) empty = .ok gathered ∧
      Gathers tree base gathered := by
  have start : IsSorted empty.components := List.Pairwise.nil
  obtain ⟨gathered, done, sorted, found⟩ :=
    exists_foldlM_addFile (listing.readable plain texts) start
  have adds {path : FilePath} (member : path ∈ files) (name : String) (entry : RegistryEntry) :
      (addition tree directory path).get? name = some entry ↔
        IsContributed tree base path name entry := by
    obtain ⟨counts, content, held⟩ := (listing.mem_iff path).mp member
    exact get?_addition_iff plain counts held
  have listed {path : FilePath} {name : String} {entry : RegistryEntry}
      (contributed : IsContributed tree base path name entry) : path ∈ files := by
    obtain ⟨counts, content, _, held, -⟩ := contributed
    exact (listing.mem_iff path).mpr ⟨counts, content, held⟩
  have looked (name : String) : gathered.get? name =
      files.reverse.findSome? fun path => (addition tree directory path).get? name := by
    rw [found]
    exact Option.or_none
  refine ⟨gathered, done, sorted, fun name => ?_, fun name entry => ?_⟩
  · rw [contains, looked, List.findSome?_isSome_iff]
    constructor
    · rintro ⟨path, member, some⟩
      obtain ⟨entry, added⟩ := Option.isSome_iff_exists.mp some
      exact ⟨path, entry, (adds (List.mem_reverse.mp member) name entry).mp added⟩
    · rintro ⟨path, entry, contributed⟩
      refine ⟨path, List.mem_reverse.mpr (listed contributed), ?_⟩
      rw [(adds (listed contributed) name entry).mpr contributed]
      rfl
  · rw [looked, findSome?_reverse_eq_some_iff listing.inOrder]
    constructor
    · rintro ⟨path, member, added, last⟩
      refine ⟨path, (adds member name entry).mp added, fun other another contributed => ?_⟩
      refine last other (listed contributed) ?_
      rw [(adds (listed contributed) name another).mpr contributed]
      rfl
    · rintro ⟨path, contributed, last⟩
      refine ⟨path, listed contributed, (adds (listed contributed) name entry).mpr contributed,
        fun other member some => ?_⟩
      obtain ⟨another, added⟩ := Option.isSome_iff_exists.mp some
      exact last other another ((adds member name another).mp added)

end IsListing

/-- Loading a plain directory gathers its registry files in the order of their paths. -/
theorem exists_listing (plain : tree.IsPlainDirectory directory base) (shown : String) :
    ∃ files : List FilePath,
      load tree shown directory = files.foldlM (addFile tree directory) empty ∧
      IsListing tree base files := by
  obtain ⟨found, walked, inOrder, files⟩ := plain.exists_filesBelow shown
  have there : tree.isDirectory directory = true := by rw [isDirectory, plain.leads]
  refine ⟨found.filter isRegistryFile, ?_, inOrder.filter _, fun path => ?_⟩
  · rw [load, there, walked]
    rfl
  · rw [List.mem_filter, files, and_comm]

/-- A plain directory whose registry files are all text is loaded. -/
theorem exists_load (plain : tree.IsPlainDirectory directory base) (texts : HasTexts tree base)
    (shown : String) : ∃ registry, load tree shown directory = .ok registry ∧
      Gathers tree base registry := by
  obtain ⟨files, loaded, listing⟩ := exists_listing plain shown
  obtain ⟨registry, done, gathers⟩ := listing.exists_gathered plain texts
  exact ⟨registry, loaded.trans done, gathers⟩

/-- From a plain directory whose registry files are all text, a registry is gathered: for each name
it has the entry of the last file, in the order of paths, that contributes one, and no other names.
Neither the order in which the files were made matters nor that in which they are found. -/
theorem exists_load_gathers (plain : tree.IsPlainDirectory directory base)
    (texts : HasTexts tree base) (shown : String) :
    ∃ registry, load tree shown directory = .ok registry ∧ Gathers tree base registry ∧
      (∀ other : FileTree, (∀ path, other.entry? path = tree.entry? path) →
        load other shown directory = .ok registry) ∧
      ∀ found : List FilePath,
        (∀ path, path ∈ found ↔ ∃ content, tree.entry? (base ++ path) = some (.file content)) →
        ((found.mergeSort pathLe).filter isRegistryFile).foldlM (addFile tree directory) empty =
          .ok registry := by
  obtain ⟨registry, loaded, gathers⟩ := exists_load plain texts shown
  refine ⟨registry, loaded, gathers, fun other same => ?_, fun found whole => ?_⟩
  · have texts' : HasTexts other base := by simpa only [HasTexts, same] using texts
    obtain ⟨registry', loaded', gathers'⟩ := exists_load (plain.congr same) texts' shown
    have alike : registry' = registry :=
      gathers.unique gathers' fun path name entry => by simp only [IsContributed, same]
    rw [loaded', alike]
  · have listing : IsListing tree base ((found.mergeSort pathLe).filter isRegistryFile) :=
      ⟨(List.pairwise_mergeSort pathLe_trans pathLe_total found).filter isRegistryFile,
        fun path => by rw [List.mem_filter, List.mem_mergeSort, whole, and_comm]⟩
    obtain ⟨registry', done, gathers'⟩ := listing.exists_gathered plain texts
    rw [done, gathers.unique gathers' fun _ _ _ => Iff.rfl]

/-- Of two files with an entry for one component the second in the order of paths counts, though it
was made first. -/
theorem exists_load_gathers_twoFiles :
    let later := "\x7b\"components\":\x7b\"Card\":\x7b\"import\":\"b\"\x7d\x7d\x7d"
    let earlier := "\x7b\"components\":\x7b\"Card\":\x7b\"import\":\"a\"\x7d\x7d\x7d"
    let tree := ofFiles [("b.json", later.toUTF8), ("a.json", earlier.toUTF8)]
    tree.IsPlainDirectory [] [] ∧ HasTexts tree [] ∧ ∃ registry, load tree "/" [] = .ok registry ∧
      registry.get? "Card" = some { source := "b" } := by
  intro later earlier tree
  have files {path : FilePath} {content : ByteArray}
      (held : tree.entry? ([] ++ path) = some (.file content)) :
      path = ["b.json"] ∧ content = later.toUTF8 ∨
        path = ["a.json"] ∧ content = earlier.toUTF8 := by
    simpa [tree, ofFiles] using mem_entries_of_file held
  have plain : tree.IsPlainDirectory [] [] := isPlainDirectory_ofFiles (by decide)
  have texts : HasTexts tree [] := by
    intro path content _ held
    rcases files held with ⟨-, rfl⟩ | ⟨-, rfl⟩
    · exact ⟨later, dif_pos later.isValidUTF8⟩
    · exact ⟨earlier, dif_pos earlier.isValidUTF8⟩
  obtain ⟨registry, loaded, gathers, _⟩ := exists_load_gathers plain texts "/"
  have contributed : IsContributed tree [] ["b.json"] "Card" { source := "b" } :=
    ⟨by decide, later.toUTF8, later, rfl, dif_pos later.isValidUTF8,
      get?_contribution_iff.mp (by decide +kernel)⟩
  refine ⟨plain, texts, registry, loaded, (gathers.get?_iff _ _).mpr ⟨_, contributed, ?_⟩⟩
  rintro other another ⟨-, content, _, held, -⟩
  rcases files held with ⟨rfl, -⟩ | ⟨rfl, -⟩
  · decide
  · decide

/-! ## Files that contribute nothing -/

/-- Where a registry file is no text, nothing is gathered. -/
theorem load_of_undecoded (plain : tree.IsPlainDirectory directory base) {content : ByteArray}
    (counts : isRegistryFile path = true) (held : tree.entry? (base ++ path) = some (.file content))
    (undecoded : String.fromUTF8? content = none) (shown : String) :
    load tree shown directory = .error (.file .invalidText) := by
  obtain ⟨files, loaded, listing⟩ := exists_listing plain shown
  have failed : tree.readText (directory ++ path) = .error .invalidText := by
    rw [plain.readText_file held, undecoded]
  rw [loaded]
  refine foldlM_addFile_error (fun place member => ?_)
    ⟨path, (listing.mem_iff path).mpr ⟨counts, content, held⟩, failed⟩
  obtain ⟨-, other, stands⟩ := (listing.mem_iff place).mp member
  rw [plain.readText_file stands]
  cases String.fromUTF8? other with
  | none => exact .inr rfl
  | some text => exact .inl ⟨text, rfl⟩

/-- The registry files below a plain directory that is loaded are all text. -/
theorem hasTexts_of_load (plain : tree.IsPlainDirectory directory base) {shown : String}
    (loaded : load tree shown directory = .ok registry) : HasTexts tree base := by
  intro path content counts held
  obtain ⟨files, gathered, listing⟩ := exists_listing plain shown
  obtain ⟨text, read⟩ := readable_of_foldlM_addFile (gathered.symm.trans loaded) path
    ((listing.mem_iff path).mpr ⟨counts, content, held⟩)
  rw [plain.readText_file held] at read
  split at read
  · next text decoded => exact ⟨text, decoded⟩
  · contradiction

/-- Below a directory there are the files of another tree and one more, with the given content. -/
structure AddsFile (tree other : FileTree) (base path : FilePath) (content : ByteArray) : Prop where
  fresh : ∀ held, tree.entry? (base ++ path) ≠ some (.file held)
  file_iff : ∀ place held, other.entry? (base ++ place) = some (.file held) ↔
    tree.entry? (base ++ place) = some (.file held) ∨ place = path ∧ held = content

/-- A file is added where nothing stood. -/
theorem addsFile_put {content : ByteArray} (free : tree.entry? (base ++ path) = none) :
    AddsFile tree (tree.put (base ++ path) (.file content)) base path content := by
  have below : base ++ path ≠ [] := by
    intro root
    rw [root] at free
    cases free
  refine ⟨fun held stands => (nomatch free.symm.trans stands), fun place held => ?_⟩
  rw [entry?_put below]
  by_cases here : place = path
  · subst here
    rw [if_pos rfl, free]
    simp [eq_comm]
  · rw [if_neg (fun same => here (List.append_cancel_left same))]
    simp [here]

/-- A registry file that contributes nothing changes nothing, as long as it is text. One that is no
text is not passed over: nothing is gathered then at all. -/
theorem load_of_addsFile {other : FileTree} {content : ByteArray} {shown : String}
    (plain : tree.IsPlainDirectory directory base)
    (plain' : other.IsPlainDirectory directory base)
    (adds : AddsFile tree other base path content)
    (foreign : ∀ name entry, ¬ IsContributed other base path name entry)
    (loaded : load tree shown directory = .ok registry) :
    load other shown directory =
      if isRegistryFile path && (String.fromUTF8? content).isNone then .error (.file .invalidText)
      else .ok registry := by
  have texts := hasTexts_of_load plain loaded
  have own : other.entry? (base ++ path) = some (.file content) :=
    (adds.file_iff path content).mpr (.inr ⟨rfl, rfl⟩)
  split
  · next bad =>
    rw [Bool.and_eq_true, Option.isNone_iff_eq_none] at bad
    exact load_of_undecoded plain' bad.1 own bad.2 shown
  · next good =>
    have texts' : HasTexts other base := by
      intro place held counts stands
      rcases (adds.file_iff place held).mp stands with old | ⟨rfl, rfl⟩
      · exact texts place held counts old
      · rw [counts, Bool.true_and, Option.isNone_iff_eq_none] at good
        exact Option.ne_none_iff_exists'.mp good
    obtain ⟨registry', loaded', gathers'⟩ := exists_load plain' texts' shown
    obtain ⟨registry'', again, gathers⟩ := exists_load plain texts shown
    obtain rfl : registry'' = registry := Except.ok.inj (again.symm.trans loaded)
    rw [loaded', gathers.unique gathers' fun place name entry => ?_]
    -- What is contributed in either tree is contributed by a file of both.
    constructor
    · rintro ⟨counts, held, text, stands, contributes⟩
      rcases (adds.file_iff place held).mp stands with old | ⟨rfl, rfl⟩
      · exact ⟨counts, held, text, old, contributes⟩
      · exact absurd ⟨counts, held, text, stands, contributes⟩ (foreign name entry)
    · rintro ⟨counts, held, text, stands, contributes⟩
      exact ⟨counts, held, text, (adds.file_iff place held).mpr (.inl stands), contributes⟩

/-- To a catalog of one component a file is added that is no value of the data format. -/
theorem load_of_addsFile_malformed :
    let catalog := "\x7b\"components\":\x7b\"Button\":\x7b\"import\":\"b\"\x7d\x7d\x7d"
    let tree := ofFiles [("core.json", catalog.toUTF8)]
    let other := ofFiles [("bad.json", "\x7b".toUTF8), ("core.json", catalog.toUTF8)]
    let registry : ComponentRegistry := ⟨[("Button", { source := "b" })]⟩
    tree.IsPlainDirectory [] [] ∧ other.IsPlainDirectory [] [] ∧
      AddsFile tree other [] ["bad.json"] "\x7b".toUTF8 ∧
      (∀ name entry, ¬ IsContributed other [] ["bad.json"] name entry) ∧
      load tree "/" [] = .ok registry ∧ load other "/" [] = .ok registry := by
  intro catalog tree other registry
  have plain : tree.IsPlainDirectory [] [] := isPlainDirectory_ofFiles (by decide)
  have plain' : other.IsPlainDirectory [] [] := isPlainDirectory_ofFiles (by decide)
  have free : tree.entry? ([] ++ ["bad.json"]) = none := by decide
  have adds : AddsFile tree other [] ["bad.json"] "\x7b".toUTF8 := addsFile_put free
  have decoded : String.fromUTF8? "\x7b".toUTF8 = some "\x7b" := dif_pos (String.isValidUTF8 _)
  have foreign : ∀ name entry, ¬ IsContributed other [] ["bad.json"] name entry := by
    rintro name entry ⟨-, content, text, held, spelled, contributes⟩
    cases Option.some.inj held
    cases decoded.symm.trans spelled
    have none : contribution (componentOf ["bad.json"]) "\x7b" = empty := by decide +kernel
    have found := get?_contribution_iff.mpr contributes
    rw [none] at found
    cases found
  have loaded : load tree "/" [] = .ok registry := by decide +kernel
  have both := load_of_addsFile plain plain' adds foreign loaded
  rw [decoded, Option.isNone_some, Bool.and_false, if_neg Bool.false_ne_true] at both
  exact ⟨plain, plain', adds, foreign, loaded, both⟩

/-- To a catalog of one component a file of one byte that no text has is added, and the catalog is
lost. -/
theorem load_notText :
    let catalog := "\x7b\"components\":\x7b\"Button\":\x7b\"import\":\"b\"\x7d\x7d\x7d"
    let tree := ofFiles [("core.json", catalog.toUTF8)]
    let other := ofFiles [("bad.json", ⟨#[0xff]⟩), ("core.json", catalog.toUTF8)]
    tree.IsPlainDirectory [] [] ∧ other.IsPlainDirectory [] [] ∧
      AddsFile tree other [] ["bad.json"] ⟨#[0xff]⟩ ∧
      (∀ name entry, ¬ IsContributed other [] ["bad.json"] name entry) ∧
      load tree "/" [] = .ok ⟨[("Button", { source := "b" })]⟩ ∧
      load other "/" [] = .error (.file .invalidText) := by
  intro catalog tree other
  have undecoded : String.fromUTF8? ⟨#[0xff]⟩ = none := by decide +kernel
  have free : tree.entry? ([] ++ ["bad.json"]) = none := by decide
  have plain' : other.IsPlainDirectory [] [] := isPlainDirectory_ofFiles (by decide)
  have stands : other.entry? ([] ++ ["bad.json"]) = some (.file ⟨#[0xff]⟩) := rfl
  refine ⟨isPlainDirectory_ofFiles (by decide), plain', addsFile_put free, ?_, by decide +kernel,
    load_of_undecoded plain' (by decide) stands undecoded "/"⟩
  rintro name entry ⟨-, content, text, held, spelled, -⟩
  cases Option.some.inj (stands.symm.trans held)
  cases undecoded.symm.trans spelled

end ComponentRegistry
end Formwright
