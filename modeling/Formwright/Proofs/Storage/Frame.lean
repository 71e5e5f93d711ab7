import Formwright.Proofs.Storage.Resolution

/-!
# Changes of one file

Writing a file changes the entry at one place, where a file stood or nothing did. No path that leads
anywhere goes through such a place, so every path leads where it led before, and what stands there
is as before unless it is that place.
-/
namespace Formwright.FileTree

variable {tree after : FileTree} {own path base later : FilePath} {step : String} {place : Place}
  {content : ByteArray} {onLink onLink' : FilePath → FilePath → Except FileError Place}

/-- Nothing is changed but the entry at one place. Before, a file may stand there but neither a
directory nor a link, and afterwards no link. -/
structure Alters (tree after : FileTree) (own : FilePath) : Prop where
  elsewhere : ∀ path, path ≠ own → after.entry? path = tree.entry? path
  before : ∀ entry, tree.entry? own = some entry → ∃ content, entry = .file content
  unlinked : ∀ target, after.entry? own ≠ some (.link target)

/-! ## Where paths lead -/

/-- A name under which no link stands leads to what stands there. -/
theorem follow_unlinked (plain : IsPlain step) (short : step.utf8ByteSize ≤ maxName)
    (unlinked : ∀ target, tree.entry? (base ++ [step]) ≠ some (.link target)) :
    follow tree onLink base [step] = .ok ⟨base ++ [step], tree.entry? (base ++ [step])⟩ := by
  obtain ⟨notEmpty, notHere, notUp⟩ := plain
  rw [follow, if_neg (by simp [notEmpty, notHere]), if_neg notUp, if_neg (Nat.not_lt.mpr short)]
  dsimp only
  cases stands : tree.entry? (base ++ [step]) with
  | none => rfl
  | some entry =>
    cases entry with
    | file content => rfl
    | directory =>
      dsimp only
      rw [follow, stands]
    | link target => exact absurd stands (unlinked target)

/-- A name of which a file or nothing stands is the last step of a path that leads anywhere. -/
theorem eq_of_follow_file (plain : IsPlain step)
    (stands : ∀ entry, tree.entry? (base ++ [step]) = some entry → ∃ content, entry = .file content)
    (led : follow tree onLink base (step :: later) = .ok place) :
    step.utf8ByteSize ≤ maxName ∧ later = [] ∧ place.path = base ++ [step] := by
  obtain ⟨notEmpty, notHere, notUp⟩ := plain
  rw [follow, if_neg (by simp [notEmpty, notHere]), if_neg notUp] at led
  split at led
  · contradiction
  · next short =>
    refine ⟨Nat.not_lt.mp short, ?_⟩
    dsimp only at led
    split at led
    · next found => exact absurd (stands _ found) (by simp)
    · next target found => exact absurd (stands _ found) (by simp)
    · split at led
      · next ends =>
        cases led
        exact ⟨List.isEmpty_iff.mp ends, rfl⟩
      · contradiction
    · split at led
      · next ends =>
        cases led
        exact ⟨List.isEmpty_iff.mp ends, rfl⟩
      · contradiction

/-- Steps that lead somewhere lead there after one entry is changed. -/
theorem follow_of_alters (altered : tree.Alters after own)
    (linked : ∀ {base steps place}, onLink base steps = .ok place →
      onLink' base steps = .ok ⟨place.path, after.entry? place.path⟩) :
    ∀ {base steps : FilePath} {place : Place}, follow tree onLink base steps = .ok place →
      follow after onLink' base steps = .ok ⟨place.path, after.entry? place.path⟩ := by
  intro base steps
  induction steps generalizing base with
  | nil =>
    intro place led
    rw [follow] at led ⊢
    cases led
    rfl
  | cons step later ih =>
    intro place led
    by_cases here : base ++ [step] = own ∧ IsPlain step
    · obtain ⟨rfl, plain⟩ := here
      obtain ⟨short, rfl, there⟩ := eq_of_follow_file plain altered.before led
      rw [there]
      exact follow_unlinked plain short altered.unlinked
    · rw [follow] at led ⊢
      split at led
      · next skipped => rw [if_pos skipped]; exact ih led
      · next taken =>
        rw [if_neg taken]
        split at led
        · next up => rw [if_pos up]; exact ih led
        · next down =>
          rw [if_neg down]
          have other : base ++ [step] ≠ own := fun same =>
            here ⟨same, not_or.mp taken |>.1, not_or.mp taken |>.2, down⟩
          split at led
          · contradiction
          · next short =>
            rw [if_neg short]
            dsimp only at led ⊢
            rw [altered.elsewhere _ other]
            split at led
            · exact ih led
            · exact linked led
            · next content found =>
              split at led
              · next ends =>
                cases led
                rw [if_pos ends, altered.elsewhere _ other, found]
              · contradiction
            · next found =>
              split at led
              · next ends =>
                cases led
                rw [if_pos ends, altered.elsewhere _ other, found]
              · contradiction

/-- A path that leads somewhere leads there after one entry is changed. -/
theorem locate_of_alters (altered : tree.Alters after own) (led : tree.locate path = .ok place) :
    after.locate path = .ok ⟨place.path, after.entry? place.path⟩ := by
  have linked (links : Nat) : ∀ {base steps place}, locateFrom tree links base steps = .ok place →
      locateFrom after links base steps = .ok ⟨place.path, after.entry? place.path⟩ := by
    induction links with
    | zero => exact follow_of_alters altered fun led => by contradiction
    | succ links ih => exact follow_of_alters altered ih
  rw [locate] at led ⊢
  split at led
  · contradiction
  · exact linked maxLinks led

/-- A path that leads elsewhere than to the changed entry leads there as before. -/
theorem locate_of_alters_of_ne (altered : tree.Alters after own)
    (led : tree.locate path = .ok place) (other : place.path ≠ own) :
    after.locate path = .ok place := by
  rw [locate_of_alters altered led, altered.elsewhere _ other, ← entry_of_locate led]

/-! ## Reading and writing -/

/-- A file is read where a path leads to it. -/
theorem read_eq_ok_iff : tree.read path = .ok content ↔
    ∃ own, tree.locate path = .ok ⟨own, some (.file content)⟩ := by
  rw [FileTree.read]
  cases led : tree.locate path with
  | error fault => simp [bind, Except.bind]
  | ok place =>
    obtain ⟨own, entry⟩ := place
    rcases entry with _ | (held | _ | _) <;> simp [bind, Except.bind]

/-- A path leads to a place where nothing stands or a file. -/
def HasRoom (tree : FileTree) (path own : FilePath) : Prop :=
  tree.locate path = .ok ⟨own, none⟩ ∨ ∃ held, tree.locate path = .ok ⟨own, some (.file held)⟩

/-- A file can be written where nothing stands or a file. -/
theorem write_eq_ok_iff : tree.write path content = .ok after ↔
    ∃ own, tree.HasRoom path own ∧ after = tree.put own (.file content) := by
  simp only [FileTree.write, HasRoom]
  cases led : tree.locate path with
  | error fault => simp [bind, Except.bind]
  | ok place =>
    obtain ⟨own, entry⟩ := place
    rcases entry with _ | (held | _ | _) <;> simp [bind, Except.bind, eq_comm]

namespace HasRoom

variable (room : tree.HasRoom path own)
include room

/-- Where there is room, a path leads there. -/
theorem leads : ∃ entry, tree.locate path = .ok ⟨own, entry⟩ := by
  rcases room with led | ⟨_, led⟩
  · exact ⟨_, led⟩
  · exact ⟨_, led⟩

/-- Where there is room, nothing stands or a file. -/
theorem exists_of_entry {entry : FileEntry} (stands : tree.entry? own = some entry) :
    ∃ content, entry = .file content := by
  rcases room with led | ⟨held, led⟩
  · exact nomatch (entry_of_locate led).trans stands
  · exact ⟨held, Option.some.inj (stands.symm.trans (entry_of_locate led).symm)⟩

/-- There is no room at the root, which is a directory. -/
theorem ne_nil : own ≠ [] := by
  rintro rfl
  obtain ⟨content, same⟩ := room.exists_of_entry rfl
  contradiction

/-- A file that is written where there is room changes just the entry there. -/
theorem alters (content : ByteArray) : tree.Alters (tree.put own (.file content)) own where
  elsewhere path other := by rw [entry?_put room.ne_nil, if_neg other]
  before _ stands := room.exists_of_entry stands
  unlinked target := by simp [entry?_put room.ne_nil]

/-- A file that is written where there is room can be taken back by a change of the entry there. -/
theorem alters_back (content : ByteArray) : (tree.put own (.file content)).Alters tree own where
  elsewhere path other := ((room.alters content).elsewhere path other).symm
  before entry stands := by
    rw [entry?_put room.ne_nil, if_pos rfl] at stands
    exact ⟨content, (Option.some.inj stands).symm⟩
  unlinked target stands := by
    obtain ⟨held, same⟩ := room.exists_of_entry stands
    contradiction

/-- A path that does not lead to a file that is written reads as before. -/
theorem read_put_iff {other : FilePath} {held : ByteArray} (content : ByteArray)
    (apart : ∀ place, tree.locate other = .ok place → place.path ≠ own) :
    (tree.put own (.file content)).read other = .ok held ↔ tree.read other = .ok held := by
  rw [read_eq_ok_iff, read_eq_ok_iff]
  constructor
  · rintro ⟨there, led⟩
    have elsewhere : there ≠ own := apart _ (locate_of_alters (room.alters_back content) led)
    exact ⟨there, locate_of_alters_of_ne (room.alters_back content) led elsewhere⟩
  · rintro ⟨there, led⟩
    exact ⟨there, locate_of_alters_of_ne (room.alters content) led (apart _ led)⟩

/-- The file that was written is what the path leads to. -/
theorem locate_put (content : ByteArray) :
    (tree.put own (.file content)).locate path = .ok ⟨own, some (.file content)⟩ := by
  obtain ⟨entry, led⟩ := room.leads
  rw [locate_of_alters (room.alters content) led, entry?_put room.ne_nil, if_pos rfl]

/-- There is room again where a file was written. -/
theorem put (content : ByteArray) : (tree.put own (.file content)).HasRoom path own :=
  .inr ⟨content, room.locate_put content⟩

end HasRoom

/-- Of two entries put at one place the last is left. -/
theorem put_put (tree : FileTree) (path : FilePath) (first second : FileEntry) :
    (tree.put path first).put path second = tree.put path second := by
  simp [ put, List.filter_filter]

/-! ## Directories without links -/

/-- A path leads to a directory, and no entry of the directory is a link. -/
structure HoldsNoLinks (tree : FileTree) (directory base : FilePath) : Prop where
  leads : tree.locate directory = .ok ⟨base, some .directory⟩
  unlinked : ∀ name target, tree.entry? (base ++ [name]) ≠ some (.link target)

namespace HoldsNoLinks

variable {directory : FilePath} {name : String} (store : tree.HoldsNoLinks directory base)
include store

/-- A name in the directory leads to the entry of that name. -/
theorem path_eq (plain : IsPlain name) (led : tree.locate (directory ++ [name]) = .ok place) :
    place.path = base ++ [name] := by
  have allowed : refusal? (directory ++ [name]) = none := by
    rw [locate] at led
    split at led
    · contradiction
    · assumption
  by_cases long : maxName < name.utf8ByteSize
  · rw [locate_append store.leads allowed (follow_longName plain long)] at led
    contradiction
  · have short := Nat.not_lt.mp long
    rw [locate_append store.leads allowed fun _ =>
      follow_unlinked plain short (store.unlinked name)] at led
    cases led
    rfl

/-- A name in the directory stands for the entry of that name. -/
theorem locateEntry_eq (led : tree.locateEntry (directory ++ [name]) = .ok place) :
    place = ⟨base ++ [name], tree.entry? (base ++ [name])⟩ := by
  simp only [locateEntry, List.dropLast_concat, store.leads, List.getLast?_append, bind,
    Except.bind] at led
  split at led
  · contradiction
  · split at led
    · contradiction
    · cases led
      rfl

/-- Writing to a name in the directory changes just the entry of that name. -/
theorem alters_of_write (plain : IsPlain name)
    (written : tree.write (directory ++ [name]) content = .ok after) :
    tree.Alters after (base ++ [name]) := by
  obtain ⟨own, room, rfl⟩ := write_eq_ok_iff.mp written
  obtain ⟨entry, led⟩ := room.leads
  exact store.path_eq plain led ▸ room.alters content

/-- Removing a name from the directory changes just the entry of that name. -/
theorem alters_of_remove (removed : tree.remove (directory ++ [name]) = .ok after) :
    tree.Alters after (base ++ [name]) := by
  have below : base ++ [name] ≠ [] := by simp
  rw [remove] at removed
  cases led : tree.locateEntry (directory ++ [name]) with
  | error fault => simp [led, bind, Except.bind] at removed
  | ok place =>
    obtain rfl := store.locateEntry_eq led
    simp only [led, bind, Except.bind] at removed
    split at removed
    · contradiction
    · contradiction
    · next entry other held =>
      cases removed
      refine ⟨fun path apart => ?_, fun found stands => ?_, fun target => ?_⟩
      · rw [entry?_erase below, if_neg apart]
      · cases found with
        | file content => exact ⟨content, rfl⟩
        | directory => exact absurd (Option.some.inj (held.symm.trans stands)) other
        | link target => exact absurd stands (store.unlinked name target)
      · simp [entry?_erase below]

/-- Making a directory of a name in the directory changes just the entry of that name. -/
theorem alters_of_makeDirectory (made : tree.makeDirectory (directory ++ [name]) = .ok after) :
    tree.Alters after (base ++ [name]) := by
  have below : base ++ [name] ≠ [] := by simp
  rw [makeDirectory] at made
  cases led : tree.locateEntry (directory ++ [name]) with
  | error fault => simp [led, bind, Except.bind] at made
  | ok place =>
    obtain rfl := store.locateEntry_eq led
    simp only [led, bind, Except.bind] at made
    split at made
    · next absent =>
      cases made
      refine ⟨fun path apart => ?_, fun found stands => ?_, fun target => ?_⟩
      · rw [entry?_put below, if_neg apart]
      · exact nomatch absent.symm.trans stands
      · simp [entry?_put below]
    · contradiction

/-- A directory without links stays one when an entry of it is changed. -/
theorem of_alters (altered : tree.Alters after (base ++ [name])) :
    after.HoldsNoLinks directory base where
  leads := locate_of_alters_of_ne altered store.leads (by simp)
  unlinked other target := by
    by_cases same : other = name
    · exact same ▸ altered.unlinked target
    · rw [altered.elsewhere _ (by simpa using same)]
      exact store.unlinked other target

end HoldsNoLinks
end Formwright.FileTree
