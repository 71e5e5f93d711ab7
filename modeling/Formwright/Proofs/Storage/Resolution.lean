import Formwright.Storage.FileTree

/-!
# Where paths lead

Writing and removing change one entry of a tree and never make a directory or a link. So as long as
nothing else is done to a tree, a name in a directory leads to the entry of that name in the place
that the directory led to at first, or nowhere.
-/
namespace Formwright.FileTree

variable {tree start : FileTree}

/-! ## Single entries -/

/-- Without the entries at a path, none is found there, and all else is found as before. -/
theorem lookup_filter_ne (path other : FilePath) (entries : List (FilePath × FileEntry)) :
    (entries.filter (·.1 != path)).lookup other =
      if other = path then none else entries.lookup other := by
  induction entries with
  | nil => simp
  | cons entry later ih =>
    obtain ⟨held, value⟩ := entry
    by_cases here : held = path
    · subst here
      rw [List.filter_cons_of_neg (by simp), ih]
      by_cases same : other = held
      · rw [if_pos same, if_pos same]
      · rw [if_neg same, if_neg same, List.lookup_cons, beq_false_of_ne same]
    · rw [List.filter_cons_of_pos (by simpa using here), List.lookup_cons, List.lookup_cons, ih]
      by_cases same : other = held
      · subst same
        simp [here]
      · rw [beq_false_of_ne same]

/-- After an entry is put at a path, it stands there, and all else stands as before. -/
theorem entry?_put {path : FilePath} (below : path ≠ []) (entry : FileEntry) (other : FilePath) :
    entry? (tree.put path entry) other =
      if other = path then some entry else entry? tree other := by
  by_cases same : other = path
  · simp [ entry?, put, same, below]
  · simp [ entry?, put, same, List.lookup_cons, beq_false_of_ne same, lookup_filter_ne]

/-- After the entry at a path is removed, none stands there, and all else stands as before. -/
theorem entry?_erase {path : FilePath} (below : path ≠ []) (other : FilePath) :
    entry? (tree.erase path) other = if other = path then none else entry? tree other := by
  by_cases same : other = path
  · simp [ entry?, erase, same, below, lookup_filter_ne]
  · simp [ entry?, erase, same, lookup_filter_ne]

/-! ## Following steps -/

/-- Where a path leads, there stands what is said to. -/
theorem entry_of_follow {onLink : FilePath → FilePath → Except FileError Place}
    (linked : ∀ {base steps place}, onLink base steps = .ok place →
      place.entry = tree.entry? place.path) :
    ∀ {base steps : FilePath} {place : Place}, follow tree onLink base steps = .ok place →
      place.entry = tree.entry? place.path := by
  intro base steps
  induction steps generalizing base with
  | nil =>
    intro place led
    rw [follow] at led
    cases led
    rfl
  | cons step later ih =>
    intro place led
    rw [follow] at led
    split at led
    · exact ih led
    · split at led
      · exact ih led
      · split at led
        · contradiction
        · dsimp only at led
          split at led
          · exact ih led
          · exact linked led
          · next content found =>
            split at led
            · cases led
              exact found.symm
            · contradiction
          · next found =>
            split at led
            · cases led
              exact found.symm
            · contradiction

/-- Where a path leads, there stands what is said to. -/
theorem entry_of_locate {path : FilePath} {place : Place} (led : tree.locate path = .ok place) :
    place.entry = tree.entry? place.path := by
  have linked (links : Nat) : ∀ {base steps place}, locateFrom tree links base steps = .ok place →
      place.entry = tree.entry? place.path := by
    induction links with
    | zero => exact entry_of_follow fun led => by contradiction
    | succ links ih => exact entry_of_follow ih
  rw [locate] at led
  split at led
  · contradiction
  · exact linked _ led

/-- Steps lead alike where the same stands everywhere. -/
theorem follow_congr {other : FileTree}
    {onLink onLink' : FilePath → FilePath → Except FileError Place}
    (same : ∀ path, other.entry? path = tree.entry? path)
    (linked : ∀ base steps, onLink' base steps = onLink base steps) (base steps : FilePath) :
    follow other onLink' base steps = follow tree onLink base steps := by
  induction steps generalizing base with
  | nil => rw [follow, follow, same]
  | cons step later ih => simp only [follow, same, linked, ih]

/-- Paths lead alike where the same stands everywhere. -/
theorem locate_congr {other : FileTree} (same : ∀ path, other.entry? path = tree.entry? path)
    (path : FilePath) : other.locate path = tree.locate path := by
  have linked (links : Nat) : ∀ base steps,
      locateFrom other links base steps = locateFrom tree links base steps := by
    induction links with
    | zero => exact follow_congr same fun _ _ => rfl
    | succ links ih => exact follow_congr same ih
  simp only [locate, linked]

/-! ## Names in a directory -/

/-- A name that a path may have as a step that is taken as it stands. -/
def IsPlain (name : String) : Prop := name ≠ "" ∧ name ≠ "." ∧ name ≠ ".."

/-- All directories and links of the tree stand in the other one, too. -/
def HasWaysOf (tree start : FileTree) : Prop :=
  ∀ path entry, tree.entry? path = some entry → (∀ content, entry ≠ .file content) →
    start.entry? path = some entry

/-- Where steps lead to a directory in one tree, a name after them leads to the entry of that name
in the directory, or nowhere, in a tree with no further directories and links. -/
theorem eq_of_follow {onLink onLink' : FilePath → FilePath → Except FileError Place}
    {base : FilePath} {name : String} {place : Place} (ways : tree.HasWaysOf start)
    (plain : IsPlain name) (free : start.entry? (base ++ [name]) = none)
    (linked : ∀ origin steps, onLink' origin steps = .ok ⟨base, some .directory⟩ →
      onLink origin (steps ++ [name]) = .ok place → place.path = base ++ [name]) :
    ∀ {origin steps : FilePath}, follow start onLink' origin steps = .ok ⟨base, some .directory⟩ →
      follow tree onLink origin (steps ++ [name]) = .ok place → place.path = base ++ [name] := by
  intro origin steps
  induction steps generalizing origin with
  | nil =>
    intro ledStart led
    rw [follow, Except.ok.injEq, Place.mk.injEq] at ledStart
    obtain ⟨rfl, -⟩ := ledStart
    obtain ⟨notEmpty, here, above⟩ := plain
    rw [List.nil_append, follow, if_neg (by simp [notEmpty, here]), if_neg above] at led
    split at led
    · contradiction
    · dsimp only at led
      split at led
      · next found => exact nomatch free.symm.trans (ways _ _ found nofun)
      · next target found => exact nomatch free.symm.trans (ways _ _ found nofun)
      · cases led
        rfl
      · cases led
        rfl
  | cons step later ih =>
    intro ledStart led
    rw [List.cons_append] at led
    rw [follow] at ledStart led
    split at led
    · next skipped =>
      rw [if_pos skipped] at ledStart
      exact ih ledStart led
    · next taken =>
      rw [if_neg taken] at ledStart
      split at led
      · next up =>
        rw [if_pos up] at ledStart
        exact ih ledStart led
      · next down =>
        rw [if_neg down] at ledStart
        split at led
        · contradiction
        · next short =>
          rw [if_neg short] at ledStart
          dsimp only at led ledStart
          split at led
          · next found =>
            rw [ways _ _ found nofun] at ledStart
            exact ih ledStart led
          · next target found =>
            rw [ways _ _ found nofun] at ledStart
            rw [← List.append_assoc] at led
            exact linked _ _ ledStart led
          · simp at led
          · simp at led

/-- Where a path leads to a directory at first, a name in it leads to the entry of that name, or
nowhere, in a tree with no further directories and links. -/
theorem locate_name {directory base : FilePath} {name : String} {place : Place}
    (leads : start.locate directory = .ok ⟨base, some .directory⟩) (ways : tree.HasWaysOf start)
    (plain : IsPlain name) (free : start.entry? (base ++ [name]) = none)
    (led : tree.locate (directory ++ [name]) = .ok place) :
    place = ⟨base ++ [name], tree.entry? (base ++ [name])⟩ := by
  have linked (links : Nat) : ∀ origin steps,
      locateFrom start links origin steps = .ok ⟨base, some .directory⟩ →
      locateFrom tree links origin (steps ++ [name]) = .ok place →
      place.path = base ++ [name] := by
    induction links with
    | zero => exact fun _ _ => eq_of_follow ways plain free fun _ _ ledStart => by contradiction
    | succ links ih => exact fun _ _ => eq_of_follow ways plain free ih
  have found := entry_of_locate led
  rw [locate] at leads led
  split at leads
  · contradiction
  · split at led
    · contradiction
    · obtain ⟨path, entry⟩ := place
      obtain rfl : path = base ++ [name] := linked maxLinks _ _ leads led
      rw [show entry = tree.entry? (base ++ [name]) from found]

/-! ## Further steps -/

/-- Where steps lead to a directory, further steps lead where they lead from there, as long as that
does not depend on the links left to follow. -/
theorem follow_append {onLink : FilePath → FilePath → Except FileError Place}
    {base further : FilePath} {outcome : Except FileError Place}
    (onward : ∀ onLink, follow tree onLink base further = outcome)
    (linked : ∀ origin steps, onLink origin steps = .ok ⟨base, some .directory⟩ →
      onLink origin (steps ++ further) = outcome) :
    ∀ {origin steps : FilePath}, follow tree onLink origin steps = .ok ⟨base, some .directory⟩ →
      follow tree onLink origin (steps ++ further) = outcome := by
  intro origin steps
  -- The steps are the same on both sides up to a link, where `linked` takes over.
  induction steps generalizing origin with
  | nil =>
    intro led
    rw [follow, Except.ok.injEq, Place.mk.injEq] at led
    obtain ⟨rfl, -⟩ := led
    exact onward onLink
  | cons step later ih =>
    intro led
    rw [List.cons_append]
    rw [follow] at led ⊢
    split at led
    · next skipped => rw [if_pos skipped]; exact ih led
    · next taken =>
      rw [if_neg taken]
      split at led
      · next up => rw [if_pos up]; exact ih led
      · next down =>
        rw [if_neg down]
        split at led
        · contradiction
        · next short =>
          rw [if_neg short]
          dsimp only at led ⊢
          split at led
          · exact ih led
          · rw [← List.append_assoc]
            exact linked _ _ led
          · split at led
            · exact nomatch (Place.mk.inj (Except.ok.inj led)).2
            · contradiction
          · split at led
            · exact nomatch (Place.mk.inj (Except.ok.inj led)).2
            · contradiction

/-- Where a path leads to a directory, further steps lead where they lead from there. -/
theorem locate_append {directory base further : FilePath} {outcome : Except FileError Place}
    (leads : tree.locate directory = .ok ⟨base, some .directory⟩)
    (allowed : refusal? (directory ++ further) = none)
    (onward : ∀ onLink, follow tree onLink base further = outcome) :
    tree.locate (directory ++ further) = outcome := by
  have linked (links : Nat) : ∀ origin steps,
      locateFrom tree links origin steps = .ok ⟨base, some .directory⟩ →
      locateFrom tree links origin (steps ++ further) = outcome := by
    induction links with
    | zero => exact fun _ _ => follow_append onward fun _ _ led => by contradiction
    | succ links ih => exact fun _ _ => follow_append onward ih
  rw [locate] at leads
  split at leads
  · contradiction
  · rw [locate, allowed]
    exact linked _ _ _ leads

/-- A name that is too long leads nowhere. -/
theorem follow_longName {base : FilePath} {name : String} (plain : IsPlain name)
    (long : maxName < name.utf8ByteSize)
    (onLink : FilePath → FilePath → Except FileError Place) :
    follow tree onLink base [name] = .error .nameTooLong := by
  obtain ⟨notEmpty, notHere, notUp⟩ := plain
  rw [follow, if_neg (by simp [notEmpty, notHere]), if_neg notUp, if_pos long]

/-- A name under which a directory or nothing stands leads there. -/
theorem follow_name {base : FilePath} {name : String} (plain : IsPlain name)
    (short : name.utf8ByteSize ≤ maxName)
    (stands : ∀ entry, tree.entry? (base ++ [name]) = some entry → entry = .directory)
    (onLink : FilePath → FilePath → Except FileError Place) :
    follow tree onLink base [name] = .ok ⟨base ++ [name], tree.entry? (base ++ [name])⟩ := by
  obtain ⟨notEmpty, notHere, notUp⟩ := plain
  rw [follow, if_neg (by simp [notEmpty, notHere]), if_neg notUp, if_neg (Nat.not_lt.mpr short)]
  dsimp only
  cases held : tree.entry? (base ++ [name]) with
  | none => rfl
  | some entry =>
    obtain rfl := stands entry held
    dsimp only
    rw [follow, held]

/-! ## Reading, writing and removing -/

/-- The text of a file is what its bytes spell. -/
theorem readText_of_read {path : FilePath} {content : ByteArray}
    (read : tree.read path = .ok content) :
    tree.readText path =
      match String.fromUTF8? content with
      | some text => .ok text
      | none => .error .invalidText := by
  rw [readText, read]
  rfl

/-- A text is read where a file with its bytes stands. -/
theorem exists_of_readText {path : FilePath} {text : String}
    (read : tree.readText path = .ok text) :
    ∃ place content, tree.locate path = .ok place ∧ place.entry = some (.file content) ∧
      String.fromUTF8? content = some text := by
  cases led : tree.locate path with
  | error fault => simp [readText, FileTree.read, led, bind, Except.bind] at read
  | ok place =>
    simp only [readText, FileTree.read, led, bind, Except.bind] at read
    split at read
    · contradiction
    · next content taken =>
      split at read
      · next found decoded =>
        cases read
        split at taken
        · next held file =>
          cases taken
          exact ⟨place, content, rfl, file, decoded⟩
        · contradiction
        · contradiction
      · contradiction

/-- A file is written where a file stood or nothing did. -/
theorem exists_of_write {path : FilePath} {content : ByteArray} {after : FileTree}
    (written : tree.write path content = .ok after) : ∃ place, tree.locate path = .ok place ∧
      place.path ≠ [] ∧ after = tree.put place.path (.file content) := by
  rw [write] at written
  cases led : tree.locate path with
  | error fault => simp [led, bind, Except.bind] at written
  | ok place =>
    have found := entry_of_locate led
    simp only [led, bind, Except.bind] at written
    have below (absent : place.entry ≠ some .directory) : place.path ≠ [] := by
      intro root
      rw [root] at found
      exact absent found
    split at written
    · next absent =>
      exact ⟨place, rfl, below (by simp [absent]), (Except.ok.inj written).symm⟩
    · next held file =>
      exact ⟨place, rfl, below (by simp [file]), (Except.ok.inj written).symm⟩
    · contradiction

/-- Where the entry at a path stands itself, there stands what is said to. -/
theorem entry_of_locateEntry {path : FilePath} {place : Place}
    (led : tree.locateEntry path = .ok place) : place.entry = tree.entry? place.path := by
  simp only [locateEntry, bind, Except.bind] at led
  split at led
  · contradiction
  · split at led
    · contradiction
    · next parent _ =>
      split at led
      · split at led
        · contradiction
        · cases led
          rfl
      · contradiction
      · contradiction

/-- An entry is removed that is not the root. -/
theorem exists_of_remove {path : FilePath} {after : FileTree}
    (removed : tree.remove path = .ok after) : ∃ own, own ≠ [] ∧ after = tree.erase own := by
  rw [remove] at removed
  cases led : tree.locateEntry path with
  | error fault => simp [led, bind, Except.bind] at removed
  | ok place =>
    have found := entry_of_locateEntry led
    simp only [led, bind, Except.bind] at removed
    split at removed
    · contradiction
    · contradiction
    · next entry other held =>
      refine ⟨place.path, fun root => ?_, (Except.ok.inj removed).symm⟩
      rw [root] at found
      exact other (Option.some.inj (held.symm.trans found))

/-- A file that is read through a name in a directory is an entry of that name, or a link is. -/
theorem exists_of_read_name {directory base : FilePath} {name : String} {content : ByteArray}
    (leads : tree.locate directory = .ok ⟨base, some .directory⟩) (plain : IsPlain name)
    (read : tree.read (directory ++ [name]) = .ok content) :
    refusal? (directory ++ [name]) = none ∧ name.utf8ByteSize ≤ maxName ∧
      ∃ entry, tree.entry? (base ++ [name]) = some entry ∧ entry ≠ .directory := by
  cases refused : refusal? (directory ++ [name]) with
  | some fault => simp [FileTree.read, locate, refused, bind, Except.bind] at read
  | none =>
    have short : name.utf8ByteSize ≤ maxName := by
      refine Nat.not_lt.mp fun long => ?_
      have failed := locate_append leads refused (follow_longName plain long)
      simp [FileTree.read, failed, bind, Except.bind] at read
    refine ⟨rfl, short, ?_⟩
    cases stands : tree.entry? (base ++ [name]) with
    | none =>
      have led := locate_append leads refused (follow_name plain short (by simp [stands]))
      simp [FileTree.read, led, stands, bind, Except.bind] at read
    | some entry =>
      refine ⟨entry, rfl, ?_⟩
      rintro rfl
      have led := locate_append leads refused (follow_name plain short (by simp [stands]))
      simp [FileTree.read, led, stands, bind, Except.bind] at read

/-- A file that is read through a name in a directory is removed with the entry of that name. -/
theorem remove_of_read {directory base : FilePath} {name : String} {content : ByteArray}
    (leads : tree.locate directory = .ok ⟨base, some .directory⟩) (plain : IsPlain name)
    (read : tree.read (directory ++ [name]) = .ok content) :
    tree.remove (directory ++ [name]) = .ok (tree.erase (base ++ [name])) := by
  obtain ⟨allowed, short, entry, stands, other⟩ := exists_of_read_name leads plain read
  have led : tree.locateEntry (directory ++ [name]) = .ok ⟨base ++ [name], some entry⟩ := by
    simp [locateEntry, allowed, leads, stands, Nat.not_lt.mpr short, bind, Except.bind]
  rw [remove, led]
  cases entry with
  | directory => contradiction
  | file content => rfl
  | link target => rfl

/-- Writing a file makes no directory and no link. -/
theorem HasWaysOf.put {path : FilePath} (ways : tree.HasWaysOf start) (below : path ≠ [])
    (content : ByteArray) : (tree.put path (.file content)).HasWaysOf start := by
  intro other entry found way
  rw [entry?_put below] at found
  split at found
  · exact absurd (Option.some.inj found).symm (way content)
  · exact ways other entry found way

/-- Removing an entry makes no directory and no link. -/
theorem HasWaysOf.erase {path : FilePath} (ways : tree.HasWaysOf start) (below : path ≠ []) :
    (tree.erase path).HasWaysOf start := by
  intro other entry found way
  rw [entry?_erase below] at found
  split at found
  · contradiction
  · exact ways other entry found way

end Formwright.FileTree
