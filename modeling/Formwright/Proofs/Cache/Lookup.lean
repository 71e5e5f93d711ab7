import Formwright.Proofs.Cache.Access

/-!
# Hits and what misses clean up

A lookup under a plain name finds code in the file of the name or does not. A file that is text and
holds no code is removed by it, and nothing else is ever touched; a file that is no text stays.
-/
namespace Formwright.Cache

variable {tree : FileTree} {directory base : FilePath} {key code : String} {content : ByteArray}

/-- A file that is read for a key is removed when it is discarded. -/
theorem discard_of_read (leads : tree.locate directory = .ok ⟨base, some .directory⟩)
    (slashless : '/' ∉ key.toList) (read : tree.read (path directory key) = .ok content) :
    discard tree (path directory key) = tree.erase (base ++ [fileName key]) := by
  rw [path_eq slashless] at read ⊢
  rw [discard, FileTree.remove_of_read leads (isPlain_fileName key) read]
  rfl

/-- A file that is not read is passed over. -/
theorem get_of_unread {fault : FileError} (unread : tree.read (path directory key) = .error fault) :
    get tree directory key = (none, tree) := by
  have failed : tree.readText (path directory key) = .error fault := by
    rw [FileTree.readText, unread]
    rfl
  simp only [get, failed]

/-- A file that is no text is passed over. -/
theorem get_of_undecoded (read : tree.read (path directory key) = .ok content)
    (undecoded : String.fromUTF8? content = none) : get tree directory key = (none, tree) := by
  have failed := FileTree.readText_of_read read
  rw [undecoded] at failed
  simp only [get, failed]

/-- The code that a file holds is found. -/
theorem get_of_holds (read : tree.read (path directory key) = .ok content)
    (holds : CacheEntry.Holds content code) : get tree directory key = (some code, tree) := by
  obtain ⟨text, entry, decoded, spelled, sound, rfl⟩ := holds
  have taken := FileTree.readText_of_read read
  rw [decoded] at taken
  simp only [get, taken, spelled, sound, ↓reduceIte]

/-- A text that holds no code is discarded. -/
theorem get_of_not_holds {text : String} (read : tree.read (path directory key) = .ok content)
    (decoded : String.fromUTF8? content = some text)
    (nothing : ∀ code, ¬ CacheEntry.Holds content code) :
    get tree directory key = (none, discard tree (path directory key)) := by
  have taken := FileTree.readText_of_read read
  rw [decoded] at taken
  simp only [get, taken]
  cases spelled : CacheEntry.ofText? text with
  | none => rfl
  | some entry =>
    have unsound : ¬ entry.isSound = true := fun sound =>
      nothing entry.code ⟨text, entry, decoded, spelled, sound, rfl⟩
    exact if_neg unsound

/-- A lookup under a plain name hits or misses. It misses where no file is read, and leaves the tree
as it is. Of a file that is read it gives the code that the file holds, and leaves the tree as it
is; where the file holds no code it gives none, and removes the file and nothing else, unless the
file is no text: then it stays. -/
theorem get_hits_or_misses (leads : tree.locate directory = .ok ⟨base, some .directory⟩)
    (slashless : '/' ∉ key.toList) :
    (∀ fault, tree.read (path directory key) = .error fault →
      get tree directory key = (none, tree)) ∧
    ∀ content, tree.read (path directory key) = .ok content →
      (∃ code, CacheEntry.Holds content code ∧ get tree directory key = (some code, tree)) ∨
      (∀ code, ¬ CacheEntry.Holds content code) ∧
        ∃ after, get tree directory key = (none, after) ∧
          ((String.fromUTF8? content).isSome → ∀ place, after.entry? place =
            if place = base ++ [fileName key] then none else tree.entry? place) ∧
          (String.fromUTF8? content = none → after = tree) := by
  refine ⟨fun fault => get_of_unread, fun content read => ?_⟩
  by_cases held : ∃ code, CacheEntry.Holds content code
  · obtain ⟨code, holds⟩ := held
    exact .inl ⟨code, holds, get_of_holds read holds⟩
  · have nothing := not_exists.mp held
    refine .inr ⟨nothing, ?_⟩
    cases decoded : String.fromUTF8? content with
    | none => exact ⟨tree, get_of_undecoded read decoded, nofun, fun _ => rfl⟩
    | some text =>
      refine ⟨_, get_of_not_holds read decoded nothing, fun _ place => ?_, nofun⟩
      rw [discard_of_read leads slashless read, FileTree.entry?_erase (by simp)]

/-- Under a key there is an object without an entry in it. -/
theorem get_hits_or_misses_emptyObject :
    let tree : FileTree :=
      ⟨[(["cache"], .directory), (["cache", "a.json"], .file "\x7b\x7d".toUTF8)]⟩
    tree.locate ["cache"] = .ok ⟨["cache"], some .directory⟩ ∧ '/' ∉ "a".toList ∧
      tree.read (path ["cache"] "a") = .ok "\x7b\x7d".toUTF8 ∧
      ∃ after, get tree ["cache"] "a" = (none, after) ∧ after.entry? ["cache", "a.json"] = none ∧
        after.entry? ["cache"] = some .directory := by
  intro tree
  have leads : tree.locate ["cache"] = .ok ⟨["cache"], some .directory⟩ := rfl
  have slashless : '/' ∉ "a".toList := by decide
  have decoded : String.fromUTF8? "\x7b\x7d".toUTF8 = some "\x7b\x7d" :=
    CacheEntry.fromUTF8?_toUTF8 _
  have broken : CacheEntry.ofText? "\x7b\x7d" = none := by
    rw [← Option.isNone_iff_eq_none]
    decide +kernel
  have read : tree.read (path ["cache"] "a") = .ok "\x7b\x7d".toUTF8 := by
    rw [path_eq slashless]
    rfl
  refine ⟨leads, slashless, read, ?_⟩
  obtain ⟨_, hitOrMiss⟩ := get_hits_or_misses leads slashless
  rcases hitOrMiss _ read with ⟨code, holds, _⟩ | ⟨_, after, missed, cleaned, _⟩
  · obtain ⟨text, entry, decoded', spelled, _⟩ := holds
    cases decoded.symm.trans decoded'
    cases broken.symm.trans spelled
  · have places := cleaned (by rw [decoded]; rfl)
    exact ⟨after, missed, places ["cache", "a.json"], places ["cache"]⟩

/-- Under a key there is a file of one byte that no text has: it holds no code, and it stays when it
is looked up. -/
theorem get_notText :
    let tree : FileTree :=
      ⟨[(["cache"], .directory), (["cache", "a.json"], .file ⟨#[0xff]⟩)]⟩
    tree.locate ["cache"] = .ok ⟨["cache"], some .directory⟩ ∧ '/' ∉ "a".toList ∧
      tree.read (path ["cache"] "a") = .ok ⟨#[0xff]⟩ ∧
      (∀ code, ¬ CacheEntry.Holds ⟨#[0xff]⟩ code) ∧ get tree ["cache"] "a" = (none, tree) ∧
      tree.entry? ["cache", "a.json"] = some (.file ⟨#[0xff]⟩) := by
  intro tree
  have undecoded : String.fromUTF8? ⟨#[0xff]⟩ = none := by decide +kernel
  have slashless : '/' ∉ "a".toList := by decide
  have read : tree.read (path ["cache"] "a") = .ok ⟨#[0xff]⟩ := by
    rw [path_eq slashless]
    rfl
  refine ⟨rfl, slashless, read, ?_, get_of_undecoded read undecoded, rfl⟩
  rintro code ⟨text, entry, decoded, _⟩
  cases undecoded.symm.trans decoded

end Formwright.Cache
