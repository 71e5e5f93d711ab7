import Formwright.Proofs.Cache.Access
import Formwright.Proofs.Cache.Key
import Formwright.Proofs.Code.Default

/-!
# Runs of a cache

Code is generated through a cache, looked up in it and removed from it in any order, while others
write to any file what they like, as long as it is no entry with the right digest. Every step keeps
the files of the cache true to their keys: where the file for a key holds code, that is the code for
a document and options with the key. So what comes out of the cache is what would have been
generated.
-/
namespace Formwright.Cache

/-! ## Requests -/

/-- A document and the options that its code is generated with. -/
structure Request where
  document : Document
  options : Code.Options

namespace Request

/-- The key of what is requested. -/
def key (request : Request) : String := Cache.key request.document request.options

/-- The code that is requested. -/
def code (request : Request) : String := Code.generate request.document request.options

/-- The texts that are hashed for the key of what is requested. -/
def hashedTexts (request : Request) : List String :=
  [request.document.canonical, keyText request.document request.options]

/-- Requests with one key are for the same code, as long as the texts that are hashed for their keys
do not collide. -/
theorem code_eq {requests : List Request} (apart : ¬ Sha256.Collide (requests.flatMap hashedTexts))
    {first second : Request} (ofFirst : first ∈ requests) (ofSecond : second ∈ requests)
    (same : first.key = second.key) : first.code = second.code := by
  have hashed {request : Request} (asked : request ∈ requests) :
      request.document.canonical ∈ requests.flatMap hashedTexts ∧
        keyText request.document request.options ∈ requests.flatMap hashedTexts :=
    ⟨List.mem_flatMap.mpr ⟨request, asked, by simp [hashedTexts]⟩,
      List.mem_flatMap.mpr ⟨request, asked, by simp [hashedTexts]⟩⟩
  have texts : keyText first.document first.options = keyText second.document second.options :=
    Sha256.eq_of_hexDigest_eq apart (hashed ofFirst).2 (hashed ofSecond).2 same
  obtain ⟨prints, options⟩ := eq_of_keyText_eq texts
  have canonical : first.document.canonical = second.document.canonical :=
    Sha256.eq_of_hexDigest_eq apart (hashed ofFirst).1 (hashed ofSecond).1 prints
  rw [code, code, options]
  exact Code.generate_eq_of_alike (Document.alike_of_canonical_eq canonical) second.options

end Request

/-! ## Events -/

/-- What happens to a cache. -/
inductive Event where
  /-- Code is generated through the cache and kept there, if it can be. -/
  | generate (request : Request)
  /-- Code is generated through the cache while nothing can be written; what a write that fails may
  leave behind of a file counts as written by someone else. -/
  | generateUnkept (request : Request)
  /-- The code under a key is looked up. -/
  | get (key : String)
  /-- Someone else writes a file. -/
  | write (path : FilePath) (content : ByteArray)
  /-- Someone removes a file or a link. -/
  | remove (path : FilePath)

namespace Event

/-- The code that an event answers with, if it does, and the tree after it; what fails changes
nothing. -/
def run (directory : FilePath) (tree : FileTree) : Event → Option String × FileTree
  | .generate request =>
    (some (Cache.generate tree directory request.document request.options).1,
      (Cache.generate tree directory request.document request.options).2)
  | .generateUnkept request =>
    (some (Cache.generate tree directory request.document request.options).1,
      (Cache.get tree directory request.key).2)
  | .get key => Cache.get tree directory key
  | .write path content => (none, (tree.write path content).toOption.getD tree)
  | .remove path => (none, discard tree path)

/-- The request that an event makes. -/
def request? : Event → Option Request
  | .generate request => some request
  | .generateUnkept request => some request
  | _ => none

/-- An event answers with the code that it requests, or, where a key without slashes is looked up,
with nothing or code that was asked for under the key. -/
def IsAnswered (asked : List Request) : Event → Option String → Prop
  | .generate request, answer => answer = some request.code
  | .generateUnkept request, answer => answer = some request.code
  | .get key, answer => ∀ code, '/' ∉ key.toList → answer = some code →
      ∃ request ∈ asked, request.key = key ∧ request.code = code
  | _, _ => True

/-- What an event writes is the entry of no code. -/
def IsForeign : Event → Prop
  | .write _ content => ∀ code, ¬ CacheEntry.Holds content code
  | _ => True

end Event

/-- The events of a run, each with the code that it answers with. -/
def answers (directory : FilePath) : FileTree → List Event → List (Event × Option String)
  | _, [] => []
  | tree, event :: later =>
    (event, (event.run directory tree).1) :: answers directory (event.run directory tree).2 later

/-- The requests that are made in a run. -/
def requests (events : List Event) : List Request := events.filterMap Event.request?

/-! ## What a step keeps -/

variable {start tree : FileTree} {directory base : FilePath} {asked : List Request}

/-- The files of a cache are true to their keys: where the file for a key holds code, the code was
asked for under the key. -/
structure IsSound (start tree : FileTree) (base : FilePath) (asked : List Request) : Prop where
  ways : tree.HasWaysOf start
  held : ∀ key content code, tree.entry? (base ++ [fileName key]) = some (.file content) →
    CacheEntry.Holds content code → ∃ request ∈ asked, request.key = key ∧ request.code = code

/-- An empty cache is sound. -/
theorem IsEmpty.isSound (empty : IsEmpty start directory base) :
    IsSound start start base asked where
  ways := fun _ _ found _ => found
  held := by
    intro key content code found
    cases (empty.free _).symm.trans found

namespace IsSound

variable (sound : IsSound start tree base asked)
include sound

/-- A cache stays sound when an entry is removed. -/
theorem drop {after : FileTree} (dropped : DropsOne tree after) :
    IsSound start after base asked := by
  rcases dropped with rfl | ⟨own, below, rfl⟩
  · exact sound
  · refine ⟨sound.ways.erase below, fun key content code found holds => ?_⟩
    rw [FileTree.entry?_erase below] at found
    split at found
    · contradiction
    · exact sound.held key content code found holds

/-- A cache stays sound when a file is written that holds what was asked for, or nothing. -/
theorem put {path : FilePath} {content : ByteArray} (below : path ≠ [])
    (fits : ∀ key code, path = base ++ [fileName key] → CacheEntry.Holds content code →
      ∃ request ∈ asked, request.key = key ∧ request.code = code) :
    IsSound start (tree.put path (.file content)) base asked where
  ways := sound.ways.put below content
  held := by
    intro key content' code found holds
    rw [FileTree.entry?_put below] at found
    split at found
    · next own =>
      cases found
      exact fits key code own.symm holds
    · exact sound.held key content' code found holds

/-- A cache stays sound when others write what is the entry of no code. -/
theorem afterWrite {content : ByteArray} (foreign : ∀ code, ¬ CacheEntry.Holds content code)
    (path : FilePath) :
    IsSound start ((tree.write path content).toOption.getD tree) base asked := by
  cases written : tree.write path content with
  | error fault => exact sound
  | ok after =>
    obtain ⟨place, _, below, rfl⟩ := FileTree.exists_of_write written
    exact sound.put below fun key code _ holds => absurd holds (foreign code)

variable (empty : IsEmpty start directory base)
include empty

/-- What is looked up in a sound cache was asked for under its key. -/
theorem exists_of_get {key code : String} (plain : '/' ∉ key.toList)
    (found : (get tree directory key).1 = some code) :
    ∃ request ∈ asked, request.key = key ∧ request.code = code := by
  obtain ⟨_, content, file, holds⟩ := Cache.exists_of_get empty sound.ways plain
    (Prod.ext found rfl : get tree directory key = (some code, (get tree directory key).2))
  exact sound.held key content code file holds

/-- A cache stays sound when the code that is requested is kept under its key. -/
theorem afterSet {request : Request} (member : request ∈ asked) :
    IsSound start ((set tree directory request.key request.code).toOption.getD tree) base
      asked := by
  cases written : set tree directory request.key request.code with
  | error fault => exact sound
  | ok after =>
    obtain ⟨place, led, below, rfl⟩ := FileTree.exists_of_write written
    obtain rfl := locate_path empty sound.ways (slash_notMem_key _ _) led
    refine sound.put below fun key code own holds => ⟨request, member, ?_, ?_⟩
    · exact fileName_injective (List.singleton_inj.mp (List.append_cancel_left own))
    · exact (CacheEntry.holds_ofCode request.code).eq holds

variable (apart : ¬ Sha256.Collide (asked.flatMap Request.hashedTexts))
include apart

/-- What is generated through a sound cache is the code that is requested, and the cache stays
sound. -/
theorem afterGenerate {request : Request} (member : request ∈ asked) :
    (generate tree directory request.document request.options).1 = request.code ∧
      IsSound start (generate tree directory request.document request.options).2 base asked := by
  cases found : get tree directory request.key with
  | mk answer after =>
    have kept : IsSound start after base asked := by
      simpa only [found] using sound.drop (get_dropsOne tree directory request.key)
    cases answer with
    | some code =>
      obtain ⟨other, ofOther, sameKey, rfl⟩ := sound.exists_of_get empty (slash_notMem_key _ _)
        (congrArg Prod.fst found)
      simp only [generate_of_hit found]
      exact ⟨Request.code_eq apart ofOther member sameKey, kept⟩
    | none =>
      have written := kept.afterSet empty member
      rw [Request.key, Request.code] at written
      simp only [generate_of_miss found]
      exact ⟨rfl, written⟩

/-- A step of a run keeps the cache sound and answers with the code that is requested, or with
nothing or code that was asked for under the key that is looked up. -/
theorem step {event : Event} (known : ∀ request ∈ event.request?, request ∈ asked)
    (foreign : event.IsForeign) :
    event.IsAnswered asked (event.run directory tree).1 ∧
      IsSound start (event.run directory tree).2 base asked := by
  cases event with
  | generate request =>
    have member : request ∈ asked := known request rfl
    obtain ⟨same, kept⟩ := sound.afterGenerate empty apart member
    simp only [Event.run, Event.IsAnswered, same, true_and]
    exact kept
  | generateUnkept request =>
    have member : request ∈ asked := known request rfl
    obtain ⟨same, _⟩ := sound.afterGenerate empty apart member
    simp only [Event.run, Event.IsAnswered, same, true_and]
    exact sound.drop (get_dropsOne tree directory request.key)
  | get key =>
    rw [Event.run, Event.IsAnswered]
    exact ⟨fun code plain found => sound.exists_of_get empty plain found,
      sound.drop (get_dropsOne tree directory key)⟩
  | write path content => exact ⟨trivial, sound.afterWrite foreign path⟩
  | remove path => exact ⟨trivial, sound.drop (discard_dropsOne tree path)⟩

end IsSound

/-! ## Whole runs -/

/-- In a run from a sound cache every event is answered as it should be. -/
theorem isAnswered_of_mem_answers (empty : IsEmpty start directory base)
    (apart : ¬ Sha256.Collide (asked.flatMap Request.hashedTexts)) {events : List Event}
    (known : requests events ⊆ asked) (foreign : ∀ event ∈ events, event.IsForeign)
    (sound : IsSound start tree base asked) :
    ∀ answered ∈ answers directory tree events, answered.1.IsAnswered asked answered.2 := by
  induction events generalizing tree with
  | nil => exact List.forall_mem_nil _
  | cons event later ih =>
    obtain ⟨foreignHere, foreignLater⟩ := List.forall_mem_cons.mp foreign
    have knownHere : ∀ request ∈ event.request?, request ∈ asked := fun request asks =>
      known (List.mem_filterMap.mpr ⟨event, List.mem_cons_self, asks⟩)
    have knownLater : requests later ⊆ asked := fun request asks => by
      obtain ⟨other, member, made⟩ := List.mem_filterMap.mp asks
      exact known (List.mem_filterMap.mpr ⟨other, List.mem_cons_of_mem event member, made⟩)
    obtain ⟨answered, kept⟩ := sound.step empty apart knownHere foreignHere
    rw [answers]
    exact List.forall_mem_cons.mpr ⟨answered, ih knownLater foreignLater kept⟩

/-- In a run from an empty cache, in which the texts that are hashed for keys do not collide and
others write what they like but the entry of some code with the right digest, whatever is generated
is the code for the document and the options, and whatever is looked up under a plain name is
nothing or the code for a document and options with that key. -/
theorem answers_transparent {start : FileTree} {directory base : FilePath}
    (empty : IsEmpty start directory base) (events : List Event)
    (foreign : ∀ event ∈ events, event.IsForeign)
    (apart : ¬ Sha256.Collide ((requests events).flatMap Request.hashedTexts)) :
    (∀ document options answer,
      (Event.generate ⟨document, options⟩, answer) ∈ answers directory start events ∨
        (Event.generateUnkept ⟨document, options⟩, answer) ∈ answers directory start events →
      answer = some (Code.generate document options)) ∧
    ∀ key answer, (Event.get key, answer) ∈ answers directory start events → '/' ∉ key.toList →
      answer = none ∨ ∃ document options, Cache.key document options = key ∧
        answer = some (Code.generate document options) := by
  have answered := isAnswered_of_mem_answers empty apart (List.Subset.refl _) foreign empty.isSound
  refine ⟨fun document options answer generated => ?_, fun key answer looked plain => ?_⟩
  · rcases generated with kept | unkept
    · exact answered _ kept
    · exact answered _ unkept
  · cases answer with
    | none => exact .inl rfl
    | some code =>
      obtain ⟨request, _, sameKey, sameCode⟩ := answered _ looked code plain rfl
      exact .inr ⟨request.document, request.options, sameKey, congrArg some sameCode.symm⟩

/-- A form without fields is generated twice through a cache, and in between its file is broken and
its key looked up. -/
theorem answers_transparent_plainForm :
    let request : Request := ⟨{ kind := .form, title := "Form" }, {}⟩
    let start : FileTree := ⟨[(["cache"], .directory)]⟩
    let events : List Event := [.generate request,
      .write ["cache", fileName request.key] "\x7b\x7d".toUTF8, .get request.key, .generate request]
    IsEmpty start ["cache"] ["cache"] ∧ (∀ event ∈ events, event.IsForeign) ∧
      ¬ Sha256.Collide ((requests events).flatMap Request.hashedTexts) ∧
      ∀ answer, (Event.generate request, answer) ∈ answers ["cache"] start events →
        answer = some request.code := by
  intro request start events
  have empty : IsEmpty start ["cache"] ["cache"] := ⟨rfl, fun name => rfl⟩
  have broken : CacheEntry.ofText? "\x7b\x7d" = none := by
    rw [← Option.isNone_iff_eq_none]
    decide +kernel
  have foreign : ∀ event ∈ events, event.IsForeign := by
    refine List.forall_mem_cons.mpr ⟨trivial, List.forall_mem_cons.mpr ⟨?_,
      List.forall_mem_cons.mpr ⟨trivial, List.forall_mem_singleton.mpr trivial⟩⟩⟩
    rintro code ⟨text, entry, decoded, spelled, _⟩
    obtain rfl : "\x7b\x7d" = text :=
      Option.some.inj ((CacheEntry.fromUTF8?_toUTF8 _).symm.trans decoded)
    cases broken.symm.trans spelled
  have starts :
      (request.hashedTexts.map fun text => (Sha256.hexDigest text).toList.take 2).Nodup := by
    decide +kernel
  have apart : ¬ Sha256.Collide ((requests events).flatMap Request.hashedTexts) := by
    refine Sha256.not_collide_of_nodup (fun text hashed => ?_) starts
    obtain ⟨other, member, held⟩ := List.mem_flatMap.mp hashed
    obtain rfl : other = request := by
      simpa [requests, events, Event.request?, eq_comm] using member
    exact held
  obtain ⟨generated, _⟩ := answers_transparent empty events foreign apart
  exact ⟨empty, foreign, apart, fun answer answered =>
    generated request.document request.options answer (.inl answered)⟩

end Formwright.Cache
