import Formwright.Cache
import Formwright.Proofs.Json.Outline
import Formwright.Proofs.Json.Record

/-!
# Entries in files

An entry that is written to a file is read back from the bytes of the file. The content of a file
counts as code where it is the entry of that code, whatever way the entry is written in.
-/
namespace Formwright
open Json

namespace Json

/-- The key of a member that is written next is scanned. -/
theorem nextKey_quoted (isFirst : Bool) (key : String) (rest : List Char) :
    nextKey isFirst (Outline.separator isFirst ++ (quoteChars key.toList ++ rest)) =
      .ok (some key, rest) := by
  cases isFirst <;> simp [nextKey, Outline.separator, quoteChars, skipGap, isGap, quotedKey,
    stringBody_quoted, bind, Except.bind]

/-- A text that is written next is scanned. -/
theorem scan_text_quoted (text : String) (rest : List Char) :
    Shape.scan .text (quoteChars text.toList ++ rest) = .ok (.string text, rest) := by
  simp [Shape.scan, quoteChars, skipGap, isGap, stringBody_quoted, bind, Except.bind]

section

variable {keyed : Keyed} {done : Members} {bound rest : List Char} (mark : Char) (isFirst : Bool)

/-- A field of a record that holds a text and is written next is scanned. -/
theorem recordMembers_text {key text : String} (own : keyed.scanField key = some (Shape.scan .text))
    (fresh : done.lookup key = none) :
    recordMembers keyed (mark :: bound) isFirst done (Outline.separator isFirst ++
        (quoteChars key.toList ++ ':' :: (quoteChars text.toList ++ rest))) =
      recordMembers keyed bound false (insertNamed key (.string text) done) rest := by
  have colon : passColon (':' :: (quoteChars text.toList ++ rest)) =
      .ok (quoteChars text.toList ++ rest) := by
    simp [passColon, skipGap, isGap]
  simp [recordMembers, nextKey_quoted, own, fresh, colon, scan_text_quoted, bind, Except.bind]

/-- A record that ends with all its required fields is scanned. -/
theorem recordMembers_end (present : ∀ name ∈ keyed.required, (done.lookup name).isSome) :
    recordMembers keyed (mark :: bound) isFirst done ('\x7d' :: rest) =
      .ok (.object done, rest) := by
  have none : keyed.required.find? (fun name => (done.lookup name).isNone) = none := by
    rw [List.find?_eq_none]
    intro name required
    have held := present name required
    simp [Option.isNone_iff_eq_none, Option.isSome_iff_ne_none.mp held]
  simp [recordMembers, nextKey, skipGap, isGap, none, bind, Except.bind]

end

end Json

namespace CacheEntry

/-- The characters of the text of an entry. -/
theorem toList_render_toJson (entry : CacheEntry) : entry.toJson.render.toList =
    '\x7b' :: (quoteChars "hash".toList ++ ':' :: (quoteChars entry.hash.toList ++
      ',' :: (quoteChars "code".toList ++ ':' :: (quoteChars entry.code.toList ++ ['\x7d'])))) := by
  rw [toList_render]
  rfl

/-- How the fields of an entry are scanned. -/
def keyed : Keyed :=
  ⟨fun key => [("hash", Shape.scan .text), ("code", Shape.scan .text)].lookup key, ["hash", "code"]⟩

/-- The fields of a written entry are scanned. -/
theorem recordMembers_entry (entry : CacheEntry) (bound : List Char) :
    recordMembers keyed ('"' :: 'h' :: 'a' :: bound) true []
        (quoteChars "hash".toList ++ ':' :: (quoteChars entry.hash.toList ++
          ',' :: (quoteChars "code".toList ++ ':' :: (quoteChars entry.code.toList ++ ['\x7d'])))) =
      .ok (.object [("code", .string entry.code), ("hash", .string entry.hash)], []) := by
  have ordered : insertNamed "code" (Json.string entry.code) [("hash", .string entry.hash)] =
      [("code", .string entry.code), ("hash", .string entry.hash)] := by
    simp only [insertNamed]
    rw [if_neg (by decide), if_pos (by decide)]
  have code : recordMembers keyed ('h' :: 'a' :: bound) false [("hash", .string entry.hash)]
      (',' :: (quoteChars "code".toList ++ ':' :: (quoteChars entry.code.toList ++ ['\x7d']))) =
      recordMembers keyed ('a' :: bound) false
        (insertNamed "code" (.string entry.code) [("hash", .string entry.hash)]) ['\x7d'] :=
    recordMembers_text 'h' false rfl rfl
  have ending : recordMembers keyed ('a' :: bound) false
      [("code", .string entry.code), ("hash", .string entry.hash)] ['\x7d'] =
      .ok (.object [("code", .string entry.code), ("hash", .string entry.hash)], []) :=
    recordMembers_end 'a' false (by simp [keyed, lookup_cons_ite])
  exact (recordMembers_text '"' true rfl rfl).trans (code.trans (by rw [ordered, ending]))

/-- An entry is read back from its text. -/
theorem ofText?_render (entry : CacheEntry) : ofText? entry.toJson.render = some entry := by
  have scanned : shape.scan entry.toJson.render.toList =
      .ok (.object [("code", .string entry.code), ("hash", .string entry.hash)], []) := by
    rw [toList_render_toJson]
    exact recordMembers_entry entry _
  have whole : wholeText shape.scan entry.toJson.render.toList =
      .ok (.object [("code", .string entry.code), ("hash", .string entry.hash)]) := by
    simp [wholeText, scanned, skipGap, bind, Except.bind]
  have read : reader (.object [("code", .string entry.code), ("hash", .string entry.hash)]) =
      .ok entry := rfl
  simp only [ofText?, Shape.read, whole, bind, Except.bind, read]
  rfl

/-! ## Contents of files -/

/-- The content of a file is an entry of the code with the right digest. -/
def Holds (content : ByteArray) (code : String) : Prop :=
  ∃ text entry, String.fromUTF8? content = some text ∧ ofText? text = some entry ∧
    entry.isSound = true ∧ entry.code = code

/-- A file holds one code at most. -/
theorem Holds.eq {content : ByteArray} {code code' : String} (holds : Holds content code)
    (holds' : Holds content code') : code = code' := by
  obtain ⟨text, entry, decoded, read, _, rfl⟩ := holds
  obtain ⟨text', entry', decoded', read', _, rfl⟩ := holds'
  obtain rfl : text = text' := Option.some.inj (decoded.symm.trans decoded')
  obtain rfl : entry = entry' := Option.some.inj (read.symm.trans read')
  rfl

/-- A text is decoded from its bytes. -/
theorem fromUTF8?_toUTF8 (text : String) : String.fromUTF8? text.toUTF8 = some text :=
  dif_pos text.isValidUTF8

/-- The file that is written for some code holds it. -/
theorem holds_ofCode (code : String) : Holds (ofCode code).toJson.render.toUTF8 code :=
  ⟨_, ofCode code, fromUTF8?_toUTF8 _, ofText?_render _, by simp [isSound, ofCode], rfl⟩

end CacheEntry
end Formwright
