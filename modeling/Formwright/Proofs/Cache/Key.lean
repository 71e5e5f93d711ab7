import Formwright.Cache
import Formwright.Json.Parser
import Formwright.Proofs.Document.Canonical
import Mathlib.Data.List.Nodup

/-!
# What a key tells

A key is the digest of a text that starts with the digest of another one. Both texts tell what they
were made of, so equal keys mean the same options and documents that are alike, unless two of the
texts hashed for them collide.
-/
namespace Formwright
open Json

/-- Two of the texts are different and have one digest. -/
def Sha256.Collide (texts : List String) : Prop :=
  ∃ first ∈ texts, ∃ second ∈ texts, first ≠ second ∧ hexDigest first = hexDigest second

/-- Texts that do not collide are told by their digests. -/
theorem Sha256.eq_of_hexDigest_eq {texts : List String} (apart : ¬ Collide texts)
    {first second : String} (ofFirst : first ∈ texts) (ofSecond : second ∈ texts)
    (same : hexDigest first = hexDigest second) : first = second := by
  by_contra different
  exact apart ⟨first, ofFirst, second, ofSecond, different, same⟩

/-- Texts do not collide where their digests, each text taken once, start differently. -/
theorem Sha256.not_collide_of_nodup {texts distinct : List String} {length : Nat}
    (among : texts ⊆ distinct)
    (starts : (distinct.map fun text => (hexDigest text).toList.take length).Nodup) :
    ¬ Collide texts := by
  rintro ⟨first, ofFirst, second, ofSecond, different, same⟩
  exact different (List.inj_on_of_nodup_map starts (among ofFirst) (among ofSecond)
    (congrArg (·.toList.take length) same))

/-- A text that may be absent is told by its outline. -/
theorem Json.outline_ofText?_injective :
    Function.Injective fun text => (ofText? text).outline := by
  intro left right same
  cases left with
  | none =>
    cases right with
    | none => rfl
    | some text => exact nomatch same
  | some text =>
    cases right with
    | none => exact nomatch same
    | some text' => exact congrArg some (outline_string_injective same)

/-- Options are told by their text. -/
theorem Code.Options.eq_of_render_eq {left right : Options}
    (texts : left.toJson.render = right.toJson.render) : left = right := by
  have same : left.toJson.outline = right.toJson.outline := (render_eq_iff _ _).mp texts
  obtain ⟨name, base, directive⟩ := left
  obtain ⟨name', base', directive'⟩ := right
  have names : name = name' := outline_ofText?_injective (by
    simpa [lookup_cons_ite] using lookup_outline_eq same "componentName")
  have bases : base = base' := by
    simpa [lookup_cons_ite, outline] using lookup_outline_eq same "uiImportBase"
  have directives : directive = directive' := by
    simpa [lookup_cons_ite, outline] using lookup_outline_eq same "useClientDirective"
  rw [names, bases, directives]

namespace Cache

/-- The text of which the key of a document and options is the digest. -/
def keyText (document : Document) (options : Code.Options) : String :=
  document.fingerprint ++ ":" ++ options.toJson.render

variable {first second : Document} {options options' : Code.Options}

/-- The text of a key tells the fingerprint and the options. -/
theorem eq_of_keyText_eq (same : keyText first options = keyText second options') :
    first.fingerprint = second.fingerprint ∧ options = options' := by
  have spelled := congrArg String.toList same
  simp only [keyText, String.toList_append, List.append_assoc] at spelled
  obtain ⟨prints, rest⟩ := List.append_inj spelled
    ((Sha256.length_hexDigest _).trans (Sha256.length_hexDigest _).symm)
  exact ⟨String.toList_inj.mp prints,
    Code.Options.eq_of_render_eq (String.toList_inj.mp (List.append_cancel_left rest))⟩

/-- Documents and options with one key are the same options and documents that are the same but for
numbers in defaults that are printed alike, unless two of the four texts that are hashed for the
keys are different and have one digest. -/
theorem key_separates (first second : Document) (options options' : Code.Options)
    (same : key first options = key second options') :
    (options = options' ∧ first.Alike second) ∨ Sha256.Collide
      [first.canonical, second.canonical, keyText first options, keyText second options'] := by
  by_cases texts : keyText first options = keyText second options'
  · obtain ⟨prints, sameOptions⟩ := eq_of_keyText_eq texts
    by_cases canonical : first.canonical = second.canonical
    · exact .inl ⟨sameOptions, Document.alike_of_canonical_eq canonical⟩
    · right
      exact ⟨first.canonical, by simp, second.canonical, by simp, canonical, prints⟩
  · right
    exact ⟨keyText first options, by simp, keyText second options', by simp, texts, same⟩

/-- An order has another key with another share and under other options, and the same key with its
share spelled in another way. -/
theorem key_separates_order :
    let order (share : Json) : Document :=
      { kind := .form, title := "Order"
        fields := [{ id := "field-share", name := "share", label := "Share", control := .input
                     defaultValue := some share }] }
    let half : Json := .float ⟨false, 0x10000000000000, 1021⟩
    let quarter : Json := .float ⟨false, 0x10000000000000, 1020⟩
    let read := (parse "5e-1").toOption.getD .null
    key (order half) {} ≠ key (order quarter) {} ∧
      key (order half) {} ≠ key (order half) { clientDirective := false } ∧
      key (order half) {} = key (order read) {} ∧ (order half).Alike (order read) := by
  intro order half quarter read
  let texts := [(order half).canonical, (order quarter).canonical, keyText (order half) {},
    keyText (order quarter) {}, keyText (order half) { clientDirective := false }]
  have halfPrint : Sha256.hexDigest (order half).canonical =
      "4aa37115403a2c98ab7a24dfdffe1142e30455f12ee5729db52b47815ca06b3d" := by
    decide +kernel
  have quarterPrint : Sha256.hexDigest (order quarter).canonical =
      "dd8fd51dbaeb8ec317664eba0261262a9261b2a8784f9909c9d01fbfe72aafa6" := by
    decide +kernel
  -- Three digits of each digest are enough to tell the texts apart.
  have starts : (texts.map fun text => (Sha256.hexDigest text).toList.take 3) =
      ["4aa", "dd8", "d1d", "ddd", "e08"].map String.toList := by
    simp only [texts, List.map_cons, List.map_nil, keyText, Document.fingerprint, halfPrint,
      quarterPrint, List.cons.injEq, and_true]
    refine ⟨?_, ?_, ?_, ?_, ?_⟩ <;> decide +kernel
  have distinct : (texts.map fun text => (Sha256.hexDigest text).toList.take 3).Nodup := by
    rw [starts]
    decide
  have apart {hashed : List String} (among : hashed ⊆ texts) : ¬ Sha256.Collide hashed :=
    Sha256.not_collide_of_nodup among distinct
  have unlike : ¬ (order half).Alike (order quarter) := by
    intro alike
    have outlines : half.outline = quarter.outline := by
      simpa [Document.defaultOutlines, order] using alike.defaultOutlines
    have printed : half.render ≠ quarter.render := by decide +kernel
    exact printed ((render_eq_iff _ _).mpr outlines)
  -- The two spellings need not be read as one number for this, only as numbers printed alike.
  have canonical : (order half).canonical = (order read).canonical := by
    have printed : half.render = read.render := by decide +kernel
    generalize read = share at printed
    have outlines := (render_eq_iff _ _).mp printed
    refine (render_eq_iff _ _).mpr ?_
    simp [order, Document.toJson, Field.toJson, optionalMember, nonEmptyMember, outline,
      outlineMembers, outlineItems, outlines]
  have sameText : keyText (order half) {} = keyText (order read) {} := by
    rw [keyText, keyText, Document.fingerprint, Document.fingerprint, canonical]
  have sameKey : key (order half) {} = key (order read) {} := congrArg Sha256.hexDigest sameText
  refine ⟨fun same => ?otherShare, fun same => ?otherOptions, sameKey, ?otherSpelling⟩
  case otherShare =>
    have told := (key_separates _ _ _ _ same).resolve_right (apart (by simp [texts]))
    exact unlike told.2
  case otherOptions =>
    have told := (key_separates _ _ _ _ same).resolve_right (apart (by simp [texts]))
    exact absurd told.1 (by decide)
  case otherSpelling =>
    have hashed : [(order half).canonical, (order read).canonical, keyText (order half) {},
        keyText (order read) {}] ⊆ texts := by
      rw [← canonical, ← sameText]
      simp [texts]
    exact ((key_separates _ _ _ _ sameKey).resolve_right (apart hashed)).2

end Cache
end Formwright
