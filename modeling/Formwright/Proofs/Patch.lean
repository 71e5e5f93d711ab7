import Formwright.Patch
import Formwright.Proofs.Node.RoundTrip

/-!
# Patches that pass and patches that are read

The check of patches and the reader of patches are two views of one format, and the reader takes
more: an id of any version, arguments left out, a patch written as the list of its fields. Whatever
passes the check is read, and a written patch is read back whatever its id is, but passes only if
the id is of version 4.
-/
namespace Formwright
open Json Json.Fields

instance : LawfulVocabulary PatchOp where
  ofWord?_word member := by cases member <;> decide

namespace Patch

attribute [local simp] lookup_cons_ite

/-! ## What passes -/

/-- Every diagnostic of a list is an error. -/
def OnlyErrors (diagnostics : List Diagnostic) : Prop :=
  ∀ diagnostic ∈ diagnostics, diagnostic.isError = true

/-- A problem with a field of a patch is an error. -/
@[simp]
theorem onlyErrors_fault (path message : String) : OnlyErrors (fault path message) :=
  List.forall_mem_singleton.mpr rfl

/-- Whatever is reported of the target is an error. -/
theorem onlyErrors_targetFaults (target : Option Json) : OnlyErrors (targetFaults target) := by
  unfold targetFaults
  split
  · exact onlyErrors_fault _ _
  · split
    · exact List.forall_mem_nil _
    · exact onlyErrors_fault _ _
  · exact onlyErrors_fault _ _

/-- Whatever is reported of the kind of edit is an error. -/
theorem onlyErrors_opFaults (op : Option Json) : OnlyErrors (opFaults op) := by
  unfold opFaults
  split
  · exact onlyErrors_fault _ _
  · split
    · exact List.forall_mem_nil _
    · exact onlyErrors_fault _ _

/-- Whatever is reported of the arguments is an error. -/
theorem onlyErrors_argsFaults (args : Option Json) : OnlyErrors (argsFaults args) := by
  unfold argsFaults
  split
  · exact onlyErrors_fault _ _
  · exact List.forall_mem_nil _
  · exact onlyErrors_fault _ _

/-- A result that can only have errors is valid exactly when it has no diagnostics. -/
theorem valid_ofDiagnostics_iff {diagnostics : List Diagnostic} (errors : OnlyErrors diagnostics) :
    (ValidationResult.ofDiagnostics diagnostics).valid = true ↔ diagnostics = [] := by
  cases diagnostics with
  | nil => simp [ValidationResult.ofDiagnostics]
  | cons first later =>
    simp [ValidationResult.ofDiagnostics, errors first List.mem_cons_self]

/-- Nothing is reported of the target exactly when it is an id of version 4. -/
theorem targetFaults_eq_nil_iff (target : Option Json) :
    targetFaults target = [] ↔
      ∃ text, target = some (.string text) ∧ NodeId.isVersion4 text = true := by
  unfold targetFaults
  split
  · simp [missing, fault]
  · rename_i text
    by_cases version4 : NodeId.isVersion4 text = true <;> simp [version4, fault]
  · rename_i other notText
    refine iff_of_false (by simp [fault]) ?_
    rintro ⟨text, same, -⟩
    exact notText text (Option.some.inj same)

/-- Nothing is reported of the kind of edit exactly when it is the word of one. -/
theorem opFaults_eq_nil_iff (op : Option Json) :
    opFaults op = [] ↔ ∃ kind : PatchOp, op = some (wordJson kind) := by
  cases op with
  | none => simp [opFaults, missing, fault]
  | some value =>
    have named : isOp value = true ↔ ∃ kind : PatchOp, value = wordJson kind := by
      cases value with
      | string text =>
        rw [isOp, decide_eq_true_eq]
        constructor
        · intro known
          obtain ⟨kind, found⟩ := (Vocabulary.mem_words_iff text).mp known
          exact ⟨kind, congrArg Json.string (Vocabulary.word_of_ofWord? found).symm⟩
        · rintro ⟨kind, same⟩
          obtain rfl := Json.string.inj same
          exact Vocabulary.word_mem_words kind
      | _ => simp [isOp, wordJson]
    by_cases known : isOp value = true
    · simpa [opFaults, known] using named.mp known
    · simpa [opFaults, known, fault] using mt named.mpr known

/-- Nothing is reported of the arguments exactly when they are an object. -/
theorem argsFaults_eq_nil_iff (args : Option Json) :
    argsFaults args = [] ↔ ∃ members, args = some (.object members) := by
  unfold argsFaults
  split
  · simp [missing, fault]
  · simp
  · rename_i other notObject
    refine iff_of_false (by simp [fault]) ?_
    rintro ⟨members, same⟩
    exact notObject members (Option.some.inj same)

/-- A value passes the check of patches exactly when it is an object that names a target of version
4 and an edit and has an object of arguments. -/
theorem valid_validate_iff (value : Json) :
    (validate value).valid = true ↔ ∃ members text kind args, value = .object members ∧
      members.lookup "targetId" = some (.string text) ∧ NodeId.isVersion4 text = true ∧
      members.lookup "op" = some (wordJson (kind : PatchOp)) ∧
      members.lookup "args" = some (.object args) := by
  cases value with
  | object members =>
    have errors : OnlyErrors (targetFaults (members.lookup "targetId")
        ++ opFaults (members.lookup "op") ++ argsFaults (members.lookup "args")) :=
      List.forall_mem_append.mpr ⟨List.forall_mem_append.mpr ⟨onlyErrors_targetFaults _,
        onlyErrors_opFaults _⟩, onlyErrors_argsFaults _⟩
    rw [validate, valid_ofDiagnostics_iff errors, List.append_eq_nil_iff, List.append_eq_nil_iff,
      targetFaults_eq_nil_iff, opFaults_eq_nil_iff, argsFaults_eq_nil_iff]
    constructor
    · rintro ⟨⟨⟨text, target, version4⟩, kind, op⟩, args, given⟩
      exact ⟨members, text, kind, args, rfl, target, version4, op, given⟩
    · rintro ⟨_, text, kind, args, ⟨⟩, target, version4, op, given⟩
      exact ⟨⟨⟨text, target, version4⟩, kind, op⟩, args, given⟩
  | _ => simp [validate, fault, ValidationResult.ofDiagnostics, Diagnostic.ofError,
      Diagnostic.isError]

/-! ## What is read -/

/-- A value that passes the check of patches is read as a patch with a target of version 4. -/
theorem exists_reader_of_valid {value : Json} (valid : (validate value).valid = true) :
    ∃ patch, reader value = .ok patch ∧ patch.targetId.version.val = 4 := by
  obtain ⟨members, text, kind, args, rfl, target, version4, op, given⟩ :=
    (valid_validate_iff value).mp valid
  simp only [NodeId.isVersion4, Bool.and_eq_true, Option.any_eq_true, beq_iff_eq] at version4
  obtain ⟨-, targetId, parsed, version⟩ := version4
  have targetRead : NodeId.reader (.string text) = .ok targetId := by
    simp [NodeId.reader, Reader.text, bind, Except.bind, parsed]
  have opRead : Reader.word PatchOp .null (wordJson kind) = .ok kind := Reader.word_wordJson kind
  exact ⟨⟨targetId, kind, args⟩, Reader.record_ok ((yields_required target targetRead).map.seq
    (yields_required op opRead) |>.seq (yields_withDefault given rfl)), version⟩

/-- A written patch is read back. -/
theorem reader_toJson (patch : Patch) : reader patch.toJson = .ok patch := by
  have argsRead : Reader.members (.object patch.args) = .ok patch.args := rfl
  exact Reader.record_ok ((yields_required (by simp [Record.keyed])
      (NodeId.reader_toJson patch.targetId)).map.seq
    (yields_required (by simp [Record.keyed]) (Reader.word_wordJson patch.op))
    |>.seq (yields_withDefault (by simp [Record.keyed]) argsRead))

/-- All that can be reported of a written patch is the version of its target. -/
theorem diagnostics_validate_toJson (patch : Patch) :
    (validate patch.toJson).diagnostics = if patch.targetId.version.val = 4 then []
      else [.ofError Diagnostic.patchError
        ("Invalid uuid: '" ++ patch.targetId.print ++ "'") "/targetId"] := by
  have op : opFaults (some (wordJson patch.op)) = [] :=
    (opFaults_eq_nil_iff _).mpr ⟨patch.op, rfl⟩
  by_cases version : patch.targetId.version.val = 4 <;>
    simp [validate, toJson, ValidationResult.ofDiagnostics, NodeId.toJson, targetFaults, op,
      argsFaults, fault, version]

/-- A value passes exactly when no error is reported. -/
theorem valid_validate (value : Json) :
    (validate value).valid = !(validate value).diagnostics.any (·.isError) := by
  cases value <;> rfl

/-- A written patch passes the check exactly when its target is of version 4. -/
theorem valid_validate_toJson_iff (patch : Patch) :
    (validate patch.toJson).valid = true ↔ patch.targetId.version.val = 4 := by
  rw [valid_validate, diagnostics_validate_toJson]
  split <;> simp_all [Diagnostic.ofError, Diagnostic.isError]

/-- Whatever passes the check of patches is read as a patch, which passes once it is written and is
read back as it was. Every patch is read back once it is written, and then passes exactly if its
target is of version 4; the only thing that can be reported of it is said of the target. -/
theorem validate_agrees_reader :
    (∀ value, (validate value).valid = true → ∃ patch, reader value = .ok patch ∧
      (validate patch.toJson).valid = true ∧ reader patch.toJson = .ok patch) ∧
    ∀ patch, reader patch.toJson = .ok patch ∧
      ((validate patch.toJson).valid = true ↔ patch.targetId.version.val = 4) ∧
      (validate patch.toJson).diagnostics = if patch.targetId.version.val = 4 then []
        else [.ofError Diagnostic.patchError
          ("Invalid uuid: '" ++ patch.targetId.print ++ "'") "/targetId"] := by
  refine ⟨fun value valid => ?_, fun patch => ⟨reader_toJson patch,
    valid_validate_toJson_iff patch, diagnostics_validate_toJson patch⟩⟩
  obtain ⟨patch, read, version⟩ := exists_reader_of_valid valid
  exact ⟨patch, read, (valid_validate_toJson_iff patch).mpr version, reader_toJson patch⟩

/-- A patch whose target is spelled with capital letters passes, and is written in small ones. -/
theorem validate_agrees_reader_capitals :
    let value : Json := .object [("args", .object [("key", .string "label")]),
      ("op", .string "setProp"), ("targetId", .string "0B5F9C1E-3C4D-4E8A-9F00-6A1B2C3D4E5F")]
    (validate value).valid = true ∧ ∃ patch, reader value = .ok patch ∧
      (validate patch.toJson).valid = true ∧ reader patch.toJson = .ok patch := by
  intro value
  have valid : (validate value).valid = true := by decide +kernel
  exact ⟨valid, validate_agrees_reader.1 value valid⟩

end Patch
end Formwright
