import ArgosCyberTools.ToolCatalog.Integrity
import ArgosCyberTools.ToolCatalog.LedgerDocument

/-!
# Signing the catalog

`write_integrity_manifest` records the hashes of a definitions directory in
a JSON file, and `load_catalog` reads it back before it loads a directory.
The two agree: a directory passes under the manifest of another exactly when
the two have the same hashes, and the error names what differs.  So a
regenerated manifest vouches for any directory, an outdated one too; the
version ledger is what refuses that one.
-/

namespace ArgosCyberTools.ToolCatalog

open Python Transition

/-- `yaml.safe_load(path.read_text(encoding="utf-8"))`. -/
class YamlLoader where
  yamlSafeLoad : List UInt8 → Option Json

/-- The JSON object in a file. -/
def jsonObjectIn [FloatReader] (bytes : List UInt8) : Option JsonObject :=
  match readJsonFile bytes with
  | some (.dict entries) => some (PyDict.ofList entries)
  | _ => none

/-- The parsers, with the standard library's for JSON. -/
@[reducible]
def documentParsers [YamlLoader] [FloatReader] : DocumentParsers where
  yamlSafeLoad := YamlLoader.yamlSafeLoad
  jsonLoads := jsonObjectIn

/-- `write_integrity_manifest`: the file it leaves. -/
def writeIntegrityManifest [PyRuntime] (definitionsDir : Directory) :
    Except BuiltinError (List UInt8) :=
  writeJsonFile (.dict (buildIntegrityManifest definitionsDir).toJson.entries)

/-- The names of the files can be written as text. -/
def Directory.IsScalar (directory : Directory) : Prop :=
  ∀ file ∈ directory.entries, SurrogateFree (fileStem file)

/-- How two directories of hashes differ. -/
def Differs (signed deployed : PyDict PyStr PyStr) : Mismatch → Prop
  | .missingFile name =>
      name ∈ signed.keys ∧ name ∉ deployed.keys
  | .hashDiffers name =>
      ∃ hash other, signed.get? name = some hash ∧
        deployed.get? name = some other ∧ hash ≠ other
  | .newFile name =>
      name ∈ deployed.keys ∧ name ∉ signed.keys

section Manifest

variable {signed deployed : Directory}

theorem isScalar_buildIntegrityManifest (scalar : signed.IsScalar) :
    (buildIntegrityManifest signed).IsScalar := by
  intro name hash held
  obtain ⟨file, member, rfl, rfl⟩ := mem_of_buildIntegrityManifest held
  exact ⟨scalar file member, surrogateFree_hexdigest _⟩

variable [PyRuntime] [FloatReader]

/-- The manifest is read back, in the order of the names. -/
theorem jsonObjectIn_writeIntegrityManifest (scalar : signed.IsScalar)
    {bytes : List UInt8}
    (written : writeIntegrityManifest signed = .ok bytes) :
    jsonObjectIn bytes =
      some ((buildIntegrityManifest signed).sortedBy (· ≤ ·)).toJson := by
  have portable := (isScalar_buildIntegrityManifest scalar).portable
  rw [jsonObjectIn, portable.readJsonFile_eq written, PyDict.ordered_toJson]
  exact congrArg some (PyDict.ext_entries (PyDict.entries_ofList (PyDict.unique _)))

omit [PyRuntime] [FloatReader] in
/-- The discrepancies found are the differences between the directories. -/
theorem mem_verifyIntegrityManifest_iff {manifest : PyDict PyStr PyStr}
    {mismatch : Mismatch} :
    mismatch ∈ verifyIntegrityManifest deployed manifest.toJson ↔
      Differs manifest (buildIntegrityManifest deployed) mismatch := by
  have recorded (name : PyStr) :
      manifest.toJson.contains name = true ↔ name ∈ manifest.keys := by
    rw [PyDict.contains, PyDict.get?_toJson, PyDict.mem_keys_iff]
    cases manifest.get? name <;> simp
  simp only [verifyIntegrityManifest, List.mem_append, List.mem_filterMap]
  constructor
  · rintro (⟨entry, member, found⟩ | ⟨name, member, found⟩)
    · obtain ⟨⟨name, hash⟩, source, rfl⟩ := List.mem_map.mp member
      have held := PyDict.lookupIn_of_mem manifest.unique source
      cases current : (buildIntegrityManifest deployed).get? name with
      | none =>
          simp only [current, Option.some.injEq] at found
          subst found
          refine ⟨(PyDict.mem_keys_iff _ _).mpr ⟨hash, held⟩, fun present => ?_⟩
          obtain ⟨other, isOther⟩ := (PyDict.mem_keys_iff _ _).mp present
          rw [current] at isOther
          cases isOther
      | some other =>
          simp only [current] at found
          split_ifs at found with same
          cases found
          refine ⟨hash, other, held, current, ?_⟩
          rintro rfl
          exact same (decide_eq_true rfl)
    · split_ifs at found with named
      cases found
      exact ⟨member, fun present => named ((recorded name).mpr present)⟩
  · intro differs
    cases mismatch with
    | missingFile name =>
        obtain ⟨present, absent⟩ := differs
        obtain ⟨hash, held⟩ := (PyDict.mem_keys_iff _ _).mp present
        refine .inl ⟨(name, .str hash), ?_, ?_⟩
        · exact List.mem_map.mpr ⟨(name, hash), PyDict.mem_of_lookupIn held, rfl⟩
        · have none : (buildIntegrityManifest deployed).get? name = none :=
            (PyDict.lookupIn_eq_none_iff _ _).mpr absent
          simp only [none]
    | hashDiffers name =>
        obtain ⟨hash, other, held, current, different⟩ := differs
        refine .inl ⟨(name, .str hash), ?_, ?_⟩
        · exact List.mem_map.mpr ⟨(name, hash), PyDict.mem_of_lookupIn held, rfl⟩
        · simp [current, Json.isStr, different]
    | newFile name =>
        obtain ⟨present, absent⟩ := differs
        refine .inr ⟨name, present, ?_⟩
        rw [if_neg (fun named => absent ((recorded name).mp named))]

/-! ## Loading under a signed manifest -/

section Loading

variable [YamlLoader]

attribute [local instance] documentParsers

omit [PyRuntime] [FloatReader] [YamlLoader] in
/-- The order of the manifest does not matter. -/
theorem differs_sortedBy {manifest current : PyDict PyStr PyStr}
    {mismatch : Mismatch} :
    Differs (manifest.sortedBy (· ≤ ·)) current mismatch ↔
      Differs manifest current mismatch := by
  cases mismatch <;>
    simp only [Differs, PyDict.mem_keys_iff, PyDict.get?_sortedBy]

omit [PyRuntime] [FloatReader] [YamlLoader] in
/-- A directory does not differ from itself. -/
theorem verifyIntegrityManifest_self (directory : Directory) :
    verifyIntegrityManifest directory
      ((buildIntegrityManifest directory).sortedBy (· ≤ ·)).toJson = [] := by
  refine List.eq_nil_iff_forall_not_mem.mpr fun mismatch member => ?_
  rw [mem_verifyIntegrityManifest_iff, differs_sortedBy] at member
  cases mismatch with
  | missingFile name => exact member.2 member.1
  | hashDiffers name =>
      obtain ⟨hash, other, held, current, different⟩ := member
      exact different (Option.some.inj (held.symm.trans current))
  | newFile name => exact member.2 member.1

theorem loadCatalog_signed (shipped : ShippedCatalog)
    (scalar : signed.IsScalar) {bytes : List UInt8}
    (written : writeIntegrityManifest signed = .ok bytes) :
    loadCatalog shipped (some deployed) (some (some bytes)) =
      if verifyIntegrityManifest deployed
          ((buildIntegrityManifest signed).sortedBy (· ≤ ·)).toJson = [] then
        loadCatalog shipped (some deployed) none
      else .error (.catalogIntegrity (verifyIntegrityManifest deployed
        ((buildIntegrityManifest signed).sortedBy (· ≤ ·)).toJson)) := by
  have read : DocumentParsers.jsonLoads bytes =
      some ((buildIntegrityManifest signed).sortedBy (· ≤ ·)).toJson :=
    jsonObjectIn_writeIntegrityManifest scalar written
  have underManifest :
      effectiveManifest shipped (some deployed) (some (some bytes)) =
        some bytes :=
    rfl
  have withoutManifest :
      effectiveManifest shipped (some deployed) none = none :=
    rfl
  rw [loadCatalog, loadCatalog, underManifest, withoutManifest,
    checkIntegrity, checkIntegrity]
  simp only [read, Option.getD_some]
  split_ifs with agrees
  · rfl
  · rfl

/--
Under the manifest of a signed directory another is loaded as without one
when no hash differs; otherwise the error lists what differs.
-/
theorem signed_directory_enforced (shipped : ShippedCatalog)
    (scalar : signed.IsScalar) {bytes : List UInt8}
    (written : writeIntegrityManifest signed = .ok bytes) :
    ∃ mismatches : List Mismatch,
      (∀ mismatch, mismatch ∈ mismatches ↔
        Differs (buildIntegrityManifest signed)
          (buildIntegrityManifest deployed) mismatch) ∧
      loadCatalog shipped (some deployed) (some (some bytes)) =
        if mismatches = [] then loadCatalog shipped (some deployed) none
        else .error (.catalogIntegrity mismatches) := by
  refine ⟨_, fun mismatch => ?_, loadCatalog_signed shipped scalar written⟩
  rw [mem_verifyIntegrityManifest_iff, differs_sortedBy]

end Loading

end Manifest

section Example

/-- The YAML parser for a directory in which this is the only file. -/
@[reducible]
def isolateLoader : YamlLoader := ⟨fun _ => some (.dict isolateDocument)⟩

attribute [local instance] Reference.runtime noFloats isolateLoader
  documentParsers

/-- The directory passes under its own manifest, an empty one does not. -/
theorem signed_directory_enforced_of_one :
    ∃ bytes, writeIntegrityManifest isolateDirectory = .ok bytes ∧
      (∃ catalog, loadCatalog emptyShipment (some isolateDirectory)
          (some (some bytes)) = .ok catalog ∧
        catalog.get? "isolate_kubernetes_workload" =
          some isolateKubernetesWorkloadTool) ∧
      ∃ mismatches, loadCatalog emptyShipment (some PyDict.empty)
          (some (some bytes)) = .error (.catalogIntegrity mismatches) ∧
        .missingFile "isolate_kubernetes_workload" ∈ mismatches := by
  have scalar : isolateDirectory.IsScalar := by
    intro file member
    cases List.mem_singleton.mp member
    exact surrogateFree_ofString _
  have portable := (isScalar_buildIntegrityManifest scalar).portable
  have written := writeJsonFile_eq portable
  refine ⟨_, written, ?_, ?_⟩
  · obtain ⟨mismatches, differ, loaded⟩ :=
      @signed_directory_enforced _ isolateDirectory _ _ _ emptyShipment
        scalar _ written
    have agrees : mismatches = [] := by
      refine List.eq_nil_iff_forall_not_mem.mpr fun mismatch member => ?_
      have differs := (differ mismatch).mp member
      cases mismatch with
      | missingFile name => exact differs.2 differs.1
      | hashDiffers name =>
          obtain ⟨hash, other, held, current, different⟩ := differs
          exact different (Option.some.inj (held.symm.trans current))
      | newFile name => exact differs.2 differs.1
    rw [loaded, if_pos agrees]
    apply exists_ok_of_test
    decide +kernel
  · obtain ⟨mismatches, differ, loaded⟩ :=
      @signed_directory_enforced _ PyDict.empty _ _ _ emptyShipment
        scalar _ written
    have missing : Mismatch.missingFile "isolate_kubernetes_workload" ∈
        mismatches := by
      refine (differ _).mpr ⟨?_, List.not_mem_nil⟩
      exact List.mem_singleton.mpr rfl
    refine ⟨mismatches, ?_, missing⟩
    rw [loaded, if_neg (List.ne_nil_of_mem missing)]

end Example

end ArgosCyberTools.ToolCatalog
