import ArgosCyberTools.ToolCatalog.Shipped

/-!
# The integrity of the catalog

`load_catalog` compares the manifest with the hashes of the files and then
reads the files again.  What it returns has one entry for each file.  That
the manifest vouches for those files fails in two ways: there is no manifest
to compare with, or a file has the stem of another, whose hash stands in the
manifest for both.
-/

namespace ArgosCyberTools.ToolCatalog

open Python

/-! ## The manifest -/

/-- The manifest names the stems of the files, with the hashes of all. -/
structure Matches (directory : Directory) (manifest : JsonObject) : Prop where
  covered : ∀ file ∈ directory.entries,
    manifest.get? (fileStem file) = some (.str (sha256Hex file.2))
  backed : ∀ name expected, manifest.get? name = some expected →
    ∃ file ∈ directory.entries, fileStem file = name ∧
      expected = .str (sha256Hex file.2)

/-- Two files of one stem and different hashes. -/
def Shadowed (directory : Directory) : Prop :=
  ∃ file ∈ directory.entries, ∃ other ∈ directory.entries,
    fileStem file = fileStem other ∧
      sha256Hex file.2 ≠ sha256Hex other.2

section Manifest

variable {directory : Directory} {manifest : JsonObject}

theorem mem_of_buildIntegrityManifest {name hash : PyStr}
    (held :
      (buildIntegrityManifest directory).get? name = some hash) :
    ∃ file ∈ directory.entries, fileStem file = name ∧
      sha256Hex file.2 = hash := by
  have member := PyDict.mem_of_get?_ofList held
  obtain ⟨file, isFile, same⟩ := List.mem_map.mp member
  cases same
  exact ⟨file, (List.mem_insertionSort _).mp isFile, rfl, rfl⟩

theorem exists_buildIntegrityManifest {file : PyStr × List UInt8}
    (member : file ∈ directory.entries) :
    ∃ hash,
      (buildIntegrityManifest directory).get? (fileStem file) =
        some hash := by
  have sorted : file ∈ directory.sortedFiles :=
    (List.mem_insertionSort _).mpr member
  exact PyDict.exists_get?_ofList (List.mem_map_of_mem sorted)

/-- No discrepancy is found when the two dictionaries agree. -/
theorem verifyIntegrityManifest_eq_nil_iff :
    verifyIntegrityManifest directory manifest = [] ↔
      (∀ name expected, manifest.get? name = some expected →
        ∃ hash, (buildIntegrityManifest directory).get? name = some hash ∧
          expected = .str hash) ∧
      (∀ name hash,
        (buildIntegrityManifest directory).get? name = some hash →
          ∃ expected, manifest.get? name = some expected) := by
  simp only [verifyIntegrityManifest, List.append_eq_nil_iff,
    List.filterMap_eq_nil_iff]
  refine and_congr ?_ ?_
  · constructor
    · intro quiet name expected held
      have silent := quiet (name, expected)
        ((PyDict.get?_eq_some_iff manifest).mp held)
      cases current : (buildIntegrityManifest directory).get? name with
      | none => simp [current] at silent
      | some hash =>
          refine ⟨hash, rfl, ?_⟩
          simpa [current] using silent
    · rintro agrees ⟨name, expected⟩ member
      obtain ⟨hash, current, rfl⟩ := agrees name expected
        ((PyDict.get?_eq_some_iff manifest).mpr member)
      simp [current]
  · constructor
    · intro quiet name hash current
      have silent := quiet name
        ((PyDict.mem_keys_iff _ _).mpr ⟨hash, current⟩)
      cases held : manifest.get? name with
      | none => simp [PyDict.contains, held] at silent
      | some expected => exact ⟨expected, rfl⟩
    · intro named name member
      obtain ⟨hash, current⟩ := (PyDict.mem_keys_iff _ _).mp member
      obtain ⟨expected, held⟩ := named name hash current
      simp [PyDict.contains, held]

/-- Without shadowed files the comparison speaks of every file. -/
theorem matches_of_verified
    (verified : verifyIntegrityManifest directory manifest = [])
    (plain : ¬ Shadowed directory) : Matches directory manifest := by
  obtain ⟨agrees, named⟩ := verifyIntegrityManifest_eq_nil_iff.mp verified
  constructor
  · intro file isFile
    obtain ⟨hash, current⟩ := exists_buildIntegrityManifest isFile
    obtain ⟨expected, held⟩ := named _ _ current
    obtain ⟨same, alsoCurrent, rfl⟩ := agrees _ _ held
    obtain ⟨other, isOther, stem, hashed⟩ :=
      mem_of_buildIntegrityManifest alsoCurrent
    have equal : sha256Hex file.2 = sha256Hex other.2 := by
      by_contra different
      exact plain ⟨file, isFile, other, isOther, stem.symm, different⟩
    rw [held, equal, hashed]
  · intro name expected held
    obtain ⟨hash, current, rfl⟩ := agrees name expected held
    obtain ⟨file, isFile, stem, rfl⟩ :=
      mem_of_buildIntegrityManifest current
    exact ⟨file, isFile, stem, rfl⟩

/-- A manifest that covers every file leaves none in the shadow. -/
theorem Matches.plain (vouched : Matches directory manifest) :
    ¬ Shadowed directory := by
  rintro ⟨file, isFile, other, isOther, stem, different⟩
  have covered := vouched.covered file isFile
  rw [stem, vouched.covered other isOther] at covered
  simp only [Option.some.injEq, Json.str.injEq] at covered
  exact different covered.symm

end Manifest

/-! ## The loop over the files -/

section Loading

variable [PyRuntime] [DocumentParsers]

/-- A definition read from a document that the schema accepts. -/
def Validated (file : PyStr × List UInt8) (tool : ToolDefinition) : Prop :=
  ∃ document,
    DocumentParsers.yamlSafeLoad file.2 = some (.dict document) ∧
      toolDefinitionSchema.accepts (.dict document) = true ∧
      ToolDefinition.fromDict document = .ok tool

theorem loadDefinition_eq_ok_iff {file : PyStr × List UInt8}
    {tool : ToolDefinition} :
    loadDefinition file = .ok tool ↔ Validated file tool := by
  constructor
  · exact loadDefinition_eq_ok
  · rintro ⟨document, parsed, accepted, decoded⟩
    simp [loadDefinition, parsed, accepted, decoded, Except.mapError]

/-- The entry a definition is filed as. -/
def filed (tool : ToolDefinition) : PyStr × ToolDefinition :=
  (tool.name, tool)

/-- The loop adds one entry for each file, in their order. -/
theorem loadDefinitions_eq_ok_iff {files : List (PyStr × List UInt8)}
    {catalog loaded : Catalog} :
    loadDefinitions files catalog = .ok loaded ↔
      ∃ tools, List.Forall₂ Validated files tools ∧
        loaded.entries = catalog.entries ++ tools.map filed := by
  induction files generalizing catalog with
  | nil =>
      simp only [loadDefinitions, Except.ok.injEq, List.forall₂_nil_left_iff,
        exists_eq_left, List.map_nil, List.append_nil]
      exact ⟨fun same => by rw [same],
        fun same => PyDict.ext_entries same.symm⟩
  | cons file rest induction =>
      simp only [loadDefinitions, bind_eq_ok_iff, raiseIf_eq_ok_iff,
        loadDefinition_eq_ok_iff, induction]
      constructor
      · rintro ⟨tool, valid, -, new, tools, others, entries⟩
        have absent : tool.name ∉ catalog.entries.map Prod.fst := by
          rw [← PyDict.lookupIn_eq_none_iff]
          simpa [PyDict.contains, PyDict.get?] using new
        have assigned : (catalog.assign tool.name tool).entries =
            catalog.entries ++ [filed tool] :=
          PyDict.assignIn_of_new absent
        refine ⟨tool :: tools, .cons valid others, ?_⟩
        rw [entries, assigned, List.append_assoc]
        rfl
      · rintro ⟨_, files, entries⟩
        cases files with
        | @cons _ tool _ tools valid others =>
            have absent : tool.name ∉ catalog.entries.map Prod.fst := by
              have unique := loaded.unique
              rw [entries, List.map_append, List.nodup_append] at unique
              intro member
              exact unique.2.2 _ member _ (List.mem_cons_self ..) rfl
            have assigned : (catalog.assign tool.name tool).entries =
                catalog.entries ++ [filed tool] :=
              PyDict.assignIn_of_new absent
            have new : catalog.contains tool.name = false := by
              rw [← PyDict.lookupIn_eq_none_iff] at absent
              simp [PyDict.contains, PyDict.get?, absent]
            refine ⟨tool, valid, (), new, tools, others, ?_⟩
            rw [entries, assigned, List.append_assoc]
            rfl

/-- Every file holds a valid definition, and their names differ. -/
def Loadable (directory : Directory) : Prop :=
  ∃ tools, List.Forall₂ Validated directory.sortedFiles tools ∧
    (tools.map ToolDefinition.name).Nodup

theorem exists_loadDefinitions_iff {directory : Directory} :
    (∃ catalog,
      loadDefinitions directory.sortedFiles PyDict.empty = .ok catalog) ↔
      Loadable directory := by
  have names (tools : List ToolDefinition) :
      (tools.map filed).map Prod.fst = tools.map ToolDefinition.name := by
    rw [List.map_map]
    rfl
  simp only [loadDefinitions_eq_ok_iff]
  constructor
  · rintro ⟨catalog, tools, valid, entries⟩
    have unique := catalog.unique
    rw [entries, PyDict.empty, List.nil_append, names] at unique
    exact ⟨tools, valid, unique⟩
  · rintro ⟨tools, valid, distinct⟩
    rw [← names] at distinct
    exact ⟨⟨tools.map filed, distinct⟩, tools, valid, rfl⟩

/-! ## The check in front of the loop -/

omit [PyRuntime] in
theorem checkIntegrity_eq_ok_iff {directory : Directory}
    {manifest : Option (List UInt8)} :
    checkIntegrity directory manifest = .ok () ↔
      ∀ file, manifest = some file →
        ∃ entries, DocumentParsers.jsonLoads file = some entries ∧
          verifyIntegrityManifest directory entries = [] := by
  cases manifest with
  | none => simp [checkIntegrity]
  | some file =>
      cases parsed : DocumentParsers.jsonLoads file with
      | none => simp [checkIntegrity, parsed]
      | some entries => simp [checkIntegrity, parsed]

/-- What a returned catalog is promised to be. -/
structure IntegrityKept (directory : Directory)
    (manifest : Option (List UInt8)) (catalog : Catalog) : Prop where
  vouched : ∃ file entries, manifest = some file ∧
    DocumentParsers.jsonLoads file = some entries ∧
    Matches directory entries
  oneEntryPerFile : ∃ tools,
    List.Forall₂ Validated directory.sortedFiles tools ∧
      catalog.entries = tools.map filed

/-- Loading with this manifest file, or without one, keeps the promise. -/
def KeepsIntegrity (shipped : ShippedCatalog)
    (definitionsDir : Option Directory)
    (manifestPath : Option (Option (List UInt8))) : Prop :=
  ∀ catalog, loadCatalog shipped definitionsDir manifestPath = .ok catalog →
    IntegrityKept (definitionsDir.getD shipped.definitions)
      (effectiveManifest shipped definitionsDir manifestPath) catalog

/--
There is a manifest file, and unless it cannot be read or disagrees with the
hashes, no file stands in the shadow of another; or the definitions cannot
be loaded at all.
-/
def Enforced (directory : Directory) (manifest : Option (List UInt8)) :
    Prop :=
  (∃ file, manifest = some file ∧
    ∀ entries, DocumentParsers.jsonLoads file = some entries →
      verifyIntegrityManifest directory entries = [] →
        ¬ Shadowed directory) ∨
    ¬ Loadable directory

theorem loadCatalog_eq_ok_iff {shipped : ShippedCatalog}
    {definitionsDir : Option Directory}
    {manifestPath : Option (Option (List UInt8))} {catalog : Catalog} :
    loadCatalog shipped definitionsDir manifestPath = .ok catalog ↔
      checkIntegrity (definitionsDir.getD shipped.definitions)
          (effectiveManifest shipped definitionsDir manifestPath) =
        .ok () ∧
      loadDefinitions
          (definitionsDir.getD shipped.definitions).sortedFiles
          PyDict.empty = .ok catalog := by
  simp only [loadCatalog, bind_eq_ok_iff]
  constructor
  · rintro ⟨_, checked, loaded⟩
    exact ⟨checked, loaded⟩
  · rintro ⟨checked, loaded⟩
    exact ⟨(), checked, loaded⟩

theorem keepsIntegrity_iff (shipped : ShippedCatalog)
    (definitionsDir : Option Directory)
    (manifestPath : Option (Option (List UInt8))) :
    KeepsIntegrity shipped definitionsDir manifestPath ↔
      Enforced (definitionsDir.getD shipped.definitions)
        (effectiveManifest shipped definitionsDir manifestPath) := by
  unfold KeepsIntegrity
  simp only [loadCatalog_eq_ok_iff]
  generalize definitionsDir.getD shipped.definitions = directory
  generalize effectiveManifest shipped definitionsDir manifestPath = manifest
  constructor
  · intro keeps
    by_cases loadable : Loadable directory
    · left
      obtain ⟨catalog, loaded⟩ := exists_loadDefinitions_iff.mpr loadable
      cases manifest with
      | none =>
          obtain ⟨file, _, isFile, -⟩ :=
            (keeps catalog ⟨rfl, loaded⟩).vouched
          cases isFile
      | some file =>
          refine ⟨file, rfl, fun entries parsed verified => ?_⟩
          have checked :
              checkIntegrity directory (some file) = .ok () := by
            rw [checkIntegrity_eq_ok_iff]
            rintro _ ⟨⟩
            exact ⟨entries, parsed, verified⟩
          obtain ⟨_, others, isFile, alsoParsed, vouched⟩ :=
            (keeps catalog ⟨checked, loaded⟩).vouched
          cases isFile
          cases parsed.symm.trans alsoParsed
          exact vouched.plain
    · exact .inr loadable
  · rintro enforced catalog ⟨checked, loaded⟩
    obtain ⟨tools, valid, entries⟩ := loadDefinitions_eq_ok_iff.mp loaded
    rcases enforced with ⟨file, rfl, plain⟩ | unloadable
    · obtain ⟨manifest, parsed, verified⟩ :=
        checkIntegrity_eq_ok_iff.mp checked file rfl
      constructor
      · exact ⟨file, manifest, rfl, parsed,
          matches_of_verified verified (plain manifest parsed verified)⟩
      · exact ⟨tools, valid, entries⟩
    · exact (unloadable (exists_loadDefinitions_iff.mp ⟨catalog, loaded⟩)).elim

/--
With the default arguments, and with every explicit manifest path, the
promise is kept exactly when the check is enforced.
-/
theorem integrity_kept_iff (shipped : ShippedCatalog) :
    (KeepsIntegrity shipped none none ↔
      Enforced shipped.definitions shipped.manifest) ∧
    (∀ (definitionsDir : Option Directory) (file : Option (List UInt8)),
      KeepsIntegrity shipped definitionsDir (some file) ↔
        Enforced (definitionsDir.getD shipped.definitions) file) := by
  constructor
  · exact keepsIntegrity_iff shipped none none
  · intro definitionsDir file
    exact keepsIntegrity_iff shipped definitionsDir (some file)

end Loading

section Example

attribute [local instance] Reference.runtime isolateParsers

/-- Without its manifest file the default catalog loads all the same. -/
theorem integrity_bypassed :
    ∃ shipped : ShippedCatalog,
      shipped.manifest = none ∧
        ∃ catalog, loadCatalog shipped none none = .ok catalog ∧
          catalog.get? "isolate_kubernetes_workload" =
            some isolateKubernetesWorkloadTool ∧
          ¬ IntegrityKept shipped.definitions shipped.manifest catalog := by
  obtain ⟨catalog, loaded, found⟩ := isolateDirectory_loads
  have files : loadDefinitions isolateDirectory.sortedFiles PyDict.empty =
      .ok catalog := loadCatalog_eq_ok loaded
  have shippedLoads :
      loadCatalog ⟨isolateDirectory, none⟩ none none = .ok catalog :=
    loadCatalog_eq_ok_iff.mpr ⟨rfl, files⟩
  refine ⟨⟨isolateDirectory, none⟩, rfl, catalog, shippedLoads, found, ?_⟩
  intro kept
  obtain ⟨file, _, isFile, -⟩ := kept.vouched
  cases isFile

end Example

end ArgosCyberTools.ToolCatalog
