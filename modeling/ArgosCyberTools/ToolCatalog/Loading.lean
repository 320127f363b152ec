import ArgosCyberTools.Python.Sha256
import ArgosCyberTools.ToolCatalog.Definition

/-!
# Loading the catalog

`load_catalog` checks the integrity manifest when there is one to check,
validates every definition file against the schema and refuses two files
with the same tool name.  YAML and JSON parsing are the libraries' and enter
as parameters.  A YAML document with values outside JSON (dates, binary,
keys that are no strings) counts as unreadable: the schema admits none.
-/

namespace ArgosCyberTools.ToolCatalog

open Python

/-- The parsers of `pyyaml` and `json`, on the bytes of a file. -/
class DocumentParsers where
  /-- `yaml.safe_load(path.read_text(encoding="utf-8"))`. -/
  yamlSafeLoad : List UInt8 → Option Json
  /-- `json.loads(path.read_text(encoding="utf-8"))`. -/
  jsonLoads : List UInt8 → Option JsonObject

/-- The `*.yaml` files of a directory: what their names start with. -/
abbrev Directory := PyDict PyStr (List UInt8)

/-- `path.name`. -/
def fileName (file : PyStr × List UInt8) : PyStr :=
  file.1 ++ ".yaml"

/-- `path.stem`; a name that starts with its last dot has no suffix. -/
def fileStem (file : PyStr × List UInt8) : PyStr :=
  if file.1 = [] then fileName file else file.1

/-- `sorted(directory.glob("*.yaml"))`. -/
def Directory.sortedFiles (directory : Directory) :
    List (PyStr × List UInt8) :=
  directory.entries.insertionSort fun left right =>
    fileName left ≤ fileName right

/-! ## `tool_catalog.signatures` -/

/-- One discrepancy between the manifest and the directory. -/
inductive Mismatch where
  | missingFile (name : PyStr)
  | hashDiffers (name : PyStr)
  | newFile (name : PyStr)
deriving DecidableEq

def Mismatch.text : Mismatch → PyStr
  | .missingFile name =>
      name ++ ": en el manifiesto pero el archivo no existe"
  | .hashDiffers name =>
      name ++ ": hash no coincide (modificado tras firmar el manifiesto)"
  | .newFile name =>
      name ++ ": archivo nuevo sin entrada en el manifiesto"

def buildIntegrityManifest (definitionsDir : Directory) :
    PyDict PyStr PyStr :=
  PyDict.ofList
    (definitionsDir.sortedFiles.map fun file =>
      (fileStem file, sha256Hex file.2))

def verifyIntegrityManifest (definitionsDir : Directory)
    (manifest : JsonObject) : List Mismatch :=
  let current := buildIntegrityManifest definitionsDir
  let fromManifest := manifest.entries.filterMap fun entry =>
    match current.get? entry.1 with
    | none => some (Mismatch.missingFile entry.1)
    | some hash =>
        if entry.2.isStr hash then none else some (.hashDiffers entry.1)
  let fromDirectory := current.keys.filterMap fun name =>
    if manifest.contains name then none else some (Mismatch.newFile name)
  fromManifest ++ fromDirectory

/-! ## `load_definition` and `load_catalog` -/

inductive CatalogError where
  | unreadable
  | invalidToolDefinition (name : PyStr)
  | catalogIntegrity (mismatches : List Mismatch)
  | duplicateName (name : PyStr)
  | builtin (error : BuiltinError)

abbrev Catalog := PyDict PyStr ToolDefinition

variable [PyRuntime] [DocumentParsers]

def loadDefinition (file : PyStr × List UInt8) :
    Except CatalogError ToolDefinition :=
  match DocumentParsers.yamlSafeLoad file.2 with
  | none => .error .unreadable
  | some data =>
      if toolDefinitionSchema.accepts data then
        match data with
        | .dict entries =>
            (ToolDefinition.fromDict entries).mapError .builtin
        | _ => .error (.builtin .typeError)
      else
        .error (.invalidToolDefinition (fileName file))

/-- The loop over the sorted files. -/
def loadDefinitions :
    List (PyStr × List UInt8) → Catalog → Except CatalogError Catalog
  | [], catalog => .ok catalog
  | file :: rest, catalog => do
      let tool ← loadDefinition file
      raiseIf (catalog.contains tool.name) (.duplicateName tool.name)
      loadDefinitions rest (catalog.assign tool.name tool)

/-- What is on disk at the module's own paths. -/
structure ShippedCatalog where
  definitions : Directory
  /-- `signatures/catalog.manifest.json`, when it exists. -/
  manifest : Option (List UInt8)

/-- The manifest file to check: its bytes, if it exists. -/
def effectiveManifest (shipped : ShippedCatalog)
    (definitionsDir : Option Directory)
    (manifestPath : Option (Option (List UInt8))) :
    Option (List UInt8) :=
  match manifestPath with
  | some file => file
  | none => if definitionsDir.isNone then shipped.manifest else none

/-- The integrity check in front of the loop. -/
def checkIntegrity (directory : Directory) (manifest : Option (List UInt8)) :
    Except CatalogError Unit :=
  match manifest with
  | none => .ok ()
  | some file =>
      match DocumentParsers.jsonLoads file with
      | none => .error .unreadable
      | some entries =>
          let mismatches := verifyIntegrityManifest directory entries
          if mismatches = [] then .ok ()
          else .error (.catalogIntegrity mismatches)

/--
`load_catalog`.  An explicit `manifestPath` is given as the file found
there, `none` when it does not exist.
-/
def loadCatalog (shipped : ShippedCatalog)
    (definitionsDir : Option Directory)
    (manifestPath : Option (Option (List UInt8))) :
    Except CatalogError Catalog := do
  let directory := definitionsDir.getD shipped.definitions
  checkIntegrity directory
    (effectiveManifest shipped definitionsDir manifestPath)
  loadDefinitions directory.sortedFiles PyDict.empty

/-! ## What loading guarantees -/

/-- Loading keeps a property of every definition it admits. -/
theorem loadDefinitions_get?_of_step
    (holds : PyStr → ToolDefinition → Prop)
    (admitted : ∀ {file tool},
      loadDefinition file = .ok tool → holds tool.name tool)
    {files : List (PyStr × List UInt8)} {catalog loaded : Catalog}
    (initially : ∀ key tool,
      catalog.get? key = some tool → holds key tool)
    (result : loadDefinitions files catalog = .ok loaded) :
    ∀ key tool, loaded.get? key = some tool → holds key tool := by
  induction files generalizing catalog with
  | nil =>
      cases result
      exact initially
  | cons file rest induction =>
      simp only [loadDefinitions, bind_eq_ok_iff, raiseIf_eq_ok_iff]
        at result
      obtain ⟨tool, read, -, -, remaining⟩ := result
      refine induction ?_ remaining
      intro key other found
      rw [PyDict.get?_assign] at found
      split_ifs at found with same
      · cases found
        exact same ▸ admitted read
      · exact initially key other found

theorem loadCatalog_eq_ok {shipped : ShippedCatalog}
    {definitionsDir : Option Directory}
    {manifestPath : Option (Option (List UInt8))} {catalog : Catalog}
    (result : loadCatalog shipped definitionsDir manifestPath = .ok catalog) :
    loadDefinitions (definitionsDir.getD shipped.definitions).sortedFiles
      PyDict.empty = .ok catalog := by
  simp only [loadCatalog, bind_eq_ok_iff] at result
  obtain ⟨-, -, loaded⟩ := result
  exact loaded

/-- A loaded definition was read from a document the schema accepts. -/
theorem loadDefinition_eq_ok {file : PyStr × List UInt8}
    {tool : ToolDefinition} (result : loadDefinition file = .ok tool) :
    ∃ entries,
      DocumentParsers.yamlSafeLoad file.2 = some (.dict entries) ∧
        toolDefinitionSchema.accepts (.dict entries) = true ∧
        ToolDefinition.fromDict entries = .ok tool := by
  unfold loadDefinition at result
  cases parsed : DocumentParsers.yamlSafeLoad file.2 with
  | none => simp [parsed] at result
  | some data =>
      simp only [parsed] at result
      split_ifs at result with accepted
      cases data with
      | dict entries =>
          refine ⟨entries, rfl, accepted, ?_⟩
          cases read : ToolDefinition.fromDict entries with
          | error error => simp [read, Except.mapError] at result
          | ok definition => simpa [read, Except.mapError] using result
      | null => cases result
      | bool value => cases result
      | int value => cases result
      | float value => cases result
      | str value => cases result
      | list items => cases result

end ArgosCyberTools.ToolCatalog
