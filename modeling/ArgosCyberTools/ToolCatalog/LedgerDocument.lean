import ArgosCyberTools.Python.JsonFile
import ArgosCyberTools.ToolCatalog.LedgerHistory

/-!
# The ledger as a file

Between two runs of `check --update` the ledger is a UTF-8 file with a JSON
object.  A file need not be one the program wrote: what it holds is read with
`json.loads`, and a recorded version may be any JSON value.  Starting from no
file, the runs write the files of the ledgers they are modelled by, byte for
byte, and read them back.
-/

namespace ArgosCyberTools.ToolCatalog

open Python Transition

/-- The bytes of the ledger file, when it exists. -/
abbrev LedgerBytes := Option (List UInt8)

/-- The exceptions of a check against a file. -/
inductive LedgerFileError where
  | check (error : LedgerError)
  /-- `UnicodeDecodeError` or `JSONDecodeError`. -/
  | unreadable
  /-- `dict(ledger)` of a document that is no object. -/
  | notAnObject
  /-- `recorded.split` of a recorded value that is no string. -/
  | attributeError
  | builtin (error : BuiltinError)

structure DocumentCheckResult where
  downgrades : List PyStr
  updatedLedger : JsonObject

def DocumentCheckResult.isOk (result : DocumentCheckResult) : Bool :=
  result.downgrades.isEmpty

section File

variable [PyNumerals] [FloatReader]

omit [PyNumerals] in
/-- `load_ledger`. -/
def loadLedgerBytes (file : LedgerBytes) : Except LedgerFileError Json :=
  match file with
  | none => .ok (.dict [])
  | some bytes =>
      match readJsonFile bytes with
      | none => .error .unreadable
      | some document => .ok document

omit [FloatReader] in
/-- `write_ledger`. -/
def writeLedgerBytes (ledger : JsonObject) :
    PyM LedgerBytes LedgerFileError Unit := do
  let bytes ← PyM.ofExcept
    ((writeJsonFile (.dict ledger.entries)).mapError .builtin)
  PyM.set (some bytes)

/--
`dict(ledger)`.  A list of pairs is left out: it counts as no object unless
it is empty.
-/
def dictOf (document : Json) : Except LedgerFileError JsonObject :=
  match document with
  | .dict entries => .ok (PyDict.ofList entries)
  | .list [] => .ok PyDict.empty
  | .str [] => .ok PyDict.empty
  | _ => .error .notAnObject

omit [FloatReader] in
/-- `_version_tuple` of a recorded value. -/
def recordedTuple (recorded : Json) : Except LedgerFileError VersionTuple :=
  match recorded with
  | .str version => (versionTuple version).mapError .check
  | _ => .error .attributeError

omit [FloatReader] in
/-- One turn of the loop; a recorded `null` counts as no record. -/
def checkToolDocument (result : DocumentCheckResult) (name version : PyStr) :
    Except LedgerFileError DocumentCheckResult :=
  match result.updatedLedger.get? name with
  | none | some .null =>
      .ok { result with
        updatedLedger := result.updatedLedger.assign name (.str version) }
  | some recorded => do
      let current ← (versionTuple version).mapError LedgerFileError.check
      let highest ← recordedTuple recorded
      if current < highest then
        return { result with
          downgrades := result.downgrades ++
            [downgradeText name version recorded.toStr] }
      else if highest < current then
        return { result with
          updatedLedger := result.updatedLedger.assign name (.str version) }
      else return result

omit [FloatReader] in
/-- The loop over `catalog.items()`. -/
def checkToolsDocument :
    List (PyStr × ToolDefinition) → DocumentCheckResult →
      Except LedgerFileError DocumentCheckResult
  | [], result => .ok result
  | (name, tool) :: rest, result => do
      let next ← checkToolDocument result name tool.version
      checkToolsDocument rest next

omit [FloatReader] in
/-- `main` once the check has returned. -/
def reportBytes (update : Bool) (result : DocumentCheckResult) :
    PyM LedgerBytes LedgerFileError LedgerReport :=
  let found := result.downgrades.map fun downgrade =>
    ("DOWNGRADE: " : PyStr) ++ downgrade
  if result.isOk then do
    if update then writeLedgerBytes result.updatedLedger
    return ⟨found ++ [PyStr.ofString "version_ledger OK"], 0⟩
  else return ⟨found, 1⟩

/-- `main` once the catalog is loaded, on the file itself. -/
def checkCatalogBytes (update : Bool) (catalog : Catalog) :
    PyM LedgerBytes LedgerFileError LedgerReport := do
  let file ← PyM.get
  let document ← PyM.ofExcept (loadLedgerBytes file)
  let ledger ← PyM.ofExcept (dictOf document)
  let result ← PyM.ofExcept (checkToolsDocument catalog.entries ⟨[], ledger⟩)
  reportBytes update result

/-- One run of `check --update` on the file. -/
def checkUpdateBytes (catalog : Catalog) (file : LedgerBytes) :
    Except LedgerFileError LedgerReport × LedgerBytes :=
  checkCatalogBytes true catalog file

/-! ## The file of a ledger -/

omit [FloatReader] in
/-- The file a ledger is written to. -/
def bytesOf (ledger : Ledger) : List UInt8 :=
  (jsonFileText (.dict ledger.toJson.entries)).flatMap utf8Bytes

omit [FloatReader] in
theorem writeLedgerBytes_toJson {ledger : Ledger} (scalar : ledger.IsScalar)
    (file : LedgerBytes) :
    writeLedgerBytes ledger.toJson file =
      (.ok (), some (bytesOf ledger)) := by
  rw [writeLedgerBytes, writeJsonFile_eq scalar.portable]
  rfl

omit [FloatReader] in
/-- The file does not show the order of the entries. -/
theorem bytesOf_sortedBy (ledger : Ledger) :
    bytesOf (ledger.sortedBy (· ≤ ·)) = bytesOf ledger := by
  rw [bytesOf, PyDict.jsonFileText_sortedBy, bytesOf]

/-- The file is read back as the ledger, in the order of the names. -/
theorem loadLedgerBytes_bytesOf {ledger : Ledger} (scalar : ledger.IsScalar) :
    loadLedgerBytes (some (bytesOf ledger)) =
      .ok (.dict (ledger.sortedBy (· ≤ ·)).toJson.entries) := by
  have written := writeJsonFile_eq scalar.portable
  rw [loadLedgerBytes, bytesOf, scalar.portable.readJsonFile_eq written,
    PyDict.ordered_toJson]

/-! ## The loop on a document -/

/-- A result on texts, as a result on JSON values. -/
def VersionCheckResult.toDocument (result : VersionCheckResult) :
    DocumentCheckResult :=
  ⟨result.downgrades, result.updatedLedger.toJson⟩

omit [FloatReader] in
theorem checkToolDocument_toDocument (result : VersionCheckResult)
    (name version : PyStr) :
    checkToolDocument result.toDocument name version =
      ((checkTool result name version).map (·.toDocument)).mapError
        .check := by
  unfold checkToolDocument checkTool
  simp only [VersionCheckResult.toDocument, PyDict.get?_toJson]
  cases result.updatedLedger.get? name with
  | none =>
      simp [Except.map, Except.mapError, PyDict.toJson_assign]
  | some recorded =>
      simp only [Option.map_some, recordedTuple]
      cases versionTuple version with
      | error error => rfl
      | ok current =>
          cases versionTuple recorded with
          | error error => rfl
          | ok highest =>
              simp only [Except.mapError, bind, Except.bind]
              split_ifs
              · rfl
              · simp [Except.map, pure, Except.pure, PyDict.toJson_assign]
              · rfl

omit [FloatReader] in
theorem checkToolsDocument_toDocument (entries : List (PyStr × ToolDefinition))
    (result : VersionCheckResult) :
    checkToolsDocument entries result.toDocument =
      ((checkTools entries result).map (·.toDocument)).mapError .check := by
  induction entries generalizing result with
  | nil => rfl
  | cons entry rest induction =>
      obtain ⟨name, tool⟩ := entry
      rw [checkToolsDocument, checkTools, checkToolDocument_toDocument]
      cases checkTool result name tool.version with
      | error error => rfl
      | ok next => exact induction next

/-! ## Runs -/

omit [PyNumerals] in
/-- The file holds this ledger: `dict(load_ledger(path))`. -/
def Holds (file : LedgerBytes) (ledger : Ledger) : Prop :=
  (loadLedgerBytes file).bind dictOf = .ok ledger.toJson

omit [PyNumerals] [FloatReader] in
/-- Names and versions without lone surrogates. -/
def Catalog.IsScalar (catalog : Catalog) : Prop :=
  ∀ name tool, catalog.get? name = some tool →
    SurrogateFree name ∧ SurrogateFree tool.version

omit [PyNumerals] in
theorem holds_none : Holds none PyDict.empty := rfl

omit [PyNumerals] [FloatReader] in
theorem dictOf_toJson (ledger : Ledger) :
    dictOf (.dict ledger.toJson.entries) = .ok ledger.toJson := by
  have same := PyDict.entries_ofList ledger.toJson.unique
  rw [dictOf, PyDict.ext_entries same]

/-- What a clean run writes holds what it wrote. -/
theorem holds_bytesOf {ledger : Ledger} (scalar : ledger.IsScalar) :
    Holds (some (bytesOf ledger)) (loadLedger (writeLedger ledger)) := by
  rw [Holds, loadLedgerBytes_bytesOf scalar]
  exact dictOf_toJson _

omit [FloatReader] in
/-- A turn records the version of the catalog, or nothing. -/
theorem updatedLedger_of_checkTool {result next : VersionCheckResult}
    {name version : PyStr} (turned : checkTool result name version = .ok next) :
    next.updatedLedger = result.updatedLedger ∨
      next.updatedLedger = result.updatedLedger.assign name version := by
  unfold checkTool at turned
  cases held : result.updatedLedger.get? name with
  | none =>
      simp only [held] at turned
      cases turned
      exact .inr rfl
  | some recorded =>
      simp only [held, bind_eq_ok_iff] at turned
      obtain ⟨current, -, highest, -, turned⟩ := turned
      split_ifs at turned
      · cases turned
        exact .inl rfl
      · cases turned
        exact .inr rfl
      · cases turned
        exact .inl rfl

omit [FloatReader] in
/-- The loop records names and versions of the catalog only. -/
theorem isScalar_of_checkTools {entries : List (PyStr × ToolDefinition)}
    {result final : VersionCheckResult}
    (offered : ∀ entry ∈ entries,
      SurrogateFree entry.1 ∧ SurrogateFree entry.2.version)
    (scalar : result.updatedLedger.IsScalar)
    (checked : checkTools entries result = .ok final) :
    final.updatedLedger.IsScalar := by
  induction entries generalizing result with
  | nil =>
      cases checked
      exact scalar
  | cons entry rest induction =>
      obtain ⟨name, tool⟩ := entry
      obtain ⟨here, others⟩ := List.forall_mem_cons.mp offered
      obtain ⟨next, turned, later⟩ := bind_eq_ok_iff.mp checked
      refine induction others ?_ later
      rcases updatedLedger_of_checkTool turned with same | recorded
      · rw [same]
        exact scalar
      · intro key version held
        rw [recorded, PyDict.get?_assign] at held
        split_ifs at held with same
        · cases held
          exact same ▸ here
        · exact scalar key version held

omit [FloatReader] in
theorem isScalar_of_checkForDowngrades {catalog : Catalog} {ledger : Ledger}
    {result : VersionCheckResult} (offered : Catalog.IsScalar catalog)
    (scalar : ledger.IsScalar)
    (checked : checkForDowngrades catalog ledger = .ok result) :
    result.updatedLedger.IsScalar := by
  apply isScalar_of_checkTools _ scalar checked
  intro entry member
  exact offered entry.1 entry.2 (PyDict.lookupIn_of_mem catalog.unique member)

/-- The file holds the ledger, and all that is to be checked can be written. -/
structure InStep (rest : List Catalog) (file : LedgerFile)
    (bytes : LedgerBytes) : Prop where
  holds : Holds bytes (loadLedger file)
  scalar : (loadLedger file).IsScalar
  offered : ∀ catalog ∈ rest, Catalog.IsScalar catalog

omit [PyNumerals] [FloatReader] in
/-- The lines of the downgrades. -/
def foundLines (downgrades : List PyStr) : List PyStr :=
  downgrades.map fun downgrade => ("DOWNGRADE: " : PyStr) ++ downgrade

omit [PyNumerals] [FloatReader] in
/-- What a finished run prints and returns. -/
def reportOf (downgrades : List PyStr) : LedgerReport :=
  if downgrades.isEmpty then
    ⟨foundLines downgrades ++ [PyStr.ofString "version_ledger OK"], 0⟩
  else ⟨foundLines downgrades, 1⟩

omit [PyNumerals] [FloatReader] in
theorem exitCode_reportOf (downgrades : List PyStr) :
    (reportOf downgrades).exitCode = if downgrades.isEmpty then 0 else 1 := by
  rw [reportOf]
  split_ifs
  · rfl
  · rfl

omit [FloatReader] in
theorem checkUpdate_of_checked {catalog : Catalog} {file : LedgerFile}
    {result : VersionCheckResult}
    (checked : checkForDowngrades catalog (loadLedger file) = .ok result) :
    checkUpdate catalog file =
      (.ok (reportOf result.downgrades),
        if result.isOk then writeLedger result.updatedLedger else file) := by
  simp only [checkUpdate, checkCatalog, PyM.bind_apply, PyM.get_apply,
    PyM.ofExcept_apply, checked, reportOf, foundLines]
  unfold VersionCheckResult.isOk
  cases result.downgrades.isEmpty <;> rfl

omit [FloatReader] in
/-- A clean result is written, any other leaves the file alone. -/
theorem reportBytes_eq {result : VersionCheckResult}
    (scalar : result.updatedLedger.IsScalar) (file : LedgerBytes) :
    reportBytes true result.toDocument file =
      (.ok (reportOf result.downgrades),
        if result.isOk then some (bytesOf result.updatedLedger) else file) := by
  have writing := writeLedgerBytes_toJson scalar file
  by_cases clean : result.isOk = true
  · have alsoClean : result.toDocument.isOk = true := clean
    have report : reportOf result.downgrades =
        ⟨foundLines result.downgrades ++
          [PyStr.ofString "version_ledger OK"], 0⟩ :=
      if_pos clean
    rw [if_pos clean, report, reportBytes, if_pos alsoClean, if_pos rfl]
    exact PyM.bind_of_ok writing
  · have alsoFailed : ¬ result.toDocument.isOk = true := clean
    have report : reportOf result.downgrades =
        ⟨foundLines result.downgrades, 1⟩ :=
      if_neg clean
    rw [if_neg clean, report, reportBytes, if_neg alsoFailed]
    rfl

/-- A file that holds the ledger is checked as the ledger is. -/
theorem checkUpdateBytes_of_checked {catalog : Catalog} {ledger : Ledger}
    {bytes : LedgerBytes} {result : VersionCheckResult}
    (holds : Holds bytes ledger)
    (checked : checkForDowngrades catalog ledger = .ok result) :
    checkUpdateBytes catalog bytes =
      reportBytes true result.toDocument bytes := by
  obtain ⟨document, loaded, read⟩ := bind_eq_ok_iff.mp holds
  have loop : checkToolsDocument catalog.entries ⟨[], ledger.toJson⟩ =
      .ok result.toDocument := by
    refine (checkToolsDocument_toDocument catalog.entries ⟨[], ledger⟩).trans ?_
    rw [show checkTools catalog.entries ⟨[], ledger⟩ = _ from checked]
    rfl
  rw [checkUpdateBytes, checkCatalogBytes, PyM.bind_of_ok (PyM.get_apply bytes),
    loaded, PyM.bind_of_ok (PyM.ofExcept_apply _ bytes), read,
    PyM.bind_of_ok (PyM.ofExcept_apply _ bytes), loop,
    PyM.bind_of_ok (PyM.ofExcept_apply _ bytes)]

theorem checkUpdateBytes_of_error {catalog : Catalog} {ledger : Ledger}
    {bytes : LedgerBytes} {error : LedgerError}
    (holds : Holds bytes ledger)
    (raised : checkForDowngrades catalog ledger = .error error) :
    checkUpdateBytes catalog bytes = (.error (.check error), bytes) := by
  obtain ⟨document, loaded, read⟩ := bind_eq_ok_iff.mp holds
  have loop : checkToolsDocument catalog.entries ⟨[], ledger.toJson⟩ =
      .error (.check error) := by
    refine (checkToolsDocument_toDocument catalog.entries ⟨[], ledger⟩).trans ?_
    rw [show checkTools catalog.entries ⟨[], ledger⟩ = _ from raised]
    rfl
  rw [checkUpdateBytes, checkCatalogBytes, PyM.bind_of_ok (PyM.get_apply bytes),
    loaded, PyM.bind_of_ok (PyM.ofExcept_apply _ bytes), read,
    PyM.bind_of_ok (PyM.ofExcept_apply _ bytes), loop, PyM.bind_apply]
  rfl

/-- Either run leaves its file alone, or both write the same ledger. -/
theorem checkUpdateBytes_eq {catalog : Catalog} {rest : List Catalog}
    {file : LedgerFile} {bytes : LedgerBytes}
    (inStep : InStep (catalog :: rest) file bytes) :
    (checkUpdateBytes catalog bytes).1 =
        (checkUpdate catalog file).1.mapError .check ∧
      InStep rest (checkUpdate catalog file).2
        (checkUpdateBytes catalog bytes).2 ∧
      ((checkUpdate catalog file).2 = file ∧
          (checkUpdateBytes catalog bytes).2 = bytes ∨
        (checkUpdateBytes catalog bytes).2 =
          (checkUpdate catalog file).2.map bytesOf) := by
  obtain ⟨holds, scalar, offered⟩ := inStep
  obtain ⟨here, later⟩ := List.forall_mem_cons.mp offered
  have kept : InStep rest file bytes := ⟨holds, scalar, later⟩
  cases checked : checkForDowngrades catalog (loadLedger file) with
  | error error =>
      have stopped : checkUpdate catalog file = (.error error, file) := by
        simp only [checkUpdate, checkCatalog, PyM.bind_apply, PyM.get_apply,
          PyM.ofExcept_apply, checked]
      rw [stopped, checkUpdateBytes_of_error holds checked]
      exact ⟨rfl, kept, .inl ⟨rfl, rfl⟩⟩
  | ok result =>
      have recorded := isScalar_of_checkForDowngrades here scalar checked
      rw [checkUpdate_of_checked checked,
        checkUpdateBytes_of_checked holds checked, reportBytes_eq recorded]
      refine ⟨rfl, ?_⟩
      cases result.isOk with
      | false => exact ⟨kept, .inl ⟨rfl, rfl⟩⟩
      | true =>
          have same : some (bytesOf result.updatedLedger) =
              (writeLedger result.updatedLedger).map bytesOf := by
            rw [writeLedger, Option.map_some, bytesOf_sortedBy]
          refine ⟨⟨holds_bytesOf recorded, ?_, later⟩, .inr same⟩
          intro name version held
          exact recorded name version
            ((PyDict.get?_sortedBy (· ≤ ·) _ name).symm.trans held)

/--
On a file that holds a ledger, the runs of `check --update` answer as on the
ledger, and leave a file that holds what they leave: the file they found, or
the one the ledger is written to.
-/
theorem ledger_file_refines {catalogs : List Catalog} {file : LedgerFile}
    {bytes : LedgerBytes} (inStep : InStep catalogs file bytes) :
    (serveAll checkUpdateBytes catalogs bytes).1 =
        (serveAll checkUpdate catalogs file).1.map (·.mapError .check) ∧
      Holds (serveAll checkUpdateBytes catalogs bytes).2
        (loadLedger (serveAll checkUpdate catalogs file).2) ∧
      ((serveAll checkUpdate catalogs file).2 = file ∧
          (serveAll checkUpdateBytes catalogs bytes).2 = bytes ∨
        (serveAll checkUpdateBytes catalogs bytes).2 =
          (serveAll checkUpdate catalogs file).2.map bytesOf) := by
  induction catalogs generalizing file bytes with
  | nil => exact ⟨rfl, inStep.holds, .inl ⟨rfl, rfl⟩⟩
  | cons catalog rest induction =>
      obtain ⟨answered, kept, left⟩ := checkUpdateBytes_eq inStep
      obtain ⟨answers, holds, leftLater⟩ := induction kept
      simp only [serveAll, List.map_cons, answered]
      refine ⟨by rw [answers], holds, ?_⟩
      rcases leftLater with ⟨same, sameBytes⟩ | written
      · rw [same, sameBytes]
        exact left
      · exact .inr written

end File

section Example

attribute [local instance] Reference.numerals noFloats

/-- A ledger of one tool, at this version. -/
def ledgerAt (version : PyStr) : Ledger :=
  PyDict.empty.assign scaleToZeroTool.name version

theorem isScalar_catalogAt {version : PyStr} (scalar : SurrogateFree version) :
    Catalog.IsScalar (catalogAt version) := by
  intro name tool found
  have named : name = scaleToZeroTool.name := by
    rw [catalogAt, PyDict.get?_assign] at found
    split_ifs at found with here
    · exact here
    · cases found
  rw [eq_of_catalogAt found, named]
  exact ⟨surrogateFree_ofString _, scalar⟩

/-- From no file, 1.9.0 and 1.10.0 leave a file with 1.10.0. -/
theorem ledger_file_of_numbers :
    (serveAll checkUpdateBytes [catalogAt "1.9.0", catalogAt "1.10.0"]
        none).2 = some (bytesOf (ledgerAt "1.10.0")) := by
  have inStep : InStep [catalogAt "1.9.0", catalogAt "1.10.0"] none none := by
    refine ⟨holds_none, ?_, ?_⟩
    · intro name version held
      cases held
    · intro catalog member
      simp only [List.mem_cons, List.not_mem_nil, or_false] at member
      rcases member with rfl | rfl
      · exact isScalar_catalogAt (surrogateFree_ofString _)
      · exact isScalar_catalogAt (surrogateFree_ofString _)
  have written : (serveAll checkUpdate
      [catalogAt "1.9.0", catalogAt "1.10.0"] none).2 =
        some (ledgerAt "1.10.0") := by
    decide +kernel
  rcases (ledger_file_refines inStep).2.2 with ⟨same, -⟩ | bytes
  · rw [written] at same
    cases same
  · rw [bytes, written, Option.map_some]

end Example

end ArgosCyberTools.ToolCatalog
