import ArgosCyberTools.ToolCatalog.ReadBack
import ArgosCyberTools.ToolCatalog.Signing

/-!
# Deploying a directory

A manifest regenerated over a directory vouches for it, whatever it was
before.  The ledger file outlives the directory: over any history of checks
it holds the highest version of every tool that a clean check has seen, and
a directory below one of them is refused.
-/

namespace ArgosCyberTools.ToolCatalog

open Python Transition

section Deployments

variable [PyNumerals] [FloatReader] [YamlLoader]

attribute [local instance] documentParsers

/-- `main(["check", ...])` on the file itself. -/
def versionLedgerMainBytes (shipped : ShippedCatalog)
    (definitionsDir : Option Directory) (update : Bool) :
    PyM LedgerBytes LedgerFileError LedgerReport := do
  let catalog ← PyM.ofExcept
    ((loadCatalog shipped definitionsDir none).mapError fun error =>
      .check (.catalog error))
  checkCatalogBytes update catalog

/-- One run of `check --update` on a directory. -/
def checkDirectory (shipped : ShippedCatalog) (directory : Directory)
    (file : LedgerBytes) :
    Except LedgerFileError LedgerReport × LedgerBytes :=
  versionLedgerMainBytes shipped (some directory) true file

/-- The file after these checks, from no file. -/
def ledgerFileAfter (shipped : ShippedCatalog) (history : List Directory) :
    LedgerBytes :=
  (serveAll (checkDirectory shipped) history none).2

omit [PyNumerals] [FloatReader] [YamlLoader] in
/-- The check returned 0. -/
def exitedClean (outcome : Except LedgerFileError LedgerReport) : Bool :=
  match outcome with
  | .ok report => report.exitCode = 0
  | .error _ => false

/-- The directories of the checks that returned 0. -/
def cleanDirectories (shipped : ShippedCatalog) (history : List Directory) :
    List Directory :=
  acceptedAmong exitedClean history
    (serveAll (checkDirectory shipped) history none).1

/-- The versions a directory offers, when it loads. -/
def versionsIn (shipped : ShippedCatalog) (directory : Directory) :
    HighWater.Marks PyStr PyStr :=
  match loadCatalog shipped (some directory) none with
  | .ok catalog => versionsOf catalog
  | .error _ => fun _ => none

/-- The ledger can record what the directory defines. -/
def Directory.IsRecordable (shipped : ShippedCatalog)
    (directory : Directory) : Prop :=
  ∀ catalog, loadCatalog shipped (some directory) none = .ok catalog →
    Catalog.IsVersioned catalog ∧ Catalog.IsScalar catalog

/-- The file holds a ledger that is true to these directories. -/
def RecordsOf (shipped : ShippedCatalog) (history : List Directory)
    (file : LedgerBytes) : Prop :=
  ∃ ledger : Ledger, Holds file ledger ∧ ledger.IsScalar ∧
    ledger.IsReadable ∧
    HighWater.Records numericVersion (history.map (versionsIn shipped))
      (marksOf ledger)

section Check

variable {shipped : ShippedCatalog} {directory : Directory}
  {catalog : Catalog} {ledger : Ledger} {file : LedgerBytes}

theorem checkDirectory_of_loaded
    (loads : loadCatalog shipped (some directory) none = .ok catalog) :
    checkDirectory shipped directory file = checkUpdateBytes catalog file := by
  rw [checkDirectory, versionLedgerMainBytes, loads]
  rfl

/-- A directory that does not load leaves the file alone. -/
theorem checkDirectory_of_error {error : CatalogError}
    (raised : loadCatalog shipped (some directory) none = .error error) :
    checkDirectory shipped directory file =
      (.error (.check (.catalog error)), file) := by
  rw [checkDirectory, versionLedgerMainBytes, raised]
  rfl

/-- A directory below the ledger is refused, any other one is recorded. -/
theorem checkDirectory_eq
    (loads : loadCatalog shipped (some directory) none = .ok catalog)
    (recordable : directory.IsRecordable shipped) (holds : Holds file ledger)
    (scalar : ledger.IsScalar) (readable : ledger.IsReadable) :
    ∃ report final,
      checkDirectory shipped directory file = (.ok report, final) ∧
      (report.exitCode = 1 ∧ final = file ∧
          HighWater.Lowers numericVersion (versionsIn shipped directory)
            (marksOf ledger) ∨
        report.exitCode = 0 ∧
          ¬ HighWater.Lowers numericVersion (versionsIn shipped directory)
            (marksOf ledger) ∧
          ∃ raised : Ledger, Holds final raised ∧ raised.IsScalar ∧
            raised.IsReadable ∧
            marksOf raised = HighWater.raised numericVersion
              (versionsIn shipped directory) (marksOf ledger)) := by
  obtain ⟨versioned, written⟩ := recordable catalog loads
  have offers : versionsIn shipped directory = versionsOf catalog := by
    rw [versionsIn, loads]
  obtain ⟨result, checked, kept, marks, isOk⟩ :=
    checkForDowngrades_eq versioned readable
  have recorded := isScalar_of_checkForDowngrades written scalar checked
  have exits := exitCode_reportOf result.downgrades
  rw [checkDirectory_of_loaded loads, offers,
    checkUpdateBytes_of_checked holds checked, reportBytes_eq recorded]
  refine ⟨_, _, rfl, ?_⟩
  by_cases clean : result.isOk = true
  · rw [if_pos clean]
    refine .inr ⟨exits.trans (if_pos clean), isOk.mp clean, _,
      holds_bytesOf recorded, ?_, ?_, ?_⟩
    · intro name version held
      exact recorded name version
        ((PyDict.get?_sortedBy (· ≤ ·) _ name).symm.trans held)
    · intro name version held
      exact kept name version
        ((PyDict.get?_sortedBy (· ≤ ·) _ name).symm.trans held)
    · exact (recordedIn_writeLedger _).trans marks
  · rw [if_neg clean]
    refine .inl ⟨exits.trans (if_neg clean), rfl, ?_⟩
    exact not_not.mp fun upheld => clean (isOk.mpr upheld)

/-- The invariant of the checks. -/
structure TrueToChecks (shipped : ShippedCatalog)
    (history rest : List Directory) (file : LedgerBytes) : Prop where
  recordable : ∀ directory ∈ rest, directory.IsRecordable shipped
  records : RecordsOf shipped history file

theorem TrueToChecks.check {history rest : List Directory}
    (holds : TrueToChecks shipped history (directory :: rest) file) :
    TrueToChecks shipped
      (if exitedClean (checkDirectory shipped directory file).1 then
        history ++ [directory] else history)
      rest (checkDirectory shipped directory file).2 := by
  obtain ⟨here, later⟩ := List.forall_mem_cons.mp holds.recordable
  refine ⟨later, ?_⟩
  obtain ⟨ledger, held, scalar, readable, records⟩ := holds.records
  cases loads : loadCatalog shipped (some directory) none with
  | error error =>
      rw [checkDirectory_of_error loads]
      exact ⟨ledger, held, scalar, readable, records⟩
  | ok catalog =>
      obtain ⟨report, final, ran, outcome⟩ :=
        checkDirectory_eq loads here held scalar readable
      rw [ran]
      rcases outcome with ⟨failed, rfl, -⟩ |
        ⟨passed, -, raised, heldThen, scalarThen, readableThen, marks⟩
      · have refused : ¬ exitedClean (.ok report) = true := by
          simp [exitedClean, failed]
        rw [if_neg refused]
        exact ⟨ledger, held, scalar, readable, records⟩
      · have accepted : exitedClean (.ok report) = true := by
          simp [exitedClean, passed]
        rw [if_pos accepted]
        refine ⟨raised, heldThen, scalarThen, readableThen, ?_⟩
        rw [marks, List.map_append]
        exact records.raise (versionsIn shipped directory)

end Check

/-- After any checks the file holds a ledger true to the clean ones. -/
theorem recordsOf_ledgerFileAfter {shipped : ShippedCatalog}
    {history : List Directory}
    (recordable : ∀ directory ∈ history, directory.IsRecordable shipped) :
    RecordsOf shipped (cleanDirectories shipped history)
      (ledgerFileAfter shipped history) := by
  have initially : TrueToChecks shipped [] history none := by
    refine ⟨recordable, PyDict.empty, holds_none, ?_, ?_, ?_⟩
    · intro name version held
      cases held
    · intro name version held
      cases held
    · exact HighWater.records_nil
  have atEnd := serveAll_history (checkDirectory shipped) exitedClean
    (TrueToChecks shipped) ?_ ?_ initially
  · exact atEnd.records
  · intro earlier directory rest file holds accepted
    have next := holds.check
    rwa [if_pos accepted] at next
  · intro earlier directory rest file holds refused
    have next := holds.check
    rwa [if_neg (ne_true_of_eq_false refused)] at next

/-- The first check finds nothing to compare with. -/
theorem cleanDirectories_of_first {shipped : ShippedCatalog}
    {directory : Directory} {catalog : Catalog}
    (loads : loadCatalog shipped (some directory) none = .ok catalog)
    (recordable : directory.IsRecordable shipped) :
    cleanDirectories shipped [directory] = [directory] := by
  obtain ⟨ledger, held, scalar, readable, records⟩ :=
    @recordsOf_ledgerFileAfter _ _ _ shipped [] (by simp)
  obtain ⟨report, final, ran, outcome⟩ :=
    checkDirectory_eq loads recordable held scalar readable
  have passed : report.exitCode = 0 := by
    rcases outcome with ⟨-, -, lowers⟩ | ⟨passed, -⟩
    · obtain ⟨name, version, highest, -, recorded, -⟩ := lowers
      obtain ⟨offer, member, -⟩ := ((records name).1 highest recorded).offered
      cases member
    · exact passed
  have ranFirst : checkDirectory shipped directory none =
      (.ok report, final) :=
    ran
  have accepted : exitedClean (.ok report) = true := by
    simp [exitedClean, passed]
  rw [cleanDirectories, serveAll, ranFirst, serveAll, acceptedAmong_cons,
    if_pos accepted]
  rfl

/-- Some tool is below the version a clean check has seen. -/
def Outdated (shipped : ShippedCatalog) (history : List Directory)
    (directory : Directory) : Prop :=
  ∃ earlier ∈ cleanDirectories shipped history, ∃ name version highest,
    versionsIn shipped directory name = some version ∧
      versionsIn shipped earlier name = some highest ∧
      numericVersion version < numericVersion highest

theorem lowers_iff_outdated {shipped : ShippedCatalog}
    {history : List Directory} {directory : Directory} {ledger : Ledger}
    (records : HighWater.Records numericVersion
      ((cleanDirectories shipped history).map (versionsIn shipped))
      (marksOf ledger)) :
    HighWater.Lowers numericVersion (versionsIn shipped directory)
        (marksOf ledger) ↔
      Outdated shipped history directory := by
  constructor
  · rintro ⟨name, version, highest, offered, recorded, below⟩
    obtain ⟨offer, member, gives⟩ :=
      ((records name).1 highest recorded).offered
    obtain ⟨earlier, clean, rfl⟩ := List.mem_map.mp member
    exact ⟨earlier, clean, name, version, highest, offered, gives, below⟩
  · rintro ⟨earlier, clean, name, version, highest, offered, gives, below⟩
    have member := List.mem_map_of_mem (f := versionsIn shipped) clean
    cases recorded : marksOf ledger name with
    | none =>
        rw [(records name).2 recorded _ member] at gives
        cases gives
    | some kept =>
        have above := ((records name).1 kept recorded).highest _ member
          highest gives
        exact ⟨name, version, kept, offered, recorded, below.trans_le above⟩

/--
A directory passes under the manifest regenerated over it, if file names are
scalar.  The ledger still refuses it, of directories it can record, exactly
when some tool is below a version that a clean check has seen; the file is
then left alone.
-/
theorem resigned_directory_checked (shipped : ShippedCatalog)
    {history : List Directory} {directory : Directory} {catalog : Catalog}
    (loads : loadCatalog shipped (some directory) none = .ok catalog) :
    (directory.IsScalar →
      ∃ bytes, writeIntegrityManifest directory = .ok bytes ∧
        loadCatalog shipped (some directory) (some (some bytes)) =
          .ok catalog) ∧
    ((∀ other ∈ directory :: history, other.IsRecordable shipped) →
      ∃ report final,
        checkDirectory shipped directory (ledgerFileAfter shipped history) =
          (.ok report, final) ∧
        (report.exitCode = 0 ∧ ¬ Outdated shipped history directory ∧
            RecordsOf shipped
              (cleanDirectories shipped history ++ [directory]) final ∨
          report.exitCode = 1 ∧ Outdated shipped history directory ∧
            final = ledgerFileAfter shipped history)) := by
  constructor
  · intro scalar
    have portable := (isScalar_buildIntegrityManifest scalar).portable
    have written := writeJsonFile_eq portable
    refine ⟨_, written, ?_⟩
    rw [loadCatalog_signed shipped scalar written,
      if_pos (verifyIntegrityManifest_self directory), loads]
  · intro recordable
    obtain ⟨here, earlier⟩ := List.forall_mem_cons.mp recordable
    obtain ⟨ledger, held, ledgerScalar, readable, records⟩ :=
      recordsOf_ledgerFileAfter earlier
    obtain ⟨report, final, ran, outcome⟩ :=
      checkDirectory_eq loads here held ledgerScalar readable
    rw [lowers_iff_outdated records] at outcome
    refine ⟨report, final, ran, ?_⟩
    rcases outcome with ⟨failed, kept, outdated⟩ |
      ⟨passed, upToDate, raised, heldThen, scalarThen, readableThen, marks⟩
    · exact .inr ⟨failed, outdated, kept⟩
    · refine .inl ⟨passed, upToDate, raised, heldThen, scalarThen,
        readableThen, ?_⟩
      rw [marks, List.map_append]
      exact records.raise (versionsIn shipped directory)

end Deployments

section Example

/-- `isolate_kubernetes_workload.yaml` with version 1.1.0. -/
def newerYaml : List UInt8 :=
  isolateYaml.take 43 ++ (PyStr.ofString "1.1.0").flatMap utf8Bytes ++
    isolateYaml.drop 48

def newerDirectory : Directory :=
  PyDict.ofList [("isolate_kubernetes_workload", newerYaml)]

/-- The YAML parser on these two files. -/
@[reducible]
def twoFileLoader : YamlLoader where
  yamlSafeLoad bytes :=
    if bytes = isolateYaml then some (.dict isolateDocument)
    else if bytes = newerYaml then some (.dict (isolateDocumentAt "1.1.0"))
    else none

attribute [local instance] Reference.numerals noFloats twoFileLoader
  documentParsers

/-- A directory of one tool, at a version of three digits. -/
theorem isRecordable_of_entries {directory : Directory} {version : PyStr}
    (loads : ∃ catalog,
      loadCatalog emptyShipment (some directory) none = .ok catalog ∧
        catalog.entries = [(isolateKubernetesWorkloadTool.name,
          { isolateKubernetesWorkloadTool with version })])
    (isVersion : IsVersion version) (scalar : SurrogateFree version) :
    directory.IsRecordable emptyShipment := by
  obtain ⟨loaded, loads, entries⟩ := loads
  intro catalog loadsToo
  have same : loaded = catalog :=
    Except.ok.inj (loads.symm.trans loadsToo)
  rw [same] at entries
  have only : ∀ name tool, catalog.get? name = some tool →
      name = isolateKubernetesWorkloadTool.name ∧
        tool.version = version := by
    intro name tool found
    have member := (PyDict.get?_eq_some_iff catalog).mp found
    rw [entries] at member
    cases List.mem_singleton.mp member
    exact ⟨rfl, rfl⟩
  constructor
  · intro name tool found
    rw [(only name tool found).2]
    exact isVersion
  · intro name tool found
    rw [(only name tool found).1, (only name tool found).2]
    exact ⟨surrogateFree_ofString _, scalar⟩

/-- Signed again, version 1.0.0 is refused after 1.1.0. -/
theorem resigned_directory_checked_of_older :
    (∃ bytes, writeIntegrityManifest isolateDirectory = .ok bytes ∧
      ∃ catalog, loadCatalog emptyShipment (some isolateDirectory)
        (some (some bytes)) = .ok catalog) ∧
    ∃ report,
      checkDirectory emptyShipment isolateDirectory
          (ledgerFileAfter emptyShipment [newerDirectory]) =
        (.ok report, ledgerFileAfter emptyShipment [newerDirectory]) ∧
      report.exitCode = 1 := by
  have older : ∃ catalog,
      loadCatalog emptyShipment (some isolateDirectory) none = .ok catalog ∧
        catalog.entries = [(isolateKubernetesWorkloadTool.name,
          { isolateKubernetesWorkloadTool with version := "1.0.0" })] := by
    apply exists_ok_of_test
    decide +kernel
  have newer : ∃ catalog,
      loadCatalog emptyShipment (some newerDirectory) none = .ok catalog ∧
        catalog.entries = [(isolateKubernetesWorkloadTool.name,
          { isolateKubernetesWorkloadTool with version := "1.1.0" })] := by
    apply exists_ok_of_test
    decide +kernel
  have recordable : ∀ other ∈ [isolateDirectory, newerDirectory],
      other.IsRecordable emptyShipment := by
    intro other member
    simp only [List.mem_cons, List.not_mem_nil, or_false] at member
    rcases member with rfl | rfl
    · refine isRecordable_of_entries older ⟨⟨"1", "0", "0", ?_⟩, ?_⟩
        (surrogateFree_ofString _)
      · exact ⟨by decide +kernel, by decide +kernel⟩
      · decide +kernel
    · refine isRecordable_of_entries newer ⟨⟨"1", "1", "0", ?_⟩, ?_⟩
        (surrogateFree_ofString _)
      · exact ⟨by decide +kernel, by decide +kernel⟩
      · decide +kernel
  have scalar : isolateDirectory.IsScalar := by
    intro file member
    cases List.mem_singleton.mp member
    exact surrogateFree_ofString _
  have outdated : Outdated emptyShipment [newerDirectory]
      isolateDirectory := by
    refine ⟨newerDirectory, ?_, isolateKubernetesWorkloadTool.name, "1.0.0",
      "1.1.0", ?_, ?_, ?_⟩
    · obtain ⟨catalog, loads, -⟩ := newer
      rw [cleanDirectories_of_first loads (recordable _ (by simp))]
      exact List.mem_cons_self
    · decide +kernel
    · decide +kernel
    · decide +kernel
  obtain ⟨catalog, loads, -⟩ := older
  obtain ⟨resigned, checked⟩ :=
    resigned_directory_checked emptyShipment loads
  obtain ⟨bytes, written, accepted⟩ := resigned scalar
  obtain ⟨report, final, ran, outcome⟩ := checked recordable
  refine ⟨⟨bytes, written, catalog, accepted⟩, report, ?_⟩
  rcases outcome with ⟨-, upToDate, -⟩ | ⟨refused, -, kept⟩
  · exact (upToDate outdated).elim
  · rw [kept] at ran
    exact ⟨ran, refused⟩

end Example

end ArgosCyberTools.ToolCatalog
