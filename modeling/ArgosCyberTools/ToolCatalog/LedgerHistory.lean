import ArgosCyberTools.ToolCatalog.Shipped
import ArgosCyberTools.ToolCatalog.VersionLedger

/-!
# The ledger over a history of catalogs

`check --update` is run on one catalog after another, each run on the file
the last one left.  The ledger is the high-water mark of the runs that
reported no downgrade.
-/

namespace ArgosCyberTools.ToolCatalog

open Python Transition

section History

variable [PyNumerals]

/-- One run of `check --update`. -/
def checkUpdate (catalog : Catalog) (file : LedgerFile) :
    Except LedgerError LedgerReport × LedgerFile :=
  checkCatalog true catalog file

/-- Once the catalog is loaded, `main` checks it. -/
theorem versionLedgerMain_of_loaded [DocumentParsers]
    {shipped : ShippedCatalog} {definitionsDir : Option Directory}
    {catalog : Catalog} (update : Bool)
    (loaded : loadCatalog shipped definitionsDir none = .ok catalog) :
    versionLedgerMain shipped definitionsDir update =
      checkCatalog update catalog := by
  rw [versionLedgerMain, loaded]
  rfl

/-- The file after these runs, from no file. -/
def ledgerAfter (catalogs : List Catalog) : LedgerFile :=
  (serveAll checkUpdate catalogs none).2

/-- The run returned 0. -/
def returnedClean (outcome : Except LedgerError LedgerReport) : Bool :=
  match outcome with
  | .ok report => report.exitCode = 0
  | .error _ => false

/-- The catalogs of the runs that returned 0. -/
def cleanCatalogs (catalogs : List Catalog) : List Catalog :=
  acceptedAmong returnedClean catalogs
    (serveAll checkUpdate catalogs none).1

/-- The versions a catalog offers. -/
def versionsOf (catalog : Catalog) : HighWater.Marks PyStr PyStr :=
  offersOf catalog.entries

/-- What the file records. -/
def recordedIn (file : LedgerFile) : HighWater.Marks PyStr PyStr :=
  marksOf (loadLedger file)

/-- Every version of the catalog can be read. -/
def Catalog.IsVersioned (catalog : Catalog) : Prop :=
  ∀ name tool, catalog.get? name = some tool → IsVersion tool.version

omit [PyNumerals] in
theorem recordedIn_writeLedger (ledger : Ledger) :
    recordedIn (writeLedger ledger) = marksOf ledger := by
  funext name
  exact PyDict.get?_sortedBy (· ≤ ·) ledger name

/-- The loop over a catalog is clean if it lowers no record. -/
theorem checkForDowngrades_eq {catalog : Catalog}
    (versioned : Catalog.IsVersioned catalog) {ledger : Ledger}
    (readable : ledger.IsReadable) :
    ∃ result, checkForDowngrades catalog ledger = .ok result ∧
      result.updatedLedger.IsReadable ∧
      marksOf result.updatedLedger =
        HighWater.raised numericVersion (versionsOf catalog)
          (marksOf ledger) ∧
      (result.isOk = true ↔
        ¬ HighWater.Lowers numericVersion (versionsOf catalog)
          (marksOf ledger)) := by
  have versions : ∀ entry ∈ catalog.entries, IsVersion entry.2.version :=
    fun entry member => versioned entry.1 entry.2
      ((PyDict.get?_eq_some_iff catalog).mpr member)
  obtain ⟨result, checked, kept, marks, clean⟩ :=
    @checkTools_eq _ _ catalog.unique versions ⟨[], ledger⟩ readable
  refine ⟨result, checked, kept, marks, ?_⟩
  rw [VersionCheckResult.isOk, List.isEmpty_iff, clean]
  simp only [true_and, HighWater.Lowers, not_exists, not_and, not_lt]
  constructor
  · intro upheld name version highest offered recorded
    obtain ⟨tool, found, rfl⟩ := Option.map_eq_some_iff.mp offered
    exact upheld (name, tool) (PyDict.mem_of_lookupIn found) highest recorded
  · rintro upheld ⟨name, tool⟩ member recorded held
    have found := PyDict.lookupIn_of_mem catalog.unique member
    exact upheld name tool.version recorded
      (Option.map_eq_some_iff.mpr ⟨tool, found, rfl⟩) held

/-- A run that lowers nothing raises the file and returns 0. -/
theorem checkUpdate_of_clean {catalog : Catalog}
    (versioned : Catalog.IsVersioned catalog) {file : LedgerFile}
    (readable : (loadLedger file).IsReadable)
    (clean : ¬ HighWater.Lowers numericVersion (versionsOf catalog)
      (recordedIn file)) :
    ∃ printed final,
      checkUpdate catalog file = (.ok ⟨printed, 0⟩, final) ∧
        (loadLedger final).IsReadable ∧
        recordedIn final = HighWater.raised numericVersion
          (versionsOf catalog) (recordedIn file) := by
  obtain ⟨result, checked, kept, marks, isOk⟩ :=
    checkForDowngrades_eq versioned readable
  have passed : result.isOk = true := isOk.mpr clean
  obtain ⟨printed, ran⟩ : ∃ printed, checkUpdate catalog file =
      (.ok ⟨printed, 0⟩, writeLedger result.updatedLedger) := by
    simp only [checkUpdate, checkCatalog, PyM.bind_apply, PyM.get_apply,
      PyM.ofExcept_apply, checked, passed, if_true]
    exact ⟨_, rfl⟩
  refine ⟨printed, _, ran, ?_, ?_⟩
  · intro name version held
    refine kept name version ?_
    rwa [← PyDict.get?_sortedBy (· ≤ ·)]
  · rw [recordedIn_writeLedger, marks]
    rfl

/-- A run that would lower a record returns 1 and writes nothing. -/
theorem checkUpdate_of_downgrade {catalog : Catalog}
    (versioned : Catalog.IsVersioned catalog) {file : LedgerFile}
    (readable : (loadLedger file).IsReadable)
    (lowers : HighWater.Lowers numericVersion (versionsOf catalog)
      (recordedIn file)) :
    ∃ printed, checkUpdate catalog file = (.ok ⟨printed, 1⟩, file) := by
  obtain ⟨result, checked, -, -, isOk⟩ :=
    checkForDowngrades_eq versioned readable
  have failed : result.isOk = false :=
    Bool.eq_false_iff.mpr fun passed => isOk.mp passed lowers
  simp only [checkUpdate, checkCatalog, PyM.bind_apply, PyM.get_apply,
    PyM.ofExcept_apply, checked, failed]
  exact ⟨_, rfl⟩

/-- The file is true to the clean runs, and can still be read. -/
structure TrueTo (history rest : List Catalog) (file : LedgerFile) :
    Prop where
  versioned : ∀ catalog ∈ rest, Catalog.IsVersioned catalog
  readable : (loadLedger file).IsReadable
  records : HighWater.Records numericVersion (history.map versionsOf)
    (recordedIn file)

theorem trueTo_nil {catalogs : List Catalog}
    (versioned : ∀ catalog ∈ catalogs, Catalog.IsVersioned catalog) :
    TrueTo [] catalogs none where
  versioned := versioned
  readable _ _ held := nomatch held
  records := HighWater.records_nil

/-- The invariant of the runs. -/
theorem trueTo_ledgerAfter {catalogs : List Catalog}
    (versioned : ∀ catalog ∈ catalogs, Catalog.IsVersioned catalog) :
    TrueTo (cleanCatalogs catalogs) [] (ledgerAfter catalogs) := by
  refine serveAll_history checkUpdate returnedClean TrueTo ?_ ?_
    (trueTo_nil versioned)
  · intro history catalog rest file holds clean
    obtain ⟨here, later⟩ := List.forall_mem_cons.mp holds.versioned
    by_cases lowers : HighWater.Lowers numericVersion (versionsOf catalog)
        (recordedIn file)
    · obtain ⟨printed, ran⟩ :=
        checkUpdate_of_downgrade here holds.readable lowers
      rw [ran] at clean
      cases clean
    · obtain ⟨printed, final, ran, readable, raised⟩ :=
        checkUpdate_of_clean here holds.readable lowers
      have records := holds.records.raise (versionsOf catalog)
      rw [ran]
      refine ⟨later, readable, ?_⟩
      rwa [raised, List.map_append]
  · intro history catalog rest file holds refused
    obtain ⟨here, later⟩ := List.forall_mem_cons.mp holds.versioned
    by_cases lowers : HighWater.Lowers numericVersion (versionsOf catalog)
        (recordedIn file)
    · obtain ⟨printed, ran⟩ :=
        checkUpdate_of_downgrade here holds.readable lowers
      rw [ran]
      exact ⟨later, holds.readable, holds.records⟩
    · obtain ⟨printed, final, ran, -⟩ :=
        checkUpdate_of_clean here holds.readable lowers
      rw [ran] at refused
      cases refused

theorem ledgerAfter_append (before after : List Catalog) :
    ledgerAfter (before ++ after) =
      (serveAll checkUpdate after (ledgerAfter before)).2 := by
  rw [ledgerAfter, serveAll_append]
  rfl

/-- One more run neither removes nor lowers an entry. -/
theorem upholds_ledgerAfter_append {before : List Catalog} {catalog : Catalog}
    (versioned : ∀ other ∈ before ++ [catalog],
      Catalog.IsVersioned other) :
    HighWater.Upholds numericVersion (recordedIn (ledgerAfter before))
      (recordedIn (ledgerAfter (before ++ [catalog]))) := by
  obtain ⟨earlier, here⟩ := List.forall_mem_append.mp versioned
  have readable := (trueTo_ledgerAfter earlier).readable
  have isVersioned := here catalog List.mem_cons_self
  rw [ledgerAfter_append]
  by_cases lowers : HighWater.Lowers numericVersion (versionsOf catalog)
      (recordedIn (ledgerAfter before))
  · obtain ⟨printed, ran⟩ :=
      checkUpdate_of_downgrade isVersioned readable lowers
    simp only [serveAll, ran]
    exact HighWater.Upholds.refl numericVersion _
  · obtain ⟨printed, final, ran, -, raised⟩ :=
      checkUpdate_of_clean isVersioned readable lowers
    simp only [serveAll, ran, raised]
    exact HighWater.upholds_raised _ _

/-- No sequence of further runs removes or lowers an entry. -/
theorem upholds_ledgerAfter {before after : List Catalog}
    (versioned : ∀ other ∈ before ++ after, Catalog.IsVersioned other) :
    HighWater.Upholds numericVersion (recordedIn (ledgerAfter before))
      (recordedIn (ledgerAfter (before ++ after))) := by
  induction after generalizing before with
  | nil =>
      rw [List.append_nil]
      exact HighWater.Upholds.refl numericVersion _
  | cons catalog rest induction =>
      rw [List.append_cons] at versioned ⊢
      have first := upholds_ledgerAfter_append
        (List.forall_mem_append.mp versioned).1
      exact first.trans (induction versioned)

/--
Over catalogs whose versions can be read: after each run the file records,
for every name seen in a clean run, the highest version it had in one; a run
returns 1 exactly if its catalog is below the file under some name, and then
leaves the file alone; no entry is ever removed or lowered.
-/
theorem version_ledger_high_water {catalogs : List Catalog}
    (versioned : ∀ catalog ∈ catalogs, Catalog.IsVersioned catalog) :
    (∀ before after, catalogs = before ++ after →
      HighWater.Records numericVersion
          ((cleanCatalogs before).map versionsOf)
          (recordedIn (ledgerAfter before)) ∧
        HighWater.Upholds numericVersion (recordedIn (ledgerAfter before))
          (recordedIn (ledgerAfter catalogs))) ∧
    ∀ before catalog after, catalogs = before ++ catalog :: after →
      ∃ report, (checkUpdate catalog (ledgerAfter before)).1 = .ok report ∧
        report.exitCode ≤ 1 ∧
        (report.exitCode = 1 ↔
          HighWater.Lowers numericVersion (versionsOf catalog)
            (recordedIn (ledgerAfter before))) ∧
        (report.exitCode = 1 →
          ledgerAfter (before ++ [catalog]) = ledgerAfter before) := by
  constructor
  · rintro before after rfl
    have earlier := (List.forall_mem_append.mp versioned).1
    exact ⟨(trueTo_ledgerAfter earlier).records,
      upholds_ledgerAfter versioned⟩
  · rintro before catalog after rfl
    obtain ⟨earlier, here⟩ := List.forall_mem_append.mp versioned
    have readable := (trueTo_ledgerAfter earlier).readable
    have isVersioned := here catalog List.mem_cons_self
    by_cases lowers : HighWater.Lowers numericVersion (versionsOf catalog)
        (recordedIn (ledgerAfter before))
    · obtain ⟨printed, ran⟩ :=
        checkUpdate_of_downgrade isVersioned readable lowers
      refine ⟨_, congrArg Prod.fst ran, le_rfl, by simp [lowers], ?_⟩
      intro _
      rw [ledgerAfter_append]
      simp only [serveAll, ran]
    · obtain ⟨printed, final, ran, -⟩ :=
        checkUpdate_of_clean isVersioned readable lowers
      refine ⟨_, congrArg Prod.fst ran, Nat.zero_le 1, by simp [lowers], ?_⟩
      intro failed
      cases failed

end History

section Example

/-- A catalog of one tool, at this version. -/
def catalogAt (version : PyStr) : Catalog :=
  PyDict.empty.assign scaleToZeroTool.name { scaleToZeroTool with version }

theorem eq_of_catalogAt {version name : PyStr} {tool : ToolDefinition}
    (found : (catalogAt version).get? name = some tool) :
    tool.version = version := by
  rw [catalogAt, PyDict.get?_assign] at found
  split_ifs at found with here
  · cases found
    rfl
  · cases found

attribute [local instance] Reference.numerals

/-- 1.10.0 is above 1.9.0, and 1.9.9 is refused after it. -/
theorem version_ledger_high_water_of_numbers :
    recordedIn (ledgerAfter [catalogAt "1.9.0", catalogAt "1.10.0"])
        scaleToZeroTool.name = some "1.10.0" ∧
      ∃ report, (checkUpdate (catalogAt "1.9.9")
          (ledgerAfter [catalogAt "1.9.0", catalogAt "1.10.0"])).1 =
            .ok report ∧ report.exitCode = 1 := by
  have versions : ∀ version ∈ (["1.9.0", "1.10.0", "1.9.9"] : List PyStr),
      IsVersion version := by
    intro version member
    simp only [List.mem_cons, List.not_mem_nil, or_false] at member
    rcases member with rfl | rfl | rfl
    · exact ⟨⟨"1", "9", "0", by decide +kernel, by decide +kernel⟩,
        by decide +kernel⟩
    · exact ⟨⟨"1", "10", "0", by decide +kernel, by decide +kernel⟩,
        by decide +kernel⟩
    · exact ⟨⟨"1", "9", "9", by decide +kernel, by decide +kernel⟩,
        by decide +kernel⟩
  have versioned : ∀ catalog ∈
      [catalogAt "1.9.0", catalogAt "1.10.0", catalogAt "1.9.9"],
      Catalog.IsVersioned catalog := by
    intro catalog member name tool found
    apply versions
    simp only [List.mem_cons, List.not_mem_nil, or_false] at member
    rcases member with rfl | rfl | rfl <;>
      simp [eq_of_catalogAt found]
  have recorded :
      recordedIn (ledgerAfter [catalogAt "1.9.0", catalogAt "1.10.0"])
        scaleToZeroTool.name = some "1.10.0" := by
    decide +kernel
  obtain ⟨report, returned, -, exits, -⟩ :=
    (version_ledger_high_water versioned).2
      [catalogAt "1.9.0", catalogAt "1.10.0"] (catalogAt "1.9.9") [] rfl
  refine ⟨recorded, report, returned, exits.mpr ?_⟩
  exact ⟨scaleToZeroTool.name, "1.9.9", "1.10.0", rfl, recorded,
    by decide +kernel⟩

/-- A version that is shaped, with a numeral too long for `int`. -/
def overlongVersion : PyStr :=
  List.intercalate [0x2E]
    [List.replicate (maxStrDigits + 1) 0x30, [0x30], [0x30]]

theorem split_overlongVersion :
    overlongVersion.splitOn 0x2E =
      [List.replicate (maxStrDigits + 1) 0x30, [0x30], [0x30]] := by
  apply List.splitOn_intercalate
  · intro part member
    simp only [List.mem_cons, List.not_mem_nil, or_false] at member
    rcases member with rfl | rfl | rfl
    · simp
    · decide
    · decide
  · simp

theorem overlongVersion_shaped : VersionShaped overlongVersion := by
  refine ⟨_, _, _, split_overlongVersion, ?_⟩
  simp only [List.forall_mem_cons, List.not_mem_nil, false_imp_iff,
    implies_true, and_true]
  refine ⟨⟨by simp, fun point member => ?_⟩, by decide +kernel,
    by decide +kernel⟩
  rw [List.eq_of_mem_replicate member]
  decide +kernel

theorem versionTuple_overlongVersion :
    versionTuple overlongVersion = .error (.builtin .valueError) := by
  obtain ⟨_, _, _, split, decimal⟩ := overlongVersion_shaped
  have digits := List.all_eq_true.mpr fun part member =>
    (decimal part member).isdigit
  have tooLong : PyStr.toInt
      (List.replicate (maxStrDigits + 1) (0x30 : CodePoint)) =
        .error .valueError := by
    rw [PyStr.toInt, List.length_replicate, if_pos (Nat.lt_succ_self _)]
  rw [split_overlongVersion] at split
  cases split
  simp only [versionTuple, split_overlongVersion, digits, tooLong]
  rfl

/-- Checking such a version twice raises `ValueError`. -/
theorem version_ledger_overlong :
    (∀ name tool, (catalogAt overlongVersion).get? name = some tool →
      VersionShaped tool.version) ∧
    (checkUpdate (catalogAt overlongVersion)
        (ledgerAfter [catalogAt overlongVersion])).1 =
      .error (.builtin .valueError) := by
  refine ⟨fun name tool found => ?_, ?_⟩
  · rw [eq_of_catalogAt found]
    exact overlongVersion_shaped
  · have first : ledgerAfter [catalogAt overlongVersion] =
        writeLedger (PyDict.empty.assign scaleToZeroTool.name
          overlongVersion) :=
      rfl
    have held : (loadLedger (ledgerAfter [catalogAt overlongVersion])).get?
        scaleToZeroTool.name = some overlongVersion := by
      rw [first]
      exact (PyDict.get?_sortedBy _ _ _).trans (PyDict.get?_assign_self _ _ _)
    have checked : checkForDowngrades (catalogAt overlongVersion)
        (loadLedger (ledgerAfter [catalogAt overlongVersion])) =
          .error (.builtin .valueError) := by
      have entries : (catalogAt overlongVersion).entries =
          [(scaleToZeroTool.name,
            { scaleToZeroTool with version := overlongVersion })] :=
        rfl
      simp only [checkForDowngrades, entries, checkTools, checkTool, held,
        versionTuple_overlongVersion]
      rfl
    simp only [checkUpdate, checkCatalog, PyM.bind_apply, PyM.get_apply,
      PyM.ofExcept_apply, checked]

end Example

end ArgosCyberTools.ToolCatalog
