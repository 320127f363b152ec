import ArgosCyberTools.ToolCatalog.Governance
import ArgosCyberTools.ToolCatalog.LedgerHistory

/-!
# Versions the ledger can read back

The schema's pattern and `_version_tuple` recognise a version each in its own
way.  They part where `$` matches before a final line feed, and where a
numeral is too long for `int`.  A tool seen for the first time is recorded
without being parsed, so such a version gets into the ledger and stops every
later check of the tool.
-/

namespace ArgosCyberTools.ToolCatalog

open Python Transition

/-- The line feed. -/
def lineFeed : CodePoint := 0x0A

section ReadBack

variable [PyNumerals]

/-- `_version_tuple` returns. -/
def Parses (version : PyStr) : Prop :=
  ∃ numbers, versionTuple version = .ok numbers

/-- Every version of the ledger is parsed by `_version_tuple`. -/
def Ledger.ReadsBack (ledger : Ledger) : Prop :=
  ∀ name version, ledger.get? name = some version → Parses version

/-- The check returns, with a ledger that reads back. -/
def NeverStops (catalog : Catalog) (ledger : Ledger) : Prop :=
  ∃ result, checkForDowngrades catalog ledger = .ok result ∧
    result.updatedLedger.ReadsBack

omit [PyNumerals] in
/-- No final line feed, and no numeral too long for `int`. -/
def WellEnded (version : PyStr) : Prop :=
  version.getLast? ≠ some lineFeed ∧ VersionReadable version

omit [PyNumerals] in
def Catalog.WellEnded (catalog : Catalog) : Prop :=
  ∀ name tool, catalog.get? name = some tool →
    ToolCatalog.WellEnded tool.version

/-! ## The two recognisers -/

/-- `int` returns on short decimal texts only. -/
theorem of_toInt_eq_ok {text : PyStr} {number : Nat}
    (read : text.toInt = .ok number) :
    text.length ≤ maxStrDigits ∧
      ∀ point ∈ text, PyRuntime.isDecimal point = true := by
  unfold PyStr.toInt at read
  split_ifs at read with long
  refine ⟨not_lt.mp long, ?_⟩
  cases digits : text.mapM PyNumerals.decimalValue with
  | none => simp [digits] at read
  | some values =>
      clear read long
      induction text generalizing values with
      | nil => simp
      | cons point rest induction =>
          simp only [List.mapM_cons, Option.bind_eq_bind,
            Option.bind_eq_some_iff] at digits
          obtain ⟨digit, isDigit, others, more, -⟩ := digits
          rw [List.forall_mem_cons, PyNumerals.isDecimal_iff, isDigit]
          exact ⟨rfl, induction others more⟩

/-- Nonempty, and read by `int`: a decimal text. -/
theorem isDecimalText_of_read {text : PyStr} {number : Nat}
    (digits : text.isdigit = true) (read : text.toInt = .ok number) :
    IsDecimalText text ∧ text.length ≤ maxStrDigits := by
  obtain ⟨short, decimal⟩ := of_toInt_eq_ok read
  refine ⟨⟨?_, decimal⟩, short⟩
  rintro rfl
  cases digits

theorem parses_iff {version : PyStr} : Parses version ↔ IsVersion version := by
  constructor
  · rintro ⟨numbers, parsed⟩
    unfold versionTuple at parsed
    split at parsed
    case h_2 => cases parsed
    case h_1 major minor patch split =>
      split_ifs at parsed with digits
      simp only [bind_eq_ok_iff, mapError_eq_ok_iff] at parsed
      obtain ⟨_, readMajor, _, readMinor, _, readPatch, -⟩ := parsed
      simp only [List.all_cons, List.all_nil, Bool.and_true,
        Bool.and_eq_true] at digits
      have majorText := isDecimalText_of_read digits.1 readMajor
      have minorText := isDecimalText_of_read digits.2.1 readMinor
      have patchText := isDecimalText_of_read digits.2.2 readPatch
      refine ⟨⟨major, minor, patch, split, ?_⟩, ?_⟩
      · simp [majorText.1, minorText.1, patchText.1]
      · rw [VersionReadable, split]
        simp [majorText.2, minorText.2, patchText.2]
  · intro isVersion
    exact ⟨_, isVersion.versionTuple_eq⟩

theorem readsBack_iff {ledger : Ledger} :
    ledger.ReadsBack ↔ ledger.IsReadable := by
  simp only [Ledger.ReadsBack, Ledger.IsReadable, parses_iff]

/-- A version of the right shape ends in a digit. -/
theorem VersionShaped.getLast?_ne
    (newline : PyNumerals.isDigit lineFeed = false) {version : PyStr}
    (shaped : VersionShaped version) : version.getLast? ≠ some lineFeed := by
  obtain ⟨major, minor, patch, split, decimal⟩ := shaped
  obtain ⟨nonempty, digits⟩ := decimal patch (by simp)
  have joined : version =
      major ++ [0x2E] ++ minor ++ [0x2E] ++ patch := by
    have rejoined : [(0x2E : CodePoint)].intercalate (version.splitOn 0x2E) =
        version := List.intercalate_splitOn _
    rw [← rejoined, split]
    simp [List.intercalate]
  intro ends
  have inPatch : patch.getLast? = some lineFeed := by
    rw [joined, List.getLast?_append,
      List.getLast?_eq_some_getLast nonempty] at ends
    rw [List.getLast?_eq_some_getLast nonempty]
    exact ends
  have isDecimal := digits lineFeed (List.mem_of_mem_getLast? inPatch)
  have isDigit := PyNumerals.isDigit_of_isDecimal lineFeed isDecimal
  cases isDigit.symm.trans newline

/-- The pattern is the shape, up to a final line feed. -/
theorem versionPattern_iff {version : PyStr} :
    versionPattern version = true ↔
      VersionShaped version ∨
        version.getLast? = some lineFeed ∧ VersionShaped version.dropLast := by
  have language (text : PyStr) :
      (decide ((text.splitOn 0x2E).length = 3) &&
        (text.splitOn 0x2E).all fun part =>
          !part.isEmpty && part.all PyRuntime.isDecimal) = true ↔
        VersionShaped text := by
    rw [Bool.and_eq_true, decide_eq_true_eq, List.all_eq_true,
      List.length_eq_three]
    constructor
    · rintro ⟨⟨major, minor, patch, split⟩, parts⟩
      refine ⟨major, minor, patch, split, fun part member => ?_⟩
      simpa [IsDecimalText] using parts part (split ▸ member)
    · rintro ⟨major, minor, patch, split, decimal⟩
      refine ⟨⟨major, minor, patch, split⟩, fun part member => ?_⟩
      simpa [IsDecimalText] using decimal part (split ▸ member)
  simp only [versionPattern, matchesToEnd, Bool.or_eq_true, language]
  rw [Bool.and_eq_true, decide_eq_true_eq, language]
  rfl

/-- What the pattern accepts is parsed exactly when it is well ended. -/
theorem parses_iff_of_pattern
    (newline : PyNumerals.isDigit lineFeed = false) {version : PyStr}
    (matched : versionPattern version = true) :
    Parses version ↔ WellEnded version := by
  rw [parses_iff]
  constructor
  · rintro ⟨shaped, readable⟩
    exact ⟨shaped.getLast?_ne newline, readable⟩
  · rintro ⟨unended, readable⟩
    refine ⟨?_, readable⟩
    rcases versionPattern_iff.mp matched with shaped | ⟨ended, -⟩
    · exact shaped
    · exact absurd ended unended

/-! ## What is loaded -/

/-- A loaded definition has a version the pattern accepts. -/
theorem versionPattern_of_loaded [DocumentParsers]
    {file : PyStr × List UInt8} {tool : ToolDefinition}
    (loaded : loadDefinition file = .ok tool) :
    versionPattern tool.version = true := by
  obtain ⟨entries, -, accepted, read⟩ := loadDefinition_eq_ok loaded
  have held : fieldOf entries "version" = some (.str tool.version) := by
    simp only [ToolDefinition.fromDict, bind_eq_ok_iff, readField_eq_ok_iff,
      pure_eq_ok_iff, asStr_eq_some_iff, exists_eq_right] at read
    obtain ⟨-, -, name, -, version, isVersion, -, -, -, -, -, -, -, -, -, -,
      -, -, -, -, -, -, -, -, -, -, -, -, rfl⟩ := read
    exact isVersion
  have properties := @Schema.accepts_of_mem_allOf _
    (.properties propertySchemas) _ accepted (by simp)
  have versionSchema := @Schema.accepts_property _ _ _
    (.allOf [.type .string, .pattern versionPattern]) _ properties
    (by simp [propertySchemas]) held
  exact @Schema.accepts_of_mem_allOf _ (.pattern versionPattern) _
    versionSchema (by simp)

theorem versionPattern_of_catalog [DocumentParsers]
    {shipped : ShippedCatalog} {definitionsDir : Option Directory}
    {manifestPath : Option (Option (List UInt8))} {catalog : Catalog}
    (loaded : loadCatalog shipped definitionsDir manifestPath = .ok catalog)
    {name : PyStr} {tool : ToolDefinition}
    (found : catalog.get? name = some tool) :
    versionPattern tool.version = true := by
  refine loadDefinitions_get?_of_step
    (fun _ tool => versionPattern tool.version = true)
    versionPattern_of_loaded ?_ (loadCatalog_eq_ok loaded) name tool found
  intro key other held
  cases held

/-- A loaded catalog is read by `_version_tuple` if it is well ended. -/
theorem isVersioned_iff [DocumentParsers] {shipped : ShippedCatalog}
    {definitionsDir : Option Directory}
    {manifestPath : Option (Option (List UInt8))} {catalog : Catalog}
    (newline : PyNumerals.isDigit lineFeed = false)
    (loaded :
      loadCatalog shipped definitionsDir manifestPath = .ok catalog) :
    Catalog.IsVersioned catalog ↔ Catalog.WellEnded catalog := by
  refine forall₃_congr fun name tool found => ?_
  rw [← parses_iff]
  exact parses_iff_of_pattern newline (versionPattern_of_catalog loaded found)

/-! ## One check -/

/-- A turn parses the version it offers, or records it unread. -/
theorem checkTool_of_ok {result next : VersionCheckResult}
    {name version : PyStr}
    (checked : checkTool result name version = .ok next) :
    (Parses version ∨ next.updatedLedger.get? name = some version) ∧
      ∀ asked ≠ name, next.updatedLedger.get? asked =
        result.updatedLedger.get? asked := by
  unfold checkTool at checked
  cases held : result.updatedLedger.get? name with
  | none =>
      simp only [held] at checked
      cases checked
      refine ⟨.inr (PyDict.get?_assign_self _ _ _), fun asked other => ?_⟩
      exact PyDict.get?_assign_of_ne _ _ other
  | some recorded =>
      simp only [held, bind_eq_ok_iff] at checked
      obtain ⟨current, parsed, highest, -, turned⟩ := checked
      refine ⟨.inl ⟨current, parsed⟩, fun asked other => ?_⟩
      split_ifs at turned
      · cases turned
        rfl
      · cases turned
        exact PyDict.get?_assign_of_ne _ _ other
      · cases turned
        rfl

/-- The loop parses every version it is offered, or records it unread. -/
theorem checkTools_of_ok {entries : List (PyStr × ToolDefinition)}
    (unique : (entries.map Prod.fst).Nodup)
    {result final : VersionCheckResult}
    (checked : checkTools entries result = .ok final) :
    (∀ entry ∈ entries, Parses entry.2.version ∨
        final.updatedLedger.get? entry.1 = some entry.2.version) ∧
      ∀ asked ∉ entries.map Prod.fst, final.updatedLedger.get? asked =
        result.updatedLedger.get? asked := by
  induction entries generalizing result with
  | nil =>
      cases checked
      simp
  | cons entry rest induction =>
      obtain ⟨name, tool⟩ := entry
      rw [List.map_cons, List.nodup_cons] at unique
      simp only [checkTools, bind_eq_ok_iff] at checked
      obtain ⟨next, here, later⟩ := checked
      obtain ⟨offered, others⟩ := checkTool_of_ok here
      obtain ⟨remaining, kept⟩ := induction unique.2 later
      refine ⟨?_, fun asked absent => ?_⟩
      · rw [List.forall_mem_cons]
        refine ⟨offered.imp_right fun recorded => ?_, remaining⟩
        exact (kept name unique.1).trans recorded
      · rw [List.map_cons, List.mem_cons, not_or] at absent
        exact (kept asked absent.2).trans (others asked absent.1)

/-- A check never stops exactly when its catalog can be parsed. -/
theorem neverStops_iff {catalog : Catalog} {ledger : Ledger}
    (readable : ledger.ReadsBack) :
    NeverStops catalog ledger ↔ Catalog.IsVersioned catalog := by
  constructor
  · rintro ⟨result, checked, readsBack⟩ name tool found
    have offered := (checkTools_of_ok catalog.unique checked).1 (name, tool)
      ((PyDict.get?_eq_some_iff catalog).mp found)
    rw [← parses_iff]
    exact offered.elim id (readsBack name tool.version)
  · intro versioned
    obtain ⟨result, checked, kept, -⟩ :=
      checkForDowngrades_eq versioned (readsBack_iff.mp readable)
    exact ⟨result, checked, readsBack_iff.mpr kept⟩

/-! ## Runs of `check --update` -/

variable [DocumentParsers]

/-- What one run of the command is pointed at. -/
structure LedgerRun where
  shipped : ShippedCatalog
  definitionsDir : Option Directory

/-- `main(["check", ...])` of a run. -/
def LedgerRun.check (update : Bool) (run : LedgerRun) (file : LedgerFile) :
    Except LedgerError LedgerReport × LedgerFile :=
  versionLedgerMain run.shipped run.definitionsDir update file

/-- The catalog of the run, if it is loaded, is well ended. -/
def LedgerRun.WellEnded (run : LedgerRun) : Prop :=
  ∀ catalog, loadCatalog run.shipped run.definitionsDir none = .ok catalog →
    Catalog.WellEnded catalog

theorem LedgerRun.check_of_loaded {run : LedgerRun} {catalog : Catalog}
    (loaded :
      loadCatalog run.shipped run.definitionsDir none = .ok catalog)
    (update : Bool) (file : LedgerFile) :
    run.check update file = checkCatalog update catalog file := by
  rw [LedgerRun.check, versionLedgerMain_of_loaded update loaded]

/-- A run whose catalog does not load leaves the file as it was. -/
theorem LedgerRun.check_of_unloaded {run : LedgerRun} {error : CatalogError}
    (unloaded :
      loadCatalog run.shipped run.definitionsDir none = .error error)
    (update : Bool) (file : LedgerFile) :
    run.check update file = (.error (.catalog error), file) := by
  rw [LedgerRun.check, versionLedgerMain, unloaded]
  rfl

omit [DocumentParsers] in
/-- A catalog that can be parsed gets a verdict, and a file that reads back. -/
theorem exists_verdict {catalog : Catalog} {file : LedgerFile}
    (update : Bool) (versioned : Catalog.IsVersioned catalog)
    (readable : (loadLedger file).ReadsBack) :
    ∃ report final, checkCatalog update catalog file = (.ok report, final) ∧
      (loadLedger final).ReadsBack := by
  obtain ⟨result, checked, readsBack⟩ :=
    (neverStops_iff readable).mpr versioned
  have written : (loadLedger (writeLedger result.updatedLedger)).ReadsBack := by
    intro name version held
    refine readsBack name version ?_
    rwa [← PyDict.get?_sortedBy (· ≤ ·)]
  simp only [checkCatalog, PyM.bind_apply, PyM.get_apply,
    PyM.ofExcept_apply, checked]
  cases result.isOk with
  | true =>
      cases update with
      | true => exact ⟨_, _, rfl, written⟩
      | false => exact ⟨_, file, rfl, readable⟩
  | false => exact ⟨_, file, rfl, readable⟩

/-- The file after these runs of `check --update`. -/
def fileAfter (runs : List LedgerRun) (file : LedgerFile) : LedgerFile :=
  (serveAll (LedgerRun.check true) runs file).2

/-- Runs on well-ended catalogs leave a file that reads back. -/
theorem readsBack_fileAfter (newline : PyNumerals.isDigit lineFeed = false)
    {runs : List LedgerRun} (wellEnded : ∀ run ∈ runs, run.WellEnded)
    {file : LedgerFile} (readable : (loadLedger file).ReadsBack) :
    (loadLedger (fileAfter runs file)).ReadsBack := by
  induction runs generalizing file with
  | nil => exact readable
  | cons run rest induction =>
      obtain ⟨here, later⟩ := List.forall_mem_cons.mp wellEnded
      refine induction later ?_
      cases loaded : loadCatalog run.shipped run.definitionsDir none with
      | error error =>
          rw [LedgerRun.check_of_unloaded loaded]
          exact readable
      | ok catalog =>
          have versioned := (isVersioned_iff newline loaded).mpr
            (here catalog loaded)
          obtain ⟨report, final, ran, readsBack⟩ :=
            exists_verdict true versioned readable
          rw [LedgerRun.check_of_loaded loaded, ran]
          exact readsBack

/--
On a ledger that reads back, the check of a loaded catalog never stops, and
records nothing it cannot read, exactly when no version ends in a line feed
or has a numeral too long for `int`.  After any runs of `check --update` on
such catalogs the file reads back, and every later check of one that loads
reaches its verdict.
-/
theorem ledger_reads_back_iff
    (newline : PyNumerals.isDigit lineFeed = false) :
    (∀ shipped definitionsDir manifestPath catalog ledger,
      loadCatalog shipped definitionsDir manifestPath = .ok catalog →
      Ledger.ReadsBack ledger →
        (NeverStops catalog ledger ↔ Catalog.WellEnded catalog)) ∧
    ∀ (runs : List LedgerRun) (file : LedgerFile),
      (∀ run ∈ runs, run.WellEnded) → (loadLedger file).ReadsBack →
        (loadLedger (fileAfter runs file)).ReadsBack ∧
        ∀ (run : LedgerRun) (update : Bool) (catalog : Catalog),
          run.WellEnded →
          loadCatalog run.shipped run.definitionsDir none = .ok catalog →
            ∃ report,
              (run.check update (fileAfter runs file)).1 = .ok report := by
  constructor
  · intro shipped definitionsDir manifestPath catalog ledger loaded readable
    rw [neverStops_iff readable, isVersioned_iff newline loaded]
  · intro runs file wellEnded readable
    have readsBack := readsBack_fileAfter newline wellEnded readable
    refine ⟨readsBack, ?_⟩
    intro run update catalog ended loaded
    have versioned := (isVersioned_iff newline loaded).mpr
      (ended catalog loaded)
    obtain ⟨report, final, ran, -⟩ := exists_verdict update versioned readsBack
    refine ⟨report, ?_⟩
    rw [LedgerRun.check_of_loaded loaded, ran]

end ReadBack

section OneFile

attribute [local instance] Reference.numerals isolateParsers

theorem readsBack_empty : (loadLedger none).ReadsBack := by
  intro name version held
  cases held

/-- The shipped definition of the isolation tool is checked to the end. -/
theorem ledger_reads_back_iff_of_isolation :
    ∃ catalog,
      loadCatalog emptyShipment (some isolateDirectory) none =
          .ok catalog ∧
        NeverStops catalog (loadLedger none) := by
  have tested : ∃ catalog,
      loadCatalog emptyShipment (some isolateDirectory) none =
          .ok catalog ∧
        ∀ entry ∈ catalog.entries,
          entry.2.version.getLast? ≠ some lineFeed ∧
            VersionReadable entry.2.version := by
    apply exists_ok_of_test
    decide +kernel
  obtain ⟨catalog, loaded, ended⟩ := tested
  refine ⟨catalog, loaded, ?_⟩
  apply ((ledger_reads_back_iff (by decide)).1 _ _ _ _ _ loaded
    readsBack_empty).mpr
  intro name tool found
  exact ended (name, tool) ((PyDict.get?_eq_some_iff catalog).mp found)

end OneFile

section Example

/-- The definition of the isolation tool, with this version. -/
def isolateDocumentAt (version : PyStr) : Document :=
  isolateDocument.map fun entry =>
    if entry.1 = ("version" : PyStr) then (entry.1, .str version) else entry

/-- A version written with an escape inside double quotes. -/
def escapedYaml : List UInt8 :=
  (PyStr.ofString
    "name: isolate_kubernetes_workload\nversion: \"1.0.0\\n\"\n" ++
      "risk_level: high\nmode: [dry-run, execute]\n" ++
      "required_scope: cyber.response.execute\napproval_required: true\n" ++
      "idempotent: true\ntimeout_seconds: 30\n" ++
      "target_allowlist_required: true\nrollback_supported: true\n" ++
      "evidence_required: true\nside_effect_class: REVERSIBLE_WRITE\n" ++
      "rate_limit:\n  calls_per_minute: 5\n").flatMap utf8Bytes

def escapedVersion : PyStr := "1.0.0\n"

/-- Parsers for a directory in which this is the only file. -/
@[reducible]
def escapedParsers : DocumentParsers where
  yamlSafeLoad _ := some (.dict (isolateDocumentAt escapedVersion))
  jsonLoads _ := none

def escapedRun : LedgerRun where
  shipped := emptyShipment
  definitionsDir :=
    some (PyDict.ofList [("isolate_kubernetes_workload", escapedYaml)])

attribute [local instance] Reference.numerals escapedParsers

/-- The version is accepted with its line feed. -/
theorem escapedRun_loads :
    ∃ catalog,
      loadCatalog escapedRun.shipped escapedRun.definitionsDir none =
          .ok catalog ∧
        catalog.entries =
          [(isolateKubernetesWorkloadTool.name,
            { isolateKubernetesWorkloadTool with
              version := escapedVersion })] := by
  apply exists_ok_of_test
  decide +kernel

theorem escapedVersion_invalid :
    versionTuple escapedVersion =
      .error (.invalidLedgerVersion escapedVersion) := by
  rfl

theorem not_parses_escapedVersion : ¬ Parses escapedVersion := by
  rintro ⟨numbers, parsed⟩
  cases escapedVersion_invalid.symm.trans parsed

/-- After a run on this definition, the next check raises. -/
theorem ledger_stops :
    (∃ catalog,
      loadCatalog escapedRun.shipped escapedRun.definitionsDir none =
          .ok catalog ∧
        ¬ NeverStops catalog (loadLedger none)) ∧
      (loadLedger none).ReadsBack ∧
      ¬ (loadLedger (fileAfter [escapedRun] none)).ReadsBack ∧
      (escapedRun.check false (fileAfter [escapedRun] none)).1 =
        .error (.invalidLedgerVersion escapedVersion) := by
  obtain ⟨catalog, loaded, entries⟩ := escapedRun_loads
  have first : checkForDowngrades catalog (loadLedger none) =
      .ok ⟨[], PyDict.empty.assign isolateKubernetesWorkloadTool.name
        escapedVersion⟩ := by
    rw [checkForDowngrades, entries]
    rfl
  have final : fileAfter [escapedRun] none =
      writeLedger (PyDict.empty.assign isolateKubernetesWorkloadTool.name
        escapedVersion) := by
    change (escapedRun.check true none).2 = _
    rw [LedgerRun.check_of_loaded loaded]
    simp only [checkCatalog, PyM.bind_apply, PyM.get_apply,
      PyM.ofExcept_apply, first]
    rfl
  have held : (loadLedger (fileAfter [escapedRun] none)).get?
      isolateKubernetesWorkloadTool.name = some escapedVersion := by
    rw [final]
    exact (PyDict.get?_sortedBy _ _ _).trans (PyDict.get?_assign_self _ _ _)
  refine ⟨⟨catalog, loaded, ?_⟩, readsBack_empty, ?_, ?_⟩
  · rintro ⟨result, checked, readsBack⟩
    cases first.symm.trans checked
    exact not_parses_escapedVersion
      (readsBack _ _ (PyDict.get?_assign_self _ _ _))
  · intro readsBack
    exact not_parses_escapedVersion (readsBack _ _ held)
  · have checked : checkForDowngrades catalog
        (loadLedger (fileAfter [escapedRun] none)) =
          .error (.invalidLedgerVersion escapedVersion) := by
      simp only [checkForDowngrades, entries, checkTools, checkTool, held,
        escapedVersion_invalid]
      rfl
    rw [LedgerRun.check_of_loaded loaded]
    simp only [checkCatalog, PyM.bind_apply, PyM.get_apply,
      PyM.ofExcept_apply, checked]

end Example

end ArgosCyberTools.ToolCatalog
