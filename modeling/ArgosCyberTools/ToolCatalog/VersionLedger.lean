import ArgosCyberTools.Python.Reference
import ArgosCyberTools.ToolCatalog.Loading
import ArgosCyberTools.Transition.HighWater

/-!
# The version ledger

`tool_catalog.version_ledger`: a file that keeps the highest version seen of
every tool, across runs of `check --update`.  A run whose catalog has a tool
below the ledger reports the downgrade and writes nothing.  The file is
modelled by the object it holds.
-/

namespace ArgosCyberTools.ToolCatalog

open Python Transition

/-- Major, minor and patch, compared as a tuple. -/
abbrev VersionTuple := Nat ×ₗ Nat ×ₗ Nat

abbrev Ledger := PyDict PyStr PyStr

/-- The ledger file, when there is one. -/
abbrev LedgerFile := Option Ledger

inductive LedgerError where
  | invalidLedgerVersion (version : PyStr)
  | catalog (error : CatalogError)
  | builtin (error : BuiltinError)

structure VersionCheckResult where
  downgrades : List PyStr
  updatedLedger : Ledger

def VersionCheckResult.isOk (result : VersionCheckResult) : Bool :=
  result.downgrades.isEmpty

/-- What `main` prints and returns. -/
structure LedgerReport where
  printed : List PyStr
  exitCode : Nat

/-- `load_ledger`. -/
def loadLedger (file : LedgerFile) : Ledger :=
  file.getD PyDict.empty

/-- `write_ledger`, which sorts the keys. -/
def writeLedger (ledger : Ledger) : LedgerFile :=
  some (ledger.sortedBy (· ≤ ·))

/-- The text of one downgrade. -/
def downgradeText (name version recorded : PyStr) : PyStr :=
  name ++ ": versión actual " ++ version ++ " < máxima vista " ++ recorded

section Check

variable [PyNumerals]

/-- `_version_tuple`. -/
def versionTuple (version : PyStr) : Except LedgerError VersionTuple :=
  match version.splitOn 0x2E with
  | [major, minor, patch] =>
      if [major, minor, patch].all PyStr.isdigit then do
        let majorNumber ← (PyStr.toInt major).mapError .builtin
        let minorNumber ← (PyStr.toInt minor).mapError .builtin
        let patchNumber ← (PyStr.toInt patch).mapError .builtin
        return toLex (majorNumber, toLex (minorNumber, patchNumber))
      else .error (.invalidLedgerVersion version)
  | _ => .error (.invalidLedgerVersion version)

/-- One turn of the loop over the catalog. -/
def checkTool (result : VersionCheckResult) (name version : PyStr) :
    Except LedgerError VersionCheckResult :=
  match result.updatedLedger.get? name with
  | none =>
      .ok { result with
        updatedLedger := result.updatedLedger.assign name version }
  | some recorded => do
      let current ← versionTuple version
      let highest ← versionTuple recorded
      if current < highest then
        return { result with
          downgrades :=
            result.downgrades ++ [downgradeText name version recorded] }
      else if highest < current then
        return { result with
          updatedLedger := result.updatedLedger.assign name version }
      else return result

/-- The loop over `catalog.items()`. -/
def checkTools :
    List (PyStr × ToolDefinition) → VersionCheckResult →
      Except LedgerError VersionCheckResult
  | [], result => .ok result
  | (name, tool) :: rest, result => do
      let next ← checkTool result name tool.version
      checkTools rest next

def checkForDowngrades (catalog : Catalog) (ledger : Ledger) :
    Except LedgerError VersionCheckResult :=
  checkTools catalog.entries ⟨[], ledger⟩

/-- `main` once the catalog is loaded. -/
def checkCatalog (update : Bool) (catalog : Catalog) :
    PyM LedgerFile LedgerError LedgerReport := do
  let file ← PyM.get
  let result ← PyM.ofExcept (checkForDowngrades catalog (loadLedger file))
  let found := result.downgrades.map fun downgrade =>
    ("DOWNGRADE: " : PyStr) ++ downgrade
  if result.isOk then
    if update then PyM.set (writeLedger result.updatedLedger)
    return ⟨found ++ [PyStr.ofString "version_ledger OK"], 0⟩
  else
    return ⟨found, 1⟩

/-- `main(["check", ...])`. -/
def versionLedgerMain [DocumentParsers] (shipped : ShippedCatalog)
    (definitionsDir : Option Directory) (update : Bool) :
    PyM LedgerFile LedgerError LedgerReport := do
  let catalog ← PyM.ofExcept
    ((loadCatalog shipped definitionsDir none).mapError .catalog)
  checkCatalog update catalog

/-! ## Versions as numbers -/

/-- Three dot-separated decimal numerals. -/
def VersionShaped (version : PyStr) : Prop :=
  ∃ major minor patch, version.splitOn 0x2E = [major, minor, patch] ∧
    ∀ part ∈ [major, minor, patch], IsDecimalText part

/-- Every numeral of the version is short enough for `int`. -/
def VersionReadable (version : PyStr) : Prop :=
  ∀ part ∈ version.splitOn 0x2E, part.length ≤ maxStrDigits

instance (version : PyStr) : Decidable (VersionReadable version) := by
  unfold VersionReadable
  infer_instance

/-- The numeric value of a version that has one. -/
def numericVersion (version : PyStr) : VersionTuple :=
  match versionTuple version with
  | .ok numbers => numbers
  | .error _ => toLex (0, toLex (0, 0))

theorem versionTuple_of_shaped {version : PyStr}
    (shaped : VersionShaped version) (readable : VersionReadable version) :
    versionTuple version = .ok (numericVersion version) := by
  obtain ⟨major, minor, patch, split, decimal⟩ := shaped
  rw [VersionReadable, split] at readable
  simp only [List.forall_mem_cons, List.not_mem_nil, false_imp_iff,
    implies_true, and_true] at decimal readable
  obtain ⟨majorNumber, readMajor⟩ := decimal.1.exists_toInt readable.1
  obtain ⟨minorNumber, readMinor⟩ := decimal.2.1.exists_toInt readable.2.1
  obtain ⟨patchNumber, readPatch⟩ := decimal.2.2.exists_toInt readable.2.2
  have digits : [major, minor, patch].all PyStr.isdigit = true := by
    simp [decimal.1.isdigit, decimal.2.1.isdigit, decimal.2.2.isdigit]
  have computed : versionTuple version =
      .ok (toLex (majorNumber, toLex (minorNumber, patchNumber))) := by
    simp only [versionTuple, split, digits, readMajor, readMinor, readPatch]
    rfl
  rw [numericVersion, computed]

/-- A version `_version_tuple` can read. -/
structure IsVersion (version : PyStr) : Prop where
  shaped : VersionShaped version
  readable : VersionReadable version

theorem IsVersion.versionTuple_eq {version : PyStr}
    (isVersion : IsVersion version) :
    versionTuple version = .ok (numericVersion version) :=
  versionTuple_of_shaped isVersion.shaped isVersion.readable

/-! ## One catalog -/

/-- What a ledger records under each name. -/
def marksOf (ledger : Ledger) : HighWater.Marks PyStr PyStr :=
  ledger.get?

/-- The versions a list of entries offers. -/
def offersOf (entries : List (PyStr × ToolDefinition)) :
    HighWater.Marks PyStr PyStr :=
  fun name => (PyDict.lookupIn name entries).map (·.version)

/-- Every version of the ledger can be read. -/
def Ledger.IsReadable (ledger : Ledger) : Prop :=
  ∀ name version, ledger.get? name = some version → IsVersion version

/-- One turn raises the record of one name, or reports a downgrade. -/
theorem checkTool_eq {result : VersionCheckResult} (name : PyStr)
    {version : PyStr} (isVersion : IsVersion version)
    (readable : result.updatedLedger.IsReadable) :
    ∃ next, checkTool result name version = .ok next ∧
      (∀ asked, next.updatedLedger.get? asked =
        if asked = name then
          HighWater.higher numericVersion (some version)
            (result.updatedLedger.get? name)
        else result.updatedLedger.get? asked) ∧
      (next.downgrades = [] ↔ result.downgrades = [] ∧
        ∀ recorded, result.updatedLedger.get? name = some recorded →
          numericVersion recorded ≤ numericVersion version) := by
  unfold checkTool
  cases held : result.updatedLedger.get? name with
  | none =>
      refine ⟨_, rfl, fun asked => ?_, by simp⟩
      simp [PyDict.get?_assign, HighWater.higher]
  | some recorded =>
      have current := isVersion.versionTuple_eq
      have highest := (readable name recorded held).versionTuple_eq
      simp only [current, highest, bind, Except.bind, pure, Except.pure,
        HighWater.higher]
      split_ifs with lower above above
      · exact absurd above lower.not_gt
      · refine ⟨_, rfl, fun asked => ?_, ?_⟩
        · split_ifs with here
          · rw [here, held]
          · rfl
        · simp [lower]
      · refine ⟨_, rfl, fun asked => ?_, ?_⟩
        · simp only [PyDict.get?_assign]
        · simp [above.le]
      · refine ⟨_, rfl, fun asked => ?_, ?_⟩
        · split_ifs with here
          · rw [here, held]
          · rfl
        · simp [not_lt.mp lower]

theorem Ledger.IsReadable.of_higher {earlier later : Ledger}
    {name version : PyStr} (readable : earlier.IsReadable)
    (isVersion : IsVersion version)
    (slots : ∀ asked, later.get? asked =
      if asked = name then
        HighWater.higher numericVersion (some version) (earlier.get? name)
      else earlier.get? asked) :
    later.IsReadable := by
  intro asked held isHeld
  rw [slots] at isHeld
  split_ifs at isHeld with here
  · cases recorded : earlier.get? name with
    | none =>
        rw [recorded] at isHeld
        cases isHeld
        exact isVersion
    | some highest =>
        rw [recorded] at isHeld
        simp only [HighWater.higher] at isHeld
        split_ifs at isHeld
        · cases isHeld
          exact isVersion
        · cases isHeld
          exact readable name held recorded
  · exact readable asked held isHeld

/-- The loop raises the record of every name of the catalog at once. -/
theorem checkTools_eq {entries : List (PyStr × ToolDefinition)}
    (unique : (entries.map Prod.fst).Nodup)
    (versions : ∀ entry ∈ entries, IsVersion entry.2.version)
    {result : VersionCheckResult}
    (readable : result.updatedLedger.IsReadable) :
    ∃ final, checkTools entries result = .ok final ∧
      final.updatedLedger.IsReadable ∧
      marksOf final.updatedLedger =
        HighWater.raised numericVersion (offersOf entries)
          (marksOf result.updatedLedger) ∧
      (final.downgrades = [] ↔ result.downgrades = [] ∧
        ∀ entry ∈ entries, ∀ recorded,
          result.updatedLedger.get? entry.1 = some recorded →
            numericVersion recorded ≤ numericVersion entry.2.version) := by
  induction entries generalizing result with
  | nil => exact ⟨result, rfl, readable, rfl, by simp⟩
  | cons entry rest induction =>
      obtain ⟨name, tool⟩ := entry
      rw [List.map_cons, List.nodup_cons] at unique
      obtain ⟨isVersion, others⟩ := List.forall_mem_cons.mp versions
      obtain ⟨next, checked, slots, clean⟩ :=
        checkTool_eq name isVersion readable
      obtain ⟨final, ran, finalReadable, marks, finalClean⟩ :=
        induction unique.2 others (readable.of_higher isVersion slots)
      refine ⟨final, ?_, finalReadable, ?_, ?_⟩
      · simp only [checkTools, checked, bind, Except.bind, ran]
      · rw [marks]
        funext asked
        simp only [HighWater.raised, marksOf, offersOf, slots,
          PyDict.lookupIn]
        by_cases here : name = asked
        · subst here
          have absent : PyDict.lookupIn name rest = none :=
            (PyDict.lookupIn_eq_none_iff name rest).mpr unique.1
          simp [absent, HighWater.higher]
        · simp [here, Ne.symm here]
      · rw [finalClean, clean, List.forall_mem_cons, and_assoc]
        refine and_congr_right fun _ => and_congr_right fun _ => ?_
        refine forall₂_congr fun other member => ?_
        have different : other.1 ≠ name := by
          rintro rfl
          exact unique.1 (List.mem_map.mpr ⟨other, member, rfl⟩)
        rw [slots, if_neg different]

end Check

end ArgosCyberTools.ToolCatalog

