import ArgosCyberTools.Python.Reference
import ArgosCyberTools.ToolCatalog.Loading

/-!
# The shipped catalog

The five files under `tool_catalog/definitions` and the two target
allowlists under `policies/target-allowlists`, as they are loaded.
-/

namespace ArgosCyberTools.ToolCatalog

open Python

/-- The two containment tools differ in their names only. -/
def containmentTool (name : PyStr) : ToolDefinition where
  name := name
  version := "1.0.0"
  riskLevel := "high"
  mode := ["dry-run", "execute"]
  requiredScope := "cyber.response.execute"
  approvalRequired := true
  idempotent := true
  timeoutSeconds := 30
  targetAllowlistRequired := true
  rollbackSupported := true
  evidenceRequired := true
  sideEffectClass := "REVERSIBLE_WRITE"
  rateLimit := { callsPerMinute := 5 }

/-- `isolate_kubernetes_workload.yaml`. -/
def isolateKubernetesWorkloadTool : ToolDefinition :=
  containmentTool "isolate_kubernetes_workload"

/-- `scale_to_zero.yaml`. -/
def scaleToZeroTool : ToolDefinition :=
  containmentTool "scale_to_zero"

/-- `increase_monitoring.yaml`. -/
def increaseMonitoringTool : ToolDefinition where
  name := "increase_monitoring"
  version := "1.0.0"
  riskLevel := "medium"
  mode := ["dry-run", "execute"]
  requiredScope := "cyber.response.monitor"
  approvalRequired := false
  idempotent := true
  timeoutSeconds := 15
  targetAllowlistRequired := false
  rollbackSupported := true
  evidenceRequired := true
  sideEffectClass := "REVERSIBLE_WRITE"
  rateLimit := { callsPerMinute := 10 }

/-- The two read-only tools differ in their names and scopes only. -/
def readTool (name requiredScope : PyStr) : ToolDefinition where
  name := name
  version := "1.0.0"
  riskLevel := "low"
  mode := ["read-only"]
  requiredScope := requiredScope
  approvalRequired := false
  idempotent := true
  timeoutSeconds := 10
  targetAllowlistRequired := false
  rollbackSupported := false
  evidenceRequired := false
  sideEffectClass := "READ_ONLY"
  rateLimit := { callsPerMinute := 60 }

/-- `read_asset_inventory.yaml`. -/
def readAssetInventoryTool : ToolDefinition :=
  readTool "read_asset_inventory" "cyber.read.assets"

/-- `read_vulnerability_findings.yaml`. -/
def readVulnerabilityFindingsTool : ToolDefinition :=
  readTool "read_vulnerability_findings" "cyber.read.vulnerabilities"

/-- `load_catalog()`. -/
def shippedCatalog : Catalog :=
  PyDict.ofList
    ([increaseMonitoringTool, isolateKubernetesWorkloadTool,
      readAssetInventoryTool, readVulnerabilityFindingsTool,
      scaleToZeroTool].map fun tool => (tool.name, tool))

/-- `load_target_allowlists()`. -/
def shippedAllowlists : PyDict PyStr (Finset PyStr) :=
  PyDict.ofList
    [("isolate_kubernetes_workload",
        {PyStr.ofString "deployment/gseg-simulado"}),
      ("scale_to_zero", {PyStr.ofString "deployment/gseg-simulado"})]

/-- Every shipped definition is filed under its own name. -/
theorem shippedCatalog_get?_name {key : PyStr} {tool : ToolDefinition}
    (found : shippedCatalog.get? key = some tool) : key = tool.name := by
  have filed : ∀ entry ∈ shippedCatalog.entries, entry.1 = entry.2.name := by
    decide
  exact filed (key, tool) (PyDict.mem_of_lookupIn found)

/-- The shipped containment tools require an approval. -/
theorem approvalRequired_of_containment {key : PyStr}
    {tool : ToolDefinition} (found : shippedCatalog.get? key = some tool)
    (containment : tool.name = isolateKubernetesWorkloadTool.name ∨
      tool.name = scaleToZeroTool.name) :
    tool.approvalRequired = true := by
  have guarded : ∀ entry ∈ shippedCatalog.entries,
      entry.2.name = isolateKubernetesWorkloadTool.name ∨
        entry.2.name = scaleToZeroTool.name →
          entry.2.approvalRequired = true := by
    decide
  exact guarded (key, tool) (PyDict.mem_of_lookupIn found) containment

/-! ## A directory with one definition -/

section OneFile

/-- `isolate_kubernetes_workload.yaml` without its comments. -/
def isolateYaml : List UInt8 :=
  (PyStr.ofString
    "name: isolate_kubernetes_workload\nversion: 1.0.0\nrisk_level: high\n" ++
      "mode:\n  - dry-run\n  - execute\n" ++
      "required_scope: cyber.response.execute\napproval_required: true\n" ++
      "idempotent: true\ntimeout_seconds: 30\n" ++
      "target_allowlist_required: true\nrollback_supported: true\n" ++
      "evidence_required: true\nside_effect_class: REVERSIBLE_WRITE\n" ++
      "rate_limit:\n  calls_per_minute: 5\n").flatMap utf8Bytes

/-- The document in that file. -/
def isolateDocument : Document :=
  [("name", .str "isolate_kubernetes_workload"), ("version", .str "1.0.0"),
    ("risk_level", .str "high"),
    ("mode", .list [.str "dry-run", .str "execute"]),
    ("required_scope", .str "cyber.response.execute"),
    ("approval_required", .bool true), ("idempotent", .bool true),
    ("timeout_seconds", .int 30), ("target_allowlist_required", .bool true),
    ("rollback_supported", .bool true), ("evidence_required", .bool true),
    ("side_effect_class", .str "REVERSIBLE_WRITE"),
    ("rate_limit", .dict [("calls_per_minute", .int 5)])]

/-- Parsers for a directory in which this is the only file. -/
@[reducible]
def isolateParsers : DocumentParsers where
  yamlSafeLoad _ := some (.dict isolateDocument)
  jsonLoads _ := none

def isolateDirectory : Directory :=
  PyDict.ofList [("isolate_kubernetes_workload", isolateYaml)]

def emptyShipment : ShippedCatalog := ⟨PyDict.empty, none⟩

attribute [local instance] Reference.runtime isolateParsers

theorem isolateDirectory_loads :
    ∃ catalog,
      loadCatalog emptyShipment (some isolateDirectory) none =
          .ok catalog ∧
        catalog.get? "isolate_kubernetes_workload" =
          some isolateKubernetesWorkloadTool := by
  apply exists_ok_of_test
  decide +kernel

end OneFile

end ArgosCyberTools.ToolCatalog
