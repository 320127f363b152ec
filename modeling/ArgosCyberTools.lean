import ArgosCyberTools.Coding.SelfDelimiting
import ArgosCyberTools.Python.Text
import ArgosCyberTools.Python.Effect
import ArgosCyberTools.Python.Dict
import ArgosCyberTools.Python.Datetime
import ArgosCyberTools.Python.Value
import ArgosCyberTools.Python.Runtime
import ArgosCyberTools.Python.JsonText
import ArgosCyberTools.Python.Sha256
import ArgosCyberTools.Transition.Runs
import ArgosCyberTools.Transition.Annotated
import ArgosCyberTools.Transition.SingleUse
import ArgosCyberTools.Transition.Consumer
import ArgosCyberTools.Transition.Unwinding
import ArgosCyberTools.Transition.Provenance
import ArgosCyberTools.Python.Observation
import ArgosCyberTools.Transition.Lockstep
import ArgosCyberTools.Transition.SlidingWindow
import ArgosCyberTools.Transition.HighWater
import ArgosCyberTools.Transition.LastWrite
import ArgosCyberTools.Python.JsonSchema
import ArgosCyberTools.ToolCatalog.Definition
import ArgosCyberTools.ToolCatalog.Loading
import ArgosCyberTools.Policies.Approval
import ArgosCyberTools.Policies.TargetAllowlists
import ArgosCyberTools.Python.Sqlite
import ArgosCyberTools.Policies.DurableStore
import ArgosCyberTools.Policies.KeyedStores
import ArgosCyberTools.McpGateway.RateLimiter
import ArgosCyberTools.McpGateway.RateWindow
import ArgosCyberTools.McpGateway.SafetyChain
import ArgosCyberTools.McpGateway.Authorize
import ArgosCyberTools.McpGateway.Decisions
import ArgosCyberTools.Policies.Binding
import ArgosCyberTools.Rego.CompleteRule
import ArgosCyberTools.Policies.Opa
import ArgosCyberTools.McpGateway.PolicyRefinement
import ArgosCyberTools.Python.Reference
import ArgosCyberTools.ToolCatalog.Shipped
import ArgosCyberTools.McpGateway.WellFormed
import ArgosCyberTools.AntiReplay.SignedIdentity
import ArgosCyberTools.AntiReplay.Interchange
import ArgosCyberTools.AntiReplay.Editing
import ArgosCyberTools.McpGateway.SignatureBinding
import ArgosCyberTools.McpGateway.Scenario
import ArgosCyberTools.McpGateway.ChainSoundness
import ArgosCyberTools.ToolCatalog.Governance
import ArgosCyberTools.ToolCatalog.Integrity
import ArgosCyberTools.ToolCatalog.VersionLedger
import ArgosCyberTools.ToolCatalog.LedgerHistory
import ArgosCyberTools.ToolCatalog.LedgerDocument
import ArgosCyberTools.ToolCatalog.Signing
import ArgosCyberTools.ToolCatalog.Deployments
import ArgosCyberTools.ToolCatalog.ReadBack
import ArgosCyberTools.McpGateway.Consumption
import ArgosCyberTools.McpGateway.DefaultGateway
import ArgosCyberTools.McpGateway.PolicyAgreement
import ArgosCyberTools.McpGateway.NonInterference
import ArgosCyberTools.Deployment.AtMostOnce
import ArgosCyberTools.Policies.Readable
import ArgosCyberTools.McpGateway.FailClosed
import ArgosCyberTools.Executors.Action
import ArgosCyberTools.Executors.Methods
import ArgosCyberTools.Executors.World
import ArgosCyberTools.McpGateway.ControlledExecution
import ArgosCyberTools.McpGateway.EffectAuthorised
import ArgosCyberTools.McpGateway.EffectBudget
import ArgosCyberTools.Deployment.Execution
import ArgosCyberTools.Deployment.ApprovedEffects
import ArgosCyberTools.McpGateway.Retry
import ArgosCyberTools.Rollback.FailedActions
import ArgosCyberTools.Rollback.Operations
import ArgosCyberTools.Rollback.SharedStore
import ArgosCyberTools.Rollback.Inverse
import ArgosCyberTools.Rollback.Evidence
import ArgosCyberTools.Rollback.Reported
import ArgosCyberTools.Rollback.Histories
import ArgosCyberTools.Rollback.Retried
import ArgosCyberTools.Rollback.Verification
import ArgosCyberTools.Rollback.Archived
import ArgosCyberTools.Coding.Occurrence
import ArgosCyberTools.Python.Quoting
import ArgosCyberTools.Python.Collections
import ArgosCyberTools.Graph.Model
import ArgosCyberTools.Graph.Resources
import ArgosCyberTools.Graph.Documents
import ArgosCyberTools.Graph.Exposure
import ArgosCyberTools.Graph.BlastRadius
import ArgosCyberTools.Graph.Insertion
import ArgosCyberTools.Graph.NetworkRadius
import ArgosCyberTools.Graph.RbacRadius
import ArgosCyberTools.Graph.Escalation
import ArgosCyberTools.Graph.PrivilegeReach
import ArgosCyberTools.Graph.ClusterAdmin
import ArgosCyberTools.Graph.Monotone
import ArgosCyberTools.Graph.OrderIndependence
import ArgosCyberTools.Graph.AttackPath
import ArgosCyberTools.Graph.AttackPathStages
import ArgosCyberTools.Graph.AttackPathRuns
import ArgosCyberTools.Coding.Separated
import ArgosCyberTools.Coding.Reading
import ArgosCyberTools.Python.JsonEquality
import ArgosCyberTools.Python.Canonical
import ArgosCyberTools.Python.JsonReader
import ArgosCyberTools.Python.JsonScalars
import ArgosCyberTools.Python.JsonWriter
import ArgosCyberTools.Python.CanonicalReading
import ArgosCyberTools.Python.TextFiles
import ArgosCyberTools.Python.JsonFile
import ArgosCyberTools.Policies.PlanText
