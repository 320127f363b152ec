import ArgosCyberTools.McpGateway.WellFormed
import ArgosCyberTools.Python.Reference
import ArgosCyberTools.ToolCatalog.Shipped

/-!
# An incident on the shipped catalog

A gateway on the shipped catalog, run with the reference runtime, and the
requests of one incident on the allowlisted workload.  Every containment
tool is granted under any approval not yet used; `increase_monitoring` is
granted without one.
-/

namespace ArgosCyberTools.McpGateway.Scenario

open Python ToolCatalog Policies

attribute [local instance] Reference.runtime

/-- 18 August 2026, noon, UTC. -/
def noon : PyDateTime where
  wallClock := Reference.wallClockOf 2026 8 18 12 0 0
  utcOffset := some 0
  inRange := by decide

/-- The instant `endOfYear` names. -/
def newYearsEve : PyDateTime where
  wallClock := Reference.wallClockOf 2026 12 31 0 0 0
  utcOffset := some 0
  inRange := by decide

def endOfYear : PyStr := "2026-12-31T00:00:00+00:00"

def target : PyStr := "deployment/gseg-simulado"

def envelopeHash : PyStr := "sha256:" ++ List.replicate 64 (0x61 : CodePoint)

def callerToken : PyStr := "caller-token"

def approverId : PyStr := "human:soc-lead"

def ambient : Ambient := ⟨noon, "00000000000000000000000000000000"⟩

/-- A gateway as `Gateway(...)` builds it around a store. -/
def gateway {Store : Type} (store : Store) : Gateway Store where
  catalog := shippedCatalog
  targetAllowlists := shippedAllowlists
  approvalStore := store
  rateLimiter := RateLimiter.fresh

/-- The state of the rate limiter after one call of a tool. -/
def counted (tool : ToolDefinition) : RateLimiter :=
  ⟨PyDict.empty.assign tool.name [noon]⟩

/-- The request of this incident for a tool. -/
def request (tool : ToolDefinition) (subject : PyStr)
    (approval : Option JsonObject) : ToolCallRequest :=
  executeRequest tool target subject callerToken envelopeHash endOfYear
    approval

def approval (approvalId signatureRef : PyStr) : JsonObject :=
  signedApproval (.str approvalId) approverId endOfYear signatureRef

theorem approval_named (approvalId signatureRef : PyStr) :
    (approval approvalId signatureRef).get? "approval_id" =
      some (.str approvalId) :=
  rfl

theorem approval_signed (approvalId signatureRef : PyStr) :
    (approval approvalId signatureRef).get? "signature_ref" =
      some (.str signatureRef) :=
  rfl

theorem endOfYear_notPassed : NotPassed noon endOfYear :=
  ⟨newYearsEve, by decide +kernel,
    PyDateTime.gt_eq_ok_iff.mpr ⟨rfl, by decide +kernel⟩⟩

theorem envelopeHash_shaped : hashRefPattern envelopeHash = true := by
  decide +kernel

theorem credential_ne_callerToken :
    mintEphemeralCredential ambient ≠ callerToken := by
  decide

/-- The plan of this incident has a hash, and any id can sign it. -/
theorem exists_signed_plan (tool : ToolDefinition) {approvalId : PyStr}
    (scalar : SurrogateFree approvalId) :
    ∃ planHash signatureRef,
      boundPlanHash tool.name target envelopeHash = .ok planHash ∧
        computeSignatureRef (.str approvalId) planHash =
          .ok signatureRef := by
  obtain ⟨signatureRef, signed⟩ :=
    exists_signature scalar (computePlanHash_eq _ _ _ _)
  exact ⟨_, signatureRef, computePlanHash_eq _ _ _ _, signed⟩

/-- A tool that can contain a workload, as the catalog ships it. -/
def IsContainment (tool : ToolDefinition) : Prop :=
  tool = isolateKubernetesWorkloadTool ∨ tool = scaleToZeroTool

theorem target_listed {tool : ToolDefinition}
    (containment : IsContainment tool) :
    target ∈ allowlistOf shippedAllowlists tool := by
  rcases containment with rfl | rfl <;> decide

/-- Containment is granted under any approval not yet used. -/
theorem containment_granted {tool : ToolDefinition}
    (containment : IsContainment tool) {store : ApprovalStore}
    {subject approvalId planHash signatureRef : PyStr}
    (bound :
      boundPlanHash tool.name target envelopeHash = .ok planHash)
    (signed :
      computeSignatureRef (.str approvalId) planHash = .ok signatureRef)
    (independent : approverId ≠ subject)
    (fresh : .text approvalId ∉ store.consumed) :
    Gateway.authorize
        (request tool subject (some (approval approvalId signatureRef)))
        (some planHash) (some noon) ambient (gateway store) =
      (.ok ⟨true, .authorised, some (mintEphemeralCredential ambient)⟩,
        { gateway (⟨insert (.text approvalId) store.consumed⟩ :
            ApprovalStore) with
          rateLimiter := counted tool }) := by
  refine authorize_executeRequest_approved ?_ ?_ ?_ ?_
    (fun _ => target_listed containment) envelopeHash_shaped
    endOfYear_notPassed ?_ bound signed independent (by decide)
    endOfYear_notPassed fresh credential_ne_callerToken <;>
    rcases containment with rfl | rfl <;> first | rfl | decide

/-- Raising the monitoring level needs the safety documents only. -/
theorem monitoring_granted {Store : Type} [ApprovalStoreProtocol Store]
    (store : Store) (subject : PyStr) (currentPlanHash : Option PyStr) :
    Gateway.authorize (request increaseMonitoringTool subject none)
        currentPlanHash (some noon) ambient (gateway store) =
      (.ok ⟨true, .authorised, some (mintEphemeralCredential ambient)⟩,
        { gateway store with
          rateLimiter := counted increaseMonitoringTool }) :=
  authorize_executeRequest_unapproved rfl (by decide) rfl (by decide)
    (fun listed => nomatch listed) envelopeHash_shaped endOfYear_notPassed rfl
    credential_ne_callerToken

end ArgosCyberTools.McpGateway.Scenario
