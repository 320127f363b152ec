import ArgosCyberTools.McpGateway.RateWindow
import ArgosCyberTools.McpGateway.Scenario
import ArgosCyberTools.Policies.Readable

/-!
# Failing closed

A malformed document should be a denial.  A call of `authorize` raises
instead exactly when it reaches a value that it cannot use: a remembered call
or a timestamp of the other kind, a collection that cannot be searched, a
missing field of the approval.
-/

namespace ArgosCyberTools.McpGateway

open Python ToolCatalog Policies

/-- An exception other than `TokenPassthroughError`. -/
def RaisesOther : AuthorizeExit → Prop
  | .returned _ => False
  | .raised .tokenPassthrough => False
  | .raised _ => True

@[simp]
theorem not_raisesOther_returned (result : AuthorizationResult) :
    ¬ RaisesOther (.returned result) :=
  id

section Chain

variable [PyRuntime]

/-- The fields of the envelope that are reached can be used. -/
def EnvelopeReadable (request : ToolCallRequest) (now : PyDateTime) : Prop :=
  ∀ envelope, request.safetyEnvelope = some envelope →
  ∀ envelopeHash, envelope.get? "envelope_hash" = some (.str envelopeHash) →
  hashRefPattern envelopeHash = true →
  ∀ validUntil, envelope.get? "valid_until" = some (.str validUntil) →
  ∀ limit, PyRuntime.fromisoformat validUntil = some limit →
    now.isAware = limit.isAware ∧
    (now.instant ≤ limit.instant →
      Json.Searchable (envelope.get? "target_set") ∧
      ((Json.orEmptyList (envelope.get? "target_set")).holds
          request.target = .ok true →
        Json.Searchable (envelope.get? "allowed_actions")))

variable {request : ToolCallRequest} {now : PyDateTime}

end Chain

/-! ## The whole call -/

section Calls

variable [PyRuntime] {Store : Type} [ApprovalStoreProtocol Store]
  [ReadableApprovals Store]

/--
Whatever this call reaches can be used: the history of the limiter, the
fields of the envelope behind the checks on the request, the approval behind
the safety chain.
-/
def Readable (gateway : Gateway Store) (request : ToolCallRequest)
    (currentPlanHash : Option PyStr) (now : PyDateTime)
    (tool : ToolDefinition) : Prop :=
  tool.sideEffectClass ∉ deniedInP0 →
    gateway.rateLimiter.Comparable tool.name now ∧
    ((gateway.rateLimiter.recentCalls tool.name now).length <
        tool.rateLimit.callsPerMinute →
      (requestStage gateway.targetAllowlists tool request = .ok () →
        request.action = executeAction → EnvelopeReadable request now) ∧
      (∀ approval planHash,
        documentStages gateway.targetAllowlists tool request currentPlanHash
            now = .ok (some ⟨approval, planHash⟩) →
          ReadableApprovals.Readable gateway.approvalStore approval planHash
            request.subject executorId now))

variable {gateway : Gateway Store} {request : ToolCallRequest}
  {currentPlanHash : Option PyStr} {now : Option PyDateTime}
  {ambient : Ambient} {tool : ToolDefinition}

end Calls

section Example

attribute [local instance] Reference.runtime

open Scenario

end Example

end ArgosCyberTools.McpGateway
