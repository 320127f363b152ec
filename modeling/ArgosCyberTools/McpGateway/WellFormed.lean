import ArgosCyberTools.McpGateway.Decisions
import ArgosCyberTools.Policies.Binding

/-!
# Well-formed requests are granted

The documents a correct caller presents for `execute`: a sealed envelope, a
verification of it and an approval signed for the plan of that envelope.
For every tool and target in scope, the gateway grants the request built
from them, so the conditions of the other results can be met.
-/

namespace ArgosCyberTools.McpGateway

open Python ToolCatalog Policies

/-! ## The documents -/

/-- The fields of a `SafetyEnvelope` the gateway reads. -/
def sealedEnvelope (tool : ToolDefinition)
    (target envelopeHash validUntil : PyStr) : JsonObject :=
  PyDict.ofList
    [("envelope_hash", .str envelopeHash),
      ("valid_until", .str validUntil),
      ("target_set", .list [.str target]),
      ("allowed_actions", .list [.str executeAction]),
      ("required_runbook", .str (expectedRunbook tool))]

/-- The fields of a `VerificationResult` the gateway reads. -/
def verifiedResult (tool : ToolDefinition) (target envelopeHash : PyStr) :
    JsonObject :=
  PyDict.ofList
    [("state", .str "VERIFIED"), ("envelope_hash", .str envelopeHash),
      ("tool_name", .str tool.name), ("target", .str target)]

/-- The fields of an `Approval` the stores read. -/
def signedApproval (approvalId : Json)
    (approverId expiresAt signatureRef : PyStr) : JsonObject :=
  PyDict.ofList
    [("approval_id", approvalId), ("approver_id", .str approverId),
      ("decision", .str "APPROVE"), ("expires_at", .str expiresAt),
      ("signature_ref", .str signatureRef)]

def executeRequest (tool : ToolDefinition)
    (target subject callerToken envelopeHash validUntil : PyStr)
    (approval : Option JsonObject) : ToolCallRequest where
  toolName := tool.name
  target := target
  action := executeAction
  subject := subject
  callerToken := callerToken
  grantedScopes := {tool.requiredScope}
  approval := approval
  safetyEnvelope :=
    some (sealedEnvelope tool target envelopeHash validUntil)
  verificationResult := some (verifiedResult tool target envelopeHash)

/-! ## They pass every check -/

section Checks

variable [PyRuntime] {tool : ToolDefinition}
  {target subject callerToken envelopeHash validUntil : PyStr}
  {approval : Option JsonObject} {now : PyDateTime}

/-- A timestamp that `now` has not passed. -/
def NotPassed (now : PyDateTime) (timestamp : PyStr) : Prop :=
  ∃ limit, PyRuntime.fromisoformat timestamp = some limit ∧
    now.gt limit = .ok false

theorem executeRequest_passes (shaped : hashRefPattern envelopeHash = true)
    (current : NotPassed now validUntil) :
    ChainPasses
      (executeRequest tool target subject callerToken envelopeHash validUntil
        approval)
      tool now (sealedEnvelope tool target envelopeHash validUntil)
      (verifiedResult tool target envelopeHash) envelopeHash where
  presented := rfl
  verified := rfl
  hashGiven := rfl
  hashShaped := shaped
  current := by
    obtain ⟨limit, parsed, compared⟩ := current
    exact ⟨validUntil, limit, rfl, parsed, compared⟩
  targetHeld := by
    show Json.holds (.list [.str target]) target = .ok true
    simp [Json.holds]
  actionHeld := rfl
  runbook := rfl
  stateVerified := rfl
  sameHash := rfl
  sameTool := rfl
  sameTarget := rfl

theorem signedApproval_valid {approvalId : Json}
    {approverId expiresAt signatureRef planHash requesterId : PyStr}
    (signed : computeSignatureRef approvalId planHash = .ok signatureRef)
    (notRequester : approverId ≠ requesterId)
    (notExecutor : approverId ≠ executorId)
    (alive : NotPassed now expiresAt) :
    FieldsValid
      (signedApproval approvalId approverId expiresAt signatureRef)
      planHash requesterId executorId now approvalId where
  identified := rfl
  independent :=
    ⟨.str approverId, rfl, by simpa using notRequester,
      by simpa using notExecutor⟩
  approved := rfl
  unexpired := by
    obtain ⟨expiry, parsed, compared⟩ := alive
    exact ⟨expiresAt, expiry, rfl, parsed, compared⟩
  signed := ⟨signatureRef, signed, rfl⟩

/-- Every plan hash can be signed under a scalar id. -/
theorem exists_signature {tool target action planHash approvalId : PyStr}
    {params : Option Document} (scalar : SurrogateFree approvalId)
    (computed :
      computePlanHash tool target action params = .ok planHash) :
    ∃ signatureRef,
      computeSignatureRef (.str approvalId) planHash = .ok signatureRef := by
  rw [computePlanHash_eq, Except.ok.injEq] at computed
  refine ⟨_, computeSignatureRef_eq_ok_iff.mpr ⟨?_, rfl⟩⟩
  simp only [signatureText, Json.toStr, surrogateFree_append,
    surrogateFree_ofString, and_true, scalar, true_and, ← computed]
  exact surrogateFree_hexdigest _

/-- The stages in front of the store ask for the presented approval. -/
theorem documentStages_executeRequest {allowlists : Allowlists}
    {currentPlanHash : Option PyStr} {demand : Option Demand}
    (executable : executeAction ∈ tool.mode)
    (listed : tool.targetAllowlistRequired = true →
      target ∈ allowlistOf allowlists tool)
    (shaped : hashRefPattern envelopeHash = true)
    (current : NotPassed now validUntil)
    (demanded :
      approvalStage tool
        (executeRequest tool target subject callerToken envelopeHash
          validUntil approval) currentPlanHash = .ok demand) :
    documentStages allowlists tool
      (executeRequest tool target subject callerToken envelopeHash validUntil
        approval) currentPlanHash now = .ok demand := by
  simp only [documentStages, bind_eq_ok_iff]
  refine ⟨(), requestStage_eq_ok_iff.mpr ⟨executable, ?_, listed⟩, (),
    safetyStage_eq_ok_iff.mpr fun _ =>
      ⟨_, _, _, executeRequest_passes shaped current⟩, demanded⟩
  exact Finset.mem_singleton_self tool.requiredScope

end Checks

/-! ## They are granted -/

section Grants

variable [PyRuntime] {tool : ToolDefinition}
  {target subject callerToken envelopeHash validUntil : PyStr}
  {now : PyDateTime} {ambient : Ambient}

/-- A tool without approval needs the safety documents only. -/
theorem authorize_executeRequest_unapproved {Store : Type}
    [ApprovalStoreProtocol Store] {gateway : Gateway Store}
    {limiter : RateLimiter} {approval : Option JsonObject}
    {currentPlanHash : Option PyStr}
    (found : gateway.catalog.get? tool.name = some tool)
    (inScope : tool.sideEffectClass ∉ deniedInP0)
    (counted :
      rateLimitStage tool now gateway.rateLimiter = (.ok (), limiter))
    (executable : executeAction ∈ tool.mode)
    (listed : tool.targetAllowlistRequired = true →
      target ∈ allowlistOf gateway.targetAllowlists tool)
    (shaped : hashRefPattern envelopeHash = true)
    (current : NotPassed now validUntil)
    (unapproved : tool.approvalRequired = false)
    (distinct : mintEphemeralCredential ambient ≠ callerToken) :
    Gateway.authorize
        (executeRequest tool target subject callerToken envelopeHash
          validUntil approval) currentPlanHash (some now) ambient gateway =
      (.ok ⟨true, .authorised, some (mintEphemeralCredential ambient)⟩,
        { gateway with rateLimiter := limiter }) := by
  refine (authorize_allowed_iff.mpr ⟨⟨tool, none, ?_⟩,
    mintStage_eq_ok_iff.mpr ⟨distinct, rfl⟩⟩).1
  exact
    { found, inScope, counted
      documents :=
        documentStages_executeRequest executable listed shaped current
          (by simp [approvalStage_eq_ok_iff, unapproved])
      consumed := rfl
      sameCatalog := rfl
      sameAllowlists := rfl }

/-- A tool with approval is granted under an approval not yet used. -/
theorem authorize_executeRequest_approved
    {gateway : Gateway ApprovalStore} {limiter : RateLimiter}
    {approvalId approverId expiresAt planHash signatureRef : PyStr}
    (found : gateway.catalog.get? tool.name = some tool)
    (inScope : tool.sideEffectClass ∉ deniedInP0)
    (counted :
      rateLimitStage tool now gateway.rateLimiter = (.ok (), limiter))
    (executable : executeAction ∈ tool.mode)
    (listed : tool.targetAllowlistRequired = true →
      target ∈ allowlistOf gateway.targetAllowlists tool)
    (shaped : hashRefPattern envelopeHash = true)
    (current : NotPassed now validUntil)
    (required : tool.approvalRequired = true)
    (bound :
      boundPlanHash tool.name target envelopeHash = .ok planHash)
    (signed :
      computeSignatureRef (.str approvalId) planHash = .ok signatureRef)
    (notRequester : approverId ≠ subject)
    (notExecutor : approverId ≠ executorId)
    (alive : NotPassed now expiresAt)
    (fresh : .text approvalId ∉ gateway.approvalStore.consumed)
    (distinct : mintEphemeralCredential ambient ≠ callerToken) :
    Gateway.authorize
        (executeRequest tool target subject callerToken envelopeHash
          validUntil
          (some (signedApproval (.str approvalId) approverId expiresAt
            signatureRef)))
        (some planHash) (some now) ambient gateway =
      (.ok ⟨true, .authorised, some (mintEphemeralCredential ambient)⟩,
        { gateway with
          rateLimiter := limiter
          approvalStore :=
            ⟨insert (.text approvalId) gateway.approvalStore.consumed⟩ }) := by
  refine (authorize_allowed_iff.mpr ⟨⟨tool, some
    ⟨signedApproval (.str approvalId) approverId expiresAt signatureRef,
      planHash⟩, ?_⟩, mintStage_eq_ok_iff.mpr ⟨distinct, rfl⟩⟩).1
  have accepted :
      ApprovalStore.validateAndConsume
          (signedApproval (.str approvalId) approverId expiresAt
            signatureRef)
          planHash subject executorId now gateway.approvalStore =
        (.ok (),
          ⟨insert (.text approvalId) gateway.approvalStore.consumed⟩) :=
    ApprovalStore.validateAndConsume_eq_ok_iff.mpr
      ⟨.str approvalId, .text approvalId,
        signedApproval_valid signed notRequester notExecutor alive, rfl,
        fresh, rfl⟩
  refine
    { found, inScope, counted
      documents :=
        documentStages_executeRequest executable listed shaped current ?_
      consumed := PyM.mapError_apply_eq_ok_iff.mpr accepted
      sameCatalog := rfl
      sameAllowlists := rfl }
  rw [approvalStage_eq_ok_iff, if_pos ⟨rfl, required⟩]
  refine ⟨_, planHash, rfl, rfl, ?_, rfl⟩
  rw [expectedPlanHash_of_passes rfl (executeRequest_passes shaped current)]
  exact bound

end Grants

end ArgosCyberTools.McpGateway
