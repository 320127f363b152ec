import ArgosCyberTools.Graph.Escalation
import ArgosCyberTools.McpGateway.Scenario
import ArgosCyberTools.ToolCatalog.Governance

/-!
# Attack-path validation

`graph.attack_path`: an escalation finding is checked against the real
gateway by asking it to `execute` without an approval.  For a tool of high
or critical risk in a loaded catalog the gateway never grants that, and
whatever it does grant was attended by an approval of somebody else.
-/

namespace ArgosCyberTools.Graph

open Python ToolCatalog Policies McpGateway

inductive AttackPathDecision where
  | validated
  | outOfScope
  | gateBypassed
deriving DecidableEq

structure AttackPathResult where
  finding : EscalationFinding
  toolName : PyStr
  target : PyStr
  decision : AttackPathDecision
  reason : PyStr

/-- The markers of a denial by the approval or safety chain stages. -/
def barrierMarkers : List PyStr :=
  ["Approval", "SafetyEnvelope", "VerificationResult"]

/-- The request of an attempt: `execute`, deliberately without approval. -/
def attackRequest (toolName target subjectId : PyStr)
    (grantedScopes : Finset PyStr)
    (safetyEnvelope verificationResult : Option JsonObject) :
    ToolCallRequest where
  toolName := toolName
  target := target
  action := executeAction
  subject := subjectId
  callerToken := "attack-path-validation"
  grantedScopes := grantedScopes
  approval := none
  safetyEnvelope := safetyEnvelope
  verificationResult := verificationResult

section Validation

variable [PyRuntime] {Store : Type} [ApprovalStoreProtocol Store]

/-- The verdict on an answer of the gateway. -/
def attackVerdict (result : AuthorizationResult) :
    AttackPathDecision × PyStr :=
  if result.allowed then
    (.gateBypassed,
      "execute fue autorizado SIN Approval ni cadena de seguridad — fallo de " ++
        "defensa en profundidad")
  else if barrierMarkers.any (result.reason.text.contains ·) then
    (.validated, result.reason.text)
  else
    (.outOfScope, result.reason.text)

def validateAttackPath (finding : EscalationFinding)
    (toolName target subjectId : PyStr) (grantedScopes : Finset PyStr)
    (safetyEnvelope verificationResult : Option JsonObject)
    (ambient : Ambient) :
    PyM (Gateway Store) AuthorizeError AttackPathResult :=
  fun gateway =>
    let request := attackRequest toolName target subjectId grantedScopes
      safetyEnvelope verificationResult
    match Gateway.authorize request none none ambient gateway with
    | (.error (.toolNotFound name), final) =>
        (.ok ⟨finding, toolName, target, .outOfScope,
          "'" ++ reprText name ++ "' no existe en el catálogo actual"⟩, final)
    | (.error error, final) => (.error error, final)
    | (.ok result, final) =>
        (.ok ⟨finding, toolName, target, (attackVerdict result).1,
          (attackVerdict result).2⟩, final)

/-- The gate counts as bypassed only when the gateway allowed the attempt. -/
theorem allowed_of_gateBypassed {finding : EscalationFinding}
    {toolName target subjectId : PyStr} {grantedScopes : Finset PyStr}
    {safetyEnvelope verificationResult : Option JsonObject}
    {ambient : Ambient} {gateway final : Gateway Store}
    {validated : AttackPathResult}
    (call :
      validateAttackPath finding toolName target subjectId grantedScopes
        safetyEnvelope verificationResult ambient gateway =
          (.ok validated, final))
    (bypassed : validated.decision = .gateBypassed) :
    ∃ result,
      Gateway.authorize
          (attackRequest toolName target subjectId grantedScopes
            safetyEnvelope verificationResult) none none ambient gateway =
        (.ok result, final) ∧ result.allowed = true := by
  unfold validateAttackPath at call
  simp only at call
  split at call
  · simp only [Prod.mk.injEq, Except.ok.injEq] at call
    rw [← call.1] at bypassed
    cases bypassed
  · simp at call
  · rename_i result reached answered
    simp only [Prod.mk.injEq, Except.ok.injEq] at call
    obtain ⟨rfl, rfl⟩ := call
    refine ⟨result, answered, ?_⟩
    by_contra denied
    rw [attackVerdict, if_neg denied] at bypassed
    split_ifs at bypassed

end Validation

/-! ## High risk is always attended -/

section Attended

variable [PyRuntime] {Store : Type} [ApprovalStoreProtocol Store]

/-- An approval of somebody else, consumed by the call from `gateway` to `final`. -/
def AttendedBy (request : ToolCallRequest) (gateway final : Gateway Store) :
    Prop :=
  ∃ approval approverId planHash,
    request.approval = some approval ∧
      approval.get? "decision" = some (.str "APPROVE") ∧
      approval.get? "approver_id" = some approverId ∧
      approverId ≠ .str request.subject ∧
      ApprovalStoreProtocol.Records gateway.approvalStore
        final.approvalStore approval planHash

variable {gateway final : Gateway Store} {request : ToolCallRequest}
  {currentPlanHash : Option PyStr} {now : PyDateTime}
  {tool : ToolDefinition} {demand : Option Demand}

/-- A granted execution under an approval is attended. -/
theorem attendedBy_of_granted
    (granted :
      Granted gateway request currentPlanHash now tool demand final)
    (execute : request.action = executeAction)
    (required : tool.approvalRequired = true) :
    AttendedBy request gateway final := by
  obtain ⟨approval, planHash, envelopeHash, -, -, execution⟩ :=
    granted.approvedExecution execute required
  obtain ⟨approvalId, checked⟩ :=
    ApprovalStoreProtocol.fields_ok_of_accepted execution.accepted
  have valid := validateApprovalFields_eq_ok_iff.mp checked
  obtain ⟨approverId, named, notRequester, -⟩ := valid.independent
  exact ⟨approval, approverId, planHash, execution.presented,
    valid.approved, named, notRequester,
    ApprovalStoreProtocol.records_of_accepted execution.accepted⟩

/--
In a gateway on a loaded catalog, a tool of high or critical risk executes
only on an allowlisted target and under a consumed approval of somebody
else, and it demands evidence; an attack path through it never bypasses the
gate.
-/
theorem high_risk_attended [DocumentParsers] {shipped : ShippedCatalog}
    {definitionsDir : Option Directory}
    {manifestPath : Option (Option (List UInt8))} {gateway : Gateway Store}
    (loaded :
      loadCatalog shipped definitionsDir manifestPath = .ok gateway.catalog)
    {toolName : PyStr} {tool : ToolDefinition}
    (found : gateway.catalog.get? toolName = some tool)
    (risky : tool.riskLevel ∈ highRiskLevels) :
    (∀ request currentPlanHash now ambient result final,
      request.toolName = toolName → request.action = executeAction →
      Gateway.authorize request currentPlanHash now ambient gateway =
        (.ok result, final) →
      result.allowed = true →
        request.target ∈ allowlistOf gateway.targetAllowlists tool ∧
          AttendedBy request gateway final ∧
          tool.evidenceRequired = true) ∧
    (∀ finding target subjectId grantedScopes safetyEnvelope
        verificationResult ambient validated final,
      validateAttackPath finding toolName target subjectId grantedScopes
        safetyEnvelope verificationResult ambient gateway =
          (.ok validated, final) →
        validated.decision ≠ .gateBypassed) := by
  obtain ⟨-, governed⟩ := loadCatalog_governed loaded found
  have approvalRequired := governed.approval risky
  constructor
  · rintro request currentPlanHash now ambient result final rfl execute call
      allowed
    obtain ⟨⟨other, demand, granted⟩, -⟩ :=
      authorize_allowed_iff.mp ⟨call, allowed⟩
    have same : other = tool :=
      Option.some.inj (granted.found.symm.trans found)
    subst same
    obtain ⟨mode, -, listed⟩ :=
      requestStage_eq_ok_iff.mp granted.requestChecks
    have executable : executeAction ∈ other.mode := execute ▸ mode
    exact ⟨listed (governed.allowlist risky),
      attendedBy_of_granted granted execute approvalRequired,
      governed.evidence executable⟩
  · intro finding target subjectId grantedScopes safetyEnvelope
      verificationResult ambient validated final call bypassed
    obtain ⟨result, answered, allowed⟩ :=
      allowed_of_gateBypassed call bypassed
    obtain ⟨⟨other, demand, granted⟩, -⟩ :=
      authorize_allowed_iff.mp ⟨answered, allowed⟩
    have same : other = tool :=
      Option.some.inj (granted.found.symm.trans found)
    subst same
    obtain ⟨approval, -, -, presented, -⟩ :=
      attendedBy_of_granted granted rfl approvalRequired
    cases presented

end Attended

section Example

attribute [local instance] Reference.runtime

attribute [local instance] isolateParsers

/--
On a directory holding the containment tool, the incident's isolation is
executed attended, and no path bypasses the gate.
-/
theorem high_risk_attended_isolate :
    ∃ (gateway final : Gateway ApprovalStore) (request : ToolCallRequest)
      (planHash : PyStr) (result : AuthorizationResult),
      loadCatalog emptyShipment (some isolateDirectory) none =
          .ok gateway.catalog ∧
        request.toolName = isolateKubernetesWorkloadTool.name ∧
        request.action = executeAction ∧
        Gateway.authorize request (some planHash) (some Scenario.noon)
            Scenario.ambient gateway = (.ok result, final) ∧
        result.allowed = true ∧
        request.target ∈ allowlistOf gateway.targetAllowlists
          isolateKubernetesWorkloadTool ∧
        AttendedBy request gateway final ∧
        ∀ finding target subjectId grantedScopes safetyEnvelope
          verificationResult ambient validated final,
          validateAttackPath finding isolateKubernetesWorkloadTool.name
            target subjectId grantedScopes safetyEnvelope verificationResult
            ambient gateway = (.ok validated, final) →
          validated.decision ≠ .gateBypassed := by
  obtain ⟨catalog, loaded, found⟩ := isolateDirectory_loads
  obtain ⟨planHash, signatureRef, bound, signed⟩ :=
    Scenario.exists_signed_plan isolateKubernetesWorkloadTool
      (surrogateFree_ofString "apr:1")
  let gateway : Gateway ApprovalStore :=
    ⟨catalog, shippedAllowlists, ApprovalStore.fresh, RateLimiter.fresh⟩
  have inGateway : loadCatalog emptyShipment (some isolateDirectory) none =
      .ok gateway.catalog := loaded
  have here : gateway.catalog.get? isolateKubernetesWorkloadTool.name =
      some isolateKubernetesWorkloadTool := found
  have counted : rateLimitStage isolateKubernetesWorkloadTool Scenario.noon
      RateLimiter.fresh =
        (.ok (), Scenario.counted isolateKubernetesWorkloadTool) := rfl
  have granted := authorize_executeRequest_approved here (by decide) counted
    (by decide)
    (fun _ => Scenario.target_listed (.inl rfl))
    Scenario.envelopeHash_shaped Scenario.endOfYear_notPassed rfl bound
    signed (show Scenario.approverId ≠ "soc-analyst" by decide) (by decide)
    Scenario.endOfYear_notPassed (Finset.notMem_empty _)
    Scenario.credential_ne_callerToken
  obtain ⟨attended, unbypassed⟩ :=
    high_risk_attended inGateway here (by decide)
  obtain ⟨listed, approved, -⟩ :=
    attended _ _ _ _ _ _ rfl rfl granted rfl
  exact ⟨gateway, _, _, planHash, _, inGateway, rfl, rfl, granted, rfl,
    listed, approved, unbypassed⟩

end Example

end ArgosCyberTools.Graph
