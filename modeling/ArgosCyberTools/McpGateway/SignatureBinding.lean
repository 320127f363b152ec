import ArgosCyberTools.McpGateway.Scenario

/-!
# One signature, one context

Two granted executions whose approvals carry the same signature reference
agree on the approval id, the tool, the target and the envelope, on whatever
gateways and stores they happened.  Both hashes on the way are unwound: the
signature text ends in a plan hash of fixed length, and the plan text is a
canonical JSON text.
-/

namespace ArgosCyberTools.McpGateway

open Python ToolCatalog Policies

/-- `request.safety_envelope["envelope_hash"]`, when it is there. -/
def ToolCallRequest.envelopeHash (request : ToolCallRequest) : Option Json :=
  request.safetyEnvelope.bind fun envelope => envelope.get? "envelope_hash"

section Binding

variable [PyRuntime]

/--
A call that returned `allowed=True` for `execute` on a tool that requires an
approval, together with the approval it presented.
-/
structure ApprovedGrant (Store : Type) [ApprovalStoreProtocol Store] where
  gateway : Gateway Store
  request : ToolCallRequest
  currentPlanHash : Option PyStr
  now : Option PyDateTime
  ambient : Ambient
  result : AuthorizationResult
  final : Gateway Store
  call :
    Gateway.authorize request currentPlanHash now ambient gateway =
      (.ok result, final)
  allowed : result.allowed = true
  execute : request.action = executeAction
  tool : ToolDefinition
  found : gateway.catalog.get? request.toolName = some tool
  approvalRequired : tool.approvalRequired = true
  approval : JsonObject
  presented : request.approval = some approval

namespace ApprovedGrant

variable {Store OtherStore : Type} [ApprovalStoreProtocol Store]
  [ApprovalStoreProtocol OtherStore]

/-- The message behind the plan hash of a grant. -/
def planMessages (grant : ApprovedGrant Store) : Set (List UInt8) :=
  {message | ∃ envelopeHash,
    grant.request.envelopeHash = some (.str envelopeHash) ∧
      message =
        (planText grant.tool.name grant.request.target executeAction
          (some [("safety_envelope_hash", .str envelopeHash)])).flatMap
            utf8Bytes}

/-- The message behind the signature reference of a grant. -/
def signatureMessages (grant : ApprovedGrant Store) : Set (List UInt8) :=
  {message | ∃ approvalId planHash,
    grant.approval.get? "approval_id" = some approvalId ∧
      grant.currentPlanHash = some planHash ∧
      message = (signatureText approvalId planHash).flatMap utf8Bytes}

theorem planMessages_congr {first : ApprovedGrant Store}
    {second : ApprovedGrant OtherStore}
    (tools : first.tool.name = second.tool.name)
    (targets : first.request.target = second.request.target)
    (envelopes :
      first.request.envelopeHash = second.request.envelopeHash) :
    first.planMessages = second.planMessages := by
  simp only [planMessages, tools, targets, envelopes]

theorem signatureMessages_congr {first : ApprovedGrant Store}
    {second : ApprovedGrant OtherStore}
    (ids : first.approval.get? "approval_id" =
      second.approval.get? "approval_id")
    (plans : first.currentPlanHash = second.currentPlanHash) :
    first.signatureMessages = second.signatureMessages := by
  simp only [signatureMessages, ids, plans]

theorem planMessages_subsingleton (grant : ApprovedGrant Store) :
    grant.planMessages.Subsingleton := by
  rintro _ ⟨hash, enveloped, rfl⟩ _ ⟨otherHash, otherEnveloped, rfl⟩
  have same : hash = otherHash := by
    simpa [enveloped] using otherEnveloped
  rw [same]

theorem signatureMessages_subsingleton (grant : ApprovedGrant Store) :
    grant.signatureMessages.Subsingleton := by
  rintro _ ⟨approvalId, planHash, identified, planned, rfl⟩
    _ ⟨otherId, otherPlanHash, otherIdentified, otherPlanned, rfl⟩
  have sameId : approvalId = otherId := by
    simpa [identified] using otherIdentified
  have samePlan : planHash = otherPlanHash := by
    simpa [planned] using otherPlanned
  rw [sameId, samePlan]

/-- The chain from the signature reference back to the envelope. -/
structure SignedFor (grant : ApprovedGrant Store) (approvalId : Json)
    (planHash envelopeHash signatureRef : PyStr) : Prop where
  identified : grant.approval.get? "approval_id" = some approvalId
  planned : grant.currentPlanHash = some planHash
  enveloped : grant.request.envelopeHash = some (.str envelopeHash)
  hashScalar : SurrogateFree envelopeHash
  bound :
    boundPlanHash grant.tool.name grant.request.target envelopeHash =
      .ok planHash
  signed : computeSignatureRef approvalId planHash = .ok signatureRef
  carried : grant.approval.get? "signature_ref" = some (.str signatureRef)

/-- Every such grant was signed for its own envelope. -/
theorem exists_signedFor (grant : ApprovedGrant Store) :
    ∃ approvalId planHash envelopeHash signatureRef,
      grant.SignedFor approvalId planHash envelopeHash signatureRef := by
  obtain ⟨⟨tool, demand, granted⟩, -⟩ :=
    authorize_allowed_iff.mp ⟨grant.call, grant.allowed⟩
  have sameTool : tool = grant.tool :=
    Option.some.inj (granted.found.symm.trans grant.found)
  subst sameTool
  obtain ⟨approval, planHash, envelopeHash, planned, -, execution⟩ :=
    granted.approvedExecution grant.execute grant.approvalRequired
  obtain ⟨envelope, verification, passes⟩ := execution.chain
  have sameApproval : approval = grant.approval :=
    Option.some.inj (execution.presented.symm.trans grant.presented)
  subst sameApproval
  obtain ⟨approvalId, checked⟩ :=
    ApprovalStoreProtocol.fields_ok_of_accepted execution.accepted
  have valid := validateApprovalFields_eq_ok_iff.mp checked
  obtain ⟨signatureRef, signed, carried⟩ := valid.signed
  exact ⟨approvalId, planHash, envelopeHash, signatureRef,
    { identified := valid.identified
      planned
      enveloped := by
        simp [ToolCallRequest.envelopeHash, passes.presented,
          passes.hashGiven]
      hashScalar := surrogateFree_of_hashRefPattern passes.hashShaped
      bound := execution.bound
      signed
      carried }⟩

theorem SignedFor.planMessage_mem {grant : ApprovedGrant Store}
    {approvalId : Json} {planHash envelopeHash signatureRef : PyStr}
    (chain :
      grant.SignedFor approvalId planHash envelopeHash signatureRef) :
    (planText grant.tool.name grant.request.target executeAction
      (some [("safety_envelope_hash", .str envelopeHash)])).flatMap
        utf8Bytes ∈ grant.planMessages :=
  ⟨envelopeHash, chain.enveloped, rfl⟩

theorem SignedFor.signatureMessage_mem {grant : ApprovedGrant Store}
    {approvalId : Json} {planHash envelopeHash signatureRef : PyStr}
    (chain :
      grant.SignedFor approvalId planHash envelopeHash signatureRef) :
    (signatureText approvalId planHash).flatMap utf8Bytes ∈
      grant.signatureMessages :=
  ⟨approvalId, planHash, chain.identified, chain.planned, rfl⟩

end ApprovedGrant

variable {Store OtherStore : Type} [ApprovalStoreProtocol Store]
  [ApprovalStoreProtocol OtherStore]

/--
Grants under one signature reference agree on the approval id, the tool, the
target and the envelope hash.
-/
theorem signature_determines_context
    (first : ApprovedGrant Store) (second : ApprovedGrant OtherStore)
    {firstId secondId : PyStr}
    (firstNamed : first.approval.get? "approval_id" = some (.str firstId))
    (secondNamed : second.approval.get? "approval_id" = some (.str secondId))
    (firstToolScalar : SurrogateFree first.tool.name)
    (secondToolScalar : SurrogateFree second.tool.name)
    (firstTargetScalar : SurrogateFree first.request.target)
    (secondTargetScalar : SurrogateFree second.request.target)
    (plansUncollided :
      Set.InjOn sha256 (first.planMessages ∪ second.planMessages))
    (signaturesUncollided :
      Set.InjOn sha256 (first.signatureMessages ∪ second.signatureMessages))
    (sameSignature :
      first.approval.get? "signature_ref" =
        second.approval.get? "signature_ref") :
    firstId = secondId ∧ first.tool.name = second.tool.name ∧
      first.request.target = second.request.target ∧
      first.request.envelopeHash = second.request.envelopeHash := by
  obtain ⟨_, planHash, envelopeHash, signatureRef, chain⟩ :=
    first.exists_signedFor
  obtain ⟨_, otherPlanHash, otherEnvelopeHash, otherRef, otherChain⟩ :=
    second.exists_signedFor
  obtain rfl := Option.some.inj (chain.identified.symm.trans firstNamed)
  obtain rfl :=
    Option.some.inj (otherChain.identified.symm.trans secondNamed)
  have sameRef : signatureRef = otherRef := by
    simpa [chain.carried, otherChain.carried] using sameSignature
  subst sameRef
  -- The outer hash: one signature text, cut before the plan hash.
  have signatureTexts := signatureText_eq_of_computeSignatureRef_eq
    signaturesUncollided (.inl chain.signatureMessage_mem)
    (.inr otherChain.signatureMessage_mem) chain.signed otherChain.signed
  have sameLength : planHash.length = otherPlanHash.length :=
    (computePlanHash_length chain.bound).trans
      (computePlanHash_length otherChain.bound).symm
  obtain ⟨sameId, samePlan⟩ := signatureText_inj sameLength signatureTexts
  -- The inner hash: one plan text, read back field by field.
  have plans :
      boundPlanHash first.tool.name first.request.target envelopeHash =
        boundPlanHash second.tool.name second.request.target
          otherEnvelopeHash := by
    rw [chain.bound, otherChain.bound, samePlan]
  have planTexts := planText_eq_of_computePlanHash_eq plansUncollided
    (.inl chain.planMessage_mem) (.inr otherChain.planMessage_mem) plans
  obtain ⟨hashes, targets, tools⟩ :=
    planText_envelope_inj
      (.envelope firstToolScalar firstTargetScalar (surrogateFree_ofString _)
        chain.hashScalar)
      (.envelope secondToolScalar secondTargetScalar
        (surrogateFree_ofString _) otherChain.hashScalar)
      planTexts
  exact ⟨sameId, tools, targets, by
    rw [chain.enveloped, otherChain.enveloped, hashes]⟩

end Binding

section Example

attribute [local instance] Reference.runtime

/-- The grant of one incident to a subject, on its own gateway. -/
def Scenario.grant (subject approvalId planHash signatureRef : PyStr)
    (independent : Scenario.approverId ≠ subject)
    (bound :
      boundPlanHash isolateKubernetesWorkloadTool.name Scenario.target
        Scenario.envelopeHash = .ok planHash)
    (signed :
      computeSignatureRef (.str approvalId) planHash = .ok signatureRef) :
    ApprovedGrant ApprovalStore where
  gateway := Scenario.gateway ApprovalStore.fresh
  request := Scenario.request isolateKubernetesWorkloadTool subject
    (some (Scenario.approval approvalId signatureRef))
  currentPlanHash := some planHash
  now := some Scenario.noon
  ambient := Scenario.ambient
  result := _
  final := _
  call := Scenario.containment_granted (.inl rfl) bound signed independent
    (Finset.notMem_empty _)
  allowed := rfl
  execute := rfl
  tool := isolateKubernetesWorkloadTool
  found := rfl
  approvalRequired := rfl
  approval := Scenario.approval approvalId signatureRef
  presented := rfl

/-- Two subjects on two gateways present the approval `apr:1`. -/
theorem signature_determines_context_of_two_subjects :
    ∃ first second : ApprovedGrant ApprovalStore,
      first.request.subject ≠ second.request.subject ∧
        first.approval.get? "approval_id" = some (.str "apr:1") ∧
        first.approval.get? "signature_ref" =
          second.approval.get? "signature_ref" ∧
        first.tool.name = second.tool.name ∧
        first.request.target = second.request.target ∧
        first.request.envelopeHash = second.request.envelopeHash := by
  obtain ⟨planHash, signatureRef, bound, signed⟩ :=
    Scenario.exists_signed_plan isolateKubernetesWorkloadTool
      (surrogateFree_ofString "apr:1")
  let first := Scenario.grant "soc-analyst-1" "apr:1" planHash signatureRef
    (by decide) bound signed
  let second := Scenario.grant "soc-analyst-2" "apr:1" planHash signatureRef
    (by decide) bound signed
  have enveloped (subject : PyStr) (approval : Option JsonObject) :
      (Scenario.request isolateKubernetesWorkloadTool subject
        approval).envelopeHash = some (.str Scenario.envelopeHash) :=
    rfl
  have samePlans : first.planMessages = second.planMessages :=
    ApprovedGrant.planMessages_congr rfl
      (show Scenario.target = Scenario.target from rfl) ((enveloped _ _).trans (enveloped _ _).symm)
  have named : first.approval.get? "approval_id" = some (.str "apr:1") :=
    Scenario.approval_named _ _
  have alsoNamed :
      second.approval.get? "approval_id" = some (.str "apr:1") :=
    Scenario.approval_named _ _
  have sameRef : first.approval.get? "signature_ref" =
      second.approval.get? "signature_ref" :=
    (Scenario.approval_signed "apr:1" signatureRef).trans
      (Scenario.approval_signed "apr:1" signatureRef).symm
  have sameSignatures :
      first.signatureMessages = second.signatureMessages :=
    ApprovedGrant.signatureMessages_congr (named.trans alsoNamed.symm)
      (show some planHash = some planHash from rfl)
  have context := signature_determines_context first second named alsoNamed
    (surrogateFree_ofString _) (surrogateFree_ofString _)
    (surrogateFree_ofString _) (surrogateFree_ofString _)
    (by
      rw [samePlans, Set.union_self]
      exact second.planMessages_subsingleton.injOn _)
    (by
      rw [sameSignatures, Set.union_self]
      exact second.signatureMessages_subsingleton.injOn _) sameRef
  have differs :
      PyStr.ofString "soc-analyst-1" ≠ PyStr.ofString "soc-analyst-2" := by
    decide
  exact ⟨first, second, differs, named, sameRef, context.2⟩

end Example

end ArgosCyberTools.McpGateway
