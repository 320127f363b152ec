import ArgosCyberTools.McpGateway.PolicyRefinement

/-!
# The gateway and the policies agree

A call of a tool that has a policy is allowed exactly when the policy does
not deny it, the store accepts the approval if the policy asks for one, and
the checks pass that no policy makes: the action is known, the scope is
granted, the rate limit admits, the safety chain holds and the minted
credential is not the caller's token.
-/

namespace ArgosCyberTools.McpGateway

open Python ToolCatalog Policies Rego Transition

/-! ## Policies on their own -/

/-- A target that is not listed is refused, whatever the action. -/
theorem containmentDecision_unlisted {tool : PyStr}
    {targetAllowlist : Finset PyStr} {input : PolicyInput}
    {decision : PolicyDecision} (unlisted : input.target ∉ targetAllowlist)
    (takes : (containmentDecision tool targetAllowlist).Takes input decision) :
    decision.result = .deny := by
  rw [containmentDecision_consistent.takes_iff.mp takes]
  simp [CompleteRule.evaluate, containmentDecision, unlisted]

/-- The tools that have policies. -/
def IsGoverned (tool : ToolDefinition) : Prop :=
  Scenario.IsContainment tool ∨ tool = increaseMonitoringTool

/-- The tool of a governed name, and the policy that governs it. -/
theorem governed_tool {toolName : PyStr}
    {policy : CompleteRule PolicyInput PolicyDecision}
    (governed : policyOf toolName = some policy) :
    ∃ tool, IsGoverned tool ∧ toolName = tool.name ∧
      shippedCatalog.get? tool.name = some tool ∧
      tool.sideEffectClass ∉ deniedInP0 := by
  unfold policyOf at governed
  split_ifs at governed with isolates scales monitors
  · exact ⟨isolateKubernetesWorkloadTool, .inl (.inl rfl), isolates, rfl,
      by decide⟩
  · exact ⟨scaleToZeroTool, .inl (.inr rfl), scales, rfl, by decide⟩
  · exact ⟨increaseMonitoringTool, .inr rfl, monitors, rfl, by decide⟩

/-- What a policy says of a known action on a tool, given its target. -/
structure Verdict (tool : ToolDefinition) (request : ToolCallRequest)
    (decision : PolicyDecision) : Prop where
  denies : decision.result = .deny ↔
    tool.targetAllowlistRequired = true ∧
      request.target ∉ allowlistOf shippedAllowlists tool
  asks : decision.result = .approvalRequired ↔
    decision.result ≠ .deny ∧ request.action = executeAction ∧
      tool.approvalRequired = true

theorem verdict_containment {tool : ToolDefinition}
    (containment : Scenario.IsContainment tool) {request : ToolCallRequest}
    {decision : PolicyDecision} (named : request.toolName = tool.name)
    (known : request.action = dryRunAction ∨ request.action = executeAction)
    (takes :
      (containmentDecision tool.name
          {PyStr.ofString "deployment/gseg-simulado"}).Takes
        (policyInput request) decision) :
    Verdict tool request decision := by
  have required : tool.targetAllowlistRequired = true ∧
      tool.approvalRequired = true := by
    rcases containment with rfl | rfl <;> exact ⟨rfl, rfl⟩
  have lists : allowlistOf shippedAllowlists tool =
      {PyStr.ofString "deployment/gseg-simulado"} := by
    rcases containment with rfl | rfl <;> rfl
  by_cases listed : request.target ∈
      ({PyStr.ofString "deployment/gseg-simulado"} : Finset PyStr)
  · rcases known with dryRun | execute
    · have allows := containmentDecision_dryRun listed dryRun takes
      have rehearsed : request.action ≠ executeAction := by
        rw [dryRun]
        decide
      constructor <;> simp [allows, lists, listed, rehearsed]
    · have asks := containmentDecision_execute listed execute named takes
      constructor <;> simp [asks, lists, listed, execute, required]
  · have denied := containmentDecision_unlisted listed takes
    constructor <;> simp [denied, lists, listed, required]

/-- For a known action, a policy decides as the catalog and the list say. -/
theorem verdict_of_takes {tool : ToolDefinition} {request : ToolCallRequest}
    {policy : CompleteRule PolicyInput PolicyDecision}
    {decision : PolicyDecision} (isGoverned : IsGoverned tool)
    (named : request.toolName = tool.name)
    (known : request.action = dryRunAction ∨ request.action = executeAction)
    (governed : policyOf request.toolName = some policy)
    (takes : policy.Takes (policyInput request) decision) :
    Verdict tool request decision := by
  rw [named] at governed
  rcases isGoverned with containment | rfl
  · apply verdict_containment containment named known
    rcases containment with rfl | rfl
    · cases governed
      exact takes
    · cases governed
      exact takes
  · cases governed
    have allows := increaseMonitoringDecision_result takes
    have required : increaseMonitoringTool.targetAllowlistRequired = false ∧
        increaseMonitoringTool.approvalRequired = false := ⟨rfl, rfl⟩
    constructor <;> simp [allows, required]

/-! ## Policies and calls -/

section Calls

variable [PyRuntime] {Store : Type} [ApprovalStoreProtocol Store]

/-- The checks of the gateway that no policy makes. -/
structure OtherChecks (gateway : Gateway Store) (call : AuthorizeCall)
    (tool : ToolDefinition) : Prop where
  known : call.request.action = dryRunAction ∨
    call.request.action = executeAction
  scope : tool.requiredScope ∈ call.request.grantedScopes
  admitted : ∃ limiter,
    rateLimitStage tool (call.now.getD call.ambient.clock)
      gateway.rateLimiter = (.ok (), limiter)
  chain : call.request.action = executeAction →
    ∃ envelope verification envelopeHash,
      ChainPasses call.request tool (call.now.getD call.ambient.clock)
        envelope verification envelopeHash
  ownCredential :
    mintEphemeralCredential call.ambient ≠ call.request.callerToken

/-- The store accepts the presented approval for the plan of the call. -/
def ApprovalAccepted (gateway : Gateway Store) (call : AuthorizeCall)
    (tool : ToolDefinition) : Prop :=
  ∃ approval planHash store,
    call.request.approval = some approval ∧
      call.currentPlanHash = some planHash ∧
      expectedPlanHash tool call.request = .ok planHash ∧
      ApprovalStoreProtocol.validateAndConsume approval planHash
          call.request.subject executorId
          (call.now.getD call.ambient.clock) gateway.approvalStore =
        (.ok (), store)

variable {gateway initial after : Gateway Store} {event : AuthorizeEvent}
  {events : List AuthorizeEvent} {decision : PolicyDecision}
  {policy : CompleteRule PolicyInput PolicyDecision} {tool : ToolDefinition}

/-- The stages a call goes through, taken apart. -/
theorem AuthorizeStep.allowed_iff
    (step : AuthorizeStep gateway event after) (isGoverned : IsGoverned tool)
    (found : gateway.catalog.get? event.call.request.toolName = some tool)
    (inScope : tool.sideEffectClass ∉ deniedInP0) :
    event.Allowed ↔
      OtherChecks gateway event.call tool ∧
        (tool.targetAllowlistRequired = true →
          event.call.request.target ∈
            allowlistOf gateway.targetAllowlists tool) ∧
        (event.call.request.action = executeAction →
          tool.approvalRequired = true →
            ApprovalAccepted gateway event.call tool) := by
  have modes : ∀ action, action ∈ tool.mode ↔
      action = dryRunAction ∨ action = executeAction := by
    have both : tool.mode = [dryRunAction, executeAction] := by
      rcases isGoverned with (rfl | rfl) | rfl <;> rfl
    simp [both]
  constructor
  · rintro ⟨result, ended, isAllowed⟩
    rw [AuthorizeStep, ended] at step
    obtain ⟨⟨other, demand, granted⟩, minted⟩ :=
      authorize_allowed_iff.mp ⟨step, isAllowed⟩
    cases granted.found.symm.trans found
    have passed := granted.documents
    simp only [documentStages, bind_eq_ok_iff] at passed
    obtain ⟨_, requested, _, safe, approved⟩ := passed
    obtain ⟨mode, scope, listed⟩ := requestStage_eq_ok_iff.mp requested
    refine ⟨?_, listed, ?_⟩
    · exact
        { known := (modes _).mp mode
          scope := scope
          admitted := ⟨_, granted.counted⟩
          chain := safetyStage_eq_ok_iff.mp safe
          ownCredential := (mintStage_eq_ok_iff.mp minted).1 }
    · intro execute required
      rw [approvalStage_eq_ok_iff, if_pos ⟨execute, required⟩] at approved
      obtain ⟨approval, planHash, presented, given, expected, rfl⟩ := approved
      exact ⟨approval, planHash, _, presented, given, expected,
        PyM.mapError_apply_eq_ok_iff.mp granted.consumed⟩
  · rintro ⟨other, listed, approves⟩
    obtain ⟨limiter, counted⟩ := other.admitted
    obtain ⟨demand, store, approved, consumed⟩ : ∃ demand store,
        approvalStage tool event.call.request event.call.currentPlanHash =
          .ok demand ∧
        storeStage demand event.call.request
          (event.call.now.getD event.call.ambient.clock)
          gateway.approvalStore = (.ok (), store) := by
      by_cases asks : event.call.request.action = executeAction ∧
          tool.approvalRequired = true
      · obtain ⟨approval, planHash, store, presented, given, expected,
          accepted⟩ := approves asks.1 asks.2
        refine ⟨some ⟨approval, planHash⟩, store, ?_,
          PyM.mapError_apply_eq_ok_iff.mpr accepted⟩
        rw [approvalStage_eq_ok_iff, if_pos asks]
        exact ⟨approval, planHash, presented, given, expected, rfl⟩
      · refine ⟨none, gateway.approvalStore, ?_, rfl⟩
        rw [approvalStage_eq_ok_iff, if_neg asks]
    have documents : documentStages gateway.targetAllowlists tool
        event.call.request event.call.currentPlanHash
        (event.call.now.getD event.call.ambient.clock) = .ok demand := by
      simp only [documentStages, bind_eq_ok_iff]
      exact ⟨(),
        requestStage_eq_ok_iff.mpr ⟨(modes _).mpr other.known, other.scope,
          listed⟩, (), safetyStage_eq_ok_iff.mpr other.chain, approved⟩
    have through : Granted gateway event.call.request
        event.call.currentPlanHash
        (event.call.now.getD event.call.ambient.clock) tool demand
        ⟨gateway.catalog, gateway.targetAllowlists, store, limiter⟩ :=
      { found, inScope, counted, documents, consumed
        sameCatalog := rfl
        sameAllowlists := rfl }
    have minted := mintStage_eq_ok_iff.mpr ⟨other.ownCredential, rfl⟩
    obtain ⟨granted, allowed⟩ :=
      authorize_allowed_iff.mpr ⟨⟨tool, demand, through⟩, minted⟩
    have ended : event.outcome = _ :=
      congrArg Prod.fst (Eq.trans (Eq.symm step) granted)
    exact ⟨_, ended, allowed⟩

/--
On every reachable gateway, and for every value that the policy of the tool
takes, a call is allowed exactly when the other checks pass, the policy does
not deny it, and the store accepts the approval the policy asks for, if any.
-/
theorem allowed_iff_policy (shipped : Shipped initial)
    (run : Run AuthorizeStep initial events gateway)
    (step : AuthorizeStep gateway event after)
    (governed : policyOf event.call.request.toolName = some policy)
    (takes : policy.Takes (policyInput event.call.request) decision) :
    ∃ tool, shippedCatalog.get? event.call.request.toolName = some tool ∧
      (event.Allowed ↔
        OtherChecks gateway event.call tool ∧ decision.result ≠ .deny ∧
          (decision.result = .approvalRequired →
            ApprovalAccepted gateway event.call tool)) := by
  have here : Shipped gateway :=
    run.invariant Shipped (fun shipped step => step.shipped shipped) shipped
  obtain ⟨tool, isGoverned, named, filed, inScope⟩ := governed_tool governed
  rw [← named] at filed
  refine ⟨tool, filed, ?_⟩
  have found : gateway.catalog.get? event.call.request.toolName =
      some tool := by
    rw [here.catalog, filed]
  rw [step.allowed_iff isGoverned found inScope, here.targetAllowlists]
  apply and_congr_right
  intro other
  have verdict := verdict_of_takes isGoverned named other.known governed takes
  have listed : decision.result ≠ .deny ↔
      (tool.targetAllowlistRequired = true →
        event.call.request.target ∈ allowlistOf shippedAllowlists tool) := by
    rw [Ne, verdict.denies, not_and, not_not]
  rw [← listed]
  apply and_congr_right
  intro undenied
  rw [verdict.asks]
  constructor
  · rintro approves ⟨-, execute, required⟩
    exact approves execute required
  · intro approves execute required
    exact approves ⟨undenied, execute, required⟩

end Calls

/-! ## An example -/

section Example

open Scenario

attribute [local instance] Reference.runtime

/--
The incident's isolation is granted: the policy asks for an approval, the
store accepts it, and the other checks pass.
-/
theorem allowed_iff_policy_on_isolation :
    ∃ (event : AuthorizeEvent) (after : Gateway ApprovalStore)
      (tool : ToolDefinition),
      AuthorizeStep (gateway ApprovalStore.fresh) event after ∧
        shippedCatalog.get? event.call.request.toolName = some tool ∧
        OtherChecks (gateway ApprovalStore.fresh) event.call tool ∧
        (isolateKubernetesWorkloadDecision.evaluate
          (policyInput event.call.request)).result = .approvalRequired ∧
        ApprovalAccepted (gateway ApprovalStore.fresh) event.call tool := by
  obtain ⟨planHash, signatureRef, bound, signed⟩ :=
    exists_signed_plan isolateKubernetesWorkloadTool
      (surrogateFree_ofString "approval-1")
  let event : AuthorizeEvent :=
    ⟨⟨request isolateKubernetesWorkloadTool "soc-analyst"
        (some (approval "approval-1" signatureRef)),
      some planHash, some noon, ambient⟩,
      .ok ⟨true, .authorised, some (mintEphemeralCredential ambient)⟩⟩
  have step : ∃ after,
      AuthorizeStep (gateway ApprovalStore.fresh) event after :=
    ⟨_, containment_granted (.inl rfl) bound signed (by decide)
      (Finset.notMem_empty _)⟩
  obtain ⟨after, step⟩ := step
  have takes := isolateKubernetesWorkloadDecision.takes_evaluate
    (policyInput event.call.request)
  have listed : (policyInput event.call.request).target ∈
      ({PyStr.ofString "deployment/gseg-simulado"} : Finset PyStr) := by
    show PyStr.ofString "deployment/gseg-simulado" ∈ _
    exact Finset.mem_singleton_self _
  have agreement :=
    allowed_iff_policy ⟨rfl, rfl⟩ (.done _) step rfl takes
  obtain ⟨tool, filed, agreed⟩ := agreement
  have allowed : event.Allowed := ⟨_, rfl, rfl⟩
  obtain ⟨other, -, accepts⟩ := agreed.mp allowed
  have asks : (isolateKubernetesWorkloadDecision.evaluate
      (policyInput event.call.request)).result = .approvalRequired :=
    containmentDecision_execute listed rfl rfl takes
  exact ⟨event, after, tool, step, filed, other, asks, accepts asks⟩

end Example

end ArgosCyberTools.McpGateway
