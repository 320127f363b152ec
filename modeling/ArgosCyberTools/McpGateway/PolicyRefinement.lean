import ArgosCyberTools.McpGateway.Consumption
import ArgosCyberTools.Policies.Opa

/-!
# The gateway against the policies

With the shipped catalog and allowlists, a call that the gateway allows is
one that the policy of its tool does not deny.  A rehearsal is allowed by the
policy too; an execution consumed the approval that the policy asks for,
except on the one tool that asks for none.
-/

namespace ArgosCyberTools.McpGateway

open Python ToolCatalog Policies Rego Transition

def dryRunAction : PyStr := "dry-run"

/-- The document a policy is asked about for a request. -/
def policyInput (request : ToolCallRequest) : PolicyInput :=
  ⟨request.toolName, request.target, request.action⟩

section Refinement

variable [PyRuntime] {Store : Type} [ApprovalStoreProtocol Store]

/-- A gateway on the catalog and the allowlists of the repository. -/
structure Shipped (gateway : Gateway Store) : Prop where
  catalog : gateway.catalog = shippedCatalog
  targetAllowlists : gateway.targetAllowlists = shippedAllowlists

/-- This call consumed an approval for the plan it was made with. -/
def ConsumedApproval (gateway : Gateway Store) (call : AuthorizeCall)
    (after : Gateway Store) : Prop :=
  ∃ approval planHash,
    call.request.approval = some approval ∧
      call.currentPlanHash = some planHash ∧
      ApprovalStoreProtocol.Records gateway.approvalStore
        after.approvalStore approval planHash

/-- What the policy says of a call that was allowed. -/
structure Sanctioned (gateway : Gateway Store) (call : AuthorizeCall)
    (after : Gateway Store) (decision : PolicyDecision) : Prop where
  notDenied : decision.result ≠ .deny
  dryRun : call.request.action = dryRunAction →
    decision.result = .allowDryRun
  execute : call.request.action = executeAction →
    decision.result = .approvalRequired ∧
        ConsumedApproval gateway call after ∨
      decision.result = .allowDryRun ∧
        call.request.toolName = increaseMonitoringTool.name

variable {gateway initial after : Gateway Store} {event : AuthorizeEvent}
  {events : List AuthorizeEvent} {decision : PolicyDecision}
  {policy : CompleteRule PolicyInput PolicyDecision}

theorem AuthorizeStep.shipped (step : AuthorizeStep gateway event after)
    (shipped : Shipped gateway) : Shipped after := by
  obtain ⟨catalog, targetAllowlists⟩ := step.configuration_eq
  constructor
  · exact catalog.trans shipped.catalog
  · exact targetAllowlists.trans shipped.targetAllowlists

/-- The definition a tool is found under, when its name is a shipped one. -/
theorem Granted.tool_eq {request : ToolCallRequest}
    {currentPlanHash : Option PyStr} {now : PyDateTime}
    {tool : ToolDefinition} {demand : Option Demand}
    (granted : Granted gateway request currentPlanHash now tool demand after)
    (expected : ToolDefinition) (shipped : Shipped gateway)
    (filed : shippedCatalog.get? expected.name = some expected)
    (named : request.toolName = expected.name) : tool = expected := by
  have found := granted.found
  rw [shipped.catalog, named, filed] at found
  exact (Option.some.inj found).symm

/-- Containment is allowed as its policy says. -/
theorem sanctioned_containment {tool : ToolDefinition}
    (containment : Scenario.IsContainment tool)
    (shipped : Shipped gateway) {demand : Option Demand}
    (named : event.call.request.toolName = tool.name)
    (granted :
      Granted gateway event.call.request event.call.currentPlanHash
        (event.call.now.getD event.call.ambient.clock) tool demand after)
    (takes :
      (containmentDecision tool.name
          {PyStr.ofString "deployment/gseg-simulado"}).Takes
        (policyInput event.call.request) decision) :
    Sanctioned gateway event.call after decision := by
  have required : tool.approvalRequired = true := by
    rcases containment with rfl | rfl <;> rfl
  have listed : event.call.request.target ∈
      ({PyStr.ofString "deployment/gseg-simulado"} : Finset PyStr) := by
    have checked := (requestStage_eq_ok_iff.mp granted.requestChecks).2.2
    rw [shipped.targetAllowlists] at checked
    rcases containment with rfl | rfl <;> exact checked rfl
  have supported : event.call.request.action = dryRunAction ∨
      event.call.request.action = executeAction := by
    have mode := (requestStage_eq_ok_iff.mp granted.requestChecks).1
    have modes : tool.mode = [dryRunAction, executeAction] := by
      rcases containment with rfl | rfl <;> rfl
    simpa [modes] using mode
  have rehearsed : event.call.request.action = dryRunAction →
      decision.result = .allowDryRun := fun dryRun =>
    containmentDecision_dryRun listed dryRun takes
  have executed : event.call.request.action = executeAction →
      decision.result = .approvalRequired := fun execute =>
    containmentDecision_execute listed execute named takes
  constructor
  · rcases supported with dryRun | execute
    · simp [rehearsed dryRun]
    · simp [executed execute]
  · exact rehearsed
  · intro execute
    obtain ⟨approval, planHash, _, given, -, execution⟩ :=
      granted.approvedExecution execute required
    exact .inl ⟨executed execute, approval, planHash, execution.presented,
      given, ApprovalStoreProtocol.records_of_accepted execution.accepted⟩

/--
On every reachable gateway, and for every value that the policy of the tool
takes, an allowed call is sanctioned.
-/
theorem never_more_permissive_than_policy (shipped : Shipped initial)
    (run : Run AuthorizeStep initial events gateway)
    (step : AuthorizeStep gateway event after)
    (governed : policyOf event.call.request.toolName = some policy)
    (takes : policy.Takes (policyInput event.call.request) decision)
    (allowed : event.Allowed) :
    Sanctioned gateway event.call after decision := by
  have here : Shipped gateway :=
    run.invariant Shipped (fun shipped step => step.shipped shipped) shipped
  obtain ⟨result, ended, isAllowed⟩ := allowed
  rw [AuthorizeStep, ended] at step
  obtain ⟨⟨tool, demand, granted⟩, -⟩ :=
    authorize_allowed_iff.mp ⟨step, isAllowed⟩
  unfold policyOf at governed
  split_ifs at governed with isolates scales monitors <;> cases governed
  · have same :=
      granted.tool_eq isolateKubernetesWorkloadTool here rfl isolates
    subst same
    exact sanctioned_containment (.inl rfl) here isolates granted takes
  · have same := granted.tool_eq scaleToZeroTool here rfl scales
    subst same
    exact sanctioned_containment (.inr rfl) here scales granted takes
  · have permits := increaseMonitoringDecision_result takes
    constructor
    · simp [permits]
    · exact fun _ => permits
    · exact fun _ => .inr ⟨permits, monitors⟩

end Refinement

section Example

attribute [local instance] Reference.runtime

open Scenario

/-- The incident's isolation, granted on a gateway that has served nothing. -/
theorem never_more_permissive_than_policy_on_isolation :
    ∃ (event : AuthorizeEvent) (after : Gateway ApprovalStore),
      event.call.request.toolName = isolateKubernetesWorkloadTool.name ∧
        event.call.request.action = executeAction ∧ event.Allowed ∧
        Sanctioned (gateway ApprovalStore.fresh) event.call after
          (isolateKubernetesWorkloadDecision.evaluate
            (policyInput event.call.request)) := by
  obtain ⟨planHash, signatureRef, bound, signed⟩ :=
    exists_signed_plan isolateKubernetesWorkloadTool
      (surrogateFree_ofString "approval-1")
  let event : AuthorizeEvent :=
    ⟨⟨request isolateKubernetesWorkloadTool "soc-analyst"
        (some (approval "approval-1" signatureRef)),
      some planHash, some noon, ambient⟩,
      .ok ⟨true, .authorised, some (mintEphemeralCredential ambient)⟩⟩
  have step : ∃ after,
      AuthorizeStep (gateway ApprovalStore.fresh) event after :=
    ⟨_, containment_granted (.inl rfl) bound signed (by decide)
      (Finset.notMem_empty _)⟩
  obtain ⟨after, step⟩ := step
  have allowed : event.Allowed := ⟨_, rfl, rfl⟩
  refine ⟨event, after, rfl, rfl, allowed, ?_⟩
  exact never_more_permissive_than_policy ⟨rfl, rfl⟩ (.done _) step rfl
    (isolateKubernetesWorkloadDecision.takes_evaluate _) allowed

/-- Monitoring is executed without an approval, and none is asked for. -/
theorem execution_without_approval :
    ∃ (event : AuthorizeEvent) (after : Gateway ApprovalStore),
      AuthorizeStep (gateway ApprovalStore.fresh) event after ∧
        event.Allowed ∧ event.call.request.action = executeAction ∧
        policyOf event.call.request.toolName =
          some increaseMonitoringDecision ∧
        (∀ decision,
          increaseMonitoringDecision.Takes (policyInput event.call.request)
              decision →
            decision.result ≠ .approvalRequired) ∧
        after.approvalStore = ApprovalStore.fresh := by
  refine ⟨⟨⟨_, _, _, _⟩, _⟩, _,
    monitoring_granted ApprovalStore.fresh "soc-analyst" none,
    ⟨_, rfl, rfl⟩, rfl, rfl, ?_, rfl⟩
  intro decision takes
  simp [increaseMonitoringDecision_result takes]

end Example

end ArgosCyberTools.McpGateway
