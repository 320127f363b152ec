import ArgosCyberTools.McpGateway.ZeroExecute

/-!
# Is the effect the one that was authorised?

The gateway decides on `request.tool_name`; the effect comes from whatever
executor method the caller hands over.  The two agree exactly when the
executor is the one of the authorised tool, or when the call has no effect
to apply.
-/

namespace ArgosCyberTools.McpGateway

open Python ToolCatalog Policies Executors

/-- The tool an executor implements. -/
def toolOf : ExecutorKind → PyStr
  | .kubernetes => "isolate_kubernetes_workload"
  | .scaleToZero => "scale_to_zero"
  | .increaseMonitoring => "increase_monitoring"

section Steps

variable [PyRuntime] {Store Handle : Type} [ApprovalStoreProtocol Store]
  [DecidableEq Handle]

/-- The gateway authorised `execute` of the executor's tool on a target. -/
structure AuthorisesEffect (gateway : Gateway Store)
    (call : ExecutionCall Handle) (target : PyStr) : Prop where
  allowed : Authorised gateway call.authorize
  execute : call.authorize.request.action = executeAction
  onTarget : call.authorize.request.target = target
  ofTool : ∃ tool,
    gateway.catalog.get? call.authorize.request.toolName = some tool ∧
      tool.name = toolOf call.executor.kind

/-- Whatever the call changes in its executor's state was authorised. -/
def EffectAuthorised (contract : Contract)
    (platform : Platform Store (World Handle))
    (call : ExecutionCall Handle) : Prop :=
  ∀ outcome after target,
    ExecutionStep contract platform ⟨call, outcome⟩ after →
    slot (after.world.state call.executor.kind) target ≠
        slot (platform.world.state call.executor.kind) target →
      AuthorisesEffect platform.gateway call target

/-- The executor handed over is the one of the requested tool. -/
def Paired (gateway : Gateway Store) (call : ExecutionCall Handle) : Prop :=
  ∃ tool, gateway.catalog.get? call.authorize.request.toolName = some tool ∧
    tool.name = toolOf call.executor.kind

/-- The call has no effect to apply in this state. -/
def Inert (platform : Platform Store (World Handle))
    (call : ExecutionCall Handle) : Prop :=
  ¬ Authorised platform.gateway call.authorize ∨
    call.authorize.request.action ≠ executeAction ∨
    (platform.world.stores call.executor.store).get call.idempotencyKey ≠
      none ∨
    slot (platform.world.state call.executor.kind)
        call.authorize.request.target =
      (call.executor.kind.operation false).leaves
        call.authorize.request.target
        (platform.world.state call.executor.kind)

variable {contract : Contract} {platform after : Platform Store (World Handle)}
  {call : ExecutionCall Handle}

/-- A call that is not inert changes the slot of its target. -/
theorem changes_of_not_inert (contract : Contract)
    (active : ¬ Inert platform call) :
    ∃ outcome after,
      ExecutionStep contract platform ⟨call, outcome⟩ after ∧
        slot (after.world.state call.executor.kind)
            call.authorize.request.target ≠
          slot (platform.world.state call.executor.kind)
            call.authorize.request.target := by
  simp only [Inert, not_or, not_not] at active
  obtain ⟨allowed, execute, newKey, unsettled⟩ := active
  obtain ⟨outcome, after, step⟩ := exists_executionStep contract platform call
  refine ⟨outcome, after, step, ?_⟩
  have applied := step.applies allowed execute newKey
  intro unchanged
  apply unsettled
  rw [← unchanged, applied]
  exact (call.executor.kind.operation false).here _ _

/-- Granted containment of the shipped catalog consumed an approval for it. -/
theorem approval_consumed_of_paired {event : ExecutionEvent Handle}
    (step : ExecutionStep contract platform event after)
    (shipped : platform.gateway.catalog = shippedCatalog)
    (paired : Paired platform.gateway event.call)
    (containment : event.call.executor.kind ≠ .increaseMonitoring)
    {target : PyStr}
    (changed :
      slot (after.world.state event.call.executor.kind) target ≠
        slot (platform.world.state event.call.executor.kind) target) :
    ∃ approval planHash envelopeHash,
      event.call.authorize.request.approval = some approval ∧
        boundPlanHash (toolOf event.call.executor.kind) target
          envelopeHash = .ok planHash ∧
        ApprovalStoreProtocol.Records platform.gateway.approvalStore
          after.gateway.approvalStore approval planHash := by
  have may := step.zeroExecute.changes _ _ changed
  obtain ⟨tool, found, named⟩ := paired
  rcases step.split with ⟨refused, -⟩ | ⟨_, _, authorized, granted, -, -⟩
  · exact (refused may.allowed).elim
  · obtain ⟨⟨other, demand, through⟩, -⟩ :=
      authorize_allowed_iff.mp ⟨authorized, granted⟩
    cases found.symm.trans through.found
    rw [shipped] at found
    have required : tool.approvalRequired = true := by
      apply approvalRequired_of_containment found
      rw [named]
      cases kind : event.call.executor.kind with
      | kubernetes => exact .inl rfl
      | scaleToZero => exact .inr rfl
      | increaseMonitoring => exact (containment kind).elim
    obtain ⟨approval, planHash, envelopeHash, -, -, execution⟩ :=
      through.approvedExecution may.execute required
    refine ⟨approval, planHash, envelopeHash, execution.presented, ?_,
      ApprovalStoreProtocol.records_of_accepted execution.accepted⟩
    rw [← named, ← may.onTarget]
    exact execution.bound

/--
The effect of a call is the one that was authorised exactly when the call is
paired with the executor of its tool or has no effect to apply; and with the
shipped catalog, a paired call that isolates a workload or scales it to zero
consumed an approval for that.
-/
theorem effect_authorised_iff (contract : Contract)
    (platform : Platform Store (World Handle))
    (call : ExecutionCall Handle) :
    (EffectAuthorised contract platform call ↔
      Paired platform.gateway call ∨ Inert platform call) ∧
    (∀ outcome after target,
      platform.gateway.catalog = shippedCatalog →
      Paired platform.gateway call ∨ Inert platform call →
      ExecutionStep contract platform ⟨call, outcome⟩ after →
      call.executor.kind ≠ .increaseMonitoring →
      slot (after.world.state call.executor.kind) target ≠
          slot (platform.world.state call.executor.kind) target →
        ∃ approval planHash envelopeHash,
          call.authorize.request.approval = some approval ∧
            boundPlanHash (toolOf call.executor.kind) target envelopeHash =
              .ok planHash ∧
            ApprovalStoreProtocol.Records platform.gateway.approvalStore
              after.gateway.approvalStore approval planHash) := by
  have unchanged_of_inert : Inert platform call → ∀ outcome after target,
      ExecutionStep contract platform ⟨call, outcome⟩ after →
        slot (after.world.state call.executor.kind) target =
          slot (platform.world.state call.executor.kind) target := by
    intro inert outcome after target step
    by_contra changed
    have may := step.zeroExecute.changes _ _ changed
    rcases inert with refused | other | remembered | settled
    · exact refused may.allowed
    · exact other may.execute
    · exact remembered may.newKey
    · apply changed
      have applied := step.applies may.allowed may.execute may.newKey
      rw [applied, ← may.onTarget]
      exact ((call.executor.kind.operation false).here _ _).trans
        settled.symm
  refine ⟨⟨?_, ?_⟩, ?_⟩
  · intro authorised
    by_contra neither
    rw [not_or] at neither
    obtain ⟨outcome, after, step, changed⟩ :=
      changes_of_not_inert contract neither.2
    exact neither.1 (authorised outcome after _ step changed).ofTool
  · rintro (paired | inert) outcome after target step changed
    · have may := step.zeroExecute.changes _ _ changed
      exact ⟨may.allowed, may.execute, may.onTarget, paired⟩
    · exact (changed
        (unchanged_of_inert inert outcome after target step)).elim
  · rintro outcome after target shipped (paired | inert) step containment
      changed
    · exact approval_consumed_of_paired step shipped paired containment
        changed
    · exact (changed
        (unchanged_of_inert inert outcome after target step)).elim

end Steps

section Example

attribute [local instance] Reference.runtime

open Scenario

/--
With the shipped catalog, a granted `increase_monitoring` isolates the
workload when the caller hands over `isolate_workload`; no approval is
consumed.
-/
theorem effect_not_authorised :
    ∃ outcome final,
      ExecutionStep (fun _ => [])
          (⟨gateway ApprovalStore.fresh, untouchedWorld⟩ :
            Platform ApprovalStore (World Unit))
          ⟨monitoringCall ⟨.kubernetes, ()⟩, outcome⟩ final ∧
        slot (final.world.state .kubernetes) target =
          some (.policy (FakeClusterState.policyName target)) ∧
        final.gateway.approvalStore = ApprovalStore.fresh ∧
        ¬ EffectAuthorised (fun _ => [])
          (⟨gateway ApprovalStore.fresh, untouchedWorld⟩ :
            Platform ApprovalStore (World Unit))
          (monitoringCall ⟨.kubernetes, ()⟩) := by
  obtain ⟨outcome, final, step, applied⟩ :=
    exists_monitoringStep (fun _ => []) ⟨.kubernetes, ()⟩
  have isolated : slot (final.world.state .kubernetes) target =
      some (.policy (FakeClusterState.policyName target)) := applied
  refine ⟨outcome, final, step, isolated, ?_, ?_⟩
  · rcases step.split with ⟨refused, -⟩ | ⟨_, _, authorized, -, -, -⟩
    · exact (refused (monitoringCall_authorised _ _)).elim
    · have granted := monitoring_granted ApprovalStore.fresh "soc-analyst"
        none
      have same := authorized.symm.trans granted
      rw [(Prod.mk.inj same).2]
      rfl
  · intro authorised
    have changed : slot (final.world.state .kubernetes) target ≠
        slot (untouchedWorld.state .kubernetes) target := by
      rw [isolated]
      exact nofun
    obtain ⟨tool, found, named⟩ :=
      (authorised outcome final target step changed).ofTool
    have known : shippedCatalog.get? increaseMonitoringTool.name =
        some increaseMonitoringTool := rfl
    cases found.symm.trans known
    revert named
    decide

end Example

end ArgosCyberTools.McpGateway
