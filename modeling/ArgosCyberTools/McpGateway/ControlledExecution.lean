import ArgosCyberTools.Executors.World
import ArgosCyberTools.McpGateway.Consumption

/-!
# Controlled execution

`mcp_gateway.controlled_execution`: authorise first, and only then run the
executor method the caller handed over, with `dry_run` derived from the
requested action.  A step of the system is one such call on one gateway and
the shared states of the executors.
-/

namespace ArgosCyberTools.McpGateway

open Python ToolCatalog Policies Executors Transition

structure ExecutionOutcome where
  authorized : Bool
  authorization : AuthorizationResult
  result : Option JsonObject

inductive ExecutionError (Error : Type) where
  | authorize (error : AuthorizeError)
  | executor (error : Error)

/-- A gateway and what the executors behind it act on. -/
structure Platform (Store World : Type) where
  gateway : Gateway Store
  world : World

section Execute

variable [PyRuntime] {Store World Error : Type}
  [ApprovalStoreProtocol Store]

/-- `execute_with_authorization`, for any executor method. -/
def executeWithAuthorization
    (executorCall : ActionArguments → Bool → PyM World Error JsonObject)
    (call : AuthorizeCall) (runId idempotencyKey actionId : PyStr) :
    PyM (Platform Store World) (ExecutionError Error) ExecutionOutcome := do
  let request := call.request
  let authorization ← PyM.onField Platform.gateway
    (fun gateway platform => { platform with gateway := gateway })
    ((Gateway.authorize request call.currentPlanHash call.now
      call.ambient).mapError .authorize)
  if authorization.allowed then
    let result ← PyM.onField Platform.world
      (fun world platform => { platform with world := world })
      ((executorCall ⟨runId, request.target, idempotencyKey, actionId⟩
        (decide (request.action ≠ executeAction))).mapError .executor)
    return ⟨true, authorization, some result⟩
  else
    return ⟨false, authorization, none⟩

/-- How a call of `execute_with_authorization` ends. -/
inductive Executed
    (executorCall : ActionArguments → Bool → PyM World Error JsonObject)
    (call : AuthorizeCall) (runId idempotencyKey actionId : PyStr)
    (platform : Platform Store World) :
    Except (ExecutionError Error) ExecutionOutcome →
      Platform Store World → Prop where
  | raised {error : AuthorizeError} {gateway : Gateway Store}
      (authorized :
        Gateway.authorize call.request call.currentPlanHash call.now
          call.ambient platform.gateway = (.error error, gateway)) :
      Executed executorCall call runId idempotencyKey actionId platform
        (.error (.authorize error)) { platform with gateway := gateway }
  | denied {authorization : AuthorizationResult} {gateway : Gateway Store}
      (authorized :
        Gateway.authorize call.request call.currentPlanHash call.now
          call.ambient platform.gateway = (.ok authorization, gateway))
      (refused : authorization.allowed = false) :
      Executed executorCall call runId idempotencyKey actionId platform
        (.ok ⟨false, authorization, none⟩)
        { platform with gateway := gateway }
  | performed {authorization : AuthorizationResult}
      {gateway : Gateway Store} {result : Except Error JsonObject}
      {world : World}
      (authorized :
        Gateway.authorize call.request call.currentPlanHash call.now
          call.ambient platform.gateway = (.ok authorization, gateway))
      (allowed : authorization.allowed = true)
      (ran :
        executorCall
            ⟨runId, call.request.target, idempotencyKey, actionId⟩
            (decide (call.request.action ≠ executeAction))
            platform.world =
          (result, world)) :
      Executed executorCall call runId idempotencyKey actionId platform
        ((result.mapError .executor).map fun record =>
          ⟨true, authorization, some record⟩)
        ⟨gateway, world⟩

theorem executed
    {executorCall : ActionArguments → Bool → PyM World Error JsonObject}
    {call : AuthorizeCall} {runId idempotencyKey actionId : PyStr}
    {platform after : Platform Store World}
    {outcome : Except (ExecutionError Error) ExecutionOutcome}
    (ended :
      executeWithAuthorization executorCall call runId idempotencyKey
        actionId platform = (outcome, after)) :
    Executed executorCall call runId idempotencyKey actionId platform outcome
      after := by
  unfold executeWithAuthorization at ended
  rcases authorized : Gateway.authorize call.request call.currentPlanHash
    call.now call.ambient platform.gateway with
    ⟨error | authorization, gateway⟩
  all_goals
    simp only [PyM.bind_apply, PyM.onField_apply, PyM.mapError_fst,
      PyM.mapError_snd, authorized, Except.mapError] at ended
  · cases ended
    exact .raised authorized
  · cases allowed : authorization.allowed with
    | false =>
        rw [allowed] at ended
        cases ended
        exact .denied authorized allowed
    | true =>
        simp only [allowed, ↓reduceIte, PyM.bind_apply, PyM.onField_apply,
          PyM.mapError_fst, PyM.mapError_snd] at ended
        rcases ran : executorCall
          ⟨runId, call.request.target, idempotencyKey, actionId⟩
          (decide (call.request.action ≠ executeAction))
          platform.world with ⟨error | record, world⟩ <;>
        · rw [ran] at ended
          cases ended
          exact .performed authorized allowed ran

end Execute

/-! ## Calls with the real executors -/

/-- The arguments of one call, and what it reads outside. -/
structure ExecutionCall (Handle : Type) where
  executor : ExecutorCall Handle
  stamps : Stamps
  authorize : AuthorizeCall
  runId : PyStr
  idempotencyKey : PyStr
  actionId : PyStr

namespace ExecutionCall

variable {Handle : Type}

def arguments (call : ExecutionCall Handle) : ActionArguments :=
  ⟨call.runId, call.authorize.request.target, call.idempotencyKey,
    call.actionId⟩

/-- `dry_run` is derived from the action, never passed by the caller. -/
def dryRun (call : ExecutionCall Handle) : Bool :=
  decide (call.authorize.request.action ≠ executeAction)

end ExecutionCall

/-- A call and how it ended. -/
structure ExecutionEvent (Handle : Type) where
  call : ExecutionCall Handle
  outcome : Except (ExecutionError ActionError) ExecutionOutcome

section Steps

variable [PyRuntime] {Store Handle : Type} [ApprovalStoreProtocol Store]
  [DecidableEq Handle] {contract : Contract}

/-- The gateway allows this call in this state. -/
def Authorised (gateway : Gateway Store) (call : AuthorizeCall) : Prop :=
  ∃ authorization after,
    Gateway.authorize call.request call.currentPlanHash call.now
      call.ambient gateway = (.ok authorization, after) ∧
    authorization.allowed = true

/-- One call on one gateway and the shared states. -/
def ExecutionStep (contract : Contract)
    (platform : Platform Store (World Handle))
    (event : ExecutionEvent Handle)
    (after : Platform Store (World Handle)) : Prop :=
  executeWithAuthorization
    (event.call.executor.run contract event.call.stamps)
    event.call.authorize event.call.runId event.call.idempotencyKey
    event.call.actionId platform = (event.outcome, after)

/-- Every call ends in some way. -/
theorem exists_executionStep (contract : Contract)
    (platform : Platform Store (World Handle))
    (call : ExecutionCall Handle) :
    ∃ outcome after,
      ExecutionStep contract platform ⟨call, outcome⟩ after := by
  rcases ended : executeWithAuthorization
    (call.executor.run contract call.stamps) call.authorize call.runId
    call.idempotencyKey call.actionId platform with ⟨outcome, after⟩
  exact ⟨outcome, after, ended⟩

/-- A step runs the executor when it is allowed, and nothing otherwise. -/
theorem ExecutionStep.split {platform after : Platform Store (World Handle)}
    {event : ExecutionEvent Handle}
    (step : ExecutionStep contract platform event after) :
    ¬ Authorised platform.gateway event.call.authorize ∧
        after.world = platform.world ∨
      ∃ authorization result,
        Gateway.authorize event.call.authorize.request
            event.call.authorize.currentPlanHash event.call.authorize.now
            event.call.authorize.ambient platform.gateway =
          (.ok authorization, after.gateway) ∧
        authorization.allowed = true ∧
          Called event.call.executor contract event.call.stamps
            event.call.arguments event.call.dryRun platform.world result
            after.world ∧
          event.outcome =
            (result.mapError .executor).map fun record =>
              ⟨true, authorization, some record⟩ := by
  have ended := executed step
  generalize event.outcome = outcome at ended
  cases ended with
  | raised authorized =>
      refine .inl ⟨?_, rfl⟩
      rintro ⟨authorization, gateway, allowed, -⟩
      rw [authorized] at allowed
      cases allowed
  | denied authorized refused =>
      refine .inl ⟨?_, rfl⟩
      rintro ⟨authorization, gateway, ran, allowed⟩
      rw [authorized] at ran
      cases ran
      rw [refused] at allowed
      cases allowed
  | performed authorized allowed ran =>
      exact .inr ⟨_, _, authorized, allowed, called ran, rfl⟩

/-- An allowed `execute` under a new key applies the effect. -/
theorem ExecutionStep.applies
    {platform after : Platform Store (World Handle)}
    {event : ExecutionEvent Handle}
    (step : ExecutionStep contract platform event after)
    (allowed : Authorised platform.gateway event.call.authorize)
    (execute : event.call.authorize.request.action = executeAction)
    (newKey :
      (platform.world.stores event.call.executor.store).get
        event.call.idempotencyKey = none) :
    after.world.state event.call.executor.kind =
      (event.call.executor.effectOn false
        event.call.authorize.request.target platform.world).state := by
  have effective : event.call.dryRun = false :=
    decide_eq_false (not_not_intro execute)
  rcases step.split with ⟨refused, -⟩ | ⟨_, _, -, -, ran, -⟩
  · exact (refused allowed).elim
  · rw [effective] at ran
    exact ran.state_eq.trans (if_pos newKey)

end Steps

/-! ## A monitoring request of the incident -/

namespace Scenario

attribute [local instance] Reference.runtime

/-- No executor has acted yet. -/
def untouchedWorld : World Unit where
  cluster := ⟨PyDict.empty⟩
  replicas := ⟨PyDict.empty⟩
  monitoring := ⟨PyDict.empty⟩
  stores := fun _ => IdempotencyStore.fresh

/-- `increase_monitoring` is requested; any executor may be handed over. -/
def monitoringCall (executor : ExecutorCall Unit) : ExecutionCall Unit where
  executor := executor
  stamps := ⟨noon, noon, noon, ambient.uuidHex⟩
  authorize :=
    { request := request increaseMonitoringTool "soc-analyst" none
      currentPlanHash := none
      now := some noon
      ambient := ambient }
  runId := "run-1"
  idempotencyKey := "key-1"
  actionId := "action-1"

theorem monitoringCall_authorised {Store : Type}
    [ApprovalStoreProtocol Store] (store : Store)
    (executor : ExecutorCall Unit) :
    Authorised (gateway store) (monitoringCall executor).authorize :=
  ⟨_, _, monitoring_granted store "soc-analyst" none, rfl⟩

/-- Whatever executor is handed over, it acts on the target. -/
theorem exists_monitoringStep (contract : Contract)
    (executor : ExecutorCall Unit) :
    ∃ (outcome : Except (ExecutionError ActionError) ExecutionOutcome)
      (final : Platform ApprovalStore (World Unit)),
      ExecutionStep contract ⟨gateway ApprovalStore.fresh, untouchedWorld⟩
          ⟨monitoringCall executor, outcome⟩ final ∧
        slot (final.world.state executor.kind) target =
          (executor.kind.operation false).leaves target
            (untouchedWorld.state executor.kind) := by
  obtain ⟨outcome, final, step⟩ := exists_executionStep contract
    (⟨gateway ApprovalStore.fresh, untouchedWorld⟩ :
      Platform ApprovalStore (World Unit)) (monitoringCall executor)
  refine ⟨outcome, final, step, ?_⟩
  have applied : final.world.state executor.kind =
      (executor.effectOn false target untouchedWorld).state :=
    step.applies (monitoringCall_authorised ApprovalStore.fresh executor)
      rfl rfl
  rw [applied]
  exact (executor.kind.operation false).here target _

end Scenario

end ArgosCyberTools.McpGateway
