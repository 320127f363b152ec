import ArgosCyberTools.McpGateway.ControlledExecution
import ArgosCyberTools.McpGateway.RateWindow
import ArgosCyberTools.Policies.KeyedStores

/-!
# Retrying an authorised action

Idempotency lives in the executor, and the gateway stands in front of it.  A
retry never acts again: it is answered from the idempotency store or it is
refused.  It is answered when no approval is asked for; the approval that the
first call consumed is refused as a replay.
-/

namespace ArgosCyberTools.McpGateway

open Python ToolCatalog Policies Executors Transition

/-! ## Calling the gateway again -/

namespace AuthorizeCall

/-- The time the call is made at. -/
def effectiveNow (call : AuthorizeCall) : PyDateTime :=
  call.now.getD call.ambient.clock

/-- The same call; only what it reads outside may differ. -/
structure Repeats (call retry : AuthorizeCall) : Prop where
  request : retry.request = call.request
  currentPlanHash : retry.currentPlanHash = call.currentPlanHash
  effectiveNow : retry.effectiveNow = call.effectiveNow

/-- `execute` on a tool that requires an approval. -/
def NeedsApproval (catalog : Catalog) (call : AuthorizeCall) : Prop :=
  call.request.action = executeAction ∧
    ∃ tool, catalog.get? call.request.toolName = some tool ∧
      tool.approvalRequired = true

/-- The rate limit of the requested tool is not exhausted. -/
def LimitLeft {Store : Type} (gateway : Gateway Store)
    (call : AuthorizeCall) : Prop :=
  ∀ tool, gateway.catalog.get? call.request.toolName = some tool →
    (RateLimiter.checkAndRecord tool.name tool.rateLimit.callsPerMinute
      call.effectiveNow gateway.rateLimiter).1 ≠ .ok false

end AuthorizeCall

section Gateway

variable [PyRuntime] {Store : Type} [ApprovalStoreProtocol Store]
  {gateway after : Gateway Store} {call retry : AuthorizeCall}
  {tool : ToolDefinition} {demand : Option Demand}

/-- The checks of a granted call pass again, when the limit admits it. -/
theorem Granted.checks_again
    (granted :
      Granted gateway call.request call.currentPlanHash call.effectiveNow
        tool demand after)
    (again : call.Repeats retry) (left : retry.LimitLeft after) :
    ∃ limiter,
      checks after.catalog after.targetAllowlists retry.request
          retry.currentPlanHash retry.effectiveNow after.rateLimiter =
        (.ok demand, limiter) := by
  have found := granted.found
  have documents := granted.documents
  have admitted := rateLimitStage_eq_ok_iff.mp granted.counted
  have comparable := RateLimiter.comparable_of_admitted admitted
  rw [← granted.sameCatalog, ← again.request] at found
  rw [← granted.sameAllowlists, ← again.request, ← again.currentPlanHash,
    ← again.effectiveNow] at documents
  rw [← again.effectiveNow] at comparable
  obtain ⟨answer, answers⟩ := (RateLimiter.checkAndRecord_answers_iff _ _
    tool.rateLimit.callsPerMinute _).mpr comparable
  have notFull := left tool found
  have isTrue : answer = true := by
    cases answer with
    | true => rfl
    | false => exact (notFull answers).elim
  subst isTrue
  have counted := rateLimitStage_eq_ok_iff.mpr (Prod.ext answers rfl)
  exact ⟨_, checks_eq_ok_iff.mpr
    ⟨tool, found, granted.inScope, counted, documents⟩⟩

/-- A refusal of the store is the answer of the gateway. -/
theorem authorize_of_refusal {limiter : RateLimiter} {store : Store}
    {denial : AuthorizationResult}
    (checked :
      checks gateway.catalog gateway.targetAllowlists call.request
          call.currentPlanHash call.effectiveNow gateway.rateLimiter =
        (.ok demand, limiter))
    (refused :
      storeStage demand call.request call.effectiveNow
        gateway.approvalStore = (.error (.returned denial), store)) :
    (Gateway.authorize call.request call.currentPlanHash call.now
      call.ambient gateway).1 = .ok denial := by
  rw [AuthorizeCall.effectiveNow] at checked refused
  simp [Gateway.authorize, PyM.finish_apply, Gateway.authorizeBody,
    PyM.bind_apply, PyM.onField_apply, checked, refused, Exit.finish]

/-- Where no approval is asked for, the call is granted again. -/
theorem Granted.authorised_again
    (granted :
      Granted gateway call.request call.currentPlanHash call.effectiveNow
        tool demand after)
    (again : call.Repeats retry) (left : retry.LimitLeft after)
    (fresh : mintEphemeralCredential retry.ambient ≠
      retry.request.callerToken)
    (unneeded : ¬ call.NeedsApproval gateway.catalog) :
    Authorised after retry := by
  obtain ⟨limiter, checked⟩ := granted.checks_again again left
  obtain ⟨sameTool, found, inScope, counted, documents⟩ :=
    checks_eq_ok_iff.mp checked
  have staged := documents
  simp only [documentStages, bind_eq_ok_iff] at staged
  obtain ⟨-, -, -, -, staged⟩ := staged
  have noDemand : demand = none := by
    rw [again.request, granted.sameCatalog, granted.found,
      Option.some.injEq] at found
    subst found
    rw [approvalStage_eq_ok_iff, if_neg] at staged
    · exact staged
    · rintro ⟨execute, required⟩
      rw [again.request] at execute
      exact unneeded ⟨execute, _, granted.found, required⟩
  subst noDemand
  have regranted : Granted after retry.request retry.currentPlanHash
      retry.effectiveNow sameTool none
      { after with rateLimiter := limiter } :=
    { found, inScope, counted, documents
      consumed := rfl
      sameCatalog := rfl
      sameAllowlists := rfl }
  have minted := mintStage_eq_ok_iff.mpr ⟨fresh, rfl⟩
  have answered := authorize_allowed_iff.mpr
    ⟨⟨sameTool, none, regranted⟩, minted⟩
  exact ⟨_, _, answered.1, answered.2⟩

variable {Key : Type} [KeyedApprovalStore Store Key]

/-- The store knows the approval of this call by a key. -/
def AuthorizeCall.Recognised (call : AuthorizeCall) (Store : Type)
    [ApprovalStoreProtocol Store] {Key : Type}
    [KeyedApprovalStore Store Key] : Prop :=
  ∃ approval held, call.request.approval = some approval ∧
    presentedUnder (KeyedApprovalStore.key Store) approval = some held

/-- The approval of a granted call is refused as a replay. -/
theorem Granted.refused_again [RefusesReplays Store]
    (granted :
      Granted gateway call.request call.currentPlanHash call.effectiveNow
        tool demand after)
    (again : call.Repeats retry) (left : retry.LimitLeft after)
    (needed : call.NeedsApproval gateway.catalog)
    (recognised : call.Recognised Store) :
    ∃ why : Rejection, why.IsReplay ∧
      (Gateway.authorize retry.request retry.currentPlanHash retry.now
        retry.ambient after).1 =
          .ok (.denied (.approvalRejected why)) := by
  obtain ⟨limiter, checked⟩ := granted.checks_again again left
  obtain ⟨execute, other, found, required⟩ := needed
  cases found.symm.trans granted.found
  obtain ⟨approval, planHash, _, -, rfl, execution⟩ :=
    granted.approvedExecution execute required
  obtain ⟨presented, held, isPresented, keyed⟩ := recognised
  cases execution.presented.symm.trans isPresented
  obtain ⟨why, isReplay, refused⟩ :=
    RefusesReplays.refuses_again execution.accepted keyed
  have stage : storeStage (some ⟨approval, planHash⟩) retry.request
      retry.effectiveNow after.approvalStore =
        (.error (deny (.approvalRejected why)), after.approvalStore) := by
    rw [again.request, again.effectiveNow]
    simp [storeStage, PyM.mapError, refused, storeExit]
  exact ⟨why, isReplay, authorize_of_refusal checked stage⟩

end Gateway

/-! ## Calling the executor again -/

namespace ExecutionCall

variable {Handle : Type}

/-- The identical call of `execute_with_authorization`. -/
structure Repeats (call retry : ExecutionCall Handle) : Prop where
  executor : retry.executor = call.executor
  authorize : call.authorize.Repeats retry.authorize
  runId : retry.runId = call.runId
  idempotencyKey : retry.idempotencyKey = call.idempotencyKey
  actionId : retry.actionId = call.actionId

end ExecutionCall

section Execution

variable [PyRuntime] {Store Handle : Type} [ApprovalStoreProtocol Store]
  [DecidableEq Handle] {contract : Contract}
  {platform after final : Platform Store (World Handle)}
  {event retry : ExecutionEvent Handle}
  {authorization : AuthorizationResult} {record : JsonObject}

/-- What a call that was performed says of the gateway and the executor. -/
theorem ExecutionStep.performed
    (step : ExecutionStep contract platform event after)
    (outcome : event.outcome = .ok ⟨true, authorization, some record⟩) :
    (∃ tool demand,
      Granted platform.gateway event.call.authorize.request
        event.call.authorize.currentPlanHash
        event.call.authorize.effectiveNow tool demand after.gateway) ∧
      (after.world.stores event.call.executor.store).get
        event.call.idempotencyKey = some record := by
  have ended := executed step
  rw [outcome] at ended
  generalize returned : (.ok ⟨true, authorization, some record⟩ :
    Except (ExecutionError ActionError) ExecutionOutcome) = result at ended
  cases ended with
  | raised authorized => cases returned
  | denied authorized refused => cases returned
  | @performed _ _ answer _ authorized allowed ran =>
      cases answer with
      | error error => cases returned
      | ok cached =>
          cases returned
          obtain ⟨granted, -⟩ :=
            authorize_allowed_iff.mp ⟨authorized, allowed⟩
          exact ⟨granted, (called ran).recalls⟩

/-- Under a remembered key no call acts. -/
theorem ExecutionStep.world_of_remembered
    (step : ExecutionStep contract platform event after)
    (remembered :
      (platform.world.stores event.call.executor.store).get
        event.call.idempotencyKey = some record) :
    after.world = platform.world := by
  rcases step.split with ⟨-, same⟩ | ⟨_, _, -, -, ran, -⟩
  · exact same
  · exact (ran.of_remembered remembered).2

/-- Under a remembered key an authorised call is answered with the record. -/
theorem ExecutionStep.outcome_of_remembered
    (step : ExecutionStep contract platform event after)
    (remembered :
      (platform.world.stores event.call.executor.store).get
        event.call.idempotencyKey = some record)
    (allowed : Authorised platform.gateway event.call.authorize) :
    ∃ authorization,
      event.outcome = .ok ⟨true, authorization, some record⟩ := by
  rcases step.split with ⟨refused, -⟩ | ⟨authorization, _, -, -, ran, outcome⟩
  · exact (refused allowed).elim
  · refine ⟨authorization, ?_⟩
    rw [outcome, (ran.of_remembered remembered).1]
    rfl

/-- A call that the gateway answers with a denial ends with it. -/
theorem ExecutionStep.outcome_of_denial
    (step : ExecutionStep contract platform event after)
    {denial : AuthorizationResult} (refused : denial.allowed = false)
    (answered :
      (Gateway.authorize event.call.authorize.request
        event.call.authorize.currentPlanHash event.call.authorize.now
        event.call.authorize.ambient platform.gateway).1 = .ok denial) :
    event.outcome = .ok ⟨false, denial, none⟩ := by
  have ended := executed step
  generalize event.outcome = outcome at ended
  cases ended with
  | raised authorized =>
      rw [authorized] at answered
      cases answered
  | denied authorized _ =>
      rw [authorized] at answered
      cases answered
      rfl
  | performed authorized allowed _ =>
      rw [authorized] at answered
      cases answered
      rw [refused] at allowed
      cases allowed

variable {Key : Type} [KeyedApprovalStore Store Key] [RefusesReplays Store]

/--
An identical retry of a performed call leaves the world alone.  Where no
approval was asked for it is authorised and returns the same record; where
the store recognises the approval, it is refused as a replay.
-/
theorem retry_of_performed
    (step : ExecutionStep contract platform event after)
    (outcome : event.outcome = .ok ⟨true, authorization, some record⟩)
    (again : event.call.Repeats retry.call)
    (left : retry.call.authorize.LimitLeft after.gateway)
    (fresh : mintEphemeralCredential retry.call.authorize.ambient ≠
      retry.call.authorize.request.callerToken)
    (retried : ExecutionStep contract after retry final) :
    final.world = after.world ∧
      (¬ event.call.authorize.NeedsApproval platform.gateway.catalog →
        ∃ authorization,
          retry.outcome = .ok ⟨true, authorization, some record⟩) ∧
      (event.call.authorize.NeedsApproval platform.gateway.catalog →
        event.call.authorize.Recognised Store →
          ∃ why : Rejection, why.IsReplay ∧
            retry.outcome =
              .ok ⟨false, .denied (.approvalRejected why), none⟩) := by
  obtain ⟨⟨tool, demand, granted⟩, recalled⟩ := step.performed outcome
  rw [← again.executor, ← again.idempotencyKey] at recalled
  refine ⟨retried.world_of_remembered recalled, ?_, ?_⟩
  · intro unneeded
    exact retried.outcome_of_remembered recalled
      (granted.authorised_again again.authorize left fresh unneeded)
  · intro needed recognised
    obtain ⟨why, isReplay, answered⟩ :=
      granted.refused_again again.authorize left needed recognised
    exact ⟨why, isReplay, retried.outcome_of_denial rfl answered⟩

end Execution

/-! ## Retries of the incident -/

section Example

attribute [local instance] Reference.runtime

open Scenario

/-- A contract with no errors lets every authorised call through. -/
theorem ExecutionStep.exists_record {Store Handle : Type}
    [ApprovalStoreProtocol Store] [DecidableEq Handle]
    {platform after : Platform Store (World Handle)}
    {event : ExecutionEvent Handle}
    (step : ExecutionStep (fun _ => []) platform event after)
    (allowed : Authorised platform.gateway event.call.authorize) :
    ∃ authorization record,
      event.outcome = .ok ⟨true, authorization, some record⟩ := by
  rcases step.split with ⟨refused, -⟩ | ⟨_, result, -, -, ran, outcome⟩
  · exact (refused allowed).elim
  · generalize after.world = world at ran
    cases ran with
    | remembered held => exact ⟨_, _, outcome⟩
    | accepted unheld built accepts => exact ⟨_, _, outcome⟩
    | rejected unheld built rejects => exact (rejects rfl).elim

/-- One call of a tool leaves room for another. -/
theorem Scenario.limitLeft_counted {Store : Type}
    {gateway : Gateway Store} {call : AuthorizeCall} {tool : ToolDefinition}
    (shipped : gateway.catalog = shippedCatalog)
    (named : call.request.toolName = tool.name)
    (filed : shippedCatalog.get? tool.name = some tool)
    (atNoon : call.effectiveNow = noon)
    (once : gateway.rateLimiter = counted tool)
    (several : 1 < tool.rateLimit.callsPerMinute) :
    call.LimitLeft gateway := by
  intro found isFound
  rw [shipped, named, filed, Option.some.injEq] at isFound
  subst isFound
  rw [atNoon, once]
  have history : (counted tool).history tool.name = [noon] := by
    rw [counted, RateLimiter.history, PyDict.get?_assign, if_pos rfl]
    rfl
  have comparable : (counted tool).Comparable tool.name noon := by
    refine ⟨by decide, ?_⟩
    simp [history]
  have few : ¬ tool.rateLimit.callsPerMinute ≤
      ((counted tool).recentCalls tool.name noon).length := by
    have bound := List.length_filter_le (fun call =>
      decide (noon.instant - oneMinute < call.instant)) [noon]
    rw [RateLimiter.recentCalls, history]
    simp only [List.length_singleton] at bound
    omega
  rw [RateLimiter.checkAndRecord_of_comparable comparable]
  simp [few]

/-- The incident's isolation, handed to the Kubernetes executor. -/
def Scenario.isolationCall (planHash signatureRef : PyStr) :
    ExecutionCall Unit where
  executor := ⟨.kubernetes, ()⟩
  stamps := ⟨noon, noon, noon, ambient.uuidHex⟩
  authorize :=
    { request := request isolateKubernetesWorkloadTool "soc-analyst"
        (some (approval "approval-1" signatureRef))
      currentPlanHash := some planHash
      now := some noon
      ambient := ambient }
  runId := "run-1"
  idempotencyKey := "key-1"
  actionId := "action-1"

/-- A performed call of the incident, with room for another. -/
theorem Scenario.exists_performed (call : ExecutionCall Unit)
    {tool : ToolDefinition} {granted : Gateway ApprovalStore}
    (authorized :
      Gateway.authorize call.authorize.request call.authorize.currentPlanHash
          call.authorize.now call.authorize.ambient
          (gateway ApprovalStore.fresh) =
        (.ok ⟨true, .authorised, some (mintEphemeralCredential ambient)⟩,
          granted))
    (counts : granted.rateLimiter = counted tool)
    (shipped : granted.catalog = shippedCatalog)
    (named : call.authorize.request.toolName = tool.name)
    (filed : shippedCatalog.get? tool.name = some tool)
    (atNoon : call.authorize.effectiveNow = noon)
    (several : 1 < tool.rateLimit.callsPerMinute) :
    ∃ (authorization : AuthorizationResult) (record : JsonObject)
      (after : Platform ApprovalStore (World Unit)),
      ExecutionStep (fun _ => [])
          ⟨gateway ApprovalStore.fresh, untouchedWorld⟩
          ⟨call, .ok ⟨true, authorization, some record⟩⟩ after ∧
        call.authorize.LimitLeft after.gateway := by
  obtain ⟨outcome, after, step⟩ := exists_executionStep (fun _ => [])
    (⟨gateway ApprovalStore.fresh, untouchedWorld⟩ :
      Platform ApprovalStore (World Unit)) call
  have allowed : Authorised (gateway ApprovalStore.fresh) call.authorize :=
    ⟨_, _, authorized, rfl⟩
  obtain ⟨authorization, record, performed⟩ := step.exists_record allowed
  change outcome = _ at performed
  subst performed
  refine ⟨authorization, record, after, step, ?_⟩
  rcases step.split with ⟨refused, -⟩ | ⟨_, _, again, -, -, -⟩
  · exact (refused allowed).elim
  · have reached : after.gateway = granted :=
      congrArg Prod.snd (again.symm.trans authorized)
    rw [reached]
    exact limitLeft_counted shipped named filed atNoon counts several

/-- Monitoring is raised once, and reported twice. -/
theorem retry_of_performed_monitoring :
    ∃ (authorization : AuthorizationResult) (record : JsonObject)
      (event retry : ExecutionEvent Unit)
      (after final : Platform ApprovalStore (World Unit)),
      ExecutionStep (fun _ => [])
          ⟨gateway ApprovalStore.fresh, untouchedWorld⟩ event after ∧
        ExecutionStep (fun _ => []) after retry final ∧
        event.outcome = .ok ⟨true, authorization, some record⟩ ∧
        final.world = after.world ∧
        ∃ authorization,
          retry.outcome = .ok ⟨true, authorization, some record⟩ := by
  let call := monitoringCall ⟨.increaseMonitoring, ()⟩
  obtain ⟨authorization, record, after, step, left⟩ :=
    exists_performed call
      (monitoring_granted ApprovalStore.fresh "soc-analyst" none) rfl rfl rfl
      rfl rfl (by decide)
  obtain ⟨outcome, final, retried⟩ :=
    exists_executionStep (fun _ => []) after call
  have same : call.Repeats call := ⟨rfl, ⟨rfl, rfl, rfl⟩, rfl, rfl, rfl⟩
  have law := retry_of_performed step rfl same left credential_ne_callerToken
    retried
  have unneeded : ¬ call.authorize.NeedsApproval shippedCatalog := by
    rintro ⟨-, tool, found, required⟩
    cases found
    cases required
  exact ⟨authorization, record, _, _, after, final, step, retried, rfl,
    law.1, law.2.1 unneeded⟩

/-- An isolation that was performed is not authorised again. -/
theorem isolation_not_retried :
    ∃ (authorization : AuthorizationResult) (record : JsonObject)
      (call : ExecutionCall Unit)
      (outcome : Except (ExecutionError ActionError) ExecutionOutcome)
      (after final : Platform ApprovalStore (World Unit)),
      call.authorize.request.toolName =
          isolateKubernetesWorkloadTool.name ∧
        call.executor.kind = .kubernetes ∧
        ExecutionStep (fun _ => [])
          ⟨gateway ApprovalStore.fresh, untouchedWorld⟩
          ⟨call, .ok ⟨true, authorization, some record⟩⟩ after ∧
        call.authorize.LimitLeft after.gateway ∧
        ExecutionStep (fun _ => []) after ⟨call, outcome⟩ final ∧
        ∃ denial, outcome = .ok ⟨false, denial, none⟩ := by
  obtain ⟨planHash, signatureRef, bound, signed⟩ :=
    exists_signed_plan isolateKubernetesWorkloadTool
      (surrogateFree_ofString "approval-1")
  let call := isolationCall planHash signatureRef
  obtain ⟨authorization, record, after, step, left⟩ :=
    exists_performed call
      (containment_granted (.inl rfl) bound signed (by decide)
        (Finset.notMem_empty _)) rfl rfl rfl rfl rfl (by decide)
  obtain ⟨outcome, final, retried⟩ :=
    exists_executionStep (fun _ => []) after call
  obtain ⟨⟨tool, demand, granted⟩, -⟩ := step.performed rfl
  obtain ⟨why, -, answered⟩ :=
    granted.refused_again ⟨rfl, rfl, rfl⟩ left ⟨rfl, _, rfl, rfl⟩
      ⟨_, _, rfl, rfl⟩
  exact ⟨authorization, record, call, outcome, after, final, rfl, rfl, step,
    left, retried, _, retried.outcome_of_denial rfl answered⟩

end Example

end ArgosCyberTools.McpGateway
