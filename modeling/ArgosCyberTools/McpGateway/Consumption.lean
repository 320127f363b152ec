import ArgosCyberTools.McpGateway.Scenario
import ArgosCyberTools.Transition.SingleUse

/-!
# What a run of calls consumes

One gateway with an in-memory store serves any sequence of calls.  Each call
refines one step of a single-use ledger: it spends the presented approval id
exactly when it grants `execute` on a tool that requires approval.  The
store therefore holds exactly the ids of the grants, and an approval that
was only ever refused can still be used.
-/

namespace ArgosCyberTools.McpGateway

open Python ToolCatalog Policies Transition

/-- The arguments of one call of `authorize`, and what it reads outside. -/
structure AuthorizeCall where
  request : ToolCallRequest
  currentPlanHash : Option PyStr
  now : Option PyDateTime
  ambient : Ambient

/-- A call and how it ended. -/
structure AuthorizeEvent where
  call : AuthorizeCall
  outcome : Except AuthorizeError AuthorizationResult

/-- The call minted a credential other than the caller's token. -/
def AuthorizeEvent.FreshCredential (event : AuthorizeEvent) : Prop :=
  mintEphemeralCredential event.call.ambient ≠
    event.call.request.callerToken

/-- The call returned `allowed=True`. -/
def AuthorizeEvent.Allowed (event : AuthorizeEvent) : Prop :=
  ∃ result, event.outcome = .ok result ∧ result.allowed = true

section Steps

variable [PyRuntime] {Store : Type} [ApprovalStoreProtocol Store]

/-- One call on one gateway. -/
def AuthorizeStep (gateway : Gateway Store) (event : AuthorizeEvent)
    (final : Gateway Store) : Prop :=
  Gateway.authorize event.call.request event.call.currentPlanHash
    event.call.now event.call.ambient gateway = (event.outcome, final)

/-- Every call ends, on every gateway. -/
theorem AuthorizeCall.exists_step (call : AuthorizeCall)
    (gateway : Gateway Store) :
    ∃ outcome final, AuthorizeStep gateway ⟨call, outcome⟩ final :=
  let answered := Gateway.authorize call.request call.currentPlanHash
    call.now call.ambient gateway
  ⟨answered.1, answered.2, rfl⟩

/-- A call leaves the configuration of the gateway alone. -/
theorem AuthorizeStep.configuration_eq {gateway final : Gateway Store}
    {event : AuthorizeEvent} (step : AuthorizeStep gateway event final) :
    final.catalog = gateway.catalog ∧
      final.targetAllowlists = gateway.targetAllowlists := by
  have kept : PyM.Keeps
      (fun gateway : Gateway Store =>
        (gateway.catalog, gateway.targetAllowlists))
      (Gateway.authorize event.call.request event.call.currentPlanHash
        event.call.now event.call.ambient) :=
    authorize_keeps_configuration
  have same := kept gateway
  rw [AuthorizeStep] at step
  rw [step] at same
  exact Prod.mk.inj same

theorem AuthorizeStep.catalog_eq {gateway final : Gateway Store}
    {event : AuthorizeEvent} (step : AuthorizeStep gateway event final) :
    final.catalog = gateway.catalog :=
  step.configuration_eq.1

end Steps

/-! ## The id a call spends -/

/-- An event grants `execute` on a tool that requires approval. -/
structure GrantsApproved (catalog : Catalog) (event : AuthorizeEvent) :
    Prop where
  allowed : event.Allowed
  execute : event.call.request.action = executeAction
  required : ∃ tool,
    catalog.get? event.call.request.toolName = some tool ∧
      tool.approvalRequired = true

/-- The id of the presented approval, as a set identifies it. -/
def AuthorizeEvent.presentedKey (event : AuthorizeEvent) :
    Option HashKey := do
  let approval ← event.call.request.approval
  let approvalId ← approval.get? "approval_id"
  approvalId.hashKey.toOption

instance (catalog : Catalog) (event : AuthorizeEvent) :
    Decidable (GrantsApproved catalog event) :=
  match ended : event.outcome, found : catalog.get?
      event.call.request.toolName with
  | .ok result, some tool =>
      decidable_of_iff
        (result.allowed = true ∧
          event.call.request.action = executeAction ∧
          tool.approvalRequired = true)
        ⟨fun ⟨allowed, execute, required⟩ =>
            ⟨⟨result, ended, allowed⟩, execute, ⟨tool, found, required⟩⟩,
          fun ⟨⟨_, other, allowed⟩, execute, ⟨_, known, required⟩⟩ => by
            rw [ended, Except.ok.injEq] at other
            rw [found, Option.some.injEq] at known
            exact ⟨other ▸ allowed, execute, known ▸ required⟩⟩
  | .ok _, none =>
      .isFalse fun ⟨_, _, ⟨_, known, _⟩⟩ => by simp [found] at known
  | .error _, _ =>
      .isFalse fun ⟨⟨_, other, _⟩, _, _⟩ => by simp [ended] at other

/-- The id spent by an event, if any. -/
def spentKey (catalog : Catalog) (event : AuthorizeEvent) :
    Option HashKey :=
  if GrantsApproved catalog event then event.presentedKey else none

theorem spentKey_eq_some_iff {catalog : Catalog} {event : AuthorizeEvent}
    {key : HashKey} :
    spentKey catalog event = some key ↔
      GrantsApproved catalog event ∧ event.presentedKey = some key := by
  simp [spentKey]

section Ledger

variable [PyRuntime]

/-- The ids the store of a gateway holds. -/
def consumedKeys (gateway : Gateway ApprovalStore) : Set HashKey :=
  gateway.approvalStore.consumed

/-- A store call that refuses leaves the in-memory store alone. -/
theorem storeStage_of_error {demand : Option Demand}
    {request : ToolCallRequest} {now : PyDateTime} {exit : AuthorizeExit}
    {store final : ApprovalStore}
    (refused : storeStage demand request now store = (.error exit, final)) :
    final = store := by
  cases demand with
  | none => simp [storeStage] at refused
  | some demand =>
      obtain ⟨error, raised⟩ : ∃ error,
          ApprovalStore.validateAndConsume demand.approval demand.planHash
            request.subject executorId now store = (.error error, final) :=
        PyM.exists_error_of_mapError refused
      exact ApprovalStore.validateAndConsume_of_error raised

variable {gateway initial final : Gateway ApprovalStore}
  {event : AuthorizeEvent} {events : List AuthorizeEvent}

/-- A grant under an approval adds the presented id, which was unused. -/
theorem AuthorizeStep.spends (step : AuthorizeStep gateway event final)
    (grants : GrantsApproved gateway.catalog event) :
    ∃ key, event.presentedKey = some key ∧
      key ∉ gateway.approvalStore.consumed ∧
      final.approvalStore =
        ⟨insert key gateway.approvalStore.consumed⟩ := by
  obtain ⟨result, ended, allowed⟩ := grants.allowed
  obtain ⟨tool, found, required⟩ := grants.required
  rw [AuthorizeStep, ended] at step
  obtain ⟨⟨other, demand, through⟩, -⟩ :=
    authorize_allowed_iff.mp ⟨step, allowed⟩
  have same : other = tool :=
    Option.some.inj (through.found.symm.trans found)
  subst same
  obtain ⟨approval, planHash, envelopeHash, -, -, execution⟩ :=
    through.approvedExecution grants.execute required
  obtain ⟨approvalId, key, valid, hashed, unspent, stored⟩ :=
    ApprovalStore.validateAndConsume_eq_ok_iff.mp execution.accepted
  refine ⟨key, ?_, unspent, stored⟩
  simp [AuthorizeEvent.presentedKey, execution.presented,
    valid.identified, hashed, Except.toOption]

/-- Every other outcome leaves the store alone. -/
theorem AuthorizeStep.spares (step : AuthorizeStep gateway event final)
    (fresh : event.FreshCredential)
    (spared : ¬ GrantsApproved gateway.catalog event) :
    final.approvalStore = gateway.approvalStore := by
  by_cases allowed : event.Allowed
  · obtain ⟨result, ended, granted⟩ := allowed
    rw [AuthorizeStep, ended] at step
    obtain ⟨⟨tool, demand, through⟩, -⟩ :=
      authorize_allowed_iff.mp ⟨step, granted⟩
    refine through.store_unchanged fun needed => spared ?_
    exact
      { allowed := ⟨result, ended, granted⟩
        execute := needed.1
        required := ⟨tool, through.found, needed.2⟩ }
  · have denied : ∀ result, event.outcome = .ok result →
        result.allowed = false := fun result ended =>
      Bool.eq_false_iff.mpr fun granted => allowed ⟨result, ended, granted⟩
    rcases authorize_not_allowed step denied fresh with
      same | ⟨demand, exit, refused⟩
    · exact same
    · exact storeStage_of_error refused

/-- One call is one step of the single-use ledger. -/
theorem authorizeStep_refines (step : AuthorizeStep gateway event final)
    (fresh : event.FreshCredential) :
    SingleUse.Step (consumedKeys gateway)
      (spentKey gateway.catalog event) (consumedKeys final) := by
  by_cases grants : GrantsApproved gateway.catalog event
  · obtain ⟨key, presented, unspent, stored⟩ := step.spends grants
    have inserted :
        consumedKeys final = insert key (consumedKeys gateway) := by
      simp [consumedKeys, stored]
    rw [spentKey_eq_some_iff.mpr ⟨grants, presented⟩, inserted]
    exact .spend unspent
  · rw [spentKey, if_neg grants, consumedKeys, consumedKeys,
      step.spares fresh grants]
    exact .idle _

/-- A run of calls is a run of the ledger. -/
theorem authorizeRun_refines (run : Run AuthorizeStep initial events final)
    (fresh : ∀ event ∈ events, event.FreshCredential) :
    Run SingleUse.Step (consumedKeys initial)
      (events.map (spentKey initial.catalog)) (consumedKeys final) := by
  refine run.simulate consumedKeys (spentKey initial.catalog)
    (fun gateway => gateway.catalog = initial.catalog)
    AuthorizeEvent.FreshCredential ?_ rfl fresh
  intro source event target sameCatalog freshCredential step
  have refined := authorizeStep_refines step freshCredential
  rw [sameCatalog] at refined
  exact ⟨refined, step.catalog_eq.trans sameCatalog⟩

/--
From an unused store, the ids held after a run are exactly the ids presented
in its grants under an approval; no other call of the run touched the store;
and a valid approval that no grant has used is accepted.
-/
theorem consumed_exactly_by_grants
    (run : Run AuthorizeStep initial events final)
    (unused : initial.approvalStore = ApprovalStore.fresh)
    (fresh : ∀ event ∈ events, event.FreshCredential) :
    (∀ key, key ∈ final.approvalStore.consumed ↔
      ∃ event ∈ events, GrantsApproved initial.catalog event ∧
        event.presentedKey = some key) ∧
    (∀ before event after here there,
      events = before ++ event :: after →
      Run AuthorizeStep initial before here →
      AuthorizeStep here event there →
      ¬ GrantsApproved initial.catalog event →
        there.approvalStore = here.approvalStore) ∧
    (∀ approval planHash requesterId now approvalId key,
      FieldsValid approval planHash requesterId executorId now approvalId →
      approvalId.hashKey = .ok key →
      (∀ event ∈ events, GrantsApproved initial.catalog event →
        event.presentedKey ≠ some key) →
      ∃ store,
        ApprovalStore.validateAndConsume approval planHash requesterId
          executorId now final.approvalStore = (.ok (), store)) := by
  have holds : ∀ key, key ∈ final.approvalStore.consumed ↔
      ∃ event ∈ events, GrantsApproved initial.catalog event ∧
        event.presentedKey = some key := by
    have ledger := SingleUse.ledger_eq (authorizeRun_refines run fresh)
    intro key
    have member := Set.ext_iff.mp ledger key
    simpa [consumedKeys, unused, ApprovalStore.fresh, spentKey_eq_some_iff]
      using member
  refine ⟨holds, ?_, ?_⟩
  · rintro before event after here there rfl front step spared
    have sameCatalog : here.catalog = initial.catalog :=
      front.invariant (fun gateway => gateway.catalog = initial.catalog)
        (fun same step => step.catalog_eq.trans same) rfl
    exact step.spares (fresh event (by simp)) (sameCatalog ▸ spared)
  · intro approval planHash requesterId now approvalId key valid hashed
      unspent
    refine ⟨_, ApprovalStore.validateAndConsume_eq_ok_iff.mpr
      ⟨approvalId, key, valid, hashed, fun spent => ?_, rfl⟩⟩
    obtain ⟨event, member, grants, presented⟩ := (holds key).mp spent
    exact unspent event member grants presented

end Ledger

section Example

attribute [local instance] Reference.runtime

/-- The call of an incident under the approval `apr:1`, and its grant. -/
def Scenario.grantedEvent (planHash signatureRef : PyStr) :
    AuthorizeEvent where
  call :=
    { request := Scenario.request isolateKubernetesWorkloadTool "soc-analyst"
        (some (Scenario.approval "apr:1" signatureRef))
      currentPlanHash := some planHash
      now := some Scenario.noon
      ambient := Scenario.ambient }
  outcome :=
    .ok ⟨true, .authorised,
      some (mintEphemeralCredential Scenario.ambient)⟩

/--
A granted call is repeated.  The repetition presents the same approval and is
not granted, and the store holds the one id of the grant.
-/
theorem consumed_exactly_by_grants_of_replay :
    ∃ (granted replayed : AuthorizeEvent) (final : Gateway ApprovalStore),
      Run AuthorizeStep (Scenario.gateway ApprovalStore.fresh)
          [granted, replayed] final ∧
        replayed.call = granted.call ∧
        replayed.presentedKey = some (.text "apr:1") ∧
        granted.Allowed ∧ ¬ replayed.Allowed ∧
        ∀ key, key ∈ final.approvalStore.consumed ↔
          key = .text "apr:1" := by
  obtain ⟨planHash, signatureRef, bound, signed⟩ :=
    Scenario.exists_signed_plan isolateKubernetesWorkloadTool
      (surrogateFree_ofString "apr:1")
  let granted := Scenario.grantedEvent planHash signatureRef
  have first : AuthorizeStep (Scenario.gateway ApprovalStore.fresh)
      granted _ :=
    Scenario.containment_granted (.inl rfl) bound signed (by decide)
      (Finset.notMem_empty _)
  obtain ⟨outcome, final, second⟩ := granted.call.exists_step
    ({ Scenario.gateway (⟨insert (.text "apr:1") ∅⟩ : ApprovalStore) with
      rateLimiter := Scenario.counted isolateKubernetesWorkloadTool } :
        Gateway ApprovalStore)
  let replayed : AuthorizeEvent := ⟨granted.call, outcome⟩
  have presented : granted.presentedKey = some (.text "apr:1") := by
    simp [granted, AuthorizeEvent.presentedKey, Scenario.grantedEvent,
      Scenario.request, executeRequest, Scenario.approval_named,
      Json.hashKey, Except.toOption]
  have required : ∃ tool,
      shippedCatalog.get? granted.call.request.toolName = some tool ∧
        tool.approvalRequired = true :=
    ⟨isolateKubernetesWorkloadTool, rfl, rfl⟩
  have refused : ¬ replayed.Allowed := by
    intro allowed
    obtain ⟨key, again, unspent, -⟩ := second.spends
      ⟨allowed, rfl, required⟩
    have same : key = .text "apr:1" :=
      Option.some.inj (again.symm.trans presented)
    exact unspent (same ▸ Finset.mem_insert_self _ _)
  have run := Run.next first (.next second (.done _))
  have holds := (consumed_exactly_by_grants run rfl (by
    intro event member
    have same : event.call = granted.call := by
      simp only [List.mem_cons, List.not_mem_nil, or_false] at member
      rcases member with rfl | rfl <;> rfl
    rw [AuthorizeEvent.FreshCredential, same]
    exact Scenario.credential_ne_callerToken)).1
  have allowed : granted.Allowed := ⟨_, rfl, rfl⟩
  refine ⟨granted, replayed, final, run, rfl, presented, allowed, refused, ?_⟩
  intro key
  rw [holds]
  constructor
  · rintro ⟨event, member, -, presents⟩
    simp only [List.mem_cons, List.not_mem_nil, or_false] at member
    rcases member with rfl | rfl <;>
      exact Option.some.inj (presents.symm.trans presented)
  · rintro rfl
    exact ⟨granted, List.mem_cons_self, ⟨allowed, rfl, required⟩, presented⟩

end Example

end ArgosCyberTools.McpGateway
