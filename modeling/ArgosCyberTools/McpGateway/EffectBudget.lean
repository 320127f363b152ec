import ArgosCyberTools.McpGateway.NonInterference
import ArgosCyberTools.McpGateway.ZeroExecute
import ArgosCyberTools.Transition.Annotated

/-!
# What effects cost

Over a run of controlled executions every change of an executor's state is
paid for three times: it counts against the rate limit of the tool it was
requested under, it spends an approval of its own when that tool requires
one, and it uses up its idempotency key once its result is returned.
-/

namespace ArgosCyberTools.McpGateway

open Python ToolCatalog Policies Executors Transition

/-- A call of `execute_with_authorization`, with what it did. -/
structure ObservedEvent (Handle : Type) where
  event : ExecutionEvent Handle
  /-- What `authorize` answered. -/
  authorization : Except AuthorizeError AuthorizationResult
  /-- The state of some executor changed. -/
  effective : Bool

namespace ObservedEvent

variable {Handle : Type}

/-- The call of `authorize` inside, and its answer. -/
def authorizeEvent (observed : ObservedEvent Handle) : AuthorizeEvent :=
  ⟨observed.event.call.authorize, observed.authorization⟩

/-- The store and the key under which the result is remembered. -/
def storeKey (observed : ObservedEvent Handle) : Handle × PyStr :=
  (observed.event.call.executor.store, observed.event.call.idempotencyKey)

/-- The call returned the result of its executor. -/
def Returned (observed : ObservedEvent Handle) : Prop :=
  ∃ outcome, observed.event.outcome = .ok outcome ∧ outcome.authorized = true

end ObservedEvent

section Steps

variable [PyRuntime] {Store Handle : Type} [ApprovalStoreProtocol Store]
  [DecidableEq Handle] {contract : Contract}

/-- A step, observed. -/
structure ObservedStep (contract : Contract)
    (platform : Platform Store (World Handle))
    (observed : ObservedEvent Handle)
    (after : Platform Store (World Handle)) : Prop where
  step : ExecutionStep contract platform observed.event after
  answered : observed.authorization =
    (Gateway.authorize observed.event.call.authorize.request
      observed.event.call.authorize.currentPlanHash
      observed.event.call.authorize.now
      observed.event.call.authorize.ambient platform.gateway).1
  changes : observed.effective = true ↔
    ∃ kind target, slot (after.world.state kind) target ≠
      slot (platform.world.state kind) target

/-- Every run can be observed. -/
theorem exists_observedRun {initial final : Platform Store (World Handle)}
    {events : List (ExecutionEvent Handle)}
    (run : Run (ExecutionStep contract) initial events final) :
    ∃ observed : List (ObservedEvent Handle),
      observed.map (·.event) = events ∧
        Run (ObservedStep contract) initial observed final := by
  refine Run.exists_annotated
    (fun observed : ObservedEvent Handle => observed.event) ?_ run
  intro source event target step
  classical
  let answered := Gateway.authorize event.call.authorize.request
    event.call.authorize.currentPlanHash event.call.authorize.now
    event.call.authorize.ambient source.gateway
  exact ⟨⟨event, answered.1, decide (∃ kind other,
      slot (target.world.state kind) other ≠
        slot (source.world.state kind) other)⟩, rfl,
    ⟨step, rfl, decide_eq_true_iff⟩⟩

variable {platform after initial final : Platform Store (World Handle)}
  {observed : ObservedEvent Handle}

/-- The gateway takes the step of the call inside. -/
theorem ExecutionStep.gateway_eq {event : ExecutionEvent Handle}
    (step : ExecutionStep contract platform event after) :
    (Gateway.authorize event.call.authorize.request
      event.call.authorize.currentPlanHash event.call.authorize.now
      event.call.authorize.ambient platform.gateway).2 = after.gateway := by
  have ended := executed step
  generalize event.outcome = outcome at ended
  cases ended with
  | raised authorized => rw [authorized]
  | denied authorized refused => rw [authorized]
  | performed authorized allowed ran => rw [authorized]

theorem ObservedStep.authorizeStep
    (step : ObservedStep contract platform observed after) :
    AuthorizeStep platform.gateway observed.authorizeEvent after.gateway :=
  Prod.ext step.answered.symm step.step.gateway_eq

/-- The gateway's part of a run. -/
theorem gatewayRun {labels : List (ObservedEvent Handle)}
    (run : Run (ObservedStep contract) initial labels final) :
    Run AuthorizeStep initial.gateway (labels.map (·.authorizeEvent))
      final.gateway :=
  run.simulate Platform.gateway (·.authorizeEvent) (fun _ => True)
    (fun _ => True) (fun _ _ step => ⟨step.authorizeStep, trivial⟩) trivial
    (fun _ _ => trivial)

/-- An effect was allowed in the same call, as an execution. -/
theorem ObservedStep.allowed_of_effective
    (step : ObservedStep contract platform observed after)
    (effective : observed.effective = true) :
    observed.authorizeEvent.Allowed ∧
      observed.event.call.authorize.request.action = executeAction ∧
      (platform.world.stores observed.storeKey.1).get
        observed.storeKey.2 = none := by
  obtain ⟨kind, target, changed⟩ := step.changes.mp effective
  have may := step.step.zeroExecute.changes kind target changed
  obtain ⟨authorization, gateway, authorized, granted⟩ := may.allowed
  refine ⟨⟨authorization, ?_, granted⟩, may.execute, may.newKey⟩
  exact step.answered.trans (congrArg Prod.fst authorized)

end Steps

/-! ## The rate limit -/

section Rate

/-- `now or _now()`. -/
def AuthorizeEvent.effectiveNow (event : AuthorizeEvent) : PyDateTime :=
  event.call.now.getD event.call.ambient.clock

/-- The call returned `allowed=True`. -/
def AuthorizeEvent.granted (event : AuthorizeEvent) : Bool :=
  match event.outcome with
  | .ok result => result.allowed
  | .error _ => false

theorem AuthorizeEvent.granted_iff {event : AuthorizeEvent} :
    event.granted = true ↔ event.Allowed := by
  unfold AuthorizeEvent.granted AuthorizeEvent.Allowed
  cases event.outcome with
  | ok result => simp
  | error error => simp

/-- The call of the limiter a call makes, if it gets there. -/
def limiterCallOf (catalog : Catalog) (event : AuthorizeEvent) :
    Option LimiterCall :=
  match catalog.get? event.call.request.toolName with
  | none => none
  | some tool =>
      if tool.sideEffectClass ∈ deniedInP0 then none
      else some ⟨tool.name, tool.rateLimit.callsPerMinute,
        event.effectiveNow⟩

variable [PyRuntime] {Store : Type} [ApprovalStoreProtocol Store]

/-- Only the stages in front of the store touch the limiter. -/
theorem rateLimiter_authorize (request : ToolCallRequest)
    (currentPlanHash : Option PyStr) (now : Option PyDateTime)
    (ambient : Ambient) (gateway : Gateway Store) :
    (Gateway.authorize request currentPlanHash now ambient
        gateway).2.rateLimiter =
      (checks gateway.catalog gateway.targetAllowlists request
        currentPlanHash (now.getD ambient.clock) gateway.rateLimiter).2 := by
  rw [authorize_apply]
  rcases checks gateway.catalog gateway.targetAllowlists request
    currentPlanHash (now.getD ambient.clock) gateway.rateLimiter with
    ⟨exit | demand, limiter⟩
  · rfl
  · simp only
    rcases storeStage demand request (now.getD ambient.clock)
      gateway.approvalStore with ⟨exit | ⟨⟩, store⟩
    · rfl
    · rfl

/-- The stages leave the limiter as its one call does. -/
theorem checksOf_snd {tool : ToolDefinition} {allowlists : Allowlists}
    {request : ToolCallRequest} {currentPlanHash : Option PyStr}
    {now : PyDateTime} (inScope : tool.sideEffectClass ∉ deniedInP0)
    (limiter : RateLimiter) :
    (checksOf tool allowlists request currentPlanHash now limiter).2 =
      (RateLimiter.checkAndRecord tool.name tool.rateLimit.callsPerMinute now
        limiter).2 := by
  have passes : sideEffectStage tool = .ok () :=
    raiseIf_eq_ok_iff.mpr (decide_eq_false inScope)
  have counts : (rateLimitStage tool now limiter).2 =
      (RateLimiter.checkAndRecord tool.name tool.rateLimit.callsPerMinute now
        limiter).2 := by
    unfold rateLimitStage
    rw [PyM.bind_apply, ← PyM.mapError_snd fun error =>
      (.raised (.builtin error) : AuthorizeExit)]
    rcases (RateLimiter.checkAndRecord tool.name
      tool.rateLimit.callsPerMinute now).mapError _ limiter with
      ⟨error | admitted, left⟩
    · rfl
    · rfl
  rw [checksOf, passes, PyM.bind_of_ok (PyM.ofExcept_apply _ limiter),
    ← counts, PyM.bind_apply]
  rcases rateLimitStage tool now limiter with ⟨exit | ⟨⟩, left⟩
  · rfl
  · rfl

variable {gateway final : Gateway Store} {event : AuthorizeEvent}

/-- A call that does not get to the limiter grants nothing. -/
theorem AuthorizeStep.limiter_idle
    (step : AuthorizeStep gateway event final)
    (uncounted : limiterCallOf gateway.catalog event = none) :
    final.rateLimiter = gateway.rateLimiter ∧ event.granted = false := by
  have left := rateLimiter_authorize event.call.request
    event.call.currentPlanHash event.call.now event.call.ambient gateway
  have ended : Gateway.authorize event.call.request
      event.call.currentPlanHash event.call.now event.call.ambient gateway =
        (event.outcome, final) :=
    step
  rw [ended] at left
  constructor
  · rw [left]
    cases found : gateway.catalog.get? event.call.request.toolName with
    | none =>
        rw [checks_of_missing found]
        rfl
    | some tool =>
        simp only [limiterCallOf, found, ite_eq_left_iff, reduceCtorEq,
          imp_false, not_not] at uncounted
        have refused : sideEffectStage tool =
            .error (deny (.sideEffectClass tool.sideEffectClass)) := by
          rw [sideEffectStage, decide_eq_true uncounted]
          rfl
        rw [checks_of_found found, checksOf, refused]
        rfl
  · rw [Bool.eq_false_iff]
    intro granted
    obtain ⟨result, returned, allowed⟩ := AuthorizeEvent.granted_iff.mp granted
    rw [returned] at ended
    obtain ⟨⟨tool, demand, through⟩, -⟩ :=
      authorize_allowed_iff.mp ⟨ended, allowed⟩
    simp [limiterCallOf, through.found, through.inScope] at uncounted

/-- Any other call makes one call of the limiter, and needs its consent. -/
theorem AuthorizeStep.limiter_serves
    (step : AuthorizeStep gateway event final) {call : LimiterCall}
    (counted : limiterCallOf gateway.catalog event = some call) :
    final.rateLimiter = (call.serve gateway.rateLimiter).2 ∧
      (event.granted = true →
        (call.serve gateway.rateLimiter).1 = .ok true) := by
  have left := rateLimiter_authorize event.call.request
    event.call.currentPlanHash event.call.now event.call.ambient gateway
  have ended : Gateway.authorize event.call.request
      event.call.currentPlanHash event.call.now event.call.ambient gateway =
        (event.outcome, final) :=
    step
  rw [ended] at left
  cases found : gateway.catalog.get? event.call.request.toolName with
  | none => simp [limiterCallOf, found] at counted
  | some tool =>
      simp only [limiterCallOf, found] at counted
      split_ifs at counted with denied
      cases counted
      constructor
      · rw [left, checks_of_found found, checksOf_snd denied]
        rfl
      · intro granted
        obtain ⟨result, returned, allowed⟩ :=
          AuthorizeEvent.granted_iff.mp granted
        rw [returned] at ended
        obtain ⟨⟨other, demand, through⟩, -⟩ :=
          authorize_allowed_iff.mp ⟨ended, allowed⟩
        cases through.found.symm.trans found
        exact congrArg Prod.fst (rateLimitStage_eq_ok_iff.mp through.counted)

/-- The grants of a run are among what its limiter admits. -/
theorem grants_sublist_admitted {initial final : Gateway Store}
    {events : List AuthorizeEvent}
    (run : Run AuthorizeStep initial events final) :
    ((events.filter (·.granted)).filterMap
        (limiterCallOf initial.catalog)).Sublist
      (acceptedAmong returnedTrue
        (events.filterMap (limiterCallOf initial.catalog))
        (serveAll LimiterCall.serve
          (events.filterMap (limiterCallOf initial.catalog))
          initial.rateLimiter).1) := by
  induction run with
  | done => exact .slnil
  | @next first middle last event rest head tail induction =>
      rw [head.catalog_eq] at induction
      cases counted : limiterCallOf first.catalog event with
      | none =>
          obtain ⟨same, refused⟩ := head.limiter_idle counted
          rw [same] at induction
          simpa [counted, refused] using induction
      | some call =>
          obtain ⟨left, consents⟩ := head.limiter_serves counted
          rw [left] at induction
          simp only [List.filterMap_cons_some counted, serveAll,
            acceptedAmong_cons]
          cases granted : event.granted with
          | false =>
              rw [List.filter_cons_of_neg (by simp [granted])]
              split_ifs
              · exact induction.cons call
              · exact induction
          | true =>
              rw [List.filter_cons_of_pos granted,
                List.filterMap_cons_some counted, consents granted]
              exact induction.cons_cons call

/-- The name of the tool a call asks for. -/
def requestedTool (catalog : Catalog) (event : AuthorizeEvent) :
    Option PyStr :=
  (catalog.get? event.call.request.toolName).map (·.name)

/-- The call asks for the tool in the minute that ends at `stop`. -/
def InMinute (catalog : Catalog) (name : PyStr) (stop : Int)
    (event : AuthorizeEvent) : Prop :=
  requestedTool catalog event = some name ∧
    stop - oneMinute < event.effectiveNow.instant ∧
    event.effectiveNow.instant ≤ stop

instance (catalog : Catalog) (name : PyStr) (stop : Int)
    (event : AuthorizeEvent) : Decidable (InMinute catalog name stop event) :=
  inferInstanceAs (Decidable (_ ∧ _ ∧ _))

omit [PyRuntime] in
/-- The limiter is called under the name of the tool, at the time of the call. -/
theorem limiterCallOf_eq_some {catalog : Catalog} {call : LimiterCall}
    (counted : limiterCallOf catalog event = some call) :
    (∃ key tool, catalog.get? key = some tool ∧ tool.name = call.toolName ∧
      tool.rateLimit.callsPerMinute = call.callsPerMinute) ∧
    requestedTool catalog event = some call.toolName ∧
    event.effectiveNow = call.now := by
  unfold limiterCallOf at counted
  unfold requestedTool
  cases found : catalog.get? event.call.request.toolName with
  | none => simp [found] at counted
  | some tool =>
      simp only [found] at counted
      split_ifs at counted
      cases counted
      exact ⟨⟨_, tool, found, rfl, rfl⟩, rfl, rfl⟩

/-- Every grant of a run was counted by the limiter. -/
theorem counted_of_granted {initial final : Gateway Store}
    {events : List AuthorizeEvent}
    (run : Run AuthorizeStep initial events final) :
    ∀ event ∈ events, event.granted = true →
      (limiterCallOf initial.catalog event).isSome = true := by
  refine run.forall_labels
    (fun gateway => gateway.catalog = initial.catalog) _ ?_ rfl
  intro source event target same step
  refine ⟨fun granted => ?_, step.catalog_eq.trans same⟩
  rw [← same]
  cases counted : limiterCallOf source.catalog event with
  | none =>
      rw [(step.limiter_idle counted).2] at granted
      cases granted
  | some call => rfl

/-- No minute holds more grants of a tool than its limit allows. -/
theorem length_granted_le {initial final : Gateway Store}
    {events : List AuthorizeEvent}
    (run : Run AuthorizeStep initial events final)
    (unused : initial.rateLimiter = RateLimiter.fresh)
    (ordered : events.Pairwise fun first second =>
      first.effectiveNow.gt second.effectiveNow = .ok false)
    {name : PyStr} {limit : Int}
    (fixed : ∀ key tool, initial.catalog.get? key = some tool →
      tool.name = name → tool.rateLimit.callsPerMinute = limit)
    (stop : Int) :
    ((events.filter fun event => event.granted = true ∧
      InMinute initial.catalog name stop event).length : Int) ≤
        max limit 0 := by
  let calls := events.filterMap (limiterCallOf initial.catalog)
  have callsOrdered : calls.Pairwise LimiterCall.NotAfter := by
    refine ordered.filterMap _ ?_
    intro first second notLater call isCall other isOther
    have here := (limiterCallOf_eq_some isCall).2.2
    have there := (limiterCallOf_eq_some isOther).2.2
    rwa [LimiterCall.NotAfter, ← here, ← there]
  have callsFixed : ∀ call ∈ calls, call.toolName = name →
      call.callsPerMinute = limit := by
    intro call member named
    obtain ⟨event, -, isCall⟩ := List.mem_filterMap.mp member
    obtain ⟨⟨key, tool, found, sameName, sameLimit⟩, -⟩ :=
      limiterCallOf_eq_some isCall
    exact sameLimit ▸ fixed key tool found (sameName.trans named)
  let selected := events.filter fun event => event.granted = true ∧
    InMinute initial.catalog name stop event
  have counted : ∀ event ∈ selected,
      (limiterCallOf initial.catalog event).isSome = true := by
    intro event member
    obtain ⟨isEvent, chosen⟩ := List.mem_filter.mp member
    exact counted_of_granted run event isEvent (of_decide_eq_true chosen).1
  have within : ∀ call ∈ selected.filterMap (limiterCallOf initial.catalog),
      (call.toolName = name ∧ stop - oneMinute < call.now.instant) ∧
        call.now.instant ≤ stop := by
    intro call member
    obtain ⟨event, isSelected, isCall⟩ := List.mem_filterMap.mp member
    obtain ⟨-, named, atTime⟩ := limiterCallOf_eq_some isCall
    obtain ⟨-, asks, starts, stops⟩ :=
      of_decide_eq_true (List.mem_filter.mp isSelected).2
    rw [named, Option.some.injEq] at asks
    rw [atTime] at starts stops
    exact ⟨⟨asks, starts⟩, stops⟩
  have granted : selected.Sublist (events.filter (·.granted)) := by
    apply List.monotone_filter_right
    intro event chosen
    exact (of_decide_eq_true chosen).1
  have admitted := grants_sublist_admitted run
  rw [unused] at admitted
  have among := (granted.filterMap (limiterCallOf initial.catalog)).trans
    admitted
  have kept := (among.filter fun call =>
    call.toolName = name ∧ stop - oneMinute < call.now.instant).filter
      fun call => call.now.instant ≤ stop
  rw [List.filter_eq_self.mpr fun call member =>
      decide_eq_true (within call member).1,
    List.filter_eq_self.mpr fun call member =>
      decide_eq_true (within call member).2] at kept
  refine le_trans (Int.ofNat_le.mpr ?_)
    (admitted_in_minute callsOrdered callsFixed stop)
  rw [← List.filterMap_length_eq_length.mpr counted]
  exact kept.length_le

end Rate

/-! ## What a run of effects costs -/

section Effects

variable [PyRuntime] {Store Handle : Type} [ApprovalStoreProtocol Store]
  [DecidableEq Handle] {contract : Contract}

/-- What every step of a run shows, given the catalog it began with. -/
theorem forall_effective {initial final : Platform Store (World Handle)}
    {labels : List (ObservedEvent Handle)}
    (run : Run (ObservedStep contract) initial labels final) :
    ∀ observed ∈ labels, observed.effective = true →
      observed.authorizeEvent.Allowed ∧
        observed.event.call.authorize.request.action = executeAction :=
  run.forall_labels (fun _ => True) _
    (fun _ step => ⟨fun effective =>
      ⟨(step.allowed_of_effective effective).1,
        (step.allowed_of_effective effective).2.1⟩, trivial⟩) trivial

/--
In no minute do more calls for a tool change the state of an executor than
the tool's rate limit allows.
-/
theorem effects_within_rate_limit
    {initial final : Platform Store (World Handle)}
    {labels : List (ObservedEvent Handle)}
    (run : Run (ObservedStep contract) initial labels final)
    (unused : initial.gateway.rateLimiter = RateLimiter.fresh)
    (ordered : labels.Pairwise fun first second =>
      first.authorizeEvent.effectiveNow.gt
        second.authorizeEvent.effectiveNow = .ok false)
    {name : PyStr} {limit : Int}
    (fixed : ∀ key tool, initial.gateway.catalog.get? key = some tool →
      tool.name = name → tool.rateLimit.callsPerMinute = limit)
    (stop : Int) :
    ((labels.filter fun observed => observed.effective = true ∧
      InMinute initial.gateway.catalog name stop
        observed.authorizeEvent).length : Int) ≤ max limit 0 := by
  have bounded := length_granted_le (gatewayRun run) unused
    (List.pairwise_map.mpr ordered) fixed stop
  refine le_trans (Int.ofNat_le.mpr ?_) bounded
  rw [List.filter_map, List.length_map, ← List.countP_eq_length_filter,
    ← List.countP_eq_length_filter]
  apply List.countP_mono_left
  intro observed member counted
  obtain ⟨effective, inMinute⟩ := of_decide_eq_true counted
  have allowed := (forall_effective run observed member effective).1
  exact decide_eq_true ⟨AuthorizeEvent.granted_iff.mpr allowed, inMinute⟩

/-- A returned result uses up its key: no later effect has the same one. -/
def KeyUsed (past : ObservedEvent Handle)
    (platform : Platform Store (World Handle)) : Prop :=
  past.Returned →
    (platform.world.stores past.storeKey.1).get past.storeKey.2 ≠ none

variable {platform after : Platform Store (World Handle)}
  {observed past : ObservedEvent Handle}

theorem ObservedStep.keyUsed
    (step : ObservedStep contract platform observed after) :
    KeyUsed observed after := by
  rintro ⟨outcome, returned, authorized⟩
  have ended := executed step.step
  generalize observed.event.outcome = answer at ended returned
  cases ended with
  | raised authorized => cases returned
  | denied authorized refused =>
      cases returned
      cases authorized
  | @performed _ _ result _ authorized allowed ran =>
      cases result with
      | error error => cases returned
      | ok record =>
          have remembered := (called ran).recalls
          exact Option.ne_none_iff_exists'.mpr ⟨record, remembered⟩

theorem KeyUsed.step (used : KeyUsed past platform)
    (step : ObservedStep contract platform observed after) :
    KeyUsed past after := by
  intro returned
  have before := used returned
  obtain ⟨held, remembered⟩ := Option.ne_none_iff_exists'.mp before
  rcases step.step.split with ⟨-, same⟩ | ⟨_, _, -, -, ran, -⟩
  · rw [same]
    exact before
  · rw [ran.remembers remembered]
    exact Option.some_ne_none held

/--
Once a call has returned its executor's result, no later call with the same
store and idempotency key changes the state of an executor.
-/
theorem effects_once_per_key
    {initial final : Platform Store (World Handle)}
    {labels : List (ObservedEvent Handle)}
    (run : Run (ObservedStep contract) initial labels final) :
    labels.Pairwise fun first second =>
      first.Returned → second.effective = true →
        first.storeKey ≠ second.storeKey := by
  refine run.pairwise _ (fun _ => True) KeyUsed (fun _ _ => trivial)
    (fun _ step => step.keyUsed) KeyUsed.step ?_ trivial
  intro past source observed target _ used step returned effective same
  have unused := (step.allowed_of_effective effective).2.2
  rw [← same] at unused
  exact used returned unused

end Effects

section Approvals

variable [PyRuntime] {Handle : Type} [DecidableEq Handle]
  {contract : Contract}

/-- The store stage only adds ids. -/
theorem consumed_subset_of_storeStage {demand : Option Demand}
    {request : ToolCallRequest} {now : PyDateTime}
    {store final : ApprovalStore}
    (passed : storeStage demand request now store = (.ok (), final)) :
    store.consumed ⊆ final.consumed := by
  cases demand with
  | none =>
      cases passed
      exact Finset.Subset.refl _
  | some demand =>
      have accepted : ApprovalStore.validateAndConsume demand.approval
          demand.planHash request.subject executorId now store =
            (.ok (), final) :=
        PyM.mapError_apply_eq_ok_iff.mp passed
      obtain ⟨approvalId, key, -, -, -, rfl⟩ :=
        ApprovalStore.validateAndConsume_eq_ok_iff.mp accepted
      exact Finset.subset_insert key store.consumed

/-- No call frees an id. -/
theorem AuthorizeStep.consumed_subset {gateway final : Gateway ApprovalStore}
    {event : AuthorizeEvent} (step : AuthorizeStep gateway event final) :
    gateway.approvalStore.consumed ⊆ final.approvalStore.consumed := by
  rw [AuthorizeStep, Gateway.authorize, PyM.finish_apply] at step
  rcases ran : Gateway.authorizeBody event.call.request
    event.call.currentPlanHash event.call.now event.call.ambient gateway with
    ⟨exit | granted, reached⟩
  · rw [ran] at step
    obtain ⟨-, rfl⟩ := Prod.mk.inj step
    rcases authorizeBody_of_error ran with same | ⟨demand, refused⟩ |
      ⟨⟨tool, demand, through⟩, -⟩
    · rw [same]
    · rw [storeStage_of_error refused]
    · exact consumed_subset_of_storeStage through.consumed
  · rw [ran] at step
    obtain ⟨-, rfl⟩ := Prod.mk.inj step
    obtain ⟨⟨tool, demand, through⟩, -⟩ := authorizeBody_eq_ok_iff.mp ran
    exact consumed_subset_of_storeStage through.consumed

/-- The effect was requested for a tool that requires an approval. -/
structure NeedsApproval (catalog : Catalog) (observed : ObservedEvent Handle) :
    Prop where
  effective : observed.effective = true
  required : ∃ tool,
    catalog.get? observed.event.call.authorize.request.toolName =
        some tool ∧ tool.approvalRequired = true

/-- The effect spent the approval it was requested under. -/
def Spent (catalog : Catalog) (past : ObservedEvent Handle)
    (platform : Platform ApprovalStore (World Handle)) : Prop :=
  NeedsApproval catalog past →
    ∃ key, past.authorizeEvent.presentedKey = some key ∧
      key ∈ platform.gateway.approvalStore.consumed

variable {platform after initial final : Platform ApprovalStore (World Handle)}
  {observed past : ObservedEvent Handle}

theorem ObservedStep.grantsApproved
    (step : ObservedStep contract platform observed after)
    (needs : NeedsApproval platform.gateway.catalog observed) :
    GrantsApproved platform.gateway.catalog observed.authorizeEvent where
  allowed := (step.allowed_of_effective needs.effective).1
  execute := (step.allowed_of_effective needs.effective).2.1
  required := needs.required

/-- An effect that needs an approval takes an id that was not yet used. -/
theorem ObservedStep.spends
    (step : ObservedStep contract platform observed after)
    (needs : NeedsApproval platform.gateway.catalog observed) :
    ∃ key, observed.authorizeEvent.presentedKey = some key ∧
      key ∉ platform.gateway.approvalStore.consumed ∧
      key ∈ after.gateway.approvalStore.consumed := by
  obtain ⟨key, presented, unspent, stored⟩ :=
    step.authorizeStep.spends (step.grantsApproved needs)
  refine ⟨key, presented, unspent, ?_⟩
  rw [stored]
  exact Finset.mem_insert_self key _

/-- Over a run the catalog stays, and no id is freed. -/
theorem gateway_of_observedRun {labels : List (ObservedEvent Handle)}
    (run : Run (ObservedStep contract) initial labels final) :
    final.gateway.catalog = initial.gateway.catalog ∧
      initial.gateway.approvalStore.consumed ⊆
        final.gateway.approvalStore.consumed := by
  refine run.invariant (fun platform =>
    platform.gateway.catalog = initial.gateway.catalog ∧
      initial.gateway.approvalStore.consumed ⊆
        platform.gateway.approvalStore.consumed) ?_
    ⟨rfl, Finset.Subset.refl _⟩
  rintro source observed target ⟨same, held⟩ step
  exact ⟨step.authorizeStep.catalog_eq.trans same,
    held.trans step.authorizeStep.consumed_subset⟩

/--
Effects requested for tools that require an approval are requested under
different approval ids: none was used before the run, and all are after it.
-/
theorem effects_spend_approvals
    {labels : List (ObservedEvent Handle)}
    (run : Run (ObservedStep contract) initial labels final) :
    (∀ observed ∈ labels,
      NeedsApproval initial.gateway.catalog observed →
        ∃ key, observed.authorizeEvent.presentedKey = some key ∧
          key ∉ initial.gateway.approvalStore.consumed ∧
          key ∈ final.gateway.approvalStore.consumed) ∧
    labels.Pairwise fun first second =>
      NeedsApproval initial.gateway.catalog first →
        NeedsApproval initial.gateway.catalog second →
          first.authorizeEvent.presentedKey ≠
            second.authorizeEvent.presentedKey := by
  constructor
  · intro observed member needs
    obtain ⟨before, later, rfl⟩ := List.append_of_mem member
    obtain ⟨here, there, front, step, back⟩ := run.split
    obtain ⟨same, held⟩ := gateway_of_observedRun front
    rw [← same] at needs
    obtain ⟨key, presented, unspent, spent⟩ := step.spends needs
    exact ⟨key, presented, fun earlier => unspent (held earlier),
      (gateway_of_observedRun back).2 spent⟩
  · refine run.pairwise _
      (fun platform => platform.gateway.catalog = initial.gateway.catalog)
      (Spent initial.gateway.catalog) ?_ ?_ ?_ ?_ rfl
    · intro source observed target same step
      exact step.authorizeStep.catalog_eq.trans same
    · intro source observed target same step needs
      rw [← same] at needs
      obtain ⟨key, presented, -, spent⟩ := step.spends needs
      exact ⟨key, presented, spent⟩
    · intro past source observed target spent step needs
      obtain ⟨key, presented, held⟩ := spent needs
      exact ⟨key, presented, step.authorizeStep.consumed_subset held⟩
    · intro past source observed target same spent step needs needsToo equal
      rw [← same] at needsToo
      obtain ⟨key, presented, held⟩ := spent needs
      obtain ⟨other, presentedToo, unspent, -⟩ := step.spends needsToo
      rw [presented, presentedToo, Option.some.injEq] at equal
      rw [equal] at held
      exact unspent held

end Approvals

section Example

attribute [local instance] Reference.runtime

open Scenario

/-- A changed slot of the target is an effect. -/
theorem exists_effectiveRun {contract : Contract}
    {initial final : Platform ApprovalStore (World Unit)}
    {event : ExecutionEvent Unit}
    (step : ExecutionStep contract initial event final)
    {kind : ExecutorKind} {target : PyStr}
    (changed : slot (final.world.state kind) target ≠
      slot (initial.world.state kind) target) :
    ∃ observed : ObservedEvent Unit, observed.event = event ∧
      observed.effective = true ∧
      Run (ObservedStep contract) initial [observed] final := by
  obtain ⟨labels, plain, run⟩ :=
    exists_observedRun (Run.next step (.done _))
  obtain ⟨observed, rfl, same⟩ := List.map_eq_singleton_iff.mp plain
  cases run with
  | next head tail =>
      cases tail
      exact ⟨observed, same, head.changes.mpr ⟨kind, target, changed⟩,
        .next head (.done _)⟩

/-- One effect at noon is within the limit of its tool. -/
theorem effects_within_rate_limit_of_one_call :
    ∃ (observed : ObservedEvent Unit)
      (final : Platform ApprovalStore (World Unit)),
      Run (ObservedStep fun _ => [])
          ⟨gateway ApprovalStore.fresh, untouchedWorld⟩ [observed] final ∧
        observed.effective = true ∧
        (([observed].filter fun observed => observed.effective = true ∧
          InMinute shippedCatalog increaseMonitoringTool.name noon.instant
            observed.authorizeEvent).length : Int) ≤
          max increaseMonitoringTool.rateLimit.callsPerMinute 0 := by
  obtain ⟨outcome, final, step, applied⟩ :=
    exists_monitoringStep (fun _ => []) ⟨.increaseMonitoring, ()⟩
  have raised : slot (final.world.state .increaseMonitoring) target =
      some (.levels normalLevel verboseLevel) := applied
  have changed : slot (final.world.state .increaseMonitoring) target ≠
      slot (untouchedWorld.state .increaseMonitoring) target := by
    rw [raised]
    exact nofun
  obtain ⟨observed, same, effective, run⟩ := exists_effectiveRun step changed
  have fixed : ∀ key tool, shippedCatalog.get? key = some tool →
      tool.name = increaseMonitoringTool.name →
        tool.rateLimit.callsPerMinute =
          increaseMonitoringTool.rateLimit.callsPerMinute := by
    intro key tool found named
    have known : shippedCatalog.get? increaseMonitoringTool.name =
        some increaseMonitoringTool := rfl
    rw [shippedCatalog_get?_name found, named, known] at found
    cases found
    rfl
  exact ⟨observed, final, run, effective,
    effects_within_rate_limit run rfl (List.pairwise_singleton _ _) fixed _⟩

/-- Made twice under one key, the call has one effect. -/
theorem effects_once_per_key_of_two_calls :
    ∃ (first second : ObservedEvent Unit)
      (final : Platform ApprovalStore (World Unit)),
      Run (ObservedStep fun _ => [])
          ⟨gateway ApprovalStore.fresh, untouchedWorld⟩ [first, second]
          final ∧
        first.event.call = second.event.call ∧ first.Returned ∧
        second.effective = false := by
  obtain ⟨outcome, middle, step, -⟩ :=
    exists_monitoringStep (fun _ => []) ⟨.increaseMonitoring, ()⟩
  obtain ⟨again, final, stepAgain⟩ := exists_executionStep (fun _ => [])
    middle (monitoringCall ⟨.increaseMonitoring, ()⟩)
  obtain ⟨labels, plain, run⟩ :=
    exists_observedRun (Run.next step (Run.next stepAgain (.done _)))
  obtain ⟨first, rest, rfl, isFirst, others⟩ :=
    List.map_eq_cons_iff.mp plain
  obtain ⟨second, rfl, isSecond⟩ := List.map_eq_singleton_iff.mp others
  have returned : first.Returned := by
    rcases step.split with ⟨refused, -⟩ | ⟨_, result, -, -, ran, answered⟩
    · exact (refused (monitoringCall_authorised _ _)).elim
    · generalize middle.world = left at ran
      cases ran with
      | remembered held => exact ⟨_, isFirst ▸ answered, rfl⟩
      | accepted unheld built accepts => exact ⟨_, isFirst ▸ answered, rfl⟩
      | rejected unheld built rejects => exact (rejects rfl).elim
  have sameKey : first.storeKey = second.storeKey := by
    simp only [ObservedEvent.storeKey, isFirst, isSecond]
  refine ⟨first, second, final, run, by rw [isFirst, isSecond], returned, ?_⟩
  rw [Bool.eq_false_iff]
  intro effective
  have apart := List.rel_of_pairwise_cons (effects_once_per_key run)
    (List.mem_singleton_self second)
  exact apart returned effective sameKey

/-- The call of `execute_with_authorization` for the approved isolation. -/
def isolationCall (planHash signatureRef : PyStr) : ExecutionCall Unit where
  executor := ⟨.kubernetes, ()⟩
  stamps := ⟨noon, noon, noon, ambient.uuidHex⟩
  authorize := (grantedEvent planHash signatureRef).call
  runId := "run-1"
  idempotencyKey := "key-1"
  actionId := "action-1"

/-- The approval of an isolation is spent with its effect. -/
theorem effects_spend_approvals_of_isolation :
    ∃ (observed : ObservedEvent Unit)
      (final : Platform ApprovalStore (World Unit)),
      Run (ObservedStep fun _ => [])
          ⟨gateway ApprovalStore.fresh, untouchedWorld⟩ [observed] final ∧
        observed.effective = true ∧
        HashKey.text "apr:1" ∈ final.gateway.approvalStore.consumed := by
  obtain ⟨planHash, signatureRef, bound, signed⟩ :=
    exists_signed_plan isolateKubernetesWorkloadTool
      (surrogateFree_ofString "apr:1")
  let platform : Platform ApprovalStore (World Unit) :=
    ⟨gateway ApprovalStore.fresh, untouchedWorld⟩
  let call := isolationCall planHash signatureRef
  have allowed : Authorised platform.gateway call.authorize :=
    ⟨_, _, containment_granted (.inl rfl) bound signed (by decide)
      (Finset.notMem_empty _), rfl⟩
  obtain ⟨outcome, final, step⟩ :=
    exists_executionStep (fun _ => []) platform call
  have applied : final.world.state .kubernetes =
      (call.executor.effectOn false target untouchedWorld).state :=
    step.applies allowed rfl rfl
  have isolated : slot (final.world.state .kubernetes) target =
      some (.policy (FakeClusterState.policyName target)) := by
    rw [applied]
    exact (ExecutorKind.kubernetes.operation false).here target _
  have changed : slot (final.world.state .kubernetes) target ≠
      slot (untouchedWorld.state .kubernetes) target := by
    rw [isolated]
    exact nofun
  obtain ⟨observed, same, effective, run⟩ := exists_effectiveRun step changed
  obtain ⟨key, presented, -, spent⟩ :=
    (effects_spend_approvals run).1 observed (List.mem_singleton_self _)
      ⟨effective, isolateKubernetesWorkloadTool, by rw [same]; rfl, rfl⟩
  have named : observed.authorizeEvent.presentedKey =
      some (.text "apr:1") := by
    simp [AuthorizeEvent.presentedKey, ObservedEvent.authorizeEvent, same,
      call, isolationCall, grantedEvent, request, executeRequest,
      approval_named, Json.hashKey, Except.toOption]
  rw [named, Option.some.injEq] at presented
  rw [← presented] at spent
  exact ⟨observed, final, run, effective, spent⟩

end Example

end ArgosCyberTools.McpGateway
