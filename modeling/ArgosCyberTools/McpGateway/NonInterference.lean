import ArgosCyberTools.McpGateway.Consumption
import ArgosCyberTools.McpGateway.RateWindow
import ArgosCyberTools.Policies.KeyedStores
import ArgosCyberTools.Transition.Unwinding

/-!
# Tools do not interfere

What a run of calls decides about one tool depends on the calls of that tool
alone, and not on the tokens of the callers: the limiter keeps a history for
each tool, and a store looks at one key at a time.
-/

namespace ArgosCyberTools.McpGateway

open Python ToolCatalog Policies Transition PyM

section Stages

variable [PyRuntime] {Store : Type} [ApprovalStoreProtocol Store]

/-- `authorize`, stage by stage. -/
theorem authorize_apply (request : ToolCallRequest)
    (currentPlanHash : Option PyStr) (now : Option PyDateTime)
    (ambient : Ambient) (gateway : Gateway Store) :
    Gateway.authorize request currentPlanHash now ambient gateway =
      match checks gateway.catalog gateway.targetAllowlists request
          currentPlanHash (now.getD ambient.clock) gateway.rateLimiter with
      | (.error exit, limiter) =>
          (Exit.finish (.error exit), { gateway with rateLimiter := limiter })
      | (.ok demand, limiter) =>
          match storeStage demand request (now.getD ambient.clock)
              gateway.approvalStore with
          | (.error exit, store) =>
              (Exit.finish (.error exit),
                { gateway with rateLimiter := limiter, approvalStore := store })
          | (.ok (), store) =>
              (Exit.finish (mintStage request ambient),
                { gateway with
                  rateLimiter := limiter, approvalStore := store }) := by
  simp only [Gateway.authorize, finish_apply, Gateway.authorizeBody,
    bind_apply, get_apply, onField_apply, ofExcept_apply]
  rcases checks gateway.catalog gateway.targetAllowlists request
    currentPlanHash (now.getD ambient.clock) gateway.rateLimiter with
    ⟨exit | demand, limiter⟩
  · rfl
  · simp only
    rcases storeStage demand request (now.getD ambient.clock)
      gateway.approvalStore with ⟨exit | ⟨⟩, store⟩
    · rfl
    · rfl

/-- The stages in front of the minting do not look at the caller's token. -/
theorem checks_callerToken (catalog : Catalog) (allowlists : Allowlists)
    (request : ToolCallRequest) (callerToken : PyStr)
    (currentPlanHash : Option PyStr) (now : PyDateTime) :
    checks catalog allowlists { request with callerToken } currentPlanHash
        now =
      checks catalog allowlists request currentPlanHash now :=
  rfl

theorem storeStage_callerToken (demand : Option Demand)
    (request : ToolCallRequest) (callerToken : PyStr) (now : PyDateTime) :
    (storeStage demand { request with callerToken } now :
        PyM Store AuthorizeExit Unit) =
      storeStage demand request now :=
  rfl

/-! ## What the stages look at -/

/-- The history of one tool, if there is such a tool. -/
def historyOf (name : Option PyStr) (limiter : RateLimiter) :
    Option (List PyDateTime) :=
  name.map limiter.history

omit [PyRuntime] in
theorem dependsOn_rateLimitStage (tool : ToolDefinition) (now : PyDateTime) :
    DependsOn (historyOf (some tool.name)) (rateLimitStage tool now) := by
  apply dependsOn_bind
  · apply dependsOn_mapError
    intro left right alike
    obtain ⟨answers, histories⟩ :=
      RateLimiter.checkAndRecord_congr (Option.some.inj alike)
    exact ⟨answers, congrArg some histories⟩
  · intro admitted
    exact dependsOn_ofExcept _

omit [PyRuntime] in
theorem keeps_rateLimitStage {tool : ToolDefinition} {name : Option PyStr}
    (different : name ≠ some tool.name) (now : PyDateTime) :
    Keeps (historyOf name) (rateLimitStage tool now) := by
  apply keeps_bind
  · intro limiter
    rw [mapError_snd]
    refine Option.map_congr fun asked isName =>
      RateLimiter.checkAndRecord_history_of_ne ?_
    rintro rfl
    exact different isName
  · intro admitted
    exact keeps_ofExcept _

variable {catalog : Catalog} {allowlists : Allowlists}
  {request : ToolCallRequest} {currentPlanHash : Option PyStr}
  {now : PyDateTime} {name : Option PyStr}

/-- What `checks` does once the tool is found. -/
def checksOf (tool : ToolDefinition) (allowlists : Allowlists)
    (request : ToolCallRequest) (currentPlanHash : Option PyStr)
    (now : PyDateTime) : PyM RateLimiter AuthorizeExit (Option Demand) := do
  PyM.ofExcept (sideEffectStage tool)
  rateLimitStage tool now
  PyM.ofExcept (documentStages allowlists tool request currentPlanHash now)

theorem checks_of_found {tool : ToolDefinition}
    (found : catalog.get? request.toolName = some tool) :
    checks catalog allowlists request currentPlanHash now =
      checksOf tool allowlists request currentPlanHash now := by
  rw [checks, lookupTool, found]
  rfl

theorem checks_of_missing
    (missing : catalog.get? request.toolName = none) :
    checks catalog allowlists request currentPlanHash now =
      PyM.ofExcept (.error (.raised (.toolNotFound request.toolName))) := by
  rw [checks, lookupTool, missing]
  rfl

/-- A call looks at the history of its own tool. -/
theorem dependsOn_checks
    (named : ∀ tool, catalog.get? request.toolName = some tool →
      name = some tool.name) :
    DependsOn (historyOf name)
      (checks catalog allowlists request currentPlanHash now) := by
  cases found : catalog.get? request.toolName with
  | none =>
      rw [checks_of_missing found]
      exact dependsOn_ofExcept _
  | some tool =>
      rw [checks_of_found found, named tool found]
      refine dependsOn_bind (dependsOn_ofExcept _) fun _ => ?_
      refine dependsOn_bind (dependsOn_rateLimitStage tool now) fun _ => ?_
      exact dependsOn_ofExcept _

/-- A call leaves the history of every other tool alone. -/
theorem keeps_checks
    (unnamed : ∀ tool, catalog.get? request.toolName = some tool →
      name ≠ some tool.name) :
    Keeps (historyOf name)
      (checks catalog allowlists request currentPlanHash now) := by
  cases found : catalog.get? request.toolName with
  | none =>
      rw [checks_of_missing found]
      exact keeps_ofExcept _
  | some tool =>
      rw [checks_of_found found]
      have different := unnamed tool found
      refine keeps_bind (keeps_ofExcept _) fun _ => ?_
      refine keeps_bind (keeps_rateLimitStage different now) fun _ => ?_
      exact keeps_ofExcept _

/-- What is left to consume is the approval of the request. -/
theorem approval_of_checks {limiter final : RateLimiter} {demand : Demand}
    (checked : checks catalog allowlists request currentPlanHash now
      limiter = (.ok (some demand), final)) :
    request.approval = some demand.approval := by
  obtain ⟨tool, -, -, -, documents⟩ := checks_eq_ok_iff.mp checked
  simp only [documentStages, bind_eq_ok_iff] at documents
  obtain ⟨-, -, -, -, staged⟩ := documents
  rw [approvalStage_eq_ok_iff] at staged
  split_ifs at staged
  obtain ⟨approval, planHash, presented, -, -, same⟩ := staged
  cases same
  exact presented

section Keyed

variable {Key : Type} [KeyedApprovalStore Store Key]

/-- The key of the approval a request presents. -/
def presentedKeyOf (Store : Type) {Key : Type} [ApprovalStoreProtocol Store]
    [KeyedApprovalStore Store Key] (request : ToolCallRequest) :
    Option Key :=
  request.approval.bind
    (presentedUnder (@KeyedApprovalStore.key _ Store _ Key _))

variable {keys : Set Key} {demand : Option Demand}

/-- The demand, if there is one, is the approval of the request. -/
def DemandOf (request : ToolCallRequest) (demand : Option Demand) : Prop :=
  ∀ wanted, demand = some wanted → request.approval = some wanted.approval

theorem dependsOn_storeStage (isDemand : DemandOf request demand)
    (within : ∀ held, presentedKeyOf Store request = some held →
      held ∈ keys) :
    DependsOn (KeyedApprovalStore.view keys)
      (storeStage demand request now : PyM Store AuthorizeExit Unit) := by
  cases demand with
  | none => exact fun _ _ alike => ⟨rfl, alike⟩
  | some wanted =>
      apply dependsOn_mapError
      apply KeyedApprovalStore.dependsOn_view
      intro held isKey
      apply within
      rw [presentedKeyOf, isDemand wanted rfl]
      exact isKey

theorem keeps_storeStage (isDemand : DemandOf request demand)
    (outside : ∀ held, presentedKeyOf Store request = some held →
      held ∉ keys) :
    Keeps (KeyedApprovalStore.view keys)
      (storeStage demand request now : PyM Store AuthorizeExit Unit) := by
  cases demand with
  | none => exact fun _ => rfl
  | some wanted =>
      intro store
      rw [storeStage, mapError_snd]
      apply KeyedApprovalStore.keeps_view
      intro held isKey
      apply outside
      rw [presentedKeyOf, isDemand wanted rfl]
      exact isKey

/-! ## What one tool sees of a gateway -/

/-- The history of the tool, and what the store knows of these keys. -/
def toolView (name : Option PyStr) (keys : Set Key)
    (gateway : Gateway Store) :
    (Catalog × Allowlists) × Option (List PyDateTime) ×
      KeyedApprovalStore.View Store :=
  ((gateway.catalog, gateway.targetAllowlists),
    historyOf name gateway.rateLimiter,
    KeyedApprovalStore.view keys gateway.approvalStore)

/-- What a caller learns from a call: everything but the credential. -/
def decisionOf (outcome : Except AuthorizeError AuthorizationResult) :
    Except AuthorizeError (Bool × Reason) :=
  outcome.map fun result => (result.allowed, result.reason)

variable {gateway other : Gateway Store} {ambient otherAmbient : Ambient}
  {moment otherMoment : Option PyDateTime}

omit [PyRuntime] in
theorem decisionOf_mintStage
    (fresh : mintEphemeralCredential ambient ≠ request.callerToken) :
    decisionOf (Exit.finish (mintStage request ambient)) =
      .ok (true, .authorised) := by
  rw [mintStage, decide_eq_false fresh]
  rfl

/-- A call for another tool, under another approval, is not seen. -/
theorem keeps_toolView
    (unnamed : ∀ tool, gateway.catalog.get? request.toolName = some tool →
      name ≠ some tool.name)
    (outside : ∀ held, presentedKeyOf Store request = some held →
      held ∉ keys) :
    toolView name keys
        (Gateway.authorize request currentPlanHash moment ambient
          gateway).2 =
      toolView name keys gateway := by
  rw [authorize_apply]
  have history : historyOf name
      (checks gateway.catalog gateway.targetAllowlists request
        currentPlanHash (moment.getD ambient.clock)
        gateway.rateLimiter).2 = historyOf name gateway.rateLimiter :=
    keeps_checks unnamed gateway.rateLimiter
  rcases checked : checks gateway.catalog gateway.targetAllowlists request
    currentPlanHash (moment.getD ambient.clock) gateway.rateLimiter with
    ⟨exit | demand, limiter⟩
  · rw [checked] at history
    simp only [toolView, history]
  · rw [checked] at history
    have isDemand : DemandOf request demand := by
      rintro wanted rfl
      exact approval_of_checks checked
    have view : KeyedApprovalStore.view keys
        (storeStage demand request (moment.getD ambient.clock)
          gateway.approvalStore).2 =
          KeyedApprovalStore.view keys gateway.approvalStore :=
      keeps_storeStage isDemand outside gateway.approvalStore
    simp only
    rcases consumed : storeStage demand request (moment.getD ambient.clock)
      gateway.approvalStore with ⟨exit | ⟨⟩, store⟩ <;>
    · rw [consumed] at view
      simp only [toolView, history, view]

/-- Two calls for a tool that differ in the token are decided alike. -/
theorem decisionOf_alike {callerToken : PyStr}
    (named : ∀ tool, gateway.catalog.get? request.toolName = some tool →
      name = some tool.name)
    (within : ∀ held, presentedKeyOf Store request = some held →
      held ∈ keys)
    (sameMoment :
      moment.getD ambient.clock = otherMoment.getD otherAmbient.clock)
    (fresh : mintEphemeralCredential ambient ≠ request.callerToken)
    (otherFresh : mintEphemeralCredential otherAmbient ≠ callerToken)
    (alike : toolView name keys gateway = toolView name keys other) :
    decisionOf
        (Gateway.authorize request currentPlanHash moment ambient
          gateway).1 =
      decisionOf
        (Gateway.authorize { request with callerToken } currentPlanHash
          otherMoment otherAmbient other).1 ∧
    toolView name keys
        (Gateway.authorize request currentPlanHash moment ambient
          gateway).2 =
      toolView name keys
        (Gateway.authorize { request with callerToken } currentPlanHash
          otherMoment otherAmbient other).2 := by
  simp only [toolView, Prod.mk.injEq] at alike
  obtain ⟨⟨catalogs, allowlists⟩, histories, views⟩ := alike
  rw [authorize_apply, authorize_apply,
    checks_callerToken _ _ request callerToken, ← sameMoment, ← catalogs,
    ← allowlists]
  have checksDepend : DependsOn (historyOf name)
      (checks gateway.catalog gateway.targetAllowlists request
        currentPlanHash (moment.getD ambient.clock)) :=
    dependsOn_checks named
  obtain ⟨sameChecks, checkedHistories⟩ :=
    checksDepend gateway.rateLimiter other.rateLimiter histories
  rcases checked : checks gateway.catalog gateway.targetAllowlists request
    currentPlanHash (moment.getD ambient.clock) gateway.rateLimiter with
    ⟨result, limiter⟩
  rcases otherChecked : checks gateway.catalog gateway.targetAllowlists
    request currentPlanHash (moment.getD ambient.clock) other.rateLimiter with
    ⟨otherResult, otherLimiter⟩
  rw [checked, otherChecked] at sameChecks checkedHistories
  obtain rfl : result = otherResult := sameChecks
  cases result with
  | error exit =>
      refine ⟨rfl, ?_⟩
      simp only [toolView, checkedHistories, catalogs, allowlists, views]
  | ok demand =>
      have isDemand : DemandOf request demand := by
        rintro wanted rfl
        exact approval_of_checks checked
      have storeDepends : DependsOn
          (@KeyedApprovalStore.view _ Store _ Key _ keys)
          (storeStage demand request (moment.getD ambient.clock)) :=
        dependsOn_storeStage isDemand within
      obtain ⟨sameStores, storeViews⟩ :=
        storeDepends gateway.approvalStore other.approvalStore views
      dsimp only
      rw [storeStage_callerToken _ request callerToken]
      rcases ran : storeStage demand request (moment.getD ambient.clock)
        gateway.approvalStore with ⟨consumed, store⟩
      rcases otherRan : storeStage demand request
        (moment.getD ambient.clock) other.approvalStore with
        ⟨otherConsumed, otherStore⟩
      rw [ran, otherRan] at sameStores storeViews
      obtain rfl : consumed = otherConsumed := sameStores
      cases consumed with
      | error exit =>
          refine ⟨rfl, ?_⟩
          simp only [toolView, checkedHistories, catalogs, allowlists,
            storeViews]
      | ok =>
          refine ⟨?_, ?_⟩
          · rw [decisionOf_mintStage fresh, decisionOf_mintStage otherFresh]
          · simp only [toolView, checkedHistories, catalogs, allowlists,
              storeViews]

/-! ## Runs -/

/-- No two entries of the catalog carry the same tool name. -/
def DistinctNames (catalog : Catalog) : Prop :=
  ∀ first second tool other, catalog.get? first = some tool →
    catalog.get? second = some other → tool.name = other.name →
      first = second

/-- The keys of the approvals presented in these calls. -/
def presentedKeys (Store : Type) {Key : Type} [ApprovalStoreProtocol Store]
    [KeyedApprovalStore Store Key] (events : List AuthorizeEvent) :
    Set Key :=
  {key | ∃ event ∈ events,
    presentedKeyOf Store event.call.request = some key}

/-- The call names this tool. -/
def AuthorizeEvent.names (toolName : PyStr) (event : AuthorizeEvent) : Bool :=
  event.call.request.toolName = toolName

/-- The same call at the same time, whoever's token it carries. -/
structure SameCall (event twin : AuthorizeEvent) : Prop where
  request : ∃ callerToken,
    twin.call.request = { event.call.request with callerToken }
  currentPlanHash : twin.call.currentPlanHash = event.call.currentPlanHash
  now : twin.call.now.getD twin.call.ambient.clock =
    event.call.now.getD event.call.ambient.clock
  fresh : twin.FreshCredential

/-- Both calls returned the same verdict and reason, or raised the same. -/
def SameDecision (event twin : AuthorizeEvent) : Prop :=
  decisionOf event.outcome = decisionOf twin.outcome

/-- One call of the tool in two runs that look alike to it. -/
theorem AuthorizeStep.consistent {event twin : AuthorizeEvent}
    {gateway final other otherFinal : Gateway Store}
    (named : ∀ tool,
      gateway.catalog.get? event.call.request.toolName = some tool →
        name = some tool.name)
    (within : ∀ held, presentedKeyOf Store event.call.request = some held →
      held ∈ keys)
    (fresh : event.FreshCredential) (same : SameCall event twin)
    (alike : toolView name keys gateway = toolView name keys other)
    (step : AuthorizeStep gateway event final)
    (otherStep : AuthorizeStep other twin otherFinal) :
    SameDecision event twin ∧
      toolView name keys final = toolView name keys otherFinal := by
  obtain ⟨callerToken, request⟩ := same.request
  have otherFresh := same.fresh
  rw [AuthorizeEvent.FreshCredential, request] at otherFresh
  rw [AuthorizeStep] at step
  rw [AuthorizeStep, request, same.currentPlanHash] at otherStep
  have decided := @decisionOf_alike _ _ _ event.call.request
    event.call.currentPlanHash name _ _ keys gateway other _ _ _ _ _ named
    within same.now.symm fresh otherFresh alike
  rw [step, otherStep] at decided
  exact decided

/--
A call for a tool is decided as in the run of that tool's calls alone,
whatever tokens the callers present.
-/
theorem tools_do_not_interfere {initial final otherFinal : Gateway Store}
    {events twins : List AuthorizeEvent} (toolName : PyStr)
    (distinct : DistinctNames initial.catalog)
    (run : Run AuthorizeStep initial events final)
    (alone : Run AuthorizeStep initial twins otherFinal)
    (twinned :
      List.Forall₂ SameCall (events.filter (·.names toolName)) twins)
    (fresh : ∀ event ∈ events, event.FreshCredential)
    (apart : Disjoint
      (presentedKeys Store (events.filter (·.names toolName)))
      (presentedKeys Store (events.filter (!·.names toolName)))) :
    List.Forall₂ SameDecision (events.filter (·.names toolName)) twins := by
  let name := (initial.catalog.get? toolName).map (·.name)
  let keys := presentedKeys Store (events.filter (·.names toolName))
  have member (event) (isEvent : event ∈ events) :
      event.FreshCredential ∧
        ∀ held, presentedKeyOf Store event.call.request = some held →
          (held ∈ keys ↔ event.names toolName = true) := by
    refine ⟨fresh event isEvent, fun held presented => ?_⟩
    constructor
    · intro isKey
      by_contra other
      refine Set.disjoint_left.mp apart isKey ⟨event, ?_, presented⟩
      exact List.mem_filter.mpr ⟨isEvent, by simpa using other⟩
    · intro names
      exact ⟨event, List.mem_filter.mpr ⟨isEvent, names⟩, presented⟩
  refine run.unwinding (toolView name keys) (·.names toolName)
    (fun gateway => gateway.catalog = initial.catalog) _ SameCall
    SameDecision ?_ ?_ ?_ alone rfl rfl member twinned
  · intro source event target sameCatalog step
    exact step.catalog_eq.trans sameCatalog
  · intro source event target sameCatalog admitted other step
    rw [AuthorizeStep] at step
    have kept := @keeps_toolView _ Store _ event.call.request
      event.call.currentPlanHash name _ _ keys source event.call.ambient
      event.call.now
    rw [step] at kept
    apply kept
    · intro tool found named
      obtain ⟨known, isKnown, sameName⟩ := Option.map_eq_some_iff.mp named
      rw [sameCatalog] at found
      have isTool := distinct _ _ _ _ isKnown found sameName
      simp [AuthorizeEvent.names, isTool] at other
    · intro held presented isKey
      rw [(admitted.2 held presented).mp isKey] at other
      cases other
  · intro source target event otherSource otherTarget twin sameCatalog
      admitted names same alike step otherStep
    refine step.consistent ?_ ?_ admitted.1 same alike otherStep
    · intro tool found
      have isTool : event.call.request.toolName = toolName :=
        of_decide_eq_true names
      rw [sameCatalog, isTool] at found
      simp only [name, found, Option.map_some]
    · intro held presented
      exact (admitted.2 held presented).mpr names

end Keyed

end Stages

section Example

attribute [local instance] Reference.runtime

/-- The call granted by `containment_granted`, with another token. -/
def Scenario.otherTokenCall (planHash signatureRef : PyStr) : AuthorizeCall :=
  let call := (Scenario.grantedEvent planHash signatureRef).call
  { call with request := { call.request with callerToken := "other-token" } }

/-- The monitoring call of the incident, without an approval. -/
def Scenario.unapprovedCall : AuthorizeCall where
  request := Scenario.request increaseMonitoringTool "soc-analyst" none
  currentPlanHash := none
  now := some Scenario.noon
  ambient := Scenario.ambient

/-- A containment granted before a monitoring call is granted alone as well,
to the holder of another token. -/
theorem tools_do_not_interfere_with_containment :
    ∃ (event : AuthorizeEvent) (final : Gateway ApprovalStore),
      AuthorizeStep (Scenario.gateway ApprovalStore.fresh) event final ∧
        event.call.request.callerToken = "other-token" ∧
        decisionOf event.outcome = .ok (true, .authorised) := by
  obtain ⟨planHash, signatureRef, bound, signed⟩ :=
    Scenario.exists_signed_plan isolateKubernetesWorkloadTool
      (surrogateFree_ofString "apr:1")
  obtain ⟨contained, granted⟩ : ∃ contained,
      AuthorizeStep (Scenario.gateway ApprovalStore.fresh)
        (Scenario.grantedEvent planHash signatureRef) contained :=
    ⟨_, Scenario.containment_granted (.inl rfl) bound signed (by decide)
      (Finset.notMem_empty _)⟩
  obtain ⟨monitored, final, monitoring⟩ :=
    Scenario.unapprovedCall.exists_step contained
  obtain ⟨outcome, otherFinal, alone⟩ :=
    (Scenario.otherTokenCall planHash signatureRef).exists_step
      (Scenario.gateway ApprovalStore.fresh)
  have distinct : DistinctNames shippedCatalog := by
    intro first second tool other found otherFound same
    rw [shippedCatalog_get?_name found, shippedCatalog_get?_name otherFound,
      same]
  have unrelated : mintEphemeralCredential Scenario.ambient ≠
      ("other-token" : PyStr) := by
    decide
  have sameCall : SameCall (Scenario.grantedEvent planHash signatureRef)
      ⟨Scenario.otherTokenCall planHash signatureRef, outcome⟩ :=
    { request := ⟨"other-token", rfl⟩
      currentPlanHash := rfl
      now := rfl
      fresh := unrelated }
  have decided := tools_do_not_interfere isolateKubernetesWorkloadTool.name
    distinct (.next granted (.next monitoring (.done _)))
    (.next alone (.done _)) (.cons sameCall .nil) ?_ ?_
  · rcases decided with _ | ⟨same, -⟩
    exact ⟨_, otherFinal, alone, rfl, same.symm⟩
  · intro event member
    simp only [List.mem_cons, List.not_mem_nil, or_false] at member
    rcases member with rfl | rfl
    · exact Scenario.credential_ne_callerToken
    · exact Scenario.credential_ne_callerToken
  · rw [Set.disjoint_right]
    rintro key ⟨event, member, presented⟩
    have others : List.filter
        (!AuthorizeEvent.names isolateKubernetesWorkloadTool.name ·)
        [Scenario.grantedEvent planHash signatureRef,
          ⟨Scenario.unapprovedCall, monitored⟩] =
        [⟨Scenario.unapprovedCall, monitored⟩] := rfl
    rw [others, List.mem_singleton] at member
    subst member
    cases presented

end Example

end ArgosCyberTools.McpGateway
