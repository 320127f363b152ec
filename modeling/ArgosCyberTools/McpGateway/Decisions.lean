import ArgosCyberTools.McpGateway.Authorize

/-!
# What a decision of the gateway says

One inversion lemma for `authorize`: a result with `allowed=True` went
through every stage, and its final state is the one the rate limiter and the
store were left in.  The frame lemmas say what the other outcomes leave
alone.
-/

namespace ArgosCyberTools.McpGateway

open Python ToolCatalog Policies

/-! ## Early exits never grant -/

/-- An early exit that would be a grant. -/
def GrantsEarly : AuthorizeExit → Prop
  | .returned result => result.allowed = true
  | .raised _ => False

@[simp]
theorem not_grantsEarly_deny (reason : Reason) :
    ¬ GrantsEarly (deny reason) := by
  simp [GrantsEarly, deny, AuthorizationResult.denied]

@[simp]
theorem not_grantsEarly_raised (error : AuthorizeError) :
    ¬ GrantsEarly (.raised error) := by
  simp [GrantsEarly]

theorem mintStage_eq_ok_iff {request : ToolCallRequest}
    {ambient : Ambient} {result : AuthorizationResult} :
    mintStage request ambient = .ok result ↔
      mintEphemeralCredential ambient ≠ request.callerToken ∧
        result =
          ⟨true, .authorised, some (mintEphemeralCredential ambient)⟩ := by
  simp only [mintStage, bind_eq_ok_iff, raiseIf_eq_ok_iff,
    pure_eq_ok_iff, decide_eq_false_iff_not]
  constructor
  · rintro ⟨-, different, rfl⟩
    exact ⟨different, rfl⟩
  · rintro ⟨different, rfl⟩
    exact ⟨(), different, rfl⟩

theorem mintStage_avoids_grant (request : ToolCallRequest)
    (ambient : Ambient) :
    Avoids GrantsEarly (mintStage request ambient) := by
  simp only [mintStage, avoids_bind, avoids_raiseIf, avoids_pure,
    not_grantsEarly_raised, not_false_eq_true, implies_true, and_self]

section Stages

variable [PyRuntime]

theorem safetyStage_avoids_grant (tool : ToolDefinition)
    (request : ToolCallRequest) (now : PyDateTime) :
    Avoids GrantsEarly (safetyStage tool request now) := by
  unfold safetyStage
  split_ifs
  · split <;> simp
  · simp

theorem approvalStage_avoids_grant (tool : ToolDefinition)
    (request : ToolCallRequest) (currentPlanHash : Option PyStr) :
    Avoids GrantsEarly (approvalStage tool request currentPlanHash) := by
  unfold approvalStage
  split_ifs
  · simp only [avoids_bind, avoids_orExit, avoids_raiseIf,
      avoids_mapError, avoids_pure, not_grantsEarly_deny,
      not_grantsEarly_raised, not_false_eq_true, implies_true, and_true,
      true_and]
    intro _ _ _ _
    cases expectedPlanHash tool request <;> simp
  · simp

theorem documentStages_avoids_grant (allowlists : Allowlists)
    (tool : ToolDefinition) (request : ToolCallRequest)
    (currentPlanHash : Option PyStr) (now : PyDateTime) :
    Avoids GrantsEarly
      (documentStages allowlists tool request currentPlanHash now) := by
  simp only [documentStages, requestStage, avoids_bind, avoids_raiseIf,
    not_grantsEarly_deny, not_false_eq_true, implies_true, and_true,
    true_and]
  exact fun _ _ => ⟨safetyStage_avoids_grant _ _ _, fun _ _ =>
    approvalStage_avoids_grant _ _ _⟩

omit [PyRuntime] in
theorem rateLimitStage_avoids_grant (tool : ToolDefinition)
    (now : PyDateTime) (limiter : RateLimiter) :
    Avoids GrantsEarly (rateLimitStage tool now limiter).1 := by
  simp only [rateLimitStage, PyM.avoids_bind_apply, PyM.mapError_fst,
    avoids_mapError, PyM.ofExcept_apply, avoids_raiseIf,
    not_grantsEarly_deny, not_grantsEarly_raised]
  cases (RateLimiter.checkAndRecord tool.name
    tool.rateLimit.callsPerMinute now limiter).1 <;> simp

theorem checks_avoids_grant (catalog : Catalog) (allowlists : Allowlists)
    (request : ToolCallRequest) (currentPlanHash : Option PyStr)
    (now : PyDateTime) (limiter : RateLimiter) :
    Avoids GrantsEarly
      (checks catalog allowlists request currentPlanHash now limiter).1 := by
  simp only [checks, lookupTool, sideEffectStage, PyM.avoids_bind_apply,
    PyM.ofExcept_apply, avoids_orExit, avoids_raiseIf,
    not_grantsEarly_deny, not_grantsEarly_raised, not_false_eq_true,
    implies_true, true_and]
  exact fun _ _ _ _ _ _ => ⟨rateLimitStage_avoids_grant _ _ _,
    fun _ _ _ => documentStages_avoids_grant _ _ _ _ _⟩

theorem storeStage_avoids_grant {Store : Type}
    [ApprovalStoreProtocol Store] (demand : Option Demand)
    (request : ToolCallRequest) (now : PyDateTime) (store : Store) :
    Avoids GrantsEarly (storeStage demand request now store).1 := by
  cases demand with
  | none => simp [storeStage]
  | some demand =>
      simp only [storeStage, PyM.mapError_fst, avoids_mapError]
      rcases (ApprovalStoreProtocol.validateAndConsume _ _ _ _ _ store).1
        with (_ | _) | _ <;> simp [storeExit]

end Stages

/-! ## Grants -/

section Grants

variable [PyRuntime] {Store : Type} [ApprovalStoreProtocol Store]

/-- A call that went through every stage. -/
structure Granted (gateway : Gateway Store) (request : ToolCallRequest)
    (currentPlanHash : Option PyStr) (now : PyDateTime)
    (tool : ToolDefinition) (demand : Option Demand)
    (final : Gateway Store) : Prop where
  found : gateway.catalog.get? request.toolName = some tool
  inScope : tool.sideEffectClass ∉ deniedInP0
  counted :
    rateLimitStage tool now gateway.rateLimiter =
      (.ok (), final.rateLimiter)
  documents :
    documentStages gateway.targetAllowlists tool request currentPlanHash
      now = .ok demand
  consumed :
    storeStage demand request now gateway.approvalStore =
      (.ok (), final.approvalStore)
  sameCatalog : final.catalog = gateway.catalog
  sameAllowlists : final.targetAllowlists = gateway.targetAllowlists

theorem checks_eq_ok_iff {catalog : Catalog} {allowlists : Allowlists}
    {request : ToolCallRequest} {currentPlanHash : Option PyStr}
    {now : PyDateTime} {limiter final : RateLimiter}
    {demand : Option Demand} :
    checks catalog allowlists request currentPlanHash now limiter =
        (.ok demand, final) ↔
      ∃ tool, catalog.get? request.toolName = some tool ∧
        tool.sideEffectClass ∉ deniedInP0 ∧
        rateLimitStage tool now limiter = (.ok (), final) ∧
        documentStages allowlists tool request currentPlanHash now =
          .ok demand := by
  simp only [checks, lookupTool, sideEffectStage,
    PyM.bind_apply_eq_ok_iff, PyM.ofExcept_apply, Prod.mk.injEq,
    orExit_eq_ok_iff, raiseIf_eq_ok_iff, decide_eq_false_iff_not]
  constructor
  · rintro ⟨tool, _, ⟨found, rfl⟩, _, _, ⟨inScope, rfl⟩, _, _, counted,
      documents, rfl⟩
    exact ⟨tool, found, inScope, counted, documents⟩
  · rintro ⟨tool, found, inScope, counted, documents⟩
    exact ⟨tool, limiter, ⟨found, rfl⟩, (), limiter, ⟨inScope, rfl⟩, (),
      final, counted, documents, rfl⟩

variable {gateway final : Gateway Store} {request : ToolCallRequest}
  {currentPlanHash : Option PyStr} {now : Option PyDateTime}
  {ambient : Ambient} {result : AuthorizationResult}

theorem authorizeBody_eq_ok_iff :
    Gateway.authorizeBody request currentPlanHash now ambient gateway =
        (.ok result, final) ↔
      (∃ tool demand,
        Granted gateway request currentPlanHash (now.getD ambient.clock)
          tool demand final) ∧
      mintStage request ambient = .ok result := by
  simp only [Gateway.authorizeBody, PyM.bind_apply_eq_ok_iff,
    PyM.get_apply, PyM.ofExcept_apply, PyM.onField_eq_iff,
    Prod.mk.injEq, Except.ok.injEq, checks_eq_ok_iff]
  constructor
  · rintro ⟨_, _, ⟨rfl, rfl⟩, demand, _, ⟨limiter, ⟨tool, found, inScope,
      counted, documents⟩, rfl⟩, _, _, ⟨store, consumed, rfl⟩, minted, rfl⟩
    exact ⟨⟨tool, demand,
      { found, inScope, counted, documents, consumed
        sameCatalog := rfl
        sameAllowlists := rfl }⟩, minted⟩
  · rintro ⟨⟨tool, demand, granted⟩, minted⟩
    refine ⟨gateway, gateway, ⟨rfl, rfl⟩, demand, _,
      ⟨final.rateLimiter, ⟨tool, granted.found, granted.inScope,
        granted.counted, granted.documents⟩, rfl⟩, (), _,
      ⟨final.approvalStore, granted.consumed, rfl⟩, minted, ?_⟩
    cases final
    obtain ⟨rfl, rfl⟩ :=
      And.intro granted.sameCatalog granted.sameAllowlists
    rfl

theorem authorizeBody_avoids_grant :
    Avoids GrantsEarly
      (Gateway.authorizeBody request currentPlanHash now ambient
        gateway).1 := by
  simp only [Gateway.authorizeBody, PyM.avoids_bind_apply, PyM.get_apply,
    PyM.onField_apply, PyM.ofExcept_apply]
  refine ⟨trivial, fun _ _ _ => ⟨checks_avoids_grant _ _ _ _ _ _,
    fun _ _ _ => ⟨storeStage_avoids_grant _ _ _ _,
      fun _ _ _ => mintStage_avoids_grant _ _⟩⟩⟩

/-- The three places where a call stops early. -/
theorem authorizeBody_of_error {exit : AuthorizeExit}
    (stopped :
      Gateway.authorizeBody request currentPlanHash now ambient gateway =
        (.error exit, final)) :
    final.approvalStore = gateway.approvalStore ∨
      (∃ demand,
        storeStage demand request (now.getD ambient.clock)
          gateway.approvalStore = (.error exit, final.approvalStore)) ∨
      (∃ tool demand,
        Granted gateway request currentPlanHash (now.getD ambient.clock)
          tool demand final) ∧
        mintStage request ambient = .error exit := by
  simp only [Gateway.authorizeBody, PyM.bind_apply_eq_error_iff,
    PyM.get_apply, PyM.ofExcept_apply, PyM.onField_eq_iff,
    Prod.mk.injEq, Except.ok.injEq, checks_eq_ok_iff, reduceCtorEq,
    false_and, false_or] at stopped
  obtain ⟨_, _, ⟨rfl, rfl⟩, ⟨limiter, -, rfl⟩ | ⟨demand, _, ⟨limiter,
    ⟨tool, found, inScope, counted, documents⟩, rfl⟩, ⟨store, refused,
      rfl⟩ | ⟨_, _, ⟨store, consumed, rfl⟩, minted, rfl⟩⟩⟩ := stopped
  · exact .inl rfl
  · exact .inr (.inl ⟨demand, refused⟩)
  · exact .inr (.inr ⟨⟨tool, demand,
      { found, inScope, counted, documents, consumed
        sameCatalog := rfl
        sameAllowlists := rfl }⟩, minted⟩)

/-- `authorize` grants exactly when every stage passed. -/
theorem authorize_allowed_iff :
    Gateway.authorize request currentPlanHash now ambient gateway =
          (.ok result, final) ∧ result.allowed = true ↔
      (∃ tool demand,
        Granted gateway request currentPlanHash (now.getD ambient.clock)
          tool demand final) ∧
      mintStage request ambient = .ok result := by
  rw [← authorizeBody_eq_ok_iff, Gateway.authorize,
    PyM.finish_apply_eq_ok_iff]
  constructor
  · rintro ⟨body | early, allowed⟩
    · exact body
    · have avoided : Avoids GrantsEarly
          (Gateway.authorizeBody request currentPlanHash now ambient
            gateway).1 := authorizeBody_avoids_grant
      rw [early] at avoided
      exact (avoided allowed).elim
  · intro body
    refine ⟨.inl body, ?_⟩
    obtain ⟨-, minted⟩ := authorizeBody_eq_ok_iff.mp body
    rw [(mintStage_eq_ok_iff.mp minted).2]

/--
A call that does not grant left the store alone, or as a refusing store
call left it, unless the minted credential was the caller's token.
-/
theorem authorize_not_allowed
    {outcome : Except AuthorizeError AuthorizationResult}
    (call :
      Gateway.authorize request currentPlanHash now ambient gateway =
        (outcome, final))
    (denied : ∀ result, outcome = .ok result → result.allowed = false)
    (distinct : mintEphemeralCredential ambient ≠ request.callerToken) :
    final.approvalStore = gateway.approvalStore ∨
      ∃ demand exit,
        storeStage demand request (now.getD ambient.clock)
          gateway.approvalStore = (.error exit, final.approvalStore) := by
  have mints := mintStage_eq_ok_iff.mpr ⟨distinct, rfl⟩
  rcases ran : Gateway.authorizeBody request currentPlanHash now ambient
    gateway with ⟨exit | granted, reached⟩
  · rw [Gateway.authorize, PyM.finish_apply, ran, Prod.mk.injEq] at call
    obtain ⟨-, rfl⟩ := call
    rcases authorizeBody_of_error ran with same | ⟨demand, refused⟩ |
      ⟨-, minted⟩
    · exact .inl same
    · exact .inr ⟨demand, exit, refused⟩
    · rw [mints] at minted
      cases minted
  · obtain ⟨⟨tool, demand, through⟩, minted⟩ :=
      authorizeBody_eq_ok_iff.mp ran
    obtain ⟨allowedCall, allowed⟩ :=
      authorize_allowed_iff.mpr ⟨⟨tool, demand, through⟩, minted⟩
    rw [call, Prod.mk.injEq] at allowedCall
    rw [denied granted allowedCall.1] at allowed
    cases allowed

/-- No call changes the catalog or the allowlists. -/
theorem authorize_keeps_configuration :
    PyM.Keeps
      (fun gateway : Gateway Store =>
        (gateway.catalog, gateway.targetAllowlists))
      (Gateway.authorize request currentPlanHash now ambient) := by
  refine PyM.keeps_finish (PyM.keeps_bind PyM.keeps_get fun gateway =>
    PyM.keeps_bind (PyM.keeps_onField ?_) fun demand =>
      PyM.keeps_bind (PyM.keeps_onField ?_) fun _ =>
        PyM.keeps_ofExcept _)
  · exact fun _ _ => rfl
  · exact fun _ _ => rfl

end Grants

/-! ## The stages in front of the store -/

section Documents

theorem rateLimitStage_eq_ok_iff {tool : ToolDefinition} {now : PyDateTime}
    {limiter final : RateLimiter} :
    rateLimitStage tool now limiter = (.ok (), final) ↔
      RateLimiter.checkAndRecord tool.name tool.rateLimit.callsPerMinute now
        limiter = (.ok true, final) := by
  simp only [rateLimitStage, PyM.bind_apply_eq_ok_iff,
    PyM.mapError_apply_eq_ok_iff, PyM.ofExcept_apply, Prod.mk.injEq,
    raiseIf_eq_ok_iff, Bool.not_eq_false']
  constructor
  · rintro ⟨_, _, admitted, rfl, rfl⟩
    exact admitted
  · intro admitted
    exact ⟨true, final, admitted, rfl, rfl⟩

theorem requestStage_eq_ok_iff {allowlists : Allowlists}
    {tool : ToolDefinition} {request : ToolCallRequest} :
    requestStage allowlists tool request = .ok () ↔
      request.action ∈ tool.mode ∧
        tool.requiredScope ∈ request.grantedScopes ∧
        (tool.targetAllowlistRequired = true →
          request.target ∈ allowlistOf allowlists tool) := by
  simp only [requestStage, bind_eq_ok_iff, raiseIf_eq_ok_iff,
    decide_eq_false_iff_not, not_not, Bool.and_eq_false_imp]
  constructor
  · rintro ⟨_, mode, _, scope, target⟩
    exact ⟨mode, scope, target⟩
  · rintro ⟨mode, scope, target⟩
    exact ⟨(), mode, (), scope, target⟩

variable [PyRuntime]

theorem safetyStage_eq_ok_iff {tool : ToolDefinition}
    {request : ToolCallRequest} {now : PyDateTime} :
    safetyStage tool request now = .ok () ↔
      (request.action = executeAction →
        ∃ envelope verification envelopeHash,
          ChainPasses request tool now envelope verification
            envelopeHash) := by
  rw [← checkSafetyChain_eq_none_iff]
  unfold safetyStage
  split_ifs with execute
  · simp only [execute, true_imp_iff]
    split <;> simp_all
  · simp [execute]

theorem approvalStage_eq_ok_iff {tool : ToolDefinition}
    {request : ToolCallRequest} {currentPlanHash : Option PyStr}
    {demand : Option Demand} :
    approvalStage tool request currentPlanHash = .ok demand ↔
      if request.action = executeAction ∧ tool.approvalRequired then
        ∃ approval planHash,
          request.approval = some approval ∧
            currentPlanHash = some planHash ∧
            expectedPlanHash tool request = .ok planHash ∧
            demand = some ⟨approval, planHash⟩
      else demand = none := by
  unfold approvalStage
  split_ifs
  · simp only [bind_eq_ok_iff, orExit_eq_ok_iff, mapError_eq_ok_iff,
      raiseIf_eq_ok_iff, pure_eq_ok_iff, decide_eq_false_iff_not, not_not]
    constructor
    · rintro ⟨approval, presented, planHash, given, _, expected, -, rfl,
        rfl⟩
      exact ⟨approval, planHash, presented, given, expected, rfl⟩
    · rintro ⟨approval, planHash, presented, given, expected, rfl⟩
      exact ⟨approval, presented, planHash, given, planHash, expected, (),
        rfl, rfl⟩
  · simp [eq_comm]

/-- The plan an approval must have been signed for. -/
def boundPlanHash (toolName target envelopeHash : PyStr) :
    Except BuiltinError PyStr :=
  computePlanHash toolName target executeAction
    (some [("safety_envelope_hash", .str envelopeHash)])

/-- Behind the safety chain, the envelope hash is the one it checked. -/
theorem expectedPlanHash_of_passes {request : ToolCallRequest}
    {tool : ToolDefinition} {now : PyDateTime}
    {envelope verification : JsonObject} {envelopeHash : PyStr}
    (execute : request.action = executeAction)
    (passes :
      ChainPasses request tool now envelope verification envelopeHash) :
    expectedPlanHash tool request =
      boundPlanHash tool.name request.target envelopeHash := by
  simp only [expectedPlanHash, envelopeHashOf, passes.presented,
    passes.hashGiven, orExit, bind, Except.bind, boundPlanHash, execute]

end Documents

/-! ## Granted executions under an approval -/

section Approved

variable [PyRuntime] {Store : Type} [ApprovalStoreProtocol Store]

/--
A granted `execute` on a tool that requires approval: the chain passed, the
plan hash is the one of this envelope, and the store accepted the approval.
-/
structure ApprovedExecution (gateway : Gateway Store)
    (request : ToolCallRequest) (now : PyDateTime) (tool : ToolDefinition)
    (approval : JsonObject) (planHash envelopeHash : PyStr)
    (final : Gateway Store) : Prop where
  presented : request.approval = some approval
  chain : ∃ envelope verification,
    ChainPasses request tool now envelope verification envelopeHash
  bound : boundPlanHash tool.name request.target envelopeHash = .ok planHash
  accepted :
    ApprovalStoreProtocol.validateAndConsume approval planHash
      request.subject executorId now gateway.approvalStore =
        (.ok (), final.approvalStore)

variable {gateway final : Gateway Store} {request : ToolCallRequest}
  {currentPlanHash : Option PyStr} {now : PyDateTime}
  {tool : ToolDefinition} {demand : Option Demand}

theorem Granted.requestChecks
    (granted :
      Granted gateway request currentPlanHash now tool demand final) :
    requestStage gateway.targetAllowlists tool request = .ok () := by
  have documents := granted.documents
  simp only [documentStages, bind_eq_ok_iff] at documents
  obtain ⟨_, requested, -⟩ := documents
  exact requested

theorem Granted.chain
    (granted :
      Granted gateway request currentPlanHash now tool demand final)
    (execute : request.action = executeAction) :
    ∃ envelope verification envelopeHash,
      ChainPasses request tool now envelope verification envelopeHash := by
  have documents := granted.documents
  simp only [documentStages, bind_eq_ok_iff] at documents
  obtain ⟨-, -, _, safe, -⟩ := documents
  exact safetyStage_eq_ok_iff.mp safe execute

/-- A granted execution was approved whenever its tool demands it. -/
theorem Granted.approvedExecution
    (granted :
      Granted gateway request currentPlanHash now tool demand final)
    (execute : request.action = executeAction)
    (required : tool.approvalRequired = true) :
    ∃ approval planHash envelopeHash,
      currentPlanHash = some planHash ∧
        demand = some ⟨approval, planHash⟩ ∧
        ApprovedExecution gateway request now tool approval planHash
          envelopeHash final := by
  obtain ⟨envelope, verification, envelopeHash, passes⟩ :=
    granted.chain execute
  have documents := granted.documents
  simp only [documentStages, bind_eq_ok_iff] at documents
  obtain ⟨-, -, -, -, staged⟩ := documents
  rw [approvalStage_eq_ok_iff, if_pos ⟨execute, required⟩] at staged
  obtain ⟨approval, planHash, presented, given, expected, rfl⟩ := staged
  rw [expectedPlanHash_of_passes execute passes] at expected
  refine ⟨approval, planHash, envelopeHash, given, rfl,
    { presented
      chain := ⟨envelope, verification, passes⟩
      bound := expected
      accepted := ?_ }⟩
  exact PyM.mapError_apply_eq_ok_iff.mp granted.consumed

/-- Without a demand for approval the store is not consulted. -/
theorem Granted.store_unchanged
    (granted :
      Granted gateway request currentPlanHash now tool demand final)
    (unneeded :
      ¬ (request.action = executeAction ∧ tool.approvalRequired = true)) :
    final.approvalStore = gateway.approvalStore := by
  have documents := granted.documents
  simp only [documentStages, bind_eq_ok_iff] at documents
  obtain ⟨-, -, -, -, staged⟩ := documents
  rw [approvalStage_eq_ok_iff, if_neg unneeded] at staged
  have consumed := granted.consumed
  subst staged
  simpa [storeStage, eq_comm] using consumed

end Approved

end ArgosCyberTools.McpGateway
