import ArgosCyberTools.Graph.AttackPath
import ArgosCyberTools.McpGateway.NonInterference
import ArgosCyberTools.Python.Quoting

/-!
# Which layer stopped an attempt

`validate_attack_path` recovers the stage of a denial by searching the reason
for three words.  Every reason of the safety chain and of the approval stage
holds one of them; a reason of an earlier stage holds one exactly when a
text it quotes does.
-/

namespace ArgosCyberTools.Graph

open Python Coding ToolCatalog Policies McpGateway

/-! ## Stages -/

/-- The stage of `authorize` that denies. -/
inductive DenialStage where
  | sideEffectClass
  | rateLimit
  | mode
  | scope
  | allowlist
  | safetyChain
  | approval
deriving DecidableEq

def stageOf : Reason → Option DenialStage
  | .sideEffectClass _ => some .sideEffectClass
  | .rateLimit _ _ => some .rateLimit
  | .actionNotSupported _ _ _ => some .mode
  | .scopeNotGranted _ => some .scope
  | .targetNotAllowed _ _ => some .allowlist
  | .safetyChain _ => some .safetyChain
  | .approvalMissing => some .approval
  | .planHashMissing => some .approval
  | .planHashNotBound => some .approval
  | .approvalRejected _ => some .approval
  | .authorised => none

/-- The stages whose denial shows that the attempt is contained. -/
def barrierStages : List DenialStage := [.safetyChain, .approval]

/-- The stages in front of them. -/
def scopeStages : List DenialStage :=
  [.sideEffectClass, .rateLimit, .mode, .scope, .allowlist]

theorem not_mem_scopeStages : ∀ stage ∈ barrierStages, stage ∉ scopeStages := by
  decide

/-- The gateway denied, at one of these stages. -/
def DeniedAt (stages : List DenialStage)
    (outcome : Except AuthorizeError AuthorizationResult) : Prop :=
  ∃ result stage, outcome = .ok result ∧ result.allowed = false ∧
    stageOf result.reason = some stage ∧ stage ∈ stages

/-- The gateway returned a result, or did not know the tool. -/
def Answers (outcome : Except AuthorizeError AuthorizationResult) : Prop :=
  (∃ result, outcome = .ok result) ∨
    ∃ name, outcome = .error (.toolNotFound name)

/-- The decision says which layer answered. -/
structure ReflectsStage (outcome : Except AuthorizeError AuthorizationResult)
    (decision : AttackPathDecision) : Prop where
  gateBypassed : decision = .gateBypassed ↔
    ∃ result, outcome = .ok result ∧ result.allowed = true
  validated : decision = .validated ↔ DeniedAt barrierStages outcome
  outOfScope : decision = .outOfScope ↔
    (∃ name, outcome = .error (.toolNotFound name)) ∨
      DeniedAt scopeStages outcome

/-! ## Markers -/

/-- One of the three words occurs in the text. -/
def CarriesMarker (text : PyStr) : Prop :=
  ∃ marker ∈ barrierMarkers, marker <:+: text

instance (text : PyStr) : Decidable (CarriesMarker text) :=
  decidable_of_iff (barrierMarkers.any (text.contains ·) = true) (by
    simp [CarriesMarker, PyStr.contains])

theorem any_contains_eq_decide (text : PyStr) :
    barrierMarkers.any (text.contains ·) = decide (CarriesMarker text) := by
  rw [Bool.eq_iff_iff, decide_eq_true_iff]
  simp [CarriesMarker, PyStr.contains]

theorem isCapitalised_of_marker :
    ∀ marker ∈ barrierMarkers, IsCapitalised marker := by
  decide

theorem CarriesMarker.append_right {text : PyStr} (carries : CarriesMarker text)
    (rest : PyStr) : CarriesMarker (text ++ rest) := by
  obtain ⟨marker, isMarker, occurs⟩ := carries
  exact ⟨marker, isMarker, occurs.trans (List.infix_append' [] text rest)⟩

theorem CarriesMarker.append_left {text : PyStr} (carries : CarriesMarker text)
    (front : PyStr) : CarriesMarker (front ++ text) := by
  obtain ⟨marker, isMarker, occurs⟩ := carries
  exact ⟨marker, isMarker, occurs.trans (List.suffix_append front text).isInfix⟩

/-- No marker runs across a character that is not a letter. -/
theorem carriesMarker_append_cons {front back : PyStr} {stop : CodePoint}
    (foreign : ¬ stop.IsLetter) :
    CarriesMarker (front ++ stop :: back) ↔
      CarriesMarker front ∨ CarriesMarker back := by
  simp only [CarriesMarker, ← exists_or, ← and_or_left]
  refine exists_congr fun marker => and_congr_right fun isMarker => ?_
  exact infix_append_cons_iff
    ((isCapitalised_of_marker marker isMarker).not_mem foreign)

theorem not_carriesMarker_nil : ¬ CarriesMarker [] := by
  decide

section Texts

variable [PyRuntime]

theorem carriesMarker_reprTextTuple (items : List PyStr) :
    CarriesMarker (reprTextTuple items) ↔ ∃ item ∈ items, CarriesMarker item := by
  constructor
  · rintro ⟨marker, isMarker, occurs⟩
    obtain ⟨item, member, inside⟩ := (infix_reprTextTuple_iff
      (isCapitalised_of_marker marker isMarker) items).mp occurs
    exact ⟨item, member, marker, isMarker, inside⟩
  · rintro ⟨item, member, marker, isMarker, inside⟩
    exact ⟨marker, isMarker, (infix_reprTextTuple_iff
      (isCapitalised_of_marker marker isMarker) items).mpr
        ⟨item, member, inside⟩⟩

omit [PyRuntime] in
/-- A text between two quotation marks. -/
theorem carriesMarker_quoted {front text back : PyStr}
    (plain : ¬ CarriesMarker front) :
    CarriesMarker (front ++ 0x27 :: (text ++ 0x27 :: back)) ↔
      CarriesMarker text ∨ CarriesMarker back := by
  rw [carriesMarker_append_cons (by decide),
    carriesMarker_append_cons (by decide)]
  simp [plain]

theorem carriesMarker_rateLimit (tool : PyStr) (callsPerMinute : Int) :
    CarriesMarker (Reason.rateLimit tool callsPerMinute).text ↔
      CarriesMarker tool := by
  have plain : ¬ CarriesMarker (PyStr.ofInt callsPerMinute) := by
    rintro ⟨marker, isMarker, occurs⟩
    obtain ⟨head, rest, rfl, letter, -⟩ :=
      (isCapitalised_of_marker marker isMarker).exists_cons
    have early := PyStr.ofInt_symbols callsPerMinute head
      (occurs.subset List.mem_cons_self)
    rcases letter with upper | lower <;> omega
  have shape : (Reason.rateLimit tool callsPerMinute).text =
      ("rate_limit excedido para " : PyStr) ++ 0x27 :: (tool ++ 0x27 ::
        ((" " : PyStr) ++ 0x28 :: (PyStr.ofInt callsPerMinute ++ 0x2F ::
          ("min)" : PyStr)))) := by
    have front : ("rate_limit excedido para '" : PyStr) =
        ("rate_limit excedido para " : PyStr) ++ [0x27] := rfl
    have middle : ("' (" : PyStr) = 0x27 :: ((" " : PyStr) ++ [0x28]) := rfl
    have back : ("/min)" : PyStr) = 0x2F :: ("min)" : PyStr) := rfl
    simp only [Reason.text, front, middle, back, List.append_assoc,
      List.cons_append, List.nil_append]
  rw [shape, carriesMarker_quoted (by decide),
    carriesMarker_append_cons (by decide),
    carriesMarker_append_cons (by decide)]
  have opening : ¬ CarriesMarker (" " : PyStr) := by decide
  have closing : ¬ CarriesMarker ("min)" : PyStr) := by decide
  simp only [plain, opening, closing, or_false]

theorem carriesMarker_actionNotSupported (action tool : PyStr)
    (mode : List PyStr) :
    CarriesMarker (Reason.actionNotSupported action tool mode).text ↔
      CarriesMarker action ∨ ∃ name ∈ tool :: mode, CarriesMarker name := by
  have shape : (Reason.actionNotSupported action tool mode).text =
      ("acción " : PyStr) ++ 0x27 :: (action ++ 0x27 ::
        ((" no soportada por " : PyStr) ++ 0x27 :: (tool ++ 0x27 ::
          ((" (mode" : PyStr) ++ 0x3D :: (reprTextTuple mode ++
            0x29 :: []))))) := by
    have front : ("acción '" : PyStr) = ("acción " : PyStr) ++ [0x27] := rfl
    have middle : ("' no soportada por '" : PyStr) =
        0x27 :: ((" no soportada por " : PyStr) ++ [0x27]) := rfl
    have modes : ("' (mode=" : PyStr) = 0x27 :: ((" (mode" : PyStr) ++ [0x3D]) :=
      rfl
    have back : (")" : PyStr) = [0x29] := rfl
    simp only [Reason.text, front, middle, modes, back, List.append_assoc,
      List.cons_append, List.nil_append]
  rw [shape, carriesMarker_quoted (by decide),
    carriesMarker_quoted (by decide), carriesMarker_append_cons (by decide),
    carriesMarker_append_cons (by decide), carriesMarker_reprTextTuple]
  have opening : ¬ CarriesMarker (" (mode" : PyStr) := by decide
  simp [opening, not_carriesMarker_nil]

theorem carriesMarker_scopeNotGranted (scope : PyStr) :
    CarriesMarker (Reason.scopeNotGranted scope).text ↔
      CarriesMarker scope := by
  have shape : (Reason.scopeNotGranted scope).text =
      ("scope " : PyStr) ++ 0x27 :: (scope ++ 0x27 ::
        (" no concedido al llamante" : PyStr)) := by
    simp only [Reason.text, List.append_assoc]
    rfl
  rw [shape, carriesMarker_quoted (by decide)]
  have closing : ¬ CarriesMarker (" no concedido al llamante" : PyStr) := by
    decide
  simp only [closing, or_false]

theorem carriesMarker_targetNotAllowed (target tool : PyStr) :
    CarriesMarker (Reason.targetNotAllowed target tool).text ↔
      CarriesMarker target ∨ CarriesMarker tool := by
  have shape : (Reason.targetNotAllowed target tool).text =
      ("target " : PyStr) ++ 0x27 :: (target ++ 0x27 ::
        ((" fuera de la allowlist de " : PyStr) ++ 0x27 :: (tool ++ 0x27 ::
          []))) := by
    simp only [Reason.text, List.append_assoc]
    rfl
  rw [shape, carriesMarker_quoted (by decide),
    carriesMarker_quoted (by decide)]
  simp only [not_carriesMarker_nil, or_false]

theorem not_carriesMarker_sideEffectClass {class_ : PyStr}
    (denied : class_ ∈ deniedInP0) :
    ¬ CarriesMarker (Reason.sideEffectClass class_).text := by
  have shape : (Reason.sideEffectClass class_).text =
      ("side_effect_class " : PyStr) ++ 0x27 :: (class_ ++ 0x27 ::
        (" fuera de alcance del P0 (ADR-053, DENY incondicional)" :
          PyStr)) := by
    simp only [Reason.text, List.append_assoc]
    rfl
  have closing : ¬ CarriesMarker
      (" fuera de alcance del P0 (ADR-053, DENY incondicional)" : PyStr) := by
    decide
  have plain : ∀ class_ ∈ deniedInP0, ¬ CarriesMarker class_ := by decide
  rw [shape, carriesMarker_quoted (by decide)]
  simp only [plain class_ denied, closing, or_false, not_false_eq_true]

/-- Every reason of the safety chain holds a marker. -/
theorem carriesMarker_chainDenial (denial : ChainDenial) :
    CarriesMarker denial.text := by
  have opens (front rest : PyStr) (carries : CarriesMarker front) :
      CarriesMarker (front ++ rest) :=
    carries.append_right rest
  cases denial with
  | envelopeMissing =>
      show CarriesMarker (PyStr.ofString _)
      decide
  | envelopeHashInvalid =>
      show CarriesMarker (PyStr.ofString _)
      decide
  | validUntilMissing =>
      show CarriesMarker (PyStr.ofString _)
      decide
  | envelopeExpired validUntil now =>
      simp only [ChainDenial.text, List.append_assoc]
      apply opens
      decide
  | validUntilUnreadable validUntil =>
      apply opens
      decide
  | targetNotInSet target =>
      apply CarriesMarker.append_left
      decide
  | actionNotAllowed action =>
      apply CarriesMarker.append_left
      decide
  | runbookNotBound tool required expected =>
      simp only [ChainDenial.text, List.append_assoc]
      apply opens
      decide
  | verificationMissing =>
      show CarriesMarker (PyStr.ofString _)
      decide
  | notVerified state =>
      simp only [ChainDenial.text, List.append_assoc]
      apply opens
      decide
  | verificationHashDiffers =>
      apply opens
      decide +kernel
  | verificationNotBound =>
      apply opens
      decide +kernel

/-- So does every reason of the approval stage. -/
theorem carriesMarker_of_barrier {reason : Reason} {stage : DenialStage}
    (given : stageOf reason = some stage) (barrier : stage ∈ barrierStages) :
    CarriesMarker reason.text := by
  cases reason with
  | safetyChain denial => exact carriesMarker_chainDenial denial
  | approvalMissing =>
      show CarriesMarker (PyStr.ofString _)
      decide
  | planHashMissing =>
      show CarriesMarker (PyStr.ofString _)
      decide
  | planHashNotBound =>
      apply CarriesMarker.append_right
      apply CarriesMarker.append_left
      decide
  | approvalRejected why =>
      apply CarriesMarker.append_right
      decide
  | authorised => cases given
  | _ =>
      cases given
      exact absurd barrier (by decide)

end Texts

/-! ## What the gateway answers to an attempt -/

section Answer

variable [PyRuntime] {Store : Type} [ApprovalStoreProtocol Store]

/-- What follows the rate limit; no approval is presented. -/
def documentAnswer (allowlists : Allowlists) (tool : ToolDefinition)
    (request : ToolCallRequest) (ambient : Ambient) :
    Except AuthorizeError AuthorizationResult :=
  match documentStages allowlists tool request none ambient.clock with
  | .error exit => Exit.finish (.error exit)
  | .ok _ =>
      .ok ⟨true, .authorised, some (mintEphemeralCredential ambient)⟩

/-- The answer on a known tool, given what the limiter says. -/
def attackAnswer (allowlists : Allowlists) (tool : ToolDefinition)
    (request : ToolCallRequest) (ambient : Ambient)
    (admission : Except BuiltinError Bool) :
    Except AuthorizeError AuthorizationResult :=
  if tool.sideEffectClass ∈ deniedInP0 then
    .ok (.denied (.sideEffectClass tool.sideEffectClass))
  else
    match admission with
    | .error error => .error (.builtin error)
    | .ok false =>
        .ok (.denied (.rateLimit tool.name tool.rateLimit.callsPerMinute))
    | .ok true => documentAnswer allowlists tool request ambient

/-- What the limiter says about a call of a tool. -/
def admissionOf (limiter : RateLimiter) (tool : ToolDefinition)
    (now : PyDateTime) : Except BuiltinError Bool :=
  (RateLimiter.checkAndRecord tool.name tool.rateLimit.callsPerMinute now
    limiter).1

omit [PyRuntime] in
/-- The token of an attempt is not one the gateway mints. -/
theorem mintStage_attackRequest {request : ToolCallRequest}
    (token : request.callerToken = "attack-path-validation")
    (ambient : Ambient) :
    mintStage request ambient =
      .ok ⟨true, .authorised, some (mintEphemeralCredential ambient)⟩ := by
  refine mintStage_eq_ok_iff.mpr ⟨?_, rfl⟩
  intro same
  rw [token] at same
  cases same

/-- Without an approval nothing is left to consume. -/
theorem documentStages_of_unapproved {allowlists : Allowlists}
    {tool : ToolDefinition} {request : ToolCallRequest}
    (unapproved : request.approval = none) {now : PyDateTime}
    {demand : Option Demand}
    (passed : documentStages allowlists tool request none now = .ok demand) :
    demand = none := by
  simp only [documentStages, bind_eq_ok_iff] at passed
  obtain ⟨-, -, -, -, approval⟩ := passed
  unfold approvalStage at approval
  split_ifs at approval
  · rw [unapproved] at approval
    cases approval
  · cases approval
    rfl

variable {toolName target subjectId : PyStr} {grantedScopes : Finset PyStr}
  {safetyEnvelope verificationResult : Option JsonObject} {ambient : Ambient}
  {gateway : Gateway Store}

/-- An attempt on an unknown tool. -/
theorem authorize_of_missing {request : ToolCallRequest}
    (missing : gateway.catalog.get? request.toolName = none) :
    Gateway.authorize request none none ambient gateway =
      (.error (.toolNotFound request.toolName), gateway) := by
  rw [authorize_apply, checks_of_missing missing]
  rfl

/-- An attempt on a known tool touches the limiter only. -/
theorem authorize_of_found {request : ToolCallRequest}
    (unapproved : request.approval = none)
    (token : request.callerToken = "attack-path-validation")
    {tool : ToolDefinition}
    (found : gateway.catalog.get? request.toolName = some tool) :
    ∃ limiter,
      Gateway.authorize request none none ambient gateway =
        (attackAnswer gateway.targetAllowlists tool request ambient
            (admissionOf gateway.rateLimiter tool ambient.clock),
          { gateway with rateLimiter := limiter }) := by
  rw [authorize_apply, checks_of_found found, checksOf]
  simp only [PyM.bind_apply, PyM.ofExcept_apply, Option.getD_none]
  unfold attackAnswer sideEffectStage
  by_cases denied : tool.sideEffectClass ∈ deniedInP0
  · refine ⟨gateway.rateLimiter, ?_⟩
    simp only [denied, decide_true, raiseIf, ↓reduceIte]
    rfl
  · simp only [denied, decide_false, raiseIf, ↓reduceIte, Bool.false_eq_true,
      rateLimitStage, PyM.bind_apply, PyM.mapError, PyM.ofExcept_apply,
      admissionOf]
    rcases RateLimiter.checkAndRecord tool.name tool.rateLimit.callsPerMinute
      ambient.clock gateway.rateLimiter with ⟨error | admitted, limiter⟩
    · exact ⟨limiter, rfl⟩
    · refine ⟨limiter, ?_⟩
      cases admitted with
      | false => rfl
      | true =>
          simp only [Bool.not_true, Bool.false_eq_true, ↓reduceIte,
            documentAnswer]
          cases passed : documentStages gateway.targetAllowlists tool request
              none ambient.clock with
          | error exit => rfl
          | ok demand =>
              rw [documentStages_of_unapproved unapproved passed]
              simp only [storeStage, PyM.pure_apply,
                mintStage_attackRequest token, Exit.finish]

theorem documentAnswer_of_unsupported {allowlists : Allowlists}
    {tool : ToolDefinition} {request : ToolCallRequest}
    (unsupported : request.action ∉ tool.mode) :
    documentAnswer allowlists tool request ambient =
      .ok (.denied
        (.actionNotSupported request.action tool.name tool.mode)) := by
  simp [documentAnswer, documentStages, requestStage, raiseIf, unsupported,
    bind, Except.bind, deny, Exit.finish]

theorem documentAnswer_of_ungranted {allowlists : Allowlists}
    {tool : ToolDefinition} {request : ToolCallRequest}
    (supported : request.action ∈ tool.mode)
    (ungranted : tool.requiredScope ∉ request.grantedScopes) :
    documentAnswer allowlists tool request ambient =
      .ok (.denied (.scopeNotGranted tool.requiredScope)) := by
  simp [documentAnswer, documentStages, requestStage, raiseIf, supported,
    ungranted, bind, Except.bind, deny, Exit.finish]

theorem documentAnswer_of_unlisted {allowlists : Allowlists}
    {tool : ToolDefinition} {request : ToolCallRequest}
    (supported : request.action ∈ tool.mode)
    (inGrant : tool.requiredScope ∈ request.grantedScopes)
    (required : tool.targetAllowlistRequired = true)
    (unlisted : request.target ∉ allowlistOf allowlists tool) :
    documentAnswer allowlists tool request ambient =
      .ok (.denied (.targetNotAllowed request.target tool.name)) := by
  simp [documentAnswer, documentStages, requestStage, raiseIf, supported,
    inGrant, required, unlisted, bind, Except.bind, deny, Exit.finish]

/-- Behind the request checks the gateway raises, contains or grants. -/
theorem documentAnswer_of_inScope {allowlists : Allowlists}
    {tool : ToolDefinition} {request : ToolCallRequest}
    (execute : request.action = executeAction)
    (unapproved : request.approval = none)
    (inScope : requestStage allowlists tool request = .ok ()) :
    (∃ error,
      documentAnswer allowlists tool request ambient =
        .error (.builtin error)) ∨
    (∃ reason stage,
      documentAnswer allowlists tool request ambient = .ok (.denied reason) ∧
        stageOf reason = some stage ∧ stage ∈ barrierStages) ∨
    ∃ result,
      documentAnswer allowlists tool request ambient = .ok result ∧
        result.allowed = true := by
  simp only [documentAnswer, documentStages, inScope, bind, Except.bind,
    safetyStage, approvalStage, execute, unapproved, ↓reduceIte, true_and,
    orExit]
  cases checkSafetyChain request tool ambient.clock with
  | error error => exact .inl ⟨error, rfl⟩
  | ok denial =>
      cases denial with
      | some denial =>
          exact .inr (.inl ⟨_, .safetyChain, rfl, rfl, by decide⟩)
      | none =>
          by_cases required : tool.approvalRequired = true
          · rw [if_pos required]
            exact .inr (.inl ⟨_, .approval, rfl, rfl, by decide⟩)
          · rw [if_neg required]
            exact .inr (.inr ⟨_, rfl, rfl⟩)

end Answer

/-! ## The decision -/

section Decision

variable [PyRuntime]

/-- The decision on an outcome of the gateway. -/
def decisionOn :
    Except AuthorizeError AuthorizationResult →
      Except AuthorizeError AttackPathDecision
  | .ok result => .ok (attackVerdict result).1
  | .error (.toolNotFound _) => .ok .outOfScope
  | .error error => .error error

theorem attackVerdict_denied (reason : Reason) :
    (attackVerdict (.denied reason)).1 =
      if CarriesMarker reason.text then .validated else .outOfScope := by
  unfold attackVerdict AuthorizationResult.denied
  simp only [any_contains_eq_decide, decide_eq_true_eq]
  split_ifs <;> trivial

theorem attackVerdict_allowed {result : AuthorizationResult}
    (allowed : result.allowed = true) :
    (attackVerdict result).1 = .gateBypassed := by
  rw [attackVerdict, if_pos allowed]

omit [PyRuntime] in
theorem deniedAt_denied_iff {stages : List DenialStage} {reason : Reason}
    {stage : DenialStage} (given : stageOf reason = some stage) :
    DeniedAt stages (.ok (.denied reason)) ↔ stage ∈ stages := by
  constructor
  · rintro ⟨result, other, equal, -, named, member⟩
    cases equal
    have same : some stage = some other := given.symm.trans named
    cases same
    exact member
  · intro member
    exact ⟨_, stage, rfl, rfl, given, member⟩

theorem reflectsStage_of_allowed {result : AuthorizationResult}
    (allowed : result.allowed = true) :
    ReflectsStage (.ok result) (attackVerdict result).1 := by
  have granted (stages : List DenialStage) : ¬ DeniedAt stages (.ok result) := by
    rintro ⟨other, -, equal, denied, -⟩
    cases equal
    rw [allowed] at denied
    cases denied
  rw [attackVerdict_allowed allowed]
  constructor
  · simp [allowed]
  · simp [granted]
  · simp [granted]

omit [PyRuntime] in
theorem reflectsStage_of_missing (name : PyStr) :
    ReflectsStage (.error (.toolNotFound name)) .outOfScope := by
  constructor
  · simp
  · simp [DeniedAt]
  · simp

/-- A barrier is always recognised. -/
theorem reflectsStage_of_barrier {reason : Reason} {stage : DenialStage}
    (given : stageOf reason = some stage) (barrier : stage ∈ barrierStages) :
    ReflectsStage (.ok (.denied reason)) (attackVerdict (.denied reason)).1 := by
  have elsewhere : stage ∉ scopeStages := not_mem_scopeStages stage barrier
  rw [attackVerdict_denied, if_pos (carriesMarker_of_barrier given barrier)]
  constructor
  · simp [AuthorizationResult.denied]
  · simp [deniedAt_denied_iff given, barrier]
  · simp [deniedAt_denied_iff given, elsewhere]

/-- An earlier denial is recognised unless its reason holds a marker. -/
theorem reflectsStage_of_scope_iff {reason : Reason} {stage : DenialStage}
    (given : stageOf reason = some stage) (scope : stage ∈ scopeStages) :
    ReflectsStage (.ok (.denied reason)) (attackVerdict (.denied reason)).1 ↔
      ¬ CarriesMarker reason.text := by
  have elsewhere : stage ∉ barrierStages :=
    fun barrier => not_mem_scopeStages stage barrier scope
  rw [attackVerdict_denied]
  constructor
  · intro reflects carries
    have contained := reflects.validated.mp (if_pos carries)
    exact elsewhere ((deniedAt_denied_iff given).mp contained)
  · intro plain
    rw [if_neg plain]
    constructor
    · simp [AuthorizationResult.denied]
    · simp [deniedAt_denied_iff given, elsewhere]
    · simp [deniedAt_denied_iff given, scope]

variable {Store : Type} [ApprovalStoreProtocol Store]

/-- What validating an attempt decides. -/
theorem validateAttackPath_decision (finding : EscalationFinding)
    (toolName target subjectId : PyStr) (grantedScopes : Finset PyStr)
    (safetyEnvelope verificationResult : Option JsonObject)
    (ambient : Ambient) (gateway : Gateway Store) :
    (validateAttackPath finding toolName target subjectId grantedScopes
        safetyEnvelope verificationResult ambient gateway).1.map
          AttackPathResult.decision =
      decisionOn
        (Gateway.authorize
          (attackRequest toolName target subjectId grantedScopes
            safetyEnvelope verificationResult) none none ambient gateway).1 := by
  unfold validateAttackPath
  simp only
  rcases Gateway.authorize (attackRequest toolName target subjectId
    grantedScopes safetyEnvelope verificationResult) none none ambient gateway
    with ⟨error | result, final⟩
  · cases error <;> rfl
  · rfl

/-- A decision on the answer is the decision of the validation. -/
theorem exists_validated {finding : EscalationFinding}
    {toolName target subjectId : PyStr} {grantedScopes : Finset PyStr}
    {safetyEnvelope verificationResult : Option JsonObject}
    {ambient : Ambient} {gateway : Gateway Store}
    {decision : AttackPathDecision}
    (decided :
      decisionOn
          (Gateway.authorize
            (attackRequest toolName target subjectId grantedScopes
              safetyEnvelope verificationResult) none none ambient
              gateway).1 = .ok decision) :
    ∃ validated,
      (validateAttackPath finding toolName target subjectId grantedScopes
          safetyEnvelope verificationResult ambient gateway).1 =
        .ok validated ∧ validated.decision = decision := by
  have agrees := validateAttackPath_decision finding toolName target subjectId
    grantedScopes safetyEnvelope verificationResult ambient gateway
  rw [decided] at agrees
  cases outcome :
      (validateAttackPath finding toolName target subjectId grantedScopes
        safetyEnvelope verificationResult ambient gateway).1 with
  | error error =>
      rw [outcome] at agrees
      cases agrees
  | ok validated =>
      rw [outcome] at agrees
      cases agrees
      exact ⟨validated, rfl, rfl⟩

/--
The texts the gateway quotes when it refuses an attempt in front of the safety
chain.
-/
def quotedTexts (gateway : Gateway Store) (request : ToolCallRequest)
    (now : PyDateTime) : List PyStr :=
  match gateway.catalog.get? request.toolName with
  | none => []
  | some tool =>
      if tool.sideEffectClass ∈ deniedInP0 then []
      else
        match admissionOf gateway.rateLimiter tool now with
        | .error _ => []
        | .ok false => [tool.name]
        | .ok true =>
            if request.action ∉ tool.mode then tool.name :: tool.mode
            else if tool.requiredScope ∉ request.grantedScopes then
              [tool.requiredScope]
            else if tool.targetAllowlistRequired = true ∧
                request.target ∉ allowlistOf gateway.targetAllowlists tool then
              [request.target, tool.name]
            else []

variable {gateway : Gateway Store} {request : ToolCallRequest}
  {ambient : Ambient} {tool : ToolDefinition}

omit [PyRuntime] [ApprovalStoreProtocol Store] in
theorem quotedTexts_of_found
    (found : gateway.catalog.get? request.toolName = some tool)
    (inScope : tool.sideEffectClass ∉ deniedInP0) :
    quotedTexts gateway request ambient.clock =
      match admissionOf gateway.rateLimiter tool ambient.clock with
      | .error _ => []
      | .ok false => [tool.name]
      | .ok true =>
          if request.action ∉ tool.mode then tool.name :: tool.mode
          else if tool.requiredScope ∉ request.grantedScopes then
            [tool.requiredScope]
          else if tool.targetAllowlistRequired = true ∧
              request.target ∉ allowlistOf gateway.targetAllowlists tool then
            [request.target, tool.name]
          else [] := by
  unfold quotedTexts
  rw [found]
  simp only [inScope, ↓reduceIte]

omit [ApprovalStoreProtocol Store] in
/-- The texts quoted by a refusal of the request carry its markers. -/
theorem reflectsStage_documentAnswer_iff
    (found : gateway.catalog.get? request.toolName = some tool)
    (inScope : tool.sideEffectClass ∉ deniedInP0)
    (admitted :
      admissionOf gateway.rateLimiter tool ambient.clock = .ok true)
    (execute : request.action = executeAction)
    (unapproved : request.approval = none) {decision : AttackPathDecision}
    (decided :
      decisionOn
          (documentAnswer gateway.targetAllowlists tool request ambient) =
        .ok decision) :
    ReflectsStage (documentAnswer gateway.targetAllowlists tool request ambient)
        decision ↔
      ∀ text ∈ quotedTexts gateway request ambient.clock,
        ¬ CarriesMarker text := by
  have refused {reason : Reason} {stage : DenialStage}
      (answer : documentAnswer gateway.targetAllowlists tool request ambient =
        .ok (.denied reason))
      (given : stageOf reason = some stage) (scope : stage ∈ scopeStages) :
      ReflectsStage
          (documentAnswer gateway.targetAllowlists tool request ambient)
          decision ↔
        ¬ CarriesMarker reason.text := by
    rw [answer] at decided ⊢
    cases decided
    exact reflectsStage_of_scope_iff given scope
  rw [quotedTexts_of_found found inScope, admitted]
  simp only
  by_cases supported : request.action ∈ tool.mode
  · by_cases inGrant : tool.requiredScope ∈ request.grantedScopes
    · by_cases listed : tool.targetAllowlistRequired = true ∧
        request.target ∉ allowlistOf gateway.targetAllowlists tool
      · rw [refused
            (documentAnswer_of_unlisted supported inGrant listed.1 listed.2) rfl
            (by decide), carriesMarker_targetNotAllowed]
        simp [supported, inGrant, listed.1, listed.2]
      · have passes : requestStage gateway.targetAllowlists tool request =
            .ok () := by
          refine requestStage_eq_ok_iff.mpr ⟨supported, inGrant, ?_⟩
          intro required
          by_contra unlisted
          exact listed ⟨required, unlisted⟩
        have reflects : ReflectsStage
            (documentAnswer gateway.targetAllowlists tool request ambient)
            decision := by
          rcases documentAnswer_of_inScope execute unapproved passes with
            ⟨error, answer⟩ | ⟨reason, stage, answer, given, barrier⟩ |
              ⟨result, answer, allowed⟩
          · rw [answer] at decided
            cases decided
          · rw [answer] at decided ⊢
            cases decided
            exact reflectsStage_of_barrier given barrier
          · rw [answer] at decided ⊢
            cases decided
            exact reflectsStage_of_allowed allowed
        simp [supported, inGrant, listed, reflects]
    · rw [refused (documentAnswer_of_ungranted supported inGrant) rfl
          (by decide), carriesMarker_scopeNotGranted]
      simp [supported, inGrant]
  · have plain : ¬ CarriesMarker executeAction := by decide
    rw [refused (documentAnswer_of_unsupported supported) rfl (by decide),
      execute, carriesMarker_actionNotSupported]
    rw [execute] at supported
    simp [supported, plain]

/-- The decision on an answer of the gateway. -/
theorem reflectsStage_iff (execute : request.action = executeAction)
    (unapproved : request.approval = none)
    (token : request.callerToken = "attack-path-validation")
    {decision : AttackPathDecision}
    (decided :
      decisionOn (Gateway.authorize request none none ambient gateway).1 =
        .ok decision) :
    ReflectsStage (Gateway.authorize request none none ambient gateway).1
        decision ↔
      ∀ text ∈ quotedTexts gateway request ambient.clock,
        ¬ CarriesMarker text := by
  cases found : gateway.catalog.get? request.toolName with
  | none =>
      rw [authorize_of_missing found] at decided ⊢
      cases decided
      simp [quotedTexts, found, reflectsStage_of_missing]
  | some tool =>
      obtain ⟨limiter, answer⟩ := authorize_of_found unapproved token found
      rw [answer] at decided ⊢
      simp only [attackAnswer] at decided ⊢
      by_cases denied : tool.sideEffectClass ∈ deniedInP0
      · rw [if_pos denied] at decided ⊢
        cases decided
        have plain := not_carriesMarker_sideEffectClass denied
        rw [reflectsStage_of_scope_iff rfl (by decide)]
        simp [quotedTexts, found, denied, plain]
      · rw [if_neg denied] at decided ⊢
        cases admission :
            admissionOf gateway.rateLimiter tool ambient.clock with
        | error error =>
            rw [admission] at decided
            cases decided
        | ok admitted =>
            rw [admission] at decided
            cases admitted with
            | true =>
                exact reflectsStage_documentAnswer_iff found denied admission
                  execute unapproved decided
            | false =>
                cases decided
                rw [reflectsStage_of_scope_iff rfl (by decide),
                  carriesMarker_rateLimit,
                  quotedTexts_of_found found denied, admission]
                simp

/--
The decision says which layer stopped the attempt exactly when no text quoted
by a refusal in front of the safety chain holds one of the three words.
-/
theorem decision_reflects_stage_iff {finding : EscalationFinding}
    {toolName target subjectId : PyStr} {grantedScopes : Finset PyStr}
    {safetyEnvelope verificationResult : Option JsonObject}
    (answers :
      Answers
        (Gateway.authorize
          (attackRequest toolName target subjectId grantedScopes
            safetyEnvelope verificationResult) none none ambient gateway).1) :
    ∃ validated,
      (validateAttackPath finding toolName target subjectId grantedScopes
          safetyEnvelope verificationResult ambient gateway).1 =
        .ok validated ∧
      (ReflectsStage
          (Gateway.authorize
            (attackRequest toolName target subjectId grantedScopes
              safetyEnvelope verificationResult) none none ambient gateway).1
          validated.decision ↔
        ∀ text ∈
          quotedTexts gateway
            (attackRequest toolName target subjectId grantedScopes
              safetyEnvelope verificationResult) ambient.clock,
          ¬ CarriesMarker text) := by
  have returned : ∃ decision,
      decisionOn
          (Gateway.authorize
            (attackRequest toolName target subjectId grantedScopes
              safetyEnvelope verificationResult) none none ambient
              gateway).1 = .ok decision := by
    rcases answers with ⟨result, answer⟩ | ⟨name, answer⟩
    · exact ⟨_, by rw [answer]; rfl⟩
    · exact ⟨_, by rw [answer]; rfl⟩
  obtain ⟨decision, decided⟩ := returned
  obtain ⟨validated, outcome, rfl⟩ := exists_validated decided
  exact ⟨validated, outcome, reflectsStage_iff rfl rfl rfl decided⟩

end Decision

section Example

attribute [local instance] Reference.runtime

/-- The finding of an excessive privilege, as far as the gateway sees it. -/
def excessiveFinding : EscalationFinding where
  subject := "argos-cyber-range/gseg-simulado-sa"
  path := "ServiceAccount -> RoleBinding/ClusterRole -> wildcard total"
  rule := ⟨["*"], ["*"], ["*"], []⟩
  reason := "wildcard total"
  severity := "critical"

def executeScope : PyStr := "cyber.response.execute"

/-- On the shipped catalog a target outside the allowlist is refused as such. -/
theorem authorize_unlisted {target : PyStr}
    (unlisted : target ∉ allowlistOf shippedAllowlists
      isolateKubernetesWorkloadTool) :
    (Gateway.authorize
        (attackRequest "isolate_kubernetes_workload" target "gseg-simulado-sa"
          {executeScope} none none) none none Scenario.ambient
        (Scenario.gateway ApprovalStore.fresh)).1 =
      .ok (.denied
        (.targetNotAllowed target isolateKubernetesWorkloadTool.name)) := by
  have found : (Scenario.gateway ApprovalStore.fresh).catalog.get?
      (attackRequest "isolate_kubernetes_workload" target "gseg-simulado-sa"
        {executeScope} none none).toolName =
          some isolateKubernetesWorkloadTool :=
    rfl
  have supported : executeAction ∈ isolateKubernetesWorkloadTool.mode := by
    decide
  have inGrant : isolateKubernetesWorkloadTool.requiredScope ∈
      ({executeScope} : Finset PyStr) := by
    decide
  have inScope : isolateKubernetesWorkloadTool.sideEffectClass ∉ deniedInP0 := by
    decide
  have admitted : admissionOf (Scenario.gateway ApprovalStore.fresh).rateLimiter
      isolateKubernetesWorkloadTool Scenario.ambient.clock = .ok true := rfl
  obtain ⟨limiter, answer⟩ := authorize_of_found rfl rfl found
  rw [answer]
  dsimp only
  unfold attackAnswer
  rw [if_neg inScope, admitted]
  exact documentAnswer_of_unlisted supported inGrant rfl unlisted

/-- A target outside the allowlist that is named like an approval. -/
theorem allowlist_denial_taken_for_barrier :
    ∃ validated,
      (validateAttackPath excessiveFinding "isolate_kubernetes_workload"
          "deployment/Approval-portal" "gseg-simulado-sa" {executeScope} none
          none Scenario.ambient (Scenario.gateway ApprovalStore.fresh)).1 =
        .ok validated ∧
      ¬ ReflectsStage
        (Gateway.authorize
          (attackRequest "isolate_kubernetes_workload"
            "deployment/Approval-portal" "gseg-simulado-sa" {executeScope} none
            none) none none Scenario.ambient
          (Scenario.gateway ApprovalStore.fresh)).1 validated.decision := by
  have answer := @authorize_unlisted "deployment/Approval-portal" (by decide)
  have marked : CarriesMarker
      (Reason.targetNotAllowed ("deployment/Approval-portal" : PyStr)
        isolateKubernetesWorkloadTool.name).text := by
    rw [carriesMarker_targetNotAllowed]
    decide
  obtain ⟨validated, outcome, decision⟩ :=
    exists_validated (congrArg decisionOn answer)
  refine ⟨validated, outcome, ?_⟩
  rw [answer, decision]
  exact fun reflects =>
    (reflectsStage_of_scope_iff rfl (by decide)).mp reflects marked

/-- The target of the shipped tests is reported as out of scope. -/
theorem decision_reflects_stage_of_payments :
    ∃ validated,
      (validateAttackPath excessiveFinding "isolate_kubernetes_workload"
          "namespace/production-payments" "gseg-simulado-sa" {executeScope} none
          none Scenario.ambient (Scenario.gateway ApprovalStore.fresh)).1 =
        .ok validated ∧
      ReflectsStage
        (Gateway.authorize
          (attackRequest "isolate_kubernetes_workload"
            "namespace/production-payments" "gseg-simulado-sa" {executeScope}
            none none) none none Scenario.ambient
          (Scenario.gateway ApprovalStore.fresh)).1 validated.decision := by
  have answer := @authorize_unlisted "namespace/production-payments" (by decide)
  obtain ⟨validated, outcome, reflects⟩ :=
    @decision_reflects_stage_iff _ _ _ _ _ excessiveFinding _ _ _ _ _ _
      (.inl ⟨_, answer⟩)
  refine ⟨validated, outcome, reflects.mpr ?_⟩
  decide

end Example

end ArgosCyberTools.Graph
