import ArgosCyberTools.McpGateway.RateLimiter
import ArgosCyberTools.McpGateway.SafetyChain
import ArgosCyberTools.ToolCatalog.Loading

/-!
# `Gateway.authorize`

The single entry point, in the order of the source: catalog lookup,
side-effect class, rate limit, the checks on the request, the safety chain,
the approval stage, the store and the minting of a credential.  The part in
front of the store touches the rate limiter only; it hands over what is left
to consume, so that a store that waits between two of its steps can be
studied from there.
-/

namespace ArgosCyberTools.McpGateway

open Python ToolCatalog Policies

structure AuthorizationResult where
  allowed : Bool
  reason : Reason
  downstreamCredential : Option PyStr

def AuthorizationResult.denied (reason : Reason) : AuthorizationResult :=
  ⟨false, reason, none⟩

inductive AuthorizeError where
  | toolNotFound (name : PyStr)
  | tokenPassthrough
  | builtin (error : BuiltinError)

abbrev Allowlists := PyDict PyStr (Finset PyStr)

structure Gateway (Store : Type) where
  catalog : Catalog
  targetAllowlists : Allowlists
  approvalStore : Store
  rateLimiter : RateLimiter

/-- What one call reads from outside: the clock and a fresh UUID. -/
structure Ambient where
  clock : PyDateTime
  uuidHex : PyStr

/-- An early exit of `authorize`: a result, or an exception. -/
abbrev AuthorizeExit := Exit AuthorizeError AuthorizationResult

/-- An approval left to consume, with the plan hash it must cover. -/
structure Demand where
  approval : JsonObject
  planHash : PyStr

def deny (reason : Reason) : AuthorizeExit :=
  .returned (.denied reason)

/-! ## The stages -/

/-- `self._target_allowlists.get(tool.name, set())`. -/
def allowlistOf (allowlists : Allowlists) (tool : ToolDefinition) :
    Finset PyStr :=
  (allowlists.get? tool.name).getD ∅

/-- Mode, scope and target allowlist. -/
def requestStage (allowlists : Allowlists) (tool : ToolDefinition)
    (request : ToolCallRequest) : Except AuthorizeExit Unit := do
  raiseIf (decide (request.action ∉ tool.mode))
    (deny (.actionNotSupported request.action tool.name tool.mode))
  raiseIf (decide (tool.requiredScope ∉ request.grantedScopes))
    (deny (.scopeNotGranted tool.requiredScope))
  raiseIf
    (tool.targetAllowlistRequired &&
      decide (request.target ∉ allowlistOf allowlists tool))
    (deny (.targetNotAllowed request.target tool.name))

section Stages

variable [PyRuntime]

def safetyStage (tool : ToolDefinition) (request : ToolCallRequest)
    (now : PyDateTime) : Except AuthorizeExit Unit :=
  if request.action = executeAction then
    match checkSafetyChain request tool now with
    | .ok none => .ok ()
    | .ok (some denial) => .error (deny (.safetyChain denial))
    | .error error => .error (.raised (.builtin error))
  else
    .ok ()

/-- `request.safety_envelope["envelope_hash"]`, after the assertion. -/
def envelopeHashOf (request : ToolCallRequest) :
    Except BuiltinError Json := do
  let envelope ← orExit request.safetyEnvelope .assertionError
  orExit (envelope.get? "envelope_hash") (.keyError "envelope_hash")

/-- The plan hash the presented envelope calls for. -/
def expectedPlanHash (tool : ToolDefinition) (request : ToolCallRequest) :
    Except BuiltinError PyStr := do
  let envelopeHash ← envelopeHashOf request
  computePlanHash tool.name request.target request.action
    (some [("safety_envelope_hash", envelopeHash)])

/-- The approval stage up to the store; `none` asks for no approval. -/
def approvalStage (tool : ToolDefinition) (request : ToolCallRequest)
    (currentPlanHash : Option PyStr) :
    Except AuthorizeExit (Option Demand) :=
  if request.action = executeAction ∧ tool.approvalRequired then do
    let approval ← orExit request.approval (deny .approvalMissing)
    let planHash ← orExit currentPlanHash (deny .planHashMissing)
    let expected ←
      (expectedPlanHash tool request).mapError fun error =>
        .raised (.builtin error)
    raiseIf (decide (planHash ≠ expected)) (deny .planHashNotBound)
    return some ⟨approval, planHash⟩
  else
    .ok none

/-- `catalog[request.tool_name]`. -/
def lookupTool (catalog : Catalog) (request : ToolCallRequest) :
    Except AuthorizeExit ToolDefinition :=
  orExit (catalog.get? request.toolName)
    (.raised (.toolNotFound request.toolName))

def sideEffectStage (tool : ToolDefinition) : Except AuthorizeExit Unit :=
  raiseIf (decide (tool.sideEffectClass ∈ deniedInP0))
    (deny (.sideEffectClass tool.sideEffectClass))

def rateLimitStage (tool : ToolDefinition) (now : PyDateTime) :
    PyM RateLimiter AuthorizeExit Unit := do
  let admitted ←
    (RateLimiter.checkAndRecord tool.name tool.rateLimit.callsPerMinute
      now).mapError fun error => .raised (.builtin error)
  PyM.ofExcept
    (raiseIf (!admitted)
      (deny (.rateLimit tool.name tool.rateLimit.callsPerMinute)))

/-- What follows the rate limit and precedes the store. -/
def documentStages (allowlists : Allowlists) (tool : ToolDefinition)
    (request : ToolCallRequest) (currentPlanHash : Option PyStr)
    (now : PyDateTime) : Except AuthorizeExit (Option Demand) := do
  requestStage allowlists tool request
  safetyStage tool request now
  approvalStage tool request currentPlanHash

/-- Everything in front of the store. -/
def checks (catalog : Catalog) (allowlists : Allowlists)
    (request : ToolCallRequest) (currentPlanHash : Option PyStr)
    (now : PyDateTime) : PyM RateLimiter AuthorizeExit (Option Demand) := do
  let tool ← PyM.ofExcept (lookupTool catalog request)
  PyM.ofExcept (sideEffectStage tool)
  rateLimitStage tool now
  PyM.ofExcept
    (documentStages allowlists tool request currentPlanHash now)

def executorId : PyStr := "mcp_gateway"

/-- `except ApprovalRejected`: a rejection is a denial. -/
def storeExit : ApprovalError → AuthorizeExit
  | .rejected why => deny (.approvalRejected why)
  | .builtin error => .raised (.builtin error)

def storeStage {Store : Type} [ApprovalStoreProtocol Store]
    (demand : Option Demand) (request : ToolCallRequest)
    (now : PyDateTime) : PyM Store AuthorizeExit Unit :=
  match demand with
  | none => pure ()
  | some demand =>
      (ApprovalStoreProtocol.validateAndConsume demand.approval
        demand.planHash request.subject executorId now).mapError storeExit

end Stages

/-- `_mint_ephemeral_credential`. -/
def mintEphemeralCredential (ambient : Ambient) : PyStr :=
  "ephemeral-" ++ ambient.uuidHex

/-- The caller's token is never handed on. -/
def mintStage (request : ToolCallRequest) (ambient : Ambient) :
    Except AuthorizeExit AuthorizationResult := do
  let downstreamCredential := mintEphemeralCredential ambient
  raiseIf (decide (downstreamCredential = request.callerToken))
    (.raised .tokenPassthrough)
  return ⟨true, .authorised, some downstreamCredential⟩

/-! ## `authorize` -/

namespace Gateway

variable [PyRuntime] {Store : Type} [ApprovalStoreProtocol Store]

def authorizeBody (request : ToolCallRequest)
    (currentPlanHash : Option PyStr) (now : Option PyDateTime)
    (ambient : Ambient) :
    PyM (Gateway Store) AuthorizeExit AuthorizationResult := do
  let effectiveNow := now.getD ambient.clock
  let gateway ← PyM.get
  let demand ← PyM.onField rateLimiter
    (fun limiter gateway => { gateway with rateLimiter := limiter })
    (checks gateway.catalog gateway.targetAllowlists request
      currentPlanHash effectiveNow)
  PyM.onField approvalStore
    (fun store gateway => { gateway with approvalStore := store })
    (storeStage demand request effectiveNow)
  PyM.ofExcept (mintStage request ambient)

def authorize (request : ToolCallRequest)
    (currentPlanHash : Option PyStr) (now : Option PyDateTime)
    (ambient : Ambient) :
    PyM (Gateway Store) AuthorizeError AuthorizationResult :=
  PyM.finish (authorizeBody request currentPlanHash now ambient)

end Gateway

end ArgosCyberTools.McpGateway
