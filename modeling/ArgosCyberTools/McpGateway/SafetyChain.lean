import ArgosCyberTools.Policies.Approval

/-!
# The safety chain

A request, the reasons the gateway gives for its decision, and
`_check_safety_chain`: what an `execute` request must present before any
approval is looked at.  The envelope and the verification are untyped
documents of the caller; the body leaves early with a reason, or raises.
-/

namespace ArgosCyberTools.McpGateway

open Python ToolCatalog Policies

structure ToolCallRequest where
  toolName : PyStr
  target : PyStr
  action : PyStr
  subject : PyStr
  callerToken : PyStr
  grantedScopes : Finset PyStr
  approval : Option JsonObject
  safetyEnvelope : Option JsonObject
  verificationResult : Option JsonObject

/-! ## Reasons -/

/-- Why the safety chain denies. -/
inductive ChainDenial where
  | envelopeMissing
  | envelopeHashInvalid
  | validUntilMissing
  | envelopeExpired (validUntil : PyStr) (now : PyDateTime)
  | validUntilUnreadable (validUntil : PyStr)
  | targetNotInSet (target : PyStr)
  | actionNotAllowed (action : PyStr)
  | runbookNotBound (tool : PyStr) (required : Option Json)
      (expected : PyStr)
  | verificationMissing
  | notVerified (state : Option Json)
  | verificationHashDiffers
  | verificationNotBound

/-- The reason of an `AuthorizationResult`. -/
inductive Reason where
  | sideEffectClass (class_ : PyStr)
  | rateLimit (tool : PyStr) (callsPerMinute : Int)
  | actionNotSupported (action tool : PyStr) (mode : List PyStr)
  | scopeNotGranted (scope : PyStr)
  | targetNotAllowed (target tool : PyStr)
  | safetyChain (denial : ChainDenial)
  | approvalMissing
  | planHashMissing
  | planHashNotBound
  | approvalRejected (why : Rejection)
  | authorised

section Text

variable [PyRuntime]

def ChainDenial.text : ChainDenial → PyStr
  | .envelopeMissing =>
      "SafetyEnvelope ausente: requerido para action=execute (R0-01)"
  | .envelopeHashInvalid =>
      "SafetyEnvelope con envelope_hash ausente o con formato inválido"
  | .validUntilMissing => "SafetyEnvelope sin valid_until"
  | .envelopeExpired validUntil now =>
      "SafetyEnvelope expirado: valid_until=" ++ reprText validUntil ++
        " < now=" ++ reprText (PyRuntime.isoformat now)
  | .validUntilUnreadable validUntil =>
      "SafetyEnvelope con valid_until ilegible: " ++
        reprText validUntil
  | .targetNotInSet target =>
      "target " ++ reprText target ++
        " no está en target_set del SafetyEnvelope"
  | .actionNotAllowed action =>
      "acción " ++ reprText action ++
        " no está en allowed_actions del SafetyEnvelope"
  | .runbookNotBound tool required expected =>
      "SafetyEnvelope no está vinculado a " ++ reprText tool ++
        " (required_runbook=" ++ Json.reprOption required ++
        ", esperado " ++ reprText expected ++ ")"
  | .verificationMissing =>
      "VerificationResult ausente: requerido para action=execute (R0-01)"
  | .notVerified state =>
      "VerificationResult.state=" ++ Json.reprOption state ++
        " != VERIFIED (ZERO EXECUTE, ADR-055)"
  | .verificationHashDiffers =>
      "VerificationResult no referencia el envelope_hash del SafetyEnvelope " ++
        "suministrado (posible sustitución/replay entre planes)"
  | .verificationNotBound =>
      "VerificationResult no está vinculado al mismo tool/target de esta " ++
        "solicitud"

def Reason.text : Reason → PyStr
  | .sideEffectClass class_ =>
      "side_effect_class '" ++ class_ ++
        "' fuera de alcance del P0 (ADR-053, DENY incondicional)"
  | .rateLimit tool callsPerMinute =>
      "rate_limit excedido para '" ++ tool ++ "' (" ++
        PyStr.ofInt callsPerMinute ++ "/min)"
  | .actionNotSupported action tool mode =>
      "acción '" ++ action ++ "' no soportada por '" ++ tool ++
        "' (mode=" ++ reprTextTuple mode ++ ")"
  | .scopeNotGranted scope =>
      "scope '" ++ scope ++ "' no concedido al llamante"
  | .targetNotAllowed target tool =>
      "target '" ++ target ++ "' fuera de la allowlist de '" ++ tool ++ "'"
  | .safetyChain denial => denial.text
  | .approvalMissing =>
      "execute requiere Approval y no se proporcionó ninguna"
  | .planHashMissing =>
      "current_plan_hash es obligatorio para validar la Approval"
  | .planHashNotBound =>
      "current_plan_hash no está vinculado al envelope_hash del " ++
        "SafetyEnvelope de esta solicitud (R0-01-RESIDUAL: posible " ++
        "sustitución de contexto entre incidentes)"
  | .approvalRejected why => "Approval rechazada: " ++ why.text
  | .authorised => "autorizado"

end Text

/-! ## `_check_safety_chain` -/

/-- `sha256:` and 64 lower-case hexadecimal digits. -/
def isHashRef (text : PyStr) : Bool :=
  decide (text.take 7 = ("sha256:" : PyStr)) &&
    decide (text.length = 71) &&
    (text.drop 7).all fun point =>
      decide (0x61 ≤ point.val ∧ point.val ≤ 0x66) ||
        decide (0x30 ≤ point.val ∧ point.val ≤ 0x39)

/-- `_HASH_REF_PATTERN.match`. -/
def hashRefPattern : PyStr → Bool := matchesToEnd isHashRef

theorem surrogateFree_of_isHashRef {text : PyStr}
    (shaped : isHashRef text = true) : SurrogateFree text := by
  simp only [isHashRef, Bool.and_eq_true, decide_eq_true_eq,
    List.all_eq_true, Bool.or_eq_true] at shaped
  obtain ⟨⟨opening, -⟩, digits⟩ := shaped
  rw [← List.take_append_drop 7 text, surrogateFree_append, opening]
  refine ⟨surrogateFree_ofString "sha256:", fun point member => ?_⟩
  have digit := digits point member
  exact decide_eq_false (by omega)

/-- What the pattern lets through can be encoded. -/
theorem surrogateFree_of_hashRefPattern {text : PyStr}
    (shaped : hashRefPattern text = true) : SurrogateFree text := by
  simp only [hashRefPattern, matchesToEnd, Bool.or_eq_true,
    Bool.and_eq_true, decide_eq_true_eq] at shaped
  rcases shaped with exact | ⟨newline, front⟩
  · exact surrogateFree_of_isHashRef exact
  · obtain ⟨body, rfl⟩ := List.getLast?_eq_some_iff.mp newline
    rw [List.dropLast_concat] at front
    simp only [surrogateFree_append, surrogateFree_cons,
      surrogateFree_nil, and_true]
    exact ⟨surrogateFree_of_isHashRef front, by decide⟩

def executeAction : PyStr := "execute"

/-- `f"runbooks/{tool.name}.md"`. -/
def expectedRunbook (tool : ToolDefinition) : PyStr :=
  "runbooks/" ++ tool.name ++ ".md"

section Chain

variable [PyRuntime]

/-- An early exit of the chain: a denial, or an exception. -/
abbrev ChainExit := Exit BuiltinError ChainDenial

/-- The body of `_check_safety_chain`; reaching its end returns `None`. -/
def safetyChainBody (request : ToolCallRequest) (tool : ToolDefinition)
    (now : PyDateTime) : Except ChainExit Unit := do
  let envelope ← orExit request.safetyEnvelope (.returned .envelopeMissing)
  let envelopeHash ← orExit (Json.strOf (envelope.get? "envelope_hash"))
    (.returned .envelopeHashInvalid)
  raiseIf (!hashRefPattern envelopeHash) (.returned .envelopeHashInvalid)
  let validUntil ← orExit (Json.strOf (envelope.get? "valid_until"))
    (.returned .validUntilMissing)
  -- A naive limit is readable, but comparing it raises a `TypeError`.
  let limit ← orExit (PyRuntime.fromisoformat validUntil)
    (.returned (.validUntilUnreadable validUntil))
  let late ← (now.gt limit).mapError .raised
  raiseIf late (.returned (.envelopeExpired validUntil now))
  let inSet ← ((Json.orEmptyList (envelope.get? "target_set")).holds
    request.target).mapError .raised
  raiseIf (!inSet) (.returned (.targetNotInSet request.target))
  let allowed ← ((Json.orEmptyList (envelope.get? "allowed_actions")).holds
    request.action).mapError .raised
  raiseIf (!allowed) (.returned (.actionNotAllowed request.action))
  raiseIf (!Json.hasStr envelope "required_runbook" (expectedRunbook tool))
    (.returned
      (.runbookNotBound tool.name (envelope.get? "required_runbook")
        (expectedRunbook tool)))
  let verification ← orExit request.verificationResult
    (.returned .verificationMissing)
  raiseIf (!Json.hasStr verification "state" "VERIFIED")
    (.returned (.notVerified (verification.get? "state")))
  raiseIf (!Json.hasStr verification "envelope_hash" envelopeHash)
    (.returned .verificationHashDiffers)
  raiseIf
    (!Json.hasStr verification "tool_name" tool.name ||
      !Json.hasStr verification "target" request.target)
    (.returned .verificationNotBound)

def checkSafetyChain (request : ToolCallRequest) (tool : ToolDefinition)
    (now : PyDateTime) : Except BuiltinError (Option ChainDenial) :=
  match safetyChainBody request tool now with
  | .ok () => .ok none
  | .error (.returned denial) => .ok (some denial)
  | .error (.raised error) => .error error

/-! ## What the chain checks -/

/-- The conditions on the two documents under which the chain passes. -/
structure ChainPasses (request : ToolCallRequest) (tool : ToolDefinition)
    (now : PyDateTime) (envelope verification : JsonObject)
    (envelopeHash : PyStr) : Prop where
  presented : request.safetyEnvelope = some envelope
  verified : request.verificationResult = some verification
  hashGiven : envelope.get? "envelope_hash" = some (.str envelopeHash)
  hashShaped : hashRefPattern envelopeHash = true
  current : ∃ validUntil limit,
    envelope.get? "valid_until" = some (.str validUntil) ∧
      PyRuntime.fromisoformat validUntil = some limit ∧
      now.gt limit = .ok false
  targetHeld :
    (Json.orEmptyList (envelope.get? "target_set")).holds request.target =
      .ok true
  actionHeld :
    (Json.orEmptyList (envelope.get? "allowed_actions")).holds
      request.action = .ok true
  runbook : envelope.get? "required_runbook" =
    some (.str (expectedRunbook tool))
  stateVerified : verification.get? "state" = some (.str "VERIFIED")
  sameHash : verification.get? "envelope_hash" = some (.str envelopeHash)
  sameTool : verification.get? "tool_name" = some (.str tool.name)
  sameTarget : verification.get? "target" = some (.str request.target)

variable {request : ToolCallRequest} {tool : ToolDefinition}
  {now : PyDateTime}

theorem checkSafetyChain_eq_none_iff_body :
    checkSafetyChain request tool now = .ok none ↔
      safetyChainBody request tool now = .ok () := by
  unfold checkSafetyChain
  rcases safetyChainBody request tool now with (_ | _) | _ <;> simp

/-- The chain returns `None` exactly on passing documents. -/
theorem checkSafetyChain_eq_none_iff :
    checkSafetyChain request tool now = .ok none ↔
      ∃ envelope verification envelopeHash,
        ChainPasses request tool now envelope verification envelopeHash := by
  rw [checkSafetyChain_eq_none_iff_body]
  simp only [safetyChainBody, bind_eq_ok_iff, orExit_eq_ok_iff,
    raiseIf_eq_ok_iff, mapError_eq_ok_iff, Json.strOf_eq_some_iff,
    Bool.not_eq_false', Bool.or_eq_false_iff, Json.hasStr_iff]
  constructor
  · rintro ⟨envelope, presented, envelopeHash, hashGiven, -, hashShaped,
      validUntil, untilGiven, limit, parsed, _, compared, -, rfl, _,
      targetHeld, -, rfl, _, actionHeld, -, rfl, -, runbook, verification,
      verified, -, stateVerified, -, sameHash, sameTool, sameTarget⟩
    exact ⟨envelope, verification, envelopeHash,
      { presented, verified, hashGiven, hashShaped
        current := ⟨validUntil, limit, untilGiven, parsed, compared⟩
        targetHeld, actionHeld, runbook, stateVerified, sameHash
        sameTool, sameTarget }⟩
  · rintro ⟨envelope, verification, envelopeHash, passes⟩
    obtain ⟨validUntil, limit, untilGiven, parsed, compared⟩ :=
      passes.current
    exact ⟨envelope, passes.presented, envelopeHash, passes.hashGiven, (),
      passes.hashShaped, validUntil, untilGiven, limit, parsed, false,
      compared, (), rfl, true, passes.targetHeld, (), rfl, true,
      passes.actionHeld, (), rfl, (), passes.runbook, verification,
      passes.verified, (), passes.stateVerified, (), passes.sameHash,
      passes.sameTool, passes.sameTarget⟩

end Chain

end ArgosCyberTools.McpGateway
