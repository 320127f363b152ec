import ArgosCyberTools.McpGateway.Scenario

/-!
# What passing the safety chain proves

The module documentation promises more of a passing request than the chain
checks: nothing reads the envelope's signature, `$` lets a final newline
through, and `in` accepts a substring of a text or a key of an object.
These are the only gaps.
-/

namespace ArgosCyberTools.McpGateway

open Python ToolCatalog Policies

section Soundness

variable [PyRuntime]

/-- What the module promises of a request that passes the chain. -/
structure ChainPromise (request : ToolCallRequest) (tool : ToolDefinition)
    (now : PyDateTime) (envelope verification : JsonObject)
    (envelopeHash : PyStr) : Prop where
  presented : request.safetyEnvelope = some envelope
  verified : request.verificationResult = some verification
  hashGiven : envelope.get? "envelope_hash" = some (.str envelopeHash)
  hashExact : isHashRef envelopeHash = true
  signed : ∃ signature,
    envelope.get? "signature" = some (.str signature) ∧
      isHashRef signature = true
  current : ∃ validUntil limit,
    envelope.get? "valid_until" = some (.str validUntil) ∧
      PyRuntime.fromisoformat validUntil = some limit ∧
      now.gt limit = .ok false
  targetListed : ∃ targets,
    envelope.get? "target_set" = some (.list targets) ∧
      Json.str request.target ∈ targets
  actionListed : ∃ actions,
    envelope.get? "allowed_actions" = some (.list actions) ∧
      Json.str request.action ∈ actions
  runbook : envelope.get? "required_runbook" =
    some (.str (expectedRunbook tool))
  stateVerified : verification.get? "state" = some (.str "VERIFIED")
  sameHash : verification.get? "envelope_hash" = some (.str envelopeHash)
  sameTool : verification.get? "tool_name" = some (.str tool.name)
  sameTarget : verification.get? "target" = some (.str request.target)

/-- The promise holds of the documents the request presents. -/
def Promised (request : ToolCallRequest) (tool : ToolDefinition)
    (now : PyDateTime) : Prop :=
  ∃ envelope verification envelopeHash,
    ChainPromise request tool now envelope verification envelopeHash

/-- What the chain leaves unread in an envelope. -/
structure StrictEnvelope (envelope : JsonObject) : Prop where
  signed : ∃ signature,
    envelope.get? "signature" = some (.str signature) ∧
      isHashRef signature = true
  hashEndsInDigit : ∀ envelopeHash,
    envelope.get? "envelope_hash" = some (.str envelopeHash) →
      envelopeHash.getLast? ≠ some 0x0A
  targetsAreList : ∃ targets,
    envelope.get? "target_set" = some (.list targets)
  actionsAreList : ∃ actions,
    envelope.get? "allowed_actions" = some (.list actions)

variable {request : ToolCallRequest} {tool : ToolDefinition}
  {now : PyDateTime} {envelope verification : JsonObject}
  {envelopeHash : PyStr}

omit [PyRuntime] in
/-- A hash reference ends in a digit. -/
theorem isHashRef_getLast? {text : PyStr} (shaped : isHashRef text = true) :
    text.getLast? ≠ some 0x0A := by
  simp only [isHashRef, Bool.and_eq_true, decide_eq_true_eq,
    List.all_eq_true, Bool.or_eq_true] at shaped
  obtain ⟨⟨-, length⟩, digits⟩ := shaped
  intro newline
  obtain ⟨front, rfl⟩ := List.getLast?_eq_some_iff.mp newline
  have member : (0x0A : CodePoint) ∈
      (front ++ [(0x0A : CodePoint)]).drop 7 := by
    rw [List.length_append] at length
    rw [List.drop_append_of_le_length (by simp at length; omega)]
    simp
  have digit := digits _ member
  revert digit
  decide

omit [PyRuntime] in
/-- Without a final newline the pattern is exact. -/
theorem isHashRef_of_hashRefPattern {text : PyStr}
    (shaped : hashRefPattern text = true)
    (noNewline : text.getLast? ≠ some 0x0A) : isHashRef text = true := by
  simpa [hashRefPattern, matchesToEnd, noNewline] using shaped

omit [PyRuntime] in
/-- Searching a list that may be absent: the text is one of its elements. -/
theorem holds_list_iff {value : Option Json} {items : List Json}
    {text : PyStr} (given : value = some (.list items)) :
    (Json.orEmptyList value).holds text = .ok true ↔
      Json.str text ∈ items := by
  subst given
  cases items with
  | nil => simp [Json.orEmptyList, Json.truthy, Json.holds]
  | cons item rest =>
      simp [Json.orEmptyList, Json.truthy, Json.holds, @eq_comm _ item]

/-- On a strict envelope the chain checks all it promises. -/
theorem ChainPasses.promise
    (passes :
      ChainPasses request tool now envelope verification envelopeHash)
    (strict : StrictEnvelope envelope) :
    ChainPromise request tool now envelope verification envelopeHash := by
  obtain ⟨targets, targetsGiven⟩ := strict.targetsAreList
  obtain ⟨actions, actionsGiven⟩ := strict.actionsAreList
  exact
    { presented := passes.presented
      verified := passes.verified
      hashGiven := passes.hashGiven
      hashExact := isHashRef_of_hashRefPattern passes.hashShaped
        (strict.hashEndsInDigit _ passes.hashGiven)
      signed := strict.signed
      current := passes.current
      targetListed := ⟨targets, targetsGiven,
        (holds_list_iff targetsGiven).mp passes.targetHeld⟩
      actionListed := ⟨actions, actionsGiven,
        (holds_list_iff actionsGiven).mp passes.actionHeld⟩
      runbook := passes.runbook
      stateVerified := passes.stateVerified
      sameHash := passes.sameHash
      sameTool := passes.sameTool
      sameTarget := passes.sameTarget }

/-- An envelope that keeps the promise is strict. -/
theorem ChainPromise.strict
    (promise :
      ChainPromise request tool now envelope verification envelopeHash) :
    StrictEnvelope envelope where
  signed := promise.signed
  hashEndsInDigit other given := by
    rw [promise.hashGiven, Option.some.injEq, Json.str.injEq] at given
    exact given ▸ isHashRef_getLast? promise.hashExact
  targetsAreList := by
    obtain ⟨targets, given, -⟩ := promise.targetListed
    exact ⟨targets, given⟩
  actionsAreList := by
    obtain ⟨actions, given, -⟩ := promise.actionListed
    exact ⟨actions, given⟩

/--
Returning `None` proves the promise of a request exactly when the envelopes
that pass the checks of the chain are strict.
-/
theorem checkSafetyChain_sound_iff (request : ToolCallRequest)
    (tool : ToolDefinition) (now : PyDateTime) :
    (checkSafetyChain request tool now = .ok none →
        Promised request tool now) ↔
      ∀ envelope verification envelopeHash,
        ChainPasses request tool now envelope verification envelopeHash →
          StrictEnvelope envelope := by
  rw [checkSafetyChain_eq_none_iff]
  constructor
  · intro sound envelope verification envelopeHash passes
    obtain ⟨other, otherVerification, otherHash, promise⟩ :=
      sound ⟨envelope, verification, envelopeHash, passes⟩
    have same : other = envelope :=
      Option.some.inj (promise.presented.symm.trans passes.presented)
    exact same ▸ promise.strict
  · rintro strict ⟨envelope, verification, envelopeHash, passes⟩
    exact ⟨envelope, verification, envelopeHash,
      passes.promise (strict _ _ _ passes)⟩

end Soundness

section Counterexample

attribute [local instance] Reference.runtime

/-- An envelope without a signature passes the chain. -/
theorem checkSafetyChain_not_sound :
    ¬ ∀ (request : ToolCallRequest) (tool : ToolDefinition)
        (now : PyDateTime), now.isAware = true →
      checkSafetyChain request tool now = .ok none →
        Promised request tool now := by
  intro sound
  have passes : checkSafetyChain
      (Scenario.request increaseMonitoringTool "soc-analyst" none)
      increaseMonitoringTool Scenario.noon = .ok none :=
    checkSafetyChain_eq_none_iff.mpr ⟨_, _, _,
      executeRequest_passes Scenario.envelopeHash_shaped
        Scenario.endOfYear_notPassed⟩
  obtain ⟨envelope, _, _, promise⟩ := sound
    (Scenario.request increaseMonitoringTool "soc-analyst" none)
    increaseMonitoringTool Scenario.noon rfl passes
  obtain ⟨signature, signed, -⟩ := promise.signed
  have presented := Option.some.inj promise.presented
  rw [← presented] at signed
  have unsigned : (sealedEnvelope increaseMonitoringTool Scenario.target
      Scenario.envelopeHash Scenario.endOfYear).get? "signature" = none :=
    rfl
  rw [unsigned] at signed
  cases signed

end Counterexample

end ArgosCyberTools.McpGateway
