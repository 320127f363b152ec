import ArgosCyberTools.Policies.PlanText

/-!
# What a hash binds

The plan text of an envelope-bound plan determines the envelope hash, the
target and the tool; the signature text determines the rendering of the
approval id and the plan hash, because a plan hash has a fixed length.  Over
messages on which SHA-256 has no collision, equal hashes therefore come from
equal contexts.
-/

namespace ArgosCyberTools.Policies

open Python Coding ToolCatalog

/-- The length of `sha256:` and 64 digits. -/
def hashRefLength : Nat := 71

section Plans

variable [PyRuntime]

/-- Encoding the canonical text never fails. -/
theorem computePlanHash_eq (tool target action : PyStr)
    (params : Option Document) :
    computePlanHash tool target action params =
      .ok ("sha256:" ++
        sha256Hex
          ((planText tool target action params).flatMap utf8Bytes)) := by
  have scalar : SurrogateFree (planText tool target action params) :=
    surrogateFree_dumps _
  rw [computePlanHash, PyStr.encode_of_surrogateFree scalar]
  rfl

theorem computePlanHash_length {tool target action planHash : PyStr}
    {params : Option Document}
    (computed :
      computePlanHash tool target action params = .ok planHash) :
    planHash.length = hashRefLength := by
  rw [computePlanHash_eq, Except.ok.injEq] at computed
  rw [← computed, List.length_append, length_sha256Hex]
  rfl

theorem surrogateFree_of_computePlanHash {tool target action planHash : PyStr}
    {params : Option Document}
    (computed :
      computePlanHash tool target action params = .ok planHash) :
    SurrogateFree planHash := by
  rw [computePlanHash_eq, Except.ok.injEq] at computed
  rw [← computed, surrogateFree_append]
  exact ⟨surrogateFree_ofString _, surrogateFree_hexdigest _⟩

omit [PyRuntime] in
/-- The plan the gateway hashes for an envelope. -/
theorem PlainPlan.envelope {tool target action hash : PyStr}
    (toolScalar : SurrogateFree tool) (targetScalar : SurrogateFree target)
    (actionScalar : SurrogateFree action) (hashScalar : SurrogateFree hash) :
    PlainPlan tool target action
      (some [("safety_envelope_hash", .str hash)]) where
  tool := toolScalar
  target := targetScalar
  action := actionScalar
  params := by
    apply Json.Plain.dict
    · exact List.nodup_singleton _
    · simp
    · simpa using Json.Plain.str hashScalar

/-- The canonical text binds the envelope, the target and the tool. -/
theorem planText_envelope_inj
    {tool otherTool target otherTarget action hash otherHash : PyStr}
    (plain : PlainPlan tool target action
      (some [("safety_envelope_hash", .str hash)]))
    (otherPlain : PlainPlan otherTool otherTarget action
      (some [("safety_envelope_hash", .str otherHash)]))
    (equal :
      planText tool target action
          (some [("safety_envelope_hash", .str hash)]) =
        planText otherTool otherTarget action
          (some [("safety_envelope_hash", .str otherHash)])) :
    hash = otherHash ∧ target = otherTarget ∧ tool = otherTool := by
  have same :=
    (plain.planDocument.dumps_eq_iff otherPlain.planDocument).mp equal
  obtain ⟨tools, targets, -, params⟩ := same_planDocument_iff.mp same
  refine ⟨?_, targets, tools⟩
  simpa [Json.same, Json.sameEntries, PyDict.lookupIn] using params

/-- Equal hashes of uncollided plan texts come from equal texts. -/
theorem planText_eq_of_computePlanHash_eq
    {tool otherTool target otherTarget action otherAction : PyStr}
    {params otherParams : Option Document} {messages : Set (List UInt8)}
    (collisionFree : Set.InjOn sha256 messages)
    (member :
      (planText tool target action params).flatMap utf8Bytes ∈ messages)
    (otherMember :
      (planText otherTool otherTarget otherAction otherParams).flatMap
        utf8Bytes ∈ messages)
    (equal :
      computePlanHash tool target action params =
        computePlanHash otherTool otherTarget otherAction otherParams) :
    planText tool target action params =
      planText otherTool otherTarget otherAction otherParams := by
  simp only [computePlanHash_eq, Except.ok.injEq,
    List.append_cancel_left_eq] at equal
  exact PyStr.utf8_injective
    (sha256Hex_injOn collisionFree member otherMember equal)

end Plans

section Signatures

variable [PyRuntime]

/-- The signature reference is a digest of the id and the plan hash. -/
theorem computeSignatureRef_eq_ok_iff {approvalId : Json}
    {planHash signatureRef : PyStr} :
    computeSignatureRef approvalId planHash = .ok signatureRef ↔
      SurrogateFree (signatureText approvalId planHash) ∧
        "sha256:" ++
            sha256Hex
              ((signatureText approvalId planHash).flatMap utf8Bytes) =
          signatureRef := by
  unfold computeSignatureRef
  simp only [bind_eq_ok_iff, PyStr.encode_eq_ok_iff, pure_eq_ok_iff]
  constructor
  · rintro ⟨_, ⟨scalar, rfl⟩, signed⟩
    exact ⟨scalar, signed⟩
  · rintro ⟨scalar, signed⟩
    exact ⟨_, ⟨scalar, rfl⟩, signed⟩

/-- Equal signatures over uncollided texts come from equal texts. -/
theorem signatureText_eq_of_computeSignatureRef_eq
    {approvalId otherId : Json} {planHash otherPlanHash : PyStr}
    {signatureRef : PyStr} {messages : Set (List UInt8)}
    (collisionFree : Set.InjOn sha256 messages)
    (member :
      (signatureText approvalId planHash).flatMap utf8Bytes ∈ messages)
    (otherMember :
      (signatureText otherId otherPlanHash).flatMap utf8Bytes ∈ messages)
    (signed :
      computeSignatureRef approvalId planHash = .ok signatureRef)
    (otherSigned :
      computeSignatureRef otherId otherPlanHash = .ok signatureRef) :
    signatureText approvalId planHash =
      signatureText otherId otherPlanHash := by
  obtain ⟨-, digest⟩ := computeSignatureRef_eq_ok_iff.mp signed
  obtain ⟨-, otherDigest⟩ := computeSignatureRef_eq_ok_iff.mp otherSigned
  rw [← otherDigest, List.append_cancel_left_eq] at digest
  exact PyStr.utf8_injective
    (sha256Hex_injOn collisionFree member otherMember digest)

/-- Plan hashes of one length leave no doubt where the id ends. -/
theorem signatureText_inj {approvalId otherId : Json}
    {planHash otherPlanHash : PyStr}
    (sameLength : planHash.length = otherPlanHash.length)
    (equal :
      signatureText approvalId planHash =
        signatureText otherId otherPlanHash) :
    approvalId.toStr = otherId.toStr ∧ planHash = otherPlanHash := by
  obtain ⟨front, planHashes⟩ := List.append_inj' equal sameLength
  exact ⟨List.append_cancel_right front, planHashes⟩

end Signatures

end ArgosCyberTools.Policies
