import ArgosCyberTools.AntiReplay.Interchange

/-!
# Edited approvals

A signature reference covers the approval id and the plan hash.  An approval
refused for its approver, its decision or its expiry can be edited in these
fields without touching what the signature covers, so under the plan hash it
was signed for some edit of it is accepted, and under any other none is.
-/

namespace ArgosCyberTools.AntiReplay

open Python ToolCatalog Policies McpGateway

/-- The refusals for the approver, the decision and the expiry. -/
def concernsFields : Rejection → Bool
  | .approverIsRequester => true
  | .approverIsExecutor => true
  | .notApproved _ => true
  | .expired _ _ => true
  | _ => false

/-- Some field differs, and the signature reference does not. -/
structure Edits (approval edited : JsonObject) : Prop where
  differs : ∃ key, edited.get? key ≠ approval.get? key
  keepsSignature :
    edited.get? "signature_ref" = approval.get? "signature_ref"

/-- The same call, with another approval. -/
def ConsumeCall.presenting (call : ConsumeCall) (edited : JsonObject) :
    ConsumeCall :=
  { call with approval := edited }

/-- The approval with these three fields written over. -/
def revised (approval : JsonObject) (approverId expiresAt : PyStr) :
    JsonObject :=
  ((approval.assign "approver_id" (.str approverId)).assign "decision"
    (.str "APPROVE")).assign "expires_at" (.str expiresAt)

theorem get?_revised_of_ne {approval : JsonObject}
    {approverId expiresAt key : PyStr} (notApprover : key ≠ "approver_id")
    (notDecision : key ≠ "decision") (notExpiry : key ≠ "expires_at") :
    (revised approval approverId expiresAt).get? key = approval.get? key := by
  rw [revised, PyDict.get?_assign_of_ne _ _ notExpiry,
    PyDict.get?_assign_of_ne _ _ notDecision,
    PyDict.get?_assign_of_ne _ _ notApprover]

/-- Someone who is neither of the two. -/
theorem exists_approver (requesterId executorId : PyStr) :
    ∃ approverId : PyStr, approverId ≠ requesterId ∧
      approverId ≠ executorId := by
  refine ⟨0x3A :: (requesterId ++ executorId), ?_, ?_⟩
  · intro same
    have lengths := congrArg List.length same
    simp only [List.length_cons, List.length_append] at lengths
    omega
  · intro same
    have lengths := congrArg List.length same
    simp only [List.length_cons, List.length_append] at lengths
    omega

section Edits

variable [PyRuntime]

/-- The approval is signed for this plan hash. -/
def SignedFor (approval : JsonObject) (planHash : PyStr) : Prop :=
  ∃ approvalId signatureRef, approval.get? "approval_id" = some approvalId ∧
    computeSignatureRef approvalId planHash = .ok signatureRef ∧
    approval.get? "signature_ref" = some (.str signatureRef)

/-- What is hashed for the signature of an approval under a plan hash. -/
def signedBytes (approval : JsonObject) (planHash : PyStr) :
    Set (List UInt8) :=
  {message | ∃ approvalId, approval.get? "approval_id" = some approvalId ∧
    message = (signatureText approvalId planHash).flatMap utf8Bytes}

/-- The store refuses the call for one of the fields. -/
def RefusedForFields (call : ConsumeCall) (store : ApprovalStore) : Prop :=
  ∃ why, concernsFields why = true ∧
    (call.onMemory store).1 = .error (.rejected why)

def Accepts (store : ApprovalStore) (call : ConsumeCall) : Prop :=
  (call.onMemory store).1 = .ok ()

/-- The hashes of the approval, signed for a plan hash, and of an edit. -/
def Uncollided (call : ConsumeCall) (signedHash : PyStr)
    (edited : JsonObject) : Prop :=
  Set.InjOn sha256
    (signedBytes call.approval signedHash ∪
      signedBytes edited call.currentPlanHash)

/-- Every edit is refused under the same arguments. -/
def NoEditAccepted (call : ConsumeCall) (signedHash : PyStr)
    (store : ApprovalStore) : Prop :=
  ∀ edited, Edits call.approval edited → Uncollided call signedHash edited →
    ¬ Accepts store (call.presenting edited)

/-- Everything the store checks of a call but the signature. -/
structure PassesUnsigned (call : ConsumeCall) (store : ApprovalStore) :
    Prop where
  unspent : ∃ approvalId key,
    call.approval.get? "approval_id" = some approvalId ∧
      approvalId.hashKey = .ok key ∧ key ∉ store.consumed
  independent : ∃ approverId,
    call.approval.get? "approver_id" = some approverId ∧
      approverId ≠ .str call.requesterId ∧ approverId ≠ .str call.executorId
  approved : call.approval.get? "decision" = some (.str "APPROVE")
  unexpired : ∃ text expiresAt,
    call.approval.get? "expires_at" = some (.str text) ∧
      PyRuntime.fromisoformat text = some expiresAt ∧
      call.now.gt expiresAt = .ok false

variable {call : ConsumeCall} {store : ApprovalStore} {signedHash : PyStr}
  {edited : JsonObject}

/-- A call is accepted if it is signed and passes the other checks. -/
theorem accepts_iff :
    Accepts store call ↔
      SignedFor call.approval call.currentPlanHash ∧
        PassesUnsigned call store := by
  have accepted : Accepts store call ↔
      ∃ final, call.onMemory store = (.ok (), final) :=
    ⟨fun answered => ⟨_, Prod.ext answered rfl⟩,
      fun ⟨_, ran⟩ => congrArg Prod.fst ran⟩
  simp only [accepted, ConsumeCall.onMemory,
    ApprovalStore.validateAndConsume_eq_ok_iff]
  constructor
  · rintro ⟨_, approvalId, key, valid, hashed, unspent, rfl⟩
    obtain ⟨signatureRef, signed, carried⟩ := valid.signed
    exact ⟨⟨approvalId, signatureRef, valid.identified, signed, carried⟩,
      { unspent := ⟨approvalId, key, valid.identified, hashed, unspent⟩
        independent := valid.independent
        approved := valid.approved
        unexpired := valid.unexpired }⟩
  · rintro ⟨⟨approvalId, signatureRef, identified, signed, carried⟩, passes⟩
    obtain ⟨otherId, key, otherIdentified, hashed, unspent⟩ := passes.unspent
    obtain rfl := Option.some.inj (identified.symm.trans otherIdentified)
    exact ⟨_, approvalId, key,
      { identified := identified
        independent := passes.independent
        approved := passes.approved
        unexpired := passes.unexpired
        signed := ⟨signatureRef, signed, carried⟩ },
      hashed, unspent, rfl⟩

/-- A call refused for its fields presents an id that is not consumed. -/
theorem RefusedForFields.unspent (refused : RefusedForFields call store) :
    ∃ approvalId key, call.approval.get? "approval_id" = some approvalId ∧
      approvalId.hashKey = .ok key ∧ key ∉ store.consumed := by
  obtain ⟨why, ofFields, raised⟩ := refused
  obtain ⟨final, ended⟩ : ∃ final,
      call.onMemory store = (.error (.rejected why), final) :=
    ⟨_, Prod.ext raised rfl⟩
  simp only [ConsumeCall.onMemory, ApprovalStore.validateAndConsume,
    PyM.bind_apply_eq_error_iff, PyM.ofExcept_apply, PyM.get_apply,
    PyM.set_apply, Prod.mk.injEq, readKey_eq_ok_iff, mapError_eq_ok_iff,
    raiseIf_eq_ok_iff, decide_eq_false_iff_not] at ended
  rcases ended with ⟨unread, -⟩ | ⟨approvalId, _, ⟨identified, rfl⟩,
    ⟨impossible, -⟩ | ⟨_, _, ⟨here, rfl⟩, ⟨unhashable, -⟩ |
      ⟨key, _, ⟨hashed, rfl⟩, ⟨replayed, -⟩ |
        ⟨_, _, ⟨unspent, rfl⟩, -⟩⟩⟩⟩
  · rw [readKey] at unread
    split at unread <;> cases unread
  · cases impossible
  · cases hashed : approvalId.hashKey with
    | error error => simp [hashed, Except.mapError] at unhashable
    | ok key => simp [hashed, Except.mapError] at unhashable
  · cases here
    rw [raiseIf] at replayed
    split_ifs at replayed
    cases replayed
    cases ofFields
  · cases here
    exact ⟨approvalId, key, identified, hashed, unspent⟩

/-- A call that would pass but for the expiry is refused for its fields. -/
theorem refused_of_expired {approvalId approverId : Json} {key : HashKey}
    {text : PyStr} {expiresAt : PyDateTime}
    (identified : call.approval.get? "approval_id" = some approvalId)
    (hashed : approvalId.hashKey = .ok key) (unspent : key ∉ store.consumed)
    (approver : call.approval.get? "approver_id" = some approverId)
    (notRequester : approverId ≠ .str call.requesterId)
    (notExecutor : approverId ≠ .str call.executorId)
    (approved : call.approval.get? "decision" = some (.str "APPROVE"))
    (hasExpiry : call.approval.get? "expires_at" = some (.str text))
    (parsed : PyRuntime.fromisoformat text = some expiresAt)
    (late : call.now.gt expiresAt = .ok true) :
    RefusedForFields call store := by
  have refused : validateApprovalFields call.approval call.currentPlanHash
      call.requesterId call.executorId call.now =
        .error (.rejected (.expired call.now expiresAt)) := by
    have notFirst := (Json.isStr_eq_false_iff _ _).mpr notRequester
    have notSecond := (Json.isStr_eq_false_iff _ _).mpr notExecutor
    have isApprove := (Json.isStr_iff (.str "APPROVE") "APPROVE").mpr rfl
    simp [validateApprovalFields, readKey, identified, approver, approved,
      hasExpiry, parse, parsed, late, raiseIf, notFirst, notSecond, isApprove,
      bind, Except.bind, Except.mapError]
  refine ⟨.expired call.now expiresAt, rfl, ?_⟩
  simp [ConsumeCall.onMemory, ApprovalStore.validateAndConsume, readKey,
    identified, hashed, unspent, refused, PyM.bind_apply, PyM.ofExcept_apply,
    PyM.get_apply, Except.mapError, raiseIf]

/-- Overwriting the three fields repairs what a call was refused for. -/
theorem passesUnsigned_revised (refused : RefusedForFields call store)
    (roundTrip : PyRuntime.fromisoformat (PyRuntime.isoformat call.now) =
      some call.now)
    {approverId : PyStr} (notRequester : approverId ≠ call.requesterId)
    (notExecutor : approverId ≠ call.executorId) :
    PassesUnsigned
      (call.presenting (revised call.approval approverId
        (PyRuntime.isoformat call.now)))
      store where
  unspent := by
    obtain ⟨approvalId, key, identified, hashed, unspent⟩ := refused.unspent
    refine ⟨approvalId, key, ?_, hashed, unspent⟩
    exact (get?_revised_of_ne (by decide) (by decide) (by decide)).trans
      identified
  independent := by
    refine ⟨.str approverId, ?_, ?_, ?_⟩
    · simp [ConsumeCall.presenting, revised, PyDict.get?_assign]
    · simpa [ConsumeCall.presenting] using notRequester
    · simpa [ConsumeCall.presenting] using notExecutor
  approved := by
    simp [ConsumeCall.presenting, revised, PyDict.get?_assign]
  unexpired := by
    refine ⟨_, call.now, PyDict.get?_assign_self _ _ _, roundTrip, ?_⟩
    simp [ConsumeCall.presenting, PyDateTime.gt]

theorem SignedFor.congr {approval : JsonObject} {planHash : PyStr}
    (signed : SignedFor approval planHash)
    (sameId : edited.get? "approval_id" = approval.get? "approval_id")
    (sameRef : edited.get? "signature_ref" = approval.get? "signature_ref") :
    SignedFor edited planHash := by
  obtain ⟨approvalId, signatureRef, identified, computed, carried⟩ := signed
  exact ⟨approvalId, signatureRef, sameId.trans identified, computed,
    sameRef.trans carried⟩

/-- Acceptance sees an approval through its fields alone. -/
theorem accepts_congr
    (same : ∀ key, edited.get? key = call.approval.get? key)
    (accepted : Accepts store (call.presenting edited)) :
    Accepts store call := by
  obtain ⟨signed, passes⟩ := accepts_iff.mp accepted
  refine accepts_iff.mpr ⟨?_, ?_⟩
  · exact signed.congr (same _).symm (same _).symm
  · exact
      { unspent := by
          simpa [ConsumeCall.presenting, same] using passes.unspent
        independent := by
          simpa [ConsumeCall.presenting, same] using passes.independent
        approved := by
          simpa [ConsumeCall.presenting, same] using passes.approved
        unexpired := by
          simpa [ConsumeCall.presenting, same] using passes.unexpired }

/-- Under the plan hash it was signed for, some edit is accepted. -/
theorem exists_accepted_edit (refused : RefusedForFields call store)
    (signed : SignedFor call.approval call.currentPlanHash)
    (roundTrip : PyRuntime.fromisoformat (PyRuntime.isoformat call.now) =
      some call.now) :
    ∃ edited, Edits call.approval edited ∧
      edited.get? "approval_id" = call.approval.get? "approval_id" ∧
      Accepts store (call.presenting edited) := by
  obtain ⟨approverId, notRequester, notExecutor⟩ :=
    exists_approver call.requesterId call.executorId
  have sameId : (revised call.approval approverId
      (PyRuntime.isoformat call.now)).get? "approval_id" =
        call.approval.get? "approval_id" :=
    get?_revised_of_ne (by decide) (by decide) (by decide)
  have sameRef : (revised call.approval approverId
      (PyRuntime.isoformat call.now)).get? "signature_ref" =
        call.approval.get? "signature_ref" :=
    get?_revised_of_ne (by decide) (by decide) (by decide)
  have accepted : Accepts store (call.presenting (revised call.approval
      approverId (PyRuntime.isoformat call.now))) :=
    accepts_iff.mpr ⟨signed.congr sameId sameRef,
      passesUnsigned_revised refused roundTrip notRequester notExecutor⟩
  refine ⟨_, ⟨?_, sameRef⟩, sameId, accepted⟩
  by_contra none
  have unchanged := accepts_congr (not_exists_not.mp none) accepted
  obtain ⟨why, -, raised⟩ := refused
  cases raised.symm.trans unchanged

theorem mem_signedBytes {approval : JsonObject} {approvalId : Json}
    (planHash : PyStr)
    (identified : approval.get? "approval_id" = some approvalId) :
    (signatureText approvalId planHash).flatMap utf8Bytes ∈
      signedBytes approval planHash :=
  ⟨approvalId, identified, rfl⟩

theorem signedBytes_congr {approval : JsonObject} {planHash : PyStr}
    (sameId : edited.get? "approval_id" = approval.get? "approval_id") :
    signedBytes edited planHash = signedBytes approval planHash := by
  simp only [signedBytes, sameId]

theorem signedBytes_subsingleton (approval : JsonObject) (planHash : PyStr) :
    (signedBytes approval planHash).Subsingleton := by
  rintro _ ⟨approvalId, identified, rfl⟩ _ ⟨otherId, otherIdentified, rfl⟩
  rw [Option.some.inj (identified.symm.trans otherIdentified)]

/-- Both ids are rendered alike. -/
def SameRendering (approval edited : JsonObject) : Prop :=
  ∃ approvalId otherId, approval.get? "approval_id" = some approvalId ∧
    edited.get? "approval_id" = some otherId ∧
    otherId.toStr = approvalId.toStr

/-- The signature fits an edit if the plan and the rendered id are kept. -/
theorem signedFor_edit_iff (signed : SignedFor call.approval signedHash)
    (sameLength : call.currentPlanHash.length = signedHash.length)
    (edits : Edits call.approval edited)
    (uncollided : Uncollided call signedHash edited) :
    SignedFor edited call.currentPlanHash ↔
      call.currentPlanHash = signedHash ∧
        SameRendering call.approval edited := by
  obtain ⟨approvalId, signatureRef, identified, computed, carried⟩ := signed
  have kept := edits.keepsSignature.trans carried
  constructor
  · rintro ⟨otherId, otherRef, otherIdentified, otherComputed, otherCarried⟩
    have sameRef : otherRef = signatureRef := by
      simpa [kept] using otherCarried.symm
    subst sameRef
    have texts := signatureText_eq_of_computeSignatureRef_eq uncollided
      (.inl (mem_signedBytes signedHash identified))
      (.inr (mem_signedBytes call.currentPlanHash otherIdentified)) computed
      otherComputed
    obtain ⟨renderings, planHashes⟩ := signatureText_inj sameLength.symm texts
    exact ⟨planHashes.symm, approvalId, otherId, identified, otherIdentified,
      renderings.symm⟩
  · rintro ⟨samePlan, heldId, otherId, held, otherIdentified, renderings⟩
    obtain rfl := Option.some.inj (identified.symm.trans held)
    have texts : signatureText otherId signedHash =
        signatureText approvalId signedHash := by
      rw [signatureText, signatureText, renderings]
    refine ⟨otherId, signatureRef, otherIdentified, ?_, kept⟩
    rw [samePlan, computeSignatureRef, texts]
    exact computed

/--
An approval refused for its fields can be edited into an accepted one
exactly under the plan hash it was signed for (plan hashes have one length);
an edit is accepted if it keeps the rendering of the id and passes whatever
the signature does not cover.
-/
theorem edits_refused_iff
    (signed : SignedFor call.approval signedHash)
    (sameLength : call.currentPlanHash.length = signedHash.length)
    (roundTrip : PyRuntime.fromisoformat (PyRuntime.isoformat call.now) =
      some call.now)
    (refused : RefusedForFields call store) :
    (NoEditAccepted call signedHash store ↔
      call.currentPlanHash ≠ signedHash) ∧
    ∀ edited, Edits call.approval edited →
      Uncollided call signedHash edited →
        (Accepts store (call.presenting edited) ↔
          (call.currentPlanHash = signedHash ∧
            SameRendering call.approval edited) ∧
          PassesUnsigned (call.presenting edited) store) := by
  have each : ∀ edited, Edits call.approval edited →
      Uncollided call signedHash edited →
        (Accepts store (call.presenting edited) ↔
          (call.currentPlanHash = signedHash ∧
            SameRendering call.approval edited) ∧
          PassesUnsigned (call.presenting edited) store) := by
    intro edited edits uncollided
    rw [accepts_iff, ← signedFor_edit_iff signed sameLength edits uncollided]
    rfl
  refine ⟨⟨?_, ?_⟩, each⟩
  · rintro never rfl
    obtain ⟨edited, edits, sameId, accepted⟩ :=
      exists_accepted_edit refused signed roundTrip
    refine never edited edits ?_ accepted
    -- The edit signs the text of the original, which cannot collide.
    rw [Uncollided, signedBytes_congr sameId, Set.union_self]
    exact (signedBytes_subsingleton _ _).injOn _
  · intro otherPlan edited edits uncollided accepted
    exact otherPlan ((each edited edits uncollided).mp accepted).1.1

end Edits

section Example

attribute [local instance] Reference.runtime

def startOfYear : PyStr := "2026-01-01T00:00:00+00:00"

/-- The instant `startOfYear` names. -/
def newYear : PyDateTime where
  wallClock := Reference.wallClockOf 2026 1 1 0 0 0
  utcOffset := some 0
  inRange := by decide

/-- The approval `apr-1`, presented in August. -/
def augustCall (planHash timestamp signatureRef : PyStr) : ConsumeCall :=
  signedCall ⟨.str "apr-1", planHash⟩ timestamp signatureRef Scenario.noon

theorem augustCall_refused (planHash signatureRef : PyStr) :
    RefusedForFields (augustCall planHash startOfYear signatureRef)
      ApprovalStore.fresh := by
  have late : Scenario.noon.gt newYear = .ok true :=
    PyDateTime.gt_eq_ok_iff.mpr ⟨rfl, by decide +kernel⟩
  refine @refused_of_expired _ _ _ (.str "apr-1") (.str "approver")
    (.text "apr-1") startOfYear newYear rfl rfl (Finset.notMem_empty _) rfl
    ?_ ?_ rfl rfl ?_ late
  · simp [augustCall, signedCall]
  · simp [augustCall, signedCall, executorId]
  · decide +kernel

theorem augustCall_signed {planHash timestamp signatureRef : PyStr}
    (signed : computeSignatureRef (.str "apr-1") planHash =
      .ok signatureRef) :
    SignedFor (augustCall planHash timestamp signatureRef).approval
      planHash :=
  ⟨.str "apr-1", signatureRef, rfl, signed, rfl⟩

/-- An approval that expired in January can be edited into a valid one. -/
theorem edits_refused_iff_of_expired :
    ∃ call signedHash, SignedFor call.approval signedHash ∧
      RefusedForFields call ApprovalStore.fresh ∧
      ¬ NoEditAccepted call signedHash ApprovalStore.fresh := by
  obtain ⟨planHash, signatureRef, -, signed⟩ :=
    Scenario.exists_signed_plan isolateKubernetesWorkloadTool
      (surrogateFree_ofString "apr-1")
  have isSigned : SignedFor
      (augustCall planHash startOfYear signatureRef).approval planHash :=
    augustCall_signed signed
  have refused := augustCall_refused planHash signatureRef
  have roundTrip : PyRuntime.fromisoformat
      (PyStr.ofString (PyRuntime.isoformat Scenario.noon)) =
        some Scenario.noon := by
    decide +kernel
  refine ⟨_, planHash, isSigned, refused, ?_⟩
  intro never
  exact (edits_refused_iff isSigned rfl roundTrip refused).1.mp never rfl

/-- Its expiry is moved to December, under the same signature. -/
theorem expired_approval_revived :
    ∃ planHash signatureRef,
      SignedFor (augustCall planHash startOfYear signatureRef).approval
          planHash ∧
        RefusedForFields (augustCall planHash startOfYear signatureRef)
          ApprovalStore.fresh ∧
        Edits (augustCall planHash startOfYear signatureRef).approval
          (augustCall planHash Scenario.endOfYear signatureRef).approval ∧
        Accepts ApprovalStore.fresh
          (augustCall planHash Scenario.endOfYear signatureRef) := by
  obtain ⟨planHash, signatureRef, -, signed⟩ :=
    Scenario.exists_signed_plan isolateKubernetesWorkloadTool
      (surrogateFree_ofString "apr-1")
  have carried (timestamp : PyStr) :
      (augustCall planHash timestamp signatureRef).approval.get?
        "signature_ref" = some (.str signatureRef) := rfl
  have expiry (timestamp : PyStr) :
      (augustCall planHash timestamp signatureRef).approval.get?
        "expires_at" = some (.str timestamp) := rfl
  refine ⟨planHash, signatureRef, augustCall_signed signed,
    augustCall_refused planHash signatureRef, ⟨⟨"expires_at", ?_⟩,
      (carried _).trans (carried _).symm⟩, ?_⟩
  · have later : PyStr.ofString "2026-12-31T00:00:00+00:00" ≠
        "2026-01-01T00:00:00+00:00" := by
      decide
    rw [expiry, expiry, ne_eq, Option.some.injEq, Json.str.injEq]
    exact later
  · have notRequester : PyStr.ofString "approver" ≠ "requester" := by decide
    have notExecutor : PyStr.ofString "approver" ≠ executorId := by decide
    have valid := signedApproval_valid signed notRequester notExecutor
      Scenario.endOfYear_notPassed
    have unspent : HashKey.text "apr-1" ∉ ApprovalStore.fresh.consumed :=
      Finset.notMem_empty _
    exact accepts_iff.mpr ⟨augustCall_signed signed,
      { unspent := ⟨.str "apr-1", _, rfl, rfl, unspent⟩
        independent := valid.independent
        approved := valid.approved
        unexpired := valid.unexpired }⟩

end Example

end ArgosCyberTools.AntiReplay
