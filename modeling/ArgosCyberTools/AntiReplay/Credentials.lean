import ArgosCyberTools.McpGateway.WellFormed
import ArgosCyberTools.Transition.Consumer

/-!
# Signed credentials

A call of `validate_and_consume` presents an approval id together with the
plan hash it is checked under; the signature reference covers the rendering
of both.  Whatever store serves the calls, as long as its acceptances pass
the shared field checks, no signature is accepted twice over a set of such
pairs exactly when the store tells them apart as the signature does.
-/

namespace ArgosCyberTools.AntiReplay

open Python Policies McpGateway Transition

/-! ## Calls of `validate_and_consume` -/

/-- The arguments of one call. -/
structure ConsumeCall where
  approval : JsonObject
  currentPlanHash : PyStr
  requesterId : PyStr
  executorId : PyStr
  now : PyDateTime

/-- A call and how it ended. -/
structure ConsumeEvent where
  call : ConsumeCall
  outcome : Except ApprovalError Unit

/-- What a signature reference is computed from. -/
structure Credential where
  approvalId : Json
  planHash : PyStr

namespace ConsumeEvent

/-- The approval id of a call, with the plan hash it is checked under. -/
def presented (event : ConsumeEvent) : Option Credential :=
  (event.call.approval.get? "approval_id").map fun approvalId =>
    ⟨approvalId, event.call.currentPlanHash⟩

/-- The `signature_ref` the approval of a call carries. -/
def signatureRef (event : ConsumeEvent) : Option Json :=
  event.call.approval.get? "signature_ref"

def Accepted (event : ConsumeEvent) : Prop := event.outcome = .ok ()

/-- Two accepted calls carry different signature references. -/
def SignedApart (first second : ConsumeEvent) : Prop :=
  first.Accepted → second.Accepted →
    first.signatureRef ≠ second.signatureRef

end ConsumeEvent

section Signatures

variable [PyRuntime]

/-- The text a credential is signed as. -/
def Credential.text (credential : Credential) : PyStr :=
  signatureText credential.approvalId credential.planHash

/-- The messages hashed for the signatures of a run. -/
def signedMessages (events : List ConsumeEvent) : Set (List UInt8) :=
  {message | ∃ event ∈ events, ∃ credential,
    event.presented = some credential ∧
      message = credential.text.flatMap utf8Bytes}

/--
On every run over these credentials whose signed messages do not collide,
accepted calls carry different signature references.
-/
def SignedOnce {State : Type}
    (step : State → ConsumeEvent → State → Prop)
    (credentials : Set Credential) : Prop :=
  ∀ initial events final, Run step initial events final →
    (∀ event ∈ events, ∀ credential,
      event.presented = some credential → credential ∈ credentials) →
    Set.InjOn sha256 (signedMessages events) →
      events.Pairwise ConsumeEvent.SignedApart

/-! ## Acceptance passes the shared checks -/

/-- The shared checks pass on a call, under this id. -/
def ConsumeEvent.Valid (event : ConsumeEvent) (approvalId : Json) : Prop :=
  FieldsValid event.call.approval event.call.currentPlanHash
    event.call.requesterId event.call.executorId event.call.now approvalId

/-- A call carries the signature of the credential it presents. -/
structure ConsumeEvent.SignedBy (event : ConsumeEvent)
    (credential : Credential) (signatureRef : PyStr) : Prop where
  presents : event.presented = some credential
  signed :
    computeSignatureRef credential.approvalId credential.planHash =
      .ok signatureRef
  carries : event.signatureRef = some (.str signatureRef)

theorem ConsumeEvent.Valid.presents {event : ConsumeEvent}
    {approvalId : Json} (valid : event.Valid approvalId) :
    event.presented = some ⟨approvalId, event.call.currentPlanHash⟩ := by
  rw [ConsumeEvent.presented, FieldsValid.identified valid]
  rfl

theorem ConsumeEvent.Valid.text_scalar {event : ConsumeEvent}
    {approvalId : Json} (valid : event.Valid approvalId) :
    SurrogateFree (signatureText approvalId event.call.currentPlanHash) := by
  obtain ⟨signatureRef, signed, -⟩ := FieldsValid.signed valid
  exact (computeSignatureRef_eq_ok_iff.mp signed).1

theorem ConsumeEvent.Valid.exists_signedBy {event : ConsumeEvent}
    {approvalId : Json} (valid : event.Valid approvalId) :
    ∃ credential signatureRef, event.SignedBy credential signatureRef := by
  obtain ⟨signatureRef, signed, carries⟩ := FieldsValid.signed valid
  exact ⟨_, signatureRef, valid.presents, signed, carries⟩

/-- The signature depends on the text alone. -/
theorem ConsumeEvent.SignedBy.signatureRef_eq {first second : ConsumeEvent}
    {credential other : Credential} {signatureRef otherRef : PyStr}
    (signedBy : first.SignedBy credential signatureRef)
    (otherSignedBy : second.SignedBy other otherRef)
    (texts : credential.text = other.text) :
    first.signatureRef = second.signatureRef := by
  obtain ⟨-, digest⟩ := computeSignatureRef_eq_ok_iff.mp signedBy.signed
  obtain ⟨-, otherDigest⟩ :=
    computeSignatureRef_eq_ok_iff.mp otherSignedBy.signed
  have refs : signatureRef = otherRef := by
    rw [← digest, ← otherDigest, ← Credential.text, texts, Credential.text]
  rw [signedBy.carries, otherSignedBy.carries, refs]

/-- Without a collision, the text depends on the signature alone. -/
theorem ConsumeEvent.SignedBy.text_eq {first second : ConsumeEvent}
    {credential other : Credential} {signatureRef otherRef : PyStr}
    {events : List ConsumeEvent}
    (signedBy : first.SignedBy credential signatureRef)
    (otherSignedBy : second.SignedBy other otherRef)
    (member : first ∈ events) (otherMember : second ∈ events)
    (collisionFree : Set.InjOn sha256 (signedMessages events))
    (sameRef : first.signatureRef = second.signatureRef) :
    credential.text = other.text := by
  have refs : signatureRef = otherRef := by
    simpa [signedBy.carries, otherSignedBy.carries] using sameRef
  subst refs
  exact signatureText_eq_of_computeSignatureRef_eq collisionFree
    ⟨first, member, credential, signedBy.presents, rfl⟩
    ⟨second, otherMember, other, otherSignedBy.presents, rfl⟩
    signedBy.signed otherSignedBy.signed

/-- Some timestamp can be read. -/
def ReadsTimestamps : Prop :=
  ∃ timestamp moment, PyRuntime.fromisoformat timestamp = some moment

/-- A call that presents a credential under its own signature. -/
def signedCall (credential : Credential)
    (timestamp signatureRef : PyStr) (now : PyDateTime) : ConsumeCall where
  approval :=
    signedApproval credential.approvalId "approver" timestamp signatureRef
  currentPlanHash := credential.planHash
  requesterId := "requester"
  executorId := executorId
  now := now

theorem signedCall_valid {credential : Credential}
    {timestamp signatureRef : PyStr} {now : PyDateTime}
    (signed :
      computeSignatureRef credential.approvalId credential.planHash =
        .ok signatureRef)
    (alive : NotPassed now timestamp) (outcome : Except ApprovalError Unit) :
    (ConsumeEvent.mk (signedCall credential timestamp signatureRef now)
      outcome).Valid credential.approvalId := by
  have notRequester : ("approver" : PyStr) ≠ "requester" := by decide
  have notExecutor : ("approver" : PyStr) ≠ executorId := by decide
  exact signedApproval_valid signed notRequester notExecutor alive

/-- Every credential that can be signed is presented by a valid call. -/
theorem exists_valid_call (readable : ReadsTimestamps)
    {credential : Credential} (scalar : SurrogateFree credential.text) :
    ∃ call : ConsumeCall, ∀ outcome,
      (ConsumeEvent.mk call outcome).Valid credential.approvalId ∧
        (ConsumeEvent.mk call outcome).presented = some credential := by
  obtain ⟨timestamp, moment, parsed⟩ := readable
  obtain ⟨signatureRef, signed⟩ : ∃ signatureRef,
      computeSignatureRef credential.approvalId credential.planHash =
        .ok signatureRef :=
    ⟨_, computeSignatureRef_eq_ok_iff.mpr ⟨scalar, rfl⟩⟩
  have alive : NotPassed moment timestamp :=
    ⟨moment, parsed, PyDateTime.gt_eq_ok_iff.mpr ⟨rfl, by simp⟩⟩
  refine ⟨signedCall credential timestamp signatureRef moment, fun outcome => ?_⟩
  have valid := signedCall_valid signed alive outcome
  exact ⟨valid, valid.presents⟩

/-- A store as a consumer whose acceptances passed the shared checks. -/
structure CheckedConsumer (State Key : Type) extends
    Consumer State ConsumeEvent Credential Key where
  presented_eq : presented = ConsumeEvent.presented
  accepted_eq : Accepted = ConsumeEvent.Accepted
  checked {source target : State} {event : ConsumeEvent} :
    step source event target → event.Accepted →
      ∃ approvalId, event.Valid approvalId

namespace CheckedConsumer

variable {State Key : Type} (consumer : CheckedConsumer State Key)
  {initial final : State} {events : List ConsumeEvent}

theorem signedBy_of_accepted (run : Run consumer.step initial events final) :
    ∀ event ∈ events, event.Accepted →
      ∃ credential signatureRef, event.SignedBy credential signatureRef := by
  refine run.forall_labels (fun _ => True)
    (fun event => event.Accepted →
      ∃ credential signatureRef, event.SignedBy credential signatureRef)
    ?_ trivial
  intro source event target _ step
  refine ⟨fun accepted => ?_, trivial⟩
  obtain ⟨approvalId, valid⟩ := consumer.checked step accepted
  exact valid.exists_signedBy

/-- Distinct texts are signed distinctly, unless their digests collide. -/
theorem pairwise_signedApart
    (run : Run consumer.step initial events final)
    (collisionFree : Set.InjOn sha256 (signedMessages events))
    (apart : events.Pairwise (consumer.Apart Credential.text)) :
    events.Pairwise ConsumeEvent.SignedApart := by
  have signedBy := consumer.signedBy_of_accepted run
  refine apart.imp_of_mem ?_
  intro first second firstMember secondMember unlike firstAccepted
    secondAccepted sameRef
  obtain ⟨credential, _, firstSigned⟩ :=
    signedBy first firstMember firstAccepted
  obtain ⟨other, _, secondSigned⟩ :=
    signedBy second secondMember secondAccepted
  rw [Consumer.Apart, consumer.accepted_eq, consumer.presented_eq] at unlike
  exact unlike firstAccepted secondAccepted credential other
    firstSigned.presents secondSigned.presents
    (firstSigned.text_eq secondSigned firstMember secondMember collisionFree
      sameRef)

/-- Two events of one signature text sign one message. -/
theorem collisionFree_of_text_eq {first second : ConsumeEvent}
    {credential other : Credential}
    (presents : first.presented = some credential)
    (otherPresents : second.presented = some other)
    (texts : credential.text = other.text) :
    Set.InjOn sha256 (signedMessages [first, second]) := by
  have one : signedMessages [first, second] ⊆
      {credential.text.flatMap utf8Bytes} := by
    rintro _ ⟨event, member, presented, isPresented, rfl⟩
    simp only [List.mem_cons, List.not_mem_nil, or_false] at member
    rcases member with rfl | rfl
    · cases presents.symm.trans isPresented
      rfl
    · cases otherPresents.symm.trans isPresented
      rw [texts]
      rfl
  exact (Set.subsingleton_singleton.anti one).injOn _

/-- Signatures differ over credentials that the store tells apart. -/
theorem signedOnce_iff {credentials : Set Credential} :
    SignedOnce consumer.step credentials ↔
      consumer.Agrees Credential.text credentials := by
  constructor
  · intro once credential drawn other otherDrawn passes otherPasses texts
    by_contra unlike
    obtain ⟨first, second, final, run, presents, otherPresents, accepted,
      otherAccepted⟩ :=
      consumer.exists_two_acceptances passes otherPasses unlike
    rw [consumer.presented_eq] at presents otherPresents
    rw [consumer.accepted_eq] at accepted otherAccepted
    have apart := once _ _ _ run ?_
      (collisionFree_of_text_eq presents otherPresents texts)
    · have signedBy := consumer.signedBy_of_accepted run
      obtain ⟨_, _, firstSigned⟩ := signedBy first (by simp) accepted
      obtain ⟨_, _, secondSigned⟩ := signedBy second (by simp) otherAccepted
      cases presents.symm.trans firstSigned.presents
      cases otherPresents.symm.trans secondSigned.presents
      exact List.rel_of_pairwise_cons apart (List.mem_singleton_self second)
        accepted otherAccepted
        (firstSigned.signatureRef_eq secondSigned texts)
    · intro event member presented isPresented
      simp only [List.mem_cons, List.not_mem_nil, or_false] at member
      rcases member with rfl | rfl
      · cases presents.symm.trans isPresented
        exact drawn
      · cases otherPresents.symm.trans isPresented
        exact otherDrawn
  · intro agrees initial events final run draws collisionFree
    refine consumer.pairwise_signedApart run collisionFree
      (consumer.pairwise_apart agrees run ?_)
    intro event member credential presented
    rw [consumer.presented_eq] at presented
    exact draws event member credential presented

end CheckedConsumer

end Signatures

end ArgosCyberTools.AntiReplay
