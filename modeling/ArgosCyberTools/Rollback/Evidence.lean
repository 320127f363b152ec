import ArgosCyberTools.Rollback.Inverse
import ArgosCyberTools.Rollback.SharedStore

/-!
# Records as evidence

The hash of a record covers its payload.  Every operation builds its record
around the payload it hashed; `mark_rolled_back` changes the payload of a
record and keeps its hash.
-/

namespace ArgosCyberTools.Rollback

open Python ToolCatalog Executors Transition

/-! ## The parts of a record -/

/-- The keys of the envelope. -/
def envelopeKeys : List PyStr :=
  ["id", "schema_version", "observed_at", "producer", "classification",
    "run_id", "payload_hash"]

/-- A record without the keys of its envelope. -/
def payloadOf (record : JsonObject) : Document :=
  record.entries.filter fun entry => entry.1 ∉ envelopeKeys

/-- The values of an envelope that vary from record to record. -/
structure EnvelopeFields where
  messageId : PyStr
  observedAt : PyStr
  producer : PyStr
  runId : PyStr

def EnvelopeFields.entries (envelope : EnvelopeFields) (payloadHash : PyStr) :
    Document :=
  [("id", .str envelope.messageId), ("schema_version", .str "1.0.0"),
    ("observed_at", .str envelope.observedAt),
    ("producer", .str envelope.producer), ("classification", .str "internal"),
    ("run_id", .str envelope.runId), ("payload_hash", .str payloadHash)]

/-- The values of a payload, but for its status. -/
structure PayloadFields where
  actionId : Json
  idempotencyKey : Json
  dryRun : Json
  startedAt : Json
  endedAt : Json
  changedResources : Json
  verification : Json

def PayloadFields.entries (payload : PayloadFields) (status : PyStr) :
    Document :=
  [("action_id", payload.actionId),
    ("idempotency_key", payload.idempotencyKey),
    ("dry_run", payload.dryRun), ("started_at", payload.startedAt),
    ("ended_at", payload.endedAt), ("status", .str status),
    ("changed_resources", payload.changedResources),
    ("verification", payload.verification)]

theorem payloadOf_of_entries {record : JsonObject} {envelope : EnvelopeFields}
    {payloadHash : PyStr} {payload : Document}
    (entries : record.entries = envelope.entries payloadHash ++ payload)
    (disjoint : ∀ entry ∈ payload, entry.1 ∉ envelopeKeys) :
    payloadOf record = payload := by
  rw [payloadOf, entries, List.filter_append,
    List.filter_eq_self.mpr fun entry member =>
      decide_eq_true (disjoint entry member)]
  simp [EnvelopeFields.entries, envelopeKeys]

theorem get?_payload_hash {record : JsonObject} {envelope : EnvelopeFields}
    {payloadHash : PyStr} {payload : Document}
    (entries : record.entries = envelope.entries payloadHash ++ payload) :
    record.get? "payload_hash" = some (.str payloadHash) := by
  rw [PyDict.get?, entries]
  simp [EnvelopeFields.entries, PyDict.lookupIn]

theorem PayloadFields.disjoint (payload : PayloadFields) (status : PyStr) :
    ∀ entry ∈ payload.entries status, entry.1 ∉ envelopeKeys := by
  simp [PayloadFields.entries, envelopeKeys]

/-- The two ways a record comes about. -/
inductive Producer where
  | operation
  | markRolledBack
deriving DecidableEq

/-- The entries behind the envelope, by the way the record came about. -/
def PayloadFields.under (payload : PayloadFields) (rollbackRef : Json) :
    Producer → Document
  | .operation => payload.entries "succeeded"
  | .markRolledBack =>
      payload.entries rolledBackStatus ++
        [(PyStr.ofString "rollback_ref", rollbackRef)]

theorem PayloadFields.under_disjoint (payload : PayloadFields)
    (rollbackRef : Json) (producer : Producer) :
    ∀ entry ∈ payload.under rollbackRef producer,
      entry.1 ∉ envelopeKeys := by
  cases producer with
  | operation => exact payload.disjoint _
  | markRolledBack =>
      intro entry member
      rcases List.mem_append.mp member with old | new
      · exact payload.disjoint _ entry old
      · rw [List.mem_singleton.mp new]
        simp [envelopeKeys]

/-- The record carries a hash, in front of a payload or what became of it. -/
def Carries (payload : PayloadFields) (payloadHash : PyStr)
    (producer : Producer) (record : JsonObject) : Prop :=
  ∃ envelope rollbackRef, record.entries =
    EnvelopeFields.entries envelope payloadHash ++
      payload.under rollbackRef producer

/-- Marking a record keeps its hash and changes its payload. -/
theorem carries_of_markRolledBack {contract : Contract}
    {original rollback updated : JsonObject} {payload : PayloadFields}
    {payloadHash : PyStr} {producer : Producer}
    (carries : Carries payload payloadHash producer original)
    (marked : markRolledBack contract original rollback = .ok updated) :
    Carries payload payloadHash .markRolledBack updated := by
  simp only [markRolledBack, bind_eq_ok_iff, orExit_eq_ok_iff,
    raiseIf_eq_ok_iff, pure_eq_ok_iff] at marked
  obtain ⟨rollbackRef, -, -, -, rfl⟩ := marked
  obtain ⟨envelope, oldRef, entries⟩ := carries
  refine ⟨envelope, rollbackRef, ?_⟩
  simp only [PyDict.assign, entries]
  cases producer with
  | operation =>
      simp [EnvelopeFields.entries, PayloadFields.under,
        PayloadFields.entries, PyDict.assignIn]
  | markRolledBack =>
      simp [EnvelopeFields.entries, PayloadFields.under,
        PayloadFields.entries, PyDict.assignIn]

/-! ## Canonical texts -/

/-- The payload of an operation, with its keys in canonical order. -/
theorem sortByKey_payload (actionId idempotencyKey dryRun startedAt endedAt
    status changedResources verification : PyStr) :
    sortByKey [("action_id", actionId), ("idempotency_key", idempotencyKey),
        ("dry_run", dryRun), ("started_at", startedAt), ("ended_at", endedAt),
        ("status", status), ("changed_resources", changedResources),
        ("verification", verification)] =
      [(("action_id" : PyStr), actionId),
        ("changed_resources", changedResources), ("dry_run", dryRun),
        ("ended_at", endedAt), ("idempotency_key", idempotencyKey),
        ("started_at", startedAt), ("status", status),
        ("verification", verification)] :=
  rfl

theorem sortByKey_marked (actionId idempotencyKey dryRun startedAt endedAt
    status changedResources verification rollbackRef : PyStr) :
    sortByKey [("action_id", actionId), ("idempotency_key", idempotencyKey),
        ("dry_run", dryRun), ("started_at", startedAt), ("ended_at", endedAt),
        ("status", status), ("changed_resources", changedResources),
        ("verification", verification), ("rollback_ref", rollbackRef)] =
      [(("action_id" : PyStr), actionId),
        ("changed_resources", changedResources), ("dry_run", dryRun),
        ("ended_at", endedAt), ("idempotency_key", idempotencyKey),
        ("rollback_ref", rollbackRef), ("started_at", startedAt),
        ("status", status), ("verification", verification)] :=
  rfl

section Hashes

variable [PyRuntime]

/-- The canonical texts part where one has a reference to a rollback. -/
theorem dumps_operation_ne_marked (payload : PayloadFields)
    (rollbackRef otherRef : Json) :
    (Json.dict (payload.under rollbackRef .operation)).dumps ≠
      (Json.dict (payload.under otherRef .markRolledBack)).dumps := by
  intro equal
  simp only [PayloadFields.under, PayloadFields.entries, List.cons_append,
    List.nil_append, Json.dumps, Json.dumpsEntries, sortByKey_payload,
    sortByKey_marked, List.map_cons, List.map_nil, PyStr.joinWith,
    List.append_assoc, List.append_cancel_left_eq] at equal
  have keys := (quoteJson_selfDelimiting (surrogateFree_ofString _)
    (surrogateFree_ofString _) _ _ equal).1
  simp at keys

/-- An operation hashes the payload it builds its record around. -/
theorem carries_of_fullPayload {State : Type} {producer : PyStr}
    {arguments : ActionArguments} {dryRun : Bool} {stamps : Stamps}
    {effect : Effect State} {record : JsonObject}
    (built : fullPayload producer arguments dryRun stamps effect =
      .ok record) :
    ∃ payload payloadHash,
      sha256OfPayload (PayloadFields.entries payload "succeeded") =
          .ok payloadHash ∧
        Carries payload payloadHash .operation record := by
  simp only [fullPayload, bind_eq_ok_iff, buildEnvelope, pure_eq_ok_iff]
    at built
  obtain ⟨resultId, -, envelope, ⟨payloadHash, hashed, rfl⟩, rfl⟩ := built
  let payload : PayloadFields :=
    { actionId := .str arguments.actionId
      idempotencyKey := .str arguments.idempotencyKey
      dryRun := .bool dryRun
      startedAt := .str (PyRuntime.isoformat stamps.startedAt : PyStr)
      endedAt := .str (PyRuntime.isoformat stamps.endedAt : PyStr)
      changedResources := .list (effect.changedResources.map .str)
      verification := .dict [("passed", .bool effect.passed),
        ("detail", .str effect.detail)] }
  refine ⟨payload, payloadHash, hashed,
    ⟨resultId, PyRuntime.isoformat stamps.observedAt, producer,
      arguments.runId⟩, .null, ?_⟩
  apply PyDict.entries_ofList
  simp [actionPayload]

/-- The bytes that are hashed for a payload. -/
def canonicalBytes (payload : Document) : List UInt8 :=
  (Json.dict payload).dumps.flatMap utf8Bytes

/-- The hash a record carries is the hash of its payload. -/
def SelfConsistent (record : JsonObject) : Prop :=
  ∃ digest, sha256OfPayload (payloadOf record) = .ok digest ∧
    record.get? "payload_hash" = some (.str digest)

/-- A carried hash fits the payload of an operation, and no marked one. -/
theorem selfConsistent_iff_of_carries {payload : PayloadFields}
    {payloadHash : PyStr} {producer : Producer} {record : JsonObject}
    {messages : Set (List UInt8)}
    (hashed :
      sha256OfPayload (payload.entries "succeeded") = .ok payloadHash)
    (carries : Carries payload payloadHash producer record)
    (collisionFree : Set.InjOn sha256 messages)
    (hashedMember : canonicalBytes (payload.entries "succeeded") ∈ messages)
    (member : canonicalBytes (payloadOf record) ∈ messages) :
    SelfConsistent record ↔ producer = .operation := by
  obtain ⟨envelope, rollbackRef, entries⟩ := carries
  have isPayload := payloadOf_of_entries entries
    (payload.under_disjoint rollbackRef producer)
  have carried := get?_payload_hash entries
  rw [SelfConsistent, carried]
  rw [isPayload] at member ⊢
  cases producer with
  | operation =>
      simp only [iff_true]
      exact ⟨payloadHash, hashed, rfl⟩
  | markRolledBack =>
      simp only [reduceCtorEq, iff_false]
      rintro ⟨digest, rehashed, same⟩
      cases same
      rw [← hashed, sha256OfPayload_eq, sha256OfPayload_eq, Except.ok.injEq,
        List.append_cancel_left_eq] at rehashed
      have bytes := sha256Hex_injOn collisionFree member hashedMember rehashed
      exact dumps_operation_ne_marked payload .null rollbackRef
        (PyStr.utf8_injective bytes).symm

omit [PyRuntime] in
/-- Any record can be marked with one that carries an envelope. -/
theorem exists_markRolledBack {payload : PayloadFields}
    {payloadHash : PyStr} {producer : Producer} {rollback : JsonObject}
    (carries : Carries payload payloadHash producer rollback)
    (original : JsonObject) :
    ∃ updated,
      markRolledBack (fun _ => []) original rollback = .ok updated := by
  obtain ⟨envelope, rollbackRef, entries⟩ := carries
  have named : rollback.get? "id" = some (.str envelope.messageId) := by
    rw [PyDict.get?, entries]
    simp [EnvelopeFields.entries, PyDict.lookupIn]
  simp [markRolledBack, named, orExit, bind, Except.bind, raiseIf, pure,
    Except.pure]

/-! ## Every record of a run -/

variable {Handle : Type} [DecidableEq Handle] {contract : Contract}
  {initial final : World Handle} {events : List (OperationEvent Handle)}

/-- The records operations returned, and what is marked from them. -/
inductive Returned (contract : Contract)
    (events : List (OperationEvent Handle)) : Producer → JsonObject → Prop
  | operation {event : OperationEvent Handle} {record : JsonObject}
      (member : event ∈ events) (returned : event.outcome = .ok record) :
      Returned contract events .operation record
  | marked {first second : Producer}
      {original rollback updated : JsonObject}
      (originalReturned : Returned contract events first original)
      (rollbackReturned : Returned contract events second rollback)
      (marks : markRolledBack contract original rollback = .ok updated) :
      Returned contract events .markRolledBack updated

/-- The texts hashed for the results of a run, and for one more record. -/
def hashedTexts (events : List (OperationEvent Handle))
    (record : JsonObject) : Set (List UInt8) :=
  {bytes | (∃ event ∈ events, ∃ result, event.outcome = .ok result ∧
      bytes = canonicalBytes (payloadOf result)) ∨
    bytes = canonicalBytes (payloadOf record)}

/-- Every record carries the hash of the payload of an operation's result. -/
theorem carries_of_returned
    (run : Run (OperationStep contract) initial events final)
    (unused : ∀ handle, initial.stores handle = .fresh)
    {producer : Producer} {record : JsonObject}
    (returned : Returned contract events producer record) :
    ∃ payload payloadHash,
      sha256OfPayload (PayloadFields.entries payload "succeeded") =
          .ok payloadHash ∧
        Carries payload payloadHash producer record ∧
        ∃ event ∈ events, ∃ result, event.outcome = .ok result ∧
          payloadOf result = payload.entries "succeeded" := by
  induction returned with
  | @operation event record member returned =>
      obtain ⟨front, back, parts⟩ := List.append_of_mem member
      obtain ⟨before, source, after, here, there, -, -, -, -, produces, -⟩ :=
        producedBy_sameKey run unused parts returned
      obtain ⟨payload, payloadHash, hashed, carries⟩ :=
        carries_of_fullPayload produces.2.1
      obtain ⟨envelope, rollbackRef, entries⟩ := carries
      exact ⟨payload, payloadHash, hashed, ⟨envelope, rollbackRef, entries⟩,
        event, member, record, returned,
        payloadOf_of_entries entries (payload.disjoint _)⟩
  | marked originalReturned rollbackReturned marks induction _ =>
      obtain ⟨payload, payloadHash, hashed, carries, origin⟩ := induction
      exact ⟨payload, payloadHash, hashed,
        carries_of_markRolledBack carries marks, origin⟩

/--
Unless SHA-256 collides on its texts, a record of a run is self-consistent
exactly when an operation returned it and it was not marked since.
-/
theorem selfConsistent_iff
    (run : Run (OperationStep contract) initial events final)
    (unused : ∀ handle, initial.stores handle = .fresh)
    {producer : Producer} {record : JsonObject}
    (returned : Returned contract events producer record)
    (collisionFree : Set.InjOn sha256 (hashedTexts events record)) :
    SelfConsistent record ↔ producer = .operation := by
  obtain ⟨payload, payloadHash, hashed, carries, event, member, result,
    outcome, isPayload⟩ := carries_of_returned run unused returned
  refine selfConsistent_iff_of_carries hashed carries collisionFree ?_
    (.inr rfl)
  exact .inl ⟨event, member, result, outcome, by rw [isPayload]⟩

end Hashes

section Example

attribute [local instance] Reference.runtime

open McpGateway.Scenario

/-- The record of one isolation is self-consistent. -/
theorem selfConsistent_iff_of_one_isolation :
    ∃ (event : OperationEvent Unit) (final : World Unit)
      (record : JsonObject),
      Run (OperationStep fun _ => []) untouchedWorld [event] final ∧
        event.outcome = .ok record ∧ SelfConsistent record := by
  obtain ⟨record, final, step, -⟩ :=
    @exists_operationStep_of_new _ _ _ (fun _ => [])
      (callUnderKey (.execute false)) untouchedWorld rfl fun _ => rfl
  have run := Run.next step (.done final)
  have returned : Returned (fun _ => [])
      [⟨callUnderKey (.execute false), .ok record⟩] .operation record :=
    .operation (List.mem_singleton_self _) rfl
  refine ⟨_, final, record, run, rfl, ?_⟩
  refine (selfConsistent_iff run (fun _ => rfl) returned ?_).mpr rfl
  have only : ∀ bytes ∈ hashedTexts
      [⟨callUnderKey (.execute false), .ok record⟩] record,
      bytes = canonicalBytes (payloadOf record) := by
    rintro bytes (⟨event, member, result, outcome, isText⟩ | isText)
    · rw [List.mem_singleton.mp member] at outcome
      cases outcome
      exact isText
    · exact isText
  intro first isFirst second isSecond _
  rw [only first isFirst, only second isSecond]

/--
The record of an isolation, marked with the record of its rollback, carries
a hash its payload contradicts.
-/
theorem marked_isolation_inconsistent :
    ∃ (isolate rollback : OperationEvent Unit) (final : World Unit)
      (record reversal updated : JsonObject),
      Run (OperationStep fun _ => []) untouchedWorld [isolate, rollback]
          final ∧
        isolate.outcome = .ok record ∧ rollback.call.act = .rollback ∧
        rollback.outcome = .ok reversal ∧
        markRolledBack (fun _ => []) record reversal = .ok updated ∧
        (Set.InjOn sha256 (hashedTexts [isolate, rollback] updated) →
          ¬ SelfConsistent updated) := by
  obtain ⟨record, isolated, first, -, others, -⟩ :=
    @exists_operationStep_of_new _ _ _ (fun _ => [])
      (incidentCall (.execute false) "key-1" "action-1") untouchedWorld rfl
      fun _ => rfl
  have unused : rememberedIn isolated
      (incidentCall .rollback "key-2" "action-1").storeKey = none := by
    rw [others _ (by decide)]
    rfl
  obtain ⟨reversal, final, second, -⟩ :=
    @exists_operationStep_of_new _ _ _ (fun _ => [])
      (incidentCall .rollback "key-2" "action-1") isolated unused
      fun _ => rfl
  have run := Run.next first (.next second (.done final))
  generalize incidentCall (.execute false) "key-1" "action-1" = isolate
    at first run
  obtain ⟨rollback, isRollback, rollsBack⟩ : ∃ rollback : OperationCall Unit,
      rollback = incidentCall .rollback "key-2" "action-1" ∧
        rollback.act = .rollback := ⟨_, rfl, rfl⟩
  rw [← isRollback] at run second
  obtain ⟨payload, payloadHash, hashed, carries, source, isSource, result,
    outcome, isPayload⟩ :=
    carries_of_returned run (fun _ => rfl)
      (.operation List.mem_cons_self rfl)
  obtain ⟨_, _, _, reversed, _⟩ :=
    carries_of_returned run (fun _ => rfl)
      (.operation (List.mem_cons_of_mem _ List.mem_cons_self) rfl)
  obtain ⟨updated, marks⟩ := exists_markRolledBack reversed record
  refine ⟨_, _, final, record, reversal, updated, run, rfl, rollsBack, rfl,
    marks, ?_⟩
  intro collisionFree consistent
  have marked := (selfConsistent_iff_of_carries hashed
    (carries_of_markRolledBack carries marks) collisionFree
    (.inl ⟨source, isSource, result, outcome, by rw [isPayload]⟩)
    (.inr rfl)).mp consistent
  cases marked

end Example

end ArgosCyberTools.Rollback
