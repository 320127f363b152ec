import ArgosCyberTools.Python.CanonicalReading
import ArgosCyberTools.Rollback.Evidence

/-!
# Records that were archived

A result is evidence once it has left the process as JSON.  Whoever reads it
back hashes its payload and compares: `executors.evidence_verifier` does so
for an artifact and an expected hash.  A record read back is accepted, in
whatever style it was written; of the copies that carry its hash, only those
with its payload are.  The verifier expects the bare digest: with the prefix
a record carries, it accepts nothing.
-/

namespace ArgosCyberTools.Executors

open Python

def verifyArtifactIntegrity (content : List UInt8) (expectedSha256 : PyStr) :
    Bool :=
  decide (sha256Hex content = expectedSha256)

end ArgosCyberTools.Executors

namespace ArgosCyberTools.Rollback

open Python ToolCatalog Executors Transition

section Reading

/-- The record that is read back: all keys in order. -/
def readBack (record : JsonObject) : JsonObject where
  entries := Json.sortEntries (Json.orderedEntries record.entries)
  unique := by
    apply Json.nodup_keys_sortEntries
    rw [Json.orderedEntries_eq_map, List.map_map]
    exact record.unique

/-- A text is read back under its key. -/
theorem get?_readBack {record : JsonObject} {key text : PyStr}
    (held : record.get? key = some (.str text)) :
    (readBack record).get? key = some (.str text) := by
  apply (PyDict.get?_eq_some_iff _).mpr
  apply Json.mem_sortEntries.mpr
  rw [Json.orderedEntries_eq_map]
  exact List.mem_map.mpr
    ⟨(key, .str text), (PyDict.get?_eq_some_iff _).mp held, rfl⟩

/-- The payload is read back, its keys in order. -/
theorem payloadOf_readBack (record : JsonObject) :
    (payloadOf (readBack record)).Perm
      (Json.orderedEntries (payloadOf record)) := by
  have kept : payloadOf (readBack record) =
      (Json.sortEntries (Json.orderedEntries record.entries)).filter
        fun entry => entry.1 ∉ envelopeKeys := rfl
  rw [kept]
  refine ((Json.sortEntries_perm _).filter _).trans ?_
  rw [Json.orderedEntries_eq_map, Json.orderedEntries_eq_map, payloadOf,
    List.filter_map]
  exact List.Perm.refl _

theorem portable_payloadOf {record : JsonObject}
    (portable : (Json.dict record.entries).Portable) :
    (Json.dict (payloadOf record)).Portable := by
  have within : ∀ entry ∈ payloadOf record, entry ∈ record.entries :=
    fun entry member => List.mem_of_mem_filter member
  cases portable with
  | dict unique scalar portable =>
      apply Json.Portable.dict
      · exact unique.sublist (List.filter_sublist.map Prod.fst)
      · exact fun entry member => scalar entry (within entry member)
      · exact fun entry member => portable entry (within entry member)

variable [PyRuntime]

/-- What is hashed of a record survives its being written and read. -/
theorem canonicalBytes_readBack {record : JsonObject}
    (portable : (Json.dict record.entries).Portable) :
    canonicalBytes (payloadOf (readBack record)) =
      canonicalBytes (payloadOf record) := by
  have unique : ((payloadOf (readBack record)).map Prod.fst).Nodup :=
    (readBack record).unique.sublist (List.filter_sublist.map Prod.fst)
  have sorted := (payloadOf_readBack record).trans
    (Json.sortEntries_perm (Json.orderedEntries (payloadOf record))).symm
  have text : (Json.dict (payloadOf (readBack record))).dumps =
      (Json.dict (payloadOf record)).dumps := by
    rw [Json.dumps_dict_of_perm unique sorted]
    exact (portable_payloadOf portable).dumps_ordered
  rw [canonicalBytes, canonicalBytes, text]

/-- The payload of a record has the hash the record carries. -/
def Verified (record : JsonObject) : Prop :=
  ∃ digest, record.get? "payload_hash" = some (.str ("sha256:" ++ digest)) ∧
    verifyArtifactIntegrity (canonicalBytes (payloadOf record)) digest = true

end Reading

section Runs

variable [PyRuntime] {Handle : Type} [DecidableEq Handle] {contract : Contract}
  {initial final : World Handle} {events : List (OperationEvent Handle)}
  {event : OperationEvent Handle} {record : JsonObject}

/-- A result carries the hash of its payload. -/
theorem payload_hash_of_returned
    (run : Run (OperationStep contract) initial events final)
    (unused : ∀ handle, initial.stores handle = .fresh)
    (member : event ∈ events) (returned : event.outcome = .ok record) :
    record.get? "payload_hash" =
      some (.str ("sha256:" ++
        sha256Hex (canonicalBytes (payloadOf record)))) := by
  obtain ⟨payload, payloadHash, hashed, ⟨envelope, rollbackRef, entries⟩, -⟩ :=
    carries_of_returned run unused (.operation member returned)
  rw [get?_payload_hash entries,
    payloadOf_of_entries entries (payload.under_disjoint rollbackRef _)]
  rw [sha256OfPayload_eq] at hashed
  cases hashed
  rfl

/--
Every result of a run, written as JSON in any style and read back, is
verified.  A copy that carries its hash is verified exactly when it has its
payload, unless SHA-256 collides on the two.  Taken as the record carries
it, the hash verifies no content.
-/
theorem archived_results_verified [FloatReader]
    (run : Run (OperationStep contract) initial events final)
    (unused : ∀ handle, initial.stores handle = .fresh)
    (member : event ∈ events) (returned : event.outcome = .ok record)
    (portable : (Json.dict record.entries).Portable) :
    (∀ style, ∃ archived : JsonObject,
      Json.loads ((Json.dict record.entries).dumpsWith style 0) =
          some (.dict archived.entries) ∧
        Verified archived) ∧
    (∀ copy : JsonObject,
      copy.get? "payload_hash" = record.get? "payload_hash" →
      (Json.dict (payloadOf copy)).Plain →
      Set.InjOn sha256 {canonicalBytes (payloadOf copy),
        canonicalBytes (payloadOf record)} →
        (Verified copy ↔
          (Json.dict (payloadOf copy)).same (.dict (payloadOf record)) =
            true)) ∧
    ∀ content hash, record.get? "payload_hash" = some (.str hash) →
      verifyArtifactIntegrity content hash = false := by
  have carried := payload_hash_of_returned run unused member returned
  refine ⟨?_, ?_, ?_⟩
  · intro style
    have read : Json.loads
        ((Json.dict record.entries).dumpsWith style 0 ++ []) = _ :=
      portable.loads_dumpsWith nofun
    rw [List.append_nil] at read
    refine ⟨readBack record, read, _, get?_readBack carried, ?_⟩
    rw [canonicalBytes_readBack portable]
    exact decide_eq_true rfl
  · intro copy sameHash plain collisionFree
    have texts := plain.dumps_eq_iff (portable_payloadOf portable).plain
    rw [← texts]
    constructor
    · rintro ⟨digest, held, verified⟩
      rw [sameHash, carried, Option.some.injEq, Json.str.injEq,
        List.append_cancel_left_eq] at held
      rw [← held] at verified
      have bytes := sha256Hex_injOn collisionFree (.inl rfl) (.inr rfl)
        (of_decide_eq_true verified)
      exact PyStr.utf8_injective bytes
    · intro sameText
      refine ⟨_, sameHash.trans carried, decide_eq_true ?_⟩
      rw [canonicalBytes, canonicalBytes, sameText]
  · intro content hash held
    apply decide_eq_false
    intro same
    rw [carried, Option.some.injEq, Json.str.injEq] at held
    have lengths := congrArg List.length held
    rw [← same, List.length_append, length_sha256Hex, length_sha256Hex]
      at lengths
    cases lengths

/-- The texts a record is built of, but for timestamps and its hash. -/
def recordTexts {State : Type} (producer : PyStr)
    (arguments : ActionArguments) (stamps : Stamps) (effect : Effect State) :
    List PyStr :=
  producer :: arguments.runId :: arguments.idempotencyKey ::
    arguments.actionId :: stamps.uuidHex :: effect.detail ::
      effect.changedResources

/-- A record built of texts without lone surrogates is portable. -/
theorem portable_of_fullPayload {State : Type} {producer : PyStr}
    {arguments : ActionArguments} {dryRun : Bool} {stamps : Stamps}
    {effect : Effect State}
    (built : fullPayload producer arguments dryRun stamps effect =
      .ok record)
    (scalar : ∀ text ∈ recordTexts producer arguments stamps effect,
      SurrogateFree text) :
    (Json.dict record.entries).Portable := by
  simp only [recordTexts, List.forall_mem_cons] at scalar
  obtain ⟨isProducer, isRun, isKey, isAction, isHex, isDetail, resources⟩ :=
    scalar
  simp only [fullPayload, bind_eq_ok_iff, newIdPrefixed_act, buildEnvelope,
    sha256OfPayload_eq, pure_eq_ok_iff, Except.ok.injEq, exists_eq_left']
    at built
  have entries := congrArg PyDict.entries built
  rw [PyDict.entries_ofList (by simp [actionPayload])] at entries
  have isId : SurrogateFree ("act-" ++ stamps.uuidHex.take 32) :=
    (surrogateFree_append _ _).mpr ⟨surrogateFree_ofString _,
      fun point member => isHex point (List.mem_of_mem_take member)⟩
  have isHash : ∀ message,
      SurrogateFree ("sha256:" ++ sha256Hex message) :=
    fun message => (surrogateFree_append _ _).mpr
      ⟨surrogateFree_ofString _, surrogateFree_hexdigest _⟩
  rw [← entries]
  apply Json.Portable.dict
  · simp [actionPayload]
  · simp only [actionPayload, List.cons_append, List.nil_append,
      List.forall_mem_cons, surrogateFree_ofString, true_and]
    exact List.forall_mem_nil _
  · simp only [actionPayload, List.cons_append, List.nil_append,
      List.forall_mem_cons]
    refine ⟨.str isId, .str (surrogateFree_ofString _),
      .str (surrogateFree_ofString _), .str isProducer,
      .str (surrogateFree_ofString _), .str isRun, .str (isHash _),
      .str isAction, .str isKey, .bool _, .str (surrogateFree_ofString _),
      .str (surrogateFree_ofString _), .str (surrogateFree_ofString _), ?_, ?_,
      List.forall_mem_nil _⟩
    · apply Json.Portable.list
      intro item member
      obtain ⟨resource, named, rfl⟩ := List.mem_map.mp member
      exact .str (resources resource named)
    · apply Json.Portable.dict
      · simp
      · simp only [List.forall_mem_cons, surrogateFree_ofString, true_and]
        exact List.forall_mem_nil _
      · simp only [List.forall_mem_cons]
        exact ⟨.bool _, .str isDetail, List.forall_mem_nil _⟩

end Runs

section Example

attribute [local instance] Reference.runtime noFloats

open McpGateway.Scenario

/-- The record of one isolation is verified once it is read back. -/
theorem archived_results_verified_of_one_isolation :
    ∃ (event : OperationEvent Unit) (final : World Unit)
      (record archived : JsonObject),
      Run (OperationStep fun _ => []) untouchedWorld [event] final ∧
        event.outcome = .ok record ∧
        Json.loads ((Json.dict record.entries).dumpsWith .compact 0) =
          some (.dict archived.entries) ∧
        Verified archived := by
  obtain ⟨record, final, step, -⟩ :=
    @exists_operationStep_of_new _ _ _ (fun _ => [])
      (callUnderKey (.execute false)) untouchedWorld rfl fun _ => rfl
  have run := Run.next step (.done final)
  have member := List.mem_singleton_self
    (⟨callUnderKey (.execute false), .ok record⟩ : OperationEvent Unit)
  have scalar : (recordTexts (isolation false).producer isolateArguments
      isolateStamps ((isolation false).act target ⟨PyDict.empty⟩)).all
        Json.isScalarText = true := by
    decide +kernel
  have ended := operated step
  have portable : (Json.dict record.entries).Portable := by
    generalize isRecord : Except.ok record = outcome at ended
    cases ended with
    | remembered held => cases held
    | accepted produces =>
        cases isRecord
        apply portable_of_fullPayload produces.2.1
        intro text built
        exact Json.isScalarText_iff.mp (List.all_eq_true.mp scalar text built)
    | rejected unheld rejects => cases isRecord
  obtain ⟨archived, read, verified⟩ :=
    (archived_results_verified run (fun _ => rfl) member rfl portable).1
      .compact
  exact ⟨_, final, record, archived, run, rfl, read, verified⟩

end Example

end ArgosCyberTools.Rollback
