import ArgosCyberTools.Policies.Approval

/-!
# Recorded actions

`executors`: the idempotency store, the envelope of an `ActionResult`, and
the sequence every executor method and every rollback strategy goes
through.  A remembered key returns the remembered result; otherwise the
effect is applied, the result is built around it and put to the contract,
and only a result the contract accepts is remembered.
-/

namespace ArgosCyberTools.Executors

open Python ToolCatalog

/-! ## Idempotency -/

/-- `IdempotencyStore`. -/
structure IdempotencyStore where
  results : PyDict PyStr JsonObject

namespace IdempotencyStore

/-- `IdempotencyStore()`. -/
def fresh : IdempotencyStore := ⟨PyDict.empty⟩

def get (store : IdempotencyStore) (idempotencyKey : PyStr) :
    Option JsonObject :=
  store.results.get? idempotencyKey

def remember (store : IdempotencyStore) (idempotencyKey : PyStr)
    (actionResult : JsonObject) : IdempotencyStore :=
  ⟨store.results.assign idempotencyKey actionResult⟩

theorem get_remember (store : IdempotencyStore) (idempotencyKey asked : PyStr)
    (actionResult : JsonObject) :
    (store.remember idempotencyKey actionResult).get asked =
      if asked = idempotencyKey then some actionResult
      else store.get asked :=
  PyDict.get?_assign _ _ _ _

end IdempotencyStore

/-! ## Action results -/

inductive ActionError where
  /-- `InvalidActionResult`, with the messages of the contract. -/
  | invalidActionResult (errors : List PyStr)
  | builtin (error : BuiltinError)

/-- The arguments the executor methods and the strategies share. -/
structure ActionArguments where
  runId : PyStr
  target : PyStr
  idempotencyKey : PyStr
  actionId : PyStr

/-- What one action reads from outside: three clock readings and a UUID. -/
structure Stamps where
  startedAt : PyDateTime
  endedAt : PyDateTime
  observedAt : PyDateTime
  uuidHex : PyStr

/-- `validate_payload` for `action-result`: the messages of the contract. -/
abbrev Contract := JsonObject → List PyStr

/-- What an operation did before it reports. -/
structure Effect (State : Type) where
  state : State
  changedResources : List PyStr
  passed : Bool
  detail : PyStr

/-- A state with the store that remembers what was done to it. -/
structure Executor (State : Type) where
  state : State
  idempotency : IdempotencyStore

def newIdPrefixed (idPrefix uuidHex : PyStr) : Except BuiltinError PyStr := do
  raiseIf (decide (idPrefix.length < 1 ∨ 15 < idPrefix.length)) .valueError
  return idPrefix ++ "-" ++ uuidHex.take (36 - idPrefix.length - 1)

section Records

variable [PyRuntime]

def sha256OfPayload (payload : Document) : Except BuiltinError PyStr := do
  let canonical ← (Json.dict payload).dumps.encode
  return "sha256:" ++ sha256Hex canonical

def buildEnvelope (payload : Document) (producer runId messageId : PyStr)
    (observedAt : PyDateTime) : Except BuiltinError Document := do
  let payloadHash ← sha256OfPayload payload
  return [("id", .str messageId), ("schema_version", .str "1.0.0"),
    ("observed_at", .str (PyRuntime.isoformat observedAt : PyStr)),
    ("producer", .str producer), ("classification", .str "internal"),
    ("run_id", .str runId), ("payload_hash", .str payloadHash)]

/-- The literal `payload` of every operation. -/
def actionPayload {State : Type} (arguments : ActionArguments)
    (dryRun : Bool) (stamps : Stamps) (effect : Effect State) : Document :=
  [("action_id", .str arguments.actionId),
    ("idempotency_key", .str arguments.idempotencyKey),
    ("dry_run", .bool dryRun),
    ("started_at", .str (PyRuntime.isoformat stamps.startedAt : PyStr)),
    ("ended_at", .str (PyRuntime.isoformat stamps.endedAt : PyStr)),
    ("status", .str "succeeded"),
    ("changed_resources", .list (effect.changedResources.map .str)),
    ("verification",
      .dict [("passed", .bool effect.passed),
        ("detail", .str effect.detail)])]

/-- `{**envelope, **payload}`. -/
def fullPayload {State : Type} (producer : PyStr)
    (arguments : ActionArguments) (dryRun : Bool) (stamps : Stamps)
    (effect : Effect State) : Except BuiltinError JsonObject := do
  let resultId ← newIdPrefixed "act" stamps.uuidHex
  let payload := actionPayload arguments dryRun stamps effect
  let envelope ←
    buildEnvelope payload producer arguments.runId resultId
      stamps.observedAt
  return PyDict.ofList (envelope ++ payload)

end Records

/--
The sequence the executor methods and the strategies go through, for any way
of building a record of an effect.
-/
def recordedAction {State : Type}
    (build : Effect State → Except BuiltinError JsonObject)
    (contract : Contract) (idempotencyKey : PyStr)
    (act : State → Effect State) :
    PyM (Executor State) ActionError JsonObject := do
  let executor ← PyM.get
  match executor.idempotency.get idempotencyKey with
  | some cached => return cached
  | none =>
      let effect := act executor.state
      PyM.set { executor with state := effect.state }
      let record ← PyM.ofExcept ((build effect).mapError .builtin)
      let errors := contract record
      -- The effect is already in place when the contract has its say.
      PyM.ofExcept (raiseIf (!errors.isEmpty) (.invalidActionResult errors))
      PyM.set
        ⟨effect.state,
          executor.idempotency.remember idempotencyKey record⟩
      return record

/-! ## What a recorded action does -/

theorem newIdPrefixed_act (uuidHex : PyStr) :
    newIdPrefixed "act" uuidHex = .ok ("act-" ++ uuidHex.take 32) :=
  rfl

theorem sha256OfPayload_eq [PyRuntime] (payload : Document) :
    sha256OfPayload payload =
      .ok ("sha256:" ++
        sha256Hex ((Json.dict payload).dumps.flatMap utf8Bytes)) := by
  rw [sha256OfPayload, PyStr.encode_of_surrogateFree
    (surrogateFree_dumps _)]
  rfl

/-- Building a record never raises. -/
theorem exists_fullPayload [PyRuntime] {State : Type} (producer : PyStr)
    (arguments : ActionArguments)
    (dryRun : Bool) (stamps : Stamps) (effect : Effect State) :
    ∃ record,
      fullPayload producer arguments dryRun stamps effect = .ok record := by
  simp only [fullPayload, bind_eq_ok_iff, newIdPrefixed_act,
    buildEnvelope, sha256OfPayload_eq, pure_eq_ok_iff, Except.ok.injEq,
    exists_eq_left', exists_eq']

section Recorded

variable {State : Type}
  {build : Effect State → Except BuiltinError JsonObject}
  {contract : Contract} {idempotencyKey : PyStr}
  {act : State → Effect State} {executor : Executor State}

/-- A remembered key answers with the remembered result. -/
theorem recordedAction_of_remembered {cached : JsonObject}
    (remembered :
      executor.idempotency.get idempotencyKey = some cached) :
    recordedAction build contract idempotencyKey act executor =
      (.ok cached, executor) := by
  unfold recordedAction
  rw [PyM.bind_of_ok (PyM.get_apply _), remembered]
  rfl

/-- A new key applies the effect; only an accepted record is remembered. -/
theorem recordedAction_of_new {record : JsonObject}
    (unremembered : executor.idempotency.get idempotencyKey = none)
    (built : build (act executor.state) = .ok record) :
    recordedAction build contract idempotencyKey act executor =
      if contract record = [] then
        (.ok record,
          ⟨(act executor.state).state,
            executor.idempotency.remember idempotencyKey record⟩)
      else
        (.error (.invalidActionResult (contract record)),
          { executor with state := (act executor.state).state }) := by
  unfold recordedAction
  rw [PyM.bind_of_ok (PyM.get_apply _), unremembered]
  simp only [PyM.bind_apply, PyM.set_apply, PyM.ofExcept_apply, built,
    Except.mapError]
  by_cases accepted : contract record = []
  · simp [accepted, raiseIf]
  · simp [accepted, raiseIf]

end Recorded

end ArgosCyberTools.Executors
