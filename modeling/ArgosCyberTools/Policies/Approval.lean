import ArgosCyberTools.Python.Effect
import ArgosCyberTools.Python.JsonText
import ArgosCyberTools.Python.Sha256
import ArgosCyberTools.ToolCatalog.Definition

/-!
# Approvals

`policies.approval`: the plan hash and the signature reference, the field
checks shared by every store, and the in-memory `ApprovalStore`.  An approval
is the untyped document the caller presents; reading an absent key, parsing
a bad timestamp or hashing a list raises as it does in Python.
-/

namespace ArgosCyberTools.Policies

open Python ToolCatalog

/-- The ways a store says no; the texts are those of the source. -/
inductive Rejection where
  | approverIsRequester
  | approverIsExecutor
  | notApproved (decision : Json)
  | expired (now expiresAt : PyDateTime)
  | signatureMismatch
  | replay (approvalId : Json)
  | durableReplay (approvalId : Json)
  /-- `ApprovalStorageUnavailable`, with the text of the SQLite error. -/
  | storageUnavailable (approvalId : Json) (detail : PyStr)
  /-- The same, while opening the database. -/
  | storageUninitialised (dbPath detail : PyStr)

/-- What `validate_and_consume` can raise. -/
inductive ApprovalError where
  | rejected (why : Rejection)
  | builtin (error : BuiltinError)

variable [PyRuntime]

def Rejection.text : Rejection → PyStr
  | .approverIsRequester =>
      "segregación de funciones: approver_id == requester_id"
  | .approverIsExecutor =>
      "segregación de funciones: approver_id == executor_id"
  | .notApproved decision =>
      "decision=" ++ decision.repr ++ ", no APPROVE"
  | .expired now expiresAt =>
      "TTL expirado: now=" ++ (PyRuntime.isoformat now : PyStr) ++
        " > expires_at=" ++ (PyRuntime.isoformat expiresAt : PyStr)
  | .signatureMismatch =>
      "signature_ref no coincide con el plan_hash actual — la acción cambió " ++
        "después de aprobarse, o la aprobación es para otra acción"
  | .replay approvalId =>
      "replay: approval_id " ++ approvalId.repr ++ " ya fue consumida"
  | .durableReplay approvalId =>
      "replay: approval_id " ++ approvalId.repr ++ " ya fue consumida (durable)"
  | .storageUnavailable approvalId detail =>
      "almacén durable no disponible al consumir " ++ approvalId.repr ++
        ": " ++ detail
  | .storageUninitialised dbPath detail =>
      "no se pudo inicializar el almacén durable en " ++ reprText dbPath ++
        ": " ++ detail

/-! ## Hashes -/

/-- The canonical text of a plan; absent parameters are `{}`. -/
def planText (tool target action : PyStr) (params : Option Document) :
    PyStr :=
  (Json.dict
    [("tool", .str tool), ("target", .str target), ("action", .str action),
      ("params", .dict (params.getD []))]).dumps

def computePlanHash (tool target action : PyStr)
    (params : Option Document) : Except BuiltinError PyStr := do
  let message ← (planText tool target action params).encode
  return "sha256:" ++ sha256Hex message

/-- The text a signature reference covers. -/
def signatureText (approvalId : Json) (planHash : PyStr) : PyStr :=
  approvalId.toStr ++ ":" ++ planHash

def computeSignatureRef (approvalId : Json) (planHash : PyStr) :
    Except BuiltinError PyStr := do
  let message ← (signatureText approvalId planHash).encode
  return "sha256:" ++ sha256Hex message

/-! ## Field checks -/

/-- `approval[key]`. -/
def readKey (approval : JsonObject) (key : PyStr) :
    Except ApprovalError Json :=
  match approval.get? key with
  | none => .error (.builtin (.keyError key))
  | some value => .ok value

/-- `_parse`: anything but a string is a `TypeError`. -/
def parse (ts : Json) : Except BuiltinError PyDateTime :=
  match ts with
  | .str text =>
      match PyRuntime.fromisoformat text with
      | none => .error .valueError
      | some moment => .ok moment
  | _ => .error .typeError

/-- `_validate_approval_fields`: returns the approval id it read first. -/
def validateApprovalFields (approval : JsonObject)
    (currentPlanHash requesterId executorId : PyStr) (now : PyDateTime) :
    Except ApprovalError Json := do
  let approvalId ← readKey approval "approval_id"
  let approverId ← readKey approval "approver_id"
  raiseIf (approverId.isStr requesterId) (.rejected .approverIsRequester)
  raiseIf (approverId.isStr executorId) (.rejected .approverIsExecutor)
  let decision ← readKey approval "decision"
  raiseIf (!decision.isStr "APPROVE") (.rejected (.notApproved decision))
  let expiresAtText ← readKey approval "expires_at"
  let expiresAt ← (parse expiresAtText).mapError .builtin
  let late ← (now.gt expiresAt).mapError .builtin
  raiseIf late (.rejected (.expired now expiresAt))
  let expectedSignature ←
    (computeSignatureRef approvalId currentPlanHash).mapError .builtin
  let signatureRef ← readKey approval "signature_ref"
  raiseIf (!signatureRef.isStr expectedSignature)
    (.rejected .signatureMismatch)
  return approvalId

/-! ## Stores -/

/--
`ApprovalStoreProtocol`, with the promises its implementations share: what a
store accepts has passed the field checks, and is recorded as consumed.
-/
class ApprovalStoreProtocol (Store : Type) where
  validateAndConsume (approval : JsonObject)
    (currentPlanHash requesterId executorId : PyStr) (now : PyDateTime) :
    PyM Store ApprovalError Unit
  /-- `final` is `store` with this approval newly recorded. -/
  Records (store final : Store) (approval : JsonObject)
    (currentPlanHash : PyStr) : Prop
  fields_ok_of_accepted {approval : JsonObject}
    {currentPlanHash requesterId executorId : PyStr} {now : PyDateTime}
    {store final : Store}
    (accepted :
      validateAndConsume approval currentPlanHash requesterId executorId now
        store = (.ok (), final)) :
    ∃ approvalId,
      validateApprovalFields approval currentPlanHash requesterId executorId
        now = .ok approvalId
  records_of_accepted {approval : JsonObject}
    {currentPlanHash requesterId executorId : PyStr} {now : PyDateTime}
    {store final : Store}
    (accepted :
      validateAndConsume approval currentPlanHash requesterId executorId now
        store = (.ok (), final)) :
    Records store final approval currentPlanHash

/-- The ids consumed so far, as the set identifies them. -/
structure ApprovalStore where
  consumed : Finset HashKey

/-- `ApprovalStore()`. -/
def ApprovalStore.fresh : ApprovalStore := ⟨∅⟩

def ApprovalStore.validateAndConsume (approval : JsonObject)
    (currentPlanHash requesterId executorId : PyStr) (now : PyDateTime) :
    PyM ApprovalStore ApprovalError Unit := do
  let approvalId ← PyM.ofExcept (readKey approval "approval_id")
  let store ← PyM.get
  let key ← PyM.ofExcept (approvalId.hashKey.mapError .builtin)
  PyM.ofExcept
    (raiseIf (decide (key ∈ store.consumed)) (.rejected (.replay approvalId)))
  let validId ← PyM.ofExcept
    (validateApprovalFields approval currentPlanHash requesterId executorId now)
  -- Only now, with every check passed, is the id marked as consumed.
  let validKey ← PyM.ofExcept (validId.hashKey.mapError .builtin)
  PyM.set { store with consumed := insert validKey store.consumed }

/-! ## What the checks establish -/

omit [PyRuntime] in
theorem readKey_eq_ok_iff {approval : JsonObject} {key : PyStr}
    {value : Json} :
    readKey approval key = .ok value ↔ approval.get? key = some value := by
  unfold readKey
  cases approval.get? key <;> simp

theorem parse_eq_ok_iff {ts : Json} {moment : PyDateTime} :
    parse ts = .ok moment ↔
      ∃ text, ts = .str text ∧
        PyRuntime.fromisoformat text = some moment := by
  cases ts with
  | str text =>
      simp only [parse, Json.str.injEq]
      cases found : PyRuntime.fromisoformat text <;> simp [found]
  | _ => simp [parse]

/-- The conditions under which the shared checks pass. -/
structure FieldsValid (approval : JsonObject)
    (currentPlanHash requesterId executorId : PyStr) (now : PyDateTime)
    (approvalId : Json) : Prop where
  identified : approval.get? "approval_id" = some approvalId
  independent : ∃ approverId,
    approval.get? "approver_id" = some approverId ∧
      approverId ≠ .str requesterId ∧ approverId ≠ .str executorId
  approved : approval.get? "decision" = some (.str "APPROVE")
  unexpired : ∃ text expiresAt,
    approval.get? "expires_at" = some (.str text) ∧
      PyRuntime.fromisoformat text = some expiresAt ∧
      now.gt expiresAt = .ok false
  signed : ∃ signatureRef,
    computeSignatureRef approvalId currentPlanHash = .ok signatureRef ∧
      approval.get? "signature_ref" = some (.str signatureRef)

/-- The shared checks pass exactly on valid fields. -/
theorem validateApprovalFields_eq_ok_iff {approval : JsonObject}
    {currentPlanHash requesterId executorId : PyStr} {now : PyDateTime}
    {approvalId : Json} :
    validateApprovalFields approval currentPlanHash requesterId executorId
        now = .ok approvalId ↔
      FieldsValid approval currentPlanHash requesterId executorId now
        approvalId := by
  unfold validateApprovalFields
  simp only [bind_eq_ok_iff, mapError_eq_ok_iff, readKey_eq_ok_iff,
    parse_eq_ok_iff, raiseIf_eq_ok_iff, Bool.not_eq_false',
    Json.isStr_iff, Json.isStr_eq_false_iff]
  constructor
  · rintro ⟨held, identified, approverId, hasApprover, -, notRequester, -,
      notExecutor, decision, hasDecision, -, approved, expiresAtText,
      hasExpiry, expiresAt, ⟨text, rfl, parsed⟩, late, compared, -, inTime,
      expected, computed, signatureRef, hasSignature, -, matching, returned⟩
    cases returned
    subst approved inTime matching
    exact
      { identified := identified
        independent :=
          ⟨approverId, hasApprover, notRequester, notExecutor⟩
        approved := hasDecision
        unexpired := ⟨text, expiresAt, hasExpiry, parsed, compared⟩
        signed := ⟨expected, computed, hasSignature⟩ }
  · intro valid
    obtain ⟨approverId, hasApprover, notRequester, notExecutor⟩ :=
      valid.independent
    obtain ⟨text, expiresAt, hasExpiry, parsed, compared⟩ := valid.unexpired
    obtain ⟨signatureRef, computed, hasSignature⟩ := valid.signed
    exact ⟨approvalId, valid.identified, approverId, hasApprover, (),
      notRequester, (), notExecutor, _, valid.approved, (), rfl, _,
      hasExpiry, expiresAt, ⟨text, rfl, parsed⟩, false, compared, (), rfl,
      signatureRef, computed, _, hasSignature, (), rfl, rfl⟩

/-! ## What the in-memory store establishes -/

namespace ApprovalStore

variable {approval : JsonObject}
  {currentPlanHash requesterId executorId : PyStr} {now : PyDateTime}
  {store final : ApprovalStore}

/-- An approval is accepted once: valid, and under a key not yet held. -/
theorem validateAndConsume_eq_ok_iff :
    validateAndConsume approval currentPlanHash requesterId executorId now
        store = (.ok (), final) ↔
      ∃ approvalId key,
        FieldsValid approval currentPlanHash requesterId executorId now
          approvalId ∧
        approvalId.hashKey = .ok key ∧ key ∉ store.consumed ∧
        final = ⟨insert key store.consumed⟩ := by
  simp only [validateAndConsume, PyM.bind_apply_eq_ok_iff,
    PyM.ofExcept_apply, PyM.get_apply, PyM.set_apply, Prod.mk.injEq,
    readKey_eq_ok_iff, mapError_eq_ok_iff, raiseIf_eq_ok_iff,
    validateApprovalFields_eq_ok_iff, Except.ok.injEq,
    decide_eq_false_iff_not]
  constructor
  · rintro ⟨approvalId, _, ⟨identified, rfl⟩, _, _, ⟨rfl, rfl⟩, key, _,
      ⟨hashed, rfl⟩, _, _, ⟨fresh, rfl⟩, validId, _, ⟨valid, rfl⟩,
      validKey, _, ⟨validHashed, rfl⟩, -, rfl⟩
    have same : approvalId = validId := by
      simpa [identified] using valid.identified
    subst same
    have keys : key = validKey := by simpa [hashed] using validHashed
    subst keys
    exact ⟨approvalId, key, valid, hashed, fresh, rfl⟩
  · rintro ⟨approvalId, key, valid, hashed, fresh, rfl⟩
    exact ⟨approvalId, store, ⟨valid.identified, rfl⟩, store, store,
      ⟨rfl, rfl⟩, key, store, ⟨hashed, rfl⟩, (), store, ⟨fresh, rfl⟩,
      approvalId, store, ⟨valid, rfl⟩, key, store, ⟨hashed, rfl⟩, trivial,
      rfl⟩

/-- A refusal or an exception leaves the store as it was. -/
theorem validateAndConsume_of_error {error : ApprovalError}
    (raised :
      validateAndConsume approval currentPlanHash requesterId executorId now
        store = (.error error, final)) :
    final = store := by
  simp only [validateAndConsume, PyM.bind_apply_eq_error_iff,
    PyM.ofExcept_apply, PyM.get_apply, PyM.set_apply, Prod.mk.injEq]
    at raised
  grind

instance : ApprovalStoreProtocol ApprovalStore where
  validateAndConsume := validateAndConsume
  Records store final approval _ :=
    ∃ approvalId key, approval.get? "approval_id" = some approvalId ∧
      approvalId.hashKey = .ok key ∧ key ∉ store.consumed ∧
      final.consumed = insert key store.consumed
  fields_ok_of_accepted accepted := by
    obtain ⟨approvalId, -, valid, -⟩ :=
      validateAndConsume_eq_ok_iff.mp accepted
    exact ⟨approvalId, validateApprovalFields_eq_ok_iff.mpr valid⟩
  records_of_accepted accepted := by
    obtain ⟨approvalId, key, valid, hashed, unspent, rfl⟩ :=
      validateAndConsume_eq_ok_iff.mp accepted
    exact ⟨approvalId, key, valid.identified, hashed, unspent, rfl⟩

end ApprovalStore

end ArgosCyberTools.Policies
