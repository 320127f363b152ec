import ArgosCyberTools.Policies.Binding
import ArgosCyberTools.Policies.DurableStore

/-!
# Approvals that can be read

The checks on an approval raise anything but a rejection exactly when they
reach a field that is absent or that cannot be used as they use it.  What a
store reads beyond the fields depends on the store.
-/

namespace ArgosCyberTools.Policies

open Python Sqlite

/-- An exception other than `ApprovalRejected`. -/
def ApprovalError.IsBuiltin : ApprovalError → Prop
  | .rejected _ => False
  | .builtin _ => True

@[simp]
theorem not_isBuiltin_rejected (why : Rejection) :
    ¬ (ApprovalError.rejected why).IsBuiltin :=
  id

theorem isBuiltin_of_readKey {approval : JsonObject} {key : PyStr}
    {error : ApprovalError} (raised : readKey approval key = .error error) :
    error.IsBuiltin := by
  unfold readKey at raised
  cases held : approval.get? key with
  | none =>
      rw [held] at raised
      cases raised
      trivial
  | some value =>
      rw [held] at raised
      cases raised

theorem isBuiltin_of_mapError {Value : Type}
    {result : Except BuiltinError Value} {error : ApprovalError}
    (raised : result.mapError .builtin = .error error) : error.IsBuiltin := by
  cases result with
  | ok value => cases raised
  | error original =>
      cases raised
      trivial

variable {Value : Type}

theorem avoids_readKey {approval : JsonObject} {key : PyStr}
    {next : Json → Except ApprovalError Value} :
    Avoids ApprovalError.IsBuiltin (readKey approval key >>= next) ↔
      ∃ value, approval.get? key = some value ∧
        Avoids ApprovalError.IsBuiltin (next value) := by
  rw [avoids_bind_of_bad fun error => isBuiltin_of_readKey]
  simp only [readKey_eq_ok_iff]

theorem avoids_builtin {Result : Type}
    {first : Except BuiltinError Value}
    {next : Value → Except ApprovalError Result} :
    Avoids ApprovalError.IsBuiltin (first.mapError .builtin >>= next) ↔
      ∃ value, first = .ok value ∧
        Avoids ApprovalError.IsBuiltin (next value) := by
  rw [avoids_bind_of_bad fun error => isBuiltin_of_mapError]
  simp only [mapError_eq_ok_iff]

theorem avoids_rejection {refused : Bool} {why : Rejection}
    {next : Unit → Except ApprovalError Value} :
    Avoids ApprovalError.IsBuiltin
        (raiseIf refused (.rejected why) >>= next) ↔
      (refused = false → Avoids ApprovalError.IsBuiltin (next ())) :=
  avoids_bind_raiseIf (not_isBuiltin_rejected why)

section Fields

variable [PyRuntime]

/--
Every field that is reached can be read: a later field is reached when the
earlier ones are no reason to reject.
-/
def FieldsReadable (approval : JsonObject)
    (currentPlanHash requesterId executorId : PyStr) (now : PyDateTime) :
    Prop :=
  ∃ approvalId, approval.get? "approval_id" = some approvalId ∧
  ∃ approverId, approval.get? "approver_id" = some approverId ∧
  (approverId ≠ .str requesterId → approverId ≠ .str executorId →
    ∃ decision, approval.get? "decision" = some decision ∧
    (decision = .str "APPROVE" →
      ∃ text expiresAt, approval.get? "expires_at" = some (.str text) ∧
        PyRuntime.fromisoformat text = some expiresAt ∧
        now.isAware = expiresAt.isAware ∧
        (now.instant ≤ expiresAt.instant →
          SurrogateFree (signatureText approvalId currentPlanHash) ∧
            ∃ signatureRef,
              approval.get? "signature_ref" = some signatureRef)))

variable {approval : JsonObject}
  {currentPlanHash requesterId executorId : PyStr} {now : PyDateTime}

/-- The shared checks raise a rejection or nothing on readable fields. -/
theorem validateApprovalFields_avoids_builtin_iff :
    Avoids ApprovalError.IsBuiltin
        (validateApprovalFields approval currentPlanHash requesterId
          executorId now) ↔
      FieldsReadable approval currentPlanHash requesterId executorId now := by
  unfold validateApprovalFields FieldsReadable
  simp only [avoids_readKey, avoids_rejection, avoids_builtin,
    Json.isStr_eq_false_iff, Bool.not_eq_false', Json.isStr_iff,
    parse_eq_ok_iff, computeSignatureRef_eq_ok_iff,
    PyDateTime.gt_eq_ok_iff, avoids_pure, implies_true, and_true]
  refine exists_congr fun approvalId => and_congr_right fun _ =>
    exists_congr fun approverId => and_congr_right fun _ =>
      imp_congr_right fun _ => imp_congr_right fun _ =>
        exists_congr fun decision => and_congr_right fun _ =>
          imp_congr_right fun _ => ?_
  constructor
  · rintro ⟨_, held, expiresAt, ⟨text, rfl, parsed⟩, _, ⟨aware, rfl⟩, rest⟩
    refine ⟨text, expiresAt, held, parsed, aware, fun inTime => ?_⟩
    obtain ⟨_, ⟨scalar, -⟩, signed⟩ := rest (by simpa using inTime)
    exact ⟨scalar, signed⟩
  · rintro ⟨text, expiresAt, held, parsed, aware, rest⟩
    refine ⟨_, held, expiresAt, ⟨text, rfl, parsed⟩, _, ⟨aware, rfl⟩,
      fun inTime => ?_⟩
    obtain ⟨scalar, signed⟩ := rest (by simpa using inTime)
    exact ⟨_, ⟨scalar, rfl⟩, signed⟩

end Fields

/-! ## What a store reads -/

section Stores

variable [PyRuntime]

/-- A store, and when a call of it raises nothing but rejections. -/
class ReadableApprovals (Store : Type) [ApprovalStoreProtocol Store] where
  Readable (store : Store) (approval : JsonObject)
    (currentPlanHash requesterId executorId : PyStr) (now : PyDateTime) :
    Prop
  avoids_builtin_iff {store : Store} {approval : JsonObject}
    {currentPlanHash requesterId executorId : PyStr} {now : PyDateTime} :
    Avoids ApprovalError.IsBuiltin
        (ApprovalStoreProtocol.validateAndConsume approval currentPlanHash
          requesterId executorId now store).1 ↔
      Readable store approval currentPlanHash requesterId executorId now

variable {approval : JsonObject}
  {currentPlanHash requesterId executorId : PyStr} {now : PyDateTime}

/-- The id is hashed before anything else, and the fields are read last. -/
def ApprovalStore.Readable (store : ApprovalStore) (approval : JsonObject)
    (currentPlanHash requesterId executorId : PyStr) (now : PyDateTime) :
    Prop :=
  ∃ approvalId, approval.get? "approval_id" = some approvalId ∧
  ∃ key, approvalId.hashKey = .ok key ∧
  (key ∉ store.consumed →
    FieldsReadable approval currentPlanHash requesterId executorId now)

theorem ApprovalStore.avoids_builtin_iff {store : ApprovalStore} :
    Avoids ApprovalError.IsBuiltin
        (validateAndConsume approval currentPlanHash requesterId executorId
          now store).1 ↔
      store.Readable approval currentPlanHash requesterId executorId now := by
  simp only [validateAndConsume, PyM.avoids_bind_apply, PyM.ofExcept_apply,
    PyM.get_apply, PyM.set_apply, Readable, Prod.mk.injEq]
  cases named : approval.get? "approval_id" with
  | none => simp [readKey, named, ApprovalError.IsBuiltin]
  | some approvalId =>
      cases hashed : approvalId.hashKey with
      | error error =>
          simp [readKey, named, hashed, Except.mapError,
            ApprovalError.IsBuiltin]
      | ok key =>
          have validHashed : ∀ validId,
              validateApprovalFields approval currentPlanHash requesterId
                executorId now = .ok validId →
              validId.hashKey = .ok key := by
            intro validId checked
            have valid := validateApprovalFields_eq_ok_iff.mp checked
            rw [valid.identified, Option.some.injEq] at named
            rw [named, hashed]
          have marked : ∀ validId,
              validateApprovalFields approval currentPlanHash requesterId
                executorId now = .ok validId →
              Avoids ApprovalError.IsBuiltin
                (validId.hashKey.mapError ApprovalError.builtin) := by
            intro validId checked
            have valid := validateApprovalFields_eq_ok_iff.mp checked
            rw [valid.identified, Option.some.injEq] at named
            rw [named, hashed]
            trivial
          have fields :
              (Avoids ApprovalError.IsBuiltin
                  (validateApprovalFields approval currentPlanHash
                    requesterId executorId now) ∧
                ∀ validId,
                  validateApprovalFields approval currentPlanHash
                    requesterId executorId now = .ok validId →
                  Avoids ApprovalError.IsBuiltin
                    (validId.hashKey.mapError ApprovalError.builtin)) ↔
                FieldsReadable approval currentPlanHash requesterId
                  executorId now := by
            rw [and_iff_left marked,
              validateApprovalFields_avoids_builtin_iff]
          simpa [readKey, named, hashed, Except.mapError, avoids_raiseIf]
            using imp_congr_right fun _ : key ∉ store.consumed => fields

/-- A value that SQLite takes, or refuses with an error of its own. -/
def Bindable : Json → Prop
  | .int number => -2 ^ 63 ≤ number ∧ number < 2 ^ 63
  | .str text => SurrogateFree text
  | _ => True

/-- An exception that is no `sqlite3.Error`. -/
def IsNoSqliteError : Failure → Prop
  | .builtin _ => True
  | _ => False

theorem bindText_avoids_iff {value : Json} :
    Avoids IsNoSqliteError (bindText value) ↔ Bindable value := by
  cases value with
  | int number =>
      rw [bindText, Bindable]
      split_ifs with fits
      · exact iff_of_true trivial fits
      · exact iff_of_false (not_not_intro trivial) fits
  | str text =>
      rw [bindText, Bindable]
      split_ifs with scalar
      · exact iff_of_true trivial scalar
      · exact iff_of_false (not_not_intro trivial) scalar
  | list items => exact iff_of_true id trivial
  | dict entries => exact iff_of_true id trivial
  | _ => exact Iff.rfl

/-- Only binding the id can raise anything but an error of SQLite. -/
theorem execute_avoids_iff {connection : Connection}
    {table : ConsumedApprovals} {row : Option PyStr → ConsumedApproval}
    {value : Json} :
    Avoids IsNoSqliteError (execute connection table row value) ↔
      ((∀ detail, connection ≠ .unavailable detail) → Bindable value) := by
  cases connection with
  | unavailable detail => simp [execute, IsNoSqliteError]
  | failing detail =>
      simp [execute, avoids_bind, IsNoSqliteError, bindText_avoids_iff]
  | ready =>
      have inserts : ∀ bound,
          Avoids IsNoSqliteError (table.insert (row bound)) := by
        intro bound
        cases inserted : table.insert (row bound) with
        | ok _ => trivial
        | error failure =>
            rw [(Table.insert_eq_error_iff.mp inserted).2]
            exact id
      simp [execute, avoids_bind, inserts, bindText_avoids_iff]

omit [PyRuntime] in
theorem translateFailure_isBuiltin_iff {approvalId : Json}
    {failure : Failure} :
    (DurableApprovalStore.translateFailure approvalId failure).IsBuiltin ↔
      IsNoSqliteError failure := by
  cases failure <;> exact Iff.rfl

theorem DurableApprovalStore.insertConsumed_avoids_builtin_iff
    {store : DurableApprovalStore} {approvalId : Json} :
    Avoids ApprovalError.IsBuiltin
        (insertConsumed approvalId currentPlanHash now store).1 ↔
      ((∀ detail, store.connection ≠ .unavailable detail) →
        Bindable approvalId) := by
  simp only [insertConsumed, PyM.avoids_bind_apply, PyM.get_apply,
    PyM.ofExcept_apply, PyM.set_apply, Prod.mk.injEq, Except.ok.injEq,
    avoids_mapError, translateFailure_isBuiltin_iff, avoids_ok,
    implies_true, and_true, true_and, and_imp]
  constructor
  · intro avoids
    exact execute_avoids_iff.mp (avoids store store rfl rfl)
  · rintro bindable _ _ rfl rfl
    exact execute_avoids_iff.mpr bindable

/--
The fields are read first.  Then the id is bound to the statement, if there
is a connection: an integer must fit in 64 bits.
-/
def DurableApprovalStore.Readable (store : DurableApprovalStore)
    (approval : JsonObject)
    (currentPlanHash requesterId executorId : PyStr) (now : PyDateTime) :
    Prop :=
  FieldsReadable approval currentPlanHash requesterId executorId now ∧
  ∀ number,
    FieldsValid approval currentPlanHash requesterId executorId now
      (.int number) →
    (∀ detail, store.connection ≠ .unavailable detail) →
      -2 ^ 63 ≤ number ∧ number < 2 ^ 63

theorem DurableApprovalStore.avoids_builtin_iff
    {store : DurableApprovalStore} :
    Avoids ApprovalError.IsBuiltin
        (validateAndConsume approval currentPlanHash requesterId executorId
          now store).1 ↔
      store.Readable approval currentPlanHash requesterId executorId now := by
  simp only [validateAndConsume, PyM.avoids_bind_apply, PyM.ofExcept_apply,
    Readable, validateApprovalFields_avoids_builtin_iff, Prod.mk.injEq]
  refine and_congr_right fun readable => ?_
  simp only [validateApprovalFields_eq_ok_iff,
    insertConsumed_avoids_builtin_iff, and_imp]
  constructor
  · intro bindable number valid connected
    exact bindable _ _ valid rfl connected
  · rintro fits approvalId _ valid rfl connected
    cases approvalId with
    | int number => exact fits number valid connected
    | str text =>
        obtain ⟨_, signed, -⟩ := valid.signed
        have scalar := (computeSignatureRef_eq_ok_iff.mp signed).1
        simp only [signatureText, Json.toStr, surrogateFree_append] at scalar
        exact scalar.1.1
    | _ => trivial

instance : ReadableApprovals ApprovalStore where
  Readable := ApprovalStore.Readable
  avoids_builtin_iff := ApprovalStore.avoids_builtin_iff

instance : ReadableApprovals DurableApprovalStore where
  Readable := DurableApprovalStore.Readable
  avoids_builtin_iff := DurableApprovalStore.avoids_builtin_iff

end Stores

end ArgosCyberTools.Policies
