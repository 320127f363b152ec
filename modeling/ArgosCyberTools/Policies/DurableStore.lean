import ArgosCyberTools.Policies.Approval
import ArgosCyberTools.Python.Sqlite

/-!
# The durable approval store

`policies.approval.durable_store`: the shared field checks, then one
`INSERT` with the approval id as primary key.  The row is the only record of
consumption; a duplicate key is a replay, any other storage error a refusal.
-/

namespace ArgosCyberTools.Policies

open Python Sqlite

/-- A row of `consumed_approvals`. -/
structure ConsumedApproval where
  approvalId : Option PyStr
  consumedAt : PyStr
  actionBinding : PyStr
deriving DecidableEq

/-- The table `consumed_approvals`. -/
abbrev ConsumedApprovals :=
  Table ConsumedApproval PyStr ConsumedApproval.approvalId

/-- A connection and the table in the file it is connected to. -/
structure DurableApprovalStore where
  connection : Connection
  consumedApprovals : ConsumedApprovals

namespace DurableApprovalStore

/-- `__init__`: `CREATE TABLE IF NOT EXISTS` keeps the rows of a file. -/
def openDatabase (dbPath : PyStr) (connection : Connection)
    (file : Option ConsumedApprovals) :
    Except Rejection DurableApprovalStore :=
  match connection with
  | .unavailable detail => .error (.storageUninitialised dbPath detail)
  | .failing detail => .error (.storageUninitialised dbPath detail)
  | .ready => .ok ⟨.ready, file.getD Table.empty⟩

variable [PyRuntime]

/-- The row an acceptance adds. -/
def consumedRow (now : PyDateTime) (currentPlanHash : PyStr)
    (approvalId : Option PyStr) : ConsumedApproval where
  approvalId := approvalId
  consumedAt := (PyRuntime.isoformat now : PyStr)
  actionBinding := currentPlanHash

/-- The `except` clauses around the `INSERT`. -/
def translateFailure (approvalId : Json) : Failure → ApprovalError
  | .integrity => .rejected (.durableReplay approvalId)
  | .storage detail => .rejected (.storageUnavailable approvalId detail)
  | .builtin error => .builtin error

/-- The `INSERT` that consumes a checked approval. -/
def insertConsumed (approvalId : Json) (currentPlanHash : PyStr)
    (now : PyDateTime) : PyM DurableApprovalStore ApprovalError Unit := do
  let store ← PyM.get
  let inserted ← PyM.ofExcept
    ((execute store.connection store.consumedApprovals
      (consumedRow now currentPlanHash) approvalId).mapError
        (translateFailure approvalId))
  PyM.set { store with consumedApprovals := inserted }

def validateAndConsume (approval : JsonObject)
    (currentPlanHash requesterId executorId : PyStr) (now : PyDateTime) :
    PyM DurableApprovalStore ApprovalError Unit := do
  let approvalId ← PyM.ofExcept
    (validateApprovalFields approval currentPlanHash requesterId executorId now)
  insertConsumed approvalId currentPlanHash now

/-! ## What the store establishes -/

variable {approval : JsonObject}
  {currentPlanHash requesterId executorId : PyStr} {now : PyDateTime}
  {store final : DurableApprovalStore} {approvalId : Json}

/-- The insertion appends one row under a key the table admits. -/
theorem insertConsumed_eq_ok_iff :
    insertConsumed approvalId currentPlanHash now store = (.ok (), final) ↔
      store.connection = .ready ∧ final.connection = .ready ∧
        ∃ bound, bindText approvalId = .ok bound ∧
          store.consumedApprovals.Admits
            (consumedRow now currentPlanHash bound) ∧
          final.consumedApprovals.rows =
            store.consumedApprovals.rows ++
              [consumedRow now currentPlanHash bound] := by
  simp only [insertConsumed, PyM.bind_apply_eq_ok_iff, PyM.get_apply,
    PyM.ofExcept_apply, PyM.set_apply, Prod.mk.injEq, Except.ok.injEq,
    mapError_eq_ok_iff, execute_eq_ok_iff]
  constructor
  · rintro ⟨_, _, ⟨rfl, rfl⟩, inserted, _,
      ⟨⟨ready, bound, bindsTo, admitted, rows⟩, rfl⟩, -, rfl⟩
    exact ⟨ready, ready, bound, bindsTo, admitted, rows⟩
  · rintro ⟨ready, finalReady, bound, bindsTo, admitted, rows⟩
    refine ⟨store, store, ⟨rfl, rfl⟩, final.consumedApprovals, store,
      ⟨⟨ready, bound, bindsTo, admitted, rows⟩, rfl⟩, trivial, ?_⟩
    cases final
    simp only [ready]
    exact congrArg (DurableApprovalStore.mk · _) finalReady.symm

/-- An insertion that raises adds no row. -/
theorem insertConsumed_of_error {error : ApprovalError}
    (raised :
      insertConsumed approvalId currentPlanHash now store =
        (.error error, final)) :
    final = store := by
  simp only [insertConsumed, PyM.bind_apply_eq_error_iff, PyM.get_apply,
    PyM.ofExcept_apply, PyM.set_apply, Prod.mk.injEq] at raised
  grind

/-- An id the table holds is refused as a replay. -/
theorem insertConsumed_of_holds {key : PyStr}
    (ready : store.connection = .ready)
    (bindsTo : bindText approvalId = .ok (some key))
    (held : store.consumedApprovals.Holds key) :
    insertConsumed approvalId currentPlanHash now store =
      (.error (.rejected (.durableReplay approvalId)), store) := by
  have duplicate :
      store.consumedApprovals.insert
          (consumedRow now currentPlanHash (some key)) =
        .error .integrity :=
    Table.insert_eq_error_iff.mpr
      ⟨fun admitted => admitted key rfl held, rfl⟩
  simp [insertConsumed, execute, ready, bindsTo, bind, Except.bind,
    duplicate, Except.mapError, translateFailure]

/-- Acceptance is validity of the fields followed by one insertion. -/
theorem validateAndConsume_eq_ok_iff :
    validateAndConsume approval currentPlanHash requesterId executorId now
        store = (.ok (), final) ↔
      ∃ approvalId,
        FieldsValid approval currentPlanHash requesterId executorId now
          approvalId ∧
        insertConsumed approvalId currentPlanHash now store =
          (.ok (), final) := by
  simp only [validateAndConsume, PyM.bind_apply_eq_ok_iff,
    PyM.ofExcept_apply, Prod.mk.injEq, validateApprovalFields_eq_ok_iff]
  constructor
  · rintro ⟨approvalId, _, ⟨valid, rfl⟩, inserted⟩
    exact ⟨approvalId, valid, inserted⟩
  · rintro ⟨approvalId, valid, inserted⟩
    exact ⟨approvalId, store, ⟨valid, rfl⟩, inserted⟩

/-- A refusal or an exception leaves the file as it was. -/
theorem validateAndConsume_of_error {error : ApprovalError}
    (raised :
      validateAndConsume approval currentPlanHash requesterId executorId now
        store = (.error error, final)) :
    final = store := by
  simp only [validateAndConsume, PyM.bind_apply_eq_error_iff,
    PyM.ofExcept_apply, Prod.mk.injEq] at raised
  rcases raised with ⟨-, rfl⟩ | ⟨approvalId, _, ⟨-, rfl⟩, failed⟩
  · rfl
  · exact insertConsumed_of_error failed

instance : ApprovalStoreProtocol DurableApprovalStore where
  validateAndConsume := validateAndConsume
  Records store final approval currentPlanHash :=
    ∃ approvalId row, approval.get? "approval_id" = some approvalId ∧
      bindText approvalId = .ok row.approvalId ∧
      row.actionBinding = currentPlanHash ∧
      store.consumedApprovals.Admits row ∧
      final.consumedApprovals.rows = store.consumedApprovals.rows ++ [row]
  fields_ok_of_accepted accepted := by
    obtain ⟨approvalId, valid, -⟩ := validateAndConsume_eq_ok_iff.mp accepted
    exact ⟨approvalId, validateApprovalFields_eq_ok_iff.mpr valid⟩
  records_of_accepted accepted := by
    obtain ⟨approvalId, valid, inserted⟩ :=
      validateAndConsume_eq_ok_iff.mp accepted
    obtain ⟨-, -, bound, bindsTo, admitted, rows⟩ :=
      insertConsumed_eq_ok_iff.mp inserted
    exact ⟨approvalId, consumedRow _ _ bound, valid.identified, bindsTo,
      rfl, admitted, rows⟩

end DurableApprovalStore

end ArgosCyberTools.Policies
