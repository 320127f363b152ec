import ArgosCyberTools.Executors.Methods

/-!
# Rollback strategies

`rollback.strategies`: each strategy restores the slot an executor method
wrote, through the same recorded sequence.  A strategy called without an
idempotency store remembers its result in a store of its own, which is gone
when it returns.
-/

namespace ArgosCyberTools.Rollback

open Python Executors

/-- A state, and the idempotency store a strategy is called with. -/
structure Scope (State : Type) where
  state : State
  idempotency : Option IdempotencyStore

/-- `idempotency = idempotency or IdempotencyStore()`. -/
def Scope.executor {State : Type} (scope : Scope State) : Executor State :=
  ⟨scope.state, scope.idempotency.getD .fresh⟩

def Scope.left {State : Type} (executor : Executor State)
    (scope : Scope State) : Scope State :=
  ⟨executor.state, scope.idempotency.map fun _ => executor.idempotency⟩

def isolationRollback : SlotOperation FakeClusterState where
  producer := "kubernetes-executor-rollback"
  dryRun := false
  act target cluster :=
    match cluster.isolated.get? target with
    | some policyName =>
        let reverted := cluster.removeIsolation target
        ⟨reverted, [policyName], !reverted.isIsolated target,
          "aislamiento revertido para " ++ target⟩
    | none =>
        ⟨cluster, [], !cluster.isIsolated target,
          "no había aislamiento que revertir"⟩
  leaves _ _ := none
  here target cluster := by
    cases found : cluster.isolated.get? target with
    | some policyName => exact slot_pop_self cluster target
    | none => exact congrArg (Option.map Slot.policy) found
  elsewhere target other cluster different := by
    cases found : cluster.isolated.get? target with
    | some policyName => exact slot_pop_of_ne cluster different
    | none => rfl
  settled target cluster held := by
    cases found : cluster.isolated.get? target with
    | some policyName =>
        have present : slot cluster target = some (.policy policyName) :=
          congrArg (Option.map Slot.policy) found
        rw [held] at present
        cases present
    | none => rfl

def scalingRollback : SlotOperation FakeReplicaState where
  producer := "scale-to-zero-executor-rollback"
  dryRun := false
  act target state :=
    let original := state.originalReplicas target
    let wasScaledDown := decide (state.currentReplicas target = 0)
    let restored : FakeReplicaState :=
      ⟨state.replicas.assign target (original, original)⟩
    ⟨restored, if wasScaledDown then [target] else [],
      decide (restored.currentReplicas target = original),
      if wasScaledDown then
        "réplicas restauradas a " ++ PyStr.ofInt original ++ " para " ++
          target
      else "no había escalado a cero que revertir"⟩
  leaves target state :=
    some (.replicas (state.originalReplicas target)
      (state.originalReplicas target))
  here target state := slot_assign_self state target _
  elsewhere _ _ state different := slot_assign_of_ne state _ different
  settled target state held :=
    assign_of_slot state
      (state.originalReplicas target, state.originalReplicas target) held

def monitoringRollback : SlotOperation FakeMonitoringState where
  producer := "increase-monitoring-executor-rollback"
  dryRun := false
  act target state :=
    let original := state.originalLevel target
    let wasIncreased := decide (state.currentLevel target = verboseLevel)
    let restored : FakeMonitoringState :=
      ⟨state.levels.assign target (original, original)⟩
    ⟨restored, if wasIncreased then [target] else [],
      decide (restored.currentLevel target = original),
      if wasIncreased then
        "verbosidad restaurada a '" ++ original ++ "' para " ++ target
      else "no había verbosidad elevada que revertir"⟩
  leaves target state :=
    some (.levels (state.originalLevel target) (state.originalLevel target))
  here target state := slot_assign_self state target _
  elsewhere _ _ state different := slot_assign_of_ne state _ different
  settled target state held :=
    assign_of_slot state
      (state.originalLevel target, state.originalLevel target) held

section Strategies

variable [PyRuntime]

def rollbackIsolation (contract : Contract) (stamps : Stamps)
    (arguments : ActionArguments) :
    PyM (Scope FakeClusterState) ActionError JsonObject :=
  PyM.onField Scope.executor Scope.left
    (isolationRollback.perform contract stamps arguments)

def rollbackScaleToZero (contract : Contract) (stamps : Stamps)
    (arguments : ActionArguments) :
    PyM (Scope FakeReplicaState) ActionError JsonObject :=
  PyM.onField Scope.executor Scope.left
    (scalingRollback.perform contract stamps arguments)

def rollbackIncreaseMonitoring (contract : Contract) (stamps : Stamps)
    (arguments : ActionArguments) :
    PyM (Scope FakeMonitoringState) ActionError JsonObject :=
  PyM.onField Scope.executor Scope.left
    (monitoringRollback.perform contract stamps arguments)

end Strategies

/-! ## `mark_rolled_back` -/

def rolledBackStatus : PyStr := "rolled_back"

/-- A copy of the original record that refers to its rollback. -/
def markRolledBack (contract : Contract)
    (originalActionResult rollbackActionResult : JsonObject) :
    Except ActionError JsonObject := do
  let rollbackRef ←
    orExit (rollbackActionResult.get? "id") (.builtin (.keyError "id"))
  let updated :=
    (originalActionResult.assign "status" (.str rolledBackStatus)).assign
      "rollback_ref" rollbackRef
  let errors := contract updated
  raiseIf (!errors.isEmpty) (.invalidActionResult errors)
  return updated

end ArgosCyberTools.Rollback
