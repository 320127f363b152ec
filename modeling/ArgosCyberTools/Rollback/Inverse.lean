import ArgosCyberTools.Rollback.FailedActions
import ArgosCyberTools.Rollback.Operations

/-!
# What a rollback restores

Each state keeps one slot for a target, with the value the target had before
anything was done to it.  A rollback restores that value, whatever the number
of actions in force; it is the inverse of the execute before it exactly when
none was.
-/

namespace ArgosCyberTools.Rollback

open Python Executors Transition

/-- What a state shows of a target. -/
inductive Standing where
  | isolated (isIsolated : Bool)
  | replicas (currentReplicas : Int)
  | level (currentLevel : PyStr)
deriving DecidableEq

/-- `is_isolated`, `current_replicas` or `current_level`. -/
def standingIn : (kind : ExecutorKind) → kind.State → PyStr → Standing
  | .kubernetes, cluster, target => .isolated (cluster.isIsolated target)
  | .scaleToZero, state, target => .replicas (state.currentReplicas target)
  | .increaseMonitoring, state, target => .level (state.currentLevel target)

/-- Not isolated, `original_replicas` or `original_level`. -/
def originalIn : (kind : ExecutorKind) → kind.State → PyStr → Standing
  | .kubernetes, _, _ => .isolated false
  | .scaleToZero, state, target => .replicas (state.originalReplicas target)
  | .increaseMonitoring, state, target =>
      .level (state.originalLevel target)

/-! ## One state -/

/-- What a slot shows; a missing one shows the default of its state. -/
def standingOf : ExecutorKind → Option Slot → Standing
  | .kubernetes, held => .isolated held.isSome
  | .scaleToZero, some (.replicas _ current) => .replicas current
  | .scaleToZero, _ => .replicas 1
  | .increaseMonitoring, some (.levels _ current) => .level current
  | .increaseMonitoring, _ => .level normalLevel

/-- What a slot is restored to. -/
def originalOf : ExecutorKind → Option Slot → Standing
  | .kubernetes, _ => .isolated false
  | .scaleToZero, some (.replicas original _) => .replicas original
  | .scaleToZero, _ => .replicas 1
  | .increaseMonitoring, some (.levels original _) => .level original
  | .increaseMonitoring, _ => .level normalLevel

theorem slot_of_replicas {state : FakeReplicaState} {target : PyStr}
    {held : Option (Int × Int)} (found : state.replicas.get? target = held) :
    slot state target = held.map fun pair => .replicas pair.1 pair.2 :=
  congrArg (Option.map _) found

theorem slot_of_levels {state : FakeMonitoringState} {target : PyStr}
    {held : Option (PyStr × PyStr)}
    (found : state.levels.get? target = held) :
    slot state target = held.map fun pair => .levels pair.1 pair.2 :=
  congrArg (Option.map _) found

/-- A slot holds what its state shows and restores. -/
theorem replicas_of_slot (state : FakeReplicaState) (target : PyStr) :
    Standing.replicas (state.currentReplicas target) =
        standingOf .scaleToZero (slot state target) ∧
      Standing.replicas (state.originalReplicas target) =
        originalOf .scaleToZero (slot state target) := by
  cases found : state.replicas.get? target with
  | none =>
      rw [slot_of_replicas found, FakeReplicaState.currentReplicas,
        FakeReplicaState.originalReplicas, FakeReplicaState.replicasOf, found]
      exact ⟨rfl, rfl⟩
  | some pair =>
      rw [slot_of_replicas found, FakeReplicaState.currentReplicas,
        FakeReplicaState.originalReplicas, FakeReplicaState.replicasOf, found]
      exact ⟨rfl, rfl⟩

theorem level_of_slot (state : FakeMonitoringState) (target : PyStr) :
    Standing.level (state.currentLevel target) =
        standingOf .increaseMonitoring (slot state target) ∧
      Standing.level (state.originalLevel target) =
        originalOf .increaseMonitoring (slot state target) := by
  cases found : state.levels.get? target with
  | none =>
      rw [slot_of_levels found, FakeMonitoringState.currentLevel,
        FakeMonitoringState.originalLevel, FakeMonitoringState.levelsOf,
        found]
      exact ⟨rfl, rfl⟩
  | some pair =>
      rw [slot_of_levels found, FakeMonitoringState.currentLevel,
        FakeMonitoringState.originalLevel, FakeMonitoringState.levelsOf,
        found]
      exact ⟨rfl, rfl⟩

theorem standingIn_eq (kind : ExecutorKind) (state : kind.State)
    (target : PyStr) :
    standingIn kind state target = standingOf kind (slot state target) := by
  cases kind with
  | kubernetes => exact congrArg Standing.isolated (Option.isSome_map).symm
  | scaleToZero => exact (replicas_of_slot state target).1
  | increaseMonitoring => exact (level_of_slot state target).1

theorem originalIn_eq (kind : ExecutorKind) (state : kind.State)
    (target : PyStr) :
    originalIn kind state target = originalOf kind (slot state target) := by
  cases kind with
  | kubernetes => rfl
  | scaleToZero => exact (replicas_of_slot state target).2
  | increaseMonitoring => exact (level_of_slot state target).2

/-- What an operation leaves in the slot is restored to the same. -/
theorem originalOf_leaves (kind : ExecutorKind) (act : Act) (target : PyStr)
    (state : kind.State) :
    originalOf kind ((act.operation kind).leaves target state) =
      originalIn kind state target := by
  cases kind with
  | kubernetes => rfl
  | scaleToZero =>
      rcases act with (_ | _) | _
      · rfl
      · exact (originalIn_eq .scaleToZero state target).symm
      · rfl
  | increaseMonitoring =>
      rcases act with (_ | _) | _
      · rfl
      · exact (originalIn_eq .increaseMonitoring state target).symm
      · rfl

/-- No operation changes what a target is restored to. -/
theorem originalIn_act (kind : ExecutorKind) (act : Act)
    (target other : PyStr) (state : kind.State) :
    originalIn kind ((act.operation kind).act target state).state other =
      originalIn kind state other := by
  by_cases here : other = target
  · rw [here, originalIn_eq, (act.operation kind).here, originalOf_leaves]
  · rw [originalIn_eq, (act.operation kind).elsewhere _ _ _ here,
      ← originalIn_eq]

/-- An operation does not show on other targets. -/
theorem standingIn_act_of_ne (kind : ExecutorKind) (act : Act)
    {target other : PyStr} (different : other ≠ target)
    (state : kind.State) :
    standingIn kind ((act.operation kind).act target state).state other =
      standingIn kind state other := by
  rw [standingIn_eq, (act.operation kind).elsewhere _ _ _ different,
    ← standingIn_eq]

/-- A rollback shows the target as it originally was. -/
theorem standingIn_rollback (kind : ExecutorKind) (target : PyStr)
    (state : kind.State) :
    standingIn kind ((Act.rollback.operation kind).act target state).state
        target =
      originalIn kind state target := by
  rw [standingIn_eq, (Act.rollback.operation kind).here]
  cases kind <;> rfl

/-! ## Shared states -/

section Worlds

variable {Handle : Type}

/-- What the states of a world show of a target. -/
def standing (world : World Handle) (kind : ExecutorKind) (target : PyStr) :
    Standing :=
  standingIn kind (world.state kind) target

/-- What the states of a world restore a target to. -/
def original (world : World Handle) (kind : ExecutorKind) (target : PyStr) :
    Standing :=
  originalIn kind (world.state kind) target

variable [PyRuntime] [DecidableEq Handle] {contract : Contract}
  {world after initial : World Handle} {event : OperationEvent Handle}
  {events : List (OperationEvent Handle)}

/-- A step keeps what every target is restored to. -/
theorem original_of_step (step : OperationStep contract world event after)
    (kind : ExecutorKind) (target : PyStr) :
    original after kind target = original world kind target := by
  apply @Operated.state_of _ _ _ _ _ _ _ _
    (fun kind state => originalIn kind state target =
      original world kind target) (operated step)
  · rfl
  · intro _
    exact originalIn_act _ event.call.act _ target _

/-- So does a run. -/
theorem original_of_run
    (run : Run (OperationStep contract) initial events world)
    (kind : ExecutorKind) (target : PyStr) :
    original world kind target = original initial kind target :=
  run.invariant
    (fun reached => original reached kind target =
      original initial kind target)
    (fun same step => (original_of_step step kind target).trans same) rfl

/-- A step shows on the target of its kind alone. -/
theorem standing_of_step (step : OperationStep contract world event after)
    {kind : ExecutorKind} {target : PyStr}
    (elsewhere : ¬ (kind = event.call.executor.kind ∧
      target = event.call.arguments.target)) :
    standing after kind target = standing world kind target := by
  apply @Operated.state_of _ _ _ _ _ _ _ _
    (fun kind state => standingIn kind state target =
      standing world kind target) (operated step)
  · rfl
  · intro ofKind
    exact standingIn_act_of_ne _ event.call.act
      (fun same => elsewhere ⟨ofKind.symm, same⟩) _

/-- A rollback under a new key restores its target. -/
theorem standing_of_rollback (step : OperationStep contract world event after)
    (rollback : event.call.act = .rollback)
    (unused : rememberedIn world event.call.storeKey = none) :
    standing after event.call.executor.kind event.call.arguments.target =
      original world event.call.executor.kind
        event.call.arguments.target := by
  have ended := operated step
  have unheld : (world.stores event.call.executor.store).get
      event.call.arguments.idempotencyKey = none := unused
  rw [standing, ended.state_eq, if_pos unheld, OperationCall.effectOn,
    OperationCall.operation, rollback]
  exact standingIn_rollback _ _ _

/-- An execute, and the rollback of the same target, under new keys. -/
structure ExecutedAndReverted (contract : Contract) (world : World Handle)
    (executed reverted : OperationEvent Handle) (after : World Handle) :
    Prop where
  isExecute : executed.call.act = .execute false
  isRollback : reverted.call.act = .rollback
  sameKind : reverted.call.executor.kind = executed.call.executor.kind
  sameTarget : reverted.call.arguments.target =
    executed.call.arguments.target
  steps : ∃ middle, OperationStep contract world executed middle ∧
    rememberedIn world executed.call.storeKey = none ∧
    OperationStep contract middle reverted after ∧
    rememberedIn middle reverted.call.storeKey = none

/--
After any run, an execute and its rollback leave every target as it was
except their own, which they leave as it was before any action; they leave
that one as it was too exactly when no action was in force on it.
-/
theorem rollback_restores_original
    {executed reverted : OperationEvent Handle}
    (run : Run (OperationStep contract) initial events world)
    (pair : ExecutedAndReverted contract world executed reverted after) :
    (∀ kind target, standing after kind target =
      if kind = executed.call.executor.kind ∧
          target = executed.call.arguments.target then
        original initial kind target
      else standing world kind target) ∧
    ((∀ kind target, standing after kind target =
        standing world kind target) ↔
      standing world executed.call.executor.kind
          executed.call.arguments.target =
        original initial executed.call.executor.kind
          executed.call.arguments.target) := by
  obtain ⟨middle, first, -, second, unused⟩ := pair.steps
  have shown (kind : ExecutorKind) (target : PyStr) :
      standing after kind target =
        if kind = executed.call.executor.kind ∧
            target = executed.call.arguments.target then
          original initial kind target
        else standing world kind target := by
    split_ifs with here
    · obtain ⟨rfl, rfl⟩ := here
      have restored := standing_of_rollback second pair.isRollback unused
      rw [pair.sameKind, pair.sameTarget] at restored
      rw [restored, original_of_step first, original_of_run run]
    · have away : ¬ (kind = reverted.call.executor.kind ∧
          target = reverted.call.arguments.target) := by
        rwa [pair.sameKind, pair.sameTarget]
      rw [standing_of_step second away, standing_of_step first here]
  refine ⟨shown, fun inverse => ?_, fun idle kind target => ?_⟩
  · rw [← inverse, shown, if_pos ⟨rfl, rfl⟩]
  · rw [shown]
    split_ifs with here
    · rw [here.1, here.2, idle]
    · rfl

/-- Under two unused keys, both calls apply their effects. -/
theorem exists_executedAndReverted {execute rollback : OperationCall Handle}
    (accepts : ∀ record, contract record = [])
    (isExecute : execute.act = .execute false)
    (isRollback : rollback.act = .rollback)
    (sameKind : rollback.executor.kind = execute.executor.kind)
    (sameTarget : rollback.arguments.target = execute.arguments.target)
    (unused : rememberedIn world execute.storeKey = none)
    (rollbackUnused : rememberedIn world rollback.storeKey = none)
    (different : rollback.storeKey ≠ execute.storeKey) :
    ∃ executed reverted after,
      ExecutedAndReverted contract world executed reverted after ∧
        executed.call = execute ∧
        standing after rollback.executor.kind rollback.arguments.target =
          original world rollback.executor.kind
            rollback.arguments.target := by
  obtain ⟨record, middle, first, -, others, -⟩ :=
    exists_operationStep_of_new unused accepts
  have still : rememberedIn middle rollback.storeKey = none :=
    (others _ different).trans rollbackUnused
  obtain ⟨reversal, after, second, -⟩ :=
    exists_operationStep_of_new still accepts
  refine ⟨⟨execute, .ok record⟩, ⟨rollback, .ok reversal⟩, after, ?_, rfl, ?_⟩
  · exact
      { isExecute := isExecute
        isRollback := isRollback
        sameKind := sameKind
        sameTarget := sameTarget
        steps := ⟨middle, first, unused, second, still⟩ }
  · have restored := standing_of_rollback second isRollback still
    rw [restored]
    exact original_of_step first _ _

end Worlds

section Example

attribute [local instance] Reference.runtime

open McpGateway.Scenario

/-- An operation on the target of the incident, for an action. -/
def incidentCall (act : Act) (idempotencyKey actionId : PyStr) :
    OperationCall Unit where
  executor := ⟨.kubernetes, ()⟩
  act := act
  stamps := isolateStamps
  arguments := ⟨"run-1", target, idempotencyKey, actionId⟩

theorem incidentCall_same (act other : Act)
    (idempotencyKey otherKey actionId otherId : PyStr) :
    (incidentCall act idempotencyKey actionId).executor.kind =
        (incidentCall other otherKey otherId).executor.kind ∧
      (incidentCall act idempotencyKey actionId).arguments.target =
        (incidentCall other otherKey otherId).arguments.target :=
  ⟨rfl, rfl⟩

/-- On an untouched world, a rollback is the inverse of its execute. -/
theorem rollback_restores_original_when_idle :
    ∃ executed reverted after,
      ExecutedAndReverted (fun _ => []) untouchedWorld executed reverted
          after ∧
        ∀ kind target, standing after kind target =
          standing untouchedWorld kind target := by
  obtain ⟨executed, reverted, after, pair, isolates, -⟩ :=
    @exists_executedAndReverted _ _ _ (fun _ => []) untouchedWorld
      (incidentCall (.execute false) "key-1" "action-1")
      (incidentCall .rollback "key-2" "action-1") (fun _ => rfl) rfl rfl
      (incidentCall_same _ _ _ _ _ _).1 (incidentCall_same _ _ _ _ _ _).2
      rfl rfl (by decide)
  refine ⟨executed, reverted, after, pair, ?_⟩
  apply (rollback_restores_original (.done untouchedWorld) pair).2.mpr
  rw [isolates]
  rfl

/-- Rolling back one isolation lifts the one an earlier action put in place. -/
theorem rollback_lifts_earlier_isolation :
    ∃ earlier executed reverted world after,
      OperationStep (fun _ => []) untouchedWorld earlier world ∧
        ExecutedAndReverted (fun _ => []) world executed reverted after ∧
        earlier.call = incidentCall (.execute false) "key-1" "action-1" ∧
        executed.call = incidentCall (.execute false) "key-2" "action-2" ∧
        standing world .kubernetes target = .isolated true ∧
        standing after .kubernetes target = .isolated false := by
  obtain ⟨record, world, first, -, others, applied⟩ :=
    @exists_operationStep_of_new _ _ _ (fun _ => [])
      (incidentCall (.execute false) "key-1" "action-1") untouchedWorld rfl
      fun _ => rfl
  have unused (key : PyStr) (different : key ≠ ("key-1" : PyStr)) :
      rememberedIn world ((), key) = none := by
    rw [others _ fun same => different (Prod.mk.inj same).2]
    rfl
  obtain ⟨executed, reverted, after, pair, isolates, lifted⟩ :=
    @exists_executedAndReverted _ _ _ (fun _ => []) world
      (incidentCall (.execute false) "key-2" "action-2")
      (incidentCall .rollback "key-3" "action-2") (fun _ => rfl) rfl rfl
      (incidentCall_same _ _ _ _ _ _).1 (incidentCall_same _ _ _ _ _ _).2
      (unused _ (by decide)) (unused _ (by decide)) (by decide)
  refine ⟨_, executed, reverted, world, after, first, pair, rfl, isolates, ?_,
    lifted⟩
  have isolated : world.cluster =
      (FakeClusterState.applyIsolation ⟨PyDict.empty⟩ target).2 := applied
  have contained : world.cluster.isIsolated target = true := by
    rw [isolated]
    simp [FakeClusterState.applyIsolation, FakeClusterState.isIsolated,
      PyDict.contains]
  exact congrArg Standing.isolated contained

end Example

end ArgosCyberTools.Rollback
