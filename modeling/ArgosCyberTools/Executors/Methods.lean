import ArgosCyberTools.Executors.Action

/-!
# The three executors

The simulated states of `executors.kubernetes`, `executors.scale_to_zero`
and `executors.increase_monitoring`, and their methods.  Each state is a
dictionary from targets; every operation writes the entry of one target,
and carries the proof that the other entries keep what they held.
-/

namespace ArgosCyberTools.Executors

open Python ToolCatalog

/-! ## States with one slot for each target -/

/-- What a state can hold for a target. -/
inductive Slot where
  | policy (policyName : PyStr)
  | replicas (original current : Int)
  | levels (original current : PyStr)
deriving DecidableEq

/-- A state that is a dictionary from targets. -/
class TargetState (State : Type) where
  Value : Type
  entries : State → PyDict PyStr Value
  ofEntries : PyDict PyStr Value → State
  ofEntries_entries (state : State) : ofEntries (entries state) = state
  entries_ofEntries (dict : PyDict PyStr Value) :
    entries (ofEntries dict) = dict
  observe : Value → Slot
  observe_injective : Function.Injective observe

section Slots

variable {State : Type} [TargetState State]

open TargetState

/-- What the state holds for a target. -/
def slot (state : State) (target : PyStr) : Option Slot :=
  ((entries state).get? target).map observe

theorem slot_assign_self (state : State) (target : PyStr)
    (value : TargetState.Value State) :
    slot (ofEntries ((entries state).assign target value) : State) target =
      some (observe value) := by
  simp [slot, entries_ofEntries]

theorem slot_assign_of_ne (state : State) {target other : PyStr}
    (value : TargetState.Value State) (different : other ≠ target) :
    slot (ofEntries ((entries state).assign target value) : State) other =
      slot state other := by
  simp [slot, entries_ofEntries, PyDict.get?_assign_of_ne _ _ different]

/-- Writing what a slot holds changes nothing, not even the order. -/
theorem assign_of_slot (state : State) {target : PyStr}
    (value : TargetState.Value State)
    (held : slot state target = some (observe value)) :
    (ofEntries ((entries state).assign target value) : State) = state := by
  have present : (entries state).get? target = some value := by
    obtain ⟨found, foundHeld, same⟩ := Option.map_eq_some_iff.mp held
    rwa [observe_injective same] at foundHeld
  rw [(PyDict.assign_eq_self_iff _ _ _).mpr present, ofEntries_entries]

theorem slot_pop_self (state : State) (target : PyStr) :
    slot (ofEntries ((entries state).pop target) : State) target = none := by
  simp [slot, entries_ofEntries, PyDict.get?_pop]

theorem slot_pop_of_ne (state : State) {target other : PyStr}
    (different : other ≠ target) :
    slot (ofEntries ((entries state).pop target) : State) other =
      slot state other := by
  simp [slot, entries_ofEntries, PyDict.get?_pop, different]

end Slots

/-! ## Operations on one slot -/

/-- An operation on the slot of its target. -/
structure SlotOperation (State : Type) [TargetState State] where
  producer : PyStr
  dryRun : Bool
  act (target : PyStr) : State → Effect State
  /-- What the operation leaves in the slot of its target. -/
  leaves (target : PyStr) : State → Option Slot
  here (target : PyStr) (state : State) :
    slot (act target state).state target = leaves target state
  elsewhere (target other : PyStr) (state : State)
    (different : other ≠ target) :
    slot (act target state).state other = slot state other
  settled (target : PyStr) (state : State)
    (held : slot state target = leaves target state) :
    (act target state).state = state

namespace SlotOperation

variable {State : Type} [TargetState State]

theorem act_eq_self_iff (operation : SlotOperation State)
    (target : PyStr) (state : State) :
    (operation.act target state).state = state ↔
      slot state target = operation.leaves target state := by
  constructor
  · intro unchanged
    have here := operation.here target state
    rwa [unchanged] at here
  · exact operation.settled target state

/-- Run the operation through the recorded sequence. -/
def perform [PyRuntime] (operation : SlotOperation State)
    (contract : Contract) (stamps : Stamps) (arguments : ActionArguments) :
    PyM (Executor State) ActionError JsonObject :=
  recordedAction
    (fullPayload operation.producer arguments operation.dryRun stamps)
    contract arguments.idempotencyKey (operation.act arguments.target)

section Performed

variable [PyRuntime] {operation : SlotOperation State}
  {contract : Contract} {stamps : Stamps} {arguments : ActionArguments}
  {executor : Executor State}

/-- The record the operation builds of its effect on a state. -/
def Builds (operation : SlotOperation State) (stamps : Stamps)
    (arguments : ActionArguments) (state : State) (record : JsonObject) :
    Prop :=
  fullPayload operation.producer arguments operation.dryRun stamps
    (operation.act arguments.target state) = .ok record

/-- The three ways an operation ends. -/
inductive Performed (operation : SlotOperation State) (contract : Contract)
    (stamps : Stamps) (arguments : ActionArguments)
    (executor : Executor State) :
    Except ActionError JsonObject × Executor State → Prop where
  | remembered {cached : JsonObject}
      (held :
        executor.idempotency.get arguments.idempotencyKey = some cached) :
      Performed operation contract stamps arguments executor
        (.ok cached, executor)
  | accepted {record : JsonObject}
      (unheld : executor.idempotency.get arguments.idempotencyKey = none)
      (built : operation.Builds stamps arguments executor.state record)
      (accepts : contract record = []) :
      Performed operation contract stamps arguments executor
        (.ok record,
          ⟨(operation.act arguments.target executor.state).state,
            executor.idempotency.remember arguments.idempotencyKey record⟩)
  | rejected {record : JsonObject}
      (unheld : executor.idempotency.get arguments.idempotencyKey = none)
      (built : operation.Builds stamps arguments executor.state record)
      (rejects : contract record ≠ []) :
      Performed operation contract stamps arguments executor
        (.error (.invalidActionResult (contract record)),
          { executor with
            state := (operation.act arguments.target executor.state).state })

theorem performed (operation : SlotOperation State) (contract : Contract)
    (stamps : Stamps) (arguments : ActionArguments)
    (executor : Executor State) :
    Performed operation contract stamps arguments executor
      (operation.perform contract stamps arguments executor) := by
  rw [perform]
  cases held : executor.idempotency.get arguments.idempotencyKey with
  | some cached =>
      rw [recordedAction_of_remembered held]
      exact .remembered held
  | none =>
      obtain ⟨record, built⟩ := exists_fullPayload operation.producer
        arguments operation.dryRun stamps
        (operation.act arguments.target executor.state)
      rw [recordedAction_of_new held built]
      split_ifs with accepts
      · exact .accepted held built accepts
      · exact .rejected held built accepts

/-- A contract that rejects every record stops a new key, effect and all. -/
theorem perform_of_rejection (operation : SlotOperation State)
    {messages : List PyStr}
    (unheld : executor.idempotency.get arguments.idempotencyKey = none)
    (rejects : messages ≠ []) :
    operation.perform (fun _ => messages) stamps arguments executor =
      (.error (.invalidActionResult messages),
        { executor with
          state :=
            (operation.act arguments.target executor.state).state }) := by
  obtain ⟨record, built⟩ := exists_fullPayload operation.producer
    arguments operation.dryRun stamps
    (operation.act arguments.target executor.state)
  rw [perform, recordedAction_of_new unheld built, if_neg rejects]

end Performed

end SlotOperation

/-- What an executor method reports when it changes nothing. -/
def dryRunEffect {State : Type} (state : State) : Effect State :=
  ⟨state, [], true, "dry-run: sin cambios aplicados"⟩

/-! ## `executors.kubernetes` -/

/-- target → name of the policy applied to it. -/
structure FakeClusterState where
  isolated : PyDict PyStr PyStr
deriving DecidableEq

namespace FakeClusterState

instance : TargetState FakeClusterState where
  Value := PyStr
  entries := isolated
  ofEntries := .mk
  ofEntries_entries _ := rfl
  entries_ofEntries _ := rfl
  observe := .policy
  observe_injective _ _ same := by simpa using same

def policyName (target : PyStr) : PyStr :=
  "ciliumnetworkpolicy/" ++ target.afterLast 0x2F ++ "-isolate"

def applyIsolation (cluster : FakeClusterState) (target : PyStr) :
    PyStr × FakeClusterState :=
  (policyName target,
    ⟨cluster.isolated.assign target (policyName target)⟩)

def removeIsolation (cluster : FakeClusterState) (target : PyStr) :
    FakeClusterState :=
  ⟨cluster.isolated.pop target⟩

def isIsolated (cluster : FakeClusterState) (target : PyStr) : Bool :=
  cluster.isolated.contains target

end FakeClusterState

def isolation (dryRun : Bool) : SlotOperation FakeClusterState where
  producer := "kubernetes-executor"
  dryRun := dryRun
  act target cluster :=
    if dryRun then dryRunEffect cluster
    else
      let (policyName, isolated) := cluster.applyIsolation target
      ⟨isolated, [policyName], isolated.isIsolated target,
        "aislamiento confirmado para " ++ target⟩
  leaves target cluster :=
    if dryRun then slot cluster target
    else some (.policy (FakeClusterState.policyName target))
  here target cluster := by
    cases dryRun with
    | true => rfl
    | false => exact slot_assign_self cluster target _
  elsewhere target other cluster different := by
    cases dryRun with
    | true => rfl
    | false => exact slot_assign_of_ne cluster _ different
  settled target cluster held := by
    cases dryRun with
    | true => rfl
    | false =>
        exact assign_of_slot cluster
          (FakeClusterState.policyName target) held

/-- `KubernetesExecutor.isolate_workload`. -/
def isolateWorkload [PyRuntime] (contract : Contract) (stamps : Stamps)
    (arguments : ActionArguments) (dryRun : Bool) :
    PyM (Executor FakeClusterState) ActionError JsonObject :=
  (isolation dryRun).perform contract stamps arguments

/-! ## `executors.scale_to_zero` -/

/-- target → (original replicas, current replicas). -/
structure FakeReplicaState where
  replicas : PyDict PyStr (Int × Int)
deriving DecidableEq

namespace FakeReplicaState

instance : TargetState FakeReplicaState where
  Value := Int × Int
  entries := replicas
  ofEntries := .mk
  ofEntries_entries _ := rfl
  entries_ofEntries _ := rfl
  observe pair := .replicas pair.1 pair.2
  observe_injective left right same := by
    simp only [Slot.replicas.injEq] at same
    exact Prod.ext same.1 same.2

/-- A target not seen before has one replica. -/
def replicasOf (state : FakeReplicaState) (target : PyStr) : Int × Int :=
  (state.replicas.get? target).getD (1, 1)

def currentReplicas (state : FakeReplicaState) (target : PyStr) : Int :=
  (state.replicasOf target).2

def originalReplicas (state : FakeReplicaState) (target : PyStr) : Int :=
  (state.replicasOf target).1

def scaleToZero (state : FakeReplicaState) (target : PyStr) :
    Int × FakeReplicaState :=
  let original := (state.replicasOf target).1
  (original, ⟨state.replicas.assign target (original, 0)⟩)

end FakeReplicaState

def scalingToZero (dryRun : Bool) : SlotOperation FakeReplicaState where
  producer := "scale-to-zero-executor"
  dryRun := dryRun
  act target state :=
    if dryRun then dryRunEffect state
    else
      let scaled := (state.scaleToZero target).2
      ⟨scaled, [target], decide (scaled.currentReplicas target = 0),
        "réplicas en 0 para " ++ target⟩
  leaves target state :=
    if dryRun then slot state target
    else some (.replicas (state.originalReplicas target) 0)
  here target state := by
    cases dryRun with
    | true => rfl
    | false => exact slot_assign_self state target _
  elsewhere target other state different := by
    cases dryRun with
    | true => rfl
    | false => exact slot_assign_of_ne state _ different
  settled target state held := by
    cases dryRun with
    | true => rfl
    | false =>
        exact assign_of_slot state (state.originalReplicas target, 0) held

/-- `ScaleToZeroExecutor.scale_to_zero`. -/
def scaleToZero [PyRuntime] (contract : Contract) (stamps : Stamps)
    (arguments : ActionArguments) (dryRun : Bool) :
    PyM (Executor FakeReplicaState) ActionError JsonObject :=
  (scalingToZero dryRun).perform contract stamps arguments

/-! ## `executors.increase_monitoring` -/

def normalLevel : PyStr := "normal"

def verboseLevel : PyStr := "verbose"

/-- target → (original level, current level). -/
structure FakeMonitoringState where
  levels : PyDict PyStr (PyStr × PyStr)
deriving DecidableEq

namespace FakeMonitoringState

instance : TargetState FakeMonitoringState where
  Value := PyStr × PyStr
  entries := levels
  ofEntries := .mk
  ofEntries_entries _ := rfl
  entries_ofEntries _ := rfl
  observe pair := .levels pair.1 pair.2
  observe_injective left right same := by
    simp only [Slot.levels.injEq] at same
    exact Prod.ext same.1 same.2

/-- A target not seen before is at the normal level. -/
def levelsOf (state : FakeMonitoringState) (target : PyStr) :
    PyStr × PyStr :=
  (state.levels.get? target).getD (normalLevel, normalLevel)

def currentLevel (state : FakeMonitoringState) (target : PyStr) : PyStr :=
  (state.levelsOf target).2

def originalLevel (state : FakeMonitoringState) (target : PyStr) : PyStr :=
  (state.levelsOf target).1

def increaseMonitoring (state : FakeMonitoringState) (target : PyStr) :
    PyStr × FakeMonitoringState :=
  let original := (state.levelsOf target).1
  (original, ⟨state.levels.assign target (original, verboseLevel)⟩)

end FakeMonitoringState

def monitoringIncrease (dryRun : Bool) :
    SlotOperation FakeMonitoringState where
  producer := "increase-monitoring-executor"
  dryRun := dryRun
  act target state :=
    if dryRun then dryRunEffect state
    else
      let increased := (state.increaseMonitoring target).2
      ⟨increased, [target],
        decide (increased.currentLevel target = verboseLevel),
        "verbosidad elevada a '" ++ verboseLevel ++ "' para " ++ target⟩
  leaves target state :=
    if dryRun then slot state target
    else some (.levels (state.originalLevel target) verboseLevel)
  here target state := by
    cases dryRun with
    | true => rfl
    | false => exact slot_assign_self state target _
  elsewhere target other state different := by
    cases dryRun with
    | true => rfl
    | false => exact slot_assign_of_ne state _ different
  settled target state held := by
    cases dryRun with
    | true => rfl
    | false =>
        exact assign_of_slot state
          (state.originalLevel target, verboseLevel) held

/-- `IncreaseMonitoringExecutor.increase_monitoring`. -/
def increaseMonitoring [PyRuntime] (contract : Contract) (stamps : Stamps)
    (arguments : ActionArguments) (dryRun : Bool) :
    PyM (Executor FakeMonitoringState) ActionError JsonObject :=
  (monitoringIncrease dryRun).perform contract stamps arguments

end ArgosCyberTools.Executors
