import ArgosCyberTools.Rollback.FailedActions

/-!
# What a record reports as changed

Every operation fills `changed_resources` by a test of its own: the executor
methods report their target whenever they are not rehearsed, the strategies
when the action they revert is in force.  The report is true exactly when
that test agrees with what the operation does to its target.
-/

namespace ArgosCyberTools.Rollback

open Python Executors

/-- `changed_resources` is there, and not empty. -/
def ReportsChange (record : JsonObject) : Prop :=
  ∃ resources, record.get? "changed_resources" = some (.list resources) ∧
    resources ≠ []

/-- A record reports a change exactly if what is shown has changed. -/
def ReportsTruly {Before Shown : Type}
    (method : PyM Before ActionError JsonObject) (shown : Before → Shown)
    (before : Before) : Prop :=
  ∀ record after, method before = (.ok record, after) →
    (ReportsChange record ↔ shown after ≠ shown before)

/-! ## The entries of a record -/

section Records

variable [PyRuntime] {State : Type} {producer : PyStr}
  {arguments : ActionArguments} {dryRun : Bool} {stamps : Stamps}
  {effect : Effect State} {record : JsonObject}

/-- A built record names the resources its effect changed. -/
theorem get?_changedResources
    (built : fullPayload producer arguments dryRun stamps effect =
      .ok record) :
    record.get? "changed_resources" =
      some (.list (effect.changedResources.map .str)) := by
  simp only [fullPayload, bind_eq_ok_iff, buildEnvelope, pure_eq_ok_iff]
    at built
  obtain ⟨resultId, -, envelope, ⟨payloadHash, -, rfl⟩, rfl⟩ := built
  rw [PyDict.get?_ofList]
  simp [actionPayload, PyDict.lookupIn]

theorem reportsChange_iff
    (built : fullPayload producer arguments dryRun stamps effect =
      .ok record) :
    ReportsChange record ↔ effect.changedResources ≠ [] := by
  unfold ReportsChange
  rw [get?_changedResources built]
  simp

end Records

/-! ## One operation -/

section Operations

variable [PyRuntime] {State Before Shown : Type} [TargetState State]

/-- The report of an effect agrees with what it shows. -/
def Truthful (operation : SlotOperation State) (target : PyStr)
    (shown : State → Shown) (state : State) : Prop :=
  (operation.act target state).changedResources ≠ [] ↔
    shown (operation.act target state).state ≠ shown state

/--
On every state, a call under a new key whose record the contract accepts
reports truly exactly under this condition on the state.
-/
def TruthfulWhen
    (method : Contract → PyM Before ActionError JsonObject)
    (executor : Before → Executor State) (operation : SlotOperation State)
    (stamps : Stamps) (arguments : ActionArguments)
    (shown : State → Shown) (condition : State → Prop) : Prop :=
  ∀ contract before,
    (executor before).idempotency.get arguments.idempotencyKey = none →
    Accepted contract operation stamps arguments (executor before).state →
      (ReportsTruly (method contract)
          (fun reached => shown (executor reached).state) before ↔
        condition (executor before).state)

variable {contract : Contract} {operation : SlotOperation State}
  {stamps : Stamps} {arguments : ActionArguments}
  {shown : State → Shown}

theorem perform_of_accepted {executor : Executor State}
    (unheld : executor.idempotency.get arguments.idempotencyKey = none)
    (accepted : Accepted contract operation stamps arguments executor.state) :
    ∃ record, operation.Builds stamps arguments executor.state record ∧
      operation.perform contract stamps arguments executor =
        (.ok record,
          ⟨(operation.act arguments.target executor.state).state,
            executor.idempotency.remember arguments.idempotencyKey
              record⟩) := by
  obtain ⟨record, built, accepts⟩ := accepted
  refine ⟨record, built, ?_⟩
  rw [SlotOperation.perform, recordedAction_of_new unheld built,
    if_pos accepts]

theorem reportsTruly_iff_of_run
    {method : PyM Before ActionError JsonObject}
    {executor : Before → Executor State} {before after : Before}
    {record : JsonObject} (ran : method before = (.ok record, after))
    (built :
      operation.Builds stamps arguments (executor before).state record)
    (reached : (executor after).state =
      (operation.act arguments.target (executor before).state).state) :
    ReportsTruly method (fun here => shown (executor here).state) before ↔
      Truthful operation arguments.target shown (executor before).state := by
  have reports := reportsChange_iff built
  unfold ReportsTruly Truthful
  constructor
  · intro truly
    rw [← reports, ← reached]
    exact truly record after ran
  · rintro truthful other final otherRan
    cases ran.symm.trans otherRan
    beta_reduce
    rwa [reports, reached]

theorem truthfulWhen_perform {condition : State → Prop}
    (exactly : ∀ state,
      Truthful operation arguments.target shown state ↔ condition state) :
    TruthfulWhen (operation.perform · stamps arguments) id operation stamps
      arguments shown condition := by
  intro contract executor unheld accepted
  obtain ⟨record, built, ran⟩ := perform_of_accepted unheld accepted
  rw [← exactly]
  exact reportsTruly_iff_of_run ran built rfl

theorem truthfulWhen_strategy {condition : State → Prop}
    (exactly : ∀ state,
      Truthful operation arguments.target shown state ↔ condition state) :
    TruthfulWhen
      (fun contract => PyM.onField Scope.executor Scope.left
        (operation.perform contract stamps arguments))
      Scope.executor operation stamps arguments shown condition := by
  intro contract scope unheld accepted
  obtain ⟨record, built, ran⟩ := perform_of_accepted unheld accepted
  have ranInScope := (@PyM.onField_eq_iff _ _ _ _ Scope.executor Scope.left
    (operation.perform contract stamps arguments) scope _ _).mpr
      ⟨_, ran, rfl⟩
  rw [← exactly]
  exact reportsTruly_iff_of_run ranInScope built rfl

end Operations

/-! ## The six reports -/

section Reports

variable {State Shown : Type} [TargetState State]
  {operation : SlotOperation State} {target : PyStr} {shown : State → Shown}
  {state : State} {contained original : Shown}

/-- A report that is always made is true unless the target is contained. -/
theorem truthful_iff_of_contains
    (reported : (operation.act target state).changedResources ≠ [])
    (reached : shown (operation.act target state).state = contained) :
    Truthful operation target shown state ↔ shown state ≠ contained := by
  rw [Truthful, reached, @ne_comm _ contained]
  exact iff_true_left reported

/-- A report made of contained targets is true of what restoring changes. -/
theorem truthful_iff_of_restores
    (reported : (operation.act target state).changedResources ≠ [] ↔
      shown state = contained)
    (restored : shown (operation.act target state).state = original) :
    Truthful operation target shown state ↔
      Xor (shown state = contained) (shown state = original) := by
  rw [Truthful, reported, restored, xor_iff_iff_not, ne_comm]

end Reports

/-- A rehearsal reports nothing; an isolation reports a new one truly. -/
theorem isolation_truthful_iff (dryRun : Bool) (target : PyStr)
    (cluster : FakeClusterState) :
    Truthful (isolation dryRun) target (·.isIsolated target) cluster ↔
      dryRun = true ∨ cluster.isIsolated target = false := by
  cases dryRun with
  | true => simp [Truthful, isolation, dryRunEffect]
  | false =>
      have isolated : (cluster.applyIsolation target).2.isIsolated target =
          true := by
        simp [FakeClusterState.applyIsolation, FakeClusterState.isIsolated,
          PyDict.contains]
      have exactly := @truthful_iff_of_contains _ _ _ (isolation false) target
        (·.isIsolated target) cluster _ (List.cons_ne_nil _ _) isolated
      simpa using exactly

theorem scalingToZero_truthful_iff (dryRun : Bool) (target : PyStr)
    (state : FakeReplicaState) :
    Truthful (scalingToZero dryRun) target (·.currentReplicas target)
        state ↔
      dryRun = true ∨ state.currentReplicas target ≠ 0 := by
  cases dryRun with
  | true => simp [Truthful, scalingToZero, dryRunEffect]
  | false =>
      have scaled : (state.scaleToZero target).2.currentReplicas target =
          0 := by
        simp [FakeReplicaState.scaleToZero, FakeReplicaState.currentReplicas,
          FakeReplicaState.replicasOf]
      have exactly := @truthful_iff_of_contains _ _ _ (scalingToZero false)
        target (·.currentReplicas target) state _ (List.cons_ne_nil _ _) scaled
      simpa using exactly

theorem monitoringIncrease_truthful_iff (dryRun : Bool) (target : PyStr)
    (state : FakeMonitoringState) :
    Truthful (monitoringIncrease dryRun) target (·.currentLevel target)
        state ↔
      dryRun = true ∨ state.currentLevel target ≠ verboseLevel := by
  cases dryRun with
  | true => simp [Truthful, monitoringIncrease, dryRunEffect]
  | false =>
      have increased : (state.increaseMonitoring target).2.currentLevel
          target = verboseLevel := by
        simp [FakeMonitoringState.increaseMonitoring,
          FakeMonitoringState.currentLevel, FakeMonitoringState.levelsOf]
      have exactly := @truthful_iff_of_contains _ _ _
        (monitoringIncrease false) target (·.currentLevel target) state _
        (List.cons_ne_nil _ _) increased
      simpa using exactly

/-- Lifting an isolation reports the policy it removed, or nothing. -/
theorem isolationRollback_truthful (target : PyStr)
    (cluster : FakeClusterState) :
    Truthful isolationRollback target (·.isIsolated target) cluster := by
  unfold Truthful isolationRollback
  cases found : cluster.isolated.get? target with
  | none => simp [found]
  | some policyName =>
      have isolated : cluster.isIsolated target = true := by
        simp [FakeClusterState.isIsolated, PyDict.contains, found]
      have lifted : (cluster.removeIsolation target).isIsolated target =
          false := by
        simp [FakeClusterState.isIsolated, FakeClusterState.removeIsolation,
          PyDict.contains, PyDict.get?_pop]
      simp [found, isolated, lifted]

/-- The test of the strategy is whether the target is at zero. -/
theorem scalingRollback_truthful_iff (target : PyStr)
    (state : FakeReplicaState) :
    Truthful scalingRollback target (·.currentReplicas target) state ↔
      Xor (state.currentReplicas target = 0)
        (state.currentReplicas target = state.originalReplicas target) := by
  apply truthful_iff_of_restores
  · simp [scalingRollback]
  · simp [scalingRollback, FakeReplicaState.currentReplicas,
      FakeReplicaState.replicasOf]

/-- The test of the strategy is whether the target is verbose. -/
theorem monitoringRollback_truthful_iff (target : PyStr)
    (state : FakeMonitoringState) :
    Truthful monitoringRollback target (·.currentLevel target) state ↔
      Xor (state.currentLevel target = verboseLevel)
        (state.currentLevel target = state.originalLevel target) := by
  apply truthful_iff_of_restores
  · simp [monitoringRollback]
  · simp [monitoringRollback, FakeMonitoringState.currentLevel,
      FakeMonitoringState.levelsOf]

/--
A fresh, accepted call reports truly: an executor method when it is
rehearsed or its action is not in force yet; the rollback of an isolation
always; the other rollbacks when exactly one of two things holds of the
current value, that it is the contained one and that it is the original one.
-/
theorem changed_resources_true_iff [PyRuntime] (stamps : Stamps)
    (arguments : ActionArguments) (dryRun : Bool) :
    TruthfulWhen (isolateWorkload · stamps arguments dryRun) id
        (isolation dryRun) stamps arguments
        (·.isIsolated arguments.target)
        (fun cluster =>
          dryRun = true ∨ cluster.isIsolated arguments.target = false) ∧
      TruthfulWhen (scaleToZero · stamps arguments dryRun) id
        (scalingToZero dryRun) stamps arguments
        (·.currentReplicas arguments.target)
        (fun state =>
          dryRun = true ∨ state.currentReplicas arguments.target ≠ 0) ∧
      TruthfulWhen (increaseMonitoring · stamps arguments dryRun) id
        (monitoringIncrease dryRun) stamps arguments
        (·.currentLevel arguments.target)
        (fun state => dryRun = true ∨
          state.currentLevel arguments.target ≠ verboseLevel) ∧
      TruthfulWhen (rollbackIsolation · stamps arguments) Scope.executor
        isolationRollback stamps arguments
        (·.isIsolated arguments.target) (fun _ => True) ∧
      TruthfulWhen (rollbackScaleToZero · stamps arguments) Scope.executor
        scalingRollback stamps arguments
        (·.currentReplicas arguments.target)
        (fun state => Xor (state.currentReplicas arguments.target = 0)
          (state.currentReplicas arguments.target =
            state.originalReplicas arguments.target)) ∧
      TruthfulWhen (rollbackIncreaseMonitoring · stamps arguments)
        Scope.executor monitoringRollback stamps arguments
        (·.currentLevel arguments.target)
        (fun state => Xor
          (state.currentLevel arguments.target = verboseLevel)
          (state.currentLevel arguments.target =
            state.originalLevel arguments.target)) := by
  refine ⟨?_, ?_, ?_, ?_, ?_, ?_⟩
  · exact truthfulWhen_perform (isolation_truthful_iff dryRun _)
  · exact truthfulWhen_perform (scalingToZero_truthful_iff dryRun _)
  · exact truthfulWhen_perform (monitoringIncrease_truthful_iff dryRun _)
  · apply truthfulWhen_strategy
    intro cluster
    exact iff_true_intro (isolationRollback_truthful _ cluster)
  · exact truthfulWhen_strategy (scalingRollback_truthful_iff _)
  · exact truthfulWhen_strategy (monitoringRollback_truthful_iff _)

section Example

attribute [local instance] Reference.runtime

open McpGateway.Scenario

/-- The incident's target, loaded with these replicas. -/
def loadedReplicas (original current : Int) : Scope FakeReplicaState :=
  ⟨⟨PyDict.empty.assign target (original, current)⟩, none⟩

/-- The first isolation of a workload is reported truly. -/
theorem changed_resources_true_of_first_isolation :
    ∃ record after,
      isolateWorkload (fun _ => []) isolateStamps isolateArguments false
          ⟨⟨PyDict.empty⟩, IdempotencyStore.fresh⟩ = (.ok record, after) ∧
        ReportsChange record ∧ after.state.isIsolated target = true := by
  have accepted : Accepted (fun _ => []) (isolation false) isolateStamps
      isolateArguments ⟨PyDict.empty⟩ :=
    accepted_of_accepting (fun _ => rfl) _ _ _ _
  obtain ⟨record, -, ran⟩ := @perform_of_accepted _ _ _ (fun _ => [])
    (isolation false) isolateStamps isolateArguments
    ⟨⟨PyDict.empty⟩, IdempotencyStore.fresh⟩ rfl accepted
  have truly := ((changed_resources_true_iff isolateStamps isolateArguments
    false).1 (fun _ => []) ⟨⟨PyDict.empty⟩, IdempotencyStore.fresh⟩ rfl
      accepted).mpr (.inr rfl)
  have isolated : ((isolation false).act target
      ⟨PyDict.empty⟩).state.isIsolated target = true := by
    simp [isolation, FakeClusterState.applyIsolation,
      FakeClusterState.isIsolated, PyDict.contains]
  refine ⟨record, _, ran, (truly _ _ ran).mpr ?_, isolated⟩
  intro same
  cases isolated.symm.trans same

/--
A workload that had no replicas to begin with is reported as restored, and
one at two of its five replicas is restored without a report.
-/
theorem changed_resources_untrue :
    ¬ ReportsTruly
        (rollbackScaleToZero (fun _ => []) isolateStamps isolateArguments)
        (fun scope => scope.executor.state.currentReplicas target)
        (loadedReplicas 0 0) ∧
      ¬ ReportsTruly
        (rollbackScaleToZero (fun _ => []) isolateStamps isolateArguments)
        (fun scope => scope.executor.state.currentReplicas target)
        (loadedReplicas 5 2) := by
  have exactly (scope : Scope FakeReplicaState)
      (fresh : scope.executor.idempotency = .fresh) :=
    @truthfulWhen_strategy _ _ _ _ scalingRollback isolateStamps
      isolateArguments _ _ (scalingRollback_truthful_iff target)
      (fun _ => []) scope (by rw [fresh]; rfl)
      (accepted_of_accepting (fun _ => rfl) _ _ _ _)
  constructor
  · intro truly
    have condition := (exactly (loadedReplicas 0 0) rfl).mp truly
    revert condition
    decide
  · intro truly
    have condition := (exactly (loadedReplicas 5 2) rfl).mp truly
    revert condition
    decide

end Example

end ArgosCyberTools.Rollback
