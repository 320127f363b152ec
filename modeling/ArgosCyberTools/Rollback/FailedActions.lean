import ArgosCyberTools.McpGateway.ControlledExecution
import ArgosCyberTools.Rollback.Strategies

/-!
# What a failed action leaves behind

An operation applies its effect before the contract sees the record of it,
so a rejection leaves the effect in place and nothing remembered.  It leaves
nothing behind exactly when there was nothing to apply or the contract
accepts the record; in a run of such calls every effect is remembered.
-/

namespace ArgosCyberTools.Rollback

open Python Executors McpGateway Policies Transition

/-- If the action raises `InvalidActionResult`, nothing has changed. -/
def FailsCleanly {State : Type}
    (action : PyM State ActionError JsonObject) (before : State) : Prop :=
  ∀ errors after,
    action before = (.error (.invalidActionResult errors), after) →
      after = before

section Operations

variable [PyRuntime] {State : Type} [TargetState State]

/-- The key is remembered, or the slot is as the operation leaves it. -/
def NothingToApply (operation : SlotOperation State)
    (arguments : ActionArguments) (executor : Executor State) : Prop :=
  executor.idempotency.get arguments.idempotencyKey ≠ none ∨
    slot executor.state arguments.target =
      operation.leaves arguments.target executor.state

/-- The contract accepts the record of these arguments on this state. -/
def Accepted (contract : Contract) (operation : SlotOperation State)
    (stamps : Stamps) (arguments : ActionArguments) (state : State) :
    Prop :=
  ∃ record, operation.Builds stamps arguments state record ∧
    contract record = []

theorem accepted_of_accepting {contract : Contract}
    (accepts : ∀ record, contract record = [])
    (operation : SlotOperation State) (stamps : Stamps)
    (arguments : ActionArguments) (state : State) :
    Accepted contract operation stamps arguments state := by
  obtain ⟨record, built⟩ := exists_fullPayload operation.producer arguments
    operation.dryRun stamps (operation.act arguments.target state)
  exact ⟨record, built, accepts record⟩

variable {contract : Contract} {operation : SlotOperation State}
  {stamps : Stamps} {arguments : ActionArguments}

theorem failsCleanly_iff {executor : Executor State} :
    FailsCleanly (operation.perform contract stamps arguments) executor ↔
      NothingToApply operation arguments executor ∨
        Accepted contract operation stamps arguments executor.state := by
  have performed :=
    operation.performed contract stamps arguments executor
  unfold FailsCleanly
  generalize operation.perform contract stamps arguments executor = outcome
    at performed
  cases performed with
  | remembered held =>
      constructor
      · intro _
        exact .inl (.inl (by simp [held]))
      · rintro _ errors after ⟨⟩
  | accepted unheld built accepts =>
      constructor
      · intro _
        exact .inr ⟨_, built, accepts⟩
      · rintro _ errors after ⟨⟩
  | @rejected record unheld built rejects =>
      constructor
      · intro clean
        have same := congrArg Executor.state (clean _ _ rfl)
        exact .inl (.inr ((operation.act_eq_self_iff _ _).mp same))
      · rintro ((held | settled) | ⟨other, otherBuilt, accepts⟩)
        · exact (held unheld).elim
        · rintro errors after ⟨⟩
          rw [operation.settled _ _ settled]
        · cases built.symm.trans otherBuilt
          exact (rejects accepts).elim

/-- A strategy fails cleanly exactly when it does on its own store. -/
theorem failsCleanly_scope_iff {scope : Scope State} :
    FailsCleanly
        (PyM.onField Scope.executor Scope.left
          (operation.perform contract stamps arguments)) scope ↔
      FailsCleanly (operation.perform contract stamps arguments)
        scope.executor := by
  have performed :=
    operation.performed contract stamps arguments scope.executor
  unfold FailsCleanly
  rw [PyM.onField_apply]
  generalize operation.perform contract stamps arguments scope.executor =
    outcome at performed
  cases performed with
  | remembered held =>
      constructor <;> rintro - errors after ⟨⟩
  | accepted unheld built accepts =>
      constructor <;> rintro - errors after ⟨⟩
  | rejected unheld built rejects =>
      constructor
      · rintro clean errors after ⟨⟩
        have same := congrArg Scope.state (clean _ _ rfl)
        exact congrArg (Executor.mk · _) same
      · rintro clean errors after ⟨⟩
        have same := congrArg Executor.state (clean _ _ rfl)
        obtain ⟨state, store⟩ := scope
        cases store <;> exact congrArg (Scope.mk · _) same

/-- When a method fails cleanly: per contract, and whatever the contract. -/
structure ExactlyWhen {Before : Type}
    (method : Contract → PyM Before ActionError JsonObject)
    (executor : Before → Executor State) (operation : SlotOperation State)
    (stamps : Stamps) (arguments : ActionArguments) : Prop where
  withContract : ∀ contract before,
    FailsCleanly (method contract) before ↔
      NothingToApply operation arguments (executor before) ∨
        Accepted contract operation stamps arguments (executor before).state
  withEvery : ∀ before,
    (∀ contract, FailsCleanly (method contract) before) ↔
      NothingToApply operation arguments (executor before)

theorem exactlyWhen_of_iff {Before : Type}
    {method : Contract → PyM Before ActionError JsonObject}
    {executor : Before → Executor State}
    (cleanly : ∀ contract before,
      FailsCleanly (method contract) before ↔
        NothingToApply operation arguments (executor before) ∨
          Accepted contract operation stamps arguments
            (executor before).state) :
    ExactlyWhen method executor operation stamps arguments := by
  refine ⟨cleanly, fun before => ⟨fun clean => ?_, fun nothing contract => ?_⟩⟩
  · -- The contract that rejects everything decides.
    rcases (cleanly (fun _ => [[]]) before).mp (clean _) with
      nothing | ⟨record, -, accepts⟩
    · exact nothing
    · cases accepts
  · exact (cleanly contract before).mpr (.inl nothing)

theorem exactlyWhen_perform :
    ExactlyWhen (operation.perform · stamps arguments) id operation stamps
      arguments :=
  exactlyWhen_of_iff fun _ _ => failsCleanly_iff

theorem exactlyWhen_strategy :
    ExactlyWhen
      (fun contract => PyM.onField Scope.executor Scope.left
        (operation.perform contract stamps arguments))
      Scope.executor operation stamps arguments :=
  exactlyWhen_of_iff fun _ _ => failsCleanly_scope_iff.trans failsCleanly_iff

end Operations

/-! ## Runs -/

section Runs

variable [PyRuntime] {Store Handle : Type} [ApprovalStoreProtocol Store]
  [DecidableEq Handle]

/-- The call is not allowed, or its method fails cleanly. -/
def Harmless (contract : Contract)
    (platform : Platform Store (World Handle))
    (call : ExecutionCall Handle) : Prop :=
  ¬ Authorised platform.gateway call.authorize ∨
    NothingToApply (call.executor.kind.operation call.dryRun)
      call.arguments (platform.world.executor call.executor) ∨
    Accepted contract (call.executor.kind.operation call.dryRun)
      call.stamps call.arguments
      (platform.world.state call.executor.kind)

omit [DecidableEq Handle] in
/-- With a contract that accepts every record, every call is harmless. -/
theorem harmless_of_accepting {contract : Contract}
    {platform : Platform Store (World Handle)} {call : ExecutionCall Handle}
    (accepts : ∀ record, contract record = []) :
    Harmless contract platform call :=
  .inr (.inr (accepted_of_accepting accepts _ _ _ _))

/-- The effect of the step was returned as a result and is remembered. -/
def Evidenced (event : ExecutionEvent Handle)
    (later : Platform Store (World Handle)) : Prop :=
  ∃ authorization record,
    event.outcome = .ok ⟨true, authorization, some record⟩ ∧
      (later.world.stores event.call.executor.store).get
        event.call.idempotencyKey = some record

variable {contract : Contract}
  {before after initial final : Platform Store (World Handle)}
  {event : ExecutionEvent Handle} {events : List (ExecutionEvent Handle)}

/-- A harmless step that changes a state is evidenced at once. -/
theorem evidenced_of_harmless
    (step : ExecutionStep contract before event after)
    (harmless : Harmless contract before event.call) {kind : ExecutorKind}
    (changed : after.world.state kind ≠ before.world.state kind) :
    Evidenced event after := by
  obtain ⟨gateway, world⟩ := after
  rcases step.split with ⟨-, same⟩ | ⟨authorization, result, authorized,
    allowed, ran, outcome⟩
  · exact (changed (by rw [same])).elim
  · have unsettled :
        slot (before.world.state event.call.executor.kind)
            event.call.arguments.target ≠
          (event.call.executor.kind.operation event.call.dryRun).leaves
            event.call.arguments.target
            (before.world.state event.call.executor.kind) := by
      intro settled
      have idle := (event.call.executor.kind.operation
        event.call.dryRun).settled _ _ settled
      apply changed
      by_cases ofKind : kind = event.call.executor.kind
      · subst ofKind
        rw [ran.state_eq]
        split_ifs
        · exact idle
        · rfl
      · exact ran.state_of_ne ofKind
    change Called _ _ _ _ _ _ result world at ran
    cases ran with
    | remembered held => exact (changed rfl).elim
    | @accepted record unheld built accepts =>
        refine ⟨authorization, record, outcome, ?_⟩
        simp [IdempotencyStore.get_remember, ExecutionCall.arguments]
    | rejected unheld built rejects =>
        exfalso
        rcases harmless with refused | (held | settled) |
          ⟨other, otherBuilt, accepts⟩
        · exact refused ⟨_, _, authorized, allowed⟩
        · exact held unheld
        · exact unsettled settled
        · cases built.symm.trans otherBuilt
          exact rejects accepts

/-- A step forgets no result. -/
theorem remembers_of_step
    (step : ExecutionStep contract before event after) {handle : Handle}
    {key : PyStr} {held : JsonObject}
    (remembered : (before.world.stores handle).get key = some held) :
    (after.world.stores handle).get key = some held := by
  rcases step.split with ⟨-, same⟩ | ⟨_, _, -, -, ran, -⟩
  · rwa [same]
  · exact ran.remembers remembered

/-- The effect of a harmless step is evidenced in every later state. -/
theorem evidenced_ever_after {back : List (ExecutionEvent Handle)}
    (harmless : Harmless contract before event.call)
    (step : ExecutionStep contract before event after)
    (later : Run (ExecutionStep contract) after back final)
    {kind : ExecutorKind}
    (changed : after.world.state kind ≠ before.world.state kind) :
    Evidenced event final := by
  obtain ⟨authorization, record, outcome, remembered⟩ :=
    evidenced_of_harmless step harmless changed
  refine ⟨authorization, record, outcome, ?_⟩
  exact later.invariant
    (fun platform =>
      (platform.world.stores event.call.executor.store).get
        event.call.idempotencyKey = some record)
    (fun held step => remembers_of_step step held) remembered

/--
Each of the six operations fails cleanly exactly when there is nothing to
apply or the contract accepts its record; and in a run of calls that are
harmless where they stand, every effect was returned and stays remembered.
-/
theorem failed_action_leaves_nothing_iff (stamps : Stamps)
    (arguments : ActionArguments) (dryRun : Bool) :
    (ExactlyWhen (isolateWorkload · stamps arguments dryRun) id
        (isolation dryRun) stamps arguments ∧
      ExactlyWhen (scaleToZero · stamps arguments dryRun) id
        (scalingToZero dryRun) stamps arguments ∧
      ExactlyWhen (increaseMonitoring · stamps arguments dryRun) id
        (monitoringIncrease dryRun) stamps arguments ∧
      ExactlyWhen (rollbackIsolation · stamps arguments) Scope.executor
        isolationRollback stamps arguments ∧
      ExactlyWhen (rollbackScaleToZero · stamps arguments) Scope.executor
        scalingRollback stamps arguments ∧
      ExactlyWhen (rollbackIncreaseMonitoring · stamps arguments)
        Scope.executor monitoringRollback stamps arguments) ∧
    (∀ (contract : Contract)
        (initial final : Platform Store (World Handle))
        (events : List (ExecutionEvent Handle)),
      Run (ExecutionStep contract) initial events final →
      (∀ front event back here,
        events = front ++ event :: back →
        Run (ExecutionStep contract) initial front here →
          Harmless contract here event.call) →
      ∀ front event back here there kind,
        events = front ++ event :: back →
        Run (ExecutionStep contract) initial front here →
        ExecutionStep contract here event there →
        Run (ExecutionStep contract) there back final →
        there.world.state kind ≠ here.world.state kind →
          Evidenced event final) := by
  refine ⟨⟨exactlyWhen_perform, exactlyWhen_perform, exactlyWhen_perform,
    exactlyWhen_strategy, exactlyWhen_strategy, exactlyWhen_strategy⟩, ?_⟩
  intro contract initial final events _ harmless front event back here there
    kind parts reached step later changed
  exact evidenced_ever_after (harmless front event back here parts reached)
    step later changed

end Runs

section Example

attribute [local instance] Reference.runtime

open McpGateway.Scenario

/-- A real isolation of the target. -/
def isolateArguments : ActionArguments :=
  ⟨"run-1", target, "key-1", "action-1"⟩

def isolateStamps : Stamps := ⟨noon, noon, noon, ambient.uuidHex⟩

/-- With a contract that accepts, one monitoring call is evidenced. -/
theorem failed_action_leaves_nothing_iff_of_one_call :
    ∃ (event : ExecutionEvent Unit)
      (final : Platform ApprovalStore (World Unit)),
      Run (ExecutionStep fun _ => [])
          ⟨gateway ApprovalStore.fresh, untouchedWorld⟩ [event] final ∧
        Evidenced event final := by
  obtain ⟨outcome, final, step, applied⟩ :=
    exists_monitoringStep (fun _ => []) ⟨.increaseMonitoring, ()⟩
  have written : slot (final.world.state .increaseMonitoring) target =
      some (.levels normalLevel verboseLevel) := applied
  have changed : final.world.state .increaseMonitoring ≠
      untouchedWorld.state .increaseMonitoring := by
    intro same
    rw [same] at written
    cases written
  have run := Run.next step (.done final)
  exact ⟨_, final, run,
    (failed_action_leaves_nothing_iff isolateStamps isolateArguments
      false).2 _ _ _ _ run
        (fun _ _ _ _ _ _ => harmless_of_accepting (fun _ => rfl))
        [] _ [] _ _ .increaseMonitoring rfl (.done _) step (.done _)
        changed⟩

/--
The contract rejects the record, `isolate_workload` raises, and the workload
stays isolated with nothing remembered under the key.
-/
theorem failed_isolation_stays :
    ∃ errors after,
      isolateWorkload (fun _ => [PyStr.ofString "run_id"]) isolateStamps
          isolateArguments false
          ⟨⟨PyDict.empty⟩, IdempotencyStore.fresh⟩ =
        (.error (.invalidActionResult errors), after) ∧
      after.state.isIsolated target = true ∧
      after.idempotency.get "key-1" = none ∧
      ¬ FailsCleanly
        (isolateWorkload (fun _ => [PyStr.ofString "run_id"]) isolateStamps
          isolateArguments false)
        ⟨⟨PyDict.empty⟩, IdempotencyStore.fresh⟩ := by
  have raised : isolateWorkload (fun _ => [PyStr.ofString "run_id"])
      isolateStamps isolateArguments false
      ⟨⟨PyDict.empty⟩, IdempotencyStore.fresh⟩ =
        (.error (.invalidActionResult [PyStr.ofString "run_id"]),
          ⟨(FakeClusterState.applyIsolation ⟨PyDict.empty⟩ target).2,
            IdempotencyStore.fresh⟩) :=
    (isolation false).perform_of_rejection rfl nofun
  have isolated : (FakeClusterState.applyIsolation ⟨PyDict.empty⟩
      target).2.isIsolated target = true := by
    simp [FakeClusterState.applyIsolation, FakeClusterState.isIsolated,
      PyDict.contains]
  refine ⟨_, _, raised, isolated, rfl, ?_⟩
  intro clean
  have same : (FakeClusterState.applyIsolation ⟨PyDict.empty⟩ target).2 =
      ⟨PyDict.empty⟩ := congrArg Executor.state (clean _ _ raised)
  rw [same] at isolated
  cases isolated

end Example

end ArgosCyberTools.Rollback
