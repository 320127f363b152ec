import ArgosCyberTools.Executors.World
import ArgosCyberTools.Rollback.Strategies
import ArgosCyberTools.Transition.Provenance

/-!
# The six operations on shared states

The three executor methods and the three strategies, each called with an
injected idempotency store, on the states they share.  A step of the system
is one call; any number of calls may share a store.
-/

namespace ArgosCyberTools.Rollback

open Python Executors Transition

/-- What is asked of a kind of state: its method, or its strategy. -/
inductive Act where
  | execute (dryRun : Bool)
  | rollback
deriving DecidableEq

/-- The strategy that reverts a method. -/
def strategyOf : (kind : ExecutorKind) → SlotOperation kind.State
  | .kubernetes => isolationRollback
  | .scaleToZero => scalingRollback
  | .increaseMonitoring => monitoringRollback

def Act.operation (kind : ExecutorKind) :
    Act → SlotOperation kind.State
  | .execute dryRun => kind.operation dryRun
  | .rollback => strategyOf kind

/-- A strategy called with the store of an executor. -/
def withStoreOf {State : Type}
    (strategy : PyM (Scope State) ActionError JsonObject) :
    PyM (Executor State) ActionError JsonObject :=
  PyM.onField (fun executor => ⟨executor.state, some executor.idempotency⟩)
    (fun scope executor =>
      ⟨scope.state, scope.idempotency.getD executor.idempotency⟩)
    strategy

/-- One call of one operation: which, on which store, with what. -/
structure OperationCall (Handle : Type) where
  executor : ExecutorCall Handle
  act : Act
  stamps : Stamps
  arguments : ActionArguments

/-- A call and how it ended. -/
structure OperationEvent (Handle : Type) where
  call : OperationCall Handle
  outcome : Except ActionError JsonObject

section Calls

variable [PyRuntime]

/-- The method or strategy an act names. -/
def Act.method (contract : Contract) (stamps : Stamps)
    (arguments : ActionArguments) :
    (kind : ExecutorKind) → Act →
      PyM (Executor kind.State) ActionError JsonObject
  | .kubernetes, .execute dryRun =>
      isolateWorkload contract stamps arguments dryRun
  | .scaleToZero, .execute dryRun =>
      scaleToZero contract stamps arguments dryRun
  | .increaseMonitoring, .execute dryRun =>
      increaseMonitoring contract stamps arguments dryRun
  | .kubernetes, .rollback =>
      withStoreOf (rollbackIsolation contract stamps arguments)
  | .scaleToZero, .rollback =>
      withStoreOf (rollbackScaleToZero contract stamps arguments)
  | .increaseMonitoring, .rollback =>
      withStoreOf (rollbackIncreaseMonitoring contract stamps arguments)

/-- With an injected store, a strategy is the operation it records. -/
theorem withStoreOf_perform {State : Type} [TargetState State]
    (operation : SlotOperation State) (contract : Contract) (stamps : Stamps)
    (arguments : ActionArguments) :
    withStoreOf (PyM.onField Scope.executor Scope.left
        (operation.perform contract stamps arguments)) =
      operation.perform contract stamps arguments := by
  funext executor
  have same : Scope.executor ⟨executor.state, some executor.idempotency⟩ =
      executor := rfl
  rw [withStoreOf, PyM.onField_apply, PyM.onField_apply, same]
  generalize operation.perform contract stamps arguments executor = outcome
  rfl

theorem Act.method_eq (contract : Contract) (stamps : Stamps)
    (arguments : ActionArguments) (kind : ExecutorKind) (act : Act) :
    act.method contract stamps arguments kind =
      (act.operation kind).perform contract stamps arguments := by
  cases act with
  | execute dryRun => cases kind <;> rfl
  | rollback => cases kind <;> exact withStoreOf_perform _ _ _ _

variable {Handle : Type} [DecidableEq Handle]

/-- The call, in the world it shares with the others. -/
def OperationCall.run (call : OperationCall Handle) (contract : Contract) :
    PyM (World Handle) ActionError JsonObject :=
  PyM.onField (World.executor call.executor)
    (World.withExecutor call.executor)
    (call.act.method contract call.stamps call.arguments call.executor.kind)

def OperationStep (contract : Contract) (world : World Handle)
    (event : OperationEvent Handle) (after : World Handle) : Prop :=
  event.call.run contract world = (event.outcome, after)

omit [DecidableEq Handle] in
/-- The operation a call performs. -/
def OperationCall.operation (call : OperationCall Handle) :
    SlotOperation call.executor.kind.State :=
  call.act.operation call.executor.kind

omit [DecidableEq Handle] in
/-- The call finds its key unused and its record accepted. -/
def OperationCall.Produces (call : OperationCall Handle) (contract : Contract)
    (world : World Handle) (record : JsonObject) : Prop :=
  (world.stores call.executor.store).get call.arguments.idempotencyKey =
      none ∧
    call.operation.Builds call.stamps call.arguments
      (world.state call.executor.kind) record ∧
    contract record = []

variable {contract : Contract} {call : OperationCall Handle}
  {world after : World Handle} {result : Except ActionError JsonObject}

omit [DecidableEq Handle] in
/-- What a call does when its key is new. -/
def OperationCall.effectOn (call : OperationCall Handle)
    (world : World Handle) : Effect call.executor.kind.State :=
  call.operation.act call.arguments.target (world.state call.executor.kind)

/-- The three ways a call of an operation ends, in the world. -/
inductive Operated (contract : Contract) (call : OperationCall Handle)
    (world : World Handle) :
    Except ActionError JsonObject → World Handle → Prop where
  | remembered {cached : JsonObject}
      (held :
        (world.stores call.executor.store).get
          call.arguments.idempotencyKey = some cached) :
      Operated contract call world (.ok cached) world
  | accepted {record : JsonObject}
      (produces : call.Produces contract world record) :
      Operated contract call world (.ok record)
        (world.withExecutor call.executor
          ⟨(call.effectOn world).state,
            (world.stores call.executor.store).remember
              call.arguments.idempotencyKey record⟩)
  | rejected {record : JsonObject}
      (unheld :
        (world.stores call.executor.store).get
          call.arguments.idempotencyKey = none)
      (rejects : contract record ≠ []) :
      Operated contract call world
        (.error (.invalidActionResult (contract record)))
        (world.withExecutor call.executor
          ⟨(call.effectOn world).state, world.stores call.executor.store⟩)

theorem operated (ran : call.run contract world = (result, after)) :
    Operated contract call world result after := by
  have performed := call.operation.performed contract call.stamps
    call.arguments (world.executor call.executor)
  rw [OperationCall.run, PyM.onField_apply, Act.method_eq] at ran
  change ((call.operation.perform contract call.stamps call.arguments
    (world.executor call.executor)).1, World.withExecutor call.executor
      (call.operation.perform contract call.stamps call.arguments
        (world.executor call.executor)).2 world) = _ at ran
  generalize call.operation.perform contract call.stamps call.arguments
    (world.executor call.executor) = outcome at performed ran
  obtain ⟨rfl, rfl⟩ := Prod.mk.inj ran
  cases performed with
  | remembered held =>
      have unchanged := World.withExecutor_executor call.executor world
      simp only [unchanged]
      exact .remembered held
  | accepted unheld built accepts =>
      exact .accepted ⟨unheld, built, accepts⟩
  | rejected unheld built rejects => exact .rejected unheld rejects

/-- The effect is applied under a new key, and under no other. -/
theorem Operated.state_eq (ended : Operated contract call world result after) :
    after.state call.executor.kind =
      if (world.stores call.executor.store).get
          call.arguments.idempotencyKey = none then
        (call.effectOn world).state
      else world.state call.executor.kind := by
  cases ended with
  | remembered held => simp [held]
  | accepted produces => simp [produces.1]
  | rejected unheld rejects => simp [unheld]

theorem Operated.state_of_ne
    (ended : Operated contract call world result after)
    {kind : ExecutorKind} (different : kind ≠ call.executor.kind) :
    after.state kind = world.state kind := by
  cases ended with
  | remembered held => rfl
  | accepted produces =>
      exact World.state_withExecutor_of_ne call.executor _ world different
  | rejected unheld rejects =>
      exact World.state_withExecutor_of_ne call.executor _ world different

/-- What a call leaves of a state is that state, or what it is applied to. -/
theorem Operated.state_of
    {motive : (kind : ExecutorKind) → kind.State → Prop}
    (ended : Operated contract call world result after) {kind : ExecutorKind}
    (unchanged : motive kind (world.state kind))
    (changed : call.executor.kind = kind →
      motive call.executor.kind (call.effectOn world).state) :
    motive kind (after.state kind) := by
  by_cases ofKind : kind = call.executor.kind
  · subst ofKind
    rw [ended.state_eq]
    split_ifs
    · exact changed rfl
    · exact unchanged
  · rw [ended.state_of_ne ofKind]
    exact unchanged

/-! ## The memory of a world -/

/-- The store and the key a call looks up. -/
abbrev StoreKey (Handle : Type) := Handle × PyStr

omit [PyRuntime] [DecidableEq Handle] in
def OperationCall.storeKey (call : OperationCall Handle) : StoreKey Handle :=
  (call.executor.store, call.arguments.idempotencyKey)

omit [PyRuntime] [DecidableEq Handle] in
/-- What the stores of a world remember under a key. -/
def rememberedIn (world : World Handle) (key : StoreKey Handle) :
    Option JsonObject :=
  (world.stores key.1).get key.2

omit [PyRuntime] in
theorem rememberedIn_withExecutor (executor : ExecutorCall Handle)
    (state : executor.kind.State) (store : IdempotencyStore)
    (world : World Handle) (asked : StoreKey Handle) :
    rememberedIn (world.withExecutor executor ⟨state, store⟩) asked =
      if asked.1 = executor.store then store.get asked.2
      else rememberedIn world asked := by
  simp only [rememberedIn, World.stores_withExecutor, Function.update_apply]
  split_ifs <;> rfl

/-- A call leaves alone what is remembered under other keys. -/
theorem Operated.rememberedIn_of_ne
    (ended : Operated contract call world result after)
    {asked : StoreKey Handle} (different : asked ≠ call.storeKey) :
    rememberedIn after asked = rememberedIn world asked := by
  cases ended with
  | remembered held => rfl
  | accepted produces =>
      rw [rememberedIn_withExecutor, IdempotencyStore.get_remember]
      split_ifs with here sameKey
      · exact absurd (Prod.ext here sameKey) different
      · rw [rememberedIn, here]
      · rfl
  | rejected unheld rejects =>
      rw [rememberedIn_withExecutor]
      split_ifs with here
      · rw [rememberedIn, here]
      · rfl

/-- Every call ends in some way. -/
theorem exists_operationStep (contract : Contract) (world : World Handle)
    (call : OperationCall Handle) :
    ∃ outcome after, OperationStep contract world ⟨call, outcome⟩ after := by
  rcases ended : call.run contract world with ⟨outcome, after⟩
  exact ⟨outcome, after, ended⟩

/-- A remembered key is answered, and nothing is done. -/
theorem operationStep_of_remembered {cached : JsonObject}
    (held : rememberedIn world call.storeKey = some cached) :
    OperationStep contract world ⟨call, .ok cached⟩ world := by
  obtain ⟨outcome, after, step⟩ := exists_operationStep contract world call
  have ended := operated step
  change Operated contract call world outcome after at ended
  cases ended with
  | remembered other =>
      cases held.symm.trans other
      exact step
  | accepted produces => cases held.symm.trans produces.1
  | rejected unheld rejects => cases held.symm.trans unheld

/-- Under a new key, an accepted call applies its effect and remembers. -/
theorem exists_operationStep_of_new
    (unheld : rememberedIn world call.storeKey = none)
    (accepts : ∀ record, contract record = []) :
    ∃ record after, OperationStep contract world ⟨call, .ok record⟩ after ∧
      rememberedIn after call.storeKey = some record ∧
      (∀ asked ≠ call.storeKey,
        rememberedIn after asked = rememberedIn world asked) ∧
      after.state call.executor.kind = (call.effectOn world).state := by
  obtain ⟨outcome, after, step⟩ := exists_operationStep contract world call
  have ended := operated step
  change Operated contract call world outcome after at ended
  have others : ∀ asked ≠ call.storeKey,
      rememberedIn after asked = rememberedIn world asked :=
    fun asked different => ended.rememberedIn_of_ne different
  cases ended with
  | remembered held =>
      cases held.symm.trans unheld
  | accepted produces =>
      have same : call.storeKey.1 = call.executor.store := rfl
      refine ⟨_, _, step, ?_, others, World.state_withExecutor _ _ _⟩
      rw [rememberedIn_withExecutor, if_pos same,
        IdempotencyStore.get_remember]
      exact if_pos rfl
  | rejected _ rejects => exact (rejects (accepts _)).elim

/-- A world answers with what its stores remember, or produces a record. -/
def worldMemory (Handle : Type) [DecidableEq Handle] (contract : Contract) :
    Remembering (@OperationStep _ Handle _ contract) (StoreKey Handle)
      JsonObject where
  key event := event.call.storeKey
  answer event := event.outcome.toOption
  lookup := rememberedIn
  Produces world event record := event.call.Produces contract world record
  answered := by
    intro world after event record step answers
    have ended := operated step
    generalize event.outcome = outcome at ended answers
    cases ended with
    | remembered held =>
        cases answers
        exact .inl held
    | accepted produces =>
        cases answers
        exact .inr produces
    | rejected unheld rejects => cases answers
  recalled := by
    intro world after event asked held step remembered
    have ended := operated step
    generalize event.outcome = outcome at ended
    cases ended with
    | remembered _ => exact .inl remembered
    | @accepted record produces =>
        rw [rememberedIn_withExecutor] at remembered
        split_ifs at remembered with here
        · rw [IdempotencyStore.get_remember] at remembered
          split_ifs at remembered with sameKey
          · cases remembered
            exact .inr ⟨Prod.ext here.symm sameKey.symm, rfl, produces⟩
          · rw [← here] at remembered
            exact .inl remembered
        · exact .inl remembered
    | rejected unheld rejects =>
        rw [rememberedIn_withExecutor] at remembered
        split_ifs at remembered with here
        · rw [← here] at remembered
          exact .inl remembered
        · exact .inl remembered

end Calls

end ArgosCyberTools.Rollback
