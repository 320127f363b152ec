import ArgosCyberTools.Executors.Methods

/-!
# The executors on shared states

The three simulated states, shared by every executor, and the idempotency
stores the executors were built with.  A caller hands one method of one
executor to the gateway; whatever it does stays inside the slot of its
target and inside the store of that executor.
-/

namespace ArgosCyberTools.Executors

open Python

inductive ExecutorKind where
  | kubernetes
  | scaleToZero
  | increaseMonitoring
deriving DecidableEq

namespace ExecutorKind

def State : ExecutorKind → Type
  | kubernetes => FakeClusterState
  | scaleToZero => FakeReplicaState
  | increaseMonitoring => FakeMonitoringState

instance : (kind : ExecutorKind) → TargetState kind.State
  | kubernetes => inferInstanceAs (TargetState FakeClusterState)
  | scaleToZero => inferInstanceAs (TargetState FakeReplicaState)
  | increaseMonitoring => inferInstanceAs (TargetState FakeMonitoringState)

def operation : (kind : ExecutorKind) → Bool → SlotOperation kind.State
  | kubernetes => isolation
  | scaleToZero => scalingToZero
  | increaseMonitoring => monitoringIncrease

end ExecutorKind

/-- The shared states, and the idempotency stores by their owners. -/
structure World (Handle : Type) where
  cluster : FakeClusterState
  replicas : FakeReplicaState
  monitoring : FakeMonitoringState
  stores : Handle → IdempotencyStore

/-- A method of one executor: which, and the store it was built with. -/
structure ExecutorCall (Handle : Type) where
  kind : ExecutorKind
  store : Handle

namespace World

variable {Handle : Type}

def state (world : World Handle) : (kind : ExecutorKind) → kind.State
  | .kubernetes => world.cluster
  | .scaleToZero => world.replicas
  | .increaseMonitoring => world.monitoring

def withState (world : World Handle) :
    (kind : ExecutorKind) → kind.State → World Handle
  | .kubernetes, cluster => { world with cluster := cluster }
  | .scaleToZero, replicas => { world with replicas := replicas }
  | .increaseMonitoring, monitoring =>
      { world with monitoring := monitoring }

@[simp]
theorem state_withState (world : World Handle) (kind : ExecutorKind)
    (written : kind.State) :
    (world.withState kind written).state kind = written := by
  cases kind <;> rfl

theorem state_withState_of_ne (world : World Handle)
    {kind other : ExecutorKind} (written : kind.State)
    (different : other ≠ kind) :
    (world.withState kind written).state other = world.state other := by
  cases kind <;> cases other <;> first | rfl | exact (different rfl).elim

@[simp]
theorem withState_state (world : World Handle) (kind : ExecutorKind) :
    world.withState kind (world.state kind) = world := by
  cases kind <;> rfl

@[simp]
theorem stores_withState (world : World Handle) (kind : ExecutorKind)
    (written : kind.State) :
    (world.withState kind written).stores = world.stores := by
  cases kind <;> rfl

/-- The executor of a call: its state and its store. -/
def executor (call : ExecutorCall Handle) (world : World Handle) :
    Executor (call.kind.State) :=
  ⟨world.state call.kind, world.stores call.store⟩

variable [DecidableEq Handle]

def withExecutor (call : ExecutorCall Handle)
    (executor : Executor call.kind.State) (world : World Handle) :
    World Handle :=
  { world.withState call.kind executor.state with
    stores :=
      Function.update world.stores call.store executor.idempotency }

@[simp]
theorem withExecutor_executor (call : ExecutorCall Handle)
    (world : World Handle) :
    world.withExecutor call (world.executor call) = world := by
  simp [withExecutor, World.executor]

@[simp]
theorem state_withExecutor (call : ExecutorCall Handle)
    (written : Executor call.kind.State) (world : World Handle) :
    (world.withExecutor call written).state call.kind = written.state :=
  state_withState world call.kind written.state

theorem state_withExecutor_of_ne (call : ExecutorCall Handle)
    (written : Executor call.kind.State) (world : World Handle)
    {other : ExecutorKind} (different : other ≠ call.kind) :
    (world.withExecutor call written).state other = world.state other :=
  state_withState_of_ne world written.state different

@[simp]
theorem stores_withExecutor (call : ExecutorCall Handle)
    (written : Executor call.kind.State) (world : World Handle) :
    (world.withExecutor call written).stores =
      Function.update world.stores call.store written.idempotency :=
  rfl

end World

section Calls

variable [PyRuntime] {Handle : Type} [DecidableEq Handle]

/-- The method a caller hands over, on its executor. -/
def ExecutorCall.method (call : ExecutorCall Handle) (contract : Contract)
    (stamps : Stamps) (arguments : ActionArguments) (dryRun : Bool) :
    PyM (Executor call.kind.State) ActionError JsonObject :=
  match call with
  | ⟨.kubernetes, _⟩ => isolateWorkload contract stamps arguments dryRun
  | ⟨.scaleToZero, _⟩ => scaleToZero contract stamps arguments dryRun
  | ⟨.increaseMonitoring, _⟩ =>
      increaseMonitoring contract stamps arguments dryRun

/-- The method in the world it shares with the others. -/
def ExecutorCall.run (call : ExecutorCall Handle) (contract : Contract)
    (stamps : Stamps) (arguments : ActionArguments) (dryRun : Bool) :
    PyM (World Handle) ActionError JsonObject :=
  PyM.onField (World.executor call) (World.withExecutor call)
    (call.method contract stamps arguments dryRun)

omit [DecidableEq Handle] in
theorem ExecutorCall.method_eq (call : ExecutorCall Handle)
    (contract : Contract) (stamps : Stamps) (arguments : ActionArguments)
    (dryRun : Bool) :
    call.method contract stamps arguments dryRun =
      (call.kind.operation dryRun).perform contract stamps arguments := by
  obtain ⟨kind, store⟩ := call
  cases kind <;> rfl

variable {call : ExecutorCall Handle} {contract : Contract}
  {stamps : Stamps} {arguments : ActionArguments} {dryRun : Bool}
  {world after : World Handle} {result : Except ActionError JsonObject}

/-- The state the method leaves when it applies its effect. -/
def ExecutorCall.effectOn (call : ExecutorCall Handle) (dryRun : Bool)
    (target : PyStr) (world : World Handle) : Effect call.kind.State :=
  (call.kind.operation dryRun).act target (world.state call.kind)

/-- The three ways a call ends, in the world. -/
inductive Called (call : ExecutorCall Handle) (contract : Contract)
    (stamps : Stamps) (arguments : ActionArguments) (dryRun : Bool)
    (world : World Handle) :
    Except ActionError JsonObject → World Handle → Prop where
  | remembered {cached : JsonObject}
      (held :
        (world.stores call.store).get arguments.idempotencyKey =
          some cached) :
      Called call contract stamps arguments dryRun world (.ok cached) world
  | accepted {record : JsonObject}
      (unheld :
        (world.stores call.store).get arguments.idempotencyKey = none)
      (built :
        (call.kind.operation dryRun).Builds stamps arguments
          (world.state call.kind) record)
      (accepts : contract record = []) :
      Called call contract stamps arguments dryRun world (.ok record)
        (world.withExecutor call
          ⟨(call.effectOn dryRun arguments.target world).state,
            (world.stores call.store).remember arguments.idempotencyKey
              record⟩)
  | rejected {record : JsonObject}
      (unheld :
        (world.stores call.store).get arguments.idempotencyKey = none)
      (built :
        (call.kind.operation dryRun).Builds stamps arguments
          (world.state call.kind) record)
      (rejects : contract record ≠ []) :
      Called call contract stamps arguments dryRun world
        (.error (.invalidActionResult (contract record)))
        (world.withExecutor call
          ⟨(call.effectOn dryRun arguments.target world).state,
            world.stores call.store⟩)

theorem called
    (ran : call.run contract stamps arguments dryRun world =
      (result, after)) :
    Called call contract stamps arguments dryRun world result after := by
  have performed := (call.kind.operation dryRun).performed contract stamps
    arguments (world.executor call)
  rw [ExecutorCall.run, PyM.onField_apply, ExecutorCall.method_eq] at ran
  generalize (call.kind.operation dryRun).perform contract stamps arguments
    (world.executor call) = outcome at performed ran
  obtain ⟨rfl, rfl⟩ := Prod.mk.inj ran
  cases performed with
  | remembered held =>
      have unchanged := World.withExecutor_executor call world
      simp only [unchanged]
      exact .remembered held
  | accepted unheld built accepts => exact .accepted unheld built accepts
  | rejected unheld built rejects => exact .rejected unheld built rejects

/-- The effect is applied under a new key, and under no other. -/
theorem Called.state_eq
    (called : Called call contract stamps arguments dryRun world result
      after) :
    after.state call.kind =
      if (world.stores call.store).get arguments.idempotencyKey = none then
        (call.effectOn dryRun arguments.target world).state
      else world.state call.kind := by
  cases called with
  | remembered held => simp [held]
  | accepted unheld built accepts => simp [unheld]
  | rejected unheld built rejects => simp [unheld]

theorem Called.state_of_ne
    (called : Called call contract stamps arguments dryRun world result
      after)
    {other : ExecutorKind} (different : other ≠ call.kind) :
    after.state other = world.state other := by
  cases called with
  | remembered held => rfl
  | accepted unheld built accepts =>
      exact World.state_withExecutor_of_ne call _ world different
  | rejected unheld built rejects =>
      exact World.state_withExecutor_of_ne call _ world different

theorem Called.slot_of_ne
    (called : Called call contract stamps arguments dryRun world result
      after)
    {target : PyStr} (different : target ≠ arguments.target) :
    slot (after.state call.kind) target =
      slot (world.state call.kind) target := by
  rw [called.state_eq]
  split_ifs
  · exact (call.kind.operation dryRun).elsewhere _ _ _ different
  · rfl

omit [PyRuntime] in
/-- A dry run applies nothing. -/
theorem ExecutorKind.operation_dryRun (kind : ExecutorKind)
    (target : PyStr) (state : kind.State) :
    ((kind.operation true).act target state).state = state := by
  cases kind <;> rfl

/-- A result that was returned is remembered. -/
theorem Called.recalls {record : JsonObject}
    (called : Called call contract stamps arguments dryRun world (.ok record)
      after) :
    (after.stores call.store).get arguments.idempotencyKey = some record := by
  generalize returned : (.ok record : Except ActionError JsonObject) = outcome
    at called
  cases called with
  | remembered held =>
      cases returned
      exact held
  | accepted unheld built accepts =>
      cases returned
      simp [IdempotencyStore.get_remember]
  | rejected unheld built rejects => cases returned

/-- Under a remembered key the answer is known, and nothing is done. -/
theorem Called.of_remembered
    (called : Called call contract stamps arguments dryRun world result
      after) {held : JsonObject}
    (remembered :
      (world.stores call.store).get arguments.idempotencyKey =
        some held) :
    result = .ok held ∧ after = world := by
  cases called with
  | remembered other =>
      rw [remembered, Option.some.injEq] at other
      subst other
      exact ⟨rfl, rfl⟩
  | accepted unheld built accepts =>
      rw [remembered] at unheld
      cases unheld
  | rejected unheld built rejects =>
      rw [remembered] at unheld
      cases unheld

/-- What was remembered stays remembered. -/
theorem Called.remembers
    (called : Called call contract stamps arguments dryRun world result
      after)
    {handle : Handle} {key : PyStr} {held : JsonObject}
    (before : (world.stores handle).get key = some held) :
    (after.stores handle).get key = some held := by
  cases called with
  | remembered _ => exact before
  | accepted unheld built accepts =>
      by_cases here : handle = call.store
      · subst here
        have different : key ≠ arguments.idempotencyKey := by
          rintro rfl
          rw [unheld] at before
          cases before
        simp [IdempotencyStore.get_remember, different, before]
      · simp [here, before]
  | rejected unheld built rejects =>
      by_cases here : handle = call.store
      · subst here
        simp [before]
      · simp [here, before]

end Calls

end ArgosCyberTools.Executors
