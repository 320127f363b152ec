import ArgosCyberTools.Rollback.Inverse
import ArgosCyberTools.Transition.LastWrite

/-!
# Histories of calls

Any sequence of calls of the six operations, with the idempotency stores of
the executors, with injected ones, or, for the strategies, with none.  What
a target was before anything was done to it survives every history; what it
shows at the end is decided by the last call that was applied to it.
-/

namespace ArgosCyberTools.Rollback

open Python Executors Transition

/-- One call: on a store, or a strategy with its default arguments. -/
inductive HistoryCall (Handle : Type) where
  | injected (call : OperationCall Handle)
  | byDefault (kind : ExecutorKind) (stamps : Stamps)
      (arguments : ActionArguments)

/-- What an action in force shows of its target. -/
def contained : ExecutorKind → Standing
  | .kubernetes => .isolated true
  | .scaleToZero => .replicas 0
  | .increaseMonitoring => .level verboseLevel

/-- What an applied act leaves: the original value, or the contained one. -/
def Act.leaving {Value : Type} (original contained : Value) : Act → Value
  | .rollback => original
  | .execute _ => contained

/-- What the last applied act leaves, if there is one. -/
def leftBy {Value : Type} (initially original contained : Value)
    (last : Option Act) : Value :=
  (last.map (Act.leaving original contained)).getD initially

theorem leftBy_replicas (initially original contained : Int)
    (last : Option Act) :
    leftBy (Standing.replicas initially) (.replicas original)
        (.replicas contained) last =
      .replicas (leftBy initially original contained last) := by
  rcases last with _ | _ | _ <;> rfl

theorem leftBy_level (initially original contained : PyStr)
    (last : Option Act) :
    leftBy (Standing.level initially) (.level original) (.level contained)
        last =
      .level (leftBy initially original contained last) := by
  rcases last with _ | _ | _ <;> rfl

/-! ## Calls -/

namespace HistoryCall

variable {Handle : Type}

def kind : HistoryCall Handle → ExecutorKind
  | injected call => call.executor.kind
  | byDefault kind _ _ => kind

def act : HistoryCall Handle → Act
  | injected call => call.act
  | byDefault _ _ _ => .rollback

def arguments : HistoryCall Handle → ActionArguments
  | injected call => call.arguments
  | byDefault _ _ arguments => arguments

def target (call : HistoryCall Handle) : PyStr :=
  call.arguments.target

/-- The call is no rehearsal, and no store remembers its key. -/
def applies (call : HistoryCall Handle) (world : World Handle) : Bool :=
  match call with
  | injected call =>
      decide (call.act ≠ .execute true) &&
        (rememberedIn world call.storeKey).isNone
  | byDefault _ _ _ => true

/-- What the call does to its target, if it is applied. -/
def appliedAt (kind : ExecutorKind) (target : PyStr)
    (call : HistoryCall Handle) (world : World Handle) : Option Act :=
  if call.kind = kind ∧ call.target = target ∧ call.applies world = true then
    some call.act
  else none

end HistoryCall

section Calls

variable [PyRuntime]

/-- The strategy for each kind of state. -/
def strategyMethod (contract : Contract) (stamps : Stamps)
    (arguments : ActionArguments) :
    (kind : ExecutorKind) → PyM (Scope kind.State) ActionError JsonObject
  | .kubernetes => rollbackIsolation contract stamps arguments
  | .scaleToZero => rollbackScaleToZero contract stamps arguments
  | .increaseMonitoring =>
      rollbackIncreaseMonitoring contract stamps arguments

theorem strategyMethod_eq (contract : Contract) (stamps : Stamps)
    (arguments : ActionArguments) (kind : ExecutorKind) :
    strategyMethod contract stamps arguments kind =
      PyM.onField Scope.executor Scope.left
        ((strategyOf kind).perform contract stamps arguments) := by
  cases kind <;> rfl

variable {Handle : Type} [DecidableEq Handle]

def HistoryCall.run (contract : Contract) :
    HistoryCall Handle → PyM (World Handle) ActionError JsonObject
  | injected call => call.run contract
  | byDefault kind stamps arguments =>
      PyM.onField (fun world => ⟨world.state kind, none⟩)
        (fun scope world => world.withState kind scope.state)
        (strategyMethod contract stamps arguments kind)

/-- How a call ends in a world, and the world it leaves. -/
def HistoryCall.serve (contract : Contract) (call : HistoryCall Handle)
    (world : World Handle) :
    Except ActionError JsonObject × World Handle :=
  call.run contract world

/-- The world after a history. -/
def historyAfter (contract : Contract) (calls : List (HistoryCall Handle))
    (initial : World Handle) : World Handle :=
  (serveAll (HistoryCall.serve contract) calls initial).2

/-- What a history applied to a target, in order. -/
def appliedTo (contract : Contract) (kind : ExecutorKind) (target : PyStr)
    (calls : List (HistoryCall Handle)) (initial : World Handle) :
    List Act :=
  writesOf (HistoryCall.serve contract) (HistoryCall.appliedAt kind target)
    calls initial

theorem historyAfter_append (contract : Contract)
    (before after : List (HistoryCall Handle)) (initial : World Handle) :
    historyAfter contract (before ++ after) initial =
      historyAfter contract after
        (historyAfter contract before initial) := by
  rw [historyAfter, serveAll_append]
  rfl

theorem historyAfter_singleton (contract : Contract)
    (call : HistoryCall Handle) (initial : World Handle) :
    historyAfter contract [call] initial = (call.serve contract initial).2 :=
  rfl

/-! ## One call -/

variable {contract : Contract} {world : World Handle}
  {call : HistoryCall Handle}

theorem operated_run (contract : Contract) (call : OperationCall Handle)
    (world : World Handle) :
    Operated contract call world (call.run contract world).1
      (call.run contract world).2 :=
  operated rfl

/-- A strategy left to its default store always applies its effect. -/
theorem serve_byDefault (contract : Contract) (kind : ExecutorKind)
    (stamps : Stamps) (arguments : ActionArguments) (world : World Handle) :
    ∃ record,
      (strategyOf kind).Builds stamps arguments (world.state kind) record ∧
      (HistoryCall.byDefault kind stamps arguments).serve contract world =
        (if contract record = [] then .ok record
          else .error (.invalidActionResult (contract record)),
        world.withState kind
          ((strategyOf kind).act arguments.target
            (world.state kind)).state) := by
  obtain ⟨record, built⟩ := exists_fullPayload (strategyOf kind).producer
    arguments (strategyOf kind).dryRun stamps
    ((strategyOf kind).act arguments.target (world.state kind))
  refine ⟨record, built, ?_⟩
  have ran : (strategyOf kind).perform contract stamps arguments
      ⟨world.state kind, .fresh⟩ = _ :=
    recordedAction_of_new rfl built
  have alone : Scope.executor ⟨world.state kind, none⟩ =
      ⟨world.state kind, .fresh⟩ := rfl
  rw [HistoryCall.serve, HistoryCall.run, PyM.onField_apply, strategyMethod_eq,
    PyM.onField_apply, alone, ran]
  split_ifs <;> rfl

/-- A call that is applied has its effect, whatever becomes of its record. -/
theorem state_serve_of_applied (applied : call.applies world = true) :
    (call.serve contract world).2.state call.kind =
      ((call.act.operation call.kind).act call.target
        (world.state call.kind)).state := by
  cases call with
  | injected call =>
      have ended := operated_run contract call world
      have unheld : (world.stores call.executor.store).get
          call.arguments.idempotencyKey = none := by
        simp only [HistoryCall.applies, Bool.and_eq_true,
          Option.isNone_iff_eq_none] at applied
        exact applied.2
      have reached := ended.state_eq
      rw [if_pos unheld] at reached
      exact reached
  | byDefault kind stamps arguments =>
      obtain ⟨record, -, ran⟩ := serve_byDefault contract kind stamps arguments
        world
      rw [ran]
      exact World.state_withState world kind _

/-- Any other call leaves its state as it was. -/
theorem state_serve_of_unapplied (unapplied : call.applies world = false) :
    (call.serve contract world).2.state call.kind = world.state call.kind := by
  cases call with
  | injected call =>
      have ended := operated_run contract call world
      have reached := ended.state_eq
      split_ifs at reached with unheld
      · have rehearsed : call.act = .execute true := by
          simpa [HistoryCall.applies, rememberedIn, OperationCall.storeKey,
            unheld] using unapplied
        refine reached.trans ?_
        rw [OperationCall.effectOn, OperationCall.operation, rehearsed]
        exact ExecutorKind.operation_dryRun _ _ _
      · exact reached
  | byDefault kind stamps arguments => cases unapplied

theorem state_serve_of_ne {kind : ExecutorKind} (different : kind ≠ call.kind) :
    (call.serve contract world).2.state kind = world.state kind := by
  cases call with
  | injected call =>
      have ended := operated_run contract call world
      exact ended.state_of_ne different
  | byDefault ofKind stamps arguments =>
      obtain ⟨record, -, ran⟩ := serve_byDefault contract ofKind stamps
        arguments world
      rw [ran]
      exact World.state_withState_of_ne world _ different

/-- A call leaves alone what is remembered under other keys. -/
theorem rememberedIn_serve_of_ne {asked : StoreKey Handle}
    (different : ∀ own, call = .injected own → asked ≠ own.storeKey) :
    rememberedIn (call.serve contract world).2 asked =
      rememberedIn world asked := by
  cases call with
  | injected call =>
      exact (operated_run contract call world).rememberedIn_of_ne
        (different call rfl)
  | byDefault kind stamps arguments =>
      obtain ⟨record, -, ran⟩ := serve_byDefault contract kind stamps
        arguments world
      rw [ran, rememberedIn, rememberedIn, World.stores_withState]

/-- What a call leaves of a state is that state, or what it is applied to. -/
theorem state_serve_of {motive : (kind : ExecutorKind) → kind.State → Prop}
    {kind : ExecutorKind} (unchanged : motive kind (world.state kind))
    (changed : call.kind = kind → call.applies world = true →
      motive call.kind ((call.act.operation call.kind).act call.target
        (world.state call.kind)).state) :
    motive kind ((call.serve contract world).2.state kind) := by
  by_cases ofKind : kind = call.kind
  · subst ofKind
    cases applied : call.applies world with
    | true =>
        rw [state_serve_of_applied applied]
        exact changed rfl applied
    | false =>
        rw [state_serve_of_unapplied applied]
        exact unchanged
  · rw [state_serve_of_ne ofKind]
    exact unchanged

theorem slot_serve_of_ne {kind : ExecutorKind} {target : PyStr}
    (elsewhere : ¬ (call.kind = kind ∧ call.target = target)) :
    slot ((call.serve contract world).2.state kind) target =
      slot (world.state kind) target := by
  apply @state_serve_of _ _ _ contract world call
    fun kind state => slot state target = slot (world.state kind) target
  · rfl
  · intro ofKind _
    exact (call.act.operation call.kind).elsewhere _ _ _
      fun same => elsewhere ⟨ofKind, same.symm⟩

/-- No call changes what a target is restored to. -/
theorem original_serve (contract : Contract) (call : HistoryCall Handle)
    (world : World Handle) (kind : ExecutorKind) (target : PyStr) :
    original (call.serve contract world).2 kind target =
      original world kind target := by
  apply @state_serve_of _ _ _ contract world call
    fun kind state => originalIn kind state target = original world kind target
  · rfl
  · intro _ _
    exact originalIn_act call.kind call.act call.target target _

omit [PyRuntime] in
/-- An action in force shows as contained. -/
theorem standingIn_execute (kind : ExecutorKind) (target : PyStr)
    (state : kind.State) :
    standingIn kind
        (((Act.execute false).operation kind).act target state).state
        target =
      contained kind := by
  rw [standingIn_eq, ((Act.execute false).operation kind).here]
  cases kind <;> rfl

omit [PyRuntime] [DecidableEq Handle] in
/-- A rehearsal is never applied. -/
theorem act_ne_of_applied (applied : call.applies world = true) :
    call.act ≠ .execute true := by
  cases call with
  | injected call =>
      simp only [HistoryCall.applies, Bool.and_eq_true,
        decide_eq_true_eq] at applied
      exact applied.1
  | byDefault kind stamps arguments => exact Act.noConfusion

/-- A target shows what an applied call leaves, or what it showed before. -/
theorem standing_serve (contract : Contract) (call : HistoryCall Handle)
    (world : World Handle) (kind : ExecutorKind) (target : PyStr) :
    standing (call.serve contract world).2 kind target =
      leftBy (standing world kind target) (original world kind target)
        (contained kind) (call.appliedAt kind target world) := by
  unfold HistoryCall.appliedAt
  split_ifs with here
  · obtain ⟨rfl, rfl, applied⟩ := here
    rw [standing, state_serve_of_applied applied]
    have performed := act_ne_of_applied applied
    revert performed
    cases call.act with
    | rollback =>
        intro _
        exact standingIn_rollback call.kind call.target _
    | execute dryRun =>
        cases dryRun with
        | true => exact fun performed => absurd rfl performed
        | false =>
            intro _
            exact standingIn_execute call.kind call.target _
  · change _ = standing world kind target
    by_cases elsewhere : call.kind = kind ∧ call.target = target
    · obtain ⟨rfl, rfl⟩ := elsewhere
      have unapplied : call.applies world = false := by
        simpa using here
      rw [standing, state_serve_of_unapplied unapplied]
      rfl
    · rw [standing, standing, standingIn_eq, standingIn_eq,
        slot_serve_of_ne elsewhere]

/-! ## Histories -/

theorem original_historyAfter (contract : Contract)
    (calls : List (HistoryCall Handle)) (initial : World Handle)
    (kind : ExecutorKind) (target : PyStr) :
    original (historyAfter contract calls initial) kind target =
      original initial kind target := by
  apply serveAll_invariant (HistoryCall.serve contract)
    (fun world => original world kind target = original initial kind target)
  · intro call world same
    exact (original_serve contract call world kind target).trans same
  · rfl

/-- At the end a target shows what the last applied call left. -/
theorem standing_historyAfter (contract : Contract)
    (calls : List (HistoryCall Handle)) (initial : World Handle)
    (kind : ExecutorKind) (target : PyStr) :
    standing (historyAfter contract calls initial) kind target =
      leftBy (standing initial kind target) (original initial kind target)
        (contained kind)
        (appliedTo contract kind target calls initial).getLast? := by
  apply serveAll_lastWrite (HistoryCall.serve contract)
    (HistoryCall.appliedAt kind target)
    (fun world => original world kind target = original initial kind target)
    (fun world => standing world kind target)
    (Act.leaving (original initial kind target) (contained kind))
  · intro call world same
    exact (original_serve contract call world kind target).trans same
  · intro call world same
    rw [standing_serve, same]
    rfl
  · rfl

/--
Over every history, the original value of every target survives; its current
value is the contained one if the last call applied to it was a method, the
original one if it was a rollback, and the initial one if there was none; and
no call touches the entry of another target.
-/
theorem original_survives (contract : Contract)
    (calls : List (HistoryCall Handle)) (initial : World Handle) :
    (∀ target,
      (historyAfter contract calls initial).replicas.originalReplicas
          target =
        initial.replicas.originalReplicas target ∧
      (historyAfter contract calls initial).replicas.currentReplicas
          target =
        leftBy (initial.replicas.currentReplicas target)
          (initial.replicas.originalReplicas target) 0
          (appliedTo contract .scaleToZero target calls
            initial).getLast?) ∧
    (∀ target,
      (historyAfter contract calls initial).monitoring.originalLevel
          target =
        initial.monitoring.originalLevel target ∧
      (historyAfter contract calls initial).monitoring.currentLevel
          target =
        leftBy (initial.monitoring.currentLevel target)
          (initial.monitoring.originalLevel target) verboseLevel
          (appliedTo contract .increaseMonitoring target calls
            initial).getLast?) ∧
    ∀ before call, before ++ [call] <+: calls →
      ∀ kind target, ¬ (call.kind = kind ∧ call.target = target) →
        slot ((historyAfter contract (before ++ [call]) initial).state kind)
            target =
          slot ((historyAfter contract before initial).state kind)
            target := by
  refine ⟨fun target => ⟨?_, ?_⟩, fun target => ⟨?_, ?_⟩, ?_⟩
  · exact Standing.replicas.inj
      (original_historyAfter contract calls initial .scaleToZero target)
  · exact Standing.replicas.inj
      ((standing_historyAfter contract calls initial .scaleToZero
        target).trans (leftBy_replicas _ _ _ _))
  · exact Standing.level.inj
      (original_historyAfter contract calls initial .increaseMonitoring
        target)
  · exact Standing.level.inj
      ((standing_historyAfter contract calls initial .increaseMonitoring
        target).trans (leftBy_level _ _ _ _))
  · intro before call _ kind target elsewhere
    rw [historyAfter_append]
    exact slot_serve_of_ne elsewhere

end Calls

end ArgosCyberTools.Rollback
