import ArgosCyberTools.Rollback.Histories

/-!
# The second check

`rollback.verification` recomputes from the states whether a target is as it
was before any action, and does not read the `verification` of a result.
That field tells a caller nothing: every result the six operations return
says that it passed, remembered ones included.  What the second check finds
after a history is decided by the last call applied to the target.
-/

namespace ArgosCyberTools.Rollback

open Python Executors Transition

def verifyIsolationRemoved (cluster : FakeClusterState) (target : PyStr) :
    Bool :=
  !cluster.isIsolated target

def verifyReplicasRestored (state : FakeReplicaState) (target : PyStr) :
    Bool :=
  decide (state.currentReplicas target = state.originalReplicas target)

def verifyMonitoringRestored (state : FakeMonitoringState)
    (target : PyStr) : Bool :=
  decide (state.currentLevel target = state.originalLevel target)

/-- The second check of each kind of state. -/
def verifyRestored : (kind : ExecutorKind) → kind.State → PyStr → Bool
  | .kubernetes => verifyIsolationRemoved
  | .scaleToZero => verifyReplicasRestored
  | .increaseMonitoring => verifyMonitoringRestored

/-- The check passes when a state shows a target as it originally was. -/
theorem verifyRestored_iff (kind : ExecutorKind) (state : kind.State)
    (target : PyStr) :
    verifyRestored kind state target = true ↔
      standingIn kind state target = originalIn kind state target := by
  cases kind with
  | kubernetes =>
      simp [verifyRestored, verifyIsolationRemoved, standingIn, originalIn]
  | scaleToZero =>
      simp [verifyRestored, verifyReplicasRestored, standingIn, originalIn]
  | increaseMonitoring =>
      simp [verifyRestored, verifyMonitoringRestored, standingIn, originalIn]

/-- A result says that its own verification passed. -/
def ReportsPassed (record : JsonObject) : Prop :=
  ∃ detail, record.get? "verification" =
    some (.dict [("passed", .bool true), ("detail", detail)])

/-- The last act applied to a target leaves it as it originally was. -/
def LeavesRestored (kind : ExecutorKind) (standing original : Standing) :
    Option Act → Prop
  | none => standing = original
  | some .rollback => True
  | some (.execute _) => contained kind = original

theorem leavesRestored_iff (kind : ExecutorKind)
    (standing original : Standing) (last : Option Act) :
    leftBy standing original (contained kind) last = original ↔
      LeavesRestored kind standing original last := by
  rcases last with _ | _ | _
  · exact Iff.rfl
  · exact Iff.rfl
  · exact iff_of_true rfl trivial

/-! ## What an operation reports -/

/-- No operation ever finds that it failed. -/
theorem passed_act (kind : ExecutorKind) (act : Act) (target : PyStr)
    (state : kind.State) :
    ((act.operation kind).act target state).passed = true := by
  cases kind with
  | kubernetes =>
      rcases act with (_ | _) | _
      · simp [Act.operation, ExecutorKind.operation, isolation,
          FakeClusterState.applyIsolation, FakeClusterState.isIsolated,
          PyDict.contains]
      · rfl
      · change (isolationRollback.act target state).passed = true
        cases found : FakeClusterState.isolated state |>.get? target with
        | none =>
            simp [isolationRollback, found, FakeClusterState.isIsolated,
              PyDict.contains]
        | some policyName =>
            simp [isolationRollback, found, FakeClusterState.isIsolated,
              FakeClusterState.removeIsolation, PyDict.contains,
              PyDict.get?_pop]
  | scaleToZero =>
      rcases act with (_ | _) | _
      · simp [Act.operation, ExecutorKind.operation, scalingToZero,
          FakeReplicaState.scaleToZero, FakeReplicaState.currentReplicas,
          FakeReplicaState.replicasOf]
      · rfl
      · simp [Act.operation, strategyOf, scalingRollback,
          FakeReplicaState.currentReplicas, FakeReplicaState.replicasOf]
  | increaseMonitoring =>
      rcases act with (_ | _) | _
      · simp [Act.operation, ExecutorKind.operation, monitoringIncrease,
          FakeMonitoringState.increaseMonitoring,
          FakeMonitoringState.currentLevel, FakeMonitoringState.levelsOf]
      · rfl
      · simp [Act.operation, strategyOf, monitoringRollback,
          FakeMonitoringState.currentLevel, FakeMonitoringState.levelsOf]

section Calls

variable [PyRuntime]

theorem reportsPassed_of_fullPayload {State : Type} {producer : PyStr}
    {arguments : ActionArguments} {dryRun : Bool} {stamps : Stamps}
    {effect : Effect State} {record : JsonObject}
    (passed : effect.passed = true)
    (built : fullPayload producer arguments dryRun stamps effect =
      .ok record) :
    ReportsPassed record := by
  simp only [fullPayload, bind_eq_ok_iff, buildEnvelope, pure_eq_ok_iff]
    at built
  obtain ⟨resultId, -, envelope, ⟨payloadHash, -, rfl⟩, rfl⟩ := built
  refine ⟨.str effect.detail, ?_⟩
  rw [PyDict.get?_ofList]
  simp [actionPayload, PyDict.lookupIn, passed]

variable {Handle : Type} [DecidableEq Handle] {contract : Contract}

/-- Everything the stores of a world remember says that it passed. -/
def RemembersPassed (world : World Handle) : Prop :=
  ∀ asked record, rememberedIn world asked = some record →
    ReportsPassed record

/-- A call returns a result that passed, and remembers no other. -/
theorem reportsPassed_serve (call : HistoryCall Handle) {world : World Handle}
    (remembers : RemembersPassed world) :
    (∀ record, (call.serve contract world).1 = .ok record →
      ReportsPassed record) ∧
      RemembersPassed (call.serve contract world).2 := by
  cases call with
  | injected call =>
      have ended := operated_run contract call world
      change (∀ record, (call.run contract world).1 = .ok record →
        ReportsPassed record) ∧ RemembersPassed (call.run contract world).2
      generalize (call.run contract world).1 = outcome at ended
      generalize (call.run contract world).2 = after at ended
      cases ended with
      | remembered held =>
          refine ⟨?_, remembers⟩
          intro record returned
          cases returned
          exact remembers call.storeKey _ held
      | @accepted built produces =>
          have passed : ReportsPassed built :=
            reportsPassed_of_fullPayload (passed_act _ _ _ _) produces.2.1
          constructor
          · intro record returned
            cases returned
            exact passed
          · intro asked record held
            rw [rememberedIn_withExecutor, IdempotencyStore.get_remember]
              at held
            split_ifs at held with here sameKey
            · cases held
              exact passed
            · apply remembers asked
              rwa [rememberedIn, here]
            · exact remembers asked record held
      | rejected unheld rejects =>
          constructor
          · intro record returned
            cases returned
          · intro asked record held
            rw [rememberedIn_withExecutor] at held
            split_ifs at held with here
            · apply remembers asked
              rwa [rememberedIn, here]
            · exact remembers asked record held
  | byDefault kind stamps arguments =>
      obtain ⟨built, builds, ran⟩ := serve_byDefault contract kind stamps
        arguments world
      rw [ran]
      constructor
      · intro record returned
        change (if contract built = [] then Except.ok built
          else .error (ActionError.invalidActionResult (contract built))) = _
            at returned
        split_ifs at returned
        · cases returned
          exact reportsPassed_of_fullPayload
            (passed_act kind .rollback arguments.target _) builds
      · intro asked record held
        apply remembers asked
        rwa [rememberedIn, World.stores_withState] at held

theorem remembersPassed_historyAfter {initial : World Handle}
    (remembers : RemembersPassed initial) (calls : List (HistoryCall Handle)) :
    RemembersPassed (historyAfter contract calls initial) := by
  apply serveAll_invariant (HistoryCall.serve contract) RemembersPassed
  · intro call world kept
    exact (reportsPassed_serve call kept).2
  · exact remembers

/-- After a history, the last call applied to a target decides the check. -/
theorem verifyRestored_historyAfter (contract : Contract)
    (calls : List (HistoryCall Handle)) (initial : World Handle)
    (kind : ExecutorKind) (target : PyStr) :
    verifyRestored kind ((historyAfter contract calls initial).state kind)
        target = true ↔
      LeavesRestored kind (standing initial kind target)
        (original initial kind target)
        (appliedTo contract kind target calls initial).getLast? := by
  have survives := original_historyAfter contract calls initial kind target
  rw [verifyRestored_iff, ← leavesRestored_iff, ← standing_historyAfter,
    ← survives]
  exact Iff.rfl

/-- A rollback passes the check if it is applied, or was not needed. -/
theorem verifyRestored_serve (contract : Contract) {call : HistoryCall Handle}
    (isRollback : call.act = .rollback) (world : World Handle) :
    verifyRestored call.kind ((call.serve contract world).2.state call.kind)
        call.target = true ↔
      call.applies world = true ∨
        verifyRestored call.kind (world.state call.kind) call.target =
          true := by
  rw [verifyRestored_iff]
  change standing (call.serve contract world).2 call.kind call.target =
    original (call.serve contract world).2 call.kind call.target ↔ _
  rw [standing_serve, original_serve]
  cases applied : call.applies world with
  | true =>
      simp [HistoryCall.appliedAt, applied, isRollback, leftBy, Act.leaving]
  | false =>
      simp [HistoryCall.appliedAt, applied, leftBy, verifyRestored_iff,
        standing, original]

/--
However a history goes, every result a further call returns says that its
verification passed.  The second check passes exactly when the last call
applied to the target left it as it was before any action; after a rollback,
when the rollback was applied, or the check had passed before it.
-/
theorem second_check_decides {initial : World Handle}
    (remembers : RemembersPassed initial) (calls : List (HistoryCall Handle))
    (call : HistoryCall Handle) :
    (∀ record,
      (call.serve contract (historyAfter contract calls initial)).1 =
          .ok record →
        ReportsPassed record) ∧
    (∀ kind target,
      verifyRestored kind ((historyAfter contract calls initial).state kind)
          target = true ↔
        LeavesRestored kind (standing initial kind target)
          (original initial kind target)
          (appliedTo contract kind target calls initial).getLast?) ∧
    (call.act = .rollback →
      (verifyRestored call.kind
          ((call.serve contract
            (historyAfter contract calls initial)).2.state call.kind)
          call.target = true ↔
        call.applies (historyAfter contract calls initial) = true ∨
          verifyRestored call.kind
            ((historyAfter contract calls initial).state call.kind)
            call.target = true)) := by
  refine ⟨?_, ?_, ?_⟩
  · exact (reportsPassed_serve call
      (remembersPassed_historyAfter remembers calls)).1
  · exact verifyRestored_historyAfter contract calls initial
  · intro isRollback
    exact verifyRestored_serve contract isRollback _

end Calls

section Example

attribute [local instance] Reference.runtime

open McpGateway.Scenario

/-- The rollback of the incident under the key of its execute. -/
def rollbackUnderSameKey : HistoryCall Unit :=
  .injected (incidentCall .rollback "key-1" "action-1")

/-- Answered with the record of the isolation, the rollback reports success. -/
theorem second_check_decides_on_shared_key :
    ∃ record after,
      rollbackUnderSameKey.serve (fun _ => [])
          (historyAfter (fun _ => [])
            [.injected (incidentCall (.execute false) "key-1" "action-1")]
            untouchedWorld) = (.ok record, after) ∧
        ReportsPassed record ∧
        verifyRestored .kubernetes (after.state .kubernetes) target =
          false := by
  obtain ⟨record, world, step, held, -, applied⟩ :=
    @exists_operationStep_of_new _ _ _ (fun _ => [])
      (incidentCall (.execute false) "key-1" "action-1") untouchedWorld rfl
      fun _ => rfl
  have reached : historyAfter (fun _ => [])
      [.injected (incidentCall (.execute false) "key-1" "action-1")]
      untouchedWorld = world := by
    rw [historyAfter_singleton]
    exact congrArg Prod.snd step
  have sameKey : (incidentCall (.execute false) "key-1" "action-1").storeKey =
      (incidentCall .rollback "key-1" "action-1").storeKey :=
    rfl
  rw [sameKey] at held
  have answered : rollbackUnderSameKey.serve (fun _ => []) world =
      (.ok record, world) :=
    operationStep_of_remembered held
  have nothing : RemembersPassed (untouchedWorld : World Unit) := by
    intro asked other remembered
    have unused : rememberedIn untouchedWorld asked = none := rfl
    rw [unused] at remembered
    cases remembered
  obtain ⟨reported, decided, -⟩ :=
    @second_check_decides _ _ _ (fun _ => []) untouchedWorld nothing
      [.injected (incidentCall (.execute false) "key-1" "action-1")]
      rollbackUnderSameKey
  rw [reached] at reported decided ⊢
  refine ⟨record, world, answered, ?_, ?_⟩
  · apply reported
    rw [answered]
  · apply Bool.eq_false_iff.mpr
    intro restored
    have last := (decided .kubernetes target).mp restored
    cases last

end Example

end ArgosCyberTools.Rollback
