import ArgosCyberTools.McpGateway.ControlledExecution

/-!
# Zero execute

What one call may change is the slot of its own target, in the state of its
own executor, and only when the gateway allowed `execute` under a key that
executor had not remembered.  Over a run, every change of any slot is the
effect of one such call.
-/

namespace ArgosCyberTools.McpGateway

open Python ToolCatalog Policies Executors Transition

section Steps

variable [PyRuntime] {Store Handle : Type} [ApprovalStoreProtocol Store]
  [DecidableEq Handle] {contract : Contract}

/-- A call that may apply its effect to a target, in this state. -/
structure MayExecute (platform : Platform Store (World Handle))
    (call : ExecutionCall Handle) (kind : ExecutorKind) (target : PyStr) :
    Prop where
  allowed : Authorised platform.gateway call.authorize
  execute : call.authorize.request.action = executeAction
  onTarget : call.authorize.request.target = target
  ofKind : call.executor.kind = kind
  newKey :
    (platform.world.stores call.executor.store).get call.idempotencyKey =
      none

/-- What a step leaves alone. -/
structure ZeroExecute (before : Platform Store (World Handle))
    (call : ExecutionCall Handle) (after : Platform Store (World Handle)) :
    Prop where
  changes : ∀ kind target,
    slot (after.world.state kind) target ≠
        slot (before.world.state kind) target →
      MayExecute before call kind target
  otherTargets : ∀ kind target,
    target ≠ call.authorize.request.target →
      slot (after.world.state kind) target =
        slot (before.world.state kind) target
  otherStates : ∀ kind, kind ≠ call.executor.kind →
    after.world.state kind = before.world.state kind
  idle :
    ¬ (Authorised before.gateway call.authorize ∧
        call.authorize.request.action = executeAction) →
      ∀ kind, after.world.state kind = before.world.state kind

variable {before after initial final : Platform Store (World Handle)}
  {event : ExecutionEvent Handle} {events : List (ExecutionEvent Handle)}

theorem ExecutionStep.zeroExecute
    (step : ExecutionStep contract before event after) :
    ZeroExecute before event.call after := by
  rcases step.split with ⟨refused, same⟩ | ⟨_, _, authorized,
    granted, ran, -⟩
  · constructor
    · intro kind target changed
      exact (changed (by rw [same])).elim
    · intro kind target _
      rw [same]
    · intro kind _
      rw [same]
    · intro _ kind
      rw [same]
  · have allowed : Authorised before.gateway event.call.authorize :=
      ⟨_, _, authorized, granted⟩
    have dry : event.call.authorize.request.action ≠ executeAction →
        after.world.state event.call.executor.kind =
          before.world.state event.call.executor.kind := by
      intro other
      have dryRun : event.call.dryRun = true := decide_eq_true other
      rw [ran.state_eq, dryRun]
      split_ifs
      · exact ExecutorKind.operation_dryRun _ _ _
      · rfl
    have others := fun kind (different : kind ≠ event.call.executor.kind) =>
      ran.state_of_ne different
    constructor
    · intro kind target changed
      have ofKind : event.call.executor.kind = kind := by
        by_contra different
        exact changed (by rw [others kind (Ne.symm different)])
      subst ofKind
      constructor
      · exact allowed
      · by_contra other
        exact changed (by rw [dry other])
      · by_contra different
        exact changed (ran.slot_of_ne (Ne.symm different))
      · rfl
      · by_contra remembered
        have same := ran.state_eq.trans (if_neg remembered)
        exact changed (by rw [same])
    · intro kind target different
      by_cases ofKind : kind = event.call.executor.kind
      · subst ofKind
        exact ran.slot_of_ne different
      · rw [others kind ofKind]
    · exact others
    · intro unauthorised kind
      by_cases ofKind : kind = event.call.executor.kind
      · subst ofKind
        exact dry fun execute => unauthorised ⟨allowed, execute⟩
      · exact others kind ofKind

/--
Every step of a run obeys the frame; and whatever differs between the ends
of a run was changed by a step that was allowed to.
-/
theorem zero_execute_over_runs
    (run : Run (ExecutionStep contract) initial events final) :
    (∀ front event back here there,
      events = front ++ event :: back →
      Run (ExecutionStep contract) initial front here →
      ExecutionStep contract here event there →
        ZeroExecute here event.call there) ∧
    (∀ kind target,
      slot (final.world.state kind) target ≠
          slot (initial.world.state kind) target →
        ∃ front event back here there,
          events = front ++ event :: back ∧
            Run (ExecutionStep contract) initial front here ∧
            ExecutionStep contract here event there ∧
            MayExecute here event.call kind target) := by
  constructor
  · intro front event back here there _ _ step
    exact step.zeroExecute
  · intro kind target changed
    obtain ⟨front, event, back, here, there, parts, reached, step, -, -,
      differs⟩ := run.exists_changing_step
        (fun platform => slot (platform.world.state kind) target)
        (Ne.symm changed)
    exact ⟨front, event, back, here, there, parts, reached, step,
      step.zeroExecute.changes kind target (Ne.symm differs)⟩

end Steps

section Example

attribute [local instance] Reference.runtime

open Scenario

/-- Raising the monitoring level of the target is traced to its call. -/
theorem zero_execute_over_runs_of_one_call :
    ∃ (event : ExecutionEvent Unit)
      (final : Platform ApprovalStore (World Unit)),
      Run (ExecutionStep fun _ => [])
          ⟨gateway ApprovalStore.fresh, untouchedWorld⟩ [event] final ∧
        slot (final.world.state .increaseMonitoring) target =
          some (.levels normalLevel verboseLevel) ∧
        MayExecute
          ⟨gateway ApprovalStore.fresh, untouchedWorld⟩ event.call
          .increaseMonitoring target := by
  obtain ⟨outcome, final, step, applied⟩ :=
    exists_monitoringStep (fun _ => []) ⟨.increaseMonitoring, ()⟩
  have written : slot (final.world.state .increaseMonitoring) target =
      some (.levels normalLevel verboseLevel) := applied
  have run := Run.next step (.done _)
  have law := (zero_execute_over_runs run).1 [] _ [] _ _ rfl
    (.done _) step
  exact ⟨_, final, run, written,
    law.changes _ _ (by rw [written]; exact nofun)⟩

end Example

end ArgosCyberTools.McpGateway
