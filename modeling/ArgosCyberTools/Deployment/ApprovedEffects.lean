import ArgosCyberTools.Deployment.AtMostOnce
import ArgosCyberTools.Deployment.Execution
import ArgosCyberTools.Transition.Annotated

/-!
# An approval has at most one effect

Over every interleaving of executions, crashes and restarts, a change of an
executor's state that needed an approval left its row in the shared file,
and no other such change was made under the same string id.  The argument needs
three things of a call that ran its executor: it was granted, it stays
granted, and it does not wait for its executor any more.
-/

namespace ArgosCyberTools.Deployment

open Python Sqlite ToolCatalog Policies McpGateway Executors Transition

section Unspent

variable [PyRuntime] {Instance CallId : Type} [DecidableEq Instance]
  [DecidableEq CallId] {configuration : Instance → Configuration}
  {dbPath : PyStr} {initial : ConsumedApprovals}
  {fleet after : Fleet Instance CallId} {event : Event Instance CallId}

/-- What no call behind its `INSERT` presented was there at the start. -/
structure Unspent (configuration : Instance → Configuration)
    (initial : ConsumedApprovals) (fleet : Fleet Instance CallId) : Prop where
  consistent : Consistent configuration initial fleet
  kept : ∀ row ∈ initial.rows, row ∈ fleet.consumedApprovals.rows
  unspent : ∀ id attempt approvalId, fleet.attempts id = some attempt →
    attempt.Consumed (configuration attempt.gateway).catalog →
    presentedId attempt.call = some (.str approvalId) →
      ¬ initial.Holds approvalId

omit [DecidableEq Instance] in
/-- The next part of a call is behind an `INSERT` of a new id, or was before. -/
theorem Attempt.Progress.consumed {attempt : Attempt Instance}
    {catalog : Catalog} {file written : ConsumedApprovals}
    {phase : Phase} (progress : attempt.Progress file phase written)
    (sound : attempt.Sound catalog file)
    (consumed : (attempt.reach phase).Consumed catalog) :
    attempt.Consumed catalog ∨
      ∀ approvalId, presentedId attempt.call = some (.str approvalId) →
        ¬ file.Holds approvalId := by
  cases progress with
  | refused waiting error =>
      have refused := not_grantsApproved_of_early
        (not_grantsEarly_storeExit error) catalog attempt.call
      exact (refused consumed).elim
  | identified waiting read => exact consumed.elim
  | @inserted demand approvalId row _ waiting bindsTo bound admitted rows =>
      right
      intro text presented
      simp only [Attempt.Sound, waiting] at sound
      obtain ⟨demands, read⟩ := sound
      have isRow : IsRow attempt.call row :=
        { identified := ⟨approvalId, by
            simp [presentedId, demands.presented, read], bindsTo⟩
          bound := bound ▸ demands.given }
      exact admitted text (isRow.approvalId_eq presented)
  | @minted demand waiting =>
      left
      simp only [Attempt.Sound, waiting] at sound
      cases demand with
      | none => exact (sound _ consumed).elim
      | some demand => simp [Attempt.Consumed, waiting]

theorem Unspent.step (unspent : Unspent configuration initial fleet)
    (step : Step configuration dbPath fleet event after) :
    Unspent configuration initial after where
  consistent := unspent.consistent.step step
  kept row member := step.rows_subset row (unspent.kept row member)
  unspent := by
    cases step with
    | start stopped opened => exact unspent.unspent
    | crash gateway =>
        intro id attempt approvalId made consumed presented
        obtain ⟨before, beforeMade, rfl⟩ := Option.map_eq_some_iff.mp made
        rcases afterCrash_cases gateway before with same | lost
        · rw [same] at consumed presented
          exact unspent.unspent id before approvalId beforeMade consumed
            presented
        · rw [lost] at consumed
          exact consumed.elim
    | @call id gateway call limiter counted result unused up checked =>
        intro other attempt approvalId made consumed presented
        rw [Fleet.record_attempts] at made
        by_cases same : other = id
        · subst same
          rw [Function.update_self, Option.some.injEq] at made
          subst made
          exact ((checks_sound checked fleet.consumedApprovals).2
            consumed).elim
        · rw [Function.update_of_ne same] at made
          exact unspent.unspent other attempt approvalId made consumed
            presented
    | @advance id connection attempt phase file made advanced =>
        intro other written approvalId writtenMade consumed presented
        rw [Fleet.record_attempts] at writtenMade
        by_cases same : other = id
        · subst same
          rw [Function.update_self, Option.some.injEq] at writtenMade
          subst writtenMade
          have progress := Attempt.advance_progress advanced
          rcases progress.consumed (unspent.consistent.sound other attempt made)
            consumed with before | unheld
          · exact unspent.unspent other attempt approvalId made before
              presented
          · rintro ⟨row, member, keyed⟩
            exact unheld approvalId presented
              ⟨row, unspent.kept row member, keyed⟩
        · rw [Function.update_of_ne same] at writtenMade
          exact unspent.unspent other written approvalId writtenMade consumed
            presented

/-- A fleet that has not been called has spent nothing. -/
theorem unspent_of_uncalled (uncalled : ∀ id, fleet.attempts id = none) :
    Unspent configuration fleet.consumedApprovals fleet where
  consistent :=
    consistent_of_run
      (.done fleet : Run (Step configuration "") fleet [] fleet) uncalled
  kept _ member := member
  unspent := by
    intro id attempt approvalId made
    rw [uncalled] at made
    cases made

/-- A call that has returned is over. -/
theorem Step.returned_stays
    (step : Step configuration dbPath fleet event after) {id : CallId}
    {attempt : Attempt Instance}
    {outcome : Except AuthorizeError AuthorizationResult}
    (returned : attempt.phase = .returned outcome)
    (made : fleet.attempts id = some attempt) :
    after.attempts id = some attempt := by
  cases step with
  | start stopped opened => exact made
  | crash gateway =>
      have kept : attempt.afterCrash gateway = attempt := by
        rw [Attempt.afterCrash, returned]
      exact (congrArg (Option.map _) made).trans (congrArg some kept)
  | @call other gateway call limiter counted result unused up checked =>
      have different : id ≠ other := by
        rintro rfl
        rw [unused] at made
        cases made
      exact (Function.update_of_ne different _ _).trans made
  | @advance other connection before phase file otherMade advanced =>
      have different : id ≠ other := by
        rintro rfl
        rw [made, Option.some.injEq] at otherMade
        subst otherMade
        simp [Attempt.advance, returned] at advanced
      exact (Function.update_of_ne different _ _).trans made

end Unspent

/-! ## Performed actions -/

section Performances

variable [PyRuntime] {Instance CallId Handle : Type} [DecidableEq Instance]
  [DecidableEq CallId] [DecidableEq Handle]
  {configuration : Instance → Configuration} {dbPath : PyStr}
  {contract : Contract} {site after initial final : Site Instance CallId Handle}
  {event : SiteEvent Instance CallId Handle}
  {events : List (SiteEvent Instance CallId Handle)}

/-- The effect was requested for a tool that requires an approval. -/
structure ApprovedEffect (configuration : Instance → Configuration)
    (performance : Performance Instance CallId Handle) : Prop where
  effective : performance.effective = true
  required : ∃ tool,
    (configuration performance.gateway).catalog.get?
        performance.call.authorize.request.toolName = some tool ∧
      tool.approvalRequired = true

/-- The action was performed: its call was granted, and waits no more. -/
structure Performed (configuration : Instance → Configuration)
    (performance : Performance Instance CallId Handle)
    (site : Site Instance CallId Handle) : Prop where
  ended : site.waiting performance.id = none
  granted : ∃ authorization,
    site.fleet.attempts performance.id =
        some ⟨performance.gateway, performance.call.authorize,
          .returned (.ok authorization)⟩ ∧
      (ApprovedEffect configuration performance →
        GrantsApproved (configuration performance.gateway).catalog
          ⟨performance.call.authorize, .ok authorization⟩)

omit [DecidableEq Instance] [DecidableEq CallId] in
/-- A rehearsal has no effect. -/
theorem execute_of_effective {call : ExecutionCall Handle}
    {world reached : World Handle} {outcome : Except ActionError JsonObject}
    (ran : call.executor.run contract call.stamps call.arguments call.dryRun
      world = (outcome, reached))
    (changed : ∃ kind target,
      slot (reached.state kind) target ≠ slot (world.state kind) target) :
    call.authorize.request.action = executeAction := by
  obtain ⟨kind, target, differs⟩ := changed
  by_contra rehearsed
  have dryRun : call.dryRun = true := decide_eq_true rehearsed
  rw [dryRun] at ran
  have ended := called ran
  apply differs
  by_cases ofKind : kind = call.executor.kind
  · subst ofKind
    rw [ended.state_eq]
    split_ifs
    · rw [ExecutorCall.effectOn, ExecutorKind.operation_dryRun]
    · rfl
  · rw [ended.state_of_ne ofKind]

/-- A step that performs an action leaves it performed. -/
theorem SiteStep.performed {performance : Performance Instance CallId Handle}
    (step : SiteStep configuration dbPath contract site (.perform performance)
      after) :
    Performed configuration performance after := by
  cases step with
  | @perform _ authorization world returned allowed waits ran changes =>
      refine ⟨Function.update_self _ _ _, authorization, returned, ?_⟩
      intro effect
      exact
        { allowed := ⟨authorization, rfl, allowed⟩
          execute := execute_of_effective ran (changes.mp effect.effective)
          required := effect.required }

theorem Performed.step {performance : Performance Instance CallId Handle}
    (performed : Performed configuration performance site)
    (step : SiteStep configuration dbPath contract site event after) :
    Performed configuration performance after := by
  obtain ⟨authorization, returned, grants⟩ := performed.granted
  refine ⟨?_, authorization, ?_, grants⟩
  · cases step with
    | start started => exact performed.ended
    | crash gateway =>
        change (if _ then none else site.waiting performance.id) = none
        rw [performed.ended, ite_self]
    | @call id gateway call fleet called =>
        have different : performance.id ≠ id := by
          rintro rfl
          cases called with
          | call unused up checked =>
              rw [returned] at unused
              cases unused
        exact (Function.update_of_ne different _ _).trans performed.ended
    | advance advanced => exact performed.ended
    | @perform other _ world otherReturned allowed waits ran changes =>
        change Function.update site.waiting other.id none performance.id = none
        rw [Function.update_apply, performed.ended, ite_self]
  · exact step.fleet_invariant
      (fun fleet => fleet.attempts performance.id = some _)
      (fun held fleetStep => fleetStep.returned_stays rfl held) returned

theorem Unspent.siteStep {rows : ConsumedApprovals}
    (unspent : Unspent configuration rows site.fleet)
    (step : SiteStep configuration dbPath contract site event after) :
    Unspent configuration rows after.fleet :=
  step.fleet_invariant (Unspent configuration rows)
    (fun held fleetStep => held.step fleetStep) unspent

/--
Over every interleaving, crash and restart: an effect that needs an approval
has its row in the file, for the plan it was authorised for; a string id had
no row at the start; and no two such effects are under the same string id.
-/
theorem approved_effects_at_most_once
    (run : Run (SiteStep configuration dbPath contract) initial events final)
    (uncalled : ∀ id, initial.fleet.attempts id = none) :
    (∀ performance, .perform performance ∈ events →
      ApprovedEffect configuration performance →
        Recorded performance.call.authorize final.fleet.consumedApprovals ∧
        ∀ approvalId,
          presentedId performance.call.authorize = some (.str approvalId) →
            ¬ initial.fleet.consumedApprovals.Holds approvalId) ∧
    events.Pairwise fun first second =>
      ∀ one other approvalId, first = .perform one → second = .perform other →
        ApprovedEffect configuration one →
        ApprovedEffect configuration other →
        presentedId one.call.authorize = some (.str approvalId) →
          presentedId other.call.authorize ≠ some (.str approvalId) := by
  have unspent : Unspent configuration initial.fleet.consumedApprovals
      initial.fleet :=
    unspent_of_uncalled uncalled
  let left (event : SiteEvent Instance CallId Handle)
      (site : Site Instance CallId Handle) : Prop :=
    ∀ performance, event = .perform performance →
      Performed configuration performance site
  have leaves : ∀ {event : SiteEvent Instance CallId Handle}
      {site after : Site Instance CallId Handle},
      SiteStep configuration dbPath contract site event after →
        left event after := by
    rintro _ site after step performance rfl
    exact step.performed
  have kept : ∀ {past event : SiteEvent Instance CallId Handle}
      {site after : Site Instance CallId Handle}, left past site →
      SiteStep configuration dbPath contract site event after →
        left past after := by
    intro past event site after held step performance isPerformance
    exact (held performance isPerformance).step step
  constructor
  · intro performance member effect
    have stays : Unspent configuration initial.fleet.consumedApprovals
        final.fleet :=
      run.invariant (fun site : Site Instance CallId Handle =>
        Unspent configuration initial.fleet.consumedApprovals site.fleet)
        Unspent.siteStep unspent
    obtain ⟨authorization, made, grants⟩ :=
      (run.forall_left (fun _ => True) left (fun _ _ => trivial)
        (fun _ => leaves) kept trivial _ member performance rfl).granted
    refine ⟨?_, ?_⟩
    · exact (stays.consistent.sound _ _ made).recorded (grants effect)
    · intro approvalId presented
      exact stays.unspent _ _ approvalId made (grants effect) presented
  · refine run.pairwise _ (fun site : Site Instance CallId Handle =>
      Unspent configuration initial.fleet.consumedApprovals site.fleet) left
      Unspent.siteStep (fun _ => leaves) kept ?_ unspent
    rintro past source event target held performed step one other approvalId
      rfl rfl effect otherEffect presented otherPresented
    obtain ⟨-, authorization, made, grants⟩ := kept performed step one rfl
    obtain ⟨-, answer, otherMade, otherGrants⟩ := step.performed
    have same : one.id = other.id :=
      (held.siteStep step).consistent.single one.id other.id _ _ approvalId
        made otherMade (grants effect) (otherGrants otherEffect) presented
        otherPresented
    cases step with
    | perform returned allowed waits ran changes =>
        rw [← same, (performed one rfl).ended] at waits
        cases waits

end Performances

section Example

attribute [local instance] Reference.runtime

open McpGateway.Scenario

/-- The isolation of the incident, under an approval. -/
def approvedIsolation (planHash signatureRef : PyStr) :
    ExecutionCall Unit where
  executor := ⟨.kubernetes, ()⟩
  stamps := ⟨noon, noon, noon, ambient.uuidHex⟩
  authorize := racingCall planHash signatureRef
  runId := "run-1"
  idempotencyKey := "key-1"
  actionId := "action-1"

def unusedSite : Site Bool Bool Unit :=
  ⟨unusedFleet, fun _ => untouchedWorld, fun _ => none⟩

/-- On an unused file, the approved isolation is authorised. -/
theorem approvedIsolation_authorised {planHash signatureRef : PyStr}
    (bound :
      boundPlanHash isolateKubernetesWorkloadTool.name target envelopeHash =
        .ok planHash)
    (signed :
      computeSignatureRef (.str "apr:1") planHash = .ok signatureRef) :
    Authorised
      (⟨shippedCatalog, shippedAllowlists, ⟨.ready, Table.empty⟩,
        RateLimiter.fresh⟩ : Gateway DurableApprovalStore)
      (racingCall planHash signatureRef) := by
  obtain ⟨tool, found, inScope, admitted, documents⟩ :=
    checks_eq_ok_iff.mp (racingCall_checks signatureRef bound)
  have valid : FieldsValid (approval "apr:1" signatureRef) planHash
      "soc-analyst" executorId noon (.str "apr:1") :=
    signedApproval_valid signed (by decide) (by decide) endOfYear_notPassed
  have bindsTo : bindText (.str "apr:1") = .ok (some "apr:1") :=
    bindText_str (surrogateFree_ofString "apr:1")
  let row := DurableApprovalStore.consumedRow noon planHash (some "apr:1")
  let file : ConsumedApprovals :=
    Table.empty.append row (Table.empty_admits row)
  have inserted : DurableApprovalStore.insertConsumed (.str "apr:1") planHash
      noon ⟨.ready, Table.empty⟩ = (.ok (), ⟨.ready, file⟩) :=
    DurableApprovalStore.insertConsumed_eq_ok_iff.mpr
      ⟨rfl, rfl, some "apr:1", bindsTo, Table.empty_admits row, rfl⟩
  have accepted : DurableApprovalStore.validateAndConsume
      (approval "apr:1" signatureRef) planHash "soc-analyst" executorId noon
      ⟨.ready, Table.empty⟩ = (.ok (), ⟨.ready, file⟩) :=
    DurableApprovalStore.validateAndConsume_eq_ok_iff.mpr
      ⟨.str "apr:1", valid, inserted⟩
  have staged : storeStage
      (some ⟨approval "apr:1" signatureRef, planHash⟩)
      (racingCall planHash signatureRef).request noon
      (⟨.ready, Table.empty⟩ : DurableApprovalStore) =
        (.ok (), ⟨.ready, file⟩) := by
    rw [storeStage]
    apply PyM.mapError_apply_eq_ok_iff.mpr
    exact accepted
  have minted : mintStage (racingCall planHash signatureRef).request ambient =
      .ok ⟨true, .authorised, some (mintEphemeralCredential ambient)⟩ :=
    mintStage_eq_ok_iff.mpr ⟨credential_ne_callerToken, rfl⟩
  refine ⟨_, ⟨shippedCatalog, shippedAllowlists, ⟨.ready, file⟩,
      counted isolateKubernetesWorkloadTool⟩,
    authorize_allowed_iff.mpr
      ⟨⟨tool, some ⟨approval "apr:1" signatureRef, planHash⟩, ?_⟩, minted⟩⟩
  exact
    { found := found
      inScope := inScope
      counted := admitted
      documents := documents
      consumed := staged
      sameCatalog := rfl
      sameAllowlists := rfl }

/-- An instance that performs the isolation has the row of its approval. -/
theorem approved_effects_at_most_once_of_isolation :
    ∃ (planHash : PyStr) (events : List (SiteEvent Bool Bool Unit))
      (performance : Performance Bool Bool Unit) (final : Site Bool Bool Unit),
      Run (SiteStep shippedConfiguration "approvals.db" fun _ => []) unusedSite
          events final ∧
        .perform performance ∈ events ∧
        ApprovedEffect shippedConfiguration performance ∧
        ∃ row ∈ final.fleet.consumedApprovals.rows,
          row.approvalId = some "apr:1" ∧ row.actionBinding = planHash := by
  obtain ⟨planHash, signatureRef, bound, signed⟩ :=
    exists_signed_plan isolateKubernetesWorkloadTool
      (surrogateFree_ofString "apr:1")
  let call := approvedIsolation planHash signatureRef
  let opened : Platform DurableApprovalStore (World Unit) :=
    ⟨⟨shippedCatalog, shippedAllowlists, ⟨.ready, Table.empty⟩,
      RateLimiter.fresh⟩, untouchedWorld⟩
  have allowed : Authorised opened.gateway call.authorize :=
    approvedIsolation_authorised bound signed
  obtain ⟨outcome, platform, step⟩ :=
    exists_executionStep (fun _ => []) opened call
  have applied : platform.world.state .kubernetes =
      (call.executor.effectOn false target untouchedWorld).state :=
    step.applies allowed rfl rfl
  have isolated : slot (platform.world.state .kubernetes) target =
      some (.policy (FakeClusterState.policyName target)) := by
    rw [applied]
    exact (ExecutorKind.kubernetes.operation false).here target _
  have changed : slot (platform.world.state .kubernetes) target ≠
      slot (untouchedWorld.state .kubernetes) target := by
    rw [isolated]
    exact nofun
  have empty : DurableApprovalStore.openDatabase "approvals.db" .ready
      (some Table.empty) = .ok ⟨.ready, Table.empty⟩ := rfl
  let running : Site Bool Bool Unit :=
    { unusedSite with
      fleet := { unusedFleet.serve false RateLimiter.fresh with
        consumedApprovals := Table.empty }
      worlds := Function.update unusedSite.worlds false untouchedWorld }
  have started : SiteStep shippedConfiguration "approvals.db" (fun _ => [])
      unusedSite (.start false untouchedWorld) running :=
    .start (@Step.start _ _ _ _ _ _ _ unusedFleet false .ready
      RateLimiter.fresh _ rfl empty)
  have stepThere : ExecutionStep (fun _ => [])
      ⟨⟨(shippedConfiguration false).catalog,
          (shippedConfiguration false).targetAllowlists,
          ⟨.ready, running.fleet.consumedApprovals⟩, RateLimiter.fresh⟩,
        running.worlds false⟩ ⟨call, outcome⟩ platform :=
    step
  have unused : running.fleet.attempts false = none := rfl
  have up : running.fleet.running false = some RateLimiter.fresh := rfl
  obtain ⟨parts, answer, performed, waits, run, served⟩ :
      ∃ parts answer performed waits,
        Run (SiteStep shippedConfiguration "approvals.db" fun _ => []) running
          (.call false false call ::
            List.replicate parts (.advance false .ready) ++ performed) _ ∧ _ :=
    run_of_execute rfl unused up stepThere
  have whole := Run.next started run
  rcases served with ⟨-, same, -⟩ |
    ⟨authorization, performance, rfl, isId, isGateway, isCall, -, effective, -⟩
  · exact (changed (by rw [same]; rfl)).elim
  · have effect : ApprovedEffect shippedConfiguration performance :=
      { effective := effective.mpr ⟨.kubernetes, target, changed⟩
        required := ⟨isolateKubernetesWorkloadTool, by rw [isCall]; rfl, rfl⟩ }
    have member := List.mem_cons_of_mem (SiteEvent.start false untouchedWorld)
      (List.mem_append_right
        (SiteEvent.call false false call ::
          List.replicate parts (.advance false .ready))
        (List.mem_singleton_self (SiteEvent.perform performance)))
    have presented : presentedId performance.call.authorize =
        some (.str "apr:1") := by
      rw [isCall]
      rfl
    obtain ⟨⟨row, held, isRow⟩, -⟩ :=
      (approved_effects_at_most_once whole fun _ => rfl).1 performance member
        effect
    have plan := isRow.bound
    rw [isCall] at plan
    exact ⟨planHash, _, performance, _, whole, member, effect, row, held,
      isRow.approvalId_eq presented, (Option.some.inj plan).symm⟩

end Example

end ArgosCyberTools.Deployment
