import ArgosCyberTools.Deployment.Interleaving
import ArgosCyberTools.McpGateway.ControlledExecution

/-!
# Controlled executions on gateways that share a database

`execute_with_authorization` on every instance.  Its call of `authorize` is
cut as before, and the executor runs only after that call has returned:
another process can get in between, and a crash in between loses the action.
The executors, with their states and their stores, are in the memory of the
process; a process that starts is given new ones.
-/

namespace ArgosCyberTools.Deployment

open Python Sqlite Policies McpGateway Executors Transition

/-- The fleet, its processes, and the actions that wait for their executor. -/
structure Site (Instance CallId Handle : Type) where
  fleet : Fleet Instance CallId
  worlds : Instance → World Handle
  waiting : CallId → Option (ExecutionCall Handle)

/-- An executor that ran for a call. -/
structure Performance (Instance CallId Handle : Type) where
  id : CallId
  gateway : Instance
  call : ExecutionCall Handle
  outcome : Except ActionError JsonObject
  /-- The state of some executor changed. -/
  effective : Bool

inductive SiteEvent (Instance CallId Handle : Type) where
  /-- A process starts, with executors in these states. -/
  | start (gateway : Instance) (world : World Handle)
  | crash (gateway : Instance)
  | call (id : CallId) (gateway : Instance) (call : ExecutionCall Handle)
  | advance (id : CallId) (connection : Connection)
  | perform (performance : Performance Instance CallId Handle)

section Interrupt

variable {Instance CallId Handle : Type} [DecidableEq Instance]

/-- A crash of an instance loses the actions it has not performed. -/
def Site.interrupt (site : Site Instance CallId Handle) (gateway : Instance) :
    Site Instance CallId Handle where
  fleet := site.fleet.interrupt gateway
  worlds := site.worlds
  waiting id :=
    if (site.fleet.attempts id).map (·.gateway) = some gateway then none
    else site.waiting id

end Interrupt

section Steps

variable [PyRuntime] {Instance CallId Handle : Type} [DecidableEq Instance]
  [DecidableEq CallId] [DecidableEq Handle]

variable (configuration : Instance → Configuration) (dbPath : PyStr)
  (contract : Contract)

inductive SiteStep :
    Site Instance CallId Handle → SiteEvent Instance CallId Handle →
      Site Instance CallId Handle → Prop where
  | start {site : Site Instance CallId Handle} {gateway : Instance}
      {world : World Handle} {fleet : Fleet Instance CallId}
      (started :
        Step configuration dbPath site.fleet (.start gateway) fleet) :
      SiteStep site (.start gateway world)
        { site with
          fleet := fleet
          worlds := Function.update site.worlds gateway world }
  | crash (site : Site Instance CallId Handle) (gateway : Instance) :
      SiteStep site (.crash gateway) (site.interrupt gateway)
  | call {site : Site Instance CallId Handle} {id : CallId}
      {gateway : Instance} {call : ExecutionCall Handle}
      {fleet : Fleet Instance CallId}
      (called :
        Step configuration dbPath site.fleet (.call id gateway call.authorize)
          fleet) :
      SiteStep site (.call id gateway call)
        { site with
          fleet := fleet
          waiting := Function.update site.waiting id (some call) }
  | advance {site : Site Instance CallId Handle} {id : CallId}
      {connection : Connection} {fleet : Fleet Instance CallId}
      (advanced :
        Step configuration dbPath site.fleet (.advance id connection) fleet) :
      SiteStep site (.advance id connection) { site with fleet := fleet }
  | perform {site : Site Instance CallId Handle}
      {performance : Performance Instance CallId Handle}
      {authorization : AuthorizationResult} {world : World Handle}
      (returned :
        site.fleet.attempts performance.id =
          some ⟨performance.gateway, performance.call.authorize,
            .returned (.ok authorization)⟩)
      (allowed : authorization.allowed = true)
      (waits : site.waiting performance.id = some performance.call)
      (ran :
        performance.call.executor.run contract performance.call.stamps
          performance.call.arguments performance.call.dryRun
          (site.worlds performance.gateway) = (performance.outcome, world))
      (changes :
        performance.effective = true ↔
          ∃ kind target, slot (world.state kind) target ≠
            slot ((site.worlds performance.gateway).state kind) target) :
      SiteStep site (.perform performance)
        { site with
          worlds := Function.update site.worlds performance.gateway world
          waiting := Function.update site.waiting performance.id none }

variable {configuration : Instance → Configuration} {dbPath : PyStr}
  {contract : Contract} {site after : Site Instance CallId Handle}

/-- Only the steps of the fleet change the fleet. -/
theorem SiteStep.fleet_step {event : SiteEvent Instance CallId Handle}
    (step : SiteStep configuration dbPath contract site event after) :
    after.fleet = site.fleet ∨
      ∃ fleetEvent,
        Step configuration dbPath site.fleet fleetEvent after.fleet := by
  cases step with
  | start started => exact .inr ⟨_, started⟩
  | crash gateway => exact .inr ⟨_, .crash site.fleet gateway⟩
  | call called => exact .inr ⟨_, called⟩
  | advance advanced => exact .inr ⟨_, advanced⟩
  | perform returned allowed waits ran changes => exact .inl rfl

/-- What the steps of a fleet keep, the steps of a site keep of its fleet. -/
theorem SiteStep.fleet_invariant {event : SiteEvent Instance CallId Handle}
    (step : SiteStep configuration dbPath contract site event after)
    (holds : Fleet Instance CallId → Prop)
    (kept : ∀ {before event after}, holds before →
      Step configuration dbPath before event after → holds after)
    (held : holds site.fleet) : holds after.fleet := by
  rcases step.fleet_step with same | ⟨fleetEvent, fleetStep⟩
  · rwa [same]
  · exact kept held fleetStep

/-! ## An execution that nothing interrupts -/

/-- The parts of one call, on the fleet and on the site. -/
theorem run_of_advances {id : CallId} {connection : Connection}
    {fleet : Fleet Instance CallId} {parts : Nat}
    (run : Run (Step configuration dbPath) site.fleet
      (List.replicate parts (.advance id connection)) fleet) :
    Run (SiteStep configuration dbPath contract) site
      (List.replicate parts (.advance id connection))
      { site with fleet := fleet } := by
  induction parts generalizing site with
  | zero =>
      cases run
      exact .done site
  | succ parts induction =>
      rw [List.replicate_succ] at run ⊢
      cases run with
      | @next _ middle _ _ _ head tail =>
          exact .next (.advance head)
            (@induction { site with fleet := middle } tail)

/-- The site after a call that nothing interrupted. -/
def Site.served (site : Site Instance CallId Handle) (id : CallId)
    (gateway : Instance) (call : AuthorizeCall)
    (answer : Except AuthorizeError AuthorizationResult)
    (platform : Platform DurableApprovalStore (World Handle))
    (waits : Option (ExecutionCall Handle)) : Site Instance CallId Handle where
  fleet :=
    (site.fleet.serve gateway platform.gateway.rateLimiter).record id
      ⟨gateway, call, .returned answer⟩
      platform.gateway.approvalStore.consumedApprovals
  worlds := Function.update site.worlds gateway platform.world
  waiting := Function.update site.waiting id waits

/--
The parts of an execution, run one after the other, are
`execute_with_authorization` on a gateway whose durable store is the file,
and on the executors of the process.
-/
theorem run_of_execute {id : CallId} {gateway : Instance}
    {call : ExecutionCall Handle} {limiter : RateLimiter}
    {connection : Connection}
    {event : ExecutionEvent Handle}
    {platform : Platform DurableApprovalStore (World Handle)}
    (isCall : event.call = call)
    (unused : site.fleet.attempts id = none)
    (up : site.fleet.running gateway = some limiter)
    (step : ExecutionStep contract
      ⟨⟨(configuration gateway).catalog,
          (configuration gateway).targetAllowlists,
          ⟨connection, site.fleet.consumedApprovals⟩, limiter⟩,
        site.worlds gateway⟩ event platform) :
    ∃ parts answer performed waits,
      Run (SiteStep configuration dbPath contract) site
        (.call id gateway call ::
          List.replicate parts (.advance id connection) ++ performed)
        (site.served id gateway call.authorize answer platform waits) ∧
      ((performed = [] ∧ platform.world = site.worlds gateway ∧
          ∀ authorization, answer = .ok authorization →
            authorization.allowed = false) ∨
        ∃ authorization performance,
          performed = [.perform performance] ∧ performance.id = id ∧
            performance.gateway = gateway ∧ performance.call = call ∧
            answer = .ok authorization ∧
            (performance.effective = true ↔ ∃ kind target,
              slot (platform.world.state kind) target ≠
                slot ((site.worlds gateway).state kind) target) ∧
            event.outcome =
              (performance.outcome.mapError .executor).map fun record =>
                ⟨true, authorization, some record⟩) := by
  subst isCall
  have ended := executed step
  generalize event.outcome = outcome at ended
  -- The parts up to the answer are those of the call of `authorize`.
  have authorizes : ∀ {answer : Except AuthorizeError AuthorizationResult}
      {reached : Gateway DurableApprovalStore},
      Gateway.authorize event.call.authorize.request
          event.call.authorize.currentPlanHash event.call.authorize.now
          event.call.authorize.ambient
          ⟨(configuration gateway).catalog,
            (configuration gateway).targetAllowlists,
            ⟨connection, site.fleet.consumedApprovals⟩, limiter⟩ =
        (answer, reached) →
      ∃ parts, Run (SiteStep configuration dbPath contract) site
        (.call id gateway event.call ::
          List.replicate parts (.advance id connection))
        (site.served id gateway event.call.authorize answer
          ⟨reached, site.worlds gateway⟩
          (some event.call)) := by
    intro answer reached ran
    obtain ⟨parts, run⟩ : ∃ parts, Run (Step configuration dbPath) site.fleet
        (.call id gateway event.call.authorize ::
          List.replicate parts (.advance id connection)) _ :=
      run_of_authorize unused up ran
    cases run with
    | @next _ middle _ _ _ head tail =>
        refine ⟨parts, .next (.call head) ?_⟩
        rw [Site.served, Function.update_eq_self]
        apply run_of_advances
        exact tail
  cases ended with
  | raised authorized =>
      obtain ⟨parts, run⟩ := authorizes authorized
      refine ⟨parts, _, [], _, by rwa [List.append_nil], .inl ⟨rfl, rfl, ?_⟩⟩
      intro authorization answered
      cases answered
  | denied authorized refused =>
      obtain ⟨parts, run⟩ := authorizes authorized
      refine ⟨parts, _, [], _, by rwa [List.append_nil], .inl ⟨rfl, rfl, ?_⟩⟩
      intro authorization answered
      cases answered
      exact refused
  | @performed authorization reached result world authorized allowed ran =>
      obtain ⟨parts, run⟩ := authorizes authorized
      classical
      let performance : Performance Instance CallId Handle :=
        ⟨id, gateway, event.call, result, decide (∃ kind target,
          slot (world.state kind) target ≠
            slot ((site.worlds gateway).state kind) target)⟩
      let authorised := site.served id gateway event.call.authorize
        (.ok authorization) ⟨reached, site.worlds gateway⟩ (some event.call)
      have own : authorised.worlds gateway = site.worlds gateway :=
        Function.update_self _ _ _
      have performs : SiteStep configuration dbPath contract authorised
          (.perform performance)
          (site.served id gateway event.call.authorize (.ok authorization)
            ⟨reached, world⟩ none) := by
        have step : SiteStep configuration dbPath contract authorised
            (.perform performance) _ :=
          .perform (Function.update_self _ _ _) allowed
            (Function.update_self _ _ _) (by rw [own]; exact ran)
            (by rw [own]; exact decide_eq_true_iff)
        simpa only [authorised, Site.served, performance,
          Function.update_idem] using step
      exact ⟨parts, _, [.perform performance], _,
        run.append (.next performs (.done _)),
        .inr ⟨authorization, performance, rfl, rfl, rfl, rfl, rfl,
          decide_eq_true_iff, rfl⟩⟩

end Steps

end ArgosCyberTools.Deployment
