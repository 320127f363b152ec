import ArgosCyberTools.McpGateway.Consumption
import ArgosCyberTools.Policies.DurableStore

/-!
# Gateways that share a database

Any number of gateway instances, each with its own connection, consume
approvals in one file.  A call of `authorize` is cut where another process
can get in between: after the checks in front of the store, after the field
checks of the store, after the `INSERT`, before the result is returned.  An
instance can crash at any of these points and be started again; what the
file holds survives.
-/

namespace ArgosCyberTools.Deployment

open Python Sqlite ToolCatalog Policies McpGateway Transition

/-- What an instance is built with. -/
structure Configuration where
  catalog : Catalog
  targetAllowlists : Allowlists

/-- How far a call has come. -/
inductive Phase where
  /-- The store is to be consulted; its field checks are next. -/
  | demanding (demand : Demand)
  /-- The field checks passed; the `INSERT` is next. -/
  | inserting (demand : Demand) (approvalId : Json)
  /-- Behind the store, or past it when there is no demand. -/
  | minting (demand : Option Demand)
  | returned (outcome : Except AuthorizeError AuthorizationResult)
  /-- The instance that served the call crashed. -/
  | lost

/-- One call of `authorize` on one instance. -/
structure Attempt (Instance : Type) where
  gateway : Instance
  call : AuthorizeCall
  phase : Phase

/-- The file, the running instances and every call made so far. -/
structure Fleet (Instance CallId : Type) where
  consumedApprovals : ConsumedApprovals
  running : Instance → Option RateLimiter
  attempts : CallId → Option (Attempt Instance)

inductive Event (Instance CallId : Type) where
  | start (gateway : Instance)
  | crash (gateway : Instance)
  | call (attempt : CallId) (gateway : Instance) (call : AuthorizeCall)
  /-- The next part of a call, with what SQLite answers should it insert. -/
  | advance (attempt : CallId) (connection : Connection)

/-! ## The parts of a call -/

/-- `now or _now()`. -/
def effectiveNow (call : AuthorizeCall) : PyDateTime :=
  call.now.getD call.ambient.clock

namespace Phase

def leaving (exit : AuthorizeExit) : Phase :=
  .returned (Exit.finish (.error exit))

def afterChecks : Except AuthorizeExit (Option Demand) → Phase
  | .error exit => leaving exit
  | .ok none => .minting none
  | .ok (some demand) => .demanding demand

def afterFieldChecks (demand : Demand) : Except ApprovalError Json → Phase
  | .error error => leaving (storeExit error)
  | .ok approvalId => .inserting demand approvalId

def afterInsert (demand : Demand) : Except ApprovalError Unit → Phase
  | .error error => leaving (storeExit error)
  | .ok () => .minting (some demand)

end Phase

namespace Attempt

variable {Instance : Type}

def reach (attempt : Attempt Instance) (phase : Phase) : Attempt Instance :=
  { attempt with phase := phase }

/-- A crash of an instance loses the calls it has not finished. -/
def afterCrash [DecidableEq Instance] (gateway : Instance)
    (attempt : Attempt Instance) : Attempt Instance :=
  match attempt.phase with
  | .returned _ => attempt
  | _ => if attempt.gateway = gateway then attempt.reach .lost else attempt

variable [PyRuntime]

/-- The next part of a call; a call that is over has none. -/
def advance (attempt : Attempt Instance) (connection : Connection)
    (consumedApprovals : ConsumedApprovals) :
    Option (Phase × ConsumedApprovals) :=
  let call := attempt.call
  match attempt.phase with
  | .demanding demand =>
      some
        (.afterFieldChecks demand
          (validateApprovalFields demand.approval demand.planHash
            call.request.subject executorId (effectiveNow call)),
          consumedApprovals)
  | .inserting demand approvalId =>
      let inserted :=
        DurableApprovalStore.insertConsumed approvalId demand.planHash
          (effectiveNow call) ⟨connection, consumedApprovals⟩
      some (.afterInsert demand inserted.1, inserted.2.consumedApprovals)
  | .minting _ =>
      some
        (.returned (Exit.finish (mintStage call.request call.ambient)),
          consumedApprovals)
  | .returned _ => none
  | .lost => none

variable {gateway : Instance} {call : AuthorizeCall} {demand : Demand}
  {connection : Connection} {file : ConsumedApprovals}

theorem advance_demanding {fields : Except ApprovalError Json}
    (validated :
      validateApprovalFields demand.approval demand.planHash
        call.request.subject executorId (effectiveNow call) = fields) :
    (mk gateway call (.demanding demand)).advance connection file =
      some (.afterFieldChecks demand fields, file) := by
  subst validated
  rfl

theorem advance_inserting {approvalId : Json}
    {result : Except ApprovalError Unit} {store : DurableApprovalStore}
    (inserted :
      DurableApprovalStore.insertConsumed approvalId demand.planHash
        (effectiveNow call) ⟨connection, file⟩ = (result, store)) :
    (mk gateway call (.inserting demand approvalId)).advance connection
        file =
      some (.afterInsert demand result, store.consumedApprovals) := by
  simp only [advance, inserted]

theorem advance_minting (demand : Option Demand) :
    (mk gateway call (.minting demand)).advance connection file =
      some
        (.returned (Exit.finish (mintStage call.request call.ambient)),
          file) :=
  rfl

end Attempt

/-! ## Steps -/

section Record

variable {Instance CallId : Type} [DecidableEq CallId]

/-- Write one attempt and the file. -/
def Fleet.record (fleet : Fleet Instance CallId)
    (id : CallId) (attempt : Attempt Instance)
    (consumedApprovals : ConsumedApprovals) : Fleet Instance CallId :=
  { fleet with
    consumedApprovals := consumedApprovals
    attempts := Function.update fleet.attempts id (some attempt) }

@[simp]
theorem Fleet.record_attempts (fleet : Fleet Instance CallId) (id : CallId)
    (attempt : Attempt Instance) (rows : ConsumedApprovals) :
    (fleet.record id attempt rows).attempts =
      Function.update fleet.attempts id (some attempt) :=
  rfl

@[simp]
theorem Fleet.record_record (fleet : Fleet Instance CallId) (id : CallId)
    (before after : Attempt Instance) (rows written : ConsumedApprovals) :
    (fleet.record id before rows).record id after written =
      fleet.record id after written := by
  simp [Fleet.record]

variable [DecidableEq Instance]

/-- An instance is up, with this state of its rate limiter. -/
def Fleet.serve (fleet : Fleet Instance CallId) (gateway : Instance)
    (limiter : RateLimiter) : Fleet Instance CallId :=
  { fleet with
    running := Function.update fleet.running gateway (some limiter) }

def Fleet.interrupt (fleet : Fleet Instance CallId) (gateway : Instance) :
    Fleet Instance CallId :=
  { fleet with
    running := Function.update fleet.running gateway none
    attempts := fun id =>
      (fleet.attempts id).map (Attempt.afterCrash gateway) }

end Record

section Steps

variable [PyRuntime] {Instance CallId : Type} [DecidableEq Instance]
  [DecidableEq CallId]

variable (configuration : Instance → Configuration) (dbPath : PyStr)

inductive Step :
    Fleet Instance CallId → Event Instance CallId →
      Fleet Instance CallId → Prop where
  | start {fleet : Fleet Instance CallId} {gateway : Instance}
      {connection : Connection} {limiter : RateLimiter}
      {store : DurableApprovalStore}
      (stopped : fleet.running gateway = none)
      (opened :
        DurableApprovalStore.openDatabase dbPath connection
          (some fleet.consumedApprovals) = .ok store) :
      Step fleet (.start gateway)
        { fleet.serve gateway limiter with
          consumedApprovals := store.consumedApprovals }
  | crash (fleet : Fleet Instance CallId) (gateway : Instance) :
      Step fleet (.crash gateway) (fleet.interrupt gateway)
  | call {fleet : Fleet Instance CallId} {id : CallId}
      {gateway : Instance} {call : AuthorizeCall}
      {limiter counted : RateLimiter}
      {result : Except AuthorizeExit (Option Demand)}
      (unused : fleet.attempts id = none)
      (up : fleet.running gateway = some limiter)
      (checked :
        checks (configuration gateway).catalog
          (configuration gateway).targetAllowlists call.request
          call.currentPlanHash (effectiveNow call) limiter =
            (result, counted)) :
      Step fleet (.call id gateway call)
        ((fleet.serve gateway counted).record id
          ⟨gateway, call, .afterChecks result⟩ fleet.consumedApprovals)
  | advance {fleet : Fleet Instance CallId} {id : CallId}
      {connection : Connection} {attempt : Attempt Instance}
      {phase : Phase} {consumedApprovals : ConsumedApprovals}
      (made : fleet.attempts id = some attempt)
      (advanced :
        attempt.advance connection fleet.consumedApprovals =
          some (phase, consumedApprovals)) :
      Step fleet (.advance id connection)
        (fleet.record id (attempt.reach phase) consumedApprovals)

end Steps

/-! ## A call that nothing interrupts -/

section Sequential

variable [PyRuntime] {Instance CallId : Type} [DecidableEq Instance]
  [DecidableEq CallId] {configuration : Instance → Configuration}
  {dbPath : PyStr}

/-- The next part of a call that was just recorded. -/
theorem Step.advance_record {fleet : Fleet Instance CallId} {id : CallId}
    {attempt : Attempt Instance} {rows written : ConsumedApprovals}
    {phase : Phase} (connection : Connection)
    (advanced : attempt.advance connection rows = some (phase, written)) :
    Step configuration dbPath (fleet.record id attempt rows)
      (.advance id connection)
      (fleet.record id (attempt.reach phase) written) := by
  have step : Step configuration dbPath (fleet.record id attempt rows)
      (.advance id connection) _ :=
    .advance (Function.update_self _ _ _) advanced
  rwa [Fleet.record_record] at step

variable {fleet : Fleet Instance CallId} {id : CallId} {gateway : Instance}
  {call : AuthorizeCall}

/--
The parts of a call, run one after the other, are `authorize` on a gateway
whose durable store is the file.
-/
theorem run_of_authorize {limiter : RateLimiter} {connection : Connection}
    {outcome : Except AuthorizeError AuthorizationResult}
    {final : Gateway DurableApprovalStore}
    (unused : fleet.attempts id = none)
    (up : fleet.running gateway = some limiter)
    (ran :
      Gateway.authorize call.request call.currentPlanHash call.now
          call.ambient
          ⟨(configuration gateway).catalog,
            (configuration gateway).targetAllowlists,
            ⟨connection, fleet.consumedApprovals⟩, limiter⟩ =
        (outcome, final)) :
    ∃ parts,
      Run (Step configuration dbPath) fleet
        (.call id gateway call :: List.replicate parts (.advance id connection))
        ((fleet.serve gateway final.rateLimiter).record id
          ⟨gateway, call, .returned outcome⟩
          final.approvalStore.consumedApprovals) := by
  rcases checked : checks (configuration gateway).catalog
      (configuration gateway).targetAllowlists call.request
      call.currentPlanHash (effectiveNow call) limiter with
    ⟨exit | demand, counted⟩
  all_goals
    have opening : Step configuration dbPath fleet (.call id gateway call)
        _ := .call unused up checked
    simp only [Gateway.authorize, Gateway.authorizeBody, PyM.finish_apply,
      PyM.bind_apply, PyM.get_apply, PyM.onField_apply] at ran
    rw [show call.now.getD call.ambient.clock = effectiveNow call from rfl,
      checked] at ran
  · cases ran
    exact ⟨0, .next opening (.done _)⟩
  · cases demand with
    | none =>
        cases ran
        exact ⟨1, .next opening
          (.next (.advance_record connection (Attempt.advance_minting none))
            (.done _))⟩
    | some demand =>
        simp only [storeStage, ApprovalStoreProtocol.validateAndConsume,
          DurableApprovalStore.validateAndConsume, PyM.mapError,
          PyM.bind_apply, PyM.ofExcept_apply] at ran
        rcases fields : validateApprovalFields demand.approval
            demand.planHash call.request.subject executorId
            (effectiveNow call) with error | approvalId
        · rw [fields] at ran
          cases ran
          exact ⟨1, .next opening
            (.next (.advance_record connection (Attempt.advance_demanding fields))
              (.done _))⟩
        · rw [fields] at ran
          rcases inserted : DurableApprovalStore.insertConsumed approvalId
              demand.planHash (effectiveNow call)
              ⟨connection, fleet.consumedApprovals⟩ with
            ⟨error | _, store⟩
          all_goals
            simp only [inserted] at ran
            cases ran
          · exact ⟨2, .next opening
              (.next
                (.advance_record connection
                  (Attempt.advance_demanding fields))
                (.next
                  (.advance_record connection
                    (Attempt.advance_inserting inserted))
                  (.done _)))⟩
          · exact ⟨3, .next opening
              (.next
                (.advance_record connection
                  (Attempt.advance_demanding fields))
                (.next
                  (.advance_record connection
                    (Attempt.advance_inserting inserted))
                  (.next
                    (.advance_record connection
                      (Attempt.advance_minting (some demand)))
                    (.done _))))⟩

end Sequential

end ArgosCyberTools.Deployment
