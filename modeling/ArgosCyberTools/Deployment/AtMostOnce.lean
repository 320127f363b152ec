import ArgosCyberTools.Deployment.Interleaving

/-!
# An approval is used at most once

Over every interleaving of calls, crashes and restarts, the rows of the
shared file and the calls that were granted account for each other: a call
behind its `INSERT` has its row, no two calls are behind an `INSERT` of the
same id, and a row that was not there at the start was written by a call
that is not denied.
-/

namespace ArgosCyberTools.Deployment

open Python Sqlite ToolCatalog Policies McpGateway Transition

/-! ## Calls and their rows -/

/-- The id in the presented approval. -/
def presentedId (call : AuthorizeCall) : Option Json := do
  let approval ← call.request.approval
  approval.get? "approval_id"

/-- A demand is for the presented approval and the given plan. -/
structure Demands (call : AuthorizeCall) (demand : Demand) : Prop where
  presented : call.request.approval = some demand.approval
  given : call.currentPlanHash = some demand.planHash

/-- The row a call leaves behind. -/
structure IsRow [PyRuntime] (call : AuthorizeCall)
    (row : ConsumedApproval) : Prop where
  identified : ∃ approvalId, presentedId call = some approvalId ∧
    bindText approvalId = .ok row.approvalId
  bound : call.currentPlanHash = some row.actionBinding

/-- The row of a string id carries that string. -/
theorem IsRow.approvalId_eq [PyRuntime] {call : AuthorizeCall}
    {row : ConsumedApproval} (isRow : IsRow call row) {approvalId : PyStr}
    (presented : presentedId call = some (.str approvalId)) :
    row.approvalId = some approvalId := by
  obtain ⟨held, heldPresented, bound⟩ := isRow.identified
  rw [presented, Option.some.injEq] at heldPresented
  subst heldPresented
  simp only [bindText] at bound
  split_ifs at bound
  exact (Except.ok.inj bound).symm

def Recorded [PyRuntime] (call : AuthorizeCall)
    (file : ConsumedApprovals) : Prop :=
  ∃ row ∈ file.rows, IsRow call row

theorem Recorded.mono [PyRuntime] {call : AuthorizeCall}
    {file grown : ConsumedApprovals} (recorded : Recorded call file)
    (grows : ∀ row ∈ file.rows, row ∈ grown.rows) :
    Recorded call grown := by
  obtain ⟨row, member, isRow⟩ := recorded
  exact ⟨row, grows row member, isRow⟩

namespace Attempt

variable {Instance : Type}

/-- The call is over, and granted `execute` under an approval. -/
def Granted (attempt : Attempt Instance) (catalog : Catalog) : Prop :=
  ∃ outcome, attempt.phase = .returned outcome ∧
    GrantsApproved catalog ⟨attempt.call, outcome⟩

/-- The call is over and returned a denial. -/
def Denied (attempt : Attempt Instance) : Prop :=
  ∃ result, attempt.phase = .returned (.ok result) ∧ result.allowed = false

/-- The call is behind its own `INSERT`. -/
def Consumed (attempt : Attempt Instance) (catalog : Catalog) : Prop :=
  match attempt.phase with
  | .minting demand => demand.isSome
  | .returned outcome => GrantsApproved catalog ⟨attempt.call, outcome⟩
  | _ => False

/-- The call may be behind its `INSERT`: it can no longer be denied. -/
def Undenied (attempt : Attempt Instance) : Prop :=
  match attempt.phase with
  | .demanding _ => False
  | .inserting _ _ => False
  | .minting _ => True
  | .returned _ => ¬ attempt.Denied
  | .lost => True

variable [PyRuntime]

/-- What each phase promises about the call and the file. -/
def Sound (attempt : Attempt Instance) (catalog : Catalog)
    (file : ConsumedApprovals) : Prop :=
  match attempt.phase with
  | .demanding demand => Demands attempt.call demand
  | .inserting demand approvalId =>
      Demands attempt.call demand ∧
        demand.approval.get? "approval_id" = some approvalId
  | .minting none =>
      ∀ outcome, ¬ GrantsApproved catalog ⟨attempt.call, outcome⟩
  | .minting (some _) => Recorded attempt.call file
  | .returned outcome =>
      GrantsApproved catalog ⟨attempt.call, outcome⟩ →
        Recorded attempt.call file
  | .lost => True

theorem Sound.mono {attempt : Attempt Instance} {catalog : Catalog}
    {file grown : ConsumedApprovals} (sound : attempt.Sound catalog file)
    (grows : ∀ row ∈ file.rows, row ∈ grown.rows) :
    attempt.Sound catalog grown := by
  unfold Sound at sound ⊢
  split at sound
  · exact sound
  · exact sound
  · exact sound
  · exact sound.mono grows
  · exact fun grants => (sound grants).mono grows
  · trivial

/-- A call behind its `INSERT` has its row. -/
theorem Sound.recorded {attempt : Attempt Instance} {catalog : Catalog}
    {file : ConsumedApprovals} (sound : attempt.Sound catalog file)
    (consumed : attempt.Consumed catalog) : Recorded attempt.call file := by
  unfold Sound at sound
  unfold Consumed at consumed
  split at sound <;> simp_all

/-- What the next part of a call can do. -/
inductive Progress (attempt : Attempt Instance) (file : ConsumedApprovals) :
    Phase → ConsumedApprovals → Prop where
  | refused {demand : Demand}
      (waiting : attempt.phase = .demanding demand ∨
        ∃ approvalId, attempt.phase = .inserting demand approvalId)
      (error : ApprovalError) :
      Progress attempt file (.leaving (storeExit error)) file
  | identified {demand : Demand} {approvalId : Json}
      (waiting : attempt.phase = .demanding demand)
      (read : demand.approval.get? "approval_id" = some approvalId) :
      Progress attempt file (.inserting demand approvalId) file
  | inserted {demand : Demand} {approvalId : Json}
      {row : ConsumedApproval} {written : ConsumedApprovals}
      (waiting : attempt.phase = .inserting demand approvalId)
      (bindsTo : bindText approvalId = .ok row.approvalId)
      (bound : row.actionBinding = demand.planHash)
      (admitted : file.Admits row)
      (rows : written.rows = file.rows ++ [row]) :
      Progress attempt file (.minting (some demand)) written
  | minted {demand : Option Demand}
      (waiting : attempt.phase = .minting demand) :
      Progress attempt file
        (.returned
          (Exit.finish
            (mintStage attempt.call.request attempt.call.ambient)))
        file

theorem advance_progress {attempt : Attempt Instance}
    {connection : Connection} {file written : ConsumedApprovals}
    {phase : Phase}
    (advanced :
      attempt.advance connection file = some (phase, written)) :
    attempt.Progress file phase written := by
  cases waiting : attempt.phase with
  | demanding demand =>
      simp only [advance, waiting, Option.some.injEq, Prod.mk.injEq]
        at advanced
      obtain ⟨rfl, rfl⟩ := advanced
      cases fields : validateApprovalFields demand.approval
        demand.planHash attempt.call.request.subject executorId
        (effectiveNow attempt.call) with
      | error error => exact .refused (.inl waiting) error
      | ok approvalId =>
          have valid := validateApprovalFields_eq_ok_iff.mp fields
          exact .identified waiting valid.identified
  | inserting demand approvalId =>
      simp only [advance, waiting, Option.some.injEq, Prod.mk.injEq]
        at advanced
      obtain ⟨rfl, rfl⟩ := advanced
      rcases inserted : DurableApprovalStore.insertConsumed approvalId
        demand.planHash (effectiveNow attempt.call) ⟨connection, file⟩ with
        ⟨error | _, store⟩
      · rw [DurableApprovalStore.insertConsumed_of_error inserted]
        exact .refused (.inr ⟨approvalId, waiting⟩) error
      · obtain ⟨-, -, key, bindsTo, admitted, rows⟩ :=
          DurableApprovalStore.insertConsumed_eq_ok_iff.mp inserted
        exact .inserted waiting bindsTo rfl admitted rows
  | minting demand =>
      simp only [advance, waiting, Option.some.injEq, Prod.mk.injEq]
        at advanced
      obtain ⟨rfl, rfl⟩ := advanced
      exact .minted waiting
  | returned outcome => simp [advance, waiting] at advanced
  | lost => simp [advance, waiting] at advanced

end Attempt

/-! ## Parts that do not grant -/

theorem not_grantsApproved_of_early {exit : AuthorizeExit}
    (early : ¬ GrantsEarly exit) (catalog : Catalog)
    (call : AuthorizeCall) :
    ¬ GrantsApproved catalog ⟨call, Exit.finish (.error exit)⟩ := by
  rintro ⟨⟨result, ended, allowed⟩, -, -⟩
  cases exit with
  | returned other =>
      cases ended
      exact early allowed
  | raised error => cases ended

theorem not_grantsEarly_storeExit (error : ApprovalError) :
    ¬ GrantsEarly (storeExit error) := by
  cases error <;> simp [storeExit]

/-- Behind the store, a call is granted or raises. -/
theorem minted_undenied {request : ToolCallRequest} {ambient : Ambient}
    {result : AuthorizationResult}
    (ended : Exit.finish (mintStage request ambient) = .ok result) :
    result.allowed = true := by
  rcases Exit.finish_eq_ok_iff.mp ended with granted | early
  · rw [(mintStage_eq_ok_iff.mp granted).2]
  · simp only [mintStage, bind, Except.bind, raiseIf] at early
    split_ifs at early <;> cases early

section Checks

variable [PyRuntime] {catalog : Catalog} {allowlists : Allowlists}
  {call : AuthorizeCall} {limiter counted : RateLimiter}

/-- What the stages in front of the store promise about a call. -/
theorem checks_sound {Instance : Type} {gateway : Instance}
    {result : Except AuthorizeExit (Option Demand)}
    (checked :
      checks catalog allowlists call.request call.currentPlanHash
        (effectiveNow call) limiter = (result, counted))
    (file : ConsumedApprovals) :
    (Attempt.mk gateway call (.afterChecks result)).Sound catalog file ∧
      ¬ (Attempt.mk gateway call (.afterChecks result)).Consumed
        catalog := by
  rcases result with exit | demand
  · have early : ¬ GrantsEarly exit := by
      have avoided : Avoids GrantsEarly
          (checks catalog allowlists call.request call.currentPlanHash
            (effectiveNow call) limiter).1 :=
        checks_avoids_grant _ _ _ _ _ _
      rwa [checked] at avoided
    have refused := not_grantsApproved_of_early early catalog call
    exact ⟨fun grants => (refused grants).elim, refused⟩
  · obtain ⟨tool, found, -, -, documents⟩ := checks_eq_ok_iff.mp checked
    simp only [documentStages, bind_eq_ok_iff] at documents
    obtain ⟨-, -, -, -, staged⟩ := documents
    rw [approvalStage_eq_ok_iff] at staged
    split_ifs at staged with needed
    · obtain ⟨approval, planHash, presented, given, -, rfl⟩ := staged
      exact ⟨⟨presented, given⟩, id⟩
    · subst staged
      refine ⟨?_, by simp [Attempt.Consumed, Phase.afterChecks]⟩
      rintro outcome ⟨-, execute, ⟨other, known, required⟩⟩
      cases found.symm.trans known
      exact needed ⟨execute, required⟩

end Checks

/-! ## The invariant -/

section Invariant

variable [PyRuntime] {Instance CallId : Type} [DecidableEq CallId]

/-- Rows and calls account for each other. -/
structure Consistent (configuration : Instance → Configuration)
    (initial : ConsumedApprovals) (fleet : Fleet Instance CallId) :
    Prop where
  sound : ∀ id attempt, fleet.attempts id = some attempt →
    attempt.Sound (configuration attempt.gateway).catalog
      fleet.consumedApprovals
  single : ∀ first second one other approvalId,
    fleet.attempts first = some one → fleet.attempts second = some other →
    one.Consumed (configuration one.gateway).catalog →
    other.Consumed (configuration other.gateway).catalog →
    presentedId one.call = some (.str approvalId) →
    presentedId other.call = some (.str approvalId) → first = second
  accounted : ∀ row ∈ fleet.consumedApprovals.rows, row ∈ initial.rows ∨
    ∃ id attempt, fleet.attempts id = some attempt ∧ IsRow attempt.call row ∧
      attempt.Undenied

variable {configuration : Instance → Configuration} {dbPath : PyStr}
  {initial : ConsumedApprovals} {fleet : Fleet Instance CallId}

/-- Writing one attempt and the file keeps the invariant. -/
theorem Consistent.record {id : CallId} {attempt : Attempt Instance}
    {file : ConsumedApprovals}
    (consistent : Consistent configuration initial fleet)
    (sound :
      attempt.Sound (configuration attempt.gateway).catalog file)
    (grows : ∀ row ∈ fleet.consumedApprovals.rows, row ∈ file.rows)
    -- Either the attempt was behind its `INSERT`, or its id had no row.
    (consumes :
      attempt.Consumed (configuration attempt.gateway).catalog →
        (∃ before, fleet.attempts id = some before ∧
          presentedId before.call = presentedId attempt.call ∧
          before.Consumed (configuration before.gateway).catalog) ∨
        ∀ approvalId, presentedId attempt.call = some (.str approvalId) →
          ¬ fleet.consumedApprovals.Holds approvalId)
    (kept : ∀ before, fleet.attempts id = some before → before.Undenied →
      attempt.Undenied ∧ ∀ row, IsRow before.call row → IsRow attempt.call row)
    (explained : ∀ row ∈ file.rows,
      row ∈ fleet.consumedApprovals.rows ∨
        IsRow attempt.call row ∧ attempt.Undenied) :
    Consistent configuration initial (fleet.record id attempt file) := by
  -- An id whose consumer is already there is not consumed once more.
  have clash : ∀ second other approvalId, second ≠ id →
      fleet.attempts second = some other →
      other.Consumed (configuration other.gateway).catalog →
      presentedId other.call = some (.str approvalId) →
      presentedId attempt.call = some (.str approvalId) →
      ¬ attempt.Consumed (configuration attempt.gateway).catalog := by
    intro second other approvalId different made otherConsumed
      otherPresented presented consumed
    rcases consumes consumed with ⟨before, beforeMade, same,
      beforeConsumed⟩ | unheld
    · exact different (consistent.single second id other before approvalId
        made beforeMade otherConsumed beforeConsumed otherPresented
        (same.trans presented))
    · obtain ⟨row, member, isRow⟩ :=
        (consistent.sound second other made).recorded otherConsumed
      exact unheld approvalId presented
        ⟨row, member, isRow.approvalId_eq otherPresented⟩
  constructor
  · intro second other made
    rw [Fleet.record_attempts] at made
    by_cases same : second = id
    · subst same
      rw [Function.update_self, Option.some.injEq] at made
      exact made ▸ sound
    · rw [Function.update_of_ne same] at made
      exact (consistent.sound second other made).mono grows
  · intro first second one other approvalId oneMade otherMade oneConsumed
      otherConsumed onePresented otherPresented
    rw [Fleet.record_attempts] at oneMade otherMade
    by_cases firstHere : first = id <;> by_cases secondHere : second = id
    · exact firstHere.trans secondHere.symm
    · subst firstHere
      rw [Function.update_self, Option.some.injEq] at oneMade
      subst oneMade
      rw [Function.update_of_ne secondHere] at otherMade
      exact (clash second other approvalId secondHere otherMade
        otherConsumed otherPresented onePresented oneConsumed).elim
    · subst secondHere
      rw [Function.update_self, Option.some.injEq] at otherMade
      subst otherMade
      rw [Function.update_of_ne firstHere] at oneMade
      exact (clash first one approvalId firstHere oneMade oneConsumed
        onePresented otherPresented otherConsumed).elim
    · rw [Function.update_of_ne firstHere] at oneMade
      rw [Function.update_of_ne secondHere] at otherMade
      exact consistent.single first second one other approvalId oneMade
        otherMade oneConsumed otherConsumed onePresented otherPresented
  · intro row member
    rcases explained row member with old | ⟨isRow, undenied⟩
    · rcases consistent.accounted row old with started | ⟨second, other,
        made, isRow, undenied⟩
      · exact .inl started
      · by_cases same : second = id
        · subst same
          obtain ⟨stays, rows⟩ := kept other made undenied
          exact .inr ⟨second, attempt, Function.update_self _ _ _,
            rows row isRow, stays⟩
        · exact .inr ⟨second, other,
            (Function.update_of_ne same _ _).trans made, isRow, undenied⟩
    · exact .inr ⟨id, attempt, Function.update_self _ _ _, isRow,
        undenied⟩

/-- One part of a call keeps the invariant. -/
theorem Consistent.advance {id : CallId} {attempt : Attempt Instance}
    {phase : Phase} {file : ConsumedApprovals}
    (consistent : Consistent configuration initial fleet)
    (made : fleet.attempts id = some attempt)
    (progress : attempt.Progress fleet.consumedApprovals phase file) :
    Consistent configuration initial
      (fleet.record id (attempt.reach phase) file) := by
  have sound := consistent.sound id attempt made
  cases progress with
  | @refused demand waiting error =>
      have refused := not_grantsApproved_of_early
        (not_grantsEarly_storeExit error)
        (configuration attempt.gateway).catalog attempt.call
      refine consistent.record (fun grants => (refused grants).elim)
        (fun _ member => member) (fun consumed => (refused consumed).elim)
        ?_ (fun _ member => .inl member)
      intro before beforeMade undenied
      cases made.symm.trans beforeMade
      rcases waiting with waiting | ⟨approvalId, waiting⟩ <;>
        simp [Attempt.Undenied, waiting] at undenied
  | @identified demand approvalId waiting read =>
      simp only [Attempt.Sound, waiting] at sound
      refine consistent.record ⟨⟨sound.presented, sound.given⟩, read⟩
        (fun _ member => member) (fun consumed => consumed.elim) ?_
        (fun _ member => .inl member)
      intro before beforeMade undenied
      cases made.symm.trans beforeMade
      simp [Attempt.Undenied, waiting] at undenied
  | @inserted demand approvalId row _ waiting bindsTo bound admitted rows =>
      simp only [Attempt.Sound, waiting] at sound
      obtain ⟨demands, read⟩ := sound
      have isRow : IsRow attempt.call row :=
        { identified := ⟨approvalId, by
            simp [presentedId, demands.presented,
              read], bindsTo⟩
          bound := bound ▸ demands.given }
      have appended : row ∈ file.rows := by simp [rows]
      refine consistent.record ⟨row, appended, isRow⟩ ?_ ?_ ?_ ?_
      · intro old member
        simp [rows, member]
      · intro _
        right
        intro text presented
        exact admitted text (isRow.approvalId_eq presented)
      · intro before beforeMade undenied
        cases made.symm.trans beforeMade
        simp [Attempt.Undenied, waiting] at undenied
      · intro other member
        rw [rows, List.mem_append, List.mem_singleton] at member
        rcases member with old | rfl
        · exact .inl old
        · exact .inr ⟨isRow, trivial⟩
  | @minted demand waiting =>
      have consumes : ∀ outcome,
          GrantsApproved (configuration attempt.gateway).catalog
              ⟨attempt.call, outcome⟩ →
            attempt.Consumed (configuration attempt.gateway).catalog := by
        intro outcome grants
        simp only [Attempt.Sound, waiting] at sound
        cases demand with
        | none => exact (sound outcome grants).elim
        | some demand => simp [Attempt.Consumed, waiting]
      refine consistent.record
        (fun grants => sound.recorded (consumes _ grants))
        (fun _ member => member)
        (fun consumed => .inl ⟨attempt, made, rfl, consumes _ consumed⟩) ?_
        (fun _ member => .inl member)
      intro before beforeMade _
      cases made.symm.trans beforeMade
      refine ⟨?_, fun _ isRow => isRow⟩
      rintro ⟨result, ended, denied⟩
      have granted := minted_undenied (Phase.returned.inj ended)
      rw [denied] at granted
      cases granted

/-- A call enters the fleet consistently. -/
theorem Consistent.call {id : CallId} {gateway : Instance}
    {call : AuthorizeCall} {limiter counted : RateLimiter}
    {result : Except AuthorizeExit (Option Demand)}
    (consistent : Consistent configuration initial fleet)
    (unused : fleet.attempts id = none)
    (checked :
      checks (configuration gateway).catalog
        (configuration gateway).targetAllowlists call.request
        call.currentPlanHash (effectiveNow call) limiter =
          (result, counted)) :
    Consistent configuration initial
      (fleet.record id ⟨gateway, call, .afterChecks result⟩
        fleet.consumedApprovals) := by
  obtain ⟨sound, unconsumed⟩ :=
    checks_sound checked fleet.consumedApprovals
  refine consistent.record sound (fun _ member => member)
    (fun consumed => (unconsumed consumed).elim) ?_
    (fun _ member => .inl member)
  intro before made
  simp [unused] at made

variable [DecidableEq Instance]

omit [DecidableEq CallId] in
/-- Starting an instance changes neither the calls nor the rows. -/
theorem Consistent.serve {gateway : Instance} {limiter : RateLimiter}
    (consistent : Consistent configuration initial fleet) :
    Consistent configuration initial (fleet.serve gateway limiter) :=
  ⟨consistent.sound, consistent.single, consistent.accounted⟩

omit [PyRuntime] in
/-- A crash leaves a call as it was, or lost. -/
theorem afterCrash_cases (gateway : Instance)
    (attempt : Attempt Instance) :
    attempt.afterCrash gateway = attempt ∨
      attempt.afterCrash gateway = attempt.reach .lost := by
  unfold Attempt.afterCrash
  split
  · exact .inl rfl
  · split_ifs
    · exact .inr rfl
    · exact .inl rfl

omit [DecidableEq CallId] in
/-- A crash keeps the invariant: a lost call is owed nothing. -/
theorem Consistent.interrupt {gateway : Instance}
    (consistent : Consistent configuration initial fleet) :
    Consistent configuration initial (fleet.interrupt gateway) := by
  have origin : ∀ id after,
      (fleet.interrupt gateway).attempts id = some after →
        ∃ before, fleet.attempts id = some before ∧
          (after = before ∨ after = before.reach .lost) := by
    intro id after made
    obtain ⟨before, beforeMade, rfl⟩ := Option.map_eq_some_iff.mp made
    exact ⟨before, beforeMade, afterCrash_cases gateway before⟩
  constructor
  · intro id after made
    obtain ⟨before, beforeMade, rfl | rfl⟩ := origin id after made
    · exact consistent.sound id after beforeMade
    · trivial
  · intro first second one other approvalId oneMade otherMade oneConsumed
      otherConsumed onePresented otherPresented
    obtain ⟨before, beforeMade, rfl | rfl⟩ := origin first one oneMade
    · obtain ⟨old, oldMade, rfl | rfl⟩ := origin second other otherMade
      · exact consistent.single first second one other approvalId
          beforeMade oldMade oneConsumed otherConsumed onePresented
          otherPresented
      · exact otherConsumed.elim
    · exact oneConsumed.elim
  · intro row member
    rcases consistent.accounted row member with started | ⟨id, before,
      made, isRow, undenied⟩
    · exact .inl started
    · right
      refine ⟨id, _, congrArg (Option.map _) made, ?_⟩
      rcases afterCrash_cases gateway before with same | lost
      · rw [same]
        exact ⟨isRow, undenied⟩
      · rw [lost]
        exact ⟨isRow, trivial⟩

/-- Every step keeps the invariant. -/
theorem Consistent.step {event : Event Instance CallId}
    {after : Fleet Instance CallId}
    (consistent : Consistent configuration initial fleet)
    (step : Step configuration dbPath fleet event after) :
    Consistent configuration initial after := by
  cases step with
  | @start gateway connection limiter store stopped opened =>
      cases connection with
      | ready =>
          cases opened
          exact consistent.serve
      | unavailable detail => cases opened
      | failing detail => cases opened
  | crash gateway => exact consistent.interrupt
  | call unused up checked => exact consistent.serve.call unused checked
  | advance made advanced =>
      exact consistent.advance made (Attempt.advance_progress advanced)

/-- A step keeps every row. -/
theorem Step.rows_subset {event : Event Instance CallId}
    {after : Fleet Instance CallId}
    (step : Step configuration dbPath fleet event after) :
    ∀ row ∈ fleet.consumedApprovals.rows,
      row ∈ after.consumedApprovals.rows := by
  intro row member
  cases step with
  | @start gateway connection limiter store stopped opened =>
      cases connection with
      | ready =>
          cases opened
          exact member
      | unavailable detail => cases opened
      | failing detail => cases opened
  | crash gateway => exact member
  | call unused up checked => exact member
  | advance made advanced =>
      cases Attempt.advance_progress advanced with
      | refused waiting error => exact member
      | identified waiting read => exact member
      | inserted waiting bindsTo bound admitted rows =>
          exact rows ▸ List.mem_append_left _ member
      | minted waiting => exact member

end Invariant

/-! ## Every run -/

section Runs

variable [PyRuntime] {Instance CallId : Type} [DecidableEq Instance]
  [DecidableEq CallId] {configuration : Instance → Configuration}
  {dbPath : PyStr} {initial final : Fleet Instance CallId}
  {events : List (Event Instance CallId)}

/-- A call that presented this id was granted `execute` under it. -/
def GrantedUnder (configuration : Instance → Configuration)
    (fleet : Fleet Instance CallId) (id : CallId) (approvalId : PyStr)
    (planHash : Option PyStr) : Prop :=
  ∃ attempt, fleet.attempts id = some attempt ∧
    attempt.Granted (configuration attempt.gateway).catalog ∧
    presentedId attempt.call = some (.str approvalId) ∧
    attempt.call.currentPlanHash = planHash

/-- The presented ids of a fleet are strings. -/
def StringIds (fleet : Fleet Instance CallId) : Prop :=
  ∀ id attempt approvalId, fleet.attempts id = some attempt →
    presentedId attempt.call = some approvalId →
      ∃ text, approvalId = .str text

theorem consistent_of_run
    (run : Run (Step configuration dbPath) initial events final)
    (uncalled : ∀ id, initial.attempts id = none) :
    Consistent configuration initial.consumedApprovals final := by
  refine run.invariant (Consistent configuration initial.consumedApprovals)
    (fun consistent step => consistent.step step) ?_
  constructor
  · intro id attempt made
    simp [uncalled] at made
  · intro first second one other approvalId made
    simp [uncalled] at made
  · exact fun _ member => .inl member

/--
Over every interleaving: an id is granted at most once; from its grant on
the file has a row of it for the granted plan; and an id that was not there
at the start and whose calls were all denied has no row.
-/
theorem approval_used_at_most_once
    (run : Run (Step configuration dbPath) initial events final)
    (uncalled : ∀ id, initial.attempts id = none) :
    (∀ approvalId first second firstPlan secondPlan,
      GrantedUnder configuration final first approvalId firstPlan →
      GrantedUnder configuration final second approvalId secondPlan →
        first = second) ∧
    (∀ approvalId id planHash later moreEvents,
      GrantedUnder configuration final id approvalId planHash →
      Run (Step configuration dbPath) final moreEvents later →
        ∃ row ∈ later.consumedApprovals.rows,
          row.approvalId = some approvalId ∧
            planHash = some row.actionBinding) ∧
    (∀ approvalId, StringIds final →
      ¬ initial.consumedApprovals.Holds approvalId →
      (∀ id attempt, final.attempts id = some attempt →
        presentedId attempt.call = some (.str approvalId) →
          attempt.Denied) →
        ¬ final.consumedApprovals.Holds approvalId) := by
  have consistent := consistent_of_run run uncalled
  have consumed : ∀ attempt : Attempt Instance, ∀ catalog,
      attempt.Granted catalog → attempt.Consumed catalog := by
    rintro attempt catalog ⟨outcome, ended, grants⟩
    simpa [Attempt.Consumed, ended] using grants
  refine ⟨?_, ?_, ?_⟩
  · rintro approvalId first second _ _ ⟨one, oneMade, oneGranted,
      onePresented, -⟩ ⟨other, otherMade, otherGranted, otherPresented, -⟩
    exact consistent.single first second one other approvalId oneMade
      otherMade (consumed _ _ oneGranted) (consumed _ _ otherGranted)
      onePresented otherPresented
  · rintro approvalId id _ later moreEvents ⟨attempt, made, granted,
      presented, rfl⟩ further
    obtain ⟨row, member, isRow⟩ :=
      (consistent.sound id attempt made).recorded (consumed _ _ granted)
    have stays : row ∈ later.consumedApprovals.rows :=
      further.invariant (fun fleet => row ∈ fleet.consumedApprovals.rows)
        (fun held step => step.rows_subset row held) member
    exact ⟨row, stays, isRow.approvalId_eq presented, isRow.bound⟩
  · rintro approvalId strings absent denied ⟨row, member, keyed⟩
    rcases consistent.accounted row member with started | ⟨id, attempt,
      made, isRow, undenied⟩
    · exact absent ⟨row, started, keyed⟩
    · obtain ⟨held, presented, -⟩ := isRow.identified
      obtain ⟨text, rfl⟩ := strings id attempt held made presented
      have same : text = approvalId := by
        have stored := isRow.approvalId_eq presented
        rw [keyed, Option.some.injEq] at stored
        exact stored.symm
      subst same
      obtain ⟨result, ended, refused⟩ := denied id attempt made presented
      have open_ : ¬ attempt.Denied := by
        simpa [Attempt.Undenied, ended] using undenied
      exact open_ ⟨result, ended, refused⟩

end Runs

/-! ## Two instances race on one approval -/

section Example

attribute [local instance] Reference.runtime

open McpGateway.Scenario in
/-- The call both instances serve. -/
def racingCall (planHash signatureRef : PyStr) : AuthorizeCall where
  request :=
    request isolateKubernetesWorkloadTool "soc-analyst"
      (some (approval "apr:1" signatureRef))
  currentPlanHash := some planHash
  now := some noon
  ambient := ambient

/-- Both instances are built on the shipped catalog. -/
def shippedConfiguration (_ : Bool) : Configuration :=
  ⟨shippedCatalog, shippedAllowlists⟩

def unusedFleet : Fleet Bool Bool :=
  ⟨Table.empty, fun _ => none, fun _ => none⟩

open McpGateway.Scenario in
/-- The stages in front of the store pass on the demand. -/
theorem racingCall_checks {planHash : PyStr} (signatureRef : PyStr)
    (bound :
      boundPlanHash isolateKubernetesWorkloadTool.name target envelopeHash =
        .ok planHash) :
    checks shippedCatalog shippedAllowlists
        (racingCall planHash signatureRef).request (some planHash) noon
        RateLimiter.fresh =
      (.ok (some ⟨approval "apr:1" signatureRef, planHash⟩),
        counted isolateKubernetesWorkloadTool) := by
  refine checks_eq_ok_iff.mpr ⟨isolateKubernetesWorkloadTool, rfl,
    by decide, rfl, ?_⟩
  refine documentStages_executeRequest (by decide)
    (fun _ => target_listed (.inl rfl)) envelopeHash_shaped
    endOfYear_notPassed ?_
  rw [approvalStage_eq_ok_iff, if_pos ⟨rfl, rfl⟩]
  refine ⟨_, planHash, rfl, rfl, ?_, rfl⟩
  rw [expectedPlanHash_of_passes rfl
    (executeRequest_passes envelopeHash_shaped endOfYear_notPassed)]
  exact bound

/-- Both instances have taken the call; each is in a phase of its own. -/
def raceFleet (call : AuthorizeCall) (file : ConsumedApprovals)
    (phases : Bool → Phase) : Fleet Bool Bool where
  consumedApprovals := file
  running := fun _ =>
    some (McpGateway.Scenario.counted isolateKubernetesWorkloadTool)
  attempts := fun id => some ⟨id, call, phases id⟩

theorem raceFleet_step {call : AuthorizeCall}
    {file written : ConsumedApprovals} {phases : Bool → Phase}
    {id : Bool} {phase : Phase} (connection : Connection)
    (advanced :
      (Attempt.mk id call (phases id)).advance connection file =
        some (phase, written)) :
    Step shippedConfiguration "approvals.db" (raceFleet call file phases)
      (.advance id connection)
      (raceFleet call written (Function.update phases id phase)) := by
  have step : Step shippedConfiguration "approvals.db"
      (raceFleet call file phases) (.advance id connection) _ :=
    .advance rfl advanced
  convert step using 1
  simp only [raceFleet, Fleet.record, Attempt.reach, Fleet.mk.injEq, true_and]
  funext other
  by_cases same : other = id
  · subst same
    simp
  · simp [same]

open McpGateway.Scenario in
theorem raceFleet_opens {planHash signatureRef : PyStr}
    (bound :
      boundPlanHash isolateKubernetesWorkloadTool.name target envelopeHash =
        .ok planHash) :
    Run (Step shippedConfiguration "approvals.db") unusedFleet
      [.start false, .start true,
        .call false false (racingCall planHash signatureRef),
        .call true true (racingCall planHash signatureRef)]
      (raceFleet (racingCall planHash signatureRef) Table.empty
        fun _ => .demanding ⟨approval "apr:1" signatureRef, planHash⟩) := by
  have opened : DurableApprovalStore.openDatabase "approvals.db" .ready
      (some Table.empty) = .ok ⟨.ready, Table.empty⟩ := rfl
  have checked := racingCall_checks signatureRef bound
  have run : Run (Step shippedConfiguration "approvals.db") unusedFleet
      [.start false, .start true,
        .call false false (racingCall planHash signatureRef),
        .call true true (racingCall planHash signatureRef)] _ :=
    .next (.start rfl opened)
      (.next (.start rfl opened)
        (.next (.call rfl rfl checked)
          (.next (.call rfl rfl checked) (.done _))))
  convert run using 1
  simp only [raceFleet, Fleet.record, Fleet.serve, unusedFleet,
    Fleet.mk.injEq, true_and]
  constructor <;> funext id <;> cases id <;> rfl

open McpGateway.Scenario in
/-- Both calls pass their checks; one insertion succeeds, one is a replay. -/
theorem exists_race {planHash signatureRef : PyStr}
    (bound :
      boundPlanHash isolateKubernetesWorkloadTool.name target envelopeHash =
        .ok planHash)
    (signed :
      computeSignatureRef (.str "apr:1") planHash = .ok signatureRef) :
    ∃ (events : List (Event Bool Bool)) (final : Fleet Bool Bool),
      Run (Step shippedConfiguration "approvals.db") unusedFleet events
          final ∧
        GrantedUnder shippedConfiguration final false "apr:1"
          (some planHash) ∧
        ∃ attempt, final.attempts true = some attempt ∧ attempt.Denied := by
  have valid : FieldsValid (approval "apr:1" signatureRef) planHash
      "soc-analyst" executorId noon (.str "apr:1") :=
    signedApproval_valid signed (by decide) (by decide) endOfYear_notPassed
  have fields := validateApprovalFields_eq_ok_iff.mpr valid
  have bindsTo : bindText (.str "apr:1") = .ok (some "apr:1") :=
    bindText_str (surrogateFree_ofString "apr:1")
  let row := DurableApprovalStore.consumedRow noon planHash (some "apr:1")
  let file : ConsumedApprovals :=
    Table.empty.append row (Table.empty_admits row)
  have first : DurableApprovalStore.insertConsumed (.str "apr:1") planHash
      noon ⟨.ready, Table.empty⟩ = (.ok (), ⟨.ready, file⟩) :=
    DurableApprovalStore.insertConsumed_eq_ok_iff.mpr
      ⟨rfl, rfl, some "apr:1", bindsTo, Table.empty_admits row, rfl⟩
  have second : DurableApprovalStore.insertConsumed (.str "apr:1") planHash
      noon ⟨.ready, file⟩ = _ :=
    DurableApprovalStore.insertConsumed_of_holds rfl bindsTo
      ⟨row, List.mem_singleton_self row, rfl⟩
  have race : Run (Step shippedConfiguration "approvals.db")
      (raceFleet (racingCall planHash signatureRef) Table.empty
        fun _ => .demanding ⟨approval "apr:1" signatureRef, planHash⟩)
      [.advance true .ready, .advance false .ready, .advance false .ready,
        .advance true .ready, .advance false .ready] _ :=
    .next (raceFleet_step .ready (Attempt.advance_demanding fields))
      (.next (raceFleet_step .ready (Attempt.advance_demanding fields))
        (.next (raceFleet_step .ready (Attempt.advance_inserting first))
          (.next (raceFleet_step .ready (Attempt.advance_inserting second))
            (.next (raceFleet_step .ready (Attempt.advance_minting _))
              (.done _)))))
  have granted : Exit.finish
      (mintStage (racingCall planHash signatureRef).request ambient) =
        .ok ⟨true, .authorised, some (mintEphemeralCredential ambient)⟩ :=
    Exit.finish_eq_ok_iff.mpr
      (.inl (mintStage_eq_ok_iff.mpr ⟨credential_ne_callerToken, rfl⟩))
  refine ⟨_, _, (raceFleet_opens bound).append race, ⟨_, rfl, ?_,
    rfl, rfl⟩, _, rfl, ⟨_, rfl, rfl⟩⟩
  exact ⟨_, rfl,
    { allowed := ⟨_, granted, rfl⟩
      execute := rfl
      required := ⟨isolateKubernetesWorkloadTool, rfl, rfl⟩ }⟩

/-- In such a race the second call is not granted, and the row is there. -/
theorem approval_used_at_most_once_in_a_race :
    ∃ (planHash : PyStr) (events : List (Event Bool Bool))
      (final : Fleet Bool Bool),
      Run (Step shippedConfiguration "approvals.db") unusedFleet events
          final ∧
        (∀ id plan,
          GrantedUnder shippedConfiguration final id "apr:1" plan →
            id = false) ∧
        (∃ attempt, final.attempts true = some attempt ∧
          attempt.Denied) ∧
        ∃ row ∈ final.consumedApprovals.rows,
          row.approvalId = some "apr:1" ∧ row.actionBinding = planHash := by
  obtain ⟨planHash, signatureRef, bound, signed⟩ :=
    McpGateway.Scenario.exists_signed_plan isolateKubernetesWorkloadTool
      (surrogateFree_ofString "apr:1")
  obtain ⟨events, final, run, granted, denied⟩ := exists_race bound signed
  obtain ⟨once, recorded, -⟩ :=
    approval_used_at_most_once run fun _ => rfl
  obtain ⟨row, member, keyed, plan⟩ :=
    recorded "apr:1" false _ final [] granted (.done final)
  exact ⟨planHash, events, final, run,
    fun id plan other => once "apr:1" id false plan _ other granted,
    denied, row, member, keyed, (Option.some.inj plan).symm⟩

end Example

end ArgosCyberTools.Deployment
