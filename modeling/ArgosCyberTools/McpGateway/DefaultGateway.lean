import ArgosCyberTools.McpGateway.Consumption
import ArgosCyberTools.Policies.TargetAllowlists

/-!
# A gateway with the installed allowlists

`Gateway()` without allowlists reads them from the installed policies.  In
every call such a gateway serves, a tool that requires an allowlist reaches
only targets that the last file of the tool lists, and a target is refused
as unlisted only when that file does not list it.
-/

namespace ArgosCyberTools.McpGateway

open Python ToolCatalog Policies Transition

/-- The files the constructor reads by default. -/
structure Installation where
  catalog : ShippedCatalog
  allowlists : Directory

/-- The exceptions of the constructor. -/
inductive ConstructionError where
  | catalog (error : CatalogError)
  | allowlists (error : AllowlistError)

section Construction

variable [PyRuntime] [DocumentParsers] {Store : Type}

/-- `catalog if catalog is not None else load_catalog()`. -/
def Installation.catalogOr (installation : Installation) :
    Option Catalog → Except ConstructionError Catalog
  | some catalog => .ok catalog
  | none => (loadCatalog installation.catalog none none).mapError .catalog

omit [PyRuntime] in
/-- The allowlists given, or `load_target_allowlists()`. -/
def Installation.allowlistsOr (installation : Installation) :
    Option Allowlists → Except ConstructionError Allowlists
  | some allowlists => .ok allowlists
  | none =>
      (loadTargetAllowlists installation.allowlists none).mapError .allowlists

/-- `Gateway.__init__`; the store is the one given, or a fresh one. -/
def Gateway.init (installation : Installation) (catalog : Option Catalog)
    (targetAllowlists : Option Allowlists) (approvalStore : Store)
    (rateLimiter : Option RateLimiter) :
    Except ConstructionError (Gateway Store) := do
  let catalog ← installation.catalogOr catalog
  let targetAllowlists ← installation.allowlistsOr targetAllowlists
  return ⟨catalog, targetAllowlists, approvalStore,
    rateLimiter.getD RateLimiter.fresh⟩

/-- The last file that names the tool has the target in its set. -/
def Admits (directory : Directory) (name target : PyStr) : Prop :=
  ∃ before file after listed targets,
    directory.sortedFiles = before ++ file :: after ∧
      Declares file (.str name) listed targets ∧
      (∀ other ∈ after, ¬ Names other name) ∧ InSet listed target

omit [PyRuntime] in
/-- The loaded allowlists are what the files list. -/
theorem mem_loadTargetAllowlists_iff {directory : Directory}
    {allowlists : Allowlists}
    (loaded : loadTargetAllowlists directory none = .ok allowlists)
    (name target : PyStr) :
    target ∈ (allowlists.get? name).getD ∅ ↔
      Admits directory name target := by
  have slots := foldlM_loadAllowlist_get? loaded name
  have declared (targets : Finset PyStr) :
      allowlists.get? name = some targets ↔
        LastDeclared directory.sortedFiles name targets := by
    refine (slots targets).trans ?_
    simp [PyDict.get?_empty]
  constructor
  · intro member
    cases held : allowlists.get? name with
    | none =>
        rw [held] at member
        exact absurd member (Finset.notMem_empty target)
    | some targets =>
        rw [held, Option.getD_some] at member
        obtain ⟨before, file, after, listed, split, declares, silent⟩ :=
          (declared targets).mp held
        exact ⟨before, file, after, listed, targets, split, declares,
          silent, (mem_textSet_iff declares.collected target).mp member⟩
  · rintro ⟨before, file, after, listed, targets, split, declares, silent,
      inSet⟩
    have held := (declared targets).mpr
      ⟨before, file, after, listed, split, declares, silent⟩
    rw [held, Option.getD_some]
    exact (mem_textSet_iff declares.collected target).mpr inSet

/-- Without an argument the constructor loads the installed allowlists. -/
theorem loadTargetAllowlists_of_init {installation : Installation}
    {catalog : Option Catalog} {approvalStore : Store}
    {rateLimiter : Option RateLimiter} {gateway : Gateway Store}
    (built : Gateway.init installation catalog none approvalStore
      rateLimiter = .ok gateway) :
    loadTargetAllowlists installation.allowlists none =
      .ok gateway.targetAllowlists := by
  simp only [Gateway.init, bind_eq_ok_iff, pure_eq_ok_iff] at built
  obtain ⟨_, -, allowlists, loaded, rfl⟩ := built
  exact mapError_eq_ok_iff.mp loaded

end Construction

/-! ## Refusing a target -/

/-- The exit refuses the target of the request as unlisted. -/
def RefusesTarget : AuthorizeExit → Prop
  | .returned result =>
      ∃ target tool, result.reason = .targetNotAllowed target tool
  | .raised _ => False

theorem refusesTarget_deny_iff {reason : Reason} :
    RefusesTarget (deny reason) ↔
      ∃ target tool, reason = .targetNotAllowed target tool :=
  Iff.rfl

theorem not_refusesTarget_raised (error : AuthorizeError) :
    ¬ RefusesTarget (.raised error) :=
  id

section Calls

variable [PyRuntime] {Store : Type} [ApprovalStoreProtocol Store]

theorem safetyStage_avoids_target (tool : ToolDefinition)
    (request : ToolCallRequest) (now : PyDateTime) :
    Avoids RefusesTarget (safetyStage tool request now) := by
  unfold safetyStage
  split_ifs
  · split <;> simp [refusesTarget_deny_iff, not_refusesTarget_raised]
  · simp

theorem approvalStage_avoids_target (tool : ToolDefinition)
    (request : ToolCallRequest) (currentPlanHash : Option PyStr) :
    Avoids RefusesTarget (approvalStage tool request currentPlanHash) := by
  unfold approvalStage
  split_ifs
  · simp only [avoids_bind, avoids_orExit, avoids_raiseIf,
      avoids_mapError, avoids_pure, refusesTarget_deny_iff,
      not_refusesTarget_raised, reduceCtorEq, exists_const,
      not_false_eq_true, implies_true, and_true, true_and]
    intro _ _ _ _
    cases expectedPlanHash tool request <;> simp
  · simp

omit [PyRuntime] in
theorem rateLimitStage_avoids_target (tool : ToolDefinition)
    (now : PyDateTime) (limiter : RateLimiter) :
    Avoids RefusesTarget (rateLimitStage tool now limiter).1 := by
  simp only [rateLimitStage, PyM.avoids_bind_apply, PyM.mapError_fst,
    avoids_mapError, PyM.ofExcept_apply, avoids_raiseIf,
    refusesTarget_deny_iff, not_refusesTarget_raised]
  cases (RateLimiter.checkAndRecord tool.name
    tool.rateLimit.callsPerMinute now limiter).1 <;> simp

theorem storeStage_avoids_target (demand : Option Demand)
    (request : ToolCallRequest) (now : PyDateTime) (store : Store) :
    Avoids RefusesTarget (storeStage demand request now store).1 := by
  cases demand with
  | none => simp [storeStage]
  | some demand =>
      simp only [storeStage, PyM.mapError_fst, avoids_mapError]
      rcases (ApprovalStoreProtocol.validateAndConsume _ _ _ _ _ store).1
        with (_ | _) | _ <;>
        simp [storeExit, refusesTarget_deny_iff, not_refusesTarget_raised]

/-- Only the allowlist refuses a target as unlisted. -/
theorem documentStages_avoids_target {allowlists : Allowlists}
    {tool : ToolDefinition} {request : ToolCallRequest}
    (listed : tool.targetAllowlistRequired = true →
      request.target ∈ allowlistOf allowlists tool)
    (currentPlanHash : Option PyStr) (now : PyDateTime) :
    Avoids RefusesTarget
      (documentStages allowlists tool request currentPlanHash now) := by
  have unrefused : (tool.targetAllowlistRequired &&
      decide (request.target ∉ allowlistOf allowlists tool)) = false := by
    cases required : tool.targetAllowlistRequired with
    | false => rfl
    | true => simpa using listed required
  simp only [documentStages, requestStage, avoids_bind, avoids_raiseIf,
    refusesTarget_deny_iff, unrefused, reduceCtorEq, exists_const,
    Bool.false_eq_true, false_imp_iff, not_false_eq_true, implies_true,
    and_true, true_and]
  exact fun _ _ => ⟨safetyStage_avoids_target _ _ _, fun _ _ =>
    approvalStage_avoids_target _ _ _⟩

theorem checks_avoids_target {catalog : Catalog} {allowlists : Allowlists}
    {request : ToolCallRequest} {tool : ToolDefinition}
    (found : catalog.get? request.toolName = some tool)
    (listed : tool.targetAllowlistRequired = true →
      request.target ∈ allowlistOf allowlists tool)
    (currentPlanHash : Option PyStr) (now : PyDateTime)
    (limiter : RateLimiter) :
    Avoids RefusesTarget
      (checks catalog allowlists request currentPlanHash now limiter).1 := by
  have looked : lookupTool catalog request = .ok tool :=
    orExit_eq_ok_iff.mpr found
  rw [checks, looked, PyM.bind_of_ok (PyM.ofExcept_apply _ limiter)]
  simp only [sideEffectStage, PyM.avoids_bind_apply, PyM.ofExcept_apply,
    avoids_raiseIf, refusesTarget_deny_iff, reduceCtorEq, exists_const,
    not_false_eq_true, implies_true, true_and]
  exact fun _ _ _ => ⟨rateLimitStage_avoids_target _ _ _, fun _ _ _ =>
    documentStages_avoids_target listed _ _⟩

variable {gateway final : Gateway Store} {event : AuthorizeEvent}
  {tool : ToolDefinition}

/-- A call whose target is listed is not refused for its target. -/
theorem AuthorizeStep.target_not_refused
    (step : AuthorizeStep gateway event final)
    (found : gateway.catalog.get? event.call.request.toolName = some tool)
    (listed : tool.targetAllowlistRequired = true →
      event.call.request.target ∈
        allowlistOf gateway.targetAllowlists tool)
    {result : AuthorizationResult} (returned : event.outcome = .ok result)
    (target name : PyStr) :
    result.reason ≠ .targetNotAllowed target name := by
  intro refused
  have avoided : Avoids RefusesTarget
      (Gateway.authorizeBody event.call.request event.call.currentPlanHash
        event.call.now event.call.ambient gateway).1 := by
    simp only [Gateway.authorizeBody, PyM.avoids_bind_apply, PyM.get_apply,
      PyM.onField_apply, PyM.ofExcept_apply]
    refine ⟨trivial, ?_⟩
    rintro _ _ ⟨⟩
    refine ⟨checks_avoids_target found listed _ _ _, fun _ _ _ =>
      ⟨storeStage_avoids_target _ _ _ _, fun _ _ _ => ?_⟩⟩
    simp only [mintStage, avoids_bind, avoids_raiseIf, avoids_pure,
      not_refusesTarget_raised, not_false_eq_true, implies_true, and_self]
  rw [AuthorizeStep, returned, Gateway.authorize,
    PyM.finish_apply_eq_ok_iff] at step
  rcases step with body | early
  · have minted := (mintStage_eq_ok_iff.mp
      (authorizeBody_eq_ok_iff.mp body).2).2
    rw [minted] at refused
    cases refused
  · rw [early] at avoided
    exact avoided ⟨target, name, refused⟩

/-- A granted call of a tool that requires a list has a listed target. -/
theorem AuthorizeStep.target_listed
    (step : AuthorizeStep gateway event final) (allowed : event.Allowed)
    (found : gateway.catalog.get? event.call.request.toolName = some tool)
    (required : tool.targetAllowlistRequired = true) :
    event.call.request.target ∈
      allowlistOf gateway.targetAllowlists tool := by
  obtain ⟨result, returned, isAllowed⟩ := allowed
  rw [AuthorizeStep, returned] at step
  obtain ⟨⟨other, demand, granted⟩, -⟩ :=
    authorize_allowed_iff.mp ⟨step, isAllowed⟩
  cases granted.found.symm.trans found
  exact (requestStage_eq_ok_iff.mp granted.requestChecks).2.2 required

/--
A gateway is built with the installed allowlists only if every file lists
targets for a tool.  Over any sequence of calls a tool that requires an
allowlist is then granted only on targets that the last file of the tool
lists, and a target is refused as unlisted only if it is not.
-/
theorem installed_allowlists_enforced [DocumentParsers]
    {installation : Installation} {catalog : Option Catalog} {store : Store}
    {limiter : Option RateLimiter} {initial : Gateway Store}
    (built : Gateway.init installation catalog none store limiter =
      .ok initial)
    {events : List AuthorizeEvent}
    (run : Run AuthorizeStep initial events final) :
    (∀ file ∈ installation.allowlists.sortedFiles, ∃ tool listed targets,
      Declares file tool listed targets) ∧
    ∀ event ∈ events, ∀ tool,
      initial.catalog.get? event.call.request.toolName = some tool →
        (event.Allowed → tool.targetAllowlistRequired = true →
          Admits installation.allowlists tool.name
            event.call.request.target) ∧
        ∀ result target name, event.outcome = .ok result →
          result.reason = .targetNotAllowed target name →
            tool.targetAllowlistRequired = true ∧
              ¬ Admits installation.allowlists tool.name
                event.call.request.target := by
  have loaded := loadTargetAllowlists_of_init built
  refine ⟨foldlM_loadAllowlist_ok_iff.mp ⟨_, loaded⟩, ?_⟩
  refine Run.forall_labels
    (fun gateway => gateway.catalog = initial.catalog ∧
      gateway.targetAllowlists = initial.targetAllowlists) _ ?_
    ⟨rfl, rfl⟩ run
  rintro source event target ⟨sameCatalog, sameAllowlists⟩ step
  have kept := step.configuration_eq
  rw [sameCatalog, sameAllowlists] at kept
  refine ⟨fun tool found => ?_, kept⟩
  rw [← sameCatalog] at found
  have admits := mem_loadTargetAllowlists_iff loaded tool.name
    event.call.request.target
  rw [← sameAllowlists] at admits
  constructor
  · intro allowed required
    exact admits.mp (step.target_listed allowed found required)
  · intro result target name returned refused
    by_contra harmless
    rw [not_and, not_not] at harmless
    exact step.target_not_refused found
      (fun required => admits.mpr (harmless required)) returned target name
      refused

end Calls

section Example

/-- A policy file, without its comments. -/
def policyYaml (tool : String) : List UInt8 :=
  (PyStr.ofString "tool: " ++ PyStr.ofString tool ++
    PyStr.ofString "\nallowlist:\n  - deployment/gseg-simulado\n").flatMap
      utf8Bytes

def policyDocument (tool : String) : Json :=
  .dict [("tool", .str (PyStr.ofString tool)),
    ("allowlist", .list [.str "deployment/gseg-simulado"])]

/-- The files under `policies/target-allowlists`. -/
def shippedPolicies : Directory :=
  PyDict.ofList
    [("isolate_kubernetes_workload",
        policyYaml "isolate_kubernetes_workload"),
      ("scale_to_zero", policyYaml "scale_to_zero")]

/-- The parsers on these files. -/
@[reducible]
def policyParsers : DocumentParsers where
  yamlSafeLoad bytes :=
    if bytes = policyYaml "isolate_kubernetes_workload" then
      some (policyDocument "isolate_kubernetes_workload")
    else if bytes = policyYaml "scale_to_zero" then
      some (policyDocument "scale_to_zero")
    else none
  jsonLoads _ := none

attribute [local instance] Reference.runtime policyParsers

/-- The files hold the shipped allowlists. -/
theorem loadTargetAllowlists_shipped :
    loadTargetAllowlists shippedPolicies none = .ok shippedAllowlists := by
  rfl

/-- The shipped files admit the workload of the incident. -/
theorem installed_allowlists_enforced_on_incident :
    Admits shippedPolicies isolateKubernetesWorkloadTool.name
      Scenario.target := by
  let installation : Installation := ⟨emptyShipment, shippedPolicies⟩
  have built : Gateway.init installation (some shippedCatalog) none
      ApprovalStore.fresh none = .ok (Scenario.gateway ApprovalStore.fresh) := by
    rw [Gateway.init, Installation.allowlistsOr, loadTargetAllowlists_shipped]
    rfl
  obtain ⟨planHash, signatureRef, bound, signed⟩ :=
    Scenario.exists_signed_plan isolateKubernetesWorkloadTool
      (surrogateFree_ofString "apr:1")
  have step : AuthorizeStep (Scenario.gateway ApprovalStore.fresh)
      (Scenario.grantedEvent planHash signatureRef) _ :=
    Scenario.containment_granted (.inl rfl) bound signed (by decide)
      (Finset.notMem_empty _)
  exact ((installed_allowlists_enforced built (Run.next step (.done _))).2
    _ List.mem_cons_self isolateKubernetesWorkloadTool rfl).1
      ⟨_, rfl, rfl⟩ rfl

end Example

end ArgosCyberTools.McpGateway
