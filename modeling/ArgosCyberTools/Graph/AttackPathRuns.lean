import ArgosCyberTools.Graph.AttackPathStages
import ArgosCyberTools.Transition.Lockstep

/-!
# Many attempts against one gateway

Validating an attempt leaves the gateway as it was except for the rate
limiter, which every attempt goes through before anything else is looked at.
As long as the limiter has room, a sequence of attempts gets the results that
unused gateways would give; an attempt for which it has none is refused for
that reason, whatever the gateway would have said.
-/

namespace ArgosCyberTools.Graph

open Python ToolCatalog Policies McpGateway Transition

/-- The arguments of one call of `validate_attack_path`. -/
structure Attempt where
  finding : EscalationFinding
  toolName : PyStr
  target : PyStr
  subjectId : PyStr
  grantedScopes : Finset PyStr
  safetyEnvelope : Option JsonObject
  verificationResult : Option JsonObject
  ambient : Ambient

namespace Attempt

variable {Store : Type}

/-- The limiter has room for the attempt, as an unused one would. -/
def Unhindered (attempt : Attempt) (gateway : Gateway Store) : Prop :=
  ∀ tool, gateway.catalog.get? attempt.toolName = some tool →
    tool.sideEffectClass ∉ deniedInP0 →
    oneMinute ≤ attempt.ambient.clock.wallClock →
      gateway.rateLimiter.Comparable tool.name attempt.ambient.clock ∧
        (0 < tool.rateLimit.callsPerMinute →
          (gateway.rateLimiter.recentCalls tool.name
            attempt.ambient.clock).length < tool.rateLimit.callsPerMinute)

/-- The unhindered attempts are those an unused limiter treats alike. -/
theorem Unhindered.admissionOf_eq {attempt : Attempt} {gateway : Gateway Store}
    (unhindered : attempt.Unhindered gateway) {tool : ToolDefinition}
    (found : gateway.catalog.get? attempt.toolName = some tool)
    (inScope : tool.sideEffectClass ∉ deniedInP0) :
    admissionOf gateway.rateLimiter tool attempt.ambient.clock =
      admissionOf RateLimiter.fresh tool attempt.ambient.clock := by
  unfold admissionOf
  by_cases late : oneMinute ≤ attempt.ambient.clock.wallClock
  · obtain ⟨comparable, room⟩ := unhindered tool found inScope late
    have unused : RateLimiter.fresh.Comparable tool.name
        attempt.ambient.clock := by
      refine ⟨late, ?_⟩
      intro call member
      cases member
    have empty : RateLimiter.fresh.recentCalls tool.name
        attempt.ambient.clock = [] := rfl
    rw [RateLimiter.checkAndRecord_of_comparable comparable,
      RateLimiter.checkAndRecord_of_comparable unused, empty]
    simp only [List.length_nil, Nat.cast_zero]
    by_cases positive : 0 < tool.rateLimit.callsPerMinute
    · have below := room positive
      rw [if_neg (by omega), if_neg (by omega)]
    · rw [if_pos (by omega), if_pos (by omega)]
  · rw [RateLimiter.checkAndRecord_of_early late,
      RateLimiter.checkAndRecord_of_early late]

variable [PyRuntime] [ApprovalStoreProtocol Store]

/-- `validate_attack_path` with these arguments. -/
def validate (attempt : Attempt) :
    PyM (Gateway Store) AuthorizeError AttackPathResult :=
  validateAttackPath attempt.finding attempt.toolName attempt.target
    attempt.subjectId attempt.grantedScopes attempt.safetyEnvelope
    attempt.verificationResult attempt.ambient

def request (attempt : Attempt) : ToolCallRequest :=
  attackRequest attempt.toolName attempt.target attempt.subjectId
    attempt.grantedScopes attempt.safetyEnvelope attempt.verificationResult

/-- What a validation makes of the answer of the gateway. -/
def resultOn (attempt : Attempt) :
    Except AuthorizeError AuthorizationResult →
      Except AuthorizeError AttackPathResult
  | .error (.toolNotFound name) =>
      .ok ⟨attempt.finding, attempt.toolName, attempt.target, .outOfScope,
        "'" ++ reprText name ++ "' no existe en el catálogo actual"⟩
  | .error error => .error error
  | .ok result =>
      .ok ⟨attempt.finding, attempt.toolName, attempt.target,
        (attackVerdict result).1, (attackVerdict result).2⟩

/-- A validation looks at that answer only, and leaves what it left. -/
theorem validate_apply (attempt : Attempt) (gateway : Gateway Store) :
    attempt.validate gateway =
      (attempt.resultOn
          (Gateway.authorize attempt.request none none attempt.ambient
            gateway).1,
        (Gateway.authorize attempt.request none none attempt.ambient
          gateway).2) := by
  unfold validate validateAttackPath request
  simp only
  rcases Gateway.authorize _ none none attempt.ambient gateway with
    ⟨error | result, final⟩
  · cases error <;> rfl
  · rfl

/-- It leaves the catalog and the allowlists alone. -/
theorem validate_frame (attempt : Attempt) (gateway : Gateway Store) :
    (attempt.validate gateway).2.catalog = gateway.catalog ∧
      (attempt.validate gateway).2.targetAllowlists =
        gateway.targetAllowlists := by
  rw [validate_apply]
  cases found : gateway.catalog.get? attempt.request.toolName with
  | none =>
      rw [authorize_of_missing found]
      exact ⟨rfl, rfl⟩
  | some tool =>
      obtain ⟨limiter, answer⟩ :=
        @authorize_of_found _ _ _ attempt.ambient _ _ rfl rfl _ found
      rw [answer]
      exact ⟨rfl, rfl⟩

/-- An unhindered attempt gets the result of an unused gateway. -/
theorem validate_of_unhindered {attempt : Attempt}
    {gateway unused : Gateway Store}
    (catalog : unused.catalog = gateway.catalog)
    (allowlists : unused.targetAllowlists = gateway.targetAllowlists)
    (fresh : unused.rateLimiter = RateLimiter.fresh)
    (unhindered : attempt.Unhindered gateway) :
    (attempt.validate gateway).1 = (attempt.validate unused).1 := by
  rw [validate_apply, validate_apply]
  apply congrArg attempt.resultOn
  cases found : gateway.catalog.get? attempt.toolName with
  | none =>
      have unknown : unused.catalog.get? attempt.toolName = none := by
        rw [catalog, found]
      rw [@authorize_of_missing _ _ _ attempt.ambient _ attempt.request found,
        @authorize_of_missing _ _ _ attempt.ambient _ attempt.request unknown]
  | some tool =>
      have known : unused.catalog.get? attempt.toolName = some tool := by
        rw [catalog, found]
      obtain ⟨limiter, answer⟩ := @authorize_of_found _ _ _ attempt.ambient _
        attempt.request rfl rfl tool found
      obtain ⟨otherLimiter, otherAnswer⟩ := @authorize_of_found _ _ _
        attempt.ambient _ attempt.request rfl rfl tool known
      rw [answer, otherAnswer]
      dsimp only
      unfold attackAnswer
      by_cases denied : tool.sideEffectClass ∈ deniedInP0
      · rw [if_pos denied, if_pos denied]
      · rw [if_neg denied, if_neg denied, fresh, allowlists,
          unhindered.admissionOf_eq found denied]

end Attempt

/-! ## Sequences of attempts -/

section Sequences

variable [PyRuntime] {Store : Type} [ApprovalStoreProtocol Store]

/-- The results of a sequence of attempts against one gateway. -/
def resultsOf (attempts : List Attempt) (gateway : Gateway Store) :
    List (Except AuthorizeError AttackPathResult) :=
  (serveAll Attempt.validate attempts gateway).1

/-- The gateway behind these attempts. -/
def gatewayAfter (attempts : List Attempt) (gateway : Gateway Store) :
    Gateway Store :=
  (serveAll Attempt.validate attempts gateway).2

/-- Every attempt finds room in the limiter it meets. -/
def AllUnhindered (attempts : List Attempt) (gateway : Gateway Store) : Prop :=
  ∀ before attempt after, attempts = before ++ attempt :: after →
    attempt.Unhindered (gatewayAfter before gateway)

theorem AllUnhindered.head {attempt : Attempt} {rest : List Attempt}
    {gateway : Gateway Store}
    (unhindered : AllUnhindered (attempt :: rest) gateway) :
    attempt.Unhindered gateway :=
  unhindered [] attempt rest rfl

theorem AllUnhindered.tail {attempt : Attempt} {rest : List Attempt}
    {gateway : Gateway Store}
    (unhindered : AllUnhindered (attempt :: rest) gateway) :
    AllUnhindered rest (attempt.validate gateway).2 := by
  rintro before next after rfl
  exact unhindered (attempt :: before) next after rfl

/--
A sequence of attempts that all find room gets, one by one, the results that
gateways with the same catalog and allowlists give to their first call.
-/
theorem attempts_independent {attempts : List Attempt}
    {gateway unused : Gateway Store}
    (catalog : unused.catalog = gateway.catalog)
    (allowlists : unused.targetAllowlists = gateway.targetAllowlists)
    (fresh : unused.rateLimiter = RateLimiter.fresh)
    (unhindered : AllUnhindered attempts gateway) :
    resultsOf attempts gateway =
      attempts.map fun attempt => (attempt.validate unused).1 := by
  induction attempts generalizing gateway with
  | nil => rfl
  | cons attempt rest induction =>
      have here := attempt.validate_of_unhindered catalog allowlists fresh
        unhindered.head
      obtain ⟨keptCatalog, keptAllowlists⟩ := attempt.validate_frame gateway
      have later := induction (catalog.trans keptCatalog.symm)
        (allowlists.trans keptAllowlists.symm) unhindered.tail
      rw [List.map_cons, ← here, ← later]
      rfl

end Sequences

section Example

attribute [local instance] Reference.runtime

/-- An attempt on the containment tool, without any document. -/
def isolationAttempt : Attempt where
  finding := excessiveFinding
  toolName := "isolate_kubernetes_workload"
  target := Scenario.target
  subjectId := "gseg-simulado-sa"
  grantedScopes := {executeScope}
  safetyEnvelope := none
  verificationResult := none
  ambient := Scenario.ambient

/-- The decisions of a sequence of attempts, where there is one. -/
def decisionsOf (attempts : List Attempt) :
    List (Option AttackPathDecision) :=
  (resultsOf attempts (Scenario.gateway ApprovalStore.fresh)).map fun result =>
    result.toOption.map (·.decision)

/-- The sixth attempt of a minute no longer shows that the path is contained. -/
theorem sixth_attempt_out_of_scope :
    decisionsOf [isolationAttempt] = [some .validated] ∧
      decisionsOf (List.replicate 6 isolationAttempt) =
        List.replicate 5 (some .validated) ++ [some .outOfScope] := by
  decide +kernel

/-- A second attempt still finds room. -/
theorem attempts_independent_twice :
    resultsOf [isolationAttempt, isolationAttempt]
        (Scenario.gateway ApprovalStore.fresh) =
      [(isolationAttempt.validate (Scenario.gateway ApprovalStore.fresh)).1,
        (isolationAttempt.validate
          (Scenario.gateway ApprovalStore.fresh)).1] := by
  have room (before : List Attempt)
      (few : before = [] ∨ before = [isolationAttempt]) :
      isolationAttempt.Unhindered
        (gatewayAfter before (Scenario.gateway ApprovalStore.fresh)) := by
    intro tool found _ _
    have known :
        (gatewayAfter before
            (Scenario.gateway ApprovalStore.fresh)).catalog.get?
          isolationAttempt.toolName = some isolateKubernetesWorkloadTool := by
      rcases few with rfl | rfl <;> rfl
    rw [known] at found
    cases found
    rcases few with rfl | rfl <;> decide +kernel
  apply attempts_independent rfl rfl rfl
  intro before attempt after split
  rcases before with _ | ⟨first, _ | ⟨second, rest⟩⟩
  · cases split
    exact room [] (.inl rfl)
  · cases split
    exact room _ (.inr rfl)
  · exact absurd (congrArg List.length split) (by simp)

end Example

end ArgosCyberTools.Graph
