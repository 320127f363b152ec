import ArgosCyberTools.Python.Text
import ArgosCyberTools.Rego.CompleteRule

/-!
# `policies/opa`

The three packages each define one complete rule, `decision`.
-/

namespace ArgosCyberTools.Policies

open Python Rego

/-- The document a policy is asked about. -/
structure PolicyInput where
  tool : PyStr
  target : PyStr
  action : PyStr

inductive PolicyResult where
  | allowDryRun
  | approvalRequired
  | deny
deriving DecidableEq

def PolicyResult.text : PolicyResult → PyStr
  | allowDryRun => "ALLOW_DRY_RUN"
  | approvalRequired => "APPROVAL_REQUIRED"
  | deny => "DENY"

structure PolicyDecision where
  result : PolicyResult
  reason : PyStr
deriving DecidableEq

/-- The rule of the two containment tools, which differ in their names. -/
def containmentDecision (tool : PyStr) (targetAllowlist : Finset PyStr) :
    CompleteRule PolicyInput PolicyDecision where
  default := ⟨.deny, "no matching rule"⟩
  bodies :=
    [{ holds := fun input =>
          decide (input.action = ("dry-run" : PyStr)) &&
            decide (input.target ∈ targetAllowlist)
       value := fun _ =>
          ⟨.allowDryRun,
            "dry-run siempre permitido dentro del target allowlist"⟩ },
      { holds := fun input =>
          decide (input.action = ("execute" : PyStr)) &&
            decide (input.target ∈ targetAllowlist) &&
              decide (input.tool = tool)
        value := fun _ =>
          ⟨.approvalRequired,
            "execute requiere aprobación humana vinculada al action_id"⟩ },
      { holds := fun input => decide (input.target ∉ targetAllowlist)
        value := fun input =>
          ⟨.deny, "target " ++ input.target ++ " fuera de allowlist"⟩ }]

/-- `isolate_kubernetes_workload.rego`. -/
def isolateKubernetesWorkloadDecision :
    CompleteRule PolicyInput PolicyDecision :=
  containmentDecision "isolate_kubernetes_workload"
    {PyStr.ofString "deployment/gseg-simulado"}

/-- `scale_to_zero.rego`. -/
def scaleToZeroDecision : CompleteRule PolicyInput PolicyDecision :=
  containmentDecision "scale_to_zero"
    {PyStr.ofString "deployment/gseg-simulado"}

/-- `increase_monitoring.rego`. -/
def increaseMonitoringDecision :
    CompleteRule PolicyInput PolicyDecision where
  default :=
    ⟨.allowDryRun, "increase_monitoring no requiere aprobación"⟩
  bodies :=
    [{ holds := fun input =>
          decide (input.action ∈
              [PyStr.ofString "dry-run", PyStr.ofString "execute"]) &&
            decide (input.tool = ("increase_monitoring" : PyStr))
       value := fun _ =>
          ⟨.allowDryRun,
            "acción de solo observabilidad, sin riesgo de contención"⟩ }]

/-- The policy of a tool, if it has one. -/
def policyOf (toolName : PyStr) :
    Option (CompleteRule PolicyInput PolicyDecision) :=
  if toolName = "isolate_kubernetes_workload" then
    some isolateKubernetesWorkloadDecision
  else if toolName = "scale_to_zero" then
    some scaleToZeroDecision
  else if toolName = "increase_monitoring" then
    some increaseMonitoringDecision
  else
    none

/-! ## What the policies decide -/

section Containment

variable {tool : PyStr} {targetAllowlist : Finset PyStr}
  {input : PolicyInput} {decision : PolicyDecision}

theorem containmentDecision_consistent :
    (containmentDecision tool targetAllowlist).Consistent := by
  intro input first isFirst second isSecond
  simp only [containmentDecision, List.mem_cons, List.not_mem_nil, or_false]
    at isFirst isSecond
  rcases isFirst with rfl | rfl | rfl <;>
    rcases isSecond with rfl | rfl | rfl <;>
    simp_all

/-- A rehearsal on a listed target is allowed. -/
theorem containmentDecision_dryRun
    (listed : input.target ∈ targetAllowlist)
    (dryRun : input.action = ("dry-run" : PyStr))
    (takes :
      (containmentDecision tool targetAllowlist).Takes input decision) :
    decision.result = .allowDryRun := by
  rw [containmentDecision_consistent.takes_iff.mp takes]
  simp [CompleteRule.evaluate, containmentDecision, listed, dryRun]

/-- An execution on a listed target awaits an approval. -/
theorem containmentDecision_execute
    (listed : input.target ∈ targetAllowlist)
    (execute : input.action = ("execute" : PyStr))
    (ofTool : input.tool = tool)
    (takes :
      (containmentDecision tool targetAllowlist).Takes input decision) :
    decision.result = .approvalRequired := by
  have notDryRun : ("execute" : PyStr) ≠ "dry-run" := by decide
  rw [containmentDecision_consistent.takes_iff.mp takes]
  simp [CompleteRule.evaluate, containmentDecision, listed, execute, ofTool,
    notDryRun]

end Containment

/-- Monitoring is never refused, and never awaits an approval. -/
theorem increaseMonitoringDecision_result {input : PolicyInput}
    {decision : PolicyDecision}
    (takes : increaseMonitoringDecision.Takes input decision) :
    decision.result = .allowDryRun := by
  rcases takes with ⟨body, isBody, -, rfl⟩ | ⟨-, rfl⟩
  · rw [List.mem_singleton.mp isBody]
  · rfl

end ArgosCyberTools.Policies
