import ArgosCyberTools.Graph.Documents

/-!
# Privilege escalation

`graph.escalation`: the rules each bound subject reaches are matched against a
catalog of combinations of resources and verbs.  A full wildcard is reported
once, not once for each pattern it covers.
-/

namespace ArgosCyberTools.Graph

open Python

structure EscalationFinding where
  subject : PyStr
  path : PyStr
  rule : PolicyRule
  reason : PyStr
  severity : PyStr
deriving DecidableEq

/-- Resources, verbs and the reason. -/
structure DangerousPattern where
  resources : Finset PyStr
  verbs : Finset PyStr
  reason : PyStr
deriving DecidableEq

/-- `"*"`. -/
def wildcard : PyStr := "*"

def wildcardPattern : DangerousPattern where
  resources := {wildcard}
  verbs := {wildcard}
  reason :=
    "wildcard total (apiGroups/resources/verbs = *): equivalente a cluster-admin"

def grantPattern : DangerousPattern where
  resources :=
    {("roles" : PyStr), ("clusterroles" : PyStr), ("rolebindings" : PyStr),
      ("clusterrolebindings" : PyStr)}
  verbs :=
    {("bind" : PyStr), ("escalate" : PyStr), ("impersonate" : PyStr),
      wildcard}
  reason :=
    "puede conceder o vincular permisos RBAC arbitrarios (bind/escalate/impersonate)"

def execPattern : DangerousPattern where
  resources := {("pods/exec" : PyStr), ("pods/attach" : PyStr)}
  verbs := {("create" : PyStr), wildcard}
  reason :=
    "ejecución de comandos arbitrarios dentro de un pod (kubectl exec)"

def secretPattern : DangerousPattern where
  resources := {("secrets" : PyStr)}
  verbs := {("get" : PyStr), ("list" : PyStr), ("watch" : PyStr), wildcard}
  reason :=
    "lectura de Secret en todo el alcance del binding (robo de credenciales)"

/-- `_DANGEROUS_PATTERNS`. -/
def dangerousPatterns : List DangerousPattern :=
  [wildcardPattern, grantPattern, execPattern, secretPattern]

def ruleMatches (rule : PolicyRule) (resources verbs : Finset PyStr) : Bool :=
  let ruleResources := rule.resources.toFinset
  let ruleVerbs := rule.verbs.toFinset
  let resourceHit :=
    decide (wildcard ∈ ruleResources ∨ (ruleResources ∩ resources).Nonempty)
  let verbHit :=
    decide (wildcard ∈ ruleVerbs ∨ (ruleVerbs ∩ verbs).Nonempty)
  resourceHit && verbHit

def escalationFinding (subject : Subject) (rule : PolicyRule)
    (pattern : DangerousPattern) : EscalationFinding where
  subject := subjectLabel subject
  path := subject.kind ++ " -> RoleBinding/ClusterRole -> " ++ pattern.reason
  rule := rule
  reason := pattern.reason
  severity := if pattern.resources = {wildcard} then "critical" else "high"

/-- The loop over the patterns; a full wildcard ends it. -/
def ruleFindings (subject : Subject) (rule : PolicyRule) :
    List DangerousPattern → List EscalationFinding
  | [] => []
  | pattern :: rest =>
      if ruleMatches rule pattern.resources pattern.verbs then
        escalationFinding subject rule pattern ::
          if pattern.resources = {wildcard} ∧ pattern.verbs = {wildcard} then []
          else ruleFindings subject rule rest
      else ruleFindings subject rule rest

/-- `seen_subjects`, each under its first occurrence. -/
def seenSubjects (graph : ClusterGraph) : PyDict Subject Unit :=
  PyDict.firstSeen (graph.roleBindings.flatMap RoleBindingDef.subjects)

def findPrivilegeEscalations (graph : ClusterGraph) : List EscalationFinding :=
  (seenSubjects graph).keys.flatMap fun subject =>
    (graph.effectiveRules subject).flatMap fun rule =>
      ruleFindings subject rule dangerousPatterns

/-! ## Matching -/

/-- A list of a rule grants this, by name or by `*`. -/
def Covers (granted : List PyStr) (wanted : PyStr) : Prop :=
  wanted ∈ granted ∨ wildcard ∈ granted

/-- The rule grants a pair of a resource and a verb of the pattern. -/
def Grants (rule : PolicyRule) (pattern : DangerousPattern) : Prop :=
  ∃ resource ∈ pattern.resources, ∃ verb ∈ pattern.verbs,
    Covers rule.resources resource ∧ Covers rule.verbs verb

/-- The rule grants every verb on every resource. -/
def FullWildcard (rule : PolicyRule) : Prop :=
  wildcard ∈ rule.resources ∧ wildcard ∈ rule.verbs

instance FullWildcard.decidable : DecidablePred FullWildcard :=
  fun rule => inferInstanceAs
    (Decidable (wildcard ∈ rule.resources ∧ wildcard ∈ rule.verbs))

/-- Some member of a nonempty set is covered when the test of the set says so. -/
theorem exists_covers_iff {granted : List PyStr} {wanted : Finset PyStr}
    (nonempty : wanted.Nonempty) :
    (∃ member ∈ wanted, Covers granted member) ↔
      wildcard ∈ granted.toFinset ∨ (granted.toFinset ∩ wanted).Nonempty := by
  simp only [Covers, List.mem_toFinset, Finset.Nonempty, Finset.mem_inter]
  constructor
  · rintro ⟨member, inWanted, named | all⟩
    · exact .inr ⟨member, named, inWanted⟩
    · exact .inl all
  · rintro (all | ⟨member, named, inWanted⟩)
    · obtain ⟨member, inWanted⟩ := nonempty
      exact ⟨member, inWanted, .inr all⟩
    · exact ⟨member, inWanted, .inl named⟩

theorem ruleMatches_iff {rule : PolicyRule} {pattern : DangerousPattern}
    (resources : pattern.resources.Nonempty) (verbs : pattern.verbs.Nonempty) :
    ruleMatches rule pattern.resources pattern.verbs = true ↔
      Grants rule pattern := by
  have resourceHit := @exists_covers_iff rule.resources _ resources
  have verbHit := @exists_covers_iff rule.verbs _ verbs
  simp only [ruleMatches, Bool.and_eq_true, decide_eq_true_eq, ← resourceHit,
    ← verbHit]
  constructor
  · rintro ⟨⟨resource, isResource, covered⟩, verb, isVerb, coveredVerb⟩
    exact ⟨resource, isResource, verb, isVerb, covered, coveredVerb⟩
  · rintro ⟨resource, isResource, verb, isVerb, covered, coveredVerb⟩
    exact ⟨⟨resource, isResource, covered⟩, verb, isVerb, coveredVerb⟩

theorem dangerousPatterns_nonempty :
    ∀ pattern ∈ dangerousPatterns,
      pattern.resources.Nonempty ∧ pattern.verbs.Nonempty := by
  decide

theorem grants_wildcardPattern_iff {rule : PolicyRule} :
    Grants rule wildcardPattern ↔ FullWildcard rule := by
  simp [Grants, FullWildcard, Covers, wildcardPattern]

/-! ## The findings of one rule -/

section RuleFindings

variable {subject : Subject} {rule : PolicyRule}

/-- Without a wildcard pattern the loop reports every match. -/
theorem ruleFindings_of_proper {patterns : List DangerousPattern}
    (proper : ∀ pattern ∈ patterns,
      ¬ (pattern.resources = {wildcard} ∧ pattern.verbs = {wildcard})) :
    ruleFindings subject rule patterns =
      (patterns.filter fun pattern =>
        ruleMatches rule pattern.resources pattern.verbs).map
          (escalationFinding subject rule) := by
  induction patterns with
  | nil => rfl
  | cons pattern rest induction =>
      rw [List.forall_mem_cons] at proper
      rw [ruleFindings, if_neg proper.1, induction proper.2, List.filter_cons]
      split_ifs <;> rfl

/-- A full wildcard is reported once. -/
theorem ruleFindings_of_fullWildcard (full : FullWildcard rule) :
    ruleFindings subject rule dangerousPatterns =
      [escalationFinding subject rule wildcardPattern] := by
  have nonempty := dangerousPatterns_nonempty wildcardPattern (by decide)
  have isMatch := (ruleMatches_iff nonempty.1 nonempty.2).mpr
    (grants_wildcardPattern_iff.mpr full)
  rw [dangerousPatterns, ruleFindings, if_pos isMatch, if_pos ⟨rfl, rfl⟩]

/-- Any other rule is reported under each pattern it grants something of. -/
theorem mem_ruleFindings_iff {finding : EscalationFinding} :
    finding ∈ ruleFindings subject rule dangerousPatterns ↔
      ∃ pattern ∈ dangerousPatterns, Grants rule pattern ∧
        (FullWildcard rule → pattern = wildcardPattern) ∧
        escalationFinding subject rule pattern = finding := by
  by_cases full : FullWildcard rule
  · rw [ruleFindings_of_fullWildcard full, List.mem_singleton]
    constructor
    · rintro rfl
      exact ⟨wildcardPattern, by decide, grants_wildcardPattern_iff.mpr full,
        fun _ => rfl, rfl⟩
    · rintro ⟨pattern, -, -, isWildcard, rfl⟩
      rw [isWildcard full]
  · have noMatch : ¬ ruleMatches rule wildcardPattern.resources
        wildcardPattern.verbs = true := by
      rw [ruleMatches_iff (by decide) (by decide), grants_wildcardPattern_iff]
      exact full
    have proper : ∀ pattern ∈ [grantPattern, execPattern, secretPattern],
        ¬ (pattern.resources = {wildcard} ∧ pattern.verbs = {wildcard}) := by
      decide
    rw [dangerousPatterns, ruleFindings, if_neg noMatch,
      ruleFindings_of_proper proper]
    simp only [List.mem_map, List.mem_filter]
    constructor
    · rintro ⟨pattern, ⟨isPattern, matched⟩, rfl⟩
      have inCatalog : pattern ∈ dangerousPatterns :=
        List.mem_cons_of_mem _ isPattern
      have nonempty := dangerousPatterns_nonempty pattern inCatalog
      exact ⟨pattern, inCatalog,
        (ruleMatches_iff nonempty.1 nonempty.2).mp matched,
        fun isFull => absurd isFull full, rfl⟩
    · rintro ⟨pattern, inCatalog, grants, -, rfl⟩
      have nonempty := dangerousPatterns_nonempty pattern inCatalog
      refine ⟨pattern, ⟨?_, (ruleMatches_iff nonempty.1 nonempty.2).mpr grants⟩,
        rfl⟩
      rcases List.mem_cons.mp inCatalog with rfl | isPattern
      · exact absurd (grants_wildcardPattern_iff.mp grants) full
      · exact isPattern

theorem rule_of_mem_ruleFindings {finding : EscalationFinding}
    (member : finding ∈ ruleFindings subject rule dangerousPatterns) :
    finding.rule = rule := by
  obtain ⟨pattern, -, -, -, rfl⟩ := mem_ruleFindings_iff.mp member
  rfl

end RuleFindings

/-! ## The findings of a graph -/

section Findings

variable {graph : ClusterGraph}

/-- The rules a binding gives to whom it lists. -/
def ClusterGraph.rulesOfBinding (graph : ClusterGraph)
    (binding : RoleBindingDef) : List PolicyRule :=
  match graph.roleOfBinding binding with
  | some role => role.rules
  | none => []

theorem mem_rulesOfBinding_iff {binding : RoleBindingDef}
    {rule : PolicyRule} :
    rule ∈ graph.rulesOfBinding binding ↔
      ∃ role, graph.roleOfBinding binding = some role ∧ rule ∈ role.rules := by
  unfold ClusterGraph.rulesOfBinding
  cases graph.roleOfBinding binding <;> simp

theorem mem_seenSubjects_iff {subject : Subject} :
    subject ∈ (seenSubjects graph).keys ↔
      ∃ binding ∈ graph.roleBindings, subject ∈ binding.subjects := by
  simp [seenSubjects]

/-- Each subject of a binding is reported for the rules the binding gives. -/
theorem mem_findPrivilegeEscalations_iff {finding : EscalationFinding} :
    finding ∈ findPrivilegeEscalations graph ↔
      ∃ binding ∈ graph.roleBindings, ∃ subject ∈ binding.subjects,
        ∃ rule ∈ graph.rulesOfBinding binding,
          finding ∈ ruleFindings subject rule dangerousPatterns := by
  simp only [findPrivilegeEscalations, List.mem_flatMap, mem_seenSubjects_iff,
    ClusterGraph.effectiveRules, ClusterGraph.bindingsForSubject,
    List.mem_filter, decide_eq_true_eq]
  constructor
  · rintro ⟨subject, -, rule, ⟨binding, ⟨isBinding, listed⟩, inRole⟩, found⟩
    exact ⟨binding, isBinding, subject, listed, rule, inRole, found⟩
  · rintro ⟨binding, isBinding, subject, listed, rule, inRole, found⟩
    exact ⟨subject, ⟨binding, isBinding, listed⟩, rule,
      ⟨binding, ⟨isBinding, listed⟩, inRole⟩, found⟩

/-- Of the findings of some rules, one for each full wildcard is of one. -/
theorem filter_fullWildcard_ruleFindings (subject : Subject)
    (rules : List PolicyRule) :
    ((rules.flatMap fun rule =>
        ruleFindings subject rule dangerousPatterns).filter fun finding =>
          FullWildcard finding.rule) =
      (rules.filter fun rule => FullWildcard rule).map fun rule =>
        escalationFinding subject rule wildcardPattern := by
  induction rules with
  | nil => rfl
  | cons rule rest induction =>
      rw [List.flatMap_cons, List.filter_append, induction, List.filter_cons]
      by_cases full : FullWildcard rule
      · have reported : FullWildcard
            (escalationFinding subject rule wildcardPattern).rule := full
        rw [ruleFindings_of_fullWildcard full, if_pos (by simpa using full),
          List.filter_cons, if_pos (by simpa using reported)]
        rfl
      · have none : ((ruleFindings subject rule dangerousPatterns).filter
            fun finding => FullWildcard finding.rule) = [] := by
          rw [List.filter_eq_nil_iff]
          intro finding member
          rw [rule_of_mem_ruleFindings member]
          simpa using full
        rw [none, if_neg (by simpa using full), List.nil_append]

/-- A full wildcard gives one finding for each subject, binding and occurrence. -/
theorem filter_fullWildcard_findings (graph : ClusterGraph) :
    ((findPrivilegeEscalations graph).filter fun finding =>
        FullWildcard finding.rule) =
      (seenSubjects graph).keys.flatMap fun subject =>
        (graph.bindingsForSubject subject).flatMap fun binding =>
          ((graph.rulesOfBinding binding).filter fun rule =>
            FullWildcard rule).map fun rule =>
              escalationFinding subject rule wildcardPattern := by
  rw [findPrivilegeEscalations, List.filter_flatMap]
  refine List.flatMap_congr fun subject _ => ?_
  rw [filter_fullWildcard_ruleFindings]
  show (((graph.bindingsForSubject subject).flatMap
    graph.rulesOfBinding).filter _).map _ = _
  rw [List.filter_flatMap, List.map_flatMap]

end Findings

end ArgosCyberTools.Graph
