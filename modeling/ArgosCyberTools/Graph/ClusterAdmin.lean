import ArgosCyberTools.Graph.PrivilegeReach

/-!
# Findings of cluster administrators

A critical finding calls its rule equivalent to `cluster-admin`.  That holds
of a wildcard over all API groups that a ClusterRoleBinding gives, and the
analysis looks at neither the API groups nor the kind of the binding.
-/

namespace ArgosCyberTools.Graph

open Python

section ClusterAdmin

variable [PyRuntime]

/-- The subject reaches the rule through a ClusterRoleBinding. -/
def ReachesClusterWide (manifests : List JsonObject) (subject : Subject)
    (rule : PolicyRule) : Prop :=
  ∃ manifest ∈ manifests, ∃ binding,
    Declares manifest (.roleBinding binding) ∧
      binding.kind = ("ClusterRoleBinding" : PyStr) ∧
      subject ∈ binding.subjects ∧
      ∃ role, Resolves manifests binding role ∧
        role.kind = ("ClusterRole" : PyStr) ∧ rule ∈ role.rules

/-- All verbs on all resources of all API groups, in the whole cluster. -/
def ClusterAdmin (manifests : List JsonObject) (subject : Subject) : Prop :=
  ∃ rule, ReachesClusterWide manifests subject rule ∧
    wildcard ∈ rule.apiGroups ∧ FullWildcard rule

/-- A critical finding is reported for a cluster administrator, and for it alone. -/
structure CriticalDeserved (manifests : List JsonObject) (subject : Subject)
    (findings : List EscalationFinding) : Prop where
  critical :
    (∃ finding ∈ findings, finding.subject = subjectLabel subject ∧
        finding.severity = ("critical" : PyStr)) ↔
      ClusterAdmin manifests subject
  total : ∀ finding ∈ findings, finding.subject = subjectLabel subject →
    finding.reason = wildcardPattern.reason →
      wildcard ∈ finding.rule.apiGroups ∧
        ReachesClusterWide manifests subject finding.rule

/--
Every wildcard over resources and verbs that a subject of this label reaches
is one over the API groups too, and this subject has it cluster-wide.
-/
def WildcardsClusterWide (manifests : List JsonObject) (subject : Subject) :
    Prop :=
  ∀ rule, ReachesAsPrinted manifests subject rule → FullWildcard rule →
    wildcard ∈ rule.apiGroups ∧ ReachesClusterWide manifests subject rule

variable {manifests : List JsonObject} {subject : Subject}

theorem ReachesClusterWide.reaches {rule : PolicyRule}
    (clusterWide : ReachesClusterWide manifests subject rule) :
    Reaches manifests subject rule := by
  obtain ⟨manifest, member, binding, declares, -, listed, role, resolves, -,
    inRole⟩ := clusterWide
  exact ⟨manifest, member, binding, declares, listed, role, resolves, inRole⟩

omit [PyRuntime] in
/-- Only the wildcard pattern is critical. -/
theorem critical_iff {rule : PolicyRule} : ∀ pattern ∈ dangerousPatterns,
    ((escalationFinding subject rule pattern).severity =
      ("critical" : PyStr) ↔ pattern = wildcardPattern) := by
  intro pattern isPattern
  have single : pattern.resources = {wildcard} ↔ pattern = wildcardPattern := by
    revert pattern
    decide
  rw [← single]
  show (if pattern.resources = {wildcard} then ("critical" : PyStr)
    else "high") = "critical" ↔ _
  split_ifs with isWildcard
  · simp [isWildcard]
  · simp only [isWildcard, iff_false]
    decide

/-- Every full wildcard that is reached is reported as one. -/
theorem mem_escalations_of_fullWildcard {rule : PolicyRule}
    (reaches : Reaches manifests subject rule) (full : FullWildcard rule) :
    escalationFinding subject rule wildcardPattern ∈
      findPrivilegeEscalations (graphOf manifests) :=
  mem_escalations_iff.mpr ⟨subject, rule, reaches, wildcardPattern,
    List.mem_cons_self, grants_wildcardPattern_iff.mpr full, fun _ => rfl, rfl⟩

/-- A critical finding of this label is reported for a full wildcard only. -/
theorem exists_critical_iff :
    (∃ finding ∈ findPrivilegeEscalations (graphOf manifests),
        finding.subject = subjectLabel subject ∧
          finding.severity = ("critical" : PyStr)) ↔
      ∃ rule, ReachesAsPrinted manifests subject rule ∧ FullWildcard rule := by
  constructor
  · rintro ⟨finding, member, labelled, critical⟩
    obtain ⟨listed, rule, reaches, pattern, isPattern, grants, -, rfl⟩ :=
      mem_escalations_iff.mp member
    have isWildcard := (critical_iff pattern isPattern).mp critical
    subst isWildcard
    exact ⟨rule, ⟨listed, labelled, reaches⟩,
      grants_wildcardPattern_iff.mp grants⟩
  · rintro ⟨rule, ⟨listed, labelled, reaches⟩, full⟩
    refine ⟨_, mem_escalations_of_fullWildcard reaches full, labelled, ?_⟩
    exact (critical_iff wildcardPattern List.mem_cons_self).mpr rfl

/--
Critical findings are reported exactly when deserved, as far as the wildcards
of the subjects printed alike are wildcards of the whole cluster.
-/
theorem criticalDeserved_iff {graph : ClusterGraph}
    (built : buildGraph manifests = .ok graph) (subject : Subject) :
    CriticalDeserved manifests subject (findPrivilegeEscalations graph) ↔
      WildcardsClusterWide manifests subject := by
  obtain ⟨-, rfl⟩ := buildGraph_eq_ok_iff.mp built
  constructor
  · rintro deserved rule ⟨listed, labelled, reaches⟩ full
    exact deserved.total _ (mem_escalations_of_fullWildcard reaches full)
      labelled rfl
  · intro clusterWide
    constructor
    · rw [exists_critical_iff]
      constructor
      · rintro ⟨rule, printed, full⟩
        obtain ⟨allGroups, wide⟩ := clusterWide rule printed full
        exact ⟨rule, wide, allGroups, full⟩
      · rintro ⟨rule, wide, -, full⟩
        exact ⟨rule, ⟨subject, rfl, wide.reaches⟩, full⟩
    · intro finding member labelled isWildcard
      obtain ⟨listed, rule, reaches, pattern, isPattern, grants, -, rfl⟩ :=
        mem_escalations_iff.mp member
      have same := pattern_eq_of_reason pattern isPattern wildcardPattern
        List.mem_cons_self isWildcard
      subst same
      exact clusterWide rule ⟨listed, labelled, reaches⟩
        (grants_wildcardPattern_iff.mp grants)

end ClusterAdmin

section Example

attribute [local instance] Reference.runtime

/-- The group `ops`, an administrator of one namespace. -/
def shopAdmins : List JsonObject := [adminRole, adminBinding "RoleBinding"]

/-- An administrator of one namespace is reported as one of the cluster. -/
theorem namespace_admin_reported_critical :
    ∃ graph, buildGraph shopAdmins = .ok graph ∧
      ¬ CriticalDeserved shopAdmins ⟨"Group", "ops", none⟩
        (findPrivilegeEscalations graph) := by
  refine ⟨graphOf shopAdmins, buildGraph_of_readable rfl, ?_⟩
  have findings : findPrivilegeEscalations (graphOf shopAdmins) =
      [escalationFinding ⟨"Group", "ops", none⟩ everything
        wildcardPattern] := by
    decide +kernel
  have bindings : (graphOf shopAdmins).roleBindings =
      [⟨"RoleBinding", "admins", some "shop", "ClusterRole", "admin",
        [⟨"Group", "ops", none⟩]⟩] := by
    decide +kernel
  intro deserved
  rw [findings] at deserved
  obtain ⟨rule, ⟨manifest, member, binding, declares, isCluster, -⟩, -⟩ :=
    deserved.critical.mp ⟨_, List.mem_singleton_self _, rfl, rfl⟩
  have isBinding := mem_roleBindings_iff.mpr ⟨manifest, member, declares⟩
  rw [bindings, List.mem_singleton] at isBinding
  rw [isBinding] at isCluster
  exact absurd isCluster (by decide)

/-- Bound in the whole cluster, the finding is deserved. -/
theorem criticalDeserved_of_cluster_binding :
    ∃ graph, buildGraph adminGroup = .ok graph ∧
      CriticalDeserved adminGroup ⟨"Group", "ops", none⟩
        (findPrivilegeEscalations graph) := by
  have built : buildGraph adminGroup = .ok (graphOf adminGroup) :=
    buildGraph_of_readable rfl
  refine ⟨_, built, (criticalDeserved_iff built _).mpr ?_⟩
  have rules : ∀ binding ∈ (graphOf adminGroup).roleBindings,
      (graphOf adminGroup).rulesOfBinding binding = [everything] := by
    decide +kernel
  rintro rule ⟨listed, -, reaches⟩ -
  obtain ⟨binding, isBinding, -, inRules⟩ := reaches_iff.mpr reaches
  have isEverything := inRules
  rw [rules binding isBinding, List.mem_singleton] at isEverything
  obtain ⟨manifest, member, declares⟩ := mem_roleBindings_iff.mp isBinding
  obtain ⟨role, resolved, inRole⟩ := mem_rulesOfBinding_iff.mp inRules
  have resolves := (roleOfBinding_eq_some_iff declares).mp resolved
  rw [roleBindings_adminGroup, List.mem_singleton] at isBinding
  subst isBinding
  refine ⟨by rw [isEverything]; decide, manifest, member, _, declares, rfl, ?_,
    role, resolves, resolves.kind.symm, inRole⟩
  exact List.mem_singleton_self _

end Example

end ArgosCyberTools.Graph
