import ArgosCyberTools.Graph.Escalation
import ArgosCyberTools.Graph.RbacRadius

/-!
# What the manifests grant

The rules a subject reaches, said of the manifests: a binding manifest lists
it and refers to a role by kind, name and scope, and the last definition of
that role counts.  Escalation findings are exactly these, under the printed
label of the subject.
-/

namespace ArgosCyberTools.Graph

open Python

section Reach

variable [PyRuntime]

/--
The binding refers to this role: a Role of the namespace of a RoleBinding, or
a ClusterRole, by its last definition in the list.
-/
structure Resolves (manifests : List JsonObject) (binding : RoleBindingDef)
    (role : RoleDef) : Prop where
  last : LastRole manifests role
  kind : binding.roleRefKind = role.kind
  name : binding.roleRefName = role.name
  scope : role.kind = ("Role" : PyStr) →
    binding.kind = ("RoleBinding" : PyStr) ∧
      binding.namespace_ = role.namespace_

/-- A binding manifest lists the subject, and its role has the rule. -/
def Reaches (manifests : List JsonObject) (subject : Subject)
    (rule : PolicyRule) : Prop :=
  ∃ manifest ∈ manifests, ∃ binding,
    Declares manifest (.roleBinding binding) ∧ subject ∈ binding.subjects ∧
      ∃ role, Resolves manifests binding role ∧ rule ∈ role.rules

/-- Some subject printed like this one reaches the rule. -/
def ReachesAsPrinted (manifests : List JsonObject) (subject : Subject)
    (rule : PolicyRule) : Prop :=
  ∃ listed, subjectLabel listed = subjectLabel subject ∧
    Reaches manifests listed rule

variable {manifests : List JsonObject}

/-- The lookup of the source finds the role a declared binding refers to. -/
theorem roleOfBinding_eq_some_iff {manifest : JsonObject}
    {binding : RoleBindingDef} {role : RoleDef}
    (declares : Declares manifest (.roleBinding binding)) :
    (graphOf manifests).roleOfBinding binding = some role ↔
      Resolves manifests binding role := by
  rw [ClusterGraph.roleOfBinding, ClusterGraph.role, roles_get?_iff]
  constructor
  · rintro ⟨isKey, last⟩
    simp only [RoleDef.key, Prod.mk.injEq] at isKey
    obtain ⟨kind, name, place⟩ := isKey
    refine ⟨last, kind.symm, name.symm, ?_⟩
    intro isRole
    rw [if_pos (kind.symm.trans isRole)] at place
    obtain ⟨front, source, back, -, isDefined, -⟩ := last
    rcases isDefined.role_scope with ⟨-, held, given⟩ | ⟨isCluster, -⟩
    · rcases declares.binding_scope with ⟨isNamespaced, -⟩ | ⟨-, none⟩
      · exact ⟨isNamespaced, place.symm⟩
      · rw [given, none] at place
        cases place
    · rw [isRole] at isCluster
      exact absurd isCluster (by decide)
  · intro resolves
    refine ⟨?_, resolves.last⟩
    obtain ⟨front, source, back, -, isDefined, -⟩ := resolves.last
    rw [RoleDef.key, resolves.kind, resolves.name]
    rcases isDefined.role_scope with ⟨isRole, -⟩ | ⟨isCluster, none⟩
    · rw [if_pos isRole, (resolves.scope isRole).2]
    · have noRole : ¬ role.kind = ("Role" : PyStr) := by
        rw [isCluster]
        decide
      rw [if_neg noRole, none]

/-- What a subject is bound to in the graph is what it reaches. -/
theorem reaches_iff {subject : Subject} {rule : PolicyRule} :
    (∃ binding ∈ (graphOf manifests).roleBindings,
        subject ∈ binding.subjects ∧
          rule ∈ (graphOf manifests).rulesOfBinding binding) ↔
      Reaches manifests subject rule := by
  simp only [mem_roleBindings_iff, mem_rulesOfBinding_iff]
  constructor
  · rintro ⟨binding, ⟨manifest, member, declares⟩, listed, role, resolved,
      inRole⟩
    exact ⟨manifest, member, binding, declares, listed, role,
      (roleOfBinding_eq_some_iff declares).mp resolved, inRole⟩
  · rintro ⟨manifest, member, binding, declares, listed, role, resolves,
      inRole⟩
    exact ⟨binding, ⟨manifest, member, declares⟩, listed, role,
      (roleOfBinding_eq_some_iff declares).mpr resolves, inRole⟩

/-- A finding is of a subject that reaches its rule, under one pattern. -/
theorem mem_escalations_iff {finding : EscalationFinding} :
    finding ∈ findPrivilegeEscalations (graphOf manifests) ↔
      ∃ subject rule, Reaches manifests subject rule ∧
        ∃ pattern ∈ dangerousPatterns, Grants rule pattern ∧
          (FullWildcard rule → pattern = wildcardPattern) ∧
          escalationFinding subject rule pattern = finding := by
  rw [mem_findPrivilegeEscalations_iff]
  simp only [mem_ruleFindings_iff, ← reaches_iff]
  constructor
  · rintro ⟨binding, isBinding, subject, listed, rule, inRole, found⟩
    exact ⟨subject, rule, ⟨binding, isBinding, listed, inRole⟩, found⟩
  · rintro ⟨subject, rule, ⟨binding, isBinding, listed, inRole⟩, found⟩
    exact ⟨binding, isBinding, subject, listed, rule, inRole, found⟩

/-! ## Sound and complete -/

/-- A finding with this label, rule and reason is reported. -/
def Reported (findings : List EscalationFinding) (label : PyStr)
    (rule : PolicyRule) (reason : PyStr) : Prop :=
  ∃ finding ∈ findings, finding.subject = label ∧ finding.rule = rule ∧
    finding.reason = reason

/--
What is reported is what is reached and grants something of the pattern; a
full wildcard is reported under its own pattern only.
-/
def ReportsExactly (reaches : Subject → PolicyRule → Prop)
    (findings : List EscalationFinding) : Prop :=
  ∀ subject rule, ∀ pattern ∈ dangerousPatterns,
    Reported findings (subjectLabel subject) rule pattern.reason ↔
      reaches subject rule ∧ Grants rule pattern ∧
        (FullWildcard rule → pattern = wildcardPattern)

/-- What the binding manifests of the list declare, in order. -/
def declaredBindings (manifests : List JsonObject) : List RoleBindingDef :=
  manifests.filterMap fun manifest => (resourceOf manifest).roleBinding?

/-- The rules of the role a binding refers to, none without such a role. -/
def GivesRules (manifests : List JsonObject) (binding : RoleBindingDef)
    (rules : List PolicyRule) : Prop :=
  (∃ role, Resolves manifests binding role ∧ rules = role.rules) ∨
    ((∀ role, ¬ Resolves manifests binding role) ∧ rules = [])

/--
The findings of full wildcards are one for each distinct subject, each binding
that lists it and each occurrence in the role of that binding.
-/
def OncePerOccurrence (manifests : List JsonObject)
    (findings : List EscalationFinding) : Prop :=
  ∃ (subjects : List Subject) (rulesOf : RoleBindingDef → List PolicyRule),
    subjects.Nodup ∧
    (∀ subject, subject ∈ subjects ↔
      ∃ binding ∈ declaredBindings manifests, subject ∈ binding.subjects) ∧
    (∀ binding ∈ declaredBindings manifests,
      GivesRules manifests binding (rulesOf binding)) ∧
    (findings.filter fun finding => FullWildcard finding.rule) =
      subjects.flatMap fun subject =>
        ((declaredBindings manifests).filter fun binding =>
          subject ∈ binding.subjects).flatMap fun binding =>
            ((rulesOf binding).filter fun rule => FullWildcard rule).map
              fun rule => escalationFinding subject rule wildcardPattern

theorem roleBindings_graphOf :
    (graphOf manifests).roleBindings = declaredBindings manifests := by
  simp [graphOf, assemble, declaredBindings, List.filterMap_map]

theorem givesRules_graphOf {binding : RoleBindingDef}
    (member : binding ∈ declaredBindings manifests) :
    GivesRules manifests binding
      ((graphOf manifests).rulesOfBinding binding) := by
  rw [← roleBindings_graphOf, mem_roleBindings_iff] at member
  obtain ⟨manifest, -, declares⟩ := member
  unfold ClusterGraph.rulesOfBinding
  cases found : (graphOf manifests).roleOfBinding binding with
  | some role =>
      exact .inl ⟨role, (roleOfBinding_eq_some_iff declares).mp found, rfl⟩
  | none =>
      refine .inr ⟨fun role resolves => ?_, rfl⟩
      rw [(roleOfBinding_eq_some_iff declares).mpr resolves] at found
      cases found

theorem oncePerOccurrence_graphOf (manifests : List JsonObject) :
    OncePerOccurrence manifests
      (findPrivilegeEscalations (graphOf manifests)) := by
  refine ⟨(seenSubjects (graphOf manifests)).keys,
    (graphOf manifests).rulesOfBinding, (seenSubjects _).unique, ?_, ?_, ?_⟩
  · intro subject
    rw [mem_seenSubjects_iff, roleBindings_graphOf]
  · intro binding member
    exact givesRules_graphOf member
  · rw [filter_fullWildcard_findings, ← roleBindings_graphOf]
    rfl

omit [PyRuntime] in
/-- The reasons of the catalog tell its patterns apart. -/
theorem pattern_eq_of_reason : ∀ first ∈ dangerousPatterns,
    ∀ second ∈ dangerousPatterns, first.reason = second.reason →
      first = second := by
  decide

/--
Escalation findings are what the manifests grant to subjects, each under its
printed label: sound, complete, and a full wildcard once per subject, binding
and occurrence.
-/
theorem escalations_exact {graph : ClusterGraph}
    (built : buildGraph manifests = .ok graph) :
    ReportsExactly (ReachesAsPrinted manifests)
        (findPrivilegeEscalations graph) ∧
      OncePerOccurrence manifests (findPrivilegeEscalations graph) := by
  obtain ⟨-, rfl⟩ := buildGraph_eq_ok_iff.mp built
  refine ⟨?_, oncePerOccurrence_graphOf manifests⟩
  intro subject rule pattern isPattern
  constructor
  · rintro ⟨finding, member, labelled, isRule, isReason⟩
    obtain ⟨listed, reached, reaches, matched, isMatched, grants, single,
      rfl⟩ := mem_escalations_iff.mp member
    have sameRule : reached = rule := isRule
    have samePattern : matched = pattern :=
      pattern_eq_of_reason matched isMatched pattern isPattern isReason
    subst sameRule samePattern
    exact ⟨⟨listed, labelled, reaches⟩, grants, single⟩
  · rintro ⟨⟨listed, labelled, reaches⟩, grants, single⟩
    exact ⟨_, mem_escalations_iff.mpr ⟨listed, rule, reaches, pattern,
      isPattern, grants, single, rfl⟩, labelled, rfl, rfl⟩

end Reach

section Example

attribute [local instance] Reference.runtime

/-- A full wildcard in every API group. -/
def everything : PolicyRule := ⟨["*"], ["*"], ["*"], []⟩

/-- A ClusterRole with that rule. -/
def adminRole : JsonObject :=
  PyDict.ofList
    [("kind", .str "ClusterRole"), ("metadata", .dict [("name", .str "admin")]),
      ("rules", .list [.dict
        [("apiGroups", .list [.str "*"]), ("resources", .list [.str "*"]),
          ("verbs", .list [.str "*"])]])]

/-- A binding of this kind in `shop` that binds a group to it. -/
def adminBinding (kind : PyStr) : JsonObject :=
  PyDict.ofList
    [("kind", .str kind),
      ("metadata",
        .dict [("name", .str "admins"), ("namespace", .str "shop")]),
      ("roleRef",
        .dict [("kind", .str "ClusterRole"), ("name", .str "admin")]),
      ("subjects", .list
        [.dict [("kind", .str "Group"), ("name", .str "ops")]])]

def adminGroup : List JsonObject := [adminRole, adminBinding "ClusterRoleBinding"]

theorem roleBindings_adminGroup :
    (graphOf adminGroup).roleBindings =
      [⟨"ClusterRoleBinding", "admins", none, "ClusterRole", "admin",
        [⟨"Group", "ops", none⟩]⟩] := by
  decide +kernel

/-- A user printed like a bound group seems to be reported. -/
theorem user_printed_like_group :
    ∃ graph, buildGraph adminGroup = .ok graph ∧
      ¬ (ReportsExactly (Reaches adminGroup)
            (findPrivilegeEscalations graph) ∧
          OncePerOccurrence adminGroup (findPrivilegeEscalations graph)) := by
  refine ⟨graphOf adminGroup, buildGraph_of_readable rfl, ?_⟩
  have reported : Reported (findPrivilegeEscalations (graphOf adminGroup))
      (subjectLabel (user "ops")) everything wildcardPattern.reason := by
    have finding : findPrivilegeEscalations (graphOf adminGroup) =
        [escalationFinding ⟨"Group", "ops", none⟩ everything
          wildcardPattern] := by
      decide +kernel
    rw [finding]
    exact ⟨_, List.mem_singleton_self _, rfl, rfl, rfl⟩
  rintro ⟨exact_, -⟩
  obtain ⟨⟨manifest, member, binding, declares, listed, -⟩, -⟩ :=
    (exact_ (user "ops") everything wildcardPattern (by decide)).mp reported
  have isBinding := mem_roleBindings_iff.mpr ⟨manifest, member, declares⟩
  rw [roleBindings_adminGroup, List.mem_singleton] at isBinding
  rw [isBinding] at listed
  exact absurd listed (by decide)

theorem escalations_exact_of_group :
    ∃ graph, buildGraph adminGroup = .ok graph ∧
      ReportsExactly (ReachesAsPrinted adminGroup)
        (findPrivilegeEscalations graph) ∧
      OncePerOccurrence adminGroup (findPrivilegeEscalations graph) := by
  have built : buildGraph adminGroup = .ok (graphOf adminGroup) :=
    buildGraph_of_readable rfl
  exact ⟨_, built, escalations_exact built⟩

end Example

end ArgosCyberTools.Graph
