import ArgosCyberTools.Graph.ClusterAdmin

/-!
# The order of the manifests

Lists of manifests that define no Role, ClusterRole or Service twice give, in
any order, graphs that differ in the order of their collections only, and no
analysis depends on that order.
-/

namespace ArgosCyberTools.Graph

open Python

/-! ## Rearranged graphs -/

/-- The slots hold the same, and the lists hold it in some other order. -/
structure Rearranged (left right : ClusterGraph) : Prop where
  roles : ∀ key, left.roles.get? key = right.roles.get? key
  roleBindings : left.roleBindings.Perm right.roleBindings
  services : ∀ key, left.services.get? key = right.services.get? key
  ingresses : left.ingresses.Perm right.ingresses
  networkPolicies : left.networkPolicies.Perm right.networkPolicies

namespace Rearranged

variable {left right : ClusterGraph}

theorem isIngressBackend_eq (rearranged : Rearranged left right)
    (key : ServiceKey) :
    isIngressBackend left key = isIngressBackend right key :=
  rearranged.ingresses.any_eq

theorem exposureOf_eq (rearranged : Rearranged left right)
    (key : ServiceKey) (service : ServiceDef) :
    exposureOf left key service = exposureOf right key service := by
  rw [exposureOf, exposureOf, rearranged.isIngressBackend_eq]

theorem discoverExposure_eq (rearranged : Rearranged left right)
    (targetAllowlist : Finset PyStr) :
    discoverExposure left targetAllowlist =
      discoverExposure right targetAllowlist := by
  have items : left.services.sortedBy keyOrder =
      right.services.sortedBy keyOrder :=
    PyDict.sortedBy_congr keyOrder keyOrder_antisymm rearranged.services
  rw [discoverExposure, discoverExposure, items]
  refine List.map_congr_left fun entry _ => ?_
  simp only [exposureFinding, rearranged.exposureOf_eq]

theorem affectedServices_eq (rearranged : Rearranged left right)
    (targetNamespace targetName : PyStr) :
    affectedServices left targetNamespace targetName =
      affectedServices right targetNamespace targetName := by
  have isolated : namespaceHasDefaultDeny left targetNamespace =
      namespaceHasDefaultDeny right targetNamespace :=
    rearranged.networkPolicies.any_eq
  have entries := PyDict.entries_perm rearranged.services
  unfold affectedServices
  rw [isolated, sorted_congr ((entries.filter _).map _)]

theorem affectedSubjects_eq (rearranged : Rearranged left right)
    (subject : Subject) :
    affectedSubjects left subject = affectedSubjects right subject := by
  have members : ∀ label, label ∈ affectedSubjects left subject ↔
      label ∈ affectedSubjects right subject := by
    intro label
    simp only [mem_affectedSubjects_iff, rearranged.roleBindings.mem_iff]
  apply sortedSet_congr
  intro label
  have same := members label
  rwa [affectedSubjects, affectedSubjects, mem_sortedSet, mem_sortedSet] at same

theorem assessBlastRadius_eq (rearranged : Rearranged left right)
    (targetNamespace targetName : PyStr) (subject : Subject) :
    assessBlastRadius left targetNamespace targetName subject =
      assessBlastRadius right targetNamespace targetName subject := by
  have policies : networkPolicyRefs left targetNamespace =
      networkPolicyRefs right targetNamespace :=
    sorted_congr ((rearranged.networkPolicies.filter _).map _)
  have bindings : roleBindingRefs left subject =
      roleBindingRefs right subject :=
    sorted_congr ((rearranged.roleBindings.filter _).map _)
  simp only [assessBlastRadius, rearranged.affectedServices_eq,
    rearranged.affectedSubjects_eq, policies, bindings]

theorem effectiveRules_perm (rearranged : Rearranged left right)
    (subject : Subject) :
    (left.effectiveRules subject).Perm (right.effectiveRules subject) := by
  have resolved : left.roleOfBinding = right.roleOfBinding := by
    funext binding
    exact rearranged.roles _
  unfold ClusterGraph.effectiveRules
  rw [resolved]
  exact (rearranged.roleBindings.filter _).flatMap_right _

/-- Findings are the same with their multiplicities. -/
theorem findPrivilegeEscalations_perm (rearranged : Rearranged left right) :
    (findPrivilegeEscalations left).Perm (findPrivilegeEscalations right) := by
  have seen : (seenSubjects left).keys.Perm (seenSubjects right).keys := by
    apply PyDict.keys_firstSeen_perm
    intro subject
    exact (rearranged.roleBindings.flatMap_right _).mem_iff
  apply List.Perm.flatMap seen
  intro subject _
  exact (rearranged.effectiveRules_perm subject).flatMap_right _

end Rearranged

/-! ## Permuted manifests -/

section Permuted

variable [PyRuntime] {manifests permuted : List JsonObject}

/-- No two manifests define a Role, a ClusterRole or a Service of one identity. -/
structure DistinctIdentities (manifests : List JsonObject) : Prop where
  roles : manifests.Pairwise fun first second =>
    ∀ role other, Declares first (.role role) →
      Declares second (.role other) → role.key ≠ other.key
  services : manifests.Pairwise fun first second =>
    ∀ service other, Declares first (.service service) →
      Declares second (.service other) → service.key ≠ other.key

/-- The keys of the roles are distinct, and those of the Services. -/
theorem DistinctIdentities.nodup (distinct : DistinctIdentities manifests) :
    ((manifests.filterMap fun manifest =>
        (resourceOf manifest).role?).map RoleDef.key).Nodup ∧
      ((manifests.filterMap fun manifest =>
        (resourceOf manifest).service?).map ServiceDef.key).Nodup := by
  constructor
  · apply PyDict.nodup_keys_of_pairwise
    simpa only [role?_resourceOf_iff] using distinct.roles
  · apply PyDict.nodup_keys_of_pairwise
    simpa only [service?_resourceOf_iff] using distinct.services

/-- Without repeated definitions, permuted manifests rearrange the graph. -/
theorem rearranged_graphOf (distinct : DistinctIdentities manifests)
    (perm : manifests.Perm permuted) :
    Rearranged (graphOf permuted) (graphOf manifests) := by
  obtain ⟨roles, services⟩ := distinct.nodup
  have resources := (perm.map resourceOf).symm
  constructor
  · intro key
    rw [graphOf_roles, graphOf_roles]
    exact (PyDict.get?_tabulate_perm roles perm).symm
  · exact resources.filterMap _
  · intro key
    rw [graphOf_services, graphOf_services]
    exact (PyDict.get?_tabulate_perm services perm).symm
  · exact resources.flatMap_right _
  · exact resources.filterMap _

/--
Graph analyses do not depend on the order of the manifests, when no two of
them define the same Role, ClusterRole or Service.
-/
theorem analyses_order_independent {graph : ClusterGraph}
    (built : buildGraph manifests = .ok graph)
    (distinct : DistinctIdentities manifests)
    (perm : manifests.Perm permuted) :
    ∃ other, buildGraph permuted = .ok other ∧
      (∀ targetAllowlist,
        discoverExposure other targetAllowlist =
          discoverExposure graph targetAllowlist) ∧
      (∀ targetNamespace targetName subject,
        assessBlastRadius other targetNamespace targetName subject =
          assessBlastRadius graph targetNamespace targetName subject) ∧
      (findPrivilegeEscalations other).Perm
        (findPrivilegeEscalations graph) := by
  obtain ⟨accepted, rfl⟩ := buildGraph_eq_ok_iff.mp built
  have rearranged := rearranged_graphOf distinct perm
  exact ⟨graphOf permuted, buildGraph_eq_ok_iff.mpr ⟨accepted.perm perm, rfl⟩,
    rearranged.discoverExposure_eq, rearranged.assessBlastRadius_eq,
    rearranged.findPrivilegeEscalations_perm⟩

end Permuted

section Example

attribute [local instance] Reference.runtime

/-- The role may come after its binding. -/
theorem escalations_of_swapped :
    ∃ graph other, buildGraph [adminRole, adminBinding "RoleBinding"] =
        .ok graph ∧
      buildGraph [adminBinding "RoleBinding", adminRole] = .ok other ∧
      (findPrivilegeEscalations other).Perm
        (findPrivilegeEscalations graph) := by
  have built : buildGraph [adminRole, adminBinding "RoleBinding"] =
      .ok (graphOf [adminRole, adminBinding "RoleBinding"]) :=
    buildGraph_of_readable rfl
  have noRole : (resourceOf (adminBinding "RoleBinding")).role? = none := rfl
  have noService : (resourceOf adminRole).service? = none := rfl
  have distinct :
      DistinctIdentities [adminRole, adminBinding "RoleBinding"] := by
    constructor
    · rw [List.pairwise_pair]
      intro role other _ isOther
      rw [role?_resourceOf_iff.mpr isOther] at noRole
      cases noRole
    · rw [List.pairwise_pair]
      intro service other isService _
      rw [service?_resourceOf_iff.mpr isService] at noService
      cases noService
  obtain ⟨other, builtOther, -, -, same⟩ :=
    analyses_order_independent built distinct (List.Perm.swap _ _ _)
  exact ⟨_, other, built, builtOther, same⟩

end Example

end ArgosCyberTools.Graph
