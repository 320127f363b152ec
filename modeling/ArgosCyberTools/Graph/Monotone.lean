import ArgosCyberTools.Graph.PrivilegeReach

/-!
# More exposure never looks safer

A manifest inserted anywhere in a list adds to what is affected and to what is
reported, unless it is a NetworkPolicy, which only takes away siblings.
-/

namespace ArgosCyberTools.Graph

open Python

/-- The second assessment affects all that the first does, and warns no less. -/
structure NoSafer (before after : BlastRadiusAssessment) : Prop where
  recommendation : before.recommendation ≤ after.recommendation
  services : ∀ service ∈ before.affectedServices,
    service ∈ after.affectedServices
  subjects : ∀ label ∈ before.affectedSubjects, label ∈ after.affectedSubjects

/-- It affects the same subjects, and warns no more. -/
structure NoRiskier (before after : BlastRadiusAssessment) : Prop where
  recommendation : after.recommendation ≤ before.recommendation
  subjects : after.affectedSubjects = before.affectedSubjects

section Insertion

variable [PyRuntime] {front back : List JsonObject} {manifest : JsonObject}

/-- The manifest defines no Role or ClusterRole that the list defines. -/
def RedefinesNoRole (manifest : JsonObject) (manifests : List JsonObject) :
    Prop :=
  ∀ role, Declares manifest (.role role) →
    ∀ other ∈ manifests, ∀ old, Declares other (.role old) →
      role.key ≠ old.key

/-! ## Blast radius -/

theorem affectedSubjects_insertion {subject : Subject} {label : PyStr}
    (affected : label ∈ affectedSubjects (graphOf (front ++ back)) subject) :
    label ∈
      affectedSubjects (graphOf (front ++ manifest :: back)) subject := by
  rw [mem_affectedSubjects_iff] at affected ⊢
  obtain ⟨held, isHeld, binding, isBinding, shared⟩ := affected
  exact ⟨held, mem_roleBindings_of_insertion isHeld, binding,
    mem_roleBindings_of_insertion isBinding, shared⟩

variable {targetNamespace targetName : PyStr}

/-- A sibling stays affected by whatever is no policy. -/
theorem affectedServices_insertion
    (otherKind : ¬ IsOfKind "NetworkPolicy" manifest) {service : PyStr}
    (affected : service ∈
      affectedServices (graphOf (front ++ back)) targetNamespace targetName) :
    service ∈ affectedServices (graphOf (front ++ manifest :: back))
      targetNamespace targetName := by
  obtain ⟨sibling, rfl⟩ := exists_sibling_of_mem affected
  rw [sibling_mem_affectedServices_iff] at affected ⊢
  obtain ⟨notIsolated, different, present⟩ := affected
  refine ⟨?_, different, exists_service_of_insertion present⟩
  rw [namespaceHasDefaultDeny,
    networkPolicies_insertion (networkPolicy?_eq_none otherKind)]
  exact notIsolated

theorem noSafer_of_insertion
    (otherKind : ¬ IsOfKind "NetworkPolicy" manifest) (subject : Subject) :
    NoSafer
      (assessBlastRadius (graphOf (front ++ back)) targetNamespace targetName
        subject)
      (assessBlastRadius (graphOf (front ++ manifest :: back)) targetNamespace
        targetName subject) where
  recommendation := recommendation_mono
    (fun _ => affectedServices_insertion otherKind)
    (fun _ => affectedSubjects_insertion)
  services := fun _ => affectedServices_insertion otherKind
  subjects := fun _ => affectedSubjects_insertion

/-- A policy declares nothing else. -/
theorem insertion_of_networkPolicy
    (accepted : Accepted (front ++ manifest :: back))
    (isOfKind : IsOfKind "NetworkPolicy" manifest) :
    (graphOf (front ++ manifest :: back)).services =
        (graphOf (front ++ back)).services ∧
      (graphOf (front ++ manifest :: back)).roleBindings =
        (graphOf (front ++ back)).roleBindings := by
  obtain ⟨policy, declared⟩ :=
    accepted.networkPolicy_resourceOf (by simp) isOfKind
  exact ⟨services_insertion (by rw [declared]; rfl),
    roleBindings_insertion (by rw [declared]; rfl)⟩

/-- A policy can only isolate siblings. -/
theorem affectedServices_of_networkPolicy
    (accepted : Accepted (front ++ manifest :: back))
    (isOfKind : IsOfKind "NetworkPolicy" manifest) {service : PyStr}
    (affected : service ∈ affectedServices (graphOf (front ++ manifest :: back))
      targetNamespace targetName) :
    service ∈
      affectedServices (graphOf (front ++ back)) targetNamespace
        targetName := by
  obtain ⟨services, -⟩ := insertion_of_networkPolicy accepted isOfKind
  rw [mem_affectedServices_iff, services] at affected
  obtain ⟨notIsolated, present⟩ := affected
  refine mem_affectedServices_iff.mpr ⟨?_, present⟩
  by_contra isolated
  rw [Bool.not_eq_false, namespaceHasDefaultDeny_iff] at isolated
  obtain ⟨policy, isPolicy, place, isDefaultDeny⟩ := isolated
  have stillIsolated := namespaceHasDefaultDeny_iff.mpr ⟨policy,
    @mem_networkPolicies_of_insertion _ _ _ manifest _ isPolicy, place,
    isDefaultDeny⟩
  rw [stillIsolated] at notIsolated
  cases notIsolated

theorem noRiskier_of_insertion
    (accepted : Accepted (front ++ manifest :: back))
    (isOfKind : IsOfKind "NetworkPolicy" manifest) (subject : Subject) :
    NoRiskier
      (assessBlastRadius (graphOf (front ++ back)) targetNamespace targetName
        subject)
      (assessBlastRadius (graphOf (front ++ manifest :: back)) targetNamespace
        targetName subject) := by
  obtain ⟨-, bindings⟩ := insertion_of_networkPolicy accepted isOfKind
  have subjects :
      affectedSubjects (graphOf (front ++ manifest :: back)) subject =
        affectedSubjects (graphOf (front ++ back)) subject := by
    rw [affectedSubjects, bindings]
    rfl
  constructor
  · apply recommendation_mono
    · intro service
      exact affectedServices_of_networkPolicy accepted isOfKind
    · intro label
      rw [subjects]
      exact id
  · exact subjects

/-! ## Escalation -/

/-- A role that is not redefined stays the last definition. -/
theorem LastRole.insertion (fresh : RedefinesNoRole manifest (front ++ back))
    {role : RoleDef} (last : LastRole (front ++ back) role) :
    LastRole (front ++ manifest :: back) role := by
  have held := roles_get?_iff.mpr ⟨rfl, last⟩
  obtain ⟨first, source, rest, split, isDefined, -⟩ := last
  have member : source ∈ front ++ back := by
    rw [split]
    simp
  rw [← @roles_get?_insertion _ front back manifest _ fun added isAdded =>
    fresh added isAdded source member role isDefined] at held
  exact (roles_get?_iff.mp held).2

theorem Reaches.insertion (fresh : RedefinesNoRole manifest (front ++ back))
    {subject : Subject} {rule : PolicyRule}
    (reaches : Reaches (front ++ back) subject rule) :
    Reaches (front ++ manifest :: back) subject rule := by
  obtain ⟨source, member, binding, declares, listed, role, resolves, inRole⟩ :=
    reaches
  exact ⟨source, mem_insertion_iff.mpr (.inr member), binding, declares,
    listed, role, { resolves with last := resolves.last.insertion fresh },
    inRole⟩

/--
More exposure never looks safer: whatever is no NetworkPolicy only adds to a
blast radius, a NetworkPolicy only takes away, and without a redefinition of a
role no escalation finding is lost.
-/
theorem more_exposure_never_safer {after : ClusterGraph}
    (built : buildGraph (front ++ manifest :: back) = .ok after) :
    ∃ before, buildGraph (front ++ back) = .ok before ∧
      (∀ targetNamespace targetName subject,
        (¬ IsOfKind "NetworkPolicy" manifest →
          NoSafer
            (assessBlastRadius before targetNamespace targetName subject)
            (assessBlastRadius after targetNamespace targetName subject)) ∧
        (IsOfKind "NetworkPolicy" manifest →
          NoRiskier
            (assessBlastRadius before targetNamespace targetName subject)
            (assessBlastRadius after targetNamespace targetName subject))) ∧
      (RedefinesNoRole manifest (front ++ back) →
        ∀ finding ∈ findPrivilegeEscalations before,
          finding ∈ findPrivilegeEscalations after) := by
  obtain ⟨accepted, rfl⟩ := buildGraph_eq_ok_iff.mp built
  refine ⟨graphOf (front ++ back),
    buildGraph_eq_ok_iff.mpr ⟨accepted.without, rfl⟩, ?_, ?_⟩
  · intro targetNamespace targetName subject
    constructor
    · intro otherKind
      exact noSafer_of_insertion otherKind subject
    · intro isOfKind
      exact noRiskier_of_insertion accepted isOfKind subject
  · intro fresh finding member
    rw [mem_escalations_iff] at member ⊢
    obtain ⟨subject, rule, reaches, found⟩ := member
    exact ⟨subject, rule, reaches.insertion fresh, found⟩

end Insertion

section Example

attribute [local instance] Reference.runtime

/-- A second administrator binding keeps what the first gave. -/
theorem more_exposure_of_binding :
    ∃ after, buildGraph (adminGroup ++ [adminBinding "RoleBinding"]) =
        .ok after ∧
      ∃ before, buildGraph adminGroup = .ok before ∧
        ∀ finding ∈ findPrivilegeEscalations before,
          finding ∈ findPrivilegeEscalations after := by
  have built : buildGraph (adminGroup ++ [adminBinding "RoleBinding"]) =
      .ok (graphOf (adminGroup ++ [adminBinding "RoleBinding"])) :=
    buildGraph_of_readable rfl
  obtain ⟨before, builtBefore, -, kept⟩ :=
    more_exposure_never_safer built
  rw [List.append_nil] at builtBefore
  refine ⟨_, built, before, builtBefore, kept ?_⟩
  intro role declares
  have noRole : (resourceOf (adminBinding "RoleBinding")).role? = none := rfl
  rw [role?_resourceOf_iff.mpr declares] at noRole
  cases noRole

end Example

end ArgosCyberTools.Graph
