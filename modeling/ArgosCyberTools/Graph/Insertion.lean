import ArgosCyberTools.Graph.BlastRadius

/-!
# One more manifest

What a manifest inserted anywhere in a list changes of the graph and of a
blast radius: each collection takes up what the manifest declares, and a
manifest that declares nothing of a kind leaves that collection alone.
-/

namespace ArgosCyberTools.Graph

open Python

section Insertion

variable [PyRuntime] {front back : List JsonObject} {manifest : JsonObject}

omit [PyRuntime] in
theorem mem_insertion_iff {other : JsonObject} :
    other ∈ front ++ manifest :: back ↔
      other = manifest ∨ other ∈ front ++ back := by
  rw [List.perm_middle.mem_iff, List.mem_cons]

/-- Leaving a manifest out keeps a list accepted. -/
theorem Accepted.without (accepted : Accepted (front ++ manifest :: back)) :
    Accepted (front ++ back) := by
  intro other member
  exact accepted other (mem_insertion_iff.mpr (.inr member))

theorem mem_roleBindings_of_insertion {binding : RoleBindingDef}
    (member : binding ∈ (graphOf (front ++ back)).roleBindings) :
    binding ∈ (graphOf (front ++ manifest :: back)).roleBindings := by
  rw [mem_roleBindings_iff] at member ⊢
  obtain ⟨source, isSource, declares⟩ := member
  exact ⟨source, mem_insertion_iff.mpr (.inr isSource), declares⟩

theorem mem_networkPolicies_of_insertion {policy : NetworkPolicyDef}
    (member : policy ∈ (graphOf (front ++ back)).networkPolicies) :
    policy ∈ (graphOf (front ++ manifest :: back)).networkPolicies := by
  rw [mem_networkPolicies_iff] at member ⊢
  obtain ⟨source, isSource, declares⟩ := member
  exact ⟨source, mem_insertion_iff.mpr (.inr isSource), declares⟩

/-- A Service may be defined anew, but it stays. -/
theorem exists_service_of_insertion {key : ServiceKey}
    (held : ∃ service,
      (graphOf (front ++ back)).services.get? key = some service) :
    ∃ service,
      (graphOf (front ++ manifest :: back)).services.get? key =
        some service := by
  rw [exists_service_iff] at held ⊢
  obtain ⟨source, isSource, declared⟩ := held
  exact ⟨source, mem_insertion_iff.mpr (.inr isSource), declared⟩

theorem roleBindings_insertion
    (none : (resourceOf manifest).roleBinding? = none) :
    (graphOf (front ++ manifest :: back)).roleBindings =
      (graphOf (front ++ back)).roleBindings := by
  simp [graphOf, assemble, List.filterMap_append, none]

theorem services_insertion (none : (resourceOf manifest).service? = none) :
    (graphOf (front ++ manifest :: back)).services =
      (graphOf (front ++ back)).services := by
  simp [graphOf, assemble, PyDict.tabulate, List.filterMap_append, none]

theorem networkPolicies_insertion
    (none : (resourceOf manifest).networkPolicy? = none) :
    (graphOf (front ++ manifest :: back)).networkPolicies =
      (graphOf (front ++ back)).networkPolicies := by
  simp [graphOf, assemble, List.filterMap_append, none]

/-- A role slot changes only under a definition of the same identity. -/
theorem roles_get?_insertion {key : RoleKey}
    (elsewhere : ∀ role, Declares manifest (.role role) → role.key ≠ key) :
    (graphOf (front ++ manifest :: back)).roles.get? key =
      (graphOf (front ++ back)).roles.get? key := by
  rw [graphOf_roles, graphOf_roles, PyDict.get?_tabulate_insert]
  intro role declared
  exact elsewhere role (role?_resourceOf_iff.mp declared)

/-! ## NetworkPolicy manifests -/

theorem Accepted.networkPolicy_resourceOf {manifests : List JsonObject}
    (accepted : Accepted manifests) (member : manifest ∈ manifests)
    (isOfKind : IsOfKind "NetworkPolicy" manifest) :
    ∃ policy, resourceOf manifest = .networkPolicy policy := by
  obtain ⟨policy, read⟩ := accepted.exists_networkPolicy member isOfKind
  exact ⟨policy, (Declares.networkPolicy isOfKind read).resourceOf_eq⟩

theorem networkPolicy?_eq_none
    (otherKind : ¬ IsOfKind "NetworkPolicy" manifest) :
    (resourceOf manifest).networkPolicy? = none := by
  rw [Option.eq_none_iff_forall_ne_some]
  intro policy declared
  cases networkPolicy?_resourceOf_iff.mp declared with
  | networkPolicy isOfKind read => exact otherKind isOfKind

end Insertion

/-! ## What is affected -/

section Affected

variable [PyRuntime] {manifests : List JsonObject}
  {targetNamespace targetName : PyStr}

omit [PyRuntime] in
theorem ServiceDef.qualifiedName_of_key {service : ServiceDef}
    {key : ServiceKey} (isKey : service.key = key) :
    service.qualifiedName = key.1 ++ "/" ++ key.2 := by
  rw [← isKey]
  rfl

/-- A sibling is affected unless the namespace is taken for isolated. -/
theorem sibling_mem_affectedServices_iff {sibling : PyStr} :
    targetNamespace ++ "/" ++ sibling ∈
        affectedServices (graphOf manifests) targetNamespace targetName ↔
      namespaceHasDefaultDeny (graphOf manifests) targetNamespace = false ∧
        sibling ≠ targetName ∧
        ∃ service, (graphOf manifests).services.get?
          (targetNamespace, sibling) = some service := by
  rw [mem_affectedServices_iff]
  refine and_congr_right fun _ => ?_
  constructor
  · rintro ⟨⟨place, name⟩, service, held, rfl, different, named⟩
    obtain ⟨isKey, -⟩ := services_get?_iff.mp held
    rw [ServiceDef.qualifiedName_of_key isKey] at named
    have same : name = sibling := List.append_cancel_left named
    subst same
    exact ⟨different, service, held⟩
  · rintro ⟨different, service, held⟩
    obtain ⟨isKey, -⟩ := services_get?_iff.mp held
    exact ⟨_, service, held, rfl, different,
      ServiceDef.qualifiedName_of_key isKey⟩

/-- Each affected Service is the qualified name of a sibling. -/
theorem exists_sibling_of_mem {service : PyStr}
    (affected : service ∈
      affectedServices (graphOf manifests) targetNamespace targetName) :
    ∃ sibling, targetNamespace ++ "/" ++ sibling = service := by
  obtain ⟨-, key, declared, held, rfl, -, rfl⟩ :=
    mem_affectedServices_iff.mp affected
  obtain ⟨isKey, -⟩ := services_get?_iff.mp held
  exact ⟨key.2, (ServiceDef.qualifiedName_of_key isKey).symm⟩

/-- A Service is affected once. -/
theorem nodup_affectedServices :
    (affectedServices (graphOf manifests) targetNamespace
      targetName).Nodup := by
  unfold affectedServices
  split_ifs with isolated
  · exact List.nodup_nil
  · rw [(sorted_perm _).nodup_iff]
    have entries := List.Nodup.of_map Prod.fst (graphOf manifests).services.unique
    refine List.Nodup.map_on ?_ (entries.filter _)
    intro first firstMember second secondMember same
    simp only [List.mem_filter, decide_eq_true_eq] at firstMember secondMember
    obtain ⟨firstHeld, firstPlace, -⟩ := firstMember
    obtain ⟨secondHeld, secondPlace, -⟩ := secondMember
    rw [← PyDict.get?_eq_some_iff] at firstHeld secondHeld
    rw [ServiceDef.qualifiedName_of_key (services_get?_iff.mp firstHeld).1,
      ServiceDef.qualifiedName_of_key (services_get?_iff.mp secondHeld).1,
      firstPlace, secondPlace] at same
    have sameKey : first.1 = second.1 :=
      Prod.ext (firstPlace.trans secondPlace.symm)
        (List.append_cancel_left same)
    rw [sameKey, secondHeld] at firstHeld
    exact Prod.ext sameKey (Option.some.inj firstHeld).symm

/-- What affects more is recommended with no less caution. -/
theorem recommendation_mono {fewer more : List JsonObject} {subject : Subject}
    (services : ∀ service ∈
        affectedServices (graphOf fewer) targetNamespace targetName,
      service ∈ affectedServices (graphOf more) targetNamespace targetName)
    (subjects : ∀ label ∈ affectedSubjects (graphOf fewer) subject,
      label ∈ affectedSubjects (graphOf more) subject) :
    (assessBlastRadius (graphOf fewer) targetNamespace targetName
        subject).recommendation ≤
      (assessBlastRadius (graphOf more) targetNamespace targetName
        subject).recommendation := by
  have serviceCount :=
    (nodup_affectedServices.subperm (services ·)).length_le
  have subjectCount :=
    ((nodup_sortedSet _).subperm (subjects ·)).length_le
  exact recommend_mono (Nat.add_le_add serviceCount subjectCount)

end Affected

end ArgosCyberTools.Graph
