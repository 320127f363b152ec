import ArgosCyberTools.Graph.NetworkRadius

/-!
# The RBAC blast radius

Who shares a role with the compromised subject, told apart from who is bound
to a role of the same kind and name, and which bindings are cited as evidence
for it.
-/

namespace ArgosCyberTools.Graph

open Python

/-! ## Shared roles -/

/-- Two bindings refer to the same role: a Role is one of its namespace. -/
structure SameRole (left right : RoleBindingDef) : Prop where
  kind : left.roleRefKind = right.roleRefKind
  name : left.roleRefName = right.roleRefName
  namespace_ :
    left.roleRefKind = ("Role" : PyStr) → left.namespace_ = right.namespace_

theorem SameRole.roleRef_eq {left right : RoleBindingDef}
    (same : SameRole left right) : left.roleRef = right.roleRef :=
  Prod.ext same.kind same.name

/-- The binding refers to a role that is also bound to the subject. -/
def SharesRole (graph : ClusterGraph) (subject : Subject)
    (binding : RoleBindingDef) : Prop :=
  ∃ held ∈ graph.roleBindings, subject ∈ held.subjects ∧
    SameRole held binding

/-- The other subjects bound to a role of this one. -/
def coHolders (graph : ClusterGraph) (subject : Subject) : Set Subject :=
  {other | other ≠ subject ∧ ∃ binding ∈ graph.roleBindings,
    other ∈ binding.subjects ∧ SharesRole graph subject binding}

/-- The affected subjects are the co-holders, each counted once. -/
def CountsCoHolders (graph : ClusterGraph) (subject : Subject) : Prop :=
  (affectedSubjects graph subject).Nodup ∧
    Set.BijOn subjectLabel (coHolders graph subject)
      {label | label ∈ affectedSubjects graph subject}

/--
No two co-holders are printed alike, and who is bound to a role of the same
kind and name in another namespace is printed like a co-holder.
-/
structure RolesToldApart (graph : ClusterGraph) (subject : Subject) :
    Prop where
  labels : Set.InjOn subjectLabel (coHolders graph subject)
  namesakes : ∀ held ∈ graph.roleBindings, subject ∈ held.subjects →
    ∀ binding ∈ graph.roleBindings, held.roleRef = binding.roleRef →
      ¬ SameRole held binding →
      ∀ other ∈ binding.subjects, other ≠ subject →
        ∃ holder ∈ coHolders graph subject,
          subjectLabel holder = subjectLabel other

section CoHolders

variable {graph : ClusterGraph} {subject other : Subject}

/-- Every co-holder is counted under its label. -/
theorem label_mem_affectedSubjects (holder : other ∈ coHolders graph subject) :
    subjectLabel other ∈ affectedSubjects graph subject := by
  obtain ⟨different, binding, isBinding, listed, held, isHeld, holds, same⟩ :=
    holder
  exact mem_affectedSubjects_iff.mpr ⟨held, isHeld, binding, isBinding, holds,
    same.roleRef_eq, other, listed, different, rfl⟩

/--
The RBAC blast radius counts every co-holder once and nobody else exactly when
labels tell co-holders apart and namesakes of a role add nobody.
-/
theorem countsCoHolders_iff (graph : ClusterGraph) (subject : Subject) :
    CountsCoHolders graph subject ↔ RolesToldApart graph subject := by
  constructor
  · rintro ⟨-, -, labels, covered⟩
    refine ⟨labels, ?_⟩
    intro held isHeld holds binding isBinding same _ other listed different
    exact covered (mem_affectedSubjects_iff.mpr ⟨held, isHeld, binding,
      isBinding, holds, same, other, listed, different, rfl⟩)
  · intro apart
    refine ⟨nodup_sortedSet _, ?_, apart.labels, ?_⟩
    · intro other holder
      exact label_mem_affectedSubjects holder
    · intro label affected
      obtain ⟨held, isHeld, binding, isBinding, holds, same, other, listed,
        different, rfl⟩ := mem_affectedSubjects_iff.mp affected
      by_cases sameRole : SameRole held binding
      · exact ⟨other, ⟨different, binding, isBinding, listed, held, isHeld,
          holds, sameRole⟩, rfl⟩
      · exact apart.namesakes held isHeld holds binding isBinding same sameRole
          other listed different

end CoHolders

/-! ## Evidence -/

/-- What the references of an assessment have to cover. -/
structure EvidenceCited (graph : ClusterGraph)
    (targetNamespace targetName : PyStr) (subject : Subject)
    (assessment : BlastRadiusAssessment) : Prop where
  subjects : ∀ label ∈ assessment.affectedSubjects,
    ∃ binding ∈ graph.roleBindings,
      (∃ listed ∈ binding.subjects, subjectLabel listed = label) ∧
      SharesRole graph subject binding ∧
      roleBindingRef binding ∈ assessment.evidenceRefs
  services : assessment.affectedServices = [] →
    (∃ sibling service, sibling ≠ targetName ∧
      graph.services.get? (targetNamespace, sibling) = some service) →
    ∃ policy ∈ graph.networkPolicies, policy.namespace_ = targetNamespace ∧
      policy.isDefaultDeny = true ∧
      networkPolicyRef policy ∈ assessment.evidenceRefs

/--
Who is bound to a role of the same kind and name as one of the subject's is
printed like somebody that a binding to a role of the subject lists, one with
the reference of a binding that lists the subject itself.
-/
def ListedTogether (graph : ClusterGraph) (subject : Subject) : Prop :=
  ∀ held ∈ graph.roleBindings, subject ∈ held.subjects →
    ∀ shared ∈ graph.roleBindings, held.roleRef = shared.roleRef →
      ∀ other ∈ shared.subjects, other ≠ subject →
        ∃ binding ∈ graph.roleBindings,
          (∃ listed ∈ binding.subjects,
            subjectLabel listed = subjectLabel other) ∧
          SharesRole graph subject binding ∧
          ∃ cited ∈ graph.roleBindings, subject ∈ cited.subjects ∧
            roleBindingRef cited = roleBindingRef binding

/-- Isolation is always backed by a policy that is cited. -/
theorem isolation_cited {graph : ClusterGraph}
    {targetNamespace targetName : PyStr}
    (none : affectedServices graph targetNamespace targetName = [])
    (siblings : ∃ sibling service, sibling ≠ targetName ∧
      graph.services.get? (targetNamespace, sibling) = some service) :
    ∃ policy ∈ graph.networkPolicies, policy.namespace_ = targetNamespace ∧
      policy.isDefaultDeny = true ∧
      networkPolicyRef policy ∈ networkPolicyRefs graph targetNamespace := by
  obtain ⟨sibling, service, different, held⟩ := siblings
  have isolated : namespaceHasDefaultDeny graph targetNamespace = true := by
    by_contra notIsolated
    have affected : service.qualifiedName ∈
        affectedServices graph targetNamespace targetName :=
      mem_affectedServices_iff.mpr ⟨Bool.eq_false_iff.mpr notIsolated,
        (targetNamespace, sibling), service, held, rfl, different, rfl⟩
    rw [none] at affected
    cases affected
  obtain ⟨policy, isPolicy, place, isDefaultDeny⟩ :=
    namespaceHasDefaultDeny_iff.mp isolated
  exact ⟨policy, isPolicy, place, isDefaultDeny,
    mem_networkPolicyRefs_iff.mpr ⟨policy, isPolicy, place, rfl⟩⟩

section Reading

variable [PyRuntime] {manifests : List JsonObject}

/-- The reference of a binding is not that of a policy. -/
theorem roleBindingRef_not_mem_networkPolicyRefs {binding : RoleBindingDef}
    (member : binding ∈ (graphOf manifests).roleBindings)
    (namespace_ : PyStr) :
    roleBindingRef binding ∉
      networkPolicyRefs (graphOf manifests) namespace_ := by
  rw [mem_networkPolicyRefs_iff]
  rintro ⟨policy, -, -, same⟩
  obtain ⟨manifest, -, declares⟩ := mem_roleBindings_iff.mp member
  have heads := congrArg List.head? same
  rcases declares.binding_scope with ⟨kind, -⟩ | ⟨kind, -⟩
  · rw [roleBindingRef, kind] at heads
    cases heads
  · rw [roleBindingRef, kind] at heads
    cases heads

/--
Every collateral subject is backed by a cited binding exactly when it is
printed like one that is listed together with the compromised subject.
-/
theorem evidenceCited_iff {graph : ClusterGraph}
    (built : buildGraph manifests = .ok graph)
    (targetNamespace targetName : PyStr) (subject : Subject) :
    EvidenceCited graph targetNamespace targetName subject
        (assessBlastRadius graph targetNamespace targetName subject) ↔
      ListedTogether graph subject := by
  obtain ⟨-, rfl⟩ := buildGraph_eq_ok_iff.mp built
  constructor
  · intro cited held isHeld holds shared isShared same other listed different
    have affected := mem_affectedSubjects_iff.mpr ⟨held, isHeld, shared,
      isShared, holds, same, other, listed, different, rfl⟩
    obtain ⟨binding, isBinding, printed, shares, inRefs⟩ :=
      cited.subjects _ affected
    refine ⟨binding, isBinding, printed, shares, ?_⟩
    apply mem_roleBindingRefs_iff.mp
    rcases List.mem_append.mp inRefs with ofPolicy | ofBinding
    · exact absurd ofPolicy
        (roleBindingRef_not_mem_networkPolicyRefs isBinding _)
    · exact ofBinding
  · intro together
    constructor
    · intro label affected
      obtain ⟨held, isHeld, shared, isShared, holds, same, other, listed,
        different, rfl⟩ := mem_affectedSubjects_iff.mp affected
      obtain ⟨binding, isBinding, printed, shares, cited⟩ :=
        together held isHeld holds shared isShared same other listed different
      refine ⟨binding, isBinding, printed, shares, ?_⟩
      exact List.mem_append_right _ (mem_roleBindingRefs_iff.mpr cited)
    · intro none siblings
      obtain ⟨policy, isPolicy, place, isDefaultDeny, cited⟩ :=
        isolation_cited none siblings
      exact ⟨policy, isPolicy, place, isDefaultDeny,
        List.mem_append_left _ cited⟩

end Reading

section Example

attribute [local instance] Reference.runtime

/-- A subject of kind `User`. -/
def user (name : PyStr) : Subject := ⟨"User", name, none⟩

/-- A binding of this namespace that binds users to the Role `reader`. -/
def readerBinding (namespace_ name : PyStr) (users : List PyStr) : JsonObject :=
  PyDict.ofList
    [("kind", .str "RoleBinding"),
      ("metadata",
        .dict [("name", .str name), ("namespace", .str namespace_)]),
      ("roleRef", .dict [("kind", .str "Role"), ("name", .str "reader")]),
      ("subjects", .list (users.map fun name =>
        .dict [("kind", .str "User"), ("name", .str name)]))]

/-- What such a manifest declares. -/
def readerBound (namespace_ name : PyStr) (users : List PyStr) :
    RoleBindingDef :=
  ⟨"RoleBinding", name, some namespace_, "Role", "reader", users.map user⟩

def evesBinding : JsonObject := readerBinding "shop" "eves" ["eve"]

/-- The Role of this one is another, in another namespace. -/
def mallorysBinding : JsonObject := readerBinding "bank" "mallorys" ["mallory"]

/-- The Role of this one is the same. -/
def bobsBinding : JsonObject := readerBinding "shop" "bobs" ["bob"]

def sharedBinding : JsonObject := readerBinding "shop" "shared" ["eve", "bob"]

/-- Who holds a Role of the same name in another namespace is counted. -/
theorem namesake_role_counted :
    ∃ graph, buildGraph [evesBinding, mallorysBinding] = .ok graph ∧
      ¬ CountsCoHolders graph (user "eve") := by
  refine ⟨graphOf [evesBinding, mallorysBinding],
    buildGraph_of_readable rfl, ?_⟩
  have affected : ("mallory" : PyStr) ∈
      affectedSubjects (graphOf [evesBinding, mallorysBinding]) (user "eve") := by
    decide +kernel
  have bindings : (graphOf [evesBinding, mallorysBinding]).roleBindings =
      [readerBound "shop" "eves" ["eve"],
        readerBound "bank" "mallorys" ["mallory"]] := by
    decide +kernel
  rintro ⟨-, -, -, covered⟩
  obtain ⟨holder, ⟨-, binding, isBinding, listed, held, isHeld, holds, same⟩,
    labelled⟩ := covered affected
  rw [bindings, List.mem_pair] at isBinding isHeld
  rcases isHeld with rfl | rfl
  · rcases isBinding with rfl | rfl
    · rw [List.mem_singleton.mp listed] at labelled
      exact absurd labelled (by decide)
    · exact absurd (same.namespace_ rfl) (by decide)
  · exact absurd holds (by decide)

/-- A binding that makes somebody collateral is not cited. -/
theorem collateral_without_evidence :
    ∃ graph, buildGraph [evesBinding, bobsBinding] = .ok graph ∧
      ¬ EvidenceCited graph "shop" "web" (user "eve")
        (assessBlastRadius graph "shop" "web" (user "eve")) := by
  refine ⟨graphOf [evesBinding, bobsBinding], buildGraph_of_readable rfl, ?_⟩
  have affected : ("bob" : PyStr) ∈
      affectedSubjects (graphOf [evesBinding, bobsBinding]) (user "eve") := by
    decide +kernel
  have bindings : (graphOf [evesBinding, bobsBinding]).roleBindings =
      [readerBound "shop" "eves" ["eve"], readerBound "shop" "bobs" ["bob"]] := by
    decide +kernel
  have uncited : roleBindingRef (readerBound "shop" "bobs" ["bob"]) ∉
      (assessBlastRadius (graphOf [evesBinding, bobsBinding]) "shop" "web"
        (user "eve")).evidenceRefs := by
    decide +kernel
  intro cited
  obtain ⟨binding, isBinding, ⟨listed, isListed, labelled⟩, -, inRefs⟩ :=
    cited.subjects _ affected
  rw [bindings, List.mem_pair] at isBinding
  rcases isBinding with rfl | rfl
  · rw [List.mem_singleton.mp isListed] at labelled
    exact absurd labelled (by decide)
  · exact uncited inRefs

/-- With one binding for both, it is. -/
theorem evidenceCited_of_shared :
    ∃ graph, buildGraph [sharedBinding] = .ok graph ∧
      EvidenceCited graph "shop" "web" (user "eve")
        (assessBlastRadius graph "shop" "web" (user "eve")) := by
  have built : buildGraph [sharedBinding] =
      .ok (graphOf [sharedBinding]) :=
    buildGraph_of_readable rfl
  refine ⟨_, built, (evidenceCited_iff built _ _ _).mpr ?_⟩
  have bindings : (graphOf [sharedBinding]).roleBindings =
      [readerBound "shop" "shared" ["eve", "bob"]] := by
    decide +kernel
  intro held isHeld holds shared isShared same other listed different
  have oneBinding : held = shared := by
    rw [bindings, List.mem_singleton] at isHeld isShared
    exact isHeld.trans isShared.symm
  subst oneBinding
  exact ⟨held, isHeld, ⟨other, listed, rfl⟩,
    ⟨held, isHeld, holds, rfl, rfl, fun _ => rfl⟩, held, isHeld, holds, rfl⟩

end Example

end ArgosCyberTools.Graph
