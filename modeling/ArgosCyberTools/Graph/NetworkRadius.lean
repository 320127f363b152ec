import ArgosCyberTools.Graph.Exposure
import ArgosCyberTools.Graph.Insertion

/-!
# The network blast radius

Siblings are left out of a blast radius when some policy of the namespace
denies all traffic in a direction, whichever pods it selects.  That is
justified by a policy that selects every pod, and by no other.
-/

namespace ArgosCyberTools.Graph

open Python

/-! ## Policies as manifests -/

/-- The pod selector has neither labels nor expressions. -/
def SelectsEveryPod (manifest : JsonObject) : Prop :=
  isTruthy (manifestAt manifest ["spec", "podSelector", "matchLabels"]) =
      false ∧
    isTruthy (manifestAt manifest ["spec", "podSelector", "matchExpressions"]) =
      false

/-- `direction in policyTypes`. -/
def ListsDirection (direction : PyStr) (manifest : JsonObject) : Prop :=
  ∃ policyTypes, manifestAt manifest ["spec", "policyTypes"] =
      some policyTypes ∧
    policyTypes.holds direction = .ok true

/-- The direction is listed and has no rules. -/
def DeniesDirection (direction rules : PyStr) (manifest : JsonObject) : Prop :=
  ListsDirection direction manifest ∧
    isTruthy (manifestAt manifest ["spec", rules]) = false

/-- All ingress or all egress of the selected pods is denied. -/
def DeniesTraffic (manifest : JsonObject) : Prop :=
  DeniesDirection "Ingress" "ingress" manifest ∨
    DeniesDirection "Egress" "egress" manifest

/-- A NetworkPolicy of the namespace that isolates the pods it selects. -/
structure Isolates (namespace_ : PyStr) (manifest : JsonObject) : Prop where
  isOfKind : IsOfKind "NetworkPolicy" manifest
  livesIn : LivesIn namespace_ manifest
  denies : DeniesTraffic manifest

section Reading

/-- The test of one direction. -/
theorem deniesDirection_eq_ok_iff {manifest : JsonObject}
    {policyTypes : Json} {direction rules : PyStr} {denied : Bool}
    (types : getKeyOr (manifestKeyOr manifest "spec" (.dict [])) "policyTypes"
      (.list []) = .ok policyTypes)
    (read : deniesDirection (manifestKeyOr manifest "spec" (.dict []))
      policyTypes direction rules = .ok denied) :
    denied = true ↔ DeniesDirection direction rules manifest := by
  simp only [getKeyOr, bind_eq_ok_iff, pure_eq_ok_iff] at types
  obtain ⟨given, isGiven, rfl⟩ := types
  simp only [deniesDirection, holdsKey, bind_eq_ok_iff,
    mapError_eq_ok_iff] at read
  obtain ⟨listed, isListed, read⟩ := read
  have lists : listed = true ↔ ListsDirection direction manifest := by
    rw [ListsDirection, manifestAt_eq, valueAt_of_getKey isGiven]
    cases given with
    | none =>
        cases isListed
        simp
    | some value =>
        have here : value.holds direction = .ok listed := isListed
        simp [valueAt, here]
  rw [DeniesDirection, ← lists]
  split_ifs at read with isTrue
  · simp only [bind_eq_ok_iff, pure_eq_ok_iff] at read
    obtain ⟨allowed, isAllowed, rfl⟩ := read
    rw [manifestAt_eq, valueAt_of_getKey isAllowed]
    cases allowed <;> simp [isTrue, valueAt]
  · cases read
    simp [isTrue]

variable [PyRuntime] {manifest : JsonObject} {policy : NetworkPolicyDef}

/-- What a policy keeps of its manifest: nothing that tells whom it selects. -/
theorem networkPolicyOf_facts (read : networkPolicyOf manifest = .ok policy) :
    LivesIn policy.namespace_ manifest ∧
      (policy.isDefaultDeny = true ↔ DeniesTraffic manifest) := by
  simp only [networkPolicyOf, bind_eq_ok_iff] at read
  obtain ⟨⟨name, namespace_⟩, named, _, -, _, -, policyTypes, types,
    ingressDenied, ingress, read⟩ := read
  have livesIn := namespacedName_livesIn named
  have byIngress := deniesDirection_eq_ok_iff types ingress
  split_ifs at read with denied
  · cases read
    refine ⟨livesIn, ?_⟩
    simp [DeniesTraffic, byIngress.mp denied]
  · obtain ⟨isDefaultDeny, egress, equal⟩ := bind_eq_ok_iff.mp read
    cases equal
    refine ⟨livesIn, ?_⟩
    have byEgress := deniesDirection_eq_ok_iff types egress
    have noIngress : ¬ DeniesDirection "Ingress" "ingress" manifest :=
      fun denies => denied (byIngress.mpr denies)
    rw [DeniesTraffic, or_iff_right noIngress]
    exact byEgress

end Reading

section Isolation

variable [PyRuntime] {manifests : List JsonObject} {targetNamespace : PyStr}

/-- What the code takes for isolation: the selector does not matter. -/
theorem namespaceHasDefaultDeny_graphOf_iff (accepted : Accepted manifests) :
    namespaceHasDefaultDeny (graphOf manifests) targetNamespace = true ↔
      ∃ manifest ∈ manifests, Isolates targetNamespace manifest := by
  simp only [namespaceHasDefaultDeny_iff, mem_networkPolicies_iff]
  constructor
  · rintro ⟨policy, ⟨manifest, member, declares⟩, rfl, isDefaultDeny⟩
    cases declares with
    | networkPolicy isOfKind read =>
        obtain ⟨livesIn, flag⟩ := networkPolicyOf_facts read
        exact ⟨manifest, member, isOfKind, livesIn, flag.mp isDefaultDeny⟩
  · rintro ⟨manifest, member, isolates⟩
    obtain ⟨policy, read⟩ :=
      accepted.exists_networkPolicy member isolates.isOfKind
    obtain ⟨livesIn, flag⟩ := networkPolicyOf_facts read
    refine ⟨policy, ⟨manifest, member, .networkPolicy isolates.isOfKind read⟩,
      ?_, flag.mpr isolates.denies⟩
    rw [LivesIn, isolates.livesIn] at livesIn
    cases livesIn
    rfl

/-- `sibling` names another Service of the namespace. -/
def IsSibling (manifests : List JsonObject)
    (targetNamespace targetName sibling : PyStr) : Prop :=
  sibling ≠ targetName ∧
    (targetNamespace, sibling) ∈ serviceIdentities manifests

/-- The namespace is isolated by a policy that selects every pod. -/
def WhollyIsolated (manifests : List JsonObject) (targetNamespace : PyStr) :
    Prop :=
  ∃ manifest ∈ manifests, Isolates targetNamespace manifest ∧
    SelectsEveryPod manifest

/--
A sibling is missing only from a wholly isolated namespace, and a policy that
selects some pods removes no Service and makes nothing look safer.
-/
structure NeverUnderReported (manifests : List JsonObject)
    (graph : ClusterGraph) (targetNamespace targetName : PyStr) : Prop where
  missing : ∀ sibling,
    IsSibling manifests targetNamespace targetName sibling →
    targetNamespace ++ "/" ++ sibling ∉
      affectedServices graph targetNamespace targetName →
    WhollyIsolated manifests targetNamespace
  selective : ∀ front policy back without,
    manifests = front ++ policy :: back →
    IsOfKind "NetworkPolicy" policy → ¬ SelectsEveryPod policy →
    buildGraph (front ++ back) = .ok without →
    (∀ service ∈ affectedServices without targetNamespace targetName,
      service ∈ affectedServices graph targetNamespace targetName) ∧
    ∀ subject,
      (assessBlastRadius without targetNamespace targetName
          subject).recommendation ≤
        (assessBlastRadius graph targetNamespace targetName
          subject).recommendation

/-- Where there are siblings, isolation of some pods comes with that of all. -/
def IsolationCovered (manifests : List JsonObject)
    (targetNamespace targetName : PyStr) : Prop :=
  (∃ sibling, IsSibling manifests targetNamespace targetName sibling) →
    (∃ manifest ∈ manifests, Isolates targetNamespace manifest) →
      WhollyIsolated manifests targetNamespace

variable {targetName : PyStr}

/-- A sibling is missing exactly when some policy of the namespace isolates. -/
theorem sibling_not_mem_iff (accepted : Accepted manifests) {sibling : PyStr}
    (isSibling : IsSibling manifests targetNamespace targetName sibling) :
    targetNamespace ++ "/" ++ sibling ∉
        affectedServices (graphOf manifests) targetNamespace targetName ↔
      ∃ manifest ∈ manifests, Isolates targetNamespace manifest := by
  have inGraph := exists_service_iff.mpr
    (mem_serviceIdentities_iff.mp isSibling.2)
  rw [sibling_mem_affectedServices_iff,
    ← namespaceHasDefaultDeny_graphOf_iff accepted]
  simp [isSibling.1, inGraph]

/-- Without siblings, and in a wholly isolated namespace, a list stays empty. -/
theorem affectedServices_without {front back : List JsonObject}
    {policy : JsonObject} (accepted : Accepted (front ++ policy :: back))
    (isOfKind : IsOfKind "NetworkPolicy" policy)
    (selective : ¬ SelectsEveryPod policy)
    (covered : IsolationCovered (front ++ policy :: back) targetNamespace
      targetName) {service : PyStr}
    (affected : service ∈
      affectedServices (graphOf (front ++ back)) targetNamespace targetName) :
    service ∈ affectedServices (graphOf (front ++ policy :: back))
      targetNamespace targetName := by
  obtain ⟨sibling, rfl⟩ := exists_sibling_of_mem affected
  have present := sibling_mem_affectedServices_iff.mp affected
  obtain ⟨notIsolated, different, inGraph⟩ := present
  have isSibling : IsSibling (front ++ policy :: back) targetNamespace
      targetName sibling :=
    ⟨different, mem_serviceIdentities_iff.mpr
      (exists_service_iff.mp (exists_service_of_insertion inGraph))⟩
  by_contra missing
  obtain ⟨manifest, member, isolates, wholly⟩ :=
    covered ⟨sibling, isSibling⟩ ((sibling_not_mem_iff accepted isSibling).mp
      missing)
  -- the policy that selects every pod is another one, so it was there before
  have before : manifest ∈ front ++ back := by
    rcases mem_insertion_iff.mp member with rfl | before
    · exact absurd wholly selective
    · exact before
  have isolated := (namespaceHasDefaultDeny_graphOf_iff accepted.without).mpr
    ⟨manifest, before, isolates⟩
  rw [isolated] at notIsolated
  cases notIsolated

/--
The network blast radius is never under-reported exactly when a namespace with
siblings that some policy isolates is isolated by one that selects every pod.
-/
theorem neverUnderReported_iff {graph : ClusterGraph}
    (built : buildGraph manifests = .ok graph) :
    NeverUnderReported manifests graph targetNamespace targetName ↔
      IsolationCovered manifests targetNamespace targetName := by
  obtain ⟨accepted, rfl⟩ := buildGraph_eq_ok_iff.mp built
  constructor
  · rintro reported ⟨sibling, isSibling⟩ isolated
    exact reported.missing sibling isSibling
      ((sibling_not_mem_iff accepted isSibling).mpr isolated)
  · intro covered
    constructor
    · intro sibling isSibling missing
      exact covered ⟨sibling, isSibling⟩
        ((sibling_not_mem_iff accepted isSibling).mp missing)
    · rintro front policy back without rfl isOfKind selective builtWithout
      obtain ⟨-, rfl⟩ := buildGraph_eq_ok_iff.mp builtWithout
      have kept : ∀ service ∈ affectedServices (graphOf (front ++ back))
            targetNamespace targetName,
          service ∈ affectedServices (graphOf (front ++ policy :: back))
            targetNamespace targetName := fun service affected =>
        affectedServices_without accepted isOfKind selective covered affected
      refine ⟨kept, fun subject => recommendation_mono kept ?_⟩
      obtain ⟨declared, isDeclared⟩ :=
        accepted.networkPolicy_resourceOf (by simp) isOfKind
      have sameBindings := @roleBindings_insertion _ front back policy
        (by rw [isDeclared]; rfl)
      simp only [affectedSubjects, sameBindings, imp_self, implies_true]

end Isolation

section Example

attribute [local instance] Reference.runtime

def cartService : JsonObject :=
  shopManifest "Service" "cart" [("type", .str "ClusterIP")]

/-- A policy that denies all ingress to the pods it selects. -/
def denyIngress (podSelector : List (PyStr × Json)) : JsonObject :=
  shopManifest "NetworkPolicy" "deny"
    [("podSelector", .dict podSelector), ("policyTypes", .list [.str "Ingress"])]

/-- It selects the pods of one label. -/
def denyIngressToVault : JsonObject :=
  denyIngress [("matchLabels", .dict [("app", .str "vault")])]

/-- A policy for some other pods makes the sibling disappear. -/
theorem selective_policy_hides_sibling :
    ∃ graph, buildGraph [webService, cartService, denyIngressToVault] =
        .ok graph ∧
      ¬ NeverUnderReported [webService, cartService, denyIngressToVault] graph
        "shop" "web" := by
  refine ⟨graphOf [webService, cartService, denyIngressToVault],
    buildGraph_of_readable rfl, ?_⟩
  have isSibling : IsSibling [webService, cartService, denyIngressToVault]
      "shop" "web" "cart" := by
    constructor <;> decide +kernel
  have missing : affectedServices
      (graphOf [webService, cartService, denyIngressToVault]) "shop" "web" =
        [] := by
    decide +kernel
  intro reported
  obtain ⟨manifest, member, isolates, everyPod, -⟩ :=
    reported.missing "cart" isSibling (by rw [missing]; exact List.not_mem_nil)
  simp only [List.mem_cons, List.not_mem_nil, or_false] at member
  rcases member with rfl | rfl | rfl
  · have isOfKind := isolates.isOfKind
    exact absurd (Option.some.inj isOfKind) (by simp)
  · have isOfKind := isolates.isOfKind
    exact absurd (Option.some.inj isOfKind) (by simp)
  · cases everyPod

/-- A policy for every pod of the namespace justifies it. -/
theorem neverUnderReported_of_default_deny :
    ∃ graph, buildGraph [webService, cartService, denyIngress []] = .ok graph ∧
      NeverUnderReported [webService, cartService, denyIngress []] graph "shop"
        "web" := by
  have built : buildGraph [webService, cartService, denyIngress []] =
      .ok (graphOf [webService, cartService, denyIngress []]) :=
    buildGraph_of_readable rfl
  refine ⟨_, built, (neverUnderReported_iff built).mpr ?_⟩
  rintro - -
  refine ⟨denyIngress [], by simp, ⟨rfl, rfl, .inl ⟨⟨_, rfl, rfl⟩, rfl⟩⟩, ?_⟩
  exact ⟨rfl, rfl⟩

end Example

end ArgosCyberTools.Graph
