import ArgosCyberTools.Graph.Documents

/-!
# Blast radius

`graph.blast_radius`: what containing a compromised Service and subject would
affect, along the network and along shared roles, and the recommendation that
follows from the number of what is affected.
-/

namespace ArgosCyberTools.Graph

open Python

inductive Recommendation where
  | go
  | narrow
  | stop
deriving DecidableEq

/-- `GO` < `NARROW` < `STOP`. -/
def Recommendation.level : Recommendation → Nat
  | .go => 0
  | .narrow => 1
  | .stop => 2

instance : LE Recommendation := ⟨fun left right => left.level ≤ right.level⟩

structure BlastRadiusAssessment where
  targetService : PyStr
  affectedServices : List PyStr
  affectedSubjects : List PyStr
  recommendation : Recommendation
  reason : PyStr
  evidenceRefs : List PyStr
  uncertainty : PyStr
deriving DecidableEq

/-- `_UNCERTAINTY_NOTE`. -/
def uncertaintyNote : PyStr :=
  "Solo se modela alcance DENTRO del namespace observado (siblings de red vía " ++
    "NetworkPolicy, subjects vía RoleBinding compartido). Rutas cross-namespace " ++
    "(un Ingress u otro namespace que enruta tráfico HACIA este) no se evalúan " ++
    "aquí — 'GO' significa 'sin riesgo encontrado dentro de lo modelado', no una " ++
    "garantía absoluta (propuesta v0.6.25.4, 12.13: TRUE/FALSE/UNKNOWN se conservan)."

def namespaceHasDefaultDeny (graph : ClusterGraph) (namespace_ : PyStr) :
    Bool :=
  graph.networkPolicies.any fun policy =>
    decide (policy.namespace_ = namespace_) && policy.isDefaultDeny

def networkPolicyRef (policy : NetworkPolicyDef) : PyStr :=
  "networkpolicy/" ++ policy.namespace_ ++ "/" ++ policy.name

def networkPolicyRefs (graph : ClusterGraph) (namespace_ : PyStr) :
    List PyStr :=
  sorted ((graph.networkPolicies.filter fun policy =>
    policy.namespace_ = namespace_).map networkPolicyRef)

/-- `text.lower()` of an ASCII text. -/
def lowerText (text : PyStr) : PyStr :=
  text.map fun point =>
    if 0x41 ≤ point.val ∧ point.val ≤ 0x5A then
      Fin.ofNat _ (point.val + 0x20)
    else point

/-- `value or default` of a string that may be `None`. -/
def textOr (value : Option PyStr) (default : PyStr) : PyStr :=
  match value with
  | some text => if text = [] then default else text
  | none => default

def roleBindingRef (binding : RoleBindingDef) : PyStr :=
  lowerText binding.kind ++ "/" ++ textOr binding.namespace_ "cluster" ++ "/" ++
    binding.name

def roleBindingRefs (graph : ClusterGraph) (subject : Subject) : List PyStr :=
  sorted ((graph.roleBindings.filter fun binding =>
    subject ∈ binding.subjects).map roleBindingRef)

def affectedServices (graph : ClusterGraph)
    (targetNamespace targetName : PyStr) : List PyStr :=
  if namespaceHasDefaultDeny graph targetNamespace then []
  else
    sorted ((graph.services.entries.filter fun entry =>
      entry.1.1 = targetNamespace ∧ entry.1.2 ≠ targetName).map fun entry =>
        entry.2.qualifiedName)

/-- Kind and name of the role a binding refers to. -/
def RoleBindingDef.roleRef (binding : RoleBindingDef) : PyStr × PyStr :=
  (binding.roleRefKind, binding.roleRefName)

/-- The subjects of the bindings to a role that `subject` is bound to. -/
def affectedSubjects (graph : ClusterGraph) (subject : Subject) :
    List PyStr :=
  let rolesBound :=
    (graph.roleBindings.filter fun binding =>
      subject ∈ binding.subjects).map RoleBindingDef.roleRef
  let others :=
    (graph.roleBindings.filter fun binding =>
      binding.roleRef ∈ rolesBound).flatMap fun binding =>
        (binding.subjects.filter (· ≠ subject)).map subjectLabel
  sortedSet others

/-- The recommendation and its reason for so many affected objects. -/
def recommend (totalAffected : Nat) : Recommendation × PyStr :=
  if totalAffected = 0 then
    (.go,
      "namespace aislado por default-deny y sin RoleBinding compartido: " ++
        "contención segura e inmediata")
  else if totalAffected ≤ 2 then
    (.narrow,
      "impacto colateral limitado (" ++ PyStr.ofNat totalAffected ++
        " recurso(s)): contener con verificación dirigida")
  else
    (.stop,
      "impacto colateral amplio (" ++ PyStr.ofNat totalAffected ++
        " recursos): requiere revisión humana antes de contener")

def assessBlastRadius (graph : ClusterGraph)
    (targetNamespace targetServiceName : PyStr) (subject : Subject) :
    BlastRadiusAssessment :=
  let services := affectedServices graph targetNamespace targetServiceName
  let subjects := affectedSubjects graph subject
  let recommended := recommend (services.length + subjects.length)
  { targetService := targetNamespace ++ "/" ++ targetServiceName
    affectedServices := services
    affectedSubjects := subjects
    recommendation := recommended.1
    reason := recommended.2
    evidenceRefs :=
      networkPolicyRefs graph targetNamespace ++ roleBindingRefs graph subject
    uncertainty := uncertaintyNote }

/-! ## What is affected -/

/-- More affected objects never give a milder recommendation. -/
theorem recommend_mono {fewer more : Nat} (ordered : fewer ≤ more) :
    (recommend fewer).1 ≤ (recommend more).1 := by
  show (recommend fewer).1.level ≤ (recommend more).1.level
  unfold recommend
  split_ifs <;> simp [Recommendation.level] <;> omega

theorem mem_affectedServices_iff {graph : ClusterGraph}
    {targetNamespace targetName service : PyStr} :
    service ∈ affectedServices graph targetNamespace targetName ↔
      namespaceHasDefaultDeny graph targetNamespace = false ∧
        ∃ key declared, graph.services.get? key = some declared ∧
          key.1 = targetNamespace ∧ key.2 ≠ targetName ∧
          declared.qualifiedName = service := by
  unfold affectedServices
  split_ifs with isolated
  · simp [isolated]
  · simp only [Bool.not_eq_true] at isolated
    simp only [isolated, mem_sorted, List.mem_map, List.mem_filter,
      decide_eq_true_eq, true_and, Prod.exists, PyDict.get?_eq_some_iff,
      and_assoc]

theorem mem_affectedSubjects_iff {graph : ClusterGraph} {subject : Subject}
    {label : PyStr} :
    label ∈ affectedSubjects graph subject ↔
      ∃ held ∈ graph.roleBindings, ∃ binding ∈ graph.roleBindings,
        subject ∈ held.subjects ∧ held.roleRef = binding.roleRef ∧
        ∃ other ∈ binding.subjects, other ≠ subject ∧
          subjectLabel other = label := by
  simp only [affectedSubjects, mem_sortedSet, List.mem_flatMap, List.mem_filter,
    List.mem_map, decide_eq_true_eq]
  constructor
  · rintro ⟨binding, ⟨isBinding, held, ⟨isHeld, holds⟩, same⟩, other,
      ⟨isOther, different⟩, labelled⟩
    exact ⟨held, isHeld, binding, isBinding, holds, same, other, isOther,
      different, labelled⟩
  · rintro ⟨held, isHeld, binding, isBinding, holds, same, other, isOther,
      different, labelled⟩
    exact ⟨binding, ⟨isBinding, held, ⟨isHeld, holds⟩, same⟩, other,
      ⟨isOther, different⟩, labelled⟩

theorem mem_roleBindingRefs_iff {graph : ClusterGraph} {subject : Subject}
    {ref : PyStr} :
    ref ∈ roleBindingRefs graph subject ↔
      ∃ binding ∈ graph.roleBindings, subject ∈ binding.subjects ∧
        roleBindingRef binding = ref := by
  simp [roleBindingRefs, and_assoc]

theorem mem_networkPolicyRefs_iff {graph : ClusterGraph}
    {namespace_ ref : PyStr} :
    ref ∈ networkPolicyRefs graph namespace_ ↔
      ∃ policy ∈ graph.networkPolicies, policy.namespace_ = namespace_ ∧
        networkPolicyRef policy = ref := by
  simp [networkPolicyRefs, and_assoc]

theorem namespaceHasDefaultDeny_iff {graph : ClusterGraph}
    {namespace_ : PyStr} :
    namespaceHasDefaultDeny graph namespace_ = true ↔
      ∃ policy ∈ graph.networkPolicies, policy.namespace_ = namespace_ ∧
        policy.isDefaultDeny = true := by
  simp [namespaceHasDefaultDeny]

end ArgosCyberTools.Graph
