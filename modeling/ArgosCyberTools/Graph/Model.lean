import ArgosCyberTools.Python.Effect
import ArgosCyberTools.Python.Runtime

/-!
# The cluster graph

`graph.model`: RBAC and network objects read from Kubernetes manifests.  A
manifest is an untyped document; reading it raises where the source does, on a
missing name or reference and on a value of the wrong shape.  What the
dataclasses annotate as `str` is read as a string: another value there is
outside the annotated types, and reading it ends in `unannotated`.
-/

namespace ArgosCyberTools.Graph

open Python

/-! ## The objects -/

structure Subject where
  kind : PyStr
  name : PyStr
  namespace_ : Option PyStr
deriving DecidableEq

/-- `_subject_label`, the same in both analyses of subjects. -/
def subjectLabel (subject : Subject) : PyStr :=
  match subject.namespace_ with
  | some text =>
      if text = [] then subject.name else text ++ "/" ++ subject.name
  | none => subject.name

structure PolicyRule where
  apiGroups : List PyStr
  resources : List PyStr
  verbs : List PyStr
  resourceNames : List PyStr
deriving DecidableEq

structure RoleDef where
  kind : PyStr
  name : PyStr
  namespace_ : Option PyStr
  rules : List PolicyRule
deriving DecidableEq

/-- Kind, name and namespace. -/
abbrev RoleKey := PyStr × PyStr × Option PyStr

def RoleDef.key (role : RoleDef) : RoleKey :=
  (role.kind, role.name, role.namespace_)

structure RoleBindingDef where
  kind : PyStr
  name : PyStr
  namespace_ : Option PyStr
  roleRefKind : PyStr
  roleRefName : PyStr
  subjects : List Subject
deriving DecidableEq

structure ServiceDef where
  name : PyStr
  namespace_ : PyStr
  selector : List (PyStr × Json)
  serviceType : PyStr
  ports : List Json

/-- `f"{self.namespace}/{self.name}"`. -/
def ServiceDef.qualifiedName (service : ServiceDef) : PyStr :=
  service.namespace_ ++ "/" ++ service.name

/-- Namespace and name. -/
abbrev ServiceKey := PyStr × PyStr

structure IngressDef where
  name : PyStr
  namespace_ : PyStr
  backendService : PyStr
  host : Option Json

structure NetworkPolicyDef where
  name : PyStr
  namespace_ : PyStr
  podSelector : List (PyStr × Json)
  isDefaultDeny : Bool

structure ClusterGraph where
  roles : PyDict RoleKey RoleDef
  roleBindings : List RoleBindingDef
  services : PyDict ServiceKey ServiceDef
  ingresses : List IngressDef
  networkPolicies : List NetworkPolicyDef

namespace ClusterGraph

/-- `ClusterGraph()`. -/
def empty : ClusterGraph := ⟨PyDict.empty, [], PyDict.empty, [], []⟩

def role (graph : ClusterGraph) (kind name : PyStr)
    (namespace_ : Option PyStr) : Option RoleDef :=
  graph.roles.get? (kind, name, namespace_)

def bindingsForSubject (graph : ClusterGraph) (subject : Subject) :
    List RoleBindingDef :=
  graph.roleBindings.filter fun binding => subject ∈ binding.subjects

/-- The role a binding refers to, if the graph has it. -/
def roleOfBinding (graph : ClusterGraph) (binding : RoleBindingDef) :
    Option RoleDef :=
  let roleNamespace :=
    if binding.roleRefKind = ("Role" : PyStr) then binding.namespace_ else none
  graph.role binding.roleRefKind binding.roleRefName roleNamespace

def effectiveRules (graph : ClusterGraph) (subject : Subject) :
    List PolicyRule :=
  (graph.bindingsForSubject subject).flatMap fun binding =>
    match graph.roleOfBinding binding with
    | some role => role.rules
    | none => []

end ClusterGraph

/-! ## Reading documents -/

/-- What `build_graph` raises. -/
inductive ManifestError where
  | invalidManifest (message : PyStr)
  | attributeError
  | builtin (error : BuiltinError)
  /-- A leaf that is no string, where the dataclasses declare one. -/
  | unannotated

/-- `value.get(key)`, an attribute of dictionaries only. -/
def getKey (value : Json) (key : PyStr) :
    Except ManifestError (Option Json) :=
  match value with
  | .dict entries => .ok (PyDict.lookupIn key entries)
  | _ => .error .attributeError

/-- `value.get(key, default)`. -/
def getKeyOr (value : Json) (key : PyStr) (default : Json) :
    Except ManifestError Json := do
  let held ← getKey value key
  return held.getD default

/-- `value[key]`. -/
def indexKey (value : Json) (key : PyStr) : Except ManifestError Json :=
  match value with
  | .dict entries =>
      orExit (PyDict.lookupIn key entries) (.builtin (.keyError key))
  | _ => .error (.builtin .typeError)

/-- `for item in value`. -/
def iterate : Json → Except ManifestError (List Json)
  | .list items => .ok items
  | .dict entries => .ok (entries.map fun entry => .str entry.1)
  | .str text => .ok (text.map fun point => .str [point])
  | _ => .error (.builtin .typeError)

/-- `tuple(sorted(value.items()))`; the keys are unique and decide. -/
def sortedItems (value : Json) : Except ManifestError (List (PyStr × Json)) :=
  match value with
  | .dict entries =>
      .ok (entries.insertionSort fun left right => left.1 ≤ right.1)
  | _ => .error .attributeError

/-- `key in value`. -/
def holdsKey (value : Json) (key : PyStr) : Except ManifestError Bool :=
  (value.holds key).mapError .builtin

/-- `bool(value)` of a value that may be `None`. -/
def isTruthy (value : Option Json) : Bool :=
  value.any Json.truthy

/-- A leaf annotated `str`. -/
def textOf : Json → Except ManifestError PyStr
  | .str text => .ok text
  | _ => .error .unannotated

/-- A leaf annotated `str | None`. -/
def optionalTextOf : Option Json → Except ManifestError (Option PyStr)
  | none => .ok none
  | some .null => .ok none
  | some value => some <$> textOf value

/-- `tuple(value)` where the elements are strings. -/
def textsOf (value : Json) : Except ManifestError (List PyStr) := do
  let items ← iterate value
  items.mapM textOf

/-- `manifest.get(key, default)`. -/
def manifestKeyOr (manifest : JsonObject) (key : PyStr) (default : Json) :
    Json :=
  (manifest.get? key).getD default

section Metadata

variable [PyRuntime]

/-- `_metadata`. -/
def metadataOf (manifest : JsonObject) (field : PyStr)
    (requiredNamespace : Bool) :
    Except ManifestError (Json × Option Json) := do
  let metadata := manifestKeyOr manifest "metadata" (.dict [])
  let name ← getKey metadata "name"
  raiseIf (!isTruthy name)
    (.invalidManifest (field ++ ": falta metadata.name"))
  let namespace_ ← getKey metadata "namespace"
  raiseIf (requiredNamespace && !isTruthy namespace_)
    (.invalidManifest
      (field ++ " " ++ Json.reprOption name ++
        ": falta metadata.namespace"))
  return (name.getD .null, namespace_)

/-- Name and namespace of an object that has to have both. -/
def namespacedName (manifest : JsonObject) (field : PyStr) :
    Except ManifestError (PyStr × PyStr) := do
  let (name, namespace_) ← metadataOf manifest field true
  let name ← textOf name
  let namespace_ ← textOf (namespace_.getD .null)
  return (name, namespace_)

/-! ## The handlers -/

/-- One entry of `rules`. -/
def policyRuleOf (rule : Json) : Except ManifestError PolicyRule := do
  let apiGroups ← getKeyOr rule "apiGroups" (.list []) >>= textsOf
  let resources ← getKeyOr rule "resources" (.list []) >>= textsOf
  let verbs ← getKeyOr rule "verbs" (.list []) >>= textsOf
  let resourceNames ← getKeyOr rule "resourceNames" (.list []) >>= textsOf
  return { apiGroups, resources, verbs, resourceNames }

/-- The role a manifest of this kind defines. -/
def roleOf (kind : PyStr) (manifest : JsonObject) :
    Except ManifestError RoleDef := do
  let (name, namespace_) ←
    metadataOf manifest kind (decide (kind = ("Role" : PyStr)))
  let namespace_ ←
    if kind = ("ClusterRole" : PyStr) then pure none
    else optionalTextOf namespace_
  let items ← iterate (manifestKeyOr manifest "rules" (.list []))
  let rules ← items.mapM policyRuleOf
  let name ← textOf name
  return { kind, name, namespace_, rules }

def addRole (kind : PyStr) (graph : ClusterGraph) (manifest : JsonObject) :
    Except ManifestError ClusterGraph := do
  let role ← roleOf kind manifest
  return { graph with roles := graph.roles.assign role.key role }

/-- One entry of `subjects`. -/
def subjectOf (subject : Json) : Except ManifestError Subject := do
  let kind ← indexKey subject "kind" >>= textOf
  let name ← indexKey subject "name" >>= textOf
  let namespace_ ← getKey subject "namespace" >>= optionalTextOf
  return { kind, name, namespace_ }

/-- `not role_ref or "kind" not in role_ref or "name" not in role_ref`. -/
def lacksRoleRef (roleRef : Option Json) : Except ManifestError Bool :=
  match roleRef with
  | none => .ok true
  | some value =>
      if value.truthy then do
        let kindGiven ← holdsKey value "kind"
        if kindGiven then do
          let nameGiven ← holdsKey value "name"
          return !nameGiven
        else
          return true
      else
        .ok true

/-- The binding a manifest of this kind defines. -/
def roleBindingOf (kind : PyStr) (manifest : JsonObject) :
    Except ManifestError RoleBindingDef := do
  let (name, namespace_) ←
    metadataOf manifest kind (decide (kind = ("RoleBinding" : PyStr)))
  let namespace_ ←
    if kind = ("ClusterRoleBinding" : PyStr) then pure none
    else optionalTextOf namespace_
  let roleRef := manifest.get? "roleRef"
  let lacking ← lacksRoleRef roleRef
  raiseIf lacking
    (.invalidManifest
      (kind ++ " " ++ name.repr ++ ": falta roleRef.kind/roleRef.name"))
  let items ← iterate (manifestKeyOr manifest "subjects" (.list []))
  let subjects ← items.mapM subjectOf
  let name ← textOf name
  let roleRefKind ← indexKey (roleRef.getD .null) "kind" >>= textOf
  let roleRefName ← indexKey (roleRef.getD .null) "name" >>= textOf
  return { kind, name, namespace_, roleRefKind, roleRefName, subjects }

def addRoleBinding (kind : PyStr) (graph : ClusterGraph)
    (manifest : JsonObject) : Except ManifestError ClusterGraph := do
  let binding ← roleBindingOf kind manifest
  return { graph with roleBindings := graph.roleBindings ++ [binding] }

/-- `p["port"] for p in ports if "port" in p`. -/
def portsOf (ports : List Json) : Except ManifestError (List Json) := do
  let held ← ports.mapM fun port => do
    let given ← holdsKey port "port"
    if given then some <$> indexKey port "port" else pure none
  return held.filterMap id

def serviceOf (manifest : JsonObject) : Except ManifestError ServiceDef := do
  let (name, namespace_) ← namespacedName manifest "Service"
  let spec := manifestKeyOr manifest "spec" (.dict [])
  let selector ← getKeyOr spec "selector" (.dict []) >>= sortedItems
  let ports ← getKeyOr spec "ports" (.list []) >>= iterate >>= portsOf
  let serviceType ← getKeyOr spec "type" (.str "ClusterIP") >>= textOf
  return { name, namespace_, selector, serviceType, ports }

def addService (graph : ClusterGraph) (manifest : JsonObject) :
    Except ManifestError ClusterGraph := do
  let service ← serviceOf manifest
  return { graph with
    services :=
      graph.services.assign (service.namespace_, service.name) service }

/-- The backend of one path, if it names one. -/
def backendOf (name namespace_ : PyStr) (host : Option Json) (path : Json) :
    Except ManifestError (List IngressDef) := do
  let backend ← getKeyOr path "backend" (.dict [])
  let service ← getKeyOr backend "service" (.dict [])
  let backendService ← getKey service "name"
  if isTruthy backendService then do
    let backendService ← textOf (backendService.getD .null)
    return [{ name, namespace_, backendService, host }]
  else
    return []

/-- The backends of one rule. -/
def ruleBackends (name namespace_ : PyStr) (rule : Json) :
    Except ManifestError (List IngressDef) := do
  let host ← getKey rule "host"
  let http ← getKeyOr rule "http" (.dict [])
  let paths ← getKeyOr http "paths" (.list [.dict []]) >>= iterate
  let backends ← paths.mapM (backendOf name namespace_ host)
  return backends.flatten

def ingressesOf (manifest : JsonObject) :
    Except ManifestError (List IngressDef) := do
  let (name, namespace_) ← namespacedName manifest "Ingress"
  let spec := manifestKeyOr manifest "spec" (.dict [])
  let rules ← getKeyOr spec "rules" (.list [.dict []]) >>= iterate
  let backends ← rules.mapM (ruleBackends name namespace_)
  return backends.flatten

def addIngress (graph : ClusterGraph) (manifest : JsonObject) :
    Except ManifestError ClusterGraph := do
  let ingresses ← ingressesOf manifest
  return { graph with ingresses := graph.ingresses ++ ingresses }

/-- `direction in policy_types and not spec.get(rules)`. -/
def deniesDirection (spec policyTypes : Json) (direction rules : PyStr) :
    Except ManifestError Bool := do
  let listed ← holdsKey policyTypes direction
  if listed then do
    let allowed ← getKey spec rules
    return !isTruthy allowed
  else
    return false

def networkPolicyOf (manifest : JsonObject) :
    Except ManifestError NetworkPolicyDef := do
  let (name, namespace_) ← namespacedName manifest "NetworkPolicy"
  let spec := manifestKeyOr manifest "spec" (.dict [])
  let selector ← getKeyOr spec "podSelector" (.dict [])
  let podSelector ← getKeyOr selector "matchLabels" (.dict []) >>= sortedItems
  let policyTypes ← getKeyOr spec "policyTypes" (.list [])
  let ingressDenied ← deniesDirection spec policyTypes "Ingress" "ingress"
  let isDefaultDeny ←
    if ingressDenied then pure true
    else deniesDirection spec policyTypes "Egress" "egress"
  return { name, namespace_, podSelector, isDefaultDeny }

def addNetworkPolicy (graph : ClusterGraph) (manifest : JsonObject) :
    Except ManifestError ClusterGraph := do
  let policy ← networkPolicyOf manifest
  return { graph with networkPolicies := graph.networkPolicies ++ [policy] }

/-! ## `build_graph` -/

abbrev Handler :=
  ClusterGraph → JsonObject → Except ManifestError ClusterGraph

/-- `_HANDLERS`. -/
def handlers : PyDict PyStr Handler :=
  PyDict.ofList
    [("Role", addRole "Role"), ("ClusterRole", addRole "ClusterRole"),
      ("RoleBinding", addRoleBinding "RoleBinding"),
      ("ClusterRoleBinding", addRoleBinding "ClusterRoleBinding"),
      ("Service", addService), ("Ingress", addIngress),
      ("NetworkPolicy", addNetworkPolicy)]

/-- `_HANDLERS.get(manifest.get("kind", ""))`; a kind is hashed. -/
def handlerOf (manifest : JsonObject) :
    Except ManifestError (Option Handler) := do
  let kind ←
    (manifestKeyOr manifest "kind" (.str "")).hashKey.mapError .builtin
  match kind with
  | .text kind => return handlers.get? kind
  | _ => return none

def addManifest (graph : ClusterGraph) (manifest : JsonObject) :
    Except ManifestError ClusterGraph := do
  match ← handlerOf manifest with
  | some handler => handler graph manifest
  | none => return graph

def buildGraph (manifests : List JsonObject) :
    Except ManifestError ClusterGraph :=
  manifests.foldlM addManifest ClusterGraph.empty

end Metadata

end ArgosCyberTools.Graph
