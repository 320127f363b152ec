import ArgosCyberTools.Graph.Model
import ArgosCyberTools.Python.Collections

/-!
# A graph is assembled from what its manifests declare

Each manifest is read on its own; the graph is then put together from the
declarations, in their order.  Reading does not look at the graph, so a list
of manifests is accepted exactly when each of them is.
-/

namespace ArgosCyberTools.Graph

open Python

/-- What one manifest declares. -/
inductive Resource where
  | role (role : RoleDef)
  | roleBinding (binding : RoleBindingDef)
  | service (service : ServiceDef)
  | ingress (backends : List IngressDef)
  | networkPolicy (policy : NetworkPolicyDef)
  | other

namespace Resource

def role? : Resource → Option RoleDef
  | .role declared => some declared
  | _ => none

def roleBinding? : Resource → Option RoleBindingDef
  | .roleBinding declared => some declared
  | _ => none

def service? : Resource → Option ServiceDef
  | .service declared => some declared
  | _ => none

def ingresses : Resource → List IngressDef
  | .ingress backends => backends
  | _ => []

def networkPolicy? : Resource → Option NetworkPolicyDef
  | .networkPolicy declared => some declared
  | _ => none

end Resource

def ServiceDef.key (service : ServiceDef) : ServiceKey :=
  (service.namespace_, service.name)

/-- The graph with one more declaration. -/
def ClusterGraph.declare (graph : ClusterGraph) : Resource → ClusterGraph
  | .role role => { graph with roles := graph.roles.assign role.key role }
  | .roleBinding binding =>
      { graph with roleBindings := graph.roleBindings ++ [binding] }
  | .service service =>
      { graph with services := graph.services.assign service.key service }
  | .ingress backends =>
      { graph with ingresses := graph.ingresses ++ backends }
  | .networkPolicy policy =>
      { graph with networkPolicies := graph.networkPolicies ++ [policy] }
  | .other => graph

/-- The graph of a list of declarations. -/
def assemble (resources : List Resource) : ClusterGraph where
  roles := PyDict.tabulate Resource.role? RoleDef.key resources
  roleBindings := resources.filterMap Resource.roleBinding?
  services := PyDict.tabulate Resource.service? ServiceDef.key resources
  ingresses := resources.flatMap Resource.ingresses
  networkPolicies := resources.filterMap Resource.networkPolicy?

theorem assemble_concat (resources : List Resource) (resource : Resource) :
    assemble (resources ++ [resource]) =
      (assemble resources).declare resource := by
  cases resource <;>
    simp [assemble, ClusterGraph.declare, PyDict.tabulate_concat,
      Resource.role?, Resource.roleBinding?, Resource.service?,
      Resource.ingresses, Resource.networkPolicy?, List.filterMap_append,
      List.filterMap_cons]

/-! ## Reading a manifest -/

section Reading

variable [PyRuntime]

/-- What a manifest of this kind declares. -/
def readKind (kind : PyStr) (manifest : JsonObject) :
    Except ManifestError Resource :=
  if kind = ("Role" : PyStr) ∨ kind = ("ClusterRole" : PyStr) then
    Resource.role <$> roleOf kind manifest
  else if kind = ("RoleBinding" : PyStr) ∨
      kind = ("ClusterRoleBinding" : PyStr) then
    Resource.roleBinding <$> roleBindingOf kind manifest
  else if kind = ("Service" : PyStr) then
    Resource.service <$> serviceOf manifest
  else if kind = ("Ingress" : PyStr) then
    Resource.ingress <$> ingressesOf manifest
  else if kind = ("NetworkPolicy" : PyStr) then
    Resource.networkPolicy <$> networkPolicyOf manifest
  else
    .ok .other

/-- What a manifest declares. -/
def readManifest (manifest : JsonObject) : Except ManifestError Resource := do
  let kind ←
    (manifestKeyOr manifest "kind" (.str "")).hashKey.mapError .builtin
  match kind with
  | .text kind => readKind kind manifest
  | _ => return .other

/-- The handler of each kind. -/
theorem handlers_get? (kind : PyStr) :
    handlers.get? kind =
      if kind = ("Role" : PyStr) ∨ kind = ("ClusterRole" : PyStr) then
        some (addRole kind)
      else if kind = ("RoleBinding" : PyStr) ∨
          kind = ("ClusterRoleBinding" : PyStr) then
        some (addRoleBinding kind)
      else if kind = ("Service" : PyStr) then some addService
      else if kind = ("Ingress" : PyStr) then some addIngress
      else if kind = ("NetworkPolicy" : PyStr) then some addNetworkPolicy
      else none := by
  split_ifs with role binding service ingress policy
  · rcases role with rfl | rfl <;> rfl
  · rcases binding with rfl | rfl <;> rfl
  · subst service
    rfl
  · subst ingress
    rfl
  · subst policy
    rfl
  · rw [not_or] at role binding
    rw [handlers, PyDict.get?_ofList, PyDict.lookupIn_eq_none_iff]
    simp [role.1, role.2, binding.1, binding.2, service, ingress, policy]

/-- A handler reads the manifest and adds what it declares. -/
theorem addManifest_eq (graph : ClusterGraph) (manifest : JsonObject) :
    addManifest graph manifest = graph.declare <$> readManifest manifest := by
  unfold addManifest handlerOf readManifest
  cases (manifestKeyOr manifest "kind" (.str "")).hashKey with
  | error error => rfl
  | ok key =>
      cases key with
      | none => rfl
      | number value => rfl
      | text kind =>
          simp only [Except.mapError, bind, Except.bind, pure, Except.pure,
            handlers_get?, readKind]
          split_ifs
          · cases read : roleOf kind manifest <;>
              simp [addRole, read, bind, Except.bind, pure, Except.pure,
                Functor.map, Except.map, ClusterGraph.declare]
          · cases read : roleBindingOf kind manifest <;>
              simp [addRoleBinding, read, bind, Except.bind, pure, Except.pure,
                Functor.map, Except.map, ClusterGraph.declare]
          · cases read : serviceOf manifest <;>
              simp [addService, read, bind, Except.bind, pure, Except.pure,
                Functor.map, Except.map, ClusterGraph.declare, ServiceDef.key]
          · cases read : ingressesOf manifest <;>
              simp [addIngress, read, bind, Except.bind, pure, Except.pure,
                Functor.map, Except.map, ClusterGraph.declare]
          · cases read : networkPolicyOf manifest <;>
              simp [addNetworkPolicy, read, bind, Except.bind, pure,
                Except.pure, Functor.map, Except.map, ClusterGraph.declare]
          · rfl

/-! ## Accepted lists -/

/-- Each manifest of the list can be read. -/
def Accepted (manifests : List JsonObject) : Prop :=
  ∀ manifest ∈ manifests, ∃ resource, readManifest manifest = .ok resource

/-- What a readable manifest declares. -/
def resourceOf (manifest : JsonObject) : Resource :=
  match readManifest manifest with
  | .ok resource => resource
  | .error _ => .other

theorem resourceOf_eq {manifest : JsonObject} {resource : Resource}
    (read : readManifest manifest = .ok resource) :
    resourceOf manifest = resource := by
  rw [resourceOf, read]

/-- The graph of a list of manifests that can all be read. -/
def graphOf (manifests : List JsonObject) : ClusterGraph :=
  assemble (manifests.map resourceOf)

theorem foldlM_addManifest_eq_ok_iff {manifests before : List JsonObject}
    {graph : ClusterGraph} :
    manifests.foldlM addManifest (graphOf before) = .ok graph ↔
      Accepted manifests ∧ graph = graphOf (before ++ manifests) := by
  induction manifests generalizing before with
  | nil =>
      rw [List.foldlM_nil, List.append_nil, pure_eq_ok_iff]
      simp [Accepted, eq_comm]
  | cons manifest rest induction =>
      rw [List.foldlM_cons, addManifest_eq]
      cases read : readManifest manifest with
      | error error =>
          simp [Accepted, read, Functor.map, Except.map, bind, Except.bind]
      | ok resource =>
          have grown : (graphOf before).declare resource =
              graphOf (before ++ [manifest]) := by
            rw [graphOf, graphOf, List.map_append, List.map_singleton,
              resourceOf_eq read, assemble_concat]
          simp only [Functor.map, Except.map, bind, Except.bind]
          rw [grown, induction, List.append_assoc, List.singleton_append]
          simp [Accepted, read]

/-- `build_graph` accepts what can be read and assembles the declarations. -/
theorem buildGraph_eq_ok_iff {manifests : List JsonObject}
    {graph : ClusterGraph} :
    buildGraph manifests = .ok graph ↔
      Accepted manifests ∧ graph = graphOf manifests :=
  @foldlM_addManifest_eq_ok_iff _ manifests [] graph

/-- A list is built if each manifest reads well. -/
theorem buildGraph_of_readable {manifests : List JsonObject}
    (readable : manifests.all fun manifest =>
      (readManifest manifest).isOk = true) :
    buildGraph manifests = .ok (graphOf manifests) := by
  refine buildGraph_eq_ok_iff.mpr ⟨?_, rfl⟩
  intro manifest member
  have isRead := List.all_eq_true.mp readable manifest member
  cases read : readManifest manifest with
  | error error => simp [read, Except.isOk, Except.toBool] at isRead
  | ok resource => exact ⟨resource, rfl⟩

theorem Accepted.perm {manifests permuted : List JsonObject}
    (accepted : Accepted manifests) (perm : manifests.Perm permuted) :
    Accepted permuted :=
  fun manifest member => accepted manifest (perm.mem_iff.mpr member)

end Reading

end ArgosCyberTools.Graph
