import ArgosCyberTools.Graph.Resources

/-!
# What a manifest says

The parts of a manifest by their field paths, without the exceptions of the
reader, and what reading establishes about them: a namespaced object says
where it lives, and each loop of the reader runs over the elements of a list.
-/

namespace ArgosCyberTools.Graph

open Python

/-! ## Field paths -/

/-- The value at a path of keys, if there is one. -/
def valueAt (value : Json) : List PyStr → Option Json
  | [] => some value
  | key :: rest =>
      match value with
      | .dict entries =>
          (PyDict.lookupIn key entries).bind fun held => valueAt held rest
      | _ => none

/-- The value at a path of a manifest. -/
def manifestAt (manifest : JsonObject) (path : List PyStr) : Option Json :=
  valueAt (.dict manifest.entries) path

/-- The elements of a list; anything else has none. -/
def elements : Option Json → List Json
  | some (.list items) => items
  | _ => []

theorem valueAt_of_getKey {value : Json} {key : PyStr} {held : Option Json}
    (read : getKey value key = .ok held) (rest : List PyStr) :
    valueAt value (key :: rest) = held.bind fun held => valueAt held rest := by
  cases value with
  | dict entries =>
      cases read
      rfl
  | _ => cases read

/-- A key with a default object is read like the key itself. -/
theorem valueAt_of_getKeyOr {value held : Json} {key : PyStr}
    (read : getKeyOr value key (.dict []) = .ok held) (next : PyStr)
    (rest : List PyStr) :
    valueAt value (key :: next :: rest) = valueAt held (next :: rest) := by
  simp only [getKeyOr, bind_eq_ok_iff, pure_eq_ok_iff] at read
  obtain ⟨found, isFound, rfl⟩ := read
  rw [valueAt_of_getKey isFound]
  cases found with
  | none => rfl
  | some value => rfl

theorem manifestAt_eq (manifest : JsonObject) (key next : PyStr)
    (rest : List PyStr) :
    manifestAt manifest (key :: next :: rest) =
      valueAt (manifestKeyOr manifest key (.dict [])) (next :: rest) := by
  show ((manifest.get? key).bind fun held => valueAt held (next :: rest)) = _
  unfold manifestKeyOr
  cases manifest.get? key <;> rfl

/--
A loop over a key whose default is one empty object runs over the elements,
as far as a property that objects alone can have is concerned.
-/
theorem exists_iterate_iff {value : Json} {key : PyStr} {items : List Json}
    (read : (getKeyOr value key (.list [.dict []]) >>= iterate) = .ok items)
    {holds : Json → Prop} (objects : ∀ item, holds item → ∃ entries,
      item = .dict entries ∧ entries ≠ []) :
    (∃ item ∈ items, holds item) ↔
      ∃ item ∈ elements (valueAt value [key]), holds item := by
  simp only [bind_eq_ok_iff, getKeyOr, pure_eq_ok_iff] at read
  obtain ⟨collection, ⟨found, isFound, rfl⟩, iterated⟩ := read
  have path : valueAt value [key] = found := by
    rw [valueAt_of_getKey isFound]
    cases found <;> rfl
  rw [path]
  have noObject : (∃ item ∈ items, holds item) →
      ∃ list, found = some (.list list) ∧ items = list := by
    rintro ⟨item, member, here⟩
    obtain ⟨entries, isObject, nonempty⟩ := objects item here
    subst isObject
    cases found with
    | none =>
        cases iterated
        rw [List.mem_singleton] at member
        cases member
        exact absurd rfl nonempty
    | some collection =>
        cases collection with
        | list list =>
            cases iterated
            exact ⟨items, rfl, rfl⟩
        | dict others =>
            cases iterated
            simp at member
        | str text =>
            cases iterated
            simp at member
        | _ => cases iterated
  constructor
  · intro some
    obtain ⟨list, rfl, rfl⟩ := noObject some
    exact some
  · rintro ⟨item, member, here⟩
    cases found with
    | none => cases member
    | some collection =>
        cases collection with
        | list list =>
            cases iterated
            exact ⟨item, member, here⟩
        | _ => cases member

/-! ## Kinds, names and namespaces -/

/-- The manifest is of this kind. -/
def IsOfKind (kind : PyStr) (manifest : JsonObject) : Prop :=
  manifest.get? "kind" = some (.str kind)

/-- The manifest says it lives in this namespace. -/
def LivesIn (namespace_ : PyStr) (manifest : JsonObject) : Prop :=
  manifestAt manifest ["metadata", "namespace"] = some (.str namespace_)

section Reading

variable [PyRuntime]

/-- Only a manifest of a known kind is read as an object of it. -/
theorem readManifest_of_isOfKind {manifest : JsonObject} {kind : PyStr}
    (isOfKind : IsOfKind kind manifest) :
    readManifest manifest = readKind kind manifest := by
  unfold readManifest manifestKeyOr
  rw [isOfKind]
  rfl

/-- What declares something has a kind. -/
theorem exists_kind_of_read {manifest : JsonObject} {resource : Resource}
    (read : readManifest manifest = .ok resource)
    (declares : resource ≠ .other) :
    ∃ kind, IsOfKind kind manifest ∧ readKind kind manifest = .ok resource := by
  simp only [readManifest, bind_eq_ok_iff, mapError_eq_ok_iff] at read
  obtain ⟨key, hashed, read⟩ := read
  cases key with
  | none => exact absurd (pure_eq_ok_iff.mp read).symm declares
  | number value => exact absurd (pure_eq_ok_iff.mp read).symm declares
  | text kind =>
      refine ⟨kind, ?_, read⟩
      unfold manifestKeyOr at hashed
      cases given : manifest.get? "kind" with
      | none =>
          rw [given] at hashed
          cases hashed
          exact absurd (Except.ok.inj read).symm declares
      | some value =>
          rw [given] at hashed
          cases value <;> cases hashed
          exact given

omit [PyRuntime] in
theorem map_eq_ok_iff {Error Value Result : Type} {f : Value → Result}
    {computed : Except Error Value} {result : Result} :
    f <$> computed = .ok result ↔
      ∃ value, computed = .ok value ∧ f value = result := by
  cases computed <;> simp [Functor.map, Except.map]

/-- The manifest declares an object of its kind. -/
inductive Declares (manifest : JsonObject) : Resource → Prop where
  | role {kind : PyStr} {declared : RoleDef}
      (known : kind = ("Role" : PyStr) ∨ kind = ("ClusterRole" : PyStr))
      (isOfKind : IsOfKind kind manifest)
      (read : roleOf kind manifest = .ok declared) :
      Declares manifest (.role declared)
  | roleBinding {kind : PyStr} {declared : RoleBindingDef}
      (known : kind = ("RoleBinding" : PyStr) ∨
        kind = ("ClusterRoleBinding" : PyStr))
      (isOfKind : IsOfKind kind manifest)
      (read : roleBindingOf kind manifest = .ok declared) :
      Declares manifest (.roleBinding declared)
  | service {declared : ServiceDef}
      (isOfKind : IsOfKind "Service" manifest)
      (read : serviceOf manifest = .ok declared) :
      Declares manifest (.service declared)
  | ingress {declared : List IngressDef}
      (isOfKind : IsOfKind "Ingress" manifest)
      (read : ingressesOf manifest = .ok declared) :
      Declares manifest (.ingress declared)
  | networkPolicy {declared : NetworkPolicyDef}
      (isOfKind : IsOfKind "NetworkPolicy" manifest)
      (read : networkPolicyOf manifest = .ok declared) :
      Declares manifest (.networkPolicy declared)

/-- Reading finds what is declared, and nothing else but `other`. -/
theorem readManifest_eq_ok_iff {manifest : JsonObject} {resource : Resource}
    (declares : resource ≠ .other) :
    readManifest manifest = .ok resource ↔ Declares manifest resource := by
  constructor
  · intro read
    obtain ⟨kind, isOfKind, read⟩ := exists_kind_of_read read declares
    unfold readKind at read
    split_ifs at read with role binding service ingress policy
    · obtain ⟨declared, isDeclared, rfl⟩ := map_eq_ok_iff.mp read
      exact .role role isOfKind isDeclared
    · obtain ⟨declared, isDeclared, rfl⟩ := map_eq_ok_iff.mp read
      exact .roleBinding binding isOfKind isDeclared
    · obtain ⟨declared, isDeclared, rfl⟩ := map_eq_ok_iff.mp read
      exact .service (service ▸ isOfKind) isDeclared
    · obtain ⟨declared, isDeclared, rfl⟩ := map_eq_ok_iff.mp read
      exact .ingress (ingress ▸ isOfKind) isDeclared
    · obtain ⟨declared, isDeclared, rfl⟩ := map_eq_ok_iff.mp read
      exact .networkPolicy (policy ▸ isOfKind) isDeclared
    · exact absurd (Except.ok.inj read).symm declares
  · intro declared
    cases declared with
    | role known isOfKind read =>
        rw [readManifest_of_isOfKind isOfKind, readKind, if_pos known, read]
        rfl
    | @roleBinding kind _ known isOfKind read =>
        have noRole : ¬ (kind = ("Role" : PyStr) ∨
            kind = ("ClusterRole" : PyStr)) := by
          rcases known with rfl | rfl <;> decide
        rw [readManifest_of_isOfKind isOfKind, readKind, if_neg noRole,
          if_pos known, read]
        rfl
    | service isOfKind read =>
        rw [readManifest_of_isOfKind isOfKind, readKind, if_neg (by decide),
          if_neg (by decide), if_pos rfl, read]
        rfl
    | ingress isOfKind read =>
        rw [readManifest_of_isOfKind isOfKind, readKind, if_neg (by decide),
          if_neg (by decide), if_neg (by decide), if_pos rfl, read]
        rfl
    | networkPolicy isOfKind read =>
        rw [readManifest_of_isOfKind isOfKind, readKind, if_neg (by decide),
          if_neg (by decide), if_neg (by decide), if_neg (by decide),
          if_pos rfl, read]
        rfl

/-- What a manifest declares is what it is read as. -/
theorem Declares.resourceOf_eq {manifest : JsonObject} {resource : Resource}
    (declares : Declares manifest resource) :
    resourceOf manifest = resource := by
  have named : resource ≠ .other := by
    rintro rfl
    cases declares
  rw [resourceOf, (readManifest_eq_ok_iff named).mpr declares]

theorem resourceOf_eq_iff {manifest : JsonObject} {resource : Resource}
    (named : resource ≠ .other) :
    resourceOf manifest = resource ↔ Declares manifest resource := by
  constructor
  · intro equal
    apply (readManifest_eq_ok_iff named).mp
    unfold resourceOf at equal
    cases read : readManifest manifest with
    | error error =>
        rw [read] at equal
        exact absurd equal.symm named
    | ok found =>
        rw [read] at equal
        exact congrArg Except.ok equal
  · intro declares
    exact declares.resourceOf_eq

/-- An accepted manifest of a kind is read as an object of that kind. -/
theorem Accepted.readKind_eq {manifests : List JsonObject}
    (accepted : Accepted manifests) {manifest : JsonObject}
    (member : manifest ∈ manifests) {kind : PyStr}
    (isOfKind : IsOfKind kind manifest) :
    ∃ resource, readKind kind manifest = .ok resource := by
  obtain ⟨resource, read⟩ := accepted manifest member
  rw [readManifest_of_isOfKind isOfKind] at read
  exact ⟨resource, read⟩

theorem Accepted.exists_ingress {manifests : List JsonObject}
    (accepted : Accepted manifests) {manifest : JsonObject}
    (member : manifest ∈ manifests)
    (isOfKind : IsOfKind "Ingress" manifest) :
    ∃ backends, ingressesOf manifest = .ok backends := by
  obtain ⟨resource, read⟩ := accepted.readKind_eq member isOfKind
  rw [readKind, if_neg (by decide), if_neg (by decide), if_neg (by decide),
    if_pos rfl] at read
  obtain ⟨backends, isRead, -⟩ := map_eq_ok_iff.mp read
  exact ⟨backends, isRead⟩

theorem Accepted.exists_networkPolicy {manifests : List JsonObject}
    (accepted : Accepted manifests) {manifest : JsonObject}
    (member : manifest ∈ manifests)
    (isOfKind : IsOfKind "NetworkPolicy" manifest) :
    ∃ policy, networkPolicyOf manifest = .ok policy := by
  obtain ⟨resource, read⟩ := accepted.readKind_eq member isOfKind
  rw [readKind, if_neg (by decide), if_neg (by decide), if_neg (by decide),
    if_neg (by decide), if_pos rfl] at read
  obtain ⟨policy, isRead, -⟩ := map_eq_ok_iff.mp read
  exact ⟨policy, isRead⟩

/-! ## What a graph holds -/

theorem role?_resourceOf_iff {manifest : JsonObject} {role : RoleDef} :
    (resourceOf manifest).role? = some role ↔
      Declares manifest (.role role) := by
  rw [← resourceOf_eq_iff (by simp)]
  cases resourceOf manifest <;> simp [Resource.role?]

theorem roleBinding?_resourceOf_iff {manifest : JsonObject}
    {binding : RoleBindingDef} :
    (resourceOf manifest).roleBinding? = some binding ↔
      Declares manifest (.roleBinding binding) := by
  rw [← resourceOf_eq_iff (by simp)]
  cases resourceOf manifest <;> simp [Resource.roleBinding?]

theorem service?_resourceOf_iff {manifest : JsonObject}
    {service : ServiceDef} :
    (resourceOf manifest).service? = some service ↔
      Declares manifest (.service service) := by
  rw [← resourceOf_eq_iff (by simp)]
  cases resourceOf manifest <;> simp [Resource.service?]

theorem networkPolicy?_resourceOf_iff {manifest : JsonObject}
    {policy : NetworkPolicyDef} :
    (resourceOf manifest).networkPolicy? = some policy ↔
      Declares manifest (.networkPolicy policy) := by
  rw [← resourceOf_eq_iff (by simp)]
  cases resourceOf manifest <;> simp [Resource.networkPolicy?]

variable {manifests : List JsonObject}

theorem mem_roleBindings_iff {binding : RoleBindingDef} :
    binding ∈ (graphOf manifests).roleBindings ↔
      ∃ manifest ∈ manifests, Declares manifest (.roleBinding binding) := by
  simp [graphOf, assemble, roleBinding?_resourceOf_iff]

theorem mem_networkPolicies_iff {policy : NetworkPolicyDef} :
    policy ∈ (graphOf manifests).networkPolicies ↔
      ∃ manifest ∈ manifests, Declares manifest (.networkPolicy policy) := by
  simp [graphOf, assemble, networkPolicy?_resourceOf_iff]

theorem mem_ingresses_iff {ingress : IngressDef} :
    ingress ∈ (graphOf manifests).ingresses ↔
      ∃ manifest ∈ manifests, ∃ backends,
        Declares manifest (.ingress backends) ∧ ingress ∈ backends := by
  simp only [graphOf, assemble, List.mem_flatMap, List.mem_map,
    exists_exists_and_eq_and]
  refine exists_congr fun manifest => and_congr_right fun _ => ?_
  constructor
  · intro member
    cases declared : resourceOf manifest with
    | ingress backends =>
        rw [declared] at member
        exact ⟨backends, (resourceOf_eq_iff (by simp)).mp declared, member⟩
    | _ =>
        rw [declared] at member
        cases member
  · rintro ⟨backends, declares, member⟩
    rw [declares.resourceOf_eq]
    exact member

/-- The last manifest of the list that defines a role of this identity. -/
def LastRole (manifests : List JsonObject) (role : RoleDef) : Prop :=
  ∃ front manifest back, manifests = front ++ manifest :: back ∧
    Declares manifest (.role role) ∧
    ∀ later ∈ back, ∀ other, Declares later (.role other) →
      other.key ≠ role.key

/-- The last manifest of the list that defines a Service of this identity. -/
def LastService (manifests : List JsonObject) (service : ServiceDef) : Prop :=
  ∃ front manifest back, manifests = front ++ manifest :: back ∧
    Declares manifest (.service service) ∧
    ∀ later ∈ back, ∀ other, Declares later (.service other) →
      other.key ≠ service.key

theorem graphOf_roles :
    (graphOf manifests).roles =
      PyDict.tabulate (fun manifest => (resourceOf manifest).role?) RoleDef.key
        manifests := by
  simp [graphOf, assemble, PyDict.tabulate, List.filterMap_map]

theorem graphOf_services :
    (graphOf manifests).services =
      PyDict.tabulate (fun manifest => (resourceOf manifest).service?)
        ServiceDef.key manifests := by
  simp [graphOf, assemble, PyDict.tabulate, List.filterMap_map]

/-- A role slot holds the last definition of its identity. -/
theorem roles_get?_iff {key : RoleKey} {role : RoleDef} :
    (graphOf manifests).roles.get? key = some role ↔
      role.key = key ∧ LastRole manifests role := by
  rw [graphOf_roles, PyDict.get?_tabulate_eq_some_iff]
  simp only [role?_resourceOf_iff]
  constructor
  · rintro ⟨rfl, last⟩
    exact ⟨rfl, last⟩
  · rintro ⟨rfl, last⟩
    exact ⟨rfl, last⟩

/-- So does a Service slot. -/
theorem services_get?_iff {key : ServiceKey} {service : ServiceDef} :
    (graphOf manifests).services.get? key = some service ↔
      service.key = key ∧ LastService manifests service := by
  rw [graphOf_services, PyDict.get?_tabulate_eq_some_iff]
  simp only [service?_resourceOf_iff]
  constructor
  · rintro ⟨rfl, last⟩
    exact ⟨rfl, last⟩
  · rintro ⟨rfl, last⟩
    exact ⟨rfl, last⟩

/-- A Service is in the graph when some manifest defines it. -/
theorem exists_service_iff {key : ServiceKey} :
    (∃ service, (graphOf manifests).services.get? key = some service) ↔
      ∃ manifest ∈ manifests, ∃ service,
        Declares manifest (.service service) ∧ service.key = key := by
  rw [graphOf_services, PyDict.exists_get?_tabulate_iff]
  simp only [service?_resourceOf_iff]

/-! ## Names -/

omit [PyRuntime] in
theorem textOf_eq_ok_iff {value : Json} {text : PyStr} :
    textOf value = .ok text ↔ value = .str text := by
  cases value <;> simp [textOf]

/-- A namespaced object says where it lives. -/
theorem namespacedName_livesIn {manifest : JsonObject} {field : PyStr}
    {name namespace_ : PyStr}
    (read : namespacedName manifest field = .ok (name, namespace_)) :
    LivesIn namespace_ manifest := by
  simp only [namespacedName, metadataOf, bind_eq_ok_iff, raiseIf_eq_ok_iff,
    pure_eq_ok_iff, textOf_eq_ok_iff] at read
  obtain ⟨⟨given, place⟩, ⟨_, _, _, _, _, isFound, _, present, same⟩, _, _, _,
    text, same'⟩ := read
  cases same
  cases same'
  rw [LivesIn, manifestAt_eq, valueAt_of_getKey isFound]
  cases place with
  | none => simp [isTruthy] at present
  | some value =>
      have isText : value = .str namespace_ := text
      rw [isText]
      rfl

/-! ## Scopes -/

omit [PyRuntime] in
theorem exists_text_of_isTruthy {value : Option Json} {text : Option PyStr}
    (given : isTruthy value = true)
    (read : optionalTextOf value = .ok text) : ∃ held, text = some held := by
  cases value with
  | none => cases given
  | some value =>
      cases value with
      | str held =>
          cases read
          exact ⟨held, rfl⟩
      | null => cases given
      | _ => cases read

theorem metadataOf_namespace_given {manifest : JsonObject} {field : PyStr}
    {name : Json} {namespace_ : Option Json}
    (read : metadataOf manifest field true = .ok (name, namespace_)) :
    isTruthy namespace_ = true := by
  simp only [metadataOf, bind_eq_ok_iff, raiseIf_eq_ok_iff,
    pure_eq_ok_iff] at read
  obtain ⟨_, _, _, _, _, _, _, present, same⟩ := read
  cases same
  simpa using present

/-- An object of the local kind has a namespace, of the cluster-wide none. -/
theorem scope_of_metadataOf {manifest : JsonObject}
    {kind localKind clusterKind : PyStr} {name : Json} {given : Option Json}
    {scope : Option PyStr} (known : kind = localKind ∨ kind = clusterKind)
    (distinct : localKind ≠ clusterKind)
    (metadata : metadataOf manifest kind (decide (kind = localKind)) =
      .ok (name, given))
    (read : (if kind = clusterKind then pure none else optionalTextOf given) =
      .ok scope) :
    (kind = localKind ∧ ∃ place, scope = some place) ∨
      (kind = clusterKind ∧ scope = none) := by
  rcases known with rfl | rfl
  · left
    rw [if_neg distinct] at read
    rw [decide_eq_true rfl] at metadata
    exact ⟨rfl, exists_text_of_isTruthy
      (metadataOf_namespace_given metadata) read⟩
  · right
    rw [if_pos rfl] at read
    cases read
    exact ⟨rfl, rfl⟩

/-- A Role has a namespace, a ClusterRole has none whatever it says. -/
theorem Declares.role_scope {manifest : JsonObject} {role : RoleDef}
    (declares : Declares manifest (.role role)) :
    (role.kind = ("Role" : PyStr) ∧ ∃ place, role.namespace_ = some place) ∨
      (role.kind = ("ClusterRole" : PyStr) ∧ role.namespace_ = none) := by
  cases declares with
  | @role kind _ known isOfKind read =>
      simp only [roleOf, bind_eq_ok_iff, bind_ite_eq_ok_iff,
        pure_eq_ok_iff] at read
      obtain ⟨⟨name, given⟩, metadata, scope, isScope, _, -, _, -, _, -,
        rfl⟩ := read
      exact scope_of_metadataOf known (by decide) metadata isScope

/-- So have the two kinds of bindings. -/
theorem Declares.binding_scope {manifest : JsonObject}
    {binding : RoleBindingDef}
    (declares : Declares manifest (.roleBinding binding)) :
    (binding.kind = ("RoleBinding" : PyStr) ∧
        ∃ place, binding.namespace_ = some place) ∨
      (binding.kind = ("ClusterRoleBinding" : PyStr) ∧
        binding.namespace_ = none) := by
  cases declares with
  | @roleBinding kind _ known isOfKind read =>
      simp only [roleBindingOf, bind_eq_ok_iff, bind_ite_eq_ok_iff,
        pure_eq_ok_iff] at read
      obtain ⟨⟨name, given⟩, metadata, scope, isScope, _, -, _, -, _, -,
        _, -, _, -, _, -, _, -, rfl⟩ := read
      exact scope_of_metadataOf known (by decide) metadata isScope

end Reading

end ArgosCyberTools.Graph
