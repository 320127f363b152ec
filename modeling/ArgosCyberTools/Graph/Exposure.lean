import ArgosCyberTools.Graph.Documents
import ArgosCyberTools.Python.Reference

/-!
# Exposure discovery

`graph.exposure`: one finding for each Service, external when its type or an
Ingress makes it reachable from outside the cluster, and of high severity when
it is not in the allowlist either.  The reader of Ingress manifests follows
the paths of the rules and no default backend.
-/

namespace ArgosCyberTools.Graph

open Python

inductive ExposureType where
  | ingress
  | nodeport
  | loadbalancer
  | internal
deriving DecidableEq

inductive ReachableFrom where
  | external
  | internal
deriving DecidableEq

inductive ExposureSeverity where
  | high
  | low
deriving DecidableEq

structure ExposureFinding where
  service : PyStr
  exposureType : ExposureType
  reachableFrom : ReachableFrom
  inAllowlist : Bool
  severity : ExposureSeverity
deriving DecidableEq

/-- A type of `_EXTERNALLY_REACHABLE_SERVICE_TYPES`, in lower case. -/
def externalType (serviceType : PyStr) : Option ExposureType :=
  if serviceType = ("NodePort" : PyStr) then some .nodeport
  else if serviceType = ("LoadBalancer" : PyStr) then some .loadbalancer
  else none

/-- `(namespace, name) in ingress_backends`. -/
def isIngressBackend (graph : ClusterGraph) (key : ServiceKey) : Bool :=
  graph.ingresses.any fun ingress =>
    decide ((ingress.namespace_, ingress.backendService) = key)

def exposureOf (graph : ClusterGraph) (key : ServiceKey)
    (service : ServiceDef) : ExposureType × ReachableFrom :=
  if isIngressBackend graph key then (.ingress, .external)
  else
    match externalType service.serviceType with
    | some exposureType => (exposureType, .external)
    | none => (.internal, .internal)

def exposureFinding (graph : ClusterGraph) (targetAllowlist : Finset PyStr)
    (entry : ServiceKey × ServiceDef) : ExposureFinding :=
  let exposure := exposureOf graph entry.1 entry.2
  let inAllowlist := decide (entry.2.qualifiedName ∈ targetAllowlist)
  { service := entry.2.qualifiedName
    exposureType := exposure.1
    reachableFrom := exposure.2
    inAllowlist
    severity :=
      if exposure.2 = .external ∧ inAllowlist = false then .high else .low }

/-- The order of pairs of strings. -/
def keyOrder (left right : ServiceKey) : Prop :=
  toLex left ≤ toLex right

instance : DecidableRel keyOrder :=
  fun left right => inferInstanceAs (Decidable (toLex left ≤ toLex right))

instance keyOrder.total : Std.Total keyOrder :=
  ⟨fun left right => le_total (toLex left) (toLex right)⟩

instance keyOrder.isTrans : IsTrans ServiceKey keyOrder :=
  ⟨fun _ _ _ => le_trans⟩

theorem keyOrder_antisymm (left right : ServiceKey)
    (ordered : keyOrder left right) (reversed : keyOrder right left) :
    left = right :=
  toLex_inj.mp (le_antisymm ordered reversed)

/-- The keys are unique, so the order of the items is that of the keys. -/
def discoverExposure (graph : ClusterGraph) (targetAllowlist : Finset PyStr) :
    List ExposureFinding :=
  (graph.services.sortedBy keyOrder).entries.map
    (exposureFinding graph targetAllowlist)

/-! ## Routes -/

/-- The path names this Service as its backend. -/
def PathRoutes (name : PyStr) (path : Json) : Prop :=
  valueAt path ["backend", "service", "name"] = some (.str name)

/-- One of the paths of the rule does. -/
def RuleRoutes (name : PyStr) (rule : Json) : Prop :=
  ∃ path ∈ elements (valueAt rule ["http", "paths"]), PathRoutes name path

/-- One of the rules of the Ingress does. -/
def RoutesByRule (name : PyStr) (manifest : JsonObject) : Prop :=
  ∃ rule ∈ elements (manifestAt manifest ["spec", "rules"]),
    RuleRoutes name rule

/-- The Ingress names this Service as its default backend. -/
def RoutesByDefault (name : PyStr) (manifest : JsonObject) : Prop :=
  manifestAt manifest ["spec", "defaultBackend", "service", "name"] =
    some (.str name)

theorem valueAt_isObject {value held : Json} {key : PyStr}
    {rest : List PyStr} (found : valueAt value (key :: rest) = some held) :
    ∃ entries, value = .dict entries ∧ entries ≠ [] := by
  cases value with
  | dict entries =>
      refine ⟨entries, rfl, ?_⟩
      rintro rfl
      cases found
  | _ => cases found

theorem RuleRoutes.isObject {name : PyStr} {rule : Json}
    (routes : RuleRoutes name rule) :
    ∃ entries, rule = .dict entries ∧ entries ≠ [] := by
  obtain ⟨path, member, -⟩ := routes
  cases found : valueAt rule ["http", "paths"] with
  | none =>
      rw [found] at member
      cases member
  | some paths => exact valueAt_isObject found

section Reading

variable {name namespace_ : PyStr} {host : Option Json}

/-- A path gives one backend under the name it routes to. -/
theorem mem_backendOf_iff {path : Json} {backends : List IngressDef}
    (read : backendOf name namespace_ host path = .ok backends)
    {target : PyStr} (nonempty : target ≠ []) :
    (∃ ingress ∈ backends, ingress.namespace_ = namespace_ ∧
        ingress.backendService = target) ↔
      PathRoutes target path := by
  simp only [backendOf, bind_eq_ok_iff] at read
  obtain ⟨backend, isBackend, service, isService, found, isFound, read⟩ := read
  rw [PathRoutes, valueAt_of_getKeyOr isBackend, valueAt_of_getKeyOr isService,
    valueAt_of_getKey isFound]
  split_ifs at read with given
  · obtain ⟨text, isText, equal⟩ := bind_eq_ok_iff.mp read
    cases equal
    rw [textOf_eq_ok_iff] at isText
    cases found with
    | none => simp [isTruthy] at given
    | some value =>
        have isText : value = .str text := isText
        subst isText
        simp [valueAt]
  · cases read
    simp only [List.not_mem_nil, false_and, exists_false, false_iff]
    intro routed
    cases found with
    | none => cases routed
    | some value =>
        cases routed
        apply given
        cases target with
        | nil => exact absurd rfl nonempty
        | cons point rest => rfl

theorem backendOf_namespace {path : Json} {backends : List IngressDef}
    (read : backendOf name namespace_ host path = .ok backends) :
    ∀ ingress ∈ backends, ingress.namespace_ = namespace_ := by
  simp only [backendOf, bind_eq_ok_iff] at read
  obtain ⟨_, -, _, -, _, -, read⟩ := read
  split_ifs at read
  · obtain ⟨text, -, equal⟩ := bind_eq_ok_iff.mp read
    cases equal
    simp
  · cases read
    simp

theorem ruleBackends_namespace {rule : Json} {backends : List IngressDef}
    (read : ruleBackends name namespace_ rule = .ok backends) :
    ∀ ingress ∈ backends, ingress.namespace_ = namespace_ := by
  simp only [ruleBackends, bind_eq_ok_iff, pure_eq_ok_iff] at read
  obtain ⟨host, -, _, -, _, -, results, ran, rfl⟩ := read
  intro ingress member
  obtain ⟨path, -, collected, returned, inside⟩ :=
    (mem_flatten_of_mapM ran).mp member
  exact backendOf_namespace returned ingress inside

theorem mem_ruleBackends_iff {rule : Json} {backends : List IngressDef}
    (read : ruleBackends name namespace_ rule = .ok backends)
    {target : PyStr} (nonempty : target ≠ []) :
    (∃ ingress ∈ backends, ingress.namespace_ = namespace_ ∧
        ingress.backendService = target) ↔
      RuleRoutes target rule := by
  simp only [ruleBackends, bind_eq_ok_iff, pure_eq_ok_iff] at read
  obtain ⟨host, -, http, isHttp, paths, isPaths, results, ran, rfl⟩ := read
  have loop := exists_mem_flatten_iff ran fun path collected returned =>
    mem_backendOf_iff returned nonempty
  have listed := @exists_iterate_iff http "paths" paths
    (bind_eq_ok_iff.mpr isPaths) (PathRoutes target)
    fun path routed => valueAt_isObject routed
  rw [loop, listed, RuleRoutes, valueAt_of_getKeyOr isHttp]

/-- An Ingress gives a backend in its own namespace for each of its routes. -/
theorem mem_ingressesOf_iff [PyRuntime] {manifest : JsonObject}
    {backends : List IngressDef} (read : ingressesOf manifest = .ok backends)
    {target : ServiceKey} (nonempty : target.2 ≠ []) :
    (∃ ingress ∈ backends,
        (ingress.namespace_, ingress.backendService) = target) ↔
      LivesIn target.1 manifest ∧ RoutesByRule target.2 manifest := by
  simp only [ingressesOf, bind_eq_ok_iff, pure_eq_ok_iff] at read
  obtain ⟨⟨name, namespace_⟩, named, rules, isRules, results, ran, rfl⟩ := read
  have livesIn := namespacedName_livesIn named
  have loop := exists_mem_flatten_iff ran fun rule collected returned =>
    mem_ruleBackends_iff returned nonempty
  have listed := @exists_iterate_iff _ "rules" rules
    (bind_eq_ok_iff.mpr isRules) (RuleRoutes target.2)
    fun rule routed => routed.isObject
  rw [listed, ← manifestAt_eq] at loop
  constructor
  · rintro ⟨ingress, member, rfl⟩
    obtain ⟨rule, -, collected, returned, inside⟩ :=
      (mem_flatten_of_mapM ran).mp member
    have place := ruleBackends_namespace returned ingress inside
    exact ⟨place ▸ livesIn, loop.mp ⟨ingress, member, place, rfl⟩⟩
  · rintro ⟨lives, routes⟩
    obtain ⟨ingress, member, place, backend⟩ := loop.mpr routes
    refine ⟨ingress, member, ?_⟩
    have same : namespace_ = target.1 := by
      rw [LivesIn] at livesIn lives
      rw [livesIn] at lives
      cases lives
      rfl
    rw [place, backend, same]

end Reading

/-! ## Exposed Services -/

section Exposed

variable [PyRuntime] {manifests : List JsonObject} {key : ServiceKey}

/-- The distinct identities of the Services the manifests define, in order. -/
def serviceIdentities (manifests : List JsonObject) : List ServiceKey :=
  (manifests.filterMap fun manifest =>
    (resourceOf manifest).service?.map ServiceDef.key).dedup.insertionSort
      keyOrder

theorem mem_serviceIdentities_iff :
    key ∈ serviceIdentities manifests ↔
      ∃ manifest ∈ manifests, ∃ service,
        Declares manifest (.service service) ∧ service.key = key := by
  simp only [serviceIdentities, List.mem_insertionSort, List.mem_dedup,
    List.mem_filterMap, Option.map_eq_some_iff, service?_resourceOf_iff]

/-- They are the keys of the sorted items. -/
theorem keys_sorted_services :
    ((graphOf manifests).services.sortedBy keyOrder).keys =
      serviceIdentities manifests := by
  have nodup : (serviceIdentities manifests).Nodup :=
    ((List.perm_insertionSort keyOrder _).nodup_iff).mpr (List.nodup_dedup _)
  have members : ∀ key,
      key ∈ ((graphOf manifests).services.sortedBy keyOrder).keys ↔
        key ∈ serviceIdentities manifests := by
    intro key
    rw [PyDict.mem_keys_iff, PyDict.get?_sortedBy, exists_service_iff,
      mem_serviceIdentities_iff]
  have ordered : ((graphOf manifests).services.sortedBy keyOrder).keys.Pairwise
      keyOrder := by
    have total : Std.Total fun first second : ServiceKey × ServiceDef =>
        keyOrder first.1 second.1 :=
      ⟨fun first second => Std.Total.total first.1 second.1⟩
    have transitive : IsTrans (ServiceKey × ServiceDef) fun first second =>
        keyOrder first.1 second.1 :=
      ⟨fun _ _ _ => IsTrans.trans (r := keyOrder) _ _ _⟩
    exact List.Pairwise.map Prod.fst (fun _ _ below => below)
      (List.pairwise_insertionSort _ (graphOf manifests).services.entries)
  refine List.Perm.eq_of_pairwise
    (fun first second _ _ => keyOrder_antisymm first second) ordered
    (List.pairwise_insertionSort keyOrder _) ?_
  exact (List.perm_ext_iff_of_nodup
    ((graphOf manifests).services.sortedBy keyOrder).unique nodup).mpr members

/-- The last definition of the Service has a type reachable from outside. -/
def ExposedByType (manifests : List JsonObject) (key : ServiceKey) : Prop :=
  ∃ service, LastService manifests service ∧ service.key = key ∧
    (service.serviceType = ("NodePort" : PyStr) ∨
      service.serviceType = ("LoadBalancer" : PyStr))

/-- Some Ingress of its namespace routes to the Service, as `routes` says. -/
def RoutedBy (routes : PyStr → JsonObject → Prop)
    (manifests : List JsonObject) (key : ServiceKey) : Prop :=
  ∃ manifest ∈ manifests, IsOfKind "Ingress" manifest ∧
    LivesIn key.1 manifest ∧ routes key.2 manifest

/-- The Service is reachable from outside the cluster. -/
def Exposed (manifests : List JsonObject) (key : ServiceKey) : Prop :=
  ExposedByType manifests key ∨ RoutedBy RoutesByRule manifests key ∨
    RoutedBy RoutesByDefault manifests key

/-- The finding says of a Service what its manifests say. -/
structure ReportsExposure (manifests : List JsonObject)
    (targetAllowlist : Finset PyStr) (key : ServiceKey)
    (finding : ExposureFinding) : Prop where
  service : finding.service = key.1 ++ "/" ++ key.2
  external : finding.reachableFrom = .external ↔ Exposed manifests key
  high : finding.severity = .high ↔
    finding.reachableFrom = .external ∧
      key.1 ++ "/" ++ key.2 ∉ targetAllowlist

/-! ## What the code reports -/

/-- A namespaced object has a nonempty name. -/
theorem namespacedName_nonempty {manifest : JsonObject} {field : PyStr}
    {name namespace_ : PyStr}
    (read : namespacedName manifest field = .ok (name, namespace_)) :
    name ≠ [] := by
  simp only [namespacedName, metadataOf, bind_eq_ok_iff, raiseIf_eq_ok_iff,
    pure_eq_ok_iff, textOf_eq_ok_iff] at read
  obtain ⟨_, ⟨given, _, _, present, _, _, _, _, rfl⟩, _, text, _, _,
    same⟩ := read
  cases same
  rintro rfl
  cases given with
  | none => cases text
  | some value =>
      have isText : value = .str [] := text
      rw [isText] at present
      cases present

theorem service_name_nonempty {manifest : JsonObject} {service : ServiceDef}
    (declares : Declares manifest (.service service)) :
    service.name ≠ [] := by
  cases declares with
  | service isOfKind read =>
      simp only [serviceOf, bind_eq_ok_iff, pure_eq_ok_iff] at read
      obtain ⟨⟨name, namespace_⟩, named, _, -, _, -, _, -, rfl⟩ := read
      exact namespacedName_nonempty named

/-- The backends of the graph are the routes of the rules. -/
theorem isIngressBackend_iff (accepted : Accepted manifests)
    (nonempty : key.2 ≠ []) :
    isIngressBackend (graphOf manifests) key = true ↔
      RoutedBy RoutesByRule manifests key := by
  simp only [isIngressBackend, List.any_eq_true, decide_eq_true_eq,
    mem_ingresses_iff]
  constructor
  · rintro ⟨ingress, ⟨manifest, member, backends, declares, inside⟩, same⟩
    cases declares with
    | ingress isOfKind read =>
        obtain ⟨lives, routes⟩ :=
          (mem_ingressesOf_iff read nonempty).mp ⟨ingress, inside, same⟩
        exact ⟨manifest, member, isOfKind, lives, routes⟩
  · rintro ⟨manifest, member, isOfKind, lives, routes⟩
    obtain ⟨backends, read⟩ := accepted.exists_ingress member isOfKind
    obtain ⟨ingress, inside, same⟩ :=
      (mem_ingressesOf_iff read nonempty).mpr ⟨lives, routes⟩
    exact ⟨ingress, ⟨manifest, member, backends, .ingress isOfKind read,
      inside⟩, same⟩

omit [PyRuntime] in
theorem externalType_isSome_iff (serviceType : PyStr) :
    (externalType serviceType).isSome = true ↔
      serviceType = ("NodePort" : PyStr) ∨
        serviceType = ("LoadBalancer" : PyStr) := by
  unfold externalType
  split_ifs with nodePort loadBalancer
  · simp [nodePort]
  · simp [loadBalancer]
  · simp [nodePort, loadBalancer]

omit [PyRuntime] in
theorem exposureOf_external_iff (graph : ClusterGraph) (key : ServiceKey)
    (service : ServiceDef) :
    (exposureOf graph key service).2 = .external ↔
      isIngressBackend graph key = true ∨
        (externalType service.serviceType).isSome = true := by
  unfold exposureOf
  split_ifs with backend
  · simp [backend]
  · cases externalType service.serviceType <;> simp [backend]

/-- What the code takes for reachable: no default backend is followed. -/
theorem finding_external_iff (accepted : Accepted manifests)
    {service : ServiceDef}
    (held : (graphOf manifests).services.get? key = some service)
    (targetAllowlist : Finset PyStr) :
    (exposureFinding (graphOf manifests) targetAllowlist
        (key, service)).reachableFrom = .external ↔
      ExposedByType manifests key ∨ RoutedBy RoutesByRule manifests key := by
  obtain ⟨isKey, last⟩ := services_get?_iff.mp held
  have nonempty : key.2 ≠ [] := by
    obtain ⟨_, manifest, _, _, declares, -⟩ := last
    rw [← isKey]
    exact service_name_nonempty declares
  have byType : ExposedByType manifests key ↔
      (externalType service.serviceType).isSome = true := by
    rw [externalType_isSome_iff]
    constructor
    · rintro ⟨other, otherLast, otherKey, reachable⟩
      have otherHeld := services_get?_iff.mpr ⟨otherKey, otherLast⟩
      rw [held] at otherHeld
      cases otherHeld
      exact reachable
    · intro reachable
      exact ⟨service, last, isKey, reachable⟩
  rw [byType, ← isIngressBackend_iff accepted nonempty, or_comm]
  exact exposureOf_external_iff _ _ _

/-- Every default backend that is a Service is reachable otherwise too. -/
def DefaultBackendsCovered (manifests : List JsonObject) : Prop :=
  ∀ key ∈ serviceIdentities manifests,
    RoutedBy RoutesByDefault manifests key →
      ExposedByType manifests key ∨ RoutedBy RoutesByRule manifests key

/-- The finding of a Service is right when its default routes are covered. -/
theorem reportsExposure_iff (accepted : Accepted manifests)
    {service : ServiceDef}
    (held : (graphOf manifests).services.get? key = some service)
    (targetAllowlist : Finset PyStr) :
    ReportsExposure manifests targetAllowlist key
        (exposureFinding (graphOf manifests) targetAllowlist (key, service)) ↔
      (RoutedBy RoutesByDefault manifests key →
        ExposedByType manifests key ∨
          RoutedBy RoutesByRule manifests key) := by
  have found := finding_external_iff accepted held targetAllowlist
  obtain ⟨isKey, -⟩ := services_get?_iff.mp held
  have named : service.qualifiedName = key.1 ++ "/" ++ key.2 := by
    rw [← isKey]
    rfl
  constructor
  · intro reports byDefault
    exact found.mp (reports.external.mpr (.inr (.inr byDefault)))
  · intro covered
    constructor
    · exact named
    · rw [found, Exposed]
      constructor
      · rintro (byType | byRule)
        · exact .inl byType
        · exact .inr (.inl byRule)
      · rintro (byType | byRule | byDefault)
        · exact .inl byType
        · exact .inr byRule
        · exact covered byDefault
    · rw [← named]
      simp [exposureFinding]

/--
Exposure discovery reports on every Service, once and in order, and says of
each what the manifests say, exactly when no Service is reachable through a
default backend alone.
-/
theorem exposure_complete_iff {graph : ClusterGraph}
    (built : buildGraph manifests = .ok graph)
    (targetAllowlist : Finset PyStr) :
    List.Forall₂ (ReportsExposure manifests targetAllowlist)
        (serviceIdentities manifests)
        (discoverExposure graph targetAllowlist) ↔
      DefaultBackendsCovered manifests := by
  obtain ⟨accepted, rfl⟩ := buildGraph_eq_ok_iff.mp built
  rw [DefaultBackendsCovered, ← keys_sorted_services, discoverExposure,
    PyDict.keys, List.forall₂_map_left_iff, List.forall₂_map_right_iff,
    List.forall₂_same, List.forall_mem_map]
  refine forall₂_congr fun entry member => ?_
  have held := (PyDict.mem_sortedBy keyOrder).mp member
  exact reportsExposure_iff accepted held targetAllowlist

end Exposed

section Example

attribute [local instance] Reference.runtime

/-- A manifest of this kind in the namespace `shop`. -/
def shopManifest (kind name : PyStr) (spec : List (PyStr × Json)) :
    JsonObject :=
  PyDict.ofList
    [("kind", .str kind),
      ("metadata",
        .dict [("name", .str name), ("namespace", .str "shop")]),
      ("spec", .dict spec)]

def webService : JsonObject :=
  shopManifest "Service" "web" [("type", .str "ClusterIP")]

/-- A backend that is the Service `web`. -/
def webBackend : Json :=
  .dict [("service", .dict [("name", .str "web")])]

/-- An Ingress without rules. -/
def defaultIngress : JsonObject :=
  shopManifest "Ingress" "front" [("defaultBackend", webBackend)]

/-- An Ingress with one path. -/
def pathIngress : JsonObject :=
  shopManifest "Ingress" "front"
    [("rules",
      .list [.dict [("http",
        .dict [("paths", .list [.dict [("backend", webBackend)]])])]])]

def webKey : ServiceKey := ("shop", "web")

/-- A Service behind a default backend is reported as internal. -/
theorem default_backend_missed :
    ∃ graph, buildGraph [webService, defaultIngress] = .ok graph ∧
      ¬ List.Forall₂ (ReportsExposure [webService, defaultIngress] ∅)
        (serviceIdentities [webService, defaultIngress])
        (discoverExposure graph ∅) := by
  refine ⟨graphOf [webService, defaultIngress], buildGraph_of_readable rfl, ?_⟩
  have exposed : Exposed [webService, defaultIngress] webKey :=
    .inr (.inr ⟨defaultIngress, by simp, rfl, rfl, rfl⟩)
  have reported :
      discoverExposure (graphOf [webService, defaultIngress]) ∅ =
        [⟨"shop/web", .internal, .internal, false, .low⟩] := by
    decide +kernel
  have identities : serviceIdentities [webService, defaultIngress] =
      [webKey] := by
    decide +kernel
  rw [reported, identities]
  intro reports
  cases reports with
  | cons here _ =>
      have external := here.external.mpr exposed
      cases external

/-- Behind a path the same Service is reported as external. -/
theorem exposure_complete_of_path :
    ∃ graph, buildGraph [webService, pathIngress] = .ok graph ∧
      List.Forall₂ (ReportsExposure [webService, pathIngress] ∅)
        (serviceIdentities [webService, pathIngress])
        (discoverExposure graph ∅) := by
  have built : buildGraph [webService, pathIngress] =
      .ok (graphOf [webService, pathIngress]) :=
    buildGraph_of_readable rfl
  refine ⟨_, built, (exposure_complete_iff built ∅).mpr ?_⟩
  rintro key - ⟨manifest, member, isOfKind, -, routes⟩
  have isService : webService.get? "kind" = some (.str "Service") := rfl
  have noDefault : manifestAt pathIngress
      ["spec", "defaultBackend", "service", "name"] = none := rfl
  rcases List.mem_cons.mp member with rfl | rest
  · rw [IsOfKind, isService] at isOfKind
    simp at isOfKind
  · rw [List.mem_singleton.mp rest, RoutesByDefault, noDefault] at routes
    cases routes

end Example

end ArgosCyberTools.Graph
