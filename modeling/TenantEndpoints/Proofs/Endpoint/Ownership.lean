import TenantEndpoints.Proofs.Endpoint.Outcome

/-!
# Who owns what

The names of a route's children are derived from its name and cannot be
confused with those of other children, and a child refers to its route by uid.
So long as nothing else is done to a cluster, every secret and every middleware
but some that belong to nobody is a child of a route that is there.
-/
namespace TenantEndpoints.Endpoint

theorem stripPrefixName_injective {a b : String} (h : stripPrefixName a = stripPrefixName b) :
    a = b := (String.append_right_inj _).1 h

theorem basicAuthName_injective {a b : String} (h : basicAuthName a = basicAuthName b) :
    a = b := (String.append_right_inj _).1 h

theorem secretName_injective {a b : String} (h : secretName a = secretName b) : a = b :=
  (String.append_left_inj _).1 h

theorem stripPrefixName_ne_basicAuthName (a b : String) : stripPrefixName a ≠ basicAuthName b := by
  intro h
  have hl := congrArg (fun s => s.toList.head?) h
  simp [stripPrefixName, basicAuthName] at hl

/-- How an endpoint may call what it owns of a kind. -/
def derivations : Kind → List (String → String)
  | .middleware => [stripPrefixName, basicAuthName]
  | .secret => [secretName]
  | .ingressRoute | .service => []

/-- Two derived names are only the same if they are derived in the same way from
the same name. -/
theorem eq_of_derived_eq {k : Kind} {derive derive' : String → String}
    (h : derive ∈ derivations k) (h' : derive' ∈ derivations k) {a b : String}
    (he : derive a = derive' b) : derive = derive' ∧ a = b := by
  cases k with
  | ingressRoute | service => cases h
  | secret =>
    obtain rfl := List.mem_singleton.1 h
    obtain rfl := List.mem_singleton.1 h'
    exact ⟨rfl, secretName_injective he⟩
  | middleware =>
    simp only [derivations, List.mem_cons, List.not_mem_nil, or_false] at h h'
    rcases h with rfl | rfl <;> rcases h' with rfl | rfl
    · exact ⟨rfl, stripPrefixName_injective he⟩
    · exact absurd he (stripPrefixName_ne_basicAuthName a b)
    · exact absurd he.symm (stripPrefixName_ne_basicAuthName b a)
    · exact ⟨rfl, basicAuthName_injective he⟩

/-- A name that an endpoint may give to a middleware. -/
def IsDerived (name : String) : Prop := ∃ derive ∈ derivations .middleware, ∃ a, name = derive a

theorem not_isDerived_shared {shared : SharedMiddlewares} {m : Middleware}
    (h : m ∈ shared.both) : ¬ IsDerived m.key.name := by
  rintro ⟨derive, hd, a, he⟩
  have hl := congrArg (fun s => s.toList.head?) he
  simp only [derivations, List.mem_cons, List.not_mem_nil, or_false] at hd
  simp only [SharedMiddlewares.both, List.mem_cons, List.not_mem_nil, or_false] at h
  rcases h with rfl | rfl <;> rcases hd with rfl | rfl <;>
    simp [SharedMiddlewares.activityMiddleware, SharedMiddlewares.cacheMiddleware,
      SharedMiddlewares.plugin, SharedMiddlewares.activityName, SharedMiddlewares.cacheName,
      Resource.key, Resource.displayName, Metadata.displayName, stripPrefixName,
      basicAuthName] at hl

/-- A resource that belongs to a route. -/
structure ChildOf (route : IngressRoute) {k : Kind} (r : Resource k) : Prop where
  ns : r.key.ns = route.key.ns
  name : ∃ derive ∈ derivations k, r.key.name = derive route.key.name
  owned : ∃ owner, ownerReference? route = some owner ∧ r.metadata.ownerReferences = some [owner]

section ChildOf
variable {k : Kind} {route route' : IngressRoute} {r : Resource k}

theorem owner_uid {owner : OwnerReference} (h : ownerReference? route = some owner) :
    route.metadata.uid = some owner.uid := by
  simp only [ownerReference?, Option.bind_eq_bind, Option.bind_eq_some_iff] at h
  obtain ⟨name, _, uid, huid, he⟩ := h
  cases he
  exact huid

/-- A child under a derived name is a child of the route that the name is derived from. -/
theorem ChildOf.route_key (h : ChildOf route r) {derive : String → String}
    (hd : derive ∈ derivations k) {key : Key} (hk : r.key = ⟨key.ns, derive key.name⟩) :
    route.key = key := by
  obtain ⟨derive', hd', hname⟩ := h.name
  have hns := h.ns
  rw [hk] at hname hns
  obtain ⟨_, hname⟩ := eq_of_derived_eq hd hd' hname
  calc route.key = ⟨route.key.ns, route.key.name⟩ := rfl
    _ = ⟨key.ns, key.name⟩ := by rw [← hns, ← hname]
    _ = key := rfl

/-- A child goes with the routes that have the uid of its owner. -/
theorem ChildOf.hangsOn_iff (h : ChildOf route r) :
    Cluster.hangsOn r route' = true ↔ route'.metadata.uid = route.metadata.uid := by
  obtain ⟨owner, ho, hr⟩ := h.owned
  rw [owner_uid ho, Cluster.hangsOn, Option.any_eq_true]
  simp only [Metadata.isOwnedBy, hr, Option.getD_some, List.any_cons, List.any_nil, Bool.or_false,
    decide_eq_true_eq]
  constructor
  · rintro ⟨uid, hu, rfl⟩
    exact hu
  · intro hu
    exact ⟨owner.uid, hu, rfl⟩

/-- What is stored of a child is a child too. -/
theorem ChildOf.made (h : ChildOf route r) (uid : String) :
    ChildOf route (r.stored.withUid uid) := by
  have hkey : (r.stored.withUid uid).key = r.key := by cases k <;> rfl
  have howners : (r.stored.withUid uid).metadata.ownerReferences = r.metadata.ownerReferences := by
    cases k <;> rfl
  exact ⟨by rw [hkey]; exact h.ns, by rw [hkey]; exact h.name, by rw [howners]; exact h.owned⟩

theorem childOf_of_mem_children {useBasicAuth : Bool} {owner : OwnerReference}
    {credentials : Credentials} (ho : ownerReference? route = some owner)
    (hr : ⟨r⟩ ∈ children useBasicAuth route owner credentials) : ChildOf route r := by
  unfold children at hr
  rcases List.mem_cons.1 hr with he | hr
  · cases he
    exact ⟨rfl, ⟨stripPrefixName, by simp [derivations], rfl⟩, owner, ho, rfl⟩
  · cases useBasicAuth with
    | false => cases hr
    | true =>
      simp only [if_true, List.mem_cons, List.not_mem_nil, or_false] at hr
      rcases hr with he | he
      · cases he
        exact ⟨rfl, ⟨secretName, by simp [derivations], rfl⟩, owner, ho, rfl⟩
      · cases he
        exact ⟨rfl, ⟨basicAuthName, by simp [derivations], rfl⟩, owner, ho, rfl⟩

end ChildOf

/-- Nobody owns what is shared. -/
theorem kind_of_mem_shared {shared : SharedMiddlewares} {k : Kind} {r : Resource k}
    (h : ⟨r⟩ ∈ shared.resources) : k = .middleware ∧ r.metadata.ownerReferences = none := by
  simp only [SharedMiddlewares.resources, SharedMiddlewares.both, List.map_cons, List.map_nil,
    List.mem_cons, List.not_mem_nil, or_false] at h
  rcases h with he | he <;> cases he <;> exact ⟨rfl, rfl⟩

namespace Begun
variable {config : Config} {useBasicAuth : Bool} {submitted : IngressRoute} {c c' : Cluster}
  {owner : OwnerReference} {credentials : Credentials} {rs : List AnyResource}

/-- What is created after a route is its child or shared. -/
theorem childOf_or_shared (h : Begun config useBasicAuth submitted c owner credentials rs c')
    {k : Kind} {r : Resource k} (hr : ⟨r⟩ ∈ rs) :
    ChildOf (c.made submitted) r ∨ ⟨r⟩ ∈ config.shared.resources := by
  rcases List.mem_append.1 (h.part.subset hr) with hr | hr
  · exact .inl (childOf_of_mem_children h.ownerReference hr)
  · exact .inr hr

theorem kind_of_mem (h : Begun config useBasicAuth submitted c owner credentials rs c')
    {k : Kind} {r : Resource k} (hr : ⟨r⟩ ∈ rs) : k = .middleware ∨ k = .secret := by
  rcases h.childOf_or_shared hr with hr | hr
  · obtain ⟨derive, hd, _⟩ := hr.name
    cases k with
    | middleware => exact .inl rfl
    | secret => exact .inr rfl
    | ingressRoute | service => cases hd
  · exact .inl (kind_of_mem_shared hr).1

/-- Of other kinds there is nothing new but the route. -/
theorem find?_of_ne (h : Begun config useBasicAuth submitted c owner credentials rs c')
    {k : Kind} (hm : k ≠ .middleware) (hs : k ≠ .secret) {key : Key}
    (hkey : k = .ingressRoute → key ≠ submitted.key) : c'.find? k key = c.find? k key := by
  rw [h.grows.find?_of_forall_ne, Cluster.find?_grown_of_ne c submitted hkey]
  intro r hr
  rcases h.kind_of_mem hr with he | he
  · exact absurd he hm
  · exact absurd he hs

end Begun

end TenantEndpoints.Endpoint
