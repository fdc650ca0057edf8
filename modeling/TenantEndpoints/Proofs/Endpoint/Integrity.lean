import TenantEndpoints.Proofs.Endpoint.Ownership

/-!
# Integrity

Two invariants of a cluster that only endpoint operations work on. Whatever is
there is a child of a route that is there, unless it is of a kind or under a key
that is exempt from that. And a route that has been provided with its children
keeps exactly these until it is deleted.
-/
namespace TenantEndpoints.Endpoint

/-- Middlewares that belong to no endpoint may be under some keys. Shared ones
are, and the names of children are not among these keys. -/
structure Exempts (shared : SharedMiddlewares) (exempt : Key → Prop) : Prop where
  shared : ∀ m ∈ shared.both, exempt m.key
  underived : ∀ key, exempt key → ¬ IsDerived key.name

/-- Under these keys there may be resources of a kind that belong to no route. -/
def StandsAlone (exempt : Key → Prop) : Kind → Key → Prop
  | .ingressRoute, _ | .service, _ => True
  | .middleware, key => exempt key
  | .secret, _ => False

/-- A resource under a key is a child of a route that is there. -/
def HasParent (c : Cluster) {k : Kind} (key : Key) (r : Resource k) : Prop :=
  r.key = key ∧ ∃ route, c.find? .ingressRoute route.key = some route ∧ ChildOf route r

/-- Routes have uids of their own, and what cannot stand alone has a parent. -/
structure Owned (exempt : Key → Prop) (c : Cluster) : Prop where
  route_key : ∀ {key : Key} {route : IngressRoute},
    c.find? .ingressRoute key = some route → route.key = key
  route_uid : ∀ {key : Key} {route : IngressRoute}, c.find? .ingressRoute key = some route →
    ∃ n, n ≤ c.created ∧ route.metadata.uid = some (Cluster.uid n)
  route_unique : ∀ {key key' : Key} {route route' : IngressRoute},
    c.find? .ingressRoute key = some route → c.find? .ingressRoute key' = some route' →
    route.metadata.uid = route'.metadata.uid → key = key'
  parent : ∀ {k : Kind} {key : Key} {r : Resource k}, c.find? k key = some r →
    StandsAlone exempt k key ∨ HasParent c key r

section Owned
variable {exempt : Key → Prop} {c c' : Cluster} {rs : List AnyResource}

/-- Where no derived name stands alone, nothing is under the names of a route's
children if there is no such route. -/
theorem Owned.find?_derived (h : Owned exempt c) (hexempt : ∀ key, exempt key → ¬ IsDerived key.name)
    {k : Kind} {derive : String → String} (hd : derive ∈ derivations k) {key : Key}
    (hfree : c.find? .ingressRoute key = none) : c.find? k ⟨key.ns, derive key.name⟩ = none := by
  cases hx : c.find? k ⟨key.ns, derive key.name⟩ with
  | none => rfl
  | some x =>
    rcases h.parent hx with halone | ⟨hkey, route, hroute, hchild⟩
    · cases k with
      | ingressRoute | service => cases hd
      | secret => exact halone.elim
      | middleware => exact absurd ⟨derive, hd, key.name, rfl⟩ (hexempt _ halone)
    · rw [hchild.route_key hd hkey, hfree] at hroute
      cases hroute

theorem Owned.find?_child (h : Owned exempt c) (hexempt : ∀ key, exempt key → ¬ IsDerived key.name)
    {k : Kind} {r : Resource k} {route : IngressRoute} (hchild : ChildOf route r)
    (hfree : c.find? .ingressRoute route.key = none) : c.find? k r.key = none := by
  obtain ⟨derive, hd, hname⟩ := hchild.name
  have hkey : r.key = ⟨route.key.ns, derive route.key.name⟩ := by rw [← hchild.ns, ← hname]
  rw [hkey]
  exact h.find?_derived hexempt hd hfree

/-- Ownership survives what is created if that has a parent or may stand alone. -/
theorem Owned.grows (h : Owned exempt c) (hg : c.Grows rs c')
    (hroutes : ∀ r r' : IngressRoute, ⟨r⟩ ∈ rs → ⟨r'⟩ ∈ rs → r.key = r'.key)
    (hrs : ∀ {k : Kind} {r : Resource k}, ⟨r⟩ ∈ rs → StandsAlone exempt k r.key ∨
      ∃ route, c'.find? .ingressRoute route.key = some route ∧ ChildOf route r) :
    Owned exempt c' := by
  have hcreated : c.created ≤ c'.created := by
    rw [hg.created_eq]
    omega
  have hkey {k : Kind} (r : Resource k) (uid : String) : (r.stored.withUid uid).key = r.key := by
    cases k <;> rfl
  refine ⟨fun hx => ?_, fun hx => ?_, fun hx hy huid => ?_, fun hx => ?_⟩
  · rcases hg.eq_or_mem_of_find? hx with hold | ⟨r, _, rfl, _, n, _, _, rfl⟩
    · exact h.route_key hold
    · exact hkey r _
  · rcases hg.eq_or_mem_of_find? hx with hold | ⟨r, _, rfl, _, n, _, hn, rfl⟩
    · obtain ⟨n, hn, huid⟩ := h.route_uid hold
      exact ⟨n, by omega, huid⟩
    · exact ⟨n, hn, rfl⟩
  · rcases hg.eq_or_mem_of_find? hx with hold | ⟨r, hr, rfl, _, n, hn, _, rfl⟩ <;>
      rcases hg.eq_or_mem_of_find? hy with hold' | ⟨r', hr', rfl, _, n', hn', _, rfl⟩
    · exact h.route_unique hold hold' huid
    · obtain ⟨n, hn, hu⟩ := h.route_uid hold
      have he : n = n' := Cluster.uid_injective (Option.some.inj (hu.symm.trans huid))
      omega
    · obtain ⟨n', hn', hu⟩ := h.route_uid hold'
      have he : n = n' := Cluster.uid_injective (Option.some.inj (huid.trans hu))
      omega
    · exact hroutes r r' hr hr'
  · rcases hg.eq_or_mem_of_find? hx with hold | ⟨r, hr, rfl, _, n, _, _, rfl⟩
    · rcases h.parent hold with halone | ⟨hk, route, hroute, hchild⟩
      · exact .inl halone
      · exact .inr ⟨hk, route, hg.find?_of_some hroute, hchild⟩
    · rcases hrs hr with halone | ⟨route, hroute, hchild⟩
      · exact .inl halone
      · exact .inr ⟨hkey r _, route, hroute, hchild.made _⟩

/-- Ownership survives the deletion of a route, since all of its children go with it. -/
theorem Owned.without (h : Owned exempt c) {key : Key} {route : IngressRoute}
    (hroute : c.find? .ingressRoute key = some route) : Owned exempt (c.without key route) := by
  have hold {key' : Key} {r : IngressRoute}
      (hr : (c.without key route).find? .ingressRoute key' = some r) :
      key' ≠ key ∧ c.find? .ingressRoute key' = some r := by
    rw [Cluster.find?_route_without] at hr
    split at hr
    · cases hr
    · next hne => exact ⟨hne, hr⟩
  refine ⟨fun hx => h.route_key (hold hx).2, fun hx => h.route_uid (hold hx).2,
    fun hx hy => h.route_unique (hold hx).2 (hold hy).2, ?_⟩
  intro k key' r hr
  by_cases hkr : k = .ingressRoute
  · subst hkr
    exact .inl trivial
  by_cases hks : k = .service
  · subst hks
    exact .inl trivial
  rw [Cluster.find?_without c key route hkr hks] at hr
  obtain ⟨hr, hstays⟩ := Option.filter_eq_some_iff.1 hr
  rcases h.parent hr with halone | ⟨hk, parent, hparent, hchild⟩
  · exact .inl halone
  refine .inr ⟨hk, parent, ?_, hchild⟩
  rw [Cluster.find?_route_without, if_neg, hparent]
  intro he
  rw [he, hroute] at hparent
  cases hparent
  rw [hchild.hangsOn_iff.2 rfl] at hstays
  cases hstays

end Owned

/-- The children that were made for a route are there, and nothing else is under
the names of its children. -/
structure Whole (c : Cluster) (route : IngressRoute) (useBasicAuth : Bool)
    (owner : OwnerReference) (credentials : Credentials) : Prop where
  ownerReference : ownerReference? route = some owner
  stored : ∀ {k : Kind} {r : Resource k}, ⟨r⟩ ∈ children useBasicAuth route owner credentials →
    ∃ uid, c.find? k r.key = some (r.stored.withUid uid)
  nothingElse : ∀ {k : Kind} {derive : String → String}, derive ∈ derivations k →
    c.find? k ⟨route.key.ns, derive route.key.name⟩ ≠ none →
    ∃ r : Resource k, ⟨r⟩ ∈ children useBasicAuth route owner credentials ∧
      r.key = ⟨route.key.ns, derive route.key.name⟩

/-- None of some resources has the name of a child of a route. -/
def Avoid (route : IngressRoute) (rs : List AnyResource) : Prop :=
  ∀ {k : Kind} {r : Resource k}, ⟨r⟩ ∈ rs → ∀ derive ∈ derivations k,
    r.key ≠ ⟨route.key.ns, derive route.key.name⟩

theorem avoid_shared {shared : SharedMiddlewares} {route : IngressRoute} {rs : List AnyResource}
    (h : ∀ r ∈ rs, r ∈ shared.resources) : Avoid route rs := by
  intro k r hr derive hd hkey
  obtain ⟨m, hm, he⟩ := List.mem_map.1 (h _ hr)
  cases he
  have hname : m.key.name = derive route.key.name := congrArg Key.name hkey
  exact not_isDerived_shared hm ⟨derive, hd, _, hname⟩

section Whole
variable {exempt : Key → Prop} {c c' : Cluster} {rs : List AnyResource} {route : IngressRoute}
  {useBasicAuth : Bool} {owner : OwnerReference} {credentials : Credentials}

theorem Whole.grows (h : Whole c route useBasicAuth owner credentials) (hg : c.Grows rs c')
    (hrs : Avoid route rs) : Whole c' route useBasicAuth owner credentials := by
  refine ⟨h.ownerReference, fun hr => ?_, fun hd hx => ?_⟩
  · obtain ⟨uid, hfound⟩ := h.stored hr
    exact ⟨uid, hg.find?_of_some hfound⟩
  · apply h.nothingElse hd
    rwa [hg.find?_of_forall_ne fun r hr => hrs hr _ hd] at hx

/-- A route keeps its children when another one is deleted. -/
theorem Whole.without (h : Whole c route useBasicAuth owner credentials) (howned : Owned exempt c)
    {key : Key} {other : IngressRoute} (hroute : c.find? .ingressRoute route.key = some route)
    (hother : c.find? .ingressRoute key = some other) (hne : route.key ≠ key) :
    Whole (c.without key other) route useBasicAuth owner credentials := by
  have hkinds {k : Kind} {derive : String → String} (hd : derive ∈ derivations k) :
      k ≠ .ingressRoute ∧ k ≠ .service := by
    cases k with
    | ingressRoute | service => cases hd
    | _ => exact ⟨nofun, nofun⟩
  refine ⟨h.ownerReference, fun {k r} hr => ?_, fun {k derive} hd hx => ?_⟩
  · have hchild := childOf_of_mem_children h.ownerReference hr
    obtain ⟨derive, hd, _⟩ := hchild.name
    obtain ⟨uid, hfound⟩ := h.stored hr
    have hstays : Cluster.hangsOn (r.stored.withUid uid) other = false := by
      rw [Bool.eq_false_iff]
      intro hhangs
      have huid := (hchild.made uid).hangsOn_iff.1 hhangs
      exact hne (howned.route_unique hroute hother huid.symm)
    refine ⟨uid, ?_⟩
    rw [Cluster.find?_without c key other (hkinds hd).1 (hkinds hd).2, hfound]
    exact Option.filter_some_pos (by simp [hstays])
  · apply h.nothingElse hd
    intro hnone
    rw [Cluster.find?_without c key other (hkinds hd).1 (hkinds hd).2, hnone] at hx
    exact hx rfl

/-- A route with basic authentication has its secret and the middleware that names it. -/
theorem Whole.hasCredentials (h : Whole c route true owner credentials) :
    ∃ (m : Middleware) (s : Secret),
    c.find? .middleware ⟨route.key.ns, basicAuthName route.key.name⟩ = some m ∧
      m.spec = .basicAuth (secretName route.key.name) ∧
      c.find? .secret ⟨route.key.ns, secretName route.key.name⟩ = some s := by
  obtain ⟨uid, hm⟩ := h.stored (r := basicAuth route owner) (by simp [children])
  obtain ⟨uid', hs⟩ := h.stored (r := basicAuthSecret route owner credentials) (by simp [children])
  exact ⟨_, _, hm, rfl, hs⟩

theorem Whole.hasNoCredentials (h : Whole c route false owner credentials) :
    c.find? .middleware ⟨route.key.ns, basicAuthName route.key.name⟩ = none ∧
      c.find? .secret ⟨route.key.ns, secretName route.key.name⟩ = none := by
  have hbasic : basicAuthName ∈ derivations .middleware := by simp [derivations]
  have hsecret : secretName ∈ derivations .secret := by simp [derivations]
  constructor
  · cases hm : c.find? .middleware ⟨route.key.ns, basicAuthName route.key.name⟩ with
    | none => rfl
    | some m =>
      obtain ⟨r, hr, hkey⟩ := h.nothingElse hbasic (by rw [hm]; exact Option.some_ne_none m)
      cases List.mem_singleton.1 hr
      exact absurd (congrArg Key.name hkey) (stripPrefixName_ne_basicAuthName _ _)
  · cases hs : c.find? .secret ⟨route.key.ns, secretName route.key.name⟩ with
    | none => rfl
    | some s =>
      obtain ⟨r, hr, _⟩ := h.nothingElse hsecret (by rw [hs]; exact Option.some_ne_none s)
      cases List.mem_singleton.1 hr

end Whole

namespace Begun
variable {exempt : Key → Prop} {config : Config} {useBasicAuth : Bool} {submitted : IngressRoute}
  {c c' : Cluster} {owner : OwnerReference} {credentials : Credentials} {rs : List AnyResource}

theorem grows_all (h : Begun config useBasicAuth submitted c owner credentials rs c') :
    c.Grows (⟨submitted⟩ :: rs) c' := .create h.free h.grows

theorem eq_of_mem_route (h : Begun config useBasicAuth submitted c owner credentials rs c')
    {r : IngressRoute} (hr : ⟨r⟩ ∈ (⟨submitted⟩ :: rs : List AnyResource)) : r = submitted := by
  rcases List.mem_cons.1 hr with he | hr
  · cases he
    rfl
  · rcases h.kind_of_mem hr with hk | hk <;> cases hk

theorem owned (h : Begun config useBasicAuth submitted c owner credentials rs c')
    (howned : Owned exempt c) (hexempt : Exempts config.shared exempt) : Owned exempt c' := by
  refine howned.grows h.grows_all (fun r r' hr hr' => ?_) fun {k r} hr => ?_
  · rw [h.eq_of_mem_route hr, h.eq_of_mem_route hr']
  · rcases List.mem_cons.1 hr with he | hr
    · cases he
      exact .inl trivial
    · rcases h.childOf_or_shared hr with hchild | hshared
      · refine .inr ⟨c.made submitted, ?_, hchild⟩
        rw [Cluster.key_made]
        exact h.find?_route
      · obtain ⟨m, hm, he⟩ := List.mem_map.1 hshared
        cases he
        exact .inl (hexempt.shared m hm)

/-- Nothing that is created is in the way of other routes. -/
theorem avoid (h : Begun config useBasicAuth submitted c owner credentials rs c')
    {route : IngressRoute} (hne : route.key ≠ submitted.key) :
    Avoid route (⟨submitted⟩ :: rs) := by
  intro k r hr derive hd hkey
  rcases List.mem_cons.1 hr with he | hr
  · cases he
    cases hd
  rcases h.childOf_or_shared hr with hchild | hshared
  · have hparent : submitted.key = route.key := hchild.route_key hd hkey
    exact hne hparent.symm
  · have havoid : Avoid route config.shared.resources := avoid_shared fun _ hx => hx
    exact havoid hshared derive hd hkey

/-- A route whose children found their names free has them there, and nothing else. -/
theorem whole_of_free (h : Begun config useBasicAuth submitted c owner credentials rs c')
    (hfree : ∀ {k : Kind} {derive : String → String}, derive ∈ derivations k →
      c.find? k ⟨submitted.key.ns, derive submitted.key.name⟩ = none)
    (hchildren : (children useBasicAuth (c.made submitted) owner credentials).Sublist rs) :
    Whole c' (c.made submitted) useBasicAuth owner credentials := by
  refine ⟨h.ownerReference, fun hr => ?_, fun {k derive} hd hx => ?_⟩
  · obtain ⟨_, n, _, _, hfound⟩ := h.grows.find?_of_mem (hchildren.subset hr)
    exact ⟨_, hfound⟩
  · rw [Cluster.key_made] at hx ⊢
    obtain ⟨x, hx⟩ := Option.ne_none_iff_exists'.1 hx
    rcases h.grows_all.eq_or_mem_of_find? hx with hold | ⟨r, hr, hkey, _⟩
    · rw [hfree hd] at hold
      cases hold
    · rcases List.mem_cons.1 hr with he | hr
      · cases he
        cases hd
      rcases List.mem_append.1 (h.part.subset hr) with hr | hr
      · exact ⟨r, hr, hkey⟩
      · have ha : Avoid submitted config.shared.resources := avoid_shared fun _ hx => hx
        exact absurd hkey (ha hr derive hd)

/-- A route under a free key finds no others under the names of its children. -/
theorem whole (h : Begun config useBasicAuth submitted c owner credentials rs c')
    (howned : Owned exempt c) (hexempt : Exempts config.shared exempt)
    (hchildren : (children useBasicAuth (c.made submitted) owner credentials).Sublist rs) :
    Whole c' (c.made submitted) useBasicAuth owner credentials :=
  h.whole_of_free (fun hd => howned.find?_derived hexempt.underived hd h.free) hchildren

end Begun

end TenantEndpoints.Endpoint
