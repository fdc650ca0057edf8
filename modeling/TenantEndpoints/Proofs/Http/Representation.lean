import TenantEndpoints.Proofs.Endpoint.Course
import TenantEndpoints.Proofs.Endpoint.Credentials
import TenantEndpoints.Proofs.Http.Table

/-!
# Clusters that represent tables

A cluster on which only the API works represents a table: under the key of each
row there is a route with all of its children that shows what the row has, and
there are no other routes. What is looked for in the cluster is found in the
table, and both change in the same way.
-/
namespace TenantEndpoints.Http

open Endpoint

/-- A key under which no endpoint has a middleware. -/
def Underived (key : Key) : Prop := ¬ IsDerived key.name

theorem exempts_underived (shared : SharedMiddlewares) : Exempts shared Underived :=
  ⟨fun _ hm => not_isDerived_shared hm, fun _ h => h⟩

/-- A route shows what a row has. -/
structure Shows (c : Cluster) (row : Row) (route : IngressRoute) : Prop where
  tenant : route.labels.find? Labels.userId = some row.tenant
  createdBy : route.labels.find? Labels.createdBy = some Labels.createdByValue
  view : ∃ useBasicAuth owner credentials, Whole c route useBasicAuth owner credentials ∧
    row.view = View.ofRoute route (if useBasicAuth then some credentials else none)

/-- A cluster has the endpoints of a table and no others. -/
structure Represents (services : Store .service) (table : Table) (c : Cluster) : Prop where
  services : c.services = services
  owned : Owned Underived c
  missing : ∀ {key : Key}, table.find? key = none ↔ c.find? .ingressRoute key = none
  shows : ∀ {key : Key} {row : Row} {route : IngressRoute}, table.find? key = some row →
    c.find? .ingressRoute key = some route → Shows c row route

section Represents
variable {services : Store .service} {table : Table} {c c' : Cluster} {key : Key} {row : Row}
  {route : IngressRoute}

theorem Represents.exists_route (h : Represents services table c) (hrow : table.find? key = some row) :
    ∃ route, c.find? .ingressRoute key = some route ∧ Shows c row route := by
  have hne : c.find? .ingressRoute key ≠ none := by
    intro hnone
    rw [h.missing.2 hnone] at hrow
    cases hrow
  obtain ⟨route, hroute⟩ := Option.ne_none_iff_exists'.1 hne
  exact ⟨route, hroute, h.shows hrow hroute⟩

theorem Represents.exists_row (h : Represents services table c)
    (hroute : c.find? .ingressRoute key = some route) :
    ∃ row, table.find? key = some row ∧ Shows c row route := by
  have hne : table.find? key ≠ none := by
    intro hnone
    rw [h.missing.1 hnone] at hroute
    cases hroute
  obtain ⟨row, hrow⟩ := Option.ne_none_iff_exists'.1 hne
  exact ⟨row, hrow, h.shows hrow hroute⟩

theorem isOwnedBy_iff (h : Shows c row route) {user : String} :
    isOwnedBy route user = true ↔ row.tenant = user := by
  unfold isOwnedBy
  rw [h.tenant, decide_eq_true_eq]
  exact ⟨fun he => Option.some.inj he, fun he => congrArg some he⟩

/-- A tenant sees a route if and only if the tenant has a row. -/
theorem visible_found (h : Represents services table c) {ns name : String} (user : String)
    {deadline : Instant} {found : Except Failure IngressRoute}
    (hs : c.Serves .none [⟨.get .ingressRoute ns name, deadline, found⟩] c') :
    c' = c ∧ match table.owned? ⟨ns, name⟩ user with
      | some row => ∃ route, visible name user found = .ok route ∧
        c.find? .ingressRoute ⟨ns, name⟩ = some route ∧ Shows c row route
      | none => ∃ failure, visible name user found = .error failure ∧ failure.class = .notFound := by
  obtain ⟨c₁, hget, rfl⟩ := hs
  obtain ⟨rfl, hfound⟩ := Cluster.meets_get hget
  refine ⟨rfl, ?_⟩
  unfold Table.owned?
  rcases hfound with ⟨route, he, hroute⟩ | ⟨failure, he, hmay | ⟨hnone, hf⟩⟩
  · obtain ⟨row, hrow, hshows⟩ := h.exists_row hroute
    have hiff : isOwnedBy route user = true ↔ row.tenant = user := isOwnedBy_iff hshows
    change found = .ok route at he
    rw [he, hrow]
    by_cases ht : row.tenant = user
    · rw [Option.filter_some_pos (by simpa using ht)]
      exact ⟨route, by simp only [visible, hiff.2 ht, if_true], hroute, hshows⟩
    · rw [Option.filter_some_neg (by simpa using ht)]
      have hother : isOwnedBy route user = false := by
        rw [Bool.eq_false_iff]
        exact fun ho => ht (hiff.1 ho)
      exact ⟨.notFound Kind.ingressRoute.name name, by simp [visible, hother], rfl⟩
  · exact hmay.elim
  · change found = .error failure at he
    rw [he, hf, h.missing.2 hnone]
    exact ⟨_, rfl, rfl⟩

/-- The credentials that are read are those that the view was made with. -/
theorem credentials_found (h : Represents services table c) {ns name : String}
    {deadline : Instant} {secret : Except Failure Secret}
    (hroute : c.find? .ingressRoute ⟨ns, name⟩ = some route) (hshows : Shows c row route)
    (hs : c.Serves .none [⟨.get .secret ns (secretName name), deadline, secret⟩] c') :
    c' = c ∧ ∃ credentials, credentialsIn secret = .ok credentials ∧
      row.view = View.ofRoute route credentials := by
  obtain ⟨c₁, hget, rfl⟩ := hs
  obtain ⟨rfl, hfound⟩ := Cluster.meets_get hget
  refine ⟨rfl, ?_⟩
  obtain ⟨useBasicAuth, owner, credentials, hwhole, hview⟩ := hshows.view
  have hkey : route.key = ⟨ns, name⟩ := h.owned.route_key hroute
  cases useBasicAuth with
  | true =>
    obtain ⟨uid, hstored⟩ := hwhole.stored (r := basicAuthSecret route owner credentials)
      (by simp [children])
    have hsecret : (basicAuthSecret route owner credentials).key = ⟨ns, secretName name⟩ := by
      calc (basicAuthSecret route owner credentials).key
          = ⟨route.key.ns, secretName route.key.name⟩ := rfl
        _ = ⟨ns, secretName name⟩ := by rw [hkey]
    rw [hsecret] at hstored
    rcases hfound with ⟨x, he, hx⟩ | ⟨failure, _, hmay | ⟨hnone, _⟩⟩
    · change secret = .ok x at he
      rw [hstored] at hx
      cases hx
      refine ⟨some credentials, ?_, hview⟩
      rw [he]
      unfold credentialsIn
      dsimp only
      rw [Credentials.ofSecret_stored]
      rfl
    · exact hmay.elim
    · rw [hstored] at hnone
      cases hnone
  | false =>
    have habsent := hwhole.hasNoCredentials.2
    rw [hkey] at habsent
    rcases hfound with ⟨x, _, hx⟩ | ⟨failure, he, hmay | ⟨_, hf⟩⟩
    · rw [habsent] at hx
      cases hx
    · exact hmay.elim
    · change secret = .error failure at he
      refine ⟨none, ?_, hview⟩
      rw [he, hf]
      rfl

theorem paginate_map (query : ListQuery) (f : α → β) (xs : List α) :
    (query.paginate xs).map f = query.paginate (xs.map f) := by
  unfold ListQuery.paginate
  split
  · rfl
  · rw [List.map_take, List.map_drop]

/-- A route is selected if and only if its row is listed. -/
theorem selects_iff_lists (h : Shows c row route) (ns : String) {user : String} (huser : user ≠ "")
    (query : ListQuery) (key : Key) :
    (key.ns = ns && (ListFilter.selector
        { protocol := query.protocol, network := query.network, userId := some user }).selects
          route.labels) =
      Table.lists ns user query key row := by
  obtain ⟨useBasicAuth, owner, credentials, _, hview⟩ := h.view
  have hprotocol : row.view.protocol = route.labels.find? Labels.protocol := by rw [hview]; rfl
  have hnetwork : row.view.network = route.labels.find? Labels.network := by rw [hview]; rfl
  have huserId : ListFilter.fits (some user) (route.labels.find? Labels.userId) = true ↔
      row.tenant = user := by
    simp [ListFilter.fits, h.tenant, huser]
  rw [Bool.eq_iff_iff, Bool.and_eq_true, ListFilter.selects_selector, huserId, h.createdBy]
  simp only [Table.lists, Bool.and_eq_true, decide_eq_true_eq, hprotocol, hnetwork, true_and]
  constructor
  · rintro ⟨hns, hp, hn, ht⟩
    exact ⟨⟨⟨hns, ht⟩, hp⟩, hn⟩
  · rintro ⟨⟨⟨hns, ht⟩, hp⟩, hn⟩
    exact ⟨hns, hp, hn, ht⟩

/-- A listing of routes is the table's listing of rows. -/
theorem map_list_eq (h : Represents services table c) (ns : String) {user : String} (huser : user ≠ "")
    (query : ListQuery) :
    (c.list .ingressRoute ns (ListFilter.selector
        { protocol := query.protocol, network := query.network, userId := some user })).map
          (View.ofRoute · none) =
      (table.rows ns user query).map fun row => { row.view with basicAuth := none } := by
  apply SortedMap.map_values_eq
  intro key
  rw [SortedMap.find?_filter, SortedMap.find?_filter]
  cases hrow : table.find? key with
  | none =>
    have hnone : (c.store .ingressRoute).find? key = none := h.missing.1 hrow
    rw [hnone]
    rfl
  | some row =>
    obtain ⟨route, hroute, hshows⟩ := h.exists_route hrow
    have hfound : (c.store .ingressRoute).find? key = some route := hroute
    have hlists := selects_iff_lists hshows ns huser query key
    obtain ⟨useBasicAuth, owner, credentials, _, hview⟩ := hshows.view
    rw [hfound, Option.filter, Option.filter, hlists]
    by_cases hl : Table.lists ns user query key row = true
    · rw [if_pos hl, if_pos hl, Option.map_some, Option.map_some, hview]
      rfl
    · rw [if_neg hl, if_neg hl]
      rfl

theorem listed_eq {ns : String} {selector : Selector} {deadline : Instant}
    {listed : Except Failure (List IngressRoute)}
    (hs : c.Serves .none [⟨.list .ingressRoute ns selector, deadline, listed⟩] c') :
    c' = c ∧ listed = .ok (c.list .ingressRoute ns selector) := by
  obtain ⟨c₁, hlist, rfl⟩ := hs
  obtain ⟨rfl, he | ⟨failure, _, hmay⟩⟩ := Cluster.meets_list hlist
  · exact ⟨rfl, he⟩
  · exact hmay.elim

/-- Deleting a route deletes its row. -/
theorem Represents.erase (h : Represents services table c)
    (hroute : c.find? .ingressRoute key = some route) :
    Represents services (table.erase key) (c.without key route) := by
  have hfind (key' : Key) := Cluster.find?_route_without c key route key'
  refine ⟨h.services, h.owned.without hroute, fun {key'} => ?_, fun {key' row other} hrow hother => ?_⟩
  · rw [hfind]
    by_cases hk : key' = key
    · rw [if_pos hk, hk, SortedMap.find?_erase_self]
      exact ⟨fun _ => rfl, fun _ => rfl⟩
    · rw [if_neg hk, SortedMap.find?_erase_of_ne _ hk]
      exact h.missing
  · rw [hfind] at hother
    split at hother
    · cases hother
    next hk =>
    rw [SortedMap.find?_erase_of_ne _ hk] at hrow
    obtain ⟨htenant, hcreatedBy, useBasicAuth, owner, credentials, hwhole, hview⟩ :=
      h.shows hrow hother
    have hkey := h.owned.route_key hother
    have hother' : c.find? .ingressRoute other.key = some other := by rwa [hkey]
    have hne : other.key ≠ key := by rwa [hkey]
    exact ⟨htenant, hcreatedBy, useBasicAuth, owner, credentials,
      hwhole.without h.owned hother' hroute hne, hview⟩

/-- Creating an endpoint adds a row for it. -/
theorem Represents.insert {config : Config} {useBasicAuth : Bool} {submitted : IngressRoute}
    {owner : OwnerReference} {credentials : Credentials} {rs : List AnyResource} {user : String}
    (h : Represents services table c)
    (hbegun : Begun config useBasicAuth submitted c owner credentials rs c')
    (hchildren : (children useBasicAuth (c.made submitted) owner credentials).Sublist rs)
    (htenant : submitted.labels.find? Labels.userId = some user)
    (hcreatedBy : submitted.labels.find? Labels.createdBy = some Labels.createdByValue) :
    Represents services (table.insert submitted.key ⟨user, View.ofRoute (c.made submitted)
      (if useBasicAuth then some credentials else none)⟩) c' := by
  have hroutes {key : Key} (hk : key ≠ submitted.key) :
      c'.find? .ingressRoute key = c.find? .ingressRoute key :=
    hbegun.find?_of_ne (by decide) (by decide) fun _ => hk
  have hservices : c'.services = c.services := SortedMap.ext_find? fun key =>
    hbegun.find?_of_ne (k := .service) (by decide) (by decide) fun he => nomatch he
  refine ⟨hservices.trans h.services,
    hbegun.owned h.owned (exempts_underived config.shared), fun {key} => ?_,
    fun {key row route} hrow hroute => ?_⟩
  · by_cases hk : key = submitted.key
    · rw [hk, SortedMap.find?_insert_self, hbegun.find?_route]
      exact ⟨fun he => (nomatch he), fun he => (nomatch he)⟩
    · rw [SortedMap.find?_insert_of_ne _ _ hk, hroutes hk]
      exact h.missing
  · by_cases hk : key = submitted.key
    · rw [hk, SortedMap.find?_insert_self] at hrow
      rw [hk, hbegun.find?_route] at hroute
      cases hrow
      cases hroute
      exact ⟨htenant, hcreatedBy, useBasicAuth, owner, credentials,
        hbegun.whole h.owned (exempts_underived config.shared) hchildren, rfl⟩
    · rw [SortedMap.find?_insert_of_ne _ _ hk] at hrow
      rw [hroutes hk] at hroute
      obtain ⟨htenant', hcreatedBy', useBasicAuth', owner', credentials', hwhole, hview⟩ :=
        h.shows hrow hroute
      have hne : route.key ≠ submitted.key := by rwa [h.owned.route_key hroute]
      exact ⟨htenant', hcreatedBy', useBasicAuth', owner', credentials',
        hwhole.grows hbegun.grows_all (hbegun.avoid hne), hview⟩

/-- What is shared belongs to no endpoint, so that a table does not tell of it. -/
theorem Represents.shared {config : Config} {rs : List AnyResource}
    (h : Represents services table c) (hrs : ∀ r ∈ rs, r ∈ config.shared.resources)
    (hg : c.Grows rs c') : Represents services table c' := by
  have hsame {k : Kind} (hk : k ≠ .middleware) (key : Key) : c'.find? k key = c.find? k key := by
    refine hg.find?_of_forall_ne fun r hr => ?_
    exact absurd (kind_of_mem_shared (hrs _ hr)).1 hk
  have hservices : c'.services = c.services :=
    SortedMap.ext_find? fun key => hsame (k := .service) (by decide) key
  refine ⟨hservices.trans h.services, ?_, fun {key} => ?_, fun {key row route} hrow hroute => ?_⟩
  · refine h.owned.grows hg (fun r r' hr _ => ?_) fun hr => ?_
    · cases (kind_of_mem_shared (hrs _ hr)).1
    · exact .inl (standsAlone_of_mem_shared (exempts_underived config.shared) (hrs _ hr))
  · rw [hsame (by decide)]
    exact h.missing
  · rw [hsame (by decide)] at hroute
    obtain ⟨htenant, hcreatedBy, useBasicAuth, owner, credentials, hwhole, hview⟩ :=
      h.shows hrow hroute
    exact ⟨htenant, hcreatedBy, useBasicAuth, owner, credentials,
      hwhole.grows hg (avoid_shared hrs), hview⟩

end Represents

/-- A cluster without endpoints, and without anything left of one. -/
structure Endpointless (c : Cluster) : Prop where
  routes : ∀ key, c.find? .ingressRoute key = none
  secrets : ∀ key, c.find? .secret key = none
  middlewares : ∀ {key : Key} {m : Middleware}, c.find? .middleware key = some m → Underived key

/-- A cluster with nothing but services has no endpoints. -/
theorem endpointless_services (services : Store .service) : Endpointless { services } :=
  ⟨fun _ => rfl, fun _ => rfl, fun hm => nomatch hm⟩

theorem Endpointless.represents {c : Cluster} (h : Endpointless c) :
    Represents c.services ∅ c := by
  have hnone {key : Key} {route : IngressRoute} : c.find? .ingressRoute key ≠ some route := by
    rw [h.routes]
    exact nofun
  refine ⟨rfl, ⟨?_, ?_, ?_, ?_⟩, ?_, ?_⟩
  · exact fun hroute => absurd hroute hnone
  · exact fun hroute => absurd hroute hnone
  · exact fun hroute => absurd hroute hnone
  · intro k key r hr
    cases k with
    | ingressRoute | service => exact .inl trivial
    | middleware => exact .inl (h.middlewares hr)
    | secret =>
      rw [h.secrets] at hr
      cases hr
  · intro key
    exact ⟨fun _ => h.routes key, fun _ => rfl⟩
  · exact fun _ hroute => absurd hroute hnone

end TenantEndpoints.Http
