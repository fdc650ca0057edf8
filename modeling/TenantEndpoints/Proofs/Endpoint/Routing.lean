import TenantEndpoints.Proofs.Endpoint.Outcome
import TenantEndpoints.Proofs.Endpoint.PublicId
import TenantEndpoints.Proofs.Resource.Route

/-!
# What the rules of an endpoint take

The rules of a route are texts, and the prefixes to strip, the exposed ports and
the addresses in a view are all read from them again. They are what the route was
planned with if no text in the plan has a mark in it that the reading takes for
one of the rule's own. Only a tenant's id can bring such a mark in: a token has
letters and digits, and a host no backtick.
-/
namespace TenantEndpoints

namespace PublicId

/-- No letter or digit becomes a backtick in lower case. -/
theorem backtick_not_mem_toLower {token : List Char} (h : ∀ c ∈ token, c ∈ RandomSource.alphabet) :
    '\x60' ∉ token.map Char.toLower := by
  intro hmem
  obtain ⟨c, hc, he⟩ := List.mem_map.1 hmem
  have hlower : c.toLower ∈ tokenAlphabet := toLower_mem_tokenAlphabet (h c hc)
  exact absurd (he ▸ hlower) (by decide)

/-- What ends a path prefix can only come into an id from its tenant. -/
theorem not_endMark_infix_ofToken {token : List Char} {tenant : String}
    (htoken : ∀ c ∈ token, c ∈ RandomSource.alphabet)
    (htenant : ¬ RouteRule.endMark <:+: tenantPart tenant) :
    ¬ RouteRule.endMark <:+: (ofToken token tenant).toList := by
  rw [ofToken, String.toList_ofList]
  intro h
  exact htenant (Text.infix_of_infix_append (backtick_not_mem_toLower htoken) h)

variable {σ : Type u} {answerer : Answerer σ}

/-- Every allocated id has a token of its own that was drawn. -/
theorem mem_allocate {P : List Char → Prop} (hdrawn : ∀ s count, P (answerer s (.draw count)).1)
    {length count : Nat} {tenant : String} {s : σ} {id : String}
    (h : id ∈ ((allocate length count tenant).play answerer s).value) :
    ∃ token, P token ∧ id = ofToken token tenant := by
  induction count generalizing s with
  | zero => cases h
  | succ count ih =>
    have hvalue : ((allocate length (count + 1) tenant).play answerer s).value =
        ofToken (answerer s (.draw length)).1 tenant ::
          ((allocate length count tenant).play answerer (answerer s (.draw length)).2).value := by
      simp only [allocate, Program.play_bind]
      rfl
    rw [hvalue] at h
    rcases List.mem_cons.1 h with rfl | h
    · exact ⟨_, hdrawn s length, rfl⟩
    · exact ih h

end PublicId

namespace Endpoint

/-- What is read of a route's rules is that they take some ports under a host. -/
structure RoutesTo (host : String) (ports : List ExposedPort) (route : IngressRoute) : Prop where
  hosts : route.spec.rules.map RouteRule.host? = ports.map fun _ => some host
  prefixes : route.spec.rules.map RouteRule.pathPrefix? = ports.map fun p => some p.publicId
  exposed : exposedPorts route = ports
  stripped (owner : OwnerReference) :
    (stripPrefix route owner).spec = .stripPrefix (ports.map fun p => "/" ++ p.publicId)
  viewed (credentials : Option Credentials) : (View.ofRoute route credentials).ports =
    ports.map fun p => ⟨p.portName, View.address host p.publicId⟩

/-- Nothing is read of a route's metadata here. -/
theorem RoutesTo.withUid {host : String} {ports : List ExposedPort} {route : IngressRoute}
    (h : RoutesTo host ports route) (uid : String) : RoutesTo host ports (route.withUid uid) :=
  ⟨h.hosts, h.prefixes, h.exposed, h.stripped, h.viewed⟩

namespace RoutePlan

/-- No text in a plan has a mark in it that would be taken for one of a rule's own. -/
structure Legible (p : RoutePlan) : Prop where
  host_end : ¬ RouteRule.endMark <:+: p.host.toList
  host_prefix : ¬ RouteRule.prefixMark <:+: p.host.toList
  publicId : ∀ port ∈ p.ports, ¬ RouteRule.endMark <:+: port.publicId.toList

variable {p : RoutePlan} {port : ExposedPort}

/-- What is read of every rule of a planned route is read of every port. -/
theorem filterMap_rules {f : RouteRule → Option β} {g : ExposedPort → β}
    (h : ∀ port ∈ p.ports, f (p.rule port) = some (g port)) :
    p.route.spec.rules.filterMap f = p.ports.map g := by
  have hmap : p.route.spec.rules.map f = p.ports.map (some ∘ g) := by
    rw [route, List.map_map]
    exact List.map_congr_left h
  calc p.route.spec.rules.filterMap f
      = (p.route.spec.rules.map f).filterMap id :=
        (List.filterMap_map (f := f) (g := id)).symm
    _ = (p.ports.map (some ∘ g)).filterMap id := by rw [hmap]
    _ = p.ports.filterMap (some ∘ g) := List.filterMap_map ..
    _ = p.ports.map g := congrFun (List.filterMap_eq_map ..) p.ports

/-- A public id is read from its rule as it is exactly if the end mark is not in it. -/
theorem pathPrefix?_rule_iff (hhost : ¬ RouteRule.prefixMark <:+: p.host.toList)
    (port : ExposedPort) : (p.rule port).pathPrefix? = some port.publicId ↔
      ¬ RouteRule.endMark <:+: port.publicId.toList :=
  RouteRule.between?_prefixMark_iff hhost

namespace Legible

theorem host?_rule (h : p.Legible) (port : ExposedPort) : (p.rule port).host? = some p.host :=
  RouteRule.between?_hostMark h.host_end port.publicId

theorem pathPrefix?_rule (h : p.Legible) (hport : port ∈ p.ports) :
    (p.rule port).pathPrefix? = some port.publicId :=
  (pathPrefix?_rule_iff h.host_prefix port).2 (h.publicId port hport)

theorem exposedPorts_route (h : p.Legible) : exposedPorts p.route = p.ports := by
  have hread : ∀ port ∈ p.ports, (do
      let publicId ← (p.rule port).pathPrefix?
      let service ← (p.rule port).services.head?
      some ⟨publicId, service.port.text⟩ : Option ExposedPort) = some (id port) := by
    intro port hport
    rw [h.pathPrefix?_rule hport]
    rfl
  exact (filterMap_rules hread).trans (List.map_id p.ports)

theorem stripPrefix_route (h : p.Legible) (owner : OwnerReference) :
    (stripPrefix p.route owner).spec = .stripPrefix (p.ports.map fun port => "/" ++ port.publicId) := by
  have hread : p.route.spec.rules.filterMap RouteRule.pathPrefix? = p.ports.map ExposedPort.publicId :=
    filterMap_rules fun port hport => h.pathPrefix?_rule hport
  rw [stripPrefix, hread, List.map_map]
  rfl

/-- The host of the first rule is that of all rules. -/
theorem ports_ofRoute (h : p.Legible) (credentials : Option Credentials) :
    (View.ofRoute p.route credentials).ports =
      p.ports.map fun port => ⟨port.portName, View.address p.host port.publicId⟩ := by
  rw [View.ofRoute, h.exposedPorts_route]
  cases hports : p.ports with
  | nil => rfl
  | cons first rest =>
    have hhost : p.route.spec.rules.head?.bind RouteRule.host? = some p.host := by
      rw [route, hports]
      exact h.host?_rule first
    rw [hhost]
    rfl

/-- The plan of a route can be read from it again. -/
theorem routesTo (h : p.Legible) : RoutesTo p.host p.ports p.route := by
  refine ⟨?_, ?_, h.exposedPorts_route, h.stripPrefix_route, h.ports_ofRoute⟩
  · rw [route, List.map_map]
    exact List.map_congr_left fun port _ => h.host?_rule port
  · rw [route, List.map_map]
    exact List.map_congr_left fun port hport => h.pathPrefix?_rule hport

end Legible

end RoutePlan

variable {config : Config} {request : EndpointRequest} {service : Service} {domain : String}
  {deadline : Instant} {σ : Type u} {answerer : Answerer σ} {s : σ}

/-- Whoever answers, allocating ids makes no call and gives as many as were asked for. -/
theorem play_allocate (answerer : Answerer σ) (length count : Nat) (tenant : String) (s : σ) :
    let play := (PublicId.allocate length count tenant).play answerer s
    play.encounters = [] ∧ play.value.length = count := by
  intro play
  have hplays : (PublicId.allocate length count tenant).Plays Lookup.any play.exchanges play.value :=
    Program.plays_play answerer Lookup.any_apply _ s
  obtain ⟨hnone, hlength⟩ := plays_allocate hplays
  exact ⟨List.map_eq_nil_iff.1 hnone, hlength⟩

/-- The ids that a creation allocates, from the state in which it has learnt its domain. -/
def allocation (config : Config) (request : EndpointRequest) (service : Service)
    (answerer : Answerer σ) (s : σ) : Play σ (List String) :=
  (PublicId.allocate config.idLength (config.ports.eligible service).length
    request.userId).play answerer (answerer s .baseUrl).2

/-- A creation that is not refused and has a domain goes on with the ids that it allocates. -/
theorem play_create (h : refusal? config request service = none)
    (hdomain : (answerer s .baseUrl).1 = .ok domain) :
    let allocated := allocation config request service answerer s
    (create config request service deadline).run.play answerer s =
      (createWith config request service domain allocated.value deadline).run.play answerer
        allocated.state := by
  intro allocated
  have hnone : allocated.encounters = [] := (play_allocate answerer _ _ _ _).1
  have hunder : (create config request service deadline).run.play answerer s =
      (createUnder config request service domain deadline).run.play answerer
        (answerer s .baseUrl).2 := by
    rw [run_create_eq, h]
    simp only [Program.play, hdomain, Encounter.ofEffect, List.nil_append]
  have hbind := Program.play_bind answerer
    (PublicId.allocate config.idLength (config.ports.eligible service).length request.userId)
    (fun ids => (createWith config request service domain ids deadline).run)
    (answerer s .baseUrl).2
  rw [hunder, run_createUnder_eq, hbind]
  change ({ (createWith config request service domain allocated.value deadline).run.play answerer
    allocated.state with encounters := allocated.encounters ++ _ } : Play σ _) = _
  rw [hnone]
  rfl

/-- A creation that is not refused and has a domain follows the saga of the route with the ids
that it allocates. -/
theorem saga_of_accepted (h : refusal? config request service = none)
    (hdomain : (answerer s .baseUrl).1 = .ok domain) :
    let play := (create config request service deadline).run.play answerer s
    Saga config request.useBasicAuth
      (submission config request service domain (allocation config request service answerer s).value)
      deadline play.exchanges play.value := by
  intro play
  rw [show play = _ from play_create h hdomain]
  exact plays_createWith (Program.plays_play answerer Lookup.any_apply _ _)

theorem saga_of_created {created : Created} (hdomain : (answerer s .baseUrl).1 = .ok domain)
    (hcreated : ((create config request service deadline).run.play answerer s).value = .ok created) :
    Saga config request.useBasicAuth
      (submission config request service domain (allocation config request service answerer s).value)
      deadline ((create config request service deadline).run.play answerer s).exchanges
      (.ok created) := by
  cases hr : refusal? config request service with
  | some failure =>
    rw [run_create_eq, hr] at hcreated
    cases hcreated
  | none =>
    rw [← hcreated]
    exact saga_of_accepted hr hdomain

theorem publicIds_ports {ids names : List String} (h : ids.length = names.length) :
    (List.zipWith ExposedPort.mk ids names).map ExposedPort.publicId = ids := by
  rw [List.map_zipWith, ← List.map_uncurry_zip_eq_zipWith]
  exact List.map_fst_zip (Nat.le_of_eq h)

theorem portNames_ports {ids names : List String} (h : ids.length = names.length) :
    (List.zipWith ExposedPort.mk ids names).map ExposedPort.portName = names := by
  rw [List.map_zipWith, ← List.map_uncurry_zip_eq_zipWith]
  exact List.map_snd_zip (Nat.le_of_eq h.symm)

/-- Whatever a route is made from is legible, but for a tenant whose id has the mark in it
that ends a path prefix. -/
theorem legible_plan {ids : List String} (hdomain : '\x60' ∉ domain.toList)
    (htenant : ¬ RouteRule.endMark <:+: PublicId.tenantPart request.userId)
    (hlength : ids.length = (config.ports.eligible service).length)
    (hids : ∀ id ∈ ids, ∃ token : List Char, (∀ c ∈ token, c ∈ RandomSource.alphabet) ∧
      id = PublicId.ofToken token request.userId) :
    (plan config request service domain
      (List.zipWith ExposedPort.mk ids (config.ports.eligible service))).Legible := by
  have hhost : '\x60' ∉ (host domain).toList := by
    rw [host, String.toList_append]
    exact fun h => (List.mem_append.1 h).elim (by decide) hdomain
  refine ⟨RouteRule.not_mark_infix_of_not_mem (by decide) hhost,
    RouteRule.not_mark_infix_of_not_mem (by decide) hhost, ?_⟩
  intro port hport
  have hid : port.publicId ∈ ids := by
    rw [← publicIds_ports hlength]
    exact List.mem_map_of_mem hport
  obtain ⟨token, htoken, he⟩ := hids port.publicId hid
  rw [he]
  exact PublicId.not_endMark_infix_ofToken htoken htenant

/-- Routes that were created came back as they were given, with a uid. -/
def ReturnsRoutes (t : List Exchange) : Prop :=
  ∀ (submitted : IngressRoute) (deadline : Instant) (route : IngressRoute),
    ⟨.create submitted, deadline, .ok route⟩ ∈ t → ∃ uid, route = submitted.withUid uid

/-- A cluster whose rules only disturb it returns routes as they were given. -/
theorem returnsRoutes_play (s : Surroundings) (p : Program α) {w : World}
    (h : ∀ r ∈ w.rules, r.OnlyDisturbs) :
    ReturnsRoutes (p.play (World.answerer s) w).exchanges := by
  intro submitted deadline route hmem
  obtain ⟨t₁, t₂, ht⟩ := List.mem_iff_append.1 hmem
  have hserves := (World.serves_play s p fun r hr => (h r hr).keeps).1
  rw [ht] at hserves
  obtain ⟨c₁, _, c₂, hcreate, _⟩ := Cluster.serves_append.1 hserves
  rcases Cluster.meets_create hcreate with ⟨_, hne, _⟩ | ⟨_, he, _⟩
  · cases hne
  · cases he
    exact ⟨_, rfl⟩

/-- Of all that a route may need, only one resource strips prefixes. -/
theorem eq_stripPrefix_of_mem {shared : SharedMiddlewares} {useBasicAuth : Bool}
    {route : IngressRoute} {owner : OwnerReference} {credentials : Credentials} {m : Middleware}
    (hm : ⟨m⟩ ∈ children useBasicAuth route owner credentials ++ shared.resources)
    {prefixes : List String} (hspec : m.spec = .stripPrefix prefixes) :
    m = stripPrefix route owner := by
  rcases List.mem_append.1 hm with hm | hm
  · rcases List.mem_cons.1 hm with he | hm
    · cases he
      rfl
    · cases useBasicAuth with
      | false => cases hm
      | true =>
        simp only [if_true, List.mem_cons, List.not_mem_nil, or_false] at hm
        rcases hm with he | he <;> cases he
        cases hspec
  · obtain ⟨m', hm', he⟩ := List.mem_map.1 hm
    cases he
    simp only [SharedMiddlewares.both, List.mem_cons, List.not_mem_nil, or_false] at hm'
    rcases hm' with rfl | rfl <;> cases hspec

/-- Whatever tenant id a request has, so long as the mark that ends a path prefix is not in it
once its hyphens are left out: the rules of an endpoint that was created take exactly
the ids that were allocated for it, each for its port, and the ids are stripped and
shown as they were allocated. -/
theorem rules_route_to_allocated_ids (config : Config) (request : EndpointRequest)
    (service : Service) (deadline : Instant) {σ : Type u} (answerer : Answerer σ) (s : σ)
    (hdrawn : ∀ s count, ∀ c ∈ (answerer s (.draw count)).1, c ∈ RandomSource.alphabet)
    {domain : String} (hdomain : (answerer s .baseUrl).1 = .ok domain)
    (hbacktick : '\x60' ∉ domain.toList)
    (htenant : ¬ RouteRule.endMark <:+: PublicId.tenantPart request.userId) {created : Created} :
    let play := (create config request service deadline).run.play answerer s
    let ids := (allocation config request service answerer s).value
    let ports := List.zipWith ExposedPort.mk ids (config.ports.eligible service)
    ReturnsRoutes play.exchanges → play.value = .ok created →
      ports.map ExposedPort.publicId = ids ∧
      ports.map ExposedPort.portName = config.ports.eligible service ∧
      RoutesTo (host domain) ports created.route ∧
      (∃ m : Middleware, ⟨m⟩ ∈ play.exchanges.filterMap Exchange.made? ∧
        m.key = ⟨request.ns, stripPrefixName request.name⟩ ∧
        m.spec = .stripPrefix (ids.map ("/" ++ ·))) ∧
      ∀ (m : Middleware) (prefixes : List String),
        ⟨m⟩ ∈ play.exchanges.filterMap Exchange.wanted? → m.spec = .stripPrefix prefixes →
          prefixes = ids.map ("/" ++ ·) := by
  intro play ids ports hreturns hcreated
  have hlength : ids.length = (config.ports.eligible service).length :=
    (play_allocate answerer _ _ _ _).2
  have hlegible : (plan config request service domain ports).Legible :=
    legible_plan hbacktick htenant hlength fun _ hid => PublicId.mem_allocate hdrawn hid
  have hids : ports.map ExposedPort.publicId = ids := publicIds_ports hlength
  have hsaga : Saga config request.useBasicAuth (submission config request service domain ids)
      deadline play.exchanges (.ok created) := saga_of_created hdomain hcreated
  generalize play.exchanges = t at hreturns hsaga ⊢
  cases hsaga with
  | completed route credentials ht =>
    obtain ⟨uid, hroute⟩ := hreturns _ _ _ List.mem_cons_self
    have hroutes : RoutesTo (host domain) ports route := by
      rw [hroute]
      exact hlegible.routesTo.withUid uid
    obtain ⟨owner, howner⟩ : ∃ owner, ownerReference? route = some owner := by
      rw [hroute]
      exact ⟨_, rfl⟩
    have hkey : (stripPrefix route owner).key = ⟨request.ns, stripPrefixName request.name⟩ := by
      rw [hroute]
      rfl
    have hstripped : (stripPrefix route owner).spec = .stripPrefix (ids.map ("/" ++ ·)) := by
      rw [hroutes.stripped, ← hids, List.map_map]
      rfl
    refine ⟨hids, portNames_ports hlength, hroutes, ⟨_, ?_, hkey, hstripped⟩, ?_⟩
    · have hchildren := ht.submissions_sublist
      rw [submissions_steps howner] at hchildren
      exact List.mem_cons_of_mem _ (hchildren.subset List.mem_cons_self)
    · intro m prefixes hm hspec
      rcases List.mem_cons.1 hm with he | hm
      · cases he
      have hmem := ht.wanted_sublist.subset hm
      rw [resources_steps howner] at hmem
      rw [eq_stripPrefix_of_mem hmem hspec, hstripped] at hspec
      cases hspec
      rfl

/-- A tenant whose id has backticks, brackets, slashes and hyphens in it, but no mark. -/
theorem odd_tenant_routed :
    let config : Config := { Specimen.config with idLength := 2 }
    let request := Specimen.endpoint "one" "a\x60(-b)/c\x60-" false
    let service := Specimen.service [some "rpc", some "metrics"]
    let s := Specimen.surroundings fun i => if i < 2 then 'A' else '7'
    let play := (create config request service 1000).run.play (World.answerer s) {}
    let ports : List ExposedPort :=
      [⟨"aaa\x60(b)/c\x60", "rpc"⟩, ⟨"77a\x60(b)/c\x60", "metrics"⟩]
    request.validate.isOk = true ∧ ReturnsRoutes play.exchanges ∧
      ∃ created, play.value = .ok created ∧ RoutesTo (host "example.com") ports created.route := by
  intro config request service s play ports
  have hdrawn : ∀ w count, ∀ c ∈ (World.answerer s w (.draw count)).1, c ∈ RandomSource.alphabet := by
    intro w count c hc
    obtain ⟨i, _, rfl⟩ := List.mem_map.1 hc
    change (if w.drawn + i < 2 then 'A' else '7') ∈ RandomSource.alphabet
    split <;> decide
  have hreturns : ReturnsRoutes play.exchanges := returnsRoutes_play s _ fun _ hr => nomatch hr
  have htenant : ¬ RouteRule.endMark <:+: PublicId.tenantPart request.userId := by decide +kernel
  have hids : (allocation config request service (World.answerer s) ({} : World)).value =
      ["aaa\x60(b)/c\x60", "77a\x60(b)/c\x60"] := by decide +kernel
  have hnames : config.ports.eligible service = ["rpc", "metrics"] := by
    rw [Specimen.eligible_service]
    decide +kernel
  have hmade : play.value.toOption.isSome = true := by decide +kernel
  cases hcreated : play.value with
  | error failure =>
    rw [hcreated] at hmade
    cases hmade
  | ok created =>
    obtain ⟨_, _, hroutes, _⟩ := rules_route_to_allocated_ids config request service 1000
      (World.answerer s) {} hdrawn rfl (by decide) htenant hreturns hcreated
    rw [hids, hnames] at hroutes
    exact ⟨by decide +kernel, hreturns, created, rfl, hroutes⟩

/-- The mark that ends a path prefix comes first in the id of a tenant that has it: what is
left of the id after it is neither taken, nor stripped, nor shown. -/
theorem prefix_cut_at_mark :
    let config : Config := { Specimen.config with idLength := 2 }
    let request := Specimen.endpoint "one" "a\x60)b" false
    let s := Specimen.surroundings fun _ => 'A'
    let play := (create config request Specimen.node 1000).run.play (World.answerer s) {}
    let made := play.value.toOption.map Created.route
    request.validate.isOk = true ∧ ReturnsRoutes play.exchanges ∧
      (allocation config request Specimen.node (World.answerer s) ({} : World)).value =
        ["aaa\x60)b"] ∧
      made.map (·.spec.rules.map RouteRule.pathPrefix?) = some [some "aaa"] ∧
      made.map exposedPorts = some [⟨"aaa", "rpc"⟩] ∧
      made.map (fun route => (View.ofRoute route none).ports) =
        some [⟨"rpc", "https://endpoints.example.com/aaa"⟩] := by
  intro config request s play made
  have hreturns : ReturnsRoutes play.exchanges := returnsRoutes_play s _ fun _ hr => nomatch hr
  exact ⟨by decide +kernel, hreturns, by decide +kernel, by decide +kernel, by decide +kernel,
    by decide +kernel⟩

end Endpoint

end TenantEndpoints
