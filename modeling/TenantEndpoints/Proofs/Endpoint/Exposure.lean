import Mathlib.Data.List.Forall2
import TenantEndpoints.Proofs.Endpoint.Routes
import TenantEndpoints.Proofs.Endpoint.Routing
import TenantEndpoints.Proofs.Specimen

/-!
# What an endpoint exposes, and what its rules refer to

A route is written before anything that its rules refer to exists, and what they refer
to is named later from the route that came back. Both agree: the middlewares of a rule
are those that the same creation then submits or sees to, in the order in which they
apply. Each rule exposes one port of the service, and every port that may be exposed
has its rule.
-/
namespace TenantEndpoints

/-- The ports that a service lists. -/
def Service.ports (service : Service) : List ServicePort :=
  (service.spec.spec.bind ServiceSpec.ports).getD []

namespace PortFilter

/-- A port may be exposed if it has a name that is not excluded. -/
def Exposable (f : PortFilter) (port : ServicePort) (name : String) : Prop :=
  port.name = some name ∧ name ≠ "" ∧ name ∉ f.excluded

instance (f : PortFilter) (port : ServicePort) : Decidable (∃ name, f.Exposable port name) :=
  match h : port.name with
  | none => isFalse fun ⟨_, hname, _⟩ => nomatch h.symm.trans hname
  | some name => decidable_of_iff (name ≠ "" ∧ name ∉ f.excluded)
      ⟨fun hname => ⟨name, h, hname⟩, fun ⟨_, hname, hrest⟩ =>
        Option.some.inj (h.symm.trans hname) ▸ hrest⟩

/-- The ports of a service that may be exposed, each as often as it is listed. -/
def exposed (f : PortFilter) (service : Service) : List ServicePort :=
  service.ports.filter fun port => ∃ name, f.Exposable port name

/-- The eligible names are those of the ports that may be exposed. -/
theorem map_name_exposed (f : PortFilter) (service : Service) :
    (f.exposed service).map ServicePort.name = (f.eligible service).map some := by
  unfold exposed eligible
  change (service.ports.filter _).map _ = ((service.ports.filterMap _).filter _).map some
  induction service.ports with
  | nil => rfl
  | cons port ports ih =>
    cases hname : port.name with
    | none =>
      have hnot : ¬ ∃ name, f.Exposable port name := fun ⟨_, h, _⟩ => nomatch hname.symm.trans h
      rw [List.filter_cons_of_neg (by simpa using hnot), List.filterMap_cons_none hname, ih]
    | some name =>
      have hiff : (∃ name, f.Exposable port name) ↔ f.admits name = true := by
        simp [Exposable, admits, hname]
      rw [List.filterMap_cons_some hname]
      by_cases h : f.admits name = true
      · rw [List.filter_cons_of_pos (by simpa using hiff.2 h), List.filter_cons_of_pos h,
          List.map_cons, List.map_cons, ih, hname]
      · rw [List.filter_cons_of_neg (by simpa using mt hiff.1 h), List.filter_cons_of_neg h, ih]

theorem length_exposed (f : PortFilter) (service : Service) :
    (f.exposed service).length = (f.eligible service).length := by
  simpa using congrArg List.length (map_name_exposed f service)

theorem exists_exposable_of_mem {f : PortFilter} {service : Service} {port : ServicePort}
    (h : port ∈ f.exposed service) : port ∈ service.ports ∧ ∃ name, f.Exposable port name := by
  obtain ⟨hmem, hname⟩ := List.mem_filter.1 h
  exact ⟨hmem, of_decide_eq_true hname⟩

end PortFilter

/-- How a middleware under a key is referred to. -/
def Key.ref (key : Key) : ObjectRef := ⟨key.name, some key.ns⟩

namespace Endpoint

/-- A rule takes an id to a port of a service, and to nothing else. -/
structure Exposes (request : EndpointRequest) (service : Service) (id : String)
    (port : ServicePort) (rule : RouteRule) : Prop where
  backend : ∃ name, port.name = some name ∧
    rule.services = [⟨service.displayName, some request.ns, .name name⟩]
  id_infix : RouteRule.prefixMark ++ id.toList ++ RouteRule.endMark <:+: rule.text.toList

/-- The calls that see to a shared middleware look it up, and create it at most then. -/
inductive SeesTo (key : Key) : List Call → Prop
  | found : SeesTo key [.get .middleware key.ns key.name]
  | made (m : Middleware) (h : m.key = key) :
    SeesTo key [.get .middleware key.ns key.name, .create m]

/-- The calls that provide the middlewares of a chain, which are shared but for the last ones. -/
inductive Provides (shared : SharedMiddlewares) : Bool → List ObjectRef → List Call → Prop
  | unguarded (strip : Middleware) {prefixes : List String}
      (hstrip : strip.spec = .stripPrefix prefixes) {activity cache : List Call}
      (hactivity : SeesTo shared.activityMiddleware.key activity)
      (hcache : SeesTo shared.cacheMiddleware.key cache) :
    Provides shared false
      [shared.activityMiddleware.key.ref, shared.cacheMiddleware.key.ref, strip.key.ref]
      (.create strip :: (activity ++ cache))
  | guarded (strip guard : Middleware) (secret : Secret) {prefixes : List String}
      (hstrip : strip.spec = .stripPrefix prefixes) {name : String}
      (hguard : guard.spec = .basicAuth name) (hsecret : secret.key = ⟨guard.key.ns, name⟩)
      {activity cache : List Call} (hactivity : SeesTo shared.activityMiddleware.key activity)
      (hcache : SeesTo shared.cacheMiddleware.key cache) :
    Provides shared true
      [shared.activityMiddleware.key.ref, shared.cacheMiddleware.key.ref, strip.key.ref,
        guard.key.ref]
      (.create strip :: .create secret :: .create guard :: (activity ++ cache))

section Planned
variable {config : Config} {request : EndpointRequest} {service : Service} {domain : String}
  {ids : List String}

theorem exposes_rule {p : RoutePlan} {id name : String} {port : ServicePort}
    (h : port.name = some name) : Exposes p.request p.service id port (p.rule ⟨id, name⟩) := by
  refine ⟨⟨name, h, rfl⟩, RouteRule.hostMark ++ (p.host.toList ++ (RouteRule.endMark ++
    " && ".toList)), [], ?_⟩
  rw [RoutePlan.rule, RouteRule.toList_hostPathText]
  simp only [List.append_assoc, List.append_nil]

/-- Ids and names that are paired lose nothing if there are as many of both. -/
theorem exposes_rules (p : RoutePlan) {names : List String} {ports : List ServicePort}
    (hnames : ports.map ServicePort.name = names.map some) (hlength : ids.length = names.length) :
    List.Forall₂ (fun x rule => Exposes p.request p.service x.1 x.2 rule) (ids.zip ports)
      ((List.zipWith ExposedPort.mk ids names).map p.rule) := by
  induction ids generalizing names ports with
  | nil => exact .nil
  | cons id ids ih =>
    cases names with
    | nil => cases hlength
    | cons name names =>
      cases ports with
      | nil => cases hnames
      | cons port ports =>
        obtain ⟨hname, hnames⟩ := List.cons.inj hnames
        exact .cons (exposes_rule hname) (ih hnames (Nat.succ.inj hlength))

theorem exposes_submission (hlength : ids.length = (config.ports.exposed service).length) :
    List.Forall₂ (fun x rule => Exposes request service x.1 x.2 rule)
      (ids.zip (config.ports.exposed service))
      (submission config request service domain ids).spec.rules :=
  exposes_rules (plan config request service domain
      (List.zipWith ExposedPort.mk ids (config.ports.eligible service)))
    (config.ports.map_name_exposed service)
    (hlength.trans (config.ports.length_exposed service))

/-- What a rule exposes is a port of the service that may be exposed. -/
theorem exposable_of_exposes {f : PortFilter} {rules : List RouteRule}
    (h : List.Forall₂ (fun x rule => Exposes request service x.1 x.2 rule)
      (ids.zip (f.exposed service)) rules) {rule : RouteRule} (hrule : rule ∈ rules)
    {backend : BackendService} (hbackend : backend ∈ rule.services) :
    ∃ port ∈ service.ports, ∃ name, f.Exposable port name ∧ backend.port = .name name := by
  obtain ⟨⟨id, port⟩, hmem, hexposes⟩ : ∃ x ∈ ids.zip (f.exposed service),
      Exposes request service x.1 x.2 rule := by
    clear hbackend
    generalize ids.zip (f.exposed service) = pairs at h
    induction h with
    | nil => cases hrule
    | cons hexposes _ ih =>
      rcases List.mem_cons.1 hrule with rfl | hrule
      · exact ⟨_, List.mem_cons_self, hexposes⟩
      · obtain ⟨x, hx, hexposes⟩ := ih hrule
        exact ⟨x, List.mem_cons_of_mem _ hx, hexposes⟩
  obtain ⟨hport, name, hname⟩ := PortFilter.exists_exposable_of_mem (List.of_mem_zip hmem).2
  obtain ⟨name', hname', hservices⟩ := hexposes.backend
  cases Option.some.inj (hname.1.symm.trans hname')
  rw [hservices] at hbackend
  cases List.mem_singleton.1 hbackend
  exact ⟨port, hport, name, hname, rfl⟩

theorem middlewares_submission {rule : RouteRule}
    (h : rule ∈ (submission config request service domain ids).spec.rules) :
    rule.middlewares = (plan config request service domain []).chain := by
  obtain ⟨port, _, rfl⟩ := List.mem_map.1 h
  rfl

end Planned

section Calls
variable {ignoreConflicts : Bool} {deadline : Instant} {t : List Exchange}

theorem Step.Plays.calls_submit {k : Kind} {r : Resource k}
    (h : (Step.submit r).Plays ignoreConflicts deadline t none) : t.map (·.call) = [.create r] := by
  cases h
  rfl

theorem Step.Plays.seesTo {m : Middleware}
    (h : (Step.ensure m).Plays ignoreConflicts deadline t none) :
    SeesTo m.key (t.map (·.call)) := by
  cases h with
  | found => exact .found
  | made => exact .made m rfl
  | ignored => exact .made m rfl

/-- Steps that were all passed were passed one after the other. -/
theorem Taken.of_cons {stage : Stage} {step : Step} {steps : List (Stage × Step)}
    (h : Taken ignoreConflicts deadline ((stage, step) :: steps) t none) :
    ∃ t₁ t₂, t = t₁ ++ t₂ ∧ step.Plays ignoreConflicts deadline t₁ none ∧
      Taken ignoreConflicts deadline steps t₂ none := by
  cases h with
  | passed hp ht => exact ⟨_, _, rfl, hp, ht⟩

/-- The two steps that come last see to what is shared. -/
theorem Taken.seesTo {first second : Stage} {m m' : Middleware}
    (h : Taken ignoreConflicts deadline [(first, .ensure m), (second, .ensure m')] t none) :
    ∃ calls calls', t.map (·.call) = calls ++ calls' ∧ SeesTo m.key calls ∧ SeesTo m'.key calls' := by
  obtain ⟨t₁, t₂, rfl, h₁, h⟩ := h.of_cons
  obtain ⟨t₂, t₃, rfl, h₂, h⟩ := h.of_cons
  cases h
  exact ⟨_, _, by simp only [List.map_append, List.append_nil], h₁.seesTo, h₂.seesTo⟩

/-- A route is submitted first and once. -/
theorem Saga.submitted_once {config : Config} {useBasicAuth : Bool} {submitted : IngressRoute}
    {r : Except Failure Created} (h : Saga config useBasicAuth submitted deadline t r) :
    ∃ outcome t', t = ⟨.create submitted, deadline, outcome⟩ :: t' ∧
      ∀ x ∈ t', ∀ route : IngressRoute, x.wanted? ≠ some ⟨route⟩ := by
  cases h with
  | refused failure => exact ⟨_, [], rfl, fun _ hx => nomatch hx⟩
  | completed route credentials ht =>
    exact ⟨_, _, rfl, fun x hx => (ht.sparesRoutes x hx).wanted_ne⟩
  | takenBack route credentials ht now deleted =>
    refine ⟨_, _, rfl, fun x hx => ?_⟩
    rcases List.mem_append.1 hx with hx | hx
    · exact (ht.sparesRoutes x hx).wanted_ne
    · cases List.mem_singleton.1 hx
      exact fun _ he => nomatch he

/-- The references in a chain, by the keys of the resources that are made from the route
when it has come back. -/
theorem chain_plan (config : Config) (request : EndpointRequest) (service : Service)
    (domain : String) (ids : List String) (uid : String) (owner : OwnerReference) :
    let route := (submission config request service domain ids).withUid uid
    (plan config request service domain []).chain =
      [config.shared.activityMiddleware.key.ref, config.shared.cacheMiddleware.key.ref,
        (stripPrefix route owner).key.ref] ++
      if request.useBasicAuth then [(basicAuth route owner).key.ref] else [] := rfl

/-- What the rules of a route refer to is what the steps for it provide, if it came back
as it was submitted. -/
theorem Taken.provides {config : Config} {request : EndpointRequest} {service : Service}
    {domain uid : String} {ids : List String} {credentials : Credentials}
    (h : Taken ignoreConflicts deadline (steps config request.useBasicAuth
      ((submission config request service domain ids).withUid uid) credentials) t none) :
    Provides config.shared request.useBasicAuth (plan config request service domain []).chain
      (t.map (·.call)) := by
  obtain ⟨owner, howner⟩ : ∃ owner,
      ownerReference? ((submission config request service domain ids).withUid uid) = some owner :=
    ⟨_, rfl⟩
  have hchain := chain_plan config request service domain ids uid owner
  rw [hchain]
  simp only [steps, howner] at h
  cases hguard : request.useBasicAuth with
  | false =>
    simp only [hguard] at h
    obtain ⟨t₁, t₂, rfl, h₁, h⟩ := h.of_cons
    obtain ⟨activity, cache, hcalls, hactivity, hcache⟩ := Taken.seesTo h
    simp only [List.map_append, h₁.calls_submit, hcalls, List.cons_append, List.nil_append]
    exact .unguarded _ rfl hactivity hcache
  | true =>
    simp only [hguard] at h
    obtain ⟨t₁, t₂, rfl, h₁, h⟩ := h.of_cons
    obtain ⟨t₂, t₃, rfl, h₂, h⟩ := h.of_cons
    obtain ⟨t₃, t₄, rfl, h₃, h⟩ := h.of_cons
    obtain ⟨activity, cache, hcalls, hactivity, hcache⟩ := Taken.seesTo h
    simp only [List.map_append, h₁.calls_submit, h₂.calls_submit, h₃.calls_submit, hcalls,
      List.cons_append, List.nil_append]
    exact .guarded _ _ (basicAuthSecret _ owner credentials) rfl rfl rfl hactivity hcache

end Calls

/-- A creation that is accepted submits one route. It has a rule for every port that may be
exposed, in their order, each with the id that was allocated for it and with no other
backend; and all rules run the same middlewares, which are those that the creation then
provides if it succeeds, where routes come back as they were submitted. -/
theorem exposes_and_provides (config : Config) (request : EndpointRequest) (service : Service)
    (deadline : Instant) {σ : Type u} (answerer : Answerer σ) (s : σ)
    (hvalid : request.validate = .ok ()) (hports : config.ports.exposed service ≠ [])
    {domain : String} (hdomain : (answerer s .baseUrl).1 = .ok domain) :
    let play := (create config request service deadline).run.play answerer s
    let ids := (allocation config request service answerer s).value
    let ports := config.ports.exposed service
    ∃ (route : IngressRoute) (outcome : Except Failure IngressRoute) (t : List Exchange)
        (chain : List ObjectRef),
      play.exchanges = ⟨.create route, deadline, outcome⟩ :: t ∧
      (∀ x ∈ t, ∀ other : IngressRoute, x.wanted? ≠ some ⟨other⟩) ∧
      ids.length = ports.length ∧
      List.Forall₂ (fun x rule => Exposes request service x.1 x.2 rule) (ids.zip ports)
        route.spec.rules ∧
      (∀ rule ∈ route.spec.rules, ∀ backend ∈ rule.services, ∃ port ∈ service.ports, ∃ name,
        config.ports.Exposable port name ∧ backend.port = .name name) ∧
      (∀ rule ∈ route.spec.rules, rule.middlewares = chain) ∧
      (ReturnsRoutes play.exchanges → ∀ created, play.value = .ok created →
        Provides config.shared request.useBasicAuth chain (t.map (·.call))) := by
  intro play ids ports
  have heligible : (config.ports.eligible service).isEmpty = false := by
    have hlength := config.ports.length_exposed service
    have hpos : 0 < ports.length := List.length_pos_iff.2 hports
    exact List.isEmpty_eq_false_iff.2 (List.length_pos_iff.1 (hlength ▸ hpos))
  have hrefusal : refusal? config request service = none := by
    simp only [refusal?, hvalid, heligible]
    rfl
  have hlength : ids.length = ports.length :=
    (play_allocate answerer _ _ _ _).2.trans (config.ports.length_exposed service).symm
  have hsaga : Saga config request.useBasicAuth (submission config request service domain ids)
      deadline play.exchanges play.value := by
    have hplay : play = _ := play_create hrefusal hdomain
    rw [hplay]
    exact plays_createWith (Program.plays_play answerer Lookup.any_apply _ _)
  obtain ⟨outcome, t, ht, honce⟩ := hsaga.submitted_once
  have hexposes : List.Forall₂ (fun x rule => Exposes request service x.1 x.2 rule)
      (ids.zip ports) (submission config request service domain ids).spec.rules :=
    exposes_submission hlength
  refine ⟨_, outcome, t, _, ht, honce, hlength, hexposes,
    fun rule hrule backend hbackend => exposable_of_exposes hexposes hrule hbackend,
    fun rule hrule => middlewares_submission hrule, fun hreturns created hcreated => ?_⟩
  rw [hcreated] at hsaga
  generalize play.exchanges = t' at hsaga ht hreturns
  cases hsaga with
  | completed route credentials htaken =>
    cases ht
    obtain ⟨uid, rfl⟩ := hreturns _ _ _ List.mem_cons_self
    exact htaken.provides

/-- A service that lists a name twice, an excluded name, an empty one and a port without a
name, behind an endpoint that asks for credentials. -/
theorem guarded_endpoint_exposed :
    let config : Config := { Specimen.config with idLength := 2 }
    let request := Specimen.endpoint "one" "alice" true
    let service :=
      Specimen.service [some "rpc", some "ws", none, some "", some "rpc", some "api"]
    let s := Specimen.surroundings fun i => if i < 2 then 'A' else '7'
    let play := (create config request service 1000).run.play (World.answerer s) {}
    let ids := ["aaalice", "77alice", "77alice"]
    (config.ports.exposed service).map ServicePort.name = [some "rpc", some "rpc", some "api"] ∧
      ∃ (route : IngressRoute) (outcome : Except Failure IngressRoute) (t : List Exchange)
          (chain : List ObjectRef), play.exchanges = ⟨.create route, 1000, outcome⟩ :: t ∧
        List.Forall₂ (fun x rule => Exposes request service x.1 x.2 rule)
          (ids.zip (config.ports.exposed service)) route.spec.rules ∧
        (∀ rule ∈ route.spec.rules, rule.middlewares = chain) ∧
        Provides config.shared true chain (t.map (·.call)) := by
  intro config request service s play ids
  have hexposed : (config.ports.exposed service).map ServicePort.name =
      [some "rpc", some "rpc", some "api"] := by decide +kernel
  have hports : config.ports.exposed service ≠ [] := by
    intro hnone
    rw [hnone] at hexposed
    cases hexposed
  have hids : (allocation config request service (World.answerer s) ({} : World)).value = ids := by
    decide +kernel
  have hvalid : request.validate = .ok () := by decide +kernel
  have hreturns : ReturnsRoutes play.exchanges := returnsRoutes_play s _ fun _ hr => nomatch hr
  have hmade : play.value.toOption.isSome = true := by decide +kernel
  obtain ⟨route, outcome, t, chain, ht, _, _, hexposes, _, hchain, hprovides⟩ :=
    exposes_and_provides config request service 1000 (World.answerer s) {} hvalid hports rfl
  rw [hids] at hexposes
  cases hcreated : play.value with
  | error failure =>
    rw [hcreated] at hmade
    cases hmade
  | ok created =>
    exact ⟨hexposed, route, outcome, t, chain, ht, hexposes, hchain, hprovides hreturns created hcreated⟩

end Endpoint

end TenantEndpoints
