import TenantEndpoints.Proofs.Endpoint.Routes
import TenantEndpoints.Proofs.Http.Exchange
import TenantEndpoints.Proofs.Labels.Scope
import TenantEndpoints.Proofs.Scenario

/-!
# Whose routes come and go

A request creates a route for its tenant, under the name that it asks for, and
deletes one only if it has found the tenant's label on it or has itself created
it before. When requests come one after the other, a route therefore stays as it
is until its own tenant asks for its deletion.
-/
namespace TenantEndpoints.Http
open Endpoint

/-- A route is what a tenant submits who asks for an endpoint with a body. -/
structure Submits (ns user : String) (body : CreateBody) (route : IngressRoute) : Prop where
  key : route.key = ⟨ns, body.name⟩
  tenant : route.labels.find? Labels.userId = some user

theorem submits_submission (config : Config) (ns user : String) (body : CreateBody)
    (service : Service) (domain : String) (ids : List String) :
    Submits ns user body (submission config (requestOf ns user body) service domain ids) :=
  ⟨rfl, Labels.find?_ofEndpoint_userId _ _ _⟩

/-- What a call made for a demand does to routes, given the calls before it: nothing,
or it submits the tenant's route, or takes that back, or deletes a route on which
the tenant's label has been found. -/
inductive RouteCall : Demand → List Exchange → Exchange → Prop
  | spares {demand : Demand} {t : List Exchange} {x : Exchange} (hx : x.SparesRoutes) :
    RouteCall demand t x
  | submits {ns user : String} {body : CreateBody} {submitted : IngressRoute}
      (h : Submits ns user body submitted) {t : List Exchange} (deadline : Instant)
      (outcome : Except Failure IngressRoute) :
    RouteCall (.create ns user body) t ⟨.create submitted, deadline, outcome⟩
  | takesBack {ns user : String} {body : CreateBody} {submitted : IngressRoute}
      (h : Submits ns user body submitted) {route : IngressRoute} {t t' : List Exchange}
      (deadline : Instant) (ht' : ∀ y ∈ t', y.SparesRoutes) (deadline' : Instant)
      (deleted : Except Failure Unit) :
    RouteCall (.create ns user body) (t ++ ⟨.create submitted, deadline, .ok route⟩ :: t')
      ⟨.delete .ingressRoute route.metadata.namespaceOrEmpty route.displayName, deadline', deleted⟩
  | deletes {ns name user : String} {route : IngressRoute} (h : isOwnedBy route user = true)
      (deadline deadline' : Instant) (deleted : Except Failure Unit) :
    RouteCall (.delete ns name user) [⟨.get .ingressRoute ns name, deadline, .ok route⟩]
      ⟨.delete .ingressRoute ns name, deadline', deleted⟩

section RouteCall
variable {config : Config} {deadline : Instant} {t t₁ t₂ : List Exchange} {x : Exchange}

theorem RouteCall.routesOnly {demand : Demand} (h : RouteCall demand t x)
    (hx : x.call.verb = .delete) : x.call.kind = .ingressRoute := by
  cases h with
  | spares hspares => exact absurd hx hspares.verb_ne_delete
  | submits => cases hx
  | takesBack | deletes => rfl

/-- A route is only created for a tenant who asks for an endpoint of that name. -/
theorem RouteCall.of_create {demand : Demand} {submitted : IngressRoute}
    {outcome : Except Failure IngressRoute}
    (h : RouteCall demand t ⟨.create submitted, deadline, outcome⟩) :
    ∃ user body, demand = .create submitted.key.ns user body ∧ body.name = submitted.key.name ∧
      submitted.labels.find? Labels.userId = some user := by
  cases h with
  | spares hspares => exact absurd rfl (hspares.wanted_ne _)
  | @submits ns user body _ hsubmits =>
    refine ⟨user, body, ?_, (congrArg Key.name hsubmits.key).symm, hsubmits.tenant⟩
    rw [hsubmits.key]

theorem RouteCall.of_reads {demand : Demand} (ht : Reads t) (hsplit : t = t₁ ++ x :: t₂) :
    RouteCall demand t₁ x :=
  .spares (ht.sparesRoutes x (by rw [hsplit]; exact List.mem_append_right _ List.mem_cons_self))

theorem routeCall_demand {demand : Demand} {r : Except Failure Response}
    (h : (demand.attempt config deadline).run.Plays lookup t r) (hsplit : t = t₁ ++ x :: t₂) :
    RouteCall demand t₁ x := by
  cases conduct_demand h with
  | reads ht => exact .of_reads ht hsplit
  | @creates ns user body service before t' created hbefore hcreate =>
    rcases append_eq_append_cons hsplit with ⟨t₃, rfl⟩ | ⟨t₃, rfl, he⟩
    · exact .of_reads hbefore rfl
    rcases Endpoint.plays_create hcreate with ⟨_, rfl, _⟩ | ⟨domain, ids, _, _, hsaga⟩
    · cases t₃ <;> cases he
    have hsubmits := submits_submission config ns user body service domain ids
    cases hsaga.place he with
    | first outcome => exact .submits hsubmits deadline outcome
    | between _ _ _ hx => exact .spares hx
    | last route ht deadline' deleted => exact .takesBack hsubmits deadline ht deadline' deleted
  | @deletes ns name user route howner deleted =>
    have hread : Reads [⟨.get .ingressRoute ns name, deadline, .ok route⟩] :=
      reads_cons (.inl rfl) reads_nil
    rcases List.cons_eq_append_iff.1 hsplit with ⟨rfl, he⟩ | ⟨t₃, rfl, he⟩
    · cases he
      exact .spares (hread.sparesRoutes _ List.mem_cons_self)
    · rcases List.cons_eq_append_iff.1 he with ⟨rfl, he⟩ | ⟨t₄, rfl, he⟩
      · cases he
        exact .deletes howner deadline deadline deleted
      · cases t₄ <;> cases he

/-- Every call of a request is one of a demand that has been read from it. -/
theorem routeCall_serve {timeoutMs : Nat} {request : Request} {r : Except ReadFault Response}
    (h : (serve config timeoutMs request).Plays lookup t r) (hsplit : t = t₁ ++ x :: t₂) :
    ∃ demand, Demand.ofRequest request = .ok demand ∧ RouteCall demand t₁ x := by
  have hserve := plays_serve h
  split at hserve
  · obtain ⟨rfl, _⟩ := hserve
    cases t₁ <;> cases hsplit
  · next demand hdemand =>
    obtain ⟨deadline, outcome, hattempt, _⟩ := hserve
    exact ⟨demand, hdemand, routeCall_demand hattempt hsplit⟩

end RouteCall

/-- What may come of an encounter for the route under a key, given what the request
asks for and has encountered before. -/
inductive RouteChange (demand : Demand) (before : List (Encounter World)) (x : Encounter World)
    (key : Key) : Prop
  | kept (h : x.after.cluster.find? .ingressRoute key = x.state.cluster.find? .ingressRoute key)
  | stored {user : String} {body : CreateBody} {route : IngressRoute}
      (hdemand : demand = .create key.ns user body) (hname : body.name = key.name)
      (h : x.Stores key route) (htenant : route.labels.find? Labels.userId = some user)
  | deleted {user : String} {route : IngressRoute}
      (hdemand : demand = .delete key.ns key.name user)
      (h : x.Removes key route) (htenant : route.labels.find? Labels.userId = some user)
  | takenBack {user : String} {body : CreateBody} {route : IngressRoute}
      (hdemand : demand = .create key.ns user body) (hname : body.name = key.name)
      (h : x.Removes key route) (hown : ∃ y ∈ before, y.Stores key route)

section Chronicle
variable {may : Interference} {c c' : Cluster} {xs ys : List (Encounter World)}

/-- A route that was stored is still there if routes have been spared since. -/
theorem stored_of_exchanges (h : Cluster.Chronicle may c xs c') {t t' : List Exchange}
    {submitted route : IngressRoute} {deadline : Instant}
    (hxs : xs.map (·.exchange) = t ++ ⟨.create submitted, deadline, .ok route⟩ :: t')
    (ht' : ∀ y ∈ t', y.SparesRoutes) :
    route.key = submitted.key ∧ c'.find? .ingressRoute submitted.key = some route ∧
      ∃ x ∈ xs, x.Stores submitted.key route := by
  obtain ⟨xs₁, _, rfl, rfl, he⟩ := List.map_eq_append_iff.1 hxs
  obtain ⟨x, xs₂, rfl, hx, rfl⟩ := List.map_eq_cons_iff.1 he
  obtain ⟨_, hserved, hafter⟩ := h.split_cons
  obtain ⟨hstores, hmade⟩ := hserved.stores hx
  refine ⟨?_, ?_, x, List.mem_append_right _ List.mem_cons_self, hstores⟩
  · rw [hmade]
    exact Cluster.key_made _ submitted
  · rw [hafter.find?_route (List.forall_mem_map.1 ht'), hstores.2]

theorem found_of_exchanges (h : Cluster.Chronicle may c xs c') {ns name : String}
    {route : IngressRoute} {deadline : Instant}
    (hxs : xs.map (·.exchange) = [⟨.get .ingressRoute ns name, deadline, .ok route⟩]) :
    c'.find? .ingressRoute ⟨ns, name⟩ = some route := by
  obtain ⟨x, rfl, hx⟩ := List.map_eq_singleton_iff.1 hxs
  cases h with
  | cons hserved hrest =>
    obtain ⟨hfound, hsame⟩ := hserved.found hx
    rw [hrest.eq_of_nil, hsame, hfound]

theorem routeChange {demand : Demand} {x : Encounter World}
    (h : Cluster.Chronicle may c (xs ++ x :: ys) c')
    (hcall : RouteCall demand (xs.map (·.exchange)) x.exchange) (key : Key) :
    RouteChange demand xs x key := by
  obtain ⟨hbefore, hx, _⟩ := h.split_cons
  generalize ht : xs.map (·.exchange) = t at hcall
  cases hx.change.touch .ingressRoute key with
  | kept he => exact .kept he
  | stored hkey hexchange _ hstores =>
    subst hkey
    rw [hexchange] at hcall
    obtain ⟨user, body, hdemand, hname, htenant⟩ := hcall.of_create
    exact .stored hdemand hname hstores htenant
  | removed hexchange _ hkey hremoves =>
    obtain ⟨_, rfl⟩ | ⟨hne, _⟩ := hkey
    · rw [hexchange] at hcall
      cases hcall with
      | spares hspares => exact absurd rfl hspares.verb_ne_delete
      | @takesBack ns user body submitted hsubmits own _ _ _ ht' =>
        obtain ⟨hkey, hfound, hstored⟩ := stored_of_exchanges hbefore ht ht'
        have hkey' : (⟨own.metadata.namespaceOrEmpty, own.displayName⟩ : Key) = submitted.key :=
          hkey
        rw [hkey'] at hremoves ⊢
        cases hremoves.1.symm.trans hfound
        have hdemand : Demand.create ns user body = .create submitted.key.ns user body := by
          rw [hsubmits.key]
        exact .takenBack hdemand (congrArg Key.name hsubmits.key).symm hremoves hstored
      | deletes howner =>
        cases hremoves.1.symm.trans (found_of_exchanges hbefore ht)
        exact .deleted rfl hremoves (of_decide_eq_true howner)
    · exact absurd rfl hne

end Chronicle

section Run
variable {may : Interference} {config : Config} {e : Event} {events : List Event} {w : World}

/-- What an event asks for over HTTP, if it does. -/
def demandOf? : Event → Option Demand
  | .task _ (.serve _ request) => (Demand.ofRequest request).toOption
  | _ => none

/-- If something is done in an event, it is done for a request. -/
def ByRequest (e : Event) : Prop :=
  ∀ s job, e = .task s job → ∃ timeoutMs request, job = .serve timeoutMs request

/-- A tenant asks for the deletion of a route that has the tenant's label. -/
def AsksToDelete (e : Event) (key : Key) (route : IngressRoute) : Prop :=
  ∃ user, demandOf? e = some (.delete key.ns key.name user) ∧
    route.labels.find? Labels.userId = some user

theorem routeCall_event (h : ByRequest e) {xs ys : List (Encounter World)} {x : Encounter World}
    (hsplit : (e.play config w).encounters = xs ++ x :: ys) :
    ∃ demand, demandOf? e = some demand ∧ RouteCall demand (xs.map (·.exchange)) x.exchange := by
  cases e with
  | wait ms => cases xs <;> cases hsplit
  | rules rs => cases xs <;> cases hsplit
  | task s job =>
    obtain ⟨timeoutMs, request, rfl⟩ := h s job rfl
    obtain ⟨r, _, hplays⟩ := Program.plays_map.1 (Program.plays_play (World.answerer s)
      Lookup.any_apply ((Task.serve timeoutMs request).program config) w)
    have hexchanges := congrArg (List.map Encounter.exchange) hsplit
    rw [List.map_append, List.map_cons] at hexchanges
    obtain ⟨demand, hdemand, hcall⟩ := routeCall_serve hplays hexchanges
    exact ⟨demand, congrArg Except.toOption hdemand, hcall⟩

theorem chronicle_event (h : ByRequest e) (hrules : ∀ r ∈ w.rules, r.Keeps may) :
    Cluster.Chronicle may w.cluster (e.play config w).encounters
      (e.play config w).state.cluster := by
  cases e with
  | wait ms => exact .nil w.cluster
  | rules rs => exact .nil w.cluster
  | task s job =>
    refine World.chronicle_play s (job.program config) hrules fun x hx hverb => ?_
    obtain ⟨y, hy, rfl⟩ := List.mem_map.1 hx
    obtain ⟨xs, ys, hsplit⟩ := List.append_of_mem hy
    obtain ⟨demand, _, hcall⟩ := routeCall_event h hsplit
    exact hcall.routesOnly hverb

theorem keeps_event (hrules : ∀ r ∈ w.rules, r.Keeps may) (hnew : ∀ r ∈ e.newRules, r.Keeps may) :
    ∀ r ∈ (e.play config w).state.rules, r.Keeps may := by
  cases e with
  | task s job => exact (World.serves_play s (job.program config) hrules).2
  | wait ms => exact hrules
  | rules rs => exact hnew

theorem keeps_after (hrules : ∀ r ∈ w.rules, r.Keeps may)
    (hnew : ∀ e ∈ events, ∀ r ∈ e.newRules, r.Keeps may) :
    ∀ r ∈ (Event.after config events w).rules, r.Keeps may := by
  induction events generalizing w with
  | nil => exact hrules
  | cons e events ih =>
    obtain ⟨hnew, hnews⟩ := List.forall_mem_cons.1 hnew
    exact ih (keeps_event hrules hnew) hnews

theorem routeChange_event (h : ByRequest e) (hrules : ∀ r ∈ w.rules, r.Keeps may)
    {xs ys : List (Encounter World)} {x : Encounter World}
    (hsplit : (e.play config w).encounters = xs ++ x :: ys) :
    ∃ demand, demandOf? e = some demand ∧ ∀ key, RouteChange demand xs x key := by
  obtain ⟨demand, hdemand, hcall⟩ := routeCall_event h hsplit
  have hchronicle : Cluster.Chronicle may w.cluster (e.play config w).encounters
      (e.play config w).state.cluster := chronicle_event h hrules
  rw [hsplit] at hchronicle
  exact ⟨demand, hdemand, routeChange hchronicle hcall⟩

/-- A route stays as it is in an event in which its tenant does not ask for its deletion. -/
theorem find?_route_event (h : ByRequest e) (hrules : ∀ r ∈ w.rules, r.Keeps may) {key : Key}
    {route : IngressRoute} (hroute : w.cluster.find? .ingressRoute key = some route) :
    (e.play config w).state.cluster.find? .ingressRoute key = some route ∨
      AsksToDelete e key route := by
  rcases (chronicle_event h hrules).fate hroute with hkept | ⟨xs, x, ys, hsplit, hremoves, hxs⟩
  · exact .inl hkept
  obtain ⟨demand, hdemand, hchange⟩ := routeChange_event h hrules hsplit
  cases hchange key with
  | kept he =>
    rw [hremoves.1, hremoves.2] at he
    cases he
  | stored _ _ hstores => cases hstores.1.symm.trans hremoves.1
  | deleted hd hremoves' htenant =>
    cases hremoves.1.symm.trans hremoves'.1
    exact .inr ⟨_, hd ▸ hdemand, htenant⟩
  | takenBack _ _ _ hown =>
    obtain ⟨y, hy, hstores⟩ := hown
    cases (hxs y hy).symm.trans hstores.1

/-- When requests come one after the other, no route is ever modified. A route that is
stored is labelled with the tenant who asked for it, and it goes only when its tenant
asks for its deletion, or when the request that stored it takes it back. -/
theorem routes_change_for_tenants (config : Config) (events : List Event) (w : World)
    (hrequests : ∀ e ∈ events, ByRequest e)
    (hrules : ∀ r ∈ w.rules ++ events.flatMap Event.newRules, r.OnlyDisturbs) :
    (∀ before e after, events = before ++ e :: after →
      ∀ xs x ys, (e.play config (Event.after config before w)).encounters = xs ++ x :: ys →
        ∃ demand, demandOf? e = some demand ∧ ∀ key, RouteChange demand xs x key) ∧
    ∀ {key : Key} {route : IngressRoute}, w.cluster.find? .ingressRoute key = some route →
      (Event.after config events w).cluster.find? .ingressRoute key = some route ∨
        ∃ before e after, events = before ++ e :: after ∧ AsksToDelete e key route ∧
          (Event.after config before w).cluster.find? .ingressRoute key = some route := by
  have hold : ∀ r ∈ w.rules, r.Keeps .any := fun r hr =>
    (hrules r (List.mem_append_left _ hr)).keeps
  have hnew : ∀ e ∈ events, ∀ r ∈ e.newRules, r.Keeps .any := fun e he r hr =>
    (hrules r (List.mem_append_right _ (List.mem_flatMap.2 ⟨e, he, hr⟩))).keeps
  clear hrules
  constructor
  · rintro before e after rfl xs x ys hsplit
    obtain ⟨hnew, _⟩ := List.forall_mem_append.1 hnew
    exact routeChange_event (hrequests e (List.mem_append_right _ List.mem_cons_self))
      (keeps_after hold hnew) hsplit
  · intro key route hroute
    induction events generalizing w with
    | nil => exact .inl hroute
    | cons e events ih =>
      obtain ⟨hrequest, hrequests⟩ := List.forall_mem_cons.1 hrequests
      obtain ⟨hnew, hnews⟩ := List.forall_mem_cons.1 hnew
      have hevent : (e.play config w).state.cluster.find? .ingressRoute key = some route ∨
          AsksToDelete e key route := find?_route_event hrequest hold hroute
      rcases hevent with hkept | hasks
      · rcases ih _ hrequests (keeps_event hold hnew) hnews hkept with
          hkept | ⟨before, e', after, rfl, hasks, hthere⟩
        · exact .inl hkept
        · exact .inr ⟨e :: before, e', after, rfl, hasks, hthere⟩
      · exact .inr ⟨[], e, events, rfl, hasks, hroute⟩

/-- Whatever another tenant asks for, a route is still there afterwards. -/
theorem route_kept_from_other_tenant :
    let config := Specimen.config
    let request (method path user body : String) : Event :=
      .task Specimen.plain (.serve 1000 (Specimen.request method path user body))
    let body := Specimen.body "one"
    let key : Key := ⟨"default", "one"⟩
    let w := ((request "POST" "" "alice" body).play config Specimen.world).state
    let events := [request "POST" "" "bob" body, request "DELETE" "/one" "bob" ""]
    (∀ e ∈ events, ByRequest e) ∧
      (∀ r ∈ w.rules ++ events.flatMap Event.newRules, r.OnlyDisturbs) ∧
      ∃ route, w.cluster.find? .ingressRoute key = some route ∧
        (Event.after config events w).cluster.find? .ingressRoute key = some route := by
  intro config request body key w events
  have hrequests : ∀ e ∈ events, ByRequest e := by
    have hrequest (method path user body : String) : ByRequest (request method path user body) := by
      intro s job hjob
      cases hjob
      exact ⟨_, _, rfl⟩
    exact List.forall_mem_cons.2 ⟨hrequest _ _ _ _, List.forall_mem_singleton.2 (hrequest _ _ _ _)⟩
  have hrules : ∀ r ∈ w.rules ++ events.flatMap Event.newRules, r.OnlyDisturbs := by
    decide +kernel
  have hlabel : (w.cluster.find? .ingressRoute key).bind (·.labels.find? Labels.userId) =
      some "alice" := by decide +kernel
  obtain ⟨route, hroute, htenant⟩ := Option.bind_eq_some_iff.1 hlabel
  refine ⟨hrequests, hrules, route, hroute, ?_⟩
  rcases (routes_change_for_tenants config events w hrequests hrules).2 hroute with
    hkept | ⟨before, e, after, hsplit, ⟨user, hdemand, huser⟩, _⟩
  · exact hkept
  · have hbob : (events.all fun e => (demandOf? e).map Demand.user = some "bob") = true := by
      decide +kernel
    have hmem : e ∈ events := hsplit ▸ List.mem_append_right _ List.mem_cons_self
    have he := of_decide_eq_true (List.all_eq_true.1 hbob e hmem)
    rw [hdemand] at he
    have hsame : "alice" = user := Option.some.inj (htenant.symm.trans huser)
    exact absurd (hsame.trans (Option.some.inj he)) (by decide)

end Run

end TenantEndpoints.Http
