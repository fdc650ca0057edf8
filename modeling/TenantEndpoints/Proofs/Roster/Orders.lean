import Mathlib.Logic.Function.Basic
import TenantEndpoints.Proofs.Http.Refinement
import TenantEndpoints.Proofs.Scenario

/-!
# Rosters

Creations and deletions depend on little of what is in a cluster. A roster tells
whose endpoint is under a key and whether it has credentials. What a creation or
a deletion comes to follows from the roster at the key of its endpoint, and it
changes the roster nowhere else. Ids, passwords, uids and times do not matter,
and so all of a scenario without rules can be foretold from the roster at its
beginning.
-/
namespace TenantEndpoints

open Endpoint

/-- Whose an endpoint is, and whether it has credentials. -/
structure Enrolment where
  tenant : String
  hasCredentials : Bool

/-- The endpoints that there are, by their keys. -/
abbrev Roster := Key → Option Enrolment

namespace Roster

/-- What a table tells of its rows apart from what was drawn and when. -/
def ofTable (table : Http.Table) : Roster := fun key =>
  (table.find? key).map fun row => ⟨row.tenant, row.view.basicAuth.isSome⟩

theorem ofTable_insert (table : Http.Table) (key : Key) (row : Http.Row) :
    ofTable (table.insert key row) =
      Function.update (ofTable table) key (some ⟨row.tenant, row.view.basicAuth.isSome⟩) := by
  funext key'
  by_cases hkey : key' = key
  · rw [hkey, Function.update_self, ofTable, SortedMap.find?_insert_self]
    rfl
  · rw [Function.update_of_ne hkey, ofTable, SortedMap.find?_insert_of_ne _ _ hkey]
    rfl

theorem ofTable_erase (table : Http.Table) (key : Key) :
    ofTable (table.erase key) = Function.update (ofTable table) key none := by
  funext key'
  by_cases hkey : key' = key
  · rw [hkey, Function.update_self, ofTable, SortedMap.find?_erase_self]
    rfl
  · rw [Function.update_of_ne hkey, ofTable, SortedMap.find?_erase_of_ne _ hkey]
    rfl

end Roster

/-- A cluster has the endpoints of a roster and no others. -/
def Enrols (services : Store .service) (roster : Roster) (c : Cluster) : Prop :=
  ∃ table, Http.Represents services table c ∧ Roster.ofTable table = roster

section Enrols
variable {config : Config} {services : Store .service} {roster : Roster} {c c' : Cluster}
  {key : Key} {t : List Exchange}

theorem Enrols.services_eq (h : Enrols services roster c) : c.services = services := by
  obtain ⟨table, hrepresents, _⟩ := h
  exact hrepresents.services

theorem Enrols.eq_none_iff (h : Enrols services roster c) :
    roster key = none ↔ c.find? .ingressRoute key = none := by
  obtain ⟨table, hrepresents, rfl⟩ := h
  rw [← hrepresents.missing, Roster.ofTable, Option.map_eq_none_iff]

theorem Enrols.begun {useBasicAuth : Bool} {submitted : IngressRoute} {owner : OwnerReference}
    {credentials : Credentials} {rs : List AnyResource} {tenant : String}
    (h : Enrols services roster c)
    (hbegun : Begun config useBasicAuth submitted c owner credentials rs c')
    (hchildren : (children useBasicAuth (c.made submitted) owner credentials).Sublist rs)
    (htenant : submitted.labels.find? Labels.userId = some tenant)
    (hcreatedBy : submitted.labels.find? Labels.createdBy = some Labels.createdByValue) :
    Enrols services (Function.update roster submitted.key (some ⟨tenant, useBasicAuth⟩)) c' := by
  obtain ⟨table, hrepresents, rfl⟩ := h
  refine ⟨_, hrepresents.insert hbegun hchildren htenant hcreatedBy, ?_⟩
  rw [Roster.ofTable_insert]
  cases useBasicAuth <;> rfl

theorem Enrols.without {route : IngressRoute} (h : Enrols services roster c)
    (hroute : c.find? .ingressRoute key = some route) :
    Enrols services (Function.update roster key none) (c.without key route) := by
  obtain ⟨table, hrepresents, rfl⟩ := h
  exact ⟨_, hrepresents.erase hroute, Roster.ofTable_erase table key⟩

theorem Enrols.ensured {m : Middleware} {ignoreConflicts : Bool} {deadline : Instant}
    {ended : Option Failure} (h : Enrols services roster c) (hm : m ∈ config.shared.both)
    (hplays : (Step.ensure m).Plays ignoreConflicts deadline t ended)
    (hs : c.Serves .none t c') : Enrols services roster c' := by
  obtain ⟨table, hrepresents, rfl⟩ := h
  have hgrows := Cluster.grows_of_serves hs hplays.verb_ne_delete
  have hshared : ∀ r ∈ t.filterMap Exchange.made?, r ∈ config.shared.resources := fun r hr =>
    shared_of_plays hm hplays r ((Exchange.made_sublist_wanted t).subset hr)
  exact ⟨table, hrepresents.shared hshared hgrows, rfl⟩

end Enrols

/-- What is to be done to an endpoint. A service that is not given is only looked
for when there is nothing wrong with the request; a deletion may be on behalf of
one tenant. -/
inductive Order
  | create (request : EndpointRequest) (service : Store .service → Except Failure Service)
  | delete (key : Key) (tenant? : Option String)

/-- Why there can be no endpoint for a request, whatever endpoints there are. -/
def hindrance? (config : Config) (domain : Except Failure String) (request : EndpointRequest)
    (service : Except Failure Service) : Option Failure :=
  match request.validate, service with
  | .error reason, _ => some (.invalid reason)
  | .ok (), .error failure => some failure
  | .ok (), .ok service => match refusal? config request service, domain with
    | some failure, _ => some failure
    | none, .error failure => some failure
    | none, .ok _ => none

namespace Order

/-- The endpoint that something is to be done to. -/
def key : Order → Key
  | .create request _ => ⟨request.ns, request.name⟩
  | .delete key _ => key

def isCreation : Order → Bool
  | .create _ _ => true
  | .delete _ _ => false

/-- What is under the key of an order after it, given what was there before, or how it fails. -/
def settle (config : Config) (services : Store .service) (domain : Except Failure String)
    (found : Option Enrolment) : Order → Except FailureClass (Option Enrolment)
  | .create request service =>
    match hindrance? config domain request (service services), found with
    | some failure, _ => .error failure.class
    | none, some _ => .error .conflict
    | none, none => .ok (some ⟨request.userId, request.useBasicAuth⟩)
  | .delete _ tenant? =>
    match found.filter fun enrolment => tenant?.all (enrolment.tenant = ·) with
    | some _ => .ok none
    | none => .error .notFound

/-- The status of the reply to an order that succeeds over HTTP. -/
def success : Order → Nat
  | .create _ _ => 201
  | .delete _ _ => 204

/-- The status of the reply to an order over HTTP. -/
def status (order : Order) : Except FailureClass α → Nat
  | .ok _ => order.success
  | .error failureClass => Http.statusOf failureClass

end Order

/-- The roster after something has been settled under a key. -/
def Roster.enter (roster : Roster) (key : Key) : Except FailureClass (Option Enrolment) → Roster
  | .ok found => Function.update roster key found
  | .error _ => roster

/-- Whether something was done, or how it failed. -/
def resultOf : Except Failure α → Except FailureClass Unit
  | .ok _ => .ok ()
  | .error failure => .error failure.class

/-- An attempt comes to what has been settled under a key, and a cluster is left accordingly. -/
structure Settles (services : Store .service) (roster : Roster) (key : Key)
    (settled : Except FailureClass (Option Enrolment)) (r : Except Failure α) (c' : Cluster) :
    Prop where
  result : resultOf r = settled.map fun _ => ()
  enrols : Enrols services (roster.enter key settled) c'

section Settles
variable {config : Config} {services : Store .service} {domain : Except Failure String}
  {roster : Roster} {c c' : Cluster} {deadline : Instant} {t : List Exchange}

theorem Settles.refused {key : Key} {settled : Except FailureClass (Option Enrolment)}
    {failure : Failure} (h : Enrols services roster c) (hsettled : settled = .error failure.class) :
    Settles services roster key settled (.error failure : Except Failure α) c := by
  subst hsettled
  exact ⟨rfl, h⟩

theorem Settles.map {key : Key} {settled : Except FailureClass (Option Enrolment)}
    {r : Except Failure α} (h : Settles services roster key settled r c') (f : α → β) :
    Settles services roster key settled (r.map f) c' := by
  refine ⟨Eq.trans ?_ h.result, h.enrols⟩
  cases r <;> rfl

/-- Where the service is given, a hindrance is a refusal or the lack of a domain. -/
theorem hindrance?_ok (request : EndpointRequest) (service : Service) :
    hindrance? config domain request (.ok service) = match refusal? config request service, domain with
      | some failure, _ => some failure
      | none, .error failure => some failure
      | none, .ok _ => none := by
  unfold hindrance?
  cases hv : request.validate with
  | error reason =>
    have hrefusal : refusal? config request service = some (.invalid reason) := by
      unfold refusal?
      rw [hv]
    rw [hrefusal]
  | ok _ => rfl

/-- A creation that is hindered makes no call, and any other follows the saga. -/
theorem plays_create_of_domain {request : EndpointRequest} {service : Service}
    {r : Except Failure Created}
    (h : (Endpoint.create config request service deadline).run.Plays (· = domain) t r) :
    (∃ failure, hindrance? config domain request (.ok service) = some failure ∧
        t = [] ∧ r = .error failure) ∨
      ∃ (url : String) (ids : List String),
        hindrance? config domain request (.ok service) = none ∧
        Saga config request.useBasicAuth (submission config request service url ids) deadline t r := by
  rw [run_create_eq] at h
  rw [hindrance?_ok]
  cases hrefusal : refusal? config request service with
  | some failure =>
    rw [hrefusal] at h
    exact .inl ⟨failure, rfl, h⟩
  | none =>
    rw [hrefusal] at h
    obtain ⟨failure | url, hdomain, h⟩ := h
    · rw [← hdomain]
      exact .inl ⟨failure, rfl, h⟩
    · obtain ⟨ids, _, hsaga⟩ := plays_createUnder h
      rw [← hdomain]
      exact .inr ⟨url, ids, rfl, hsaga⟩

/-- What comes of a creation follows from what is under the key of its route. -/
theorem settles_create {request : EndpointRequest} {service : Service}
    {find : Store .service → Except Failure Service} {r : Except Failure Created}
    (h : Enrols services roster c) (hfind : find services = .ok service)
    (hplays : (Endpoint.create config request service deadline).run.Plays (· = domain) t r)
    (hs : c.Serves .none t c') :
    Settles services roster ⟨request.ns, request.name⟩
      ((Order.create request find).settle config services domain
        (roster ⟨request.ns, request.name⟩)) r c' := by
  have howned : Owned Http.Underived c := by
    obtain ⟨table, hrepresents, _⟩ := h
    exact hrepresents.owned
  rcases plays_create_of_domain hplays with
    ⟨failure, hhindrance, rfl, rfl⟩ | ⟨url, ids, hhindrance, hsaga⟩
  · obtain rfl : c' = c := hs
    refine .refused h ?_
    simp only [Order.settle, hfind, hhindrance]
  · rcases saga_calm hsaga hs (Option.some_ne_none request.name) howned
        (Http.exempts_underived config.shared) with
      ⟨hfound, rfl, rfl⟩ | ⟨owner, credentials, rs, hbegun, hchildren, rfl⟩
    · obtain ⟨enrolment, henrolment⟩ := Option.ne_none_iff_exists'.1 (mt h.eq_none_iff.1 hfound)
      have henrolment' : roster ⟨request.ns, request.name⟩ = some enrolment := henrolment
      refine .refused h ?_
      simp only [Order.settle, hfind, hhindrance, henrolment']
      rfl
    · have hfree : roster ⟨request.ns, request.name⟩ = none := h.eq_none_iff.2 hbegun.free
      have henrols := h.begun hbegun hchildren
        (Labels.find?_ofEndpoint_userId service.labels request.userId request.labels)
        (Labels.find?_ofEndpoint_createdBy service.labels request.userId request.labels)
      simp only [Order.settle, hfind, hhindrance, hfree]
      exact ⟨rfl, henrols⟩

/-- What comes of a deletion follows from whether there is a route. -/
theorem settles_delete {ns name : String} {r : Except Failure Unit} (h : Enrols services roster c)
    (hplays : (Endpoint.delete ns name deadline).run.Plays (· = domain) t r)
    (hs : c.Serves .none t c') :
    Settles services roster ⟨ns, name⟩
      ((Order.delete ⟨ns, name⟩ none).settle config services domain (roster ⟨ns, name⟩)) r c' := by
  rw [Endpoint.plays_delete hplays] at hs
  obtain ⟨c₁, hdelete, rfl⟩ := hs
  rcases Cluster.meets_delete_route hdelete with
    ⟨failure, rfl, rfl, hmay | ⟨hnone, rfl⟩⟩ | ⟨route, hroute, rfl, rfl⟩
  · exact hmay.elim
  · refine .refused h ?_
    simp only [Order.settle, h.eq_none_iff.2 hnone]
    rfl
  · cases hfound : roster ⟨ns, name⟩ with
    | none =>
      rw [h.eq_none_iff.1 hfound] at hroute
      cases hroute
    | some enrolment => exact ⟨rfl, h.without hroute⟩

/-- The service that a demand names. -/
def serviceIn (ns name : String) (services : Store .service) : Except Failure Service :=
  match services.find? ⟨ns, name⟩ with
  | some service => .ok service
  | none => .error (.absent .service ns name)

/-- What a demand is to do to an endpoint, if it is more than to read. -/
def Http.Demand.order? : Demand → Option Order
  | .create ns user body => some (.create (requestOf ns user body) (serviceIn ns body.serviceName))
  | .delete ns name user => some (.delete ⟨ns, name⟩ (some user))
  | .list _ _ _ | .count _ _ | .get _ _ _ => none

theorem settles_create_demand {ns user : String} {body : Http.CreateBody}
    {r : Except Failure Http.Response} (h : Enrols services roster c)
    (hplays : (Http.create config ns user body deadline).run.Plays (· = domain) t r)
    (hs : c.Serves .none t c') :
    Settles services roster ⟨ns, body.name⟩
        ((Order.create (Http.requestOf ns user body) (serviceIn ns body.serviceName)).settle config
          services domain (roster ⟨ns, body.name⟩)) r c' ∧
      ∀ response, r = .ok response → response.status = 201 := by
  have hrest := Http.plays_create hplays
  cases hvalid : (Http.requestOf ns user body).validate with
  | error reason =>
    rw [hvalid] at hrest
    obtain ⟨rfl, rfl⟩ := hrest
    obtain rfl : c' = c := hs
    refine ⟨.refused h ?_, fun _ he => nomatch he⟩
    simp only [Order.settle, hindrance?, hvalid]
  | ok _ =>
    rw [hvalid] at hrest
    obtain ⟨found, t', rfl, hrest⟩ := hrest
    obtain ⟨c₁, hget, hs⟩ := hs
    obtain ⟨rfl, hfound⟩ := Cluster.meets_get hget
    rcases hfound with ⟨service, he, hservice⟩ | ⟨failure, he, hmay | ⟨hnone, hf⟩⟩
    · change found = .ok service at he
      rw [he] at hrest
      obtain ⟨created, hcreate, rfl⟩ := hrest
      have hpresent : services.find? ⟨ns, body.serviceName⟩ = some service := by
        rw [← h.services_eq]
        exact hservice
      have hfind : serviceIn ns body.serviceName services = .ok service := by
        rw [serviceIn, hpresent]
      refine ⟨(settles_create h hfind hcreate hs).map Http.shown, fun response he => ?_⟩
      cases created with
      | ok created =>
        cases he
        rfl
      | error failure => cases he
    · exact hmay.elim
    · change found = .error failure at he
      rw [he] at hrest
      obtain ⟨rfl, rfl⟩ := hrest
      obtain rfl : c' = c₁ := hs
      have habsent : services.find? ⟨ns, body.serviceName⟩ = none := by
        rw [← h.services_eq]
        exact hnone
      refine ⟨.refused h ?_, fun _ he => nomatch he⟩
      simp only [Order.settle, hindrance?, hvalid, serviceIn, habsent, hf]

theorem settles_delete_demand {ns name user : String} {r : Except Failure Http.Response}
    (h : Enrols services roster c)
    (hplays : (Http.delete ns name user deadline).run.Plays (· = domain) t r)
    (hs : c.Serves .none t c') :
    Settles services roster ⟨ns, name⟩
        ((Order.delete ⟨ns, name⟩ (some user)).settle config services domain
          (roster ⟨ns, name⟩)) r c' ∧
      ∀ response, r = .ok response → response.status = 204 := by
  have henrols := h
  obtain ⟨table, hrepresents, rfl⟩ := h
  obtain ⟨found, t', rfl, hrest⟩ := Http.plays_delete hplays
  obtain ⟨c₁, hs₁, hs₂⟩ := Cluster.serves_append (t := [_]).1 hs
  obtain ⟨rfl, hfound⟩ := Http.visible_found hrepresents user hs₁
  have hfilter : (Roster.ofTable table ⟨ns, name⟩).filter
      (fun enrolment => (some user).all (enrolment.tenant = ·)) =
      (table.owned? ⟨ns, name⟩ user).map fun row => ⟨row.tenant, row.view.basicAuth.isSome⟩ :=
    Option.filter_map
  simp only [Order.settle, hfilter]
  cases hrow : table.owned? ⟨ns, name⟩ user with
  | none =>
    rw [hrow] at hfound
    obtain ⟨failure, hvisible, hclass⟩ := hfound
    rw [hvisible] at hrest
    obtain ⟨rfl, rfl⟩ := hrest
    obtain rfl : c' = c₁ := hs₂
    exact ⟨.refused henrols (congrArg Except.error hclass.symm), fun _ he => nomatch he⟩
  | some row =>
    rw [hrow] at hfound
    obtain ⟨route, hvisible, hroute, _⟩ := hfound
    rw [hvisible] at hrest
    obtain ⟨deleted, rfl, rfl⟩ := hrest
    obtain ⟨c₂, hdelete, rfl⟩ := hs₂
    rcases Cluster.meets_delete_route hdelete with
      ⟨_, _, _, hmay | ⟨hnone, _⟩⟩ | ⟨route', hroute', he, rfl⟩
    · exact hmay.elim
    · rw [hroute] at hnone
      cases hnone
    · change deleted = .ok () at he
      rw [he]
      refine ⟨⟨rfl, henrols.without hroute'⟩, fun response hresponse => ?_⟩
      cases hresponse
      rfl

/-- What is done for a demand is what its order is settled with. -/
theorem settles_demand {demand : Http.Demand} {order : Order} {r : Except Failure Http.Response}
    (h : Enrols services roster c) (horder : demand.order? = some order)
    (hplays : (demand.attempt config deadline).run.Plays (· = domain) t r)
    (hs : c.Serves .none t c') :
    Settles services roster order.key
        (order.settle config services domain (roster order.key)) r c' ∧
      (Http.responseOf r).status =
        order.status (order.settle config services domain (roster order.key)) := by
  have hstatus (hsettles : Settles services roster order.key
        (order.settle config services domain (roster order.key)) r c')
      (hsuccess : ∀ response, r = .ok response → response.status = order.success) :
      (Http.responseOf r).status =
        order.status (order.settle config services domain (roster order.key)) := by
    have hresult := hsettles.result
    generalize order.settle config services domain (roster order.key) = settled at hresult ⊢
    cases r with
    | ok response =>
      cases settled with
      | ok found => exact hsuccess response rfl
      | error failureClass => cases hresult
    | error failure =>
      cases settled with
      | ok found => cases hresult
      | error failureClass =>
        cases hresult
        rfl
  cases demand with
  | create ns user body =>
    cases horder
    obtain ⟨hsettles, hsuccess⟩ := settles_create_demand h hplays hs
    exact ⟨hsettles, hstatus hsettles hsuccess⟩
  | delete ns name user =>
    cases horder
    obtain ⟨hsettles, hsuccess⟩ := settles_delete_demand h hplays hs
    exact ⟨hsettles, hstatus hsettles hsuccess⟩
  | list | count | get => cases horder

theorem reads_of_demand {demand : Http.Demand} {r : Except Failure Http.Response}
    (horder : demand.order? = none)
    (hplays : (demand.attempt config deadline).run.Plays lookup t r) : Reads t := by
  cases conduct_demand hplays with
  | reads ht => exact ht
  | creates | deletes => cases horder

end Settles

end TenantEndpoints
