import TenantEndpoints.Http.Api
import TenantEndpoints.Proofs.Program.Play

/-!
# The exchanges of requests

Which calls each operation on behalf of a tenant makes, one depending on the
outcome of the other, and what response comes of them. Again whoever answers.
-/
namespace TenantEndpoints

namespace Endpoint
variable {ns name : String} {selector : Selector} {deadline : Instant} {t : List Exchange}

/-- The credentials in an outcome of looking for a secret. -/
def credentialsIn : Except Failure Secret → Except Failure (Option Credentials)
  | .ok secret => ((Credentials.ofSecret secret).mapError .internal).map some
  | .error failure => if failure.isNotFound then .ok none else .error failure

theorem run_credentials_eq (ns name : String) (deadline : Instant) :
    (credentials ns name deadline).run =
      .step (.call (.get .secret ns (secretName name)) deadline) fun found =>
        .done (credentialsIn found) := by
  unfold credentials
  rw [Attempt.run_outcome_bind]
  refine congrArg (Program.step _) (funext fun found => ?_)
  cases found with
  | ok secret =>
    change (some <$> Attempt.ofExcept ((Credentials.ofSecret secret).mapError .internal) :
      Attempt _).run = .done (((Credentials.ofSecret secret).mapError .internal).map some)
    cases Credentials.ofSecret secret <;> rfl
  | error failure =>
    change (if failure.isNotFound then pure none else throw failure : Attempt _).run =
      .done (if failure.isNotFound then .ok none else .error failure)
    split <;> rfl

theorem plays_credentials {r : Except Failure (Option Credentials)}
    (h : (credentials ns name deadline).run.Plays lookup t r) :
    ∃ secret, t = [⟨.get .secret ns (secretName name), deadline, secret⟩] ∧
      r = credentialsIn secret := by
  rw [run_credentials_eq] at h
  obtain ⟨secret, _, rfl, rfl, rfl⟩ := h
  exact ⟨secret, rfl, rfl⟩

theorem plays_delete {r : Except Failure Unit}
    (h : (delete ns name deadline).run.Plays lookup t r) :
    t = [⟨.delete .ingressRoute ns name, deadline, r⟩] := by
  unfold delete at h
  rcases Attempt.plays_call_bind.1 h with ⟨failure, rfl, rfl⟩ | ⟨_, t', rfl, h₁⟩
  · rfl
  · obtain ⟨_, rfl, h₂⟩ := Attempt.plays_lift.1 h₁
    rw [Program.plays_log.1 h₂]

theorem plays_count {r : Except Failure Nat}
    (h : (count ns selector deadline).run.Plays lookup t r) :
    ∃ listed, t = [⟨.list .ingressRoute ns selector, deadline, listed⟩] ∧
      r = listed.map List.length := by
  unfold count list at h
  rcases Attempt.plays_call_bind.1 h with ⟨failure, rfl, rfl⟩ | ⟨routes, t', rfl, h₁⟩
  · exact ⟨.error failure, rfl, rfl⟩
  · obtain ⟨rfl, rfl⟩ := h₁
    exact ⟨.ok routes, rfl, rfl⟩

end Endpoint

namespace Http
open Endpoint

section Operations
variable {ns name user : String} {deadline : Instant} {t : List Exchange}

theorem eq_ok_of_toOption {x : Except ε α} {a : α} (h : x.toOption = some a) : x = .ok a := by
  cases x with
  | error e => cases h
  | ok b => exact congrArg Except.ok (Option.some.inj h)

theorem exists_eq_ok {x : Except ε α} {f : α → β} {b : β} (h : x.toOption.map f = some b) :
    ∃ a, x = .ok a ∧ f a = b := by
  obtain ⟨a, hx, hb⟩ := Option.map_eq_some_iff.1 h
  exact ⟨a, eq_ok_of_toOption hx, hb⟩

/-- The response to an outcome. -/
def responseOf : Except Failure Response → Response
  | .ok response => response
  | .error failure => .ofError (statusOf failure.class) failure.message

theorem le_status_error (failure : Failure) : 400 ≤ (responseOf (.error failure)).status := by
  change 400 ≤ statusOf failure.class
  cases failure.class <;> decide

theorem plays_failed {failure : Failure} {response : Response}
    (h : (failed failure).Plays lookup t response) :
    t = [] ∧ response = responseOf (.error failure) := by
  unfold failed logWarn at h
  split at h
  · obtain ⟨_, _, t', rfl, h₁, rfl, rfl⟩ := Program.plays_bind.1 h
    rw [Program.plays_log.1 h₁]
    exact ⟨rfl, rfl⟩
  · obtain ⟨rfl, rfl⟩ := h
    exact ⟨rfl, rfl⟩

theorem plays_respond {a : Attempt Response} {response : Response}
    (h : (respond a).Plays lookup t response) :
    ∃ r, a.run.Plays lookup t r ∧ response = responseOf r := by
  unfold respond at h
  obtain ⟨r, t₁, t₂, rfl, h₁, h₂⟩ := Program.plays_bind.1 h
  refine ⟨r, ?_⟩
  cases r with
  | ok a =>
    obtain ⟨rfl, rfl⟩ := h₂
    exact ⟨by simpa using h₁, rfl⟩
  | error failure =>
    obtain ⟨rfl, rfl⟩ := plays_failed h₂
    exact ⟨by simpa using h₁, rfl⟩

/-- What a tenant sees of an outcome of looking for a route. -/
def visible (name user : String) : Except Failure IngressRoute → Except Failure IngressRoute
  | .ok route =>
    if isOwnedBy route user then .ok route else .error (.notFound Kind.ingressRoute.name name)
  | .error failure => .error failure

/-- Nothing else is done unless the lookup shows a route of the tenant. -/
theorem run_ownedRoute_bind (ns name user : String) (deadline : Instant)
    (rest : IngressRoute → Attempt α) : (ownedRoute ns name user deadline >>= rest).run =
      .step (.call (.get .ingressRoute ns name) deadline) fun found =>
        match visible name user found with
        | .error failure => .done (.error failure)
        | .ok route => (rest route).run := by
  change Program.step _ _ = _
  congr 1
  funext found
  cases found with
  | error failure => rfl
  | ok route =>
    change (if isOwnedBy route user then Program.done (.ok route)
      else .done (.error (.notFound Kind.ingressRoute.name name))).bind
        (ExceptT.bindCont rest) = _
    cases ho : isOwnedBy route user with
    | true =>
      simp only [visible, ho, if_true]
      rfl
    | false =>
      simp only [visible, ho]
      rfl

/-- What goes on with a route of the tenant goes on after that has been found. -/
theorem plays_ownedRoute_bind {f : IngressRoute → Attempt α} {r : Except Failure α}
    (h : (ownedRoute ns name user deadline >>= f).run.Plays lookup t r) :
    ∃ found t', t = ⟨.get .ingressRoute ns name, deadline, found⟩ :: t' ∧
      match visible name user found with
      | .error failure => t' = [] ∧ r = .error failure
      | .ok route => (f route).run.Plays lookup t' r := by
  rw [run_ownedRoute_bind] at h
  obtain ⟨found, t', rfl, h₁⟩ := h
  refine ⟨found, t', rfl, ?_⟩
  dsimp only at h₁
  cases hv : visible name user found with
  | error failure | ok route =>
    rw [hv] at h₁
    exact h₁

/-- The request for an endpoint that a tenant makes with a body. -/
def requestOf (ns user : String) (body : CreateBody) : EndpointRequest :=
  { name := body.name, ns, userId := user, useBasicAuth := body.useBasicAuth }

/-- The response to a creation. -/
def shown (created : Created) : Response :=
  { status := 201, body := some (View.ofRoute created.route created.credentials).toJson }

/-- A creation for a tenant looks at the service and then creates the endpoint. -/
theorem run_create_eq (config : Config) (ns user : String) (body : CreateBody)
    (deadline : Instant) :
    (Http.create config ns user body deadline).run =
      match (requestOf ns user body).validate with
      | .error reason => .done (.error (.invalid reason))
      | .ok () => .step (.call (.get .service ns body.serviceName) deadline) fun
        | .error failure => .done (.error failure)
        | .ok service => Except.map shown <$>
          (Endpoint.create config (requestOf ns user body) service deadline).run := by
  change (Attempt.ofExcept ((requestOf ns user body).validate.mapError .invalid) >>= fun _ =>
    Attempt.call (.get .service ns body.serviceName) deadline >>= fun service =>
      (shown <$> Endpoint.create config (requestOf ns user body) service deadline :
        Attempt Response)).run = _
  cases (requestOf ns user body).validate with
  | error reason => rfl
  | ok _ =>
    change Program.step _ _ = _
    congr 1
    funext found
    cases found with
    | error failure => rfl
    | ok service => exact ExceptT.run_map ..

variable {r : Except Failure Response}

theorem plays_create {config : Config} {body : CreateBody}
    (h : (create config ns user body deadline).run.Plays lookup t r) :
    match (requestOf ns user body).validate with
    | .error reason => t = [] ∧ r = .error (.invalid reason)
    | .ok () => ∃ found t', t = ⟨.get .service ns body.serviceName, deadline, found⟩ :: t' ∧
      match found with
      | .error failure => t' = [] ∧ r = .error failure
      | .ok service => ∃ created,
        (Endpoint.create config (requestOf ns user body) service deadline).run.Plays lookup t' created ∧
          r = created.map shown := by
  rw [run_create_eq] at h
  cases hv : (requestOf ns user body).validate with
  | error reason =>
    rw [hv] at h
    exact h
  | ok _ =>
    rw [hv] at h
    obtain ⟨found, t', rfl, h₁⟩ := h
    refine ⟨found, t', rfl, ?_⟩
    cases found with
    | error failure => exact h₁
    | ok service =>
      obtain ⟨created, rfl, h₂⟩ := Program.plays_map.1 h₁
      exact ⟨created, h₂, rfl⟩

/-- An attempt that asks for one list and makes something of it. -/
def AsksForList (ns : String) (selector : Selector) (deadline : Instant)
    (tell : List IngressRoute → Response) (a : Attempt Response) : Prop :=
  a.run = .step (.call (.list .ingressRoute ns selector) deadline) fun listed =>
    .done (listed.map tell)

/-- The filter of a listing on behalf of a tenant. -/
def filterOf (user : String) (query : ListQuery) : ListFilter :=
  { protocol := query.protocol, network := query.network, userId := some user }

/-- The response that shows a page of some routes. -/
def listing (query : ListQuery) (routes : List IngressRoute) : Response :=
  { status := 200
    totalCount := some routes.length
    body := some (.array
      (((query.paginate routes).map fun route => View.ofRoute route none).map View.toJson)) }

/-- The response that counts some routes. -/
def counting (routes : List IngressRoute) : Response :=
  { status := 200
    totalCount := some routes.length
    body := some (.object [("count", .integer routes.length)]) }

theorem asksForList_list (ns user : String) (query : ListQuery) (deadline : Instant) :
    AsksForList ns (filterOf user query).selector deadline (listing query)
      (Http.list ns user query deadline) := by
  change Program.step _ _ = _
  congr 1
  funext listed
  cases listed <;> rfl

theorem asksForList_count (ns user : String) (deadline : Instant) :
    AsksForList ns (ListFilter.selector { userId := some user }) deadline counting
      (Http.count ns user deadline) := by
  change Program.step _ _ = _
  congr 1
  funext listed
  cases listed <;> rfl

theorem AsksForList.plays {selector : Selector} {tell : List IngressRoute → Response}
    {a : Attempt Response} (h : AsksForList ns selector deadline tell a)
    (hplays : a.run.Plays lookup t r) :
    ∃ listed, t = [⟨.list .ingressRoute ns selector, deadline, listed⟩] ∧ r = listed.map tell := by
  rw [h] at hplays
  obtain ⟨listed, _, rfl, rfl, rfl⟩ := hplays
  exact ⟨listed, rfl, rfl⟩

theorem plays_list {query : ListQuery} (h : (list ns user query deadline).run.Plays lookup t r) :
    ∃ listed, t = [⟨.list .ingressRoute ns (ListFilter.selector
        { protocol := query.protocol, network := query.network, userId := some user }),
          deadline, listed⟩] ∧
      r = listed.map fun routes =>
        { status := 200
          totalCount := some routes.length
          body := some (.array ((query.paginate routes).map fun route =>
            (View.ofRoute route none).toJson)) } := by
  obtain ⟨listed, rfl, rfl⟩ := (asksForList_list ns user query deadline).plays h
  refine ⟨listed, rfl, congrArg (listed.map ·) (funext fun routes => ?_)⟩
  simp only [listing, List.map_map, Function.comp_def]

theorem plays_count (h : (count ns user deadline).run.Plays lookup t r) :
    ∃ listed, t = [⟨.list .ingressRoute ns (ListFilter.selector { userId := some user }),
        deadline, listed⟩] ∧
      r = listed.map fun routes =>
        { status := 200
          totalCount := some routes.length
          body := some (.object [("count", .integer routes.length)]) } :=
  (asksForList_count ns user deadline).plays h

theorem run_get_eq (ns name user : String) (deadline : Instant) :
    (Http.get ns name user deadline).run =
      .step (.call (.get .ingressRoute ns name) deadline) fun found =>
        match visible name user found with
        | .error failure => .done (.error failure)
        | .ok route => .step (.call (.get .secret ns (secretName name)) deadline) fun secret =>
          .done ((credentialsIn secret).map fun credentials =>
            { status := 200, body := some (View.ofRoute route credentials).toJson }) := by
  unfold Http.get
  rw [run_ownedRoute_bind]
  refine congrArg (Program.step _) (funext fun found => ?_)
  cases visible name user found with
  | error failure => rfl
  | ok route =>
    dsimp only
    rw [ExceptT.run_bind, run_credentials_eq]
    refine congrArg (Program.step _) (funext fun secret => ?_)
    change (Program.done (credentialsIn secret)).bind _ = _
    cases credentialsIn secret <;> rfl

theorem plays_get (h : (get ns name user deadline).run.Plays lookup t r) :
    ∃ found t', t = ⟨.get .ingressRoute ns name, deadline, found⟩ :: t' ∧
      match visible name user found with
      | .error failure => t' = [] ∧ r = .error failure
      | .ok route => ∃ secret, t' = [⟨.get .secret ns (secretName name), deadline, secret⟩] ∧
        r = (credentialsIn secret).map fun credentials =>
          { status := 200, body := some (View.ofRoute route credentials).toJson } := by
  rw [run_get_eq] at h
  obtain ⟨found, t', rfl, h₁⟩ := h
  refine ⟨found, t', rfl, ?_⟩
  dsimp only at h₁
  cases hv : visible name user found with
  | error failure =>
    rw [hv] at h₁
    exact h₁
  | ok route =>
    rw [hv] at h₁
    obtain ⟨secret, _, rfl, rfl, rfl⟩ := h₁
    exact ⟨secret, rfl, rfl⟩

theorem plays_delete (h : (delete ns name user deadline).run.Plays lookup t r) :
    ∃ found t', t = ⟨.get .ingressRoute ns name, deadline, found⟩ :: t' ∧
      match visible name user found with
      | .error failure => t' = [] ∧ r = .error failure
      | .ok _ => ∃ deleted, t' = [⟨.delete .ingressRoute ns name, deadline, deleted⟩] ∧
        r = deleted.map fun _ => { status := 204 } := by
  unfold delete at h
  obtain ⟨found, t', rfl, h₁⟩ := plays_ownedRoute_bind h
  refine ⟨found, t', rfl, ?_⟩
  cases hv : visible name user found with
  | error failure =>
    rw [hv] at h₁
    exact h₁
  | ok route =>
    rw [hv] at h₁
    rcases Attempt.plays_bind.1 h₁ with ⟨failure, rfl, h₂⟩ | ⟨_, t₁, t₂, rfl, h₂, rfl, rfl⟩
    · exact ⟨.error failure, Endpoint.plays_delete h₂, rfl⟩
    · exact ⟨.ok (), by simpa using Endpoint.plays_delete h₂, rfl⟩

end Operations

/-- What a request asks for after all of it has been read. -/
inductive Demand
  | create (ns user : String) (body : CreateBody)
  | list (ns user : String) (query : ListQuery)
  | count (ns user : String)
  | get (ns name user : String)
  | delete (ns name user : String)

namespace Demand

def ns : Demand → String
  | .create ns _ _ | .list ns _ _ | .count ns _ | .get ns _ _ | .delete ns _ _ => ns

/-- The tenant on whose behalf something is asked for. -/
def user : Demand → String
  | .create _ user _ | .list _ user _ | .count _ user | .get _ _ user | .delete _ _ user => user

/-- Reads what an operation on behalf of a tenant needs from a request, or tells
what is answered without it. -/
def ofOperation (request : Request) (user : String) :
    Operation → Except (Except ReadFault Response) Demand
  | .create ns => match request.body.failure with
    | some cause => .error (.error ⟨cause⟩)
    | none => match CreateBody.decode request.body.bytes with
      | .ok body => .ok (.create ns user body)
      | .error mishap => .error (.ok (.ofError 400 (mishap.describe request.body.bytes)))
  | .list ns => match ListQuery.read request.target.query with
    | .ok query => .ok (.list ns user query)
    | .error reason => .error (.ok (responseOf (.error (.invalid reason))))
  | .count ns => .ok (.count ns user)
  | .get ns name => .ok (.get ns name user)
  | .delete ns name => .ok (.delete ns name user)

/-- Reads a request, or tells what is answered because of its path, its method,
its tenant, its body or its query. -/
def ofRequest (request : Request) : Except (Except ReadFault Response) Demand :=
  match Operation.select? request.method request.target.path with
  | none => .error (.ok (.ofError 404 "not found"))
  | some operation => match request.userId? with
    | none => .error (.ok (.ofError 401 "missing user id"))
    | some user => ofOperation request user operation

theorem ofRequest_eq {request : Request} {operation : Operation} {user : String}
    (hoperation : Operation.select? request.method request.target.path = some operation)
    (huser : request.userId? = some user) :
    ofRequest request = ofOperation request user operation := by
  simp only [ofRequest, hoperation, huser]

theorem ofRequest_eq_create {request : Request} {ns user : String} {body : CreateBody}
    (hoperation : Operation.select? request.method request.target.path = some (.create ns))
    (huser : request.userId? = some user) (hfailure : request.body.failure = none)
    (hbody : CreateBody.decode request.body.bytes = .ok body) :
    ofRequest request = .ok (.create ns user body) := by
  rw [ofRequest_eq hoperation huser, ofOperation]
  simp only [hfailure, hbody]

/-- What is done for a demand. -/
def attempt (config : Config) (deadline : Instant) : Demand → Attempt Response
  | .create ns user body => Http.create config ns user body deadline
  | .list ns user query => Http.list ns user query deadline
  | .count ns user => Http.count ns user deadline
  | .get ns name user => Http.get ns name user deadline
  | .delete ns name user => Http.delete ns name user deadline

theorem ofOperation_eq_ok {request : Request} {user : String} {operation : Operation}
    {demand : Demand} (h : ofOperation request user operation = .ok demand) :
    demand.ns = operation.ns ∧ demand.user = user := by
  unfold ofOperation at h
  cases operation with
  | create ns =>
    dsimp only at h
    split at h
    · cases h
    split at h
    · cases h
      exact ⟨rfl, rfl⟩
    · cases h
  | list ns =>
    dsimp only at h
    split at h
    · cases h
      exact ⟨rfl, rfl⟩
    · cases h
  | count ns | get ns name | delete ns name =>
    cases h
    exact ⟨rfl, rfl⟩

end Demand

theorem ns_of_within? {method ns : String} {rest : List String} {operation : Operation}
    (h : Operation.within? method ns rest = some operation) : operation.ns = ns := by
  unfold Operation.within? at h
  split at h
  · split at h
    · cases h
      rfl
    split at h
    · cases h
      rfl
    · cases h
  · split at h
    · cases h
      rfl
    split at h
    · cases h
    split at h
    · cases h
      rfl
    split at h
    · cases h
      rfl
    · cases h
  · cases h

theorem ns_ne_empty {method path : String} {operation : Operation}
    (h : Operation.select? method path = some operation) : operation.ns ≠ "" := by
  unfold Operation.select? at h
  split at h
  · split at h
    · cases h
    · next hne =>
      rw [ns_of_within? h]
      exact hne
  · cases h

theorem userId_ne_empty {request : Request} {user : String} (h : request.userId? = some user) :
    user ≠ "" := by
  obtain ⟨bytes, _, hbytes⟩ := Option.bind_eq_some_iff.1 h
  split at hbytes
  · next hne =>
    cases hbytes
    intro he
    have hnil := congrArg String.toList he
    rw [String.toList_ofList] at hnil
    exact hne.1 (List.map_eq_nil_iff.1 hnil)
  · cases hbytes

/-- Nothing is asked for without a namespace and a tenant. -/
theorem Demand.ne_empty {request : Request} {demand : Demand}
    (h : ofRequest request = .ok demand) : demand.ns ≠ "" ∧ demand.user ≠ "" := by
  unfold ofRequest at h
  cases ho : Operation.select? request.method request.target.path with
  | none =>
    rw [ho] at h
    cases h
  | some operation =>
    rw [ho] at h
    dsimp only at h
    cases hu : request.userId? with
    | none =>
      rw [hu] at h
      cases h
    | some user =>
      rw [hu] at h
      obtain ⟨hns, huser⟩ := ofOperation_eq_ok h
      rw [hns, huser]
      exact ⟨ns_ne_empty ho, userId_ne_empty hu⟩

section Serve
variable {config : Config} {request : Request} {user : String} {deadline : Instant}
  {operation : Operation} {demand : Demand} {response r : Except ReadFault Response}
  {t : List Exchange}

/-- What is asked for is attempted, and the response is that of the attempt. -/
theorem serveOperation_of_demand (h : Demand.ofOperation request user operation = .ok demand)
    (deadline : Instant) : serveOperation config request user deadline operation =
      .ok <$> respond (demand.attempt config deadline) := by
  cases operation with
  | create ns =>
    simp only [Demand.ofOperation] at h
    simp only [serveOperation, serveCreate]
    cases hfailure : request.body.failure with
    | some cause =>
      rw [hfailure] at h
      cases h
    | none =>
      rw [hfailure] at h
      dsimp only at h ⊢
      cases hbody : CreateBody.decode request.body.bytes with
      | error mishap =>
        rw [hbody] at h
        cases h
      | ok body =>
        rw [hbody] at h
        cases h
        rfl
  | list ns =>
    simp only [Demand.ofOperation] at h
    simp only [serveOperation]
    cases hquery : ListQuery.read request.target.query with
    | error reason =>
      rw [hquery] at h
      cases h
    | ok query =>
      rw [hquery] at h
      cases h
      rfl
  | count ns | get ns name | delete ns name =>
    cases h
    rfl

theorem serve_of_demand {timeoutMs : Nat} (h : Demand.ofRequest request = .ok demand) :
    serve config timeoutMs request = .step .now fun arrival =>
      .ok <$> respond (demand.attempt config (arrival + timeoutMs)) := by
  unfold Demand.ofRequest at h
  unfold serve
  cases hoperation : Operation.select? request.method request.target.path with
  | none =>
    rw [hoperation] at h
    cases h
  | some operation =>
    rw [hoperation] at h
    dsimp only at h ⊢
    cases huser : request.userId? with
    | none =>
      rw [huser] at h
      cases h
    | some user =>
      rw [huser] at h
      have hserve (arrival : Instant) :
          serveOperation config request user (arrival + timeoutMs) operation =
            .ok <$> respond (demand.attempt config (arrival + timeoutMs)) :=
        serveOperation_of_demand h (arrival + timeoutMs)
      exact congrArg (Program.step .now) (funext hserve)

theorem plays_ok_respond {a : Attempt Response}
    (h : (.ok <$> respond a : Program (Except ReadFault Response)).Plays lookup t r) :
    ∃ outcome, a.run.Plays lookup t outcome ∧ r = .ok (responseOf outcome) := by
  obtain ⟨response, rfl, h₁⟩ := Program.plays_map.1 h
  obtain ⟨outcome, h₂, rfl⟩ := plays_respond h₁
  exact ⟨outcome, h₂, rfl⟩

/-- Where nothing is asked for, the response is given without any exchange. -/
theorem plays_serveOperation_of_error
    (hrefused : Demand.ofOperation request user operation = .error response)
    (h : (serveOperation config request user deadline operation).Plays lookup t r) :
    t = [] ∧ r = response := by
  cases operation with
  | create ns =>
    simp only [Demand.ofOperation] at hrefused
    simp only [serveOperation, serveCreate] at h
    cases hfailure : request.body.failure with
    | some cause =>
      rw [hfailure] at hrefused h
      cases hrefused
      exact h
    | none =>
      rw [hfailure] at hrefused h
      dsimp only at hrefused h
      cases hbody : CreateBody.decode request.body.bytes with
      | ok body =>
        rw [hbody] at hrefused
        cases hrefused
      | error mishap =>
        rw [hbody] at hrefused h
        cases hrefused
        obtain ⟨_, t₁, t₂, rfl, h₁, rfl, rfl⟩ := Program.plays_bind.1 h
        rw [Program.plays_log.1 h₁]
        exact ⟨rfl, rfl⟩
  | list ns =>
    simp only [Demand.ofOperation] at hrefused
    simp only [serveOperation] at h
    cases hquery : ListQuery.read request.target.query with
    | ok query =>
      rw [hquery] at hrefused
      cases hrefused
    | error reason =>
      rw [hquery] at hrefused h
      cases hrefused
      obtain ⟨response, rfl, h₁⟩ := Program.plays_map.1 h
      obtain ⟨rfl, rfl⟩ := plays_failed h₁
      exact ⟨rfl, rfl⟩
  | count ns | get ns name | delete ns name => cases hrefused

theorem plays_serve_of_error {timeoutMs : Nat}
    (hrefused : Demand.ofRequest request = .error response)
    (h : (serve config timeoutMs request).Plays lookup t r) : t = [] ∧ r = response := by
  unfold Demand.ofRequest at hrefused
  unfold serve at h
  cases hoperation : Operation.select? request.method request.target.path with
  | none =>
    rw [hoperation] at hrefused h
    cases hrefused
    exact h
  | some operation =>
    rw [hoperation] at hrefused h
    dsimp only at hrefused h
    cases huser : request.userId? with
    | none =>
      rw [huser] at hrefused h
      cases hrefused
      exact h
    | some user =>
      rw [huser] at hrefused h
      obtain ⟨arrival, h⟩ := h
      exact plays_serveOperation_of_error hrefused h

/-- A request is answered at once, or an operation is carried out for it. -/
theorem plays_serve {timeoutMs : Nat} (h : (serve config timeoutMs request).Plays lookup t r) :
    match Demand.ofRequest request with
    | .error response => t = [] ∧ r = response
    | .ok demand => ∃ deadline outcome, (demand.attempt config deadline).run.Plays lookup t outcome ∧
      r = .ok (responseOf outcome) := by
  split
  · next response hrefused => exact plays_serve_of_error hrefused h
  · next demand hdemand =>
    rw [serve_of_demand hdemand] at h
    obtain ⟨arrival, h⟩ := h
    exact ⟨arrival + timeoutMs, plays_ok_respond h⟩

end Serve

end Http

end TenantEndpoints
