import TenantEndpoints.Endpoint.Provision
import TenantEndpoints.Http.CreateBody
import TenantEndpoints.Http.ListQuery
import TenantEndpoints.Http.Message

/-!
# The HTTP API

Endpoint operations over HTTP, each on behalf of the tenant that the request
names. The endpoints of other tenants are as good as absent: they are neither
listed nor shown nor deleted.
-/
namespace TenantEndpoints.Http

def statusOf : FailureClass → Nat
  | .notFound => 404
  | .conflict => 409
  | .validation => 400
  | .internal => 500

/-- The response to a request that failed. -/
def failed (failure : Failure) : Program Response := do
  if failure.class = .internal then logWarn "Request failed" [("error", failure.message)]
  return .ofError (statusOf failure.class) failure.message

/-- The response of an attempt, whether it fails or not. -/
def respond (a : Attempt Response) : Program Response := do
  match ← a.run with
  | .ok response => return response
  | .error failure => failed failure

/-- Whether a route belongs to a tenant. -/
def isOwnedBy (route : IngressRoute) (user : String) : Bool :=
  route.labels.find? Labels.userId = some user

/-- A route of a tenant; those of others are hidden. -/
def ownedRoute (ns name user : String) (deadline : Instant) : Attempt IngressRoute := do
  let route ← Endpoint.get ns name deadline
  if isOwnedBy route user then return route
  else throw (.notFound Kind.ingressRoute.name name)

def create (config : Endpoint.Config) (ns user : String) (body : CreateBody) (deadline : Instant) :
    Attempt Response := do
  let request : EndpointRequest :=
    { name := body.name, ns, userId := user, useBasicAuth := body.useBasicAuth }
  Attempt.ofExcept (request.validate.mapError .invalid)
  let service ← Attempt.call (.get .service ns body.serviceName) deadline
  let created ← Endpoint.create config request service deadline
  let view := Endpoint.View.ofRoute created.route created.credentials
  return { status := 201, body := some view.toJson }

def list (ns user : String) (query : ListQuery) (deadline : Instant) : Attempt Response := do
  let filter : ListFilter :=
    { protocol := query.protocol, network := query.network, userId := some user }
  let routes ← Endpoint.list ns filter.selector deadline
  let views := (query.paginate routes).map fun route => Endpoint.View.ofRoute route none
  let body := Json.array (views.map Endpoint.View.toJson)
  return { status := 200, totalCount := some routes.length, body := some body }

def count (ns user : String) (deadline : Instant) : Attempt Response := do
  let filter : ListFilter := { userId := some user }
  let n ← Endpoint.count ns filter.selector deadline
  return { status := 200, totalCount := some n, body := some (.object [("count", .integer n)]) }

def get (ns name user : String) (deadline : Instant) : Attempt Response := do
  let route ← ownedRoute ns name user deadline
  let credentials ← Endpoint.credentials ns name deadline
  let view := Endpoint.View.ofRoute route credentials
  return { status := 200, body := some view.toJson }

def delete (ns name user : String) (deadline : Instant) : Attempt Response := do
  let _ ← ownedRoute ns name user deadline
  Endpoint.delete ns name deadline
  return { status := 204 }

/-- Reads the body of a create request and carries it out. -/
def serveCreate (config : Endpoint.Config) (ns user : String) (body : Body) (deadline : Instant) :
    Program (Except ReadFault Response) :=
  match body.failure with
  | some cause => return .error ⟨cause⟩
  | none => match CreateBody.decode body.bytes with
    | .ok decoded => .ok <$> respond (create config ns user decoded deadline)
    | .error mishap => do
      let text := mishap.describe body.bytes
      logWarn "Failed to parse request body" [("error", text)]
      return .ok (.ofError 400 text)

/-- Carries out a selected operation for a tenant. -/
def serveOperation (config : Endpoint.Config) (request : Request) (user : String)
    (deadline : Instant) : Operation → Program (Except ReadFault Response)
  | .create ns => serveCreate config ns user request.body deadline
  | .list ns => .ok <$> match ListQuery.read request.target.query with
    | .ok query => respond (list ns user query deadline)
    | .error reason => failed (.invalid reason)
  | .count ns => .ok <$> respond (count ns user deadline)
  | .get ns name => .ok <$> respond (get ns name user deadline)
  | .delete ns name => .ok <$> respond (delete ns name user deadline)

/-- Serves a request, with a deadline that is `timeoutMs` after its arrival. -/
def serve (config : Endpoint.Config) (timeoutMs : Nat) (request : Request) :
    Program (Except ReadFault Response) :=
  match Operation.select? request.method request.target.path with
  | none => return .ok (.ofError 404 "not found")
  | some operation => match request.userId? with
    | none => return .ok (.ofError 401 "missing user id")
    | some user => do
      let arrival ← Program.perform .now
      serveOperation config request user (arrival + timeoutMs) operation

end TenantEndpoints.Http
