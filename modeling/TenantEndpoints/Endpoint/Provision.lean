import TenantEndpoints.Endpoint.Children
import TenantEndpoints.Endpoint.Shared

/-!
# Provisioning endpoints

An endpoint is several resources, and they cannot be created at once. The route
comes first and is all that has to be taken back: when a later step fails it is
deleted, and what it owns goes with it. Shared middlewares are never taken back. A
route exposes the ports of its service that have a name which is not excluded.
-/
namespace TenantEndpoints

structure PortFilter where
  excluded : List String

namespace PortFilter

def default : PortFilter := ⟨["ws", "p2p"]⟩

def admits (f : PortFilter) (name : String) : Bool := name ≠ "" && name ∉ f.excluded

/-- The names of a service's eligible ports, in their order. -/
def eligible (f : PortFilter) (service : Service) : List String :=
  let ports := (service.spec.spec.bind ServiceSpec.ports).getD []
  (ports.filterMap ServicePort.name).filter f.admits

end PortFilter

end TenantEndpoints

namespace TenantEndpoints.Endpoint

/-- A fixed domain; an empty one means that none was configured. -/
def fixedDomain (domain : String) : Except Failure String :=
  if domain = "" then .error (.internal .unconfiguredDomain) else .ok domain

structure Config where
  /-- The length of the random token in a public id. -/
  idLength : Nat := PublicId.defaultLength
  ports : PortFilter := .default
  entryPoints : List String
  tlsSecretName : Option String := none
  shared : SharedMiddlewares := {}

/-- An endpoint that was created, with its credentials if it asked for basic authentication. -/
structure Created where
  route : IngressRoute
  credentials : Option Credentials

/-- The steps after the creation of the route. -/
inductive Stage
  | stripPrefix
  | secret
  | basicAuth
  | activity
  | cache
  deriving DecidableEq, Repr

def Stage.text : Stage → String
  | .stripPrefix => "strip-prefix middleware"
  | .secret => "basic-auth secret"
  | .basicAuth => "basic-auth middleware"
  | .activity => "shared activity middleware"
  | .cache => "shared cache middleware"

/-- The milliseconds that taking a route back has at least. -/
def compensationTimeout : Nat := 5000

/-- A step whose failure is told together with its stage. -/
def atStage (stage : Stage) (a : Attempt α) : ExceptT (Stage × Failure) Program α :=
  a.adapt fun failure => (stage, failure)

/-- Creates a secret with new credentials and the middleware that asks for them. -/
def provisionBasicAuth (route : IngressRoute) (owner : OwnerReference) (deadline : Instant) :
    ExceptT (Stage × Failure) Program Credentials := do
  let credentials ← Credentials.generate
  let _ ← atStage .secret <|
    Attempt.call (.create (basicAuthSecret route owner credentials)) deadline
  let _ ← atStage .basicAuth <| Attempt.call (.create (basicAuth route owner)) deadline
  return credentials

/-- Creates everything that a created route needs. -/
def provision (config : Config) (useBasicAuth : Bool) (route : IngressRoute) (deadline : Instant) :
    ExceptT (Stage × Failure) Program (Option Credentials) := do
  let owner ← atStage .stripPrefix <| Attempt.ofExcept <| match ownerReference? route with
    | some owner => .ok owner
    | none => .error (.internal (.missingUid route.displayName))
  let _ ← atStage .stripPrefix <| Attempt.call (.create (stripPrefix route owner)) deadline
  let credentials ←
    if useBasicAuth then some <$> provisionBasicAuth route owner deadline else pure none
  atStage .activity <| config.shared.ensureActivity deadline
  atStage .cache <| config.shared.ensureCache deadline
  return credentials

/-- Deletes a route after a stage failed, and gives the failure to report: that
of the deletion if it fails too, because the route then stays behind. -/
def compensate (route : IngressRoute) (stage : Stage) (failure : Failure) (deadline : Instant) :
    Program Failure := do
  let told := [("stage", stage.text), ("error", failure.message)]
  logWarn "Provisioning failed; deleting IngressRoute" told
  let now ← Program.perform .now
  let call := Call.delete .ingressRoute route.metadata.namespaceOrEmpty route.displayName
  match ← Program.perform (.call call (max deadline (now + compensationTimeout))) with
  | .ok () => return failure
  | .error deleteFailure =>
    logError "Failed to delete IngressRoute; it is orphaned"
      (told ++ [("error.delete", deleteFailure.message)])
    return deleteFailure

/-- The plan of a route that exposes ports of a service under new ids. -/
def plan (config : Config) (request : EndpointRequest) (service : Service) (domain : String)
    (ports : List ExposedPort) : RoutePlan :=
  { request, service, ports
    labels := Labels.ofEndpoint service.labels request.userId request.labels
    host := host domain
    entryPoints := config.entryPoints
    tlsSecretName := config.tlsSecretName
    shared := config.shared.refs }

/-- Creates an endpoint in front of a service: all of its resources, or none. -/
def create (config : Config) (request : EndpointRequest) (service : Service)
    (deadline : Instant) : Attempt Created := do
  Attempt.ofExcept (request.validate.mapError .invalid)
  let names := config.ports.eligible service
  if names.isEmpty then throw (.invalid (.noEligiblePorts service.displayName))
  let domain ← Attempt.baseUrl
  let ids ← PublicId.allocate config.idLength names.length request.userId
  let ports := List.zipWith ExposedPort.mk ids names
  let submitted := (plan config request service domain ports).route
  let route ← Attempt.call (.create submitted) deadline
  logInfo "Created IngressRoute" [("ports", toString ports.length)]
  match ← (provision config request.useBasicAuth route deadline).run with
  | .ok credentials => return { route, credentials }
  | .error (stage, failure) => throw (← compensate route stage failure deadline)

def list (ns : String) (selector : Selector) (deadline : Instant) : Attempt (List IngressRoute) :=
  Attempt.call (.list .ingressRoute ns selector) deadline

def get (ns name : String) (deadline : Instant) : Attempt IngressRoute :=
  Attempt.call (.get .ingressRoute ns name) deadline

/-- Deletes an endpoint's route; what it owns goes with it. -/
def delete (ns name : String) (deadline : Instant) : Attempt Unit := do
  Attempt.call (.delete .ingressRoute ns name) deadline
  logInfo "Deleted IngressRoute" []

/-- The number of endpoints that a listing would give. -/
def count (ns : String) (selector : Selector) (deadline : Instant) : Attempt Nat := do
  return (← list ns selector deadline).length

/-- The credentials of an endpoint; without a secret it has none. -/
def credentials (ns name : String) (deadline : Instant) : Attempt (Option Credentials) := do
  match ← Attempt.outcome (.get .secret ns (secretName name)) deadline with
  | .ok secret => some <$> Attempt.ofExcept ((Credentials.ofSecret secret).mapError .internal)
  | .error failure => if failure.isNotFound then return none else throw failure

end TenantEndpoints.Endpoint
