import TenantEndpoints.Endpoint.Names

/-!
# The resources of an endpoint

The route is the root of an endpoint. Everything else that belongs to it alone
refers to the route as its owner, so that it goes when the route is deleted. What is
shown of an endpoint is read back from its route.
-/
namespace TenantEndpoints.Endpoint

/-- A port of a service that is served under a public id. -/
structure ExposedPort where
  publicId : String
  portName : String
  deriving DecidableEq, Repr

/-- What a route is made from. -/
structure RoutePlan where
  request : EndpointRequest
  service : Service
  ports : List ExposedPort
  labels : Labels
  host : String
  entryPoints : List String
  tlsSecretName : Option String
  shared : List ObjectRef

namespace RoutePlan

/-- The middlewares that every rule runs: the shared ones, then the endpoint's own. -/
def chain (p : RoutePlan) : List ObjectRef :=
  p.shared ++ [⟨stripPrefixName p.request.name, some p.request.ns⟩] ++
    if p.request.useBasicAuth then [⟨basicAuthName p.request.name, some p.request.ns⟩] else []

def rule (p : RoutePlan) (port : ExposedPort) : RouteRule :=
  { text := RouteRule.hostPathText p.host port.publicId
    middlewares := p.chain
    services := [⟨p.service.displayName, some p.request.ns, .name port.portName⟩] }

/-- The route, which is owned by whatever owns the service. -/
def route (p : RoutePlan) : IngressRoute :=
  { metadata :=
      { name := some p.request.name
        ns := some p.request.ns
        labels := some p.labels
        ownerReferences := p.service.metadata.ownerReferences }
    spec :=
      { entryPoints := p.entryPoints
        rules := p.ports.map p.rule
        tls := p.tlsSecretName.map fun name => ⟨some name⟩ } }

end RoutePlan

/-- The exposed ports of a route, from its rules that have a path prefix and a service. -/
def exposedPorts (route : IngressRoute) : List ExposedPort :=
  route.spec.rules.filterMap fun r => do
    let publicId ← r.pathPrefix?
    let service ← r.services.head?
    some ⟨publicId, service.port.text⟩

/-- A reference to a route that has been created. -/
def ownerReference? (route : IngressRoute) : Option OwnerReference := do
  let name ← route.metadata.name
  let uid ← route.metadata.uid
  some
    { apiVersion := Kind.ingressRoute.apiVersion
      kind := Kind.ingressRoute.name
      name, uid
      blockOwnerDeletion := none
      controller := some true }

def ownedMetadata (route : IngressRoute) (name : String) (owner : OwnerReference) : Metadata :=
  { name := some name
    ns := route.metadata.ns
    labels := route.metadata.labels
    ownerReferences := some [owner] }

/-- Strips the public ids, so that the backend sees its own paths. -/
def stripPrefix (route : IngressRoute) (owner : OwnerReference) : Middleware :=
  { metadata := ownedMetadata route (stripPrefixName route.displayName) owner
    spec := .stripPrefix ((route.spec.rules.filterMap RouteRule.pathPrefix?).map ("/" ++ ·)) }

def basicAuthSecretType : String := "kubernetes.io/basic-auth"

def basicAuthSecret (route : IngressRoute) (owner : OwnerReference) (c : Credentials) : Secret :=
  { metadata := ownedMetadata route (secretName route.displayName) owner
    spec :=
      { type := some basicAuthSecretType
        immutable := some true
        stringData := some (SortedMap.ofList
          [("username", c.username), ("password", c.password)]) } }

def basicAuth (route : IngressRoute) (owner : OwnerReference) : Middleware :=
  { metadata := ownedMetadata route (basicAuthName route.displayName) owner
    spec := .basicAuth (secretName route.displayName) }

structure PortView where
  name : String
  address : String
  deriving DecidableEq, Repr

structure View where
  name : String
  protocol : Option String
  network : Option String
  kind : Option String
  createdAt : Option Timestamp
  ports : List PortView
  basicAuth : Option Credentials
  deriving DecidableEq

namespace View

/-- The address of a public id on a host. -/
def address (host publicId : String) : String := "https://" ++ host ++ "/" ++ publicId

/-- The view of a route; the host of its first rule counts for all of them. -/
def ofRoute (route : IngressRoute) (basicAuth : Option Credentials) : View :=
  let host := (route.spec.rules.head?.bind RouteRule.host?).getD ""
  { name := route.displayName
    protocol := route.labels.find? Labels.protocol
    network := route.labels.find? Labels.network
    kind := route.labels.find? Labels.kind
    createdAt := route.metadata.creationTimestamp
    ports := (exposedPorts route).map fun p => ⟨p.portName, address host p.publicId⟩
    basicAuth }

def toJson (v : View) : Json := Json.record
  [("name", some (.string v.name)),
   ("protocol", v.protocol.map .string),
   ("network", v.network.map .string),
   ("kind", v.kind.map .string),
   ("createdAt", v.createdAt.map fun t => .string t.text),
   ("routes", some (.array (v.ports.map fun p =>
     .object [("name", .string p.name), ("route", .string p.address)]))),
   ("basicAuth", v.basicAuth.map Credentials.toJson)]

end View

end TenantEndpoints.Endpoint
