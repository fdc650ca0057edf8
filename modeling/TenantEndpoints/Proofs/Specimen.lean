import TenantEndpoints.Http.Api
import TenantEndpoints.Proofs.Cluster.Serving

/-!
# A specimen

A cluster with the service of one node, and tenants who ask for endpoints in front
of it. Here the hypotheses of the results are met, and what is said without them
fails.
-/
namespace TenantEndpoints.Specimen

/-- One entry point, and the settings that need not be given. -/
def config : Endpoint.Config := { entryPoints := ["websecure"] }

/-- The domain is known, and random characters come from a source. -/
def surroundings (random : RandomSource) : Surroundings := ⟨random, .ok "example.com"⟩

/-- All random characters are the same. -/
def plain : Surroundings := surroundings fun _ => 'a'

/-- The service of the node, with ports that may have names. -/
def service (ports : List (Option String)) : Service :=
  ⟨{ name := some "node", ns := some "default" },
    { spec := some { ports := some (ports.map fun name => { name }) } }⟩

theorem eligible_service (f : PortFilter) (ports : List (Option String)) :
    f.eligible (service ports) = (ports.filterMap id).filter f.admits := by
  simp only [PortFilter.eligible, service, Option.bind_some, Option.getD_some, List.filterMap_map]
  rfl

/-- The node has one port. -/
def node : Service := service [some "rpc"]

/-- A cluster with nothing but the node. -/
def cluster : Cluster := { services := (∅ : Store .service).insert node.key node }

def world : World := { cluster }

/-- What a tenant asks for, with credentials or without. -/
def endpoint (name user : String) (useBasicAuth : Bool) : EndpointRequest :=
  { name, ns := "default", userId := user, useBasicAuth }

/-- A tenant's request on the endpoints of the namespace. -/
def request (method path user body : String) : Http.Request :=
  { method, target := ⟨"/namespaces/default/endpoints" ++ path, none⟩
    headers := [(Http.userIdHeader, Text.Utf8.encode user)], body := ⟨Text.Utf8.encode body, none⟩ }

/-- The body of a request for an endpoint without credentials. -/
def body (name : String) : String :=
  "\x7b\"name\": \"" ++ name ++ "\", \"serviceName\": \"node\"\x7d"

/-- The body of a request for an endpoint with credentials. -/
def guardedBody (name : String) : String :=
  "\x7b\"name\": \"" ++ name ++ "\", \"serviceName\": \"node\", \"useBasicAuth\": true\x7d"

/-- A route without rules, with the labels of a tenant's endpoint. -/
def route (name user : String) : IngressRoute :=
  ⟨{ name := some name, ns := some "default"
     labels := some (SortedMap.ofList
      [(Labels.createdBy, Labels.createdByValue), (Labels.userId, user)]) }, ⟨[], [], none⟩⟩

theorem isOwnedBy_route (name user user' : String) :
    Http.isOwnedBy (route name user) user' = decide (user = user') := by
  have hlabels : (route name user).labels =
      (SortedMap.empty.insert Labels.createdBy Labels.createdByValue).insert
        Labels.userId user := rfl
  rw [Http.isOwnedBy, hlabels, SortedMap.find?_insert_self]
  simp

/-- A secret that nobody owns, in the place of that of an endpoint. -/
def stray : Secret :=
  ⟨{ name := some "one-secret", ns := some "default" },
    { stringData := some (SortedMap.ofList [("username", "root"), ("password", "hunter2")]) }⟩

/-- Fails all calls of one kind. -/
def failing (verb : Verb) (kind : Kind) (failure : Failure) : Cluster.Rule :=
  ⟨verb, kind, none, 0, none, 0, .fail failure⟩

end TenantEndpoints.Specimen
