import TenantEndpoints.Resource.Metadata
import TenantEndpoints.Resource.Middleware
import TenantEndpoints.Resource.Route
import TenantEndpoints.Resource.Secret
import TenantEndpoints.Resource.Service

/-!
# Resources

The four kinds of resources of a cluster that endpoints are made of. A resource
of a kind is its metadata together with what is specific to that kind.
-/
namespace TenantEndpoints

inductive Kind
  | ingressRoute
  | middleware
  | secret
  | service
  deriving DecidableEq, Repr

namespace Kind

def all : List Kind := [.ingressRoute, .middleware, .secret, .service]

def name : Kind → String
  | .ingressRoute => "IngressRoute"
  | .middleware => "Middleware"
  | .secret => "Secret"
  | .service => "Service"

def ofName? (s : String) : Option Kind := all.find? (·.name = s)

theorem ofName?_name (k : Kind) : ofName? k.name = some k := by cases k <;> rfl

/-- The API group; the core group has no name. -/
def group : Kind → String
  | .ingressRoute | .middleware => "traefik.containo.us"
  | .secret | .service => ""

def version : Kind → String
  | .ingressRoute | .middleware => "v1alpha1"
  | .secret | .service => "v1"

def apiVersion (k : Kind) : String :=
  if k.group = "" then k.version else k.group ++ "/" ++ k.version

def plural : Kind → String
  | .ingressRoute => "ingressroutes"
  | .middleware => "middlewares"
  | .secret => "secrets"
  | .service => "services"

/-- What a resource of a kind has beside its metadata. -/
abbrev Spec : Kind → Type
  | .ingressRoute => RouteSpec
  | .middleware => MiddlewareSpec
  | .secret => SecretSpec
  | .service => ServiceContent

end Kind

structure Resource (k : Kind) where
  metadata : Metadata
  spec : k.Spec

abbrev IngressRoute := Resource .ingressRoute
abbrev Middleware := Resource .middleware
abbrev Secret := Resource .secret
abbrev Service := Resource .service

namespace Resource

variable {k : Kind}

def displayName (r : Resource k) : String := r.metadata.displayName

def labels (r : Resource k) : Labels := r.metadata.labelMap

/-- The form in which a resource is stored. -/
def stored : {k : Kind} → Resource k → Resource k
  | .secret, r => { r with spec := SecretSpec.stored r.spec }
  | .ingressRoute, r => r
  | .middleware, r => r
  | .service, r => r

def withUid (r : Resource k) (uid : String) : Resource k :=
  { r with metadata := { r.metadata with uid := some uid } }

@[simp] theorem metadata_stored (r : Resource k) : r.stored.metadata = r.metadata := by
  cases k <;> rfl

/-- Whether the fields that say what a resource is are right where they are given. -/
def hasType (k : Kind) (fs : Json.Fields) : Bool :=
  fs.all fun m =>
    (m.1 ≠ "apiVersion" || m.2.string? = some k.apiVersion) &&
    (m.1 ≠ "kind" || m.2.string? = some k.name)

def ofDraft? (k : Kind) (d : Json.Draft) : Option (Resource k) :=
  match k with
  | .ingressRoute => do
    let fs ← d.positional? ["metadata", "spec"]
    some ⟨← fs.required "metadata" Metadata.ofDraft?, ← fs.required "spec" RouteSpec.ofDraft?⟩
  | .middleware => do
    let fs ← d.positional? ["metadata", "spec"]
    some ⟨← fs.required "metadata" Metadata.ofDraft?, ← fs.required "spec" MiddlewareSpec.ofDraft?⟩
  | .secret => do
    let fs : Json.Fields ← d.members?
    if !hasType .secret fs then none
    some ⟨(← fs.last "metadata" Metadata.ofDraft?).getD {}, ← SecretSpec.ofFields? fs⟩
  | .service => do
    let fs : Json.Fields ← d.members?
    if !hasType .service fs then none
    some ⟨(← fs.last "metadata" Metadata.ofDraft?).getD {}, ← ServiceContent.ofFields? fs⟩

def specFields : {k : Kind} → k.Spec → List (String × Option Json)
  | .ingressRoute, s => [("spec", some (RouteSpec.toJson s))]
  | .middleware, s => [("spec", some (MiddlewareSpec.toJson s))]
  | .secret, s => SecretSpec.toFields s
  | .service, s => ServiceContent.toFields s

def toJson (r : Resource k) : Json := Json.record <|
  [("apiVersion", some (.string k.apiVersion)),
   ("kind", some (.string k.name)),
   ("metadata", some r.metadata.toJson)] ++ specFields r.spec

end Resource

end TenantEndpoints
