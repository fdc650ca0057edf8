import TenantEndpoints.Program.Basic

/-!
# Names and tokens of endpoints

A request names the endpoint, its namespace and its tenant, and everything that
belongs to the endpoint is named after it. `validate` accepts the names from which
every derived name is a valid resource name. All endpoints share one host, so the
path segment of a port has to differ from those of all other tenants: it is a random
token followed by the tenant's id. The credentials of an endpoint with basic
authentication are random, too.
-/
namespace TenantEndpoints

structure EndpointRequest where
  name : String := ""
  ns : String := ""
  userId : String := ""
  labels : Labels := ∅
  useBasicAuth : Bool := false

namespace EndpointRequest

def isNameChar (c : Char) : Bool :=
  ('a' ≤ c && c ≤ 'z') || ('0' ≤ c && c ≤ '9') || c = '-'

/-- Lower-case letters, digits and hyphens, with no hyphen at either end. -/
def isWellFormed (name : List Char) : Bool :=
  name.all isNameChar && name.head? ≠ some '-' && name.getLast? ≠ some '-'

/-- Refuses a request for the first thing wrong with it. The length of a name is in bytes. -/
def validate (r : EndpointRequest) : Except Rejection Unit := do
  if r.name = "" then throw .emptyName
  if maxNameLength < r.name.utf8ByteSize then throw .longName
  if !isWellFormed r.name.toList then throw (.malformedName r.name)
  if r.ns = "" then throw .emptyNamespace
  if r.userId = "" then throw .emptyUserId

end EndpointRequest

end TenantEndpoints

namespace TenantEndpoints.Endpoint

def stripPrefixName (endpoint : String) : String := "strip-prefix-" ++ endpoint

def basicAuthName (endpoint : String) : String := "basic-auth-" ++ endpoint

def secretName (endpoint : String) : String := endpoint ++ "-secret"

/-- The host under which all endpoints of a domain are served. -/
def host (domain : String) : String := "endpoints." ++ domain

end TenantEndpoints.Endpoint

namespace TenantEndpoints.PublicId

def defaultLength : Nat := 16

/-- Random letters and digits. -/
def drawText (length : Nat) : Program String := do
  return String.ofList (← Program.perform (.draw length))

/-- The part of an id that tells the tenant. -/
def tenantPart (tenant : String) : List Char := tenant.toList.filter (· ≠ '-')

/-- The id of a token and a tenant. -/
def ofToken (token : List Char) (tenant : String) : String :=
  String.ofList (token.map Char.toLower ++ tenantPart tenant)

/-- Ids for a tenant, each with a token of its own. -/
def allocate (length : Nat) : Nat → String → Program (List String)
  | 0, _ => return []
  | count + 1, tenant => do
    let token ← Program.perform (.draw length)
    return ofToken token tenant :: (← allocate length count tenant)

end TenantEndpoints.PublicId

namespace TenantEndpoints

structure Credentials where
  username : String
  password : String
  deriving DecidableEq, Repr

namespace Credentials

def length : Nat := 8

def generate : Program Credentials := do
  let username ← PublicId.drawText length
  let password ← PublicId.drawText length
  return { username, password }

/-- The text under a key of a secret: its bytes if it has them, else the text submitted. -/
def field (secret : Secret) (key : String) : Except Breakdown String :=
  match (secret.spec.data.getD ∅).find? key with
  | some bytes => (Text.Utf8.decode bytes).mapError (.unreadableKey key)
  | none => match (secret.spec.stringData.getD ∅).find? key with
    | some text => .ok text
    | none => .error (.missingKey secret.displayName key)

def ofSecret (secret : Secret) : Except Breakdown Credentials := do
  let username ← field secret "username"
  let password ← field secret "password"
  return { username, password }

def toJson (c : Credentials) : Json :=
  .object [("username", .string c.username), ("password", .string c.password)]

end Credentials

end TenantEndpoints
