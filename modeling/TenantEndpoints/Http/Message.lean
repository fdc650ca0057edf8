import TenantEndpoints.Http.Target
import TenantEndpoints.Json.Basic
import TenantEndpoints.Text.Utf8

/-!
# Requests and responses

A request as it arrives, and a response with a JSON body or none. The tenant on
whose behalf a request is made stands in a header, set by the proxy in front. The
path and the method of a request select one operation on the endpoints of a
namespace. Slashes at either end of a path do not count; nothing in a path is
decoded.
-/
namespace TenantEndpoints.Http

/-- The bytes of a request body; reading them may end in a failure. -/
structure Body where
  bytes : Bytes
  failure : Option String := none

structure Request where
  method : String
  target : Target
  headers : List (String × Bytes)
  body : Body

structure Response where
  status : Nat
  /-- The number of all items that a listing could show. -/
  totalCount : Option Nat := none
  body : Option Json := none

/-- The body of a request could not be read. -/
structure ReadFault where
  cause : String
  deriving DecidableEq, Repr

def ReadFault.message (f : ReadFault) : String := "failed to read request body: " ++ f.cause

def userIdHeader : String := "x-user-id"

def totalCountHeader : String := "x-total-count"

/-- Letters, digits and a few marks, as in methods and header names. -/
def isToken (s : String) : Bool :=
  s ≠ "" && s.toList.all fun c =>
    ('a' ≤ c && c ≤ 'z') || ('A' ≤ c && c ≤ 'Z') || ('0' ≤ c && c ≤ '9') ||
      c ∈ "!#$%&'*+-.^_\x60|~".toList

/-- Bytes that a header value may hold. -/
def isHeaderByte (b : UInt8) : Bool := b = 0x09 || (0x20 ≤ b.toNat && b ≠ 0x7f)

/-- Bytes of a header value that is text. -/
def isTextByte (b : UInt8) : Bool := b = 0x09 || (0x20 ≤ b.toNat && b.toNat ≤ 0x7e)

namespace Request

/-- Puts a request together, unless there is no such request. -/
def make? (method uri : String) (headers : List (String × Bytes)) (body : Body) :
    Option Request := do
  let target ← Target.read? uri
  if isToken method && headers.all (fun h => isToken h.1 && h.2.all isHeaderByte) then
    some { method, target, headers, body }
  else none

/-- The first value of a header. -/
def header? (r : Request) (name : String) : Option Bytes :=
  (r.headers.find? fun h => h.1.map Char.toLower = name).map (·.2)

/-- The tenant of a request, if its header is there, is text, and is not empty. -/
def userId? (r : Request) : Option String := do
  let bytes ← r.header? userIdHeader
  if bytes ≠ [] ∧ bytes.all isTextByte then
    some (String.ofList (bytes.map fun b => Char.ofNat b.toNat))
  else none

end Request

namespace Response

def headers (r : Response) : List (String × String) :=
  (if r.body.isSome then [("content-type", "application/json")] else []) ++
    (r.totalCount.map fun n => (totalCountHeader, toString n)).toList

/-- The written body. -/
def text (r : Response) : String := (r.body.map Json.text).getD ""

/-- A response that tells what went wrong. -/
def ofError (status : Nat) (message : String) : Response :=
  { status, body := some (.object [("error", .string message)]) }

end Response

inductive Operation
  | create (ns : String)
  | list (ns : String)
  | count (ns : String)
  | get (ns name : String)
  | delete (ns name : String)
  deriving DecidableEq, Repr

namespace Operation

def ns : Operation → String
  | .create ns | .list ns | .count ns | .get ns _ | .delete ns _ => ns

def segments (path : String) : List String :=
  (Text.pieces '/' (Text.trim '/' path.toList)).map String.ofList

/-- The operation on what follows the namespace in a path. -/
def within? (method ns : String) : List String → Option Operation
  | [] =>
    if method = "POST" then some (.create ns)
    else if method = "GET" then some (.list ns)
    else none
  | [name] =>
    if name = "count" ∧ method = "GET" then some (.count ns)
    else if name = "" then none
    else if method = "GET" then some (.get ns name)
    else if method = "DELETE" then some (.delete ns name)
    else none
  | _ => none

def select? (method path : String) : Option Operation :=
  match segments path with
  | "namespaces" :: ns :: "endpoints" :: rest => if ns = "" then none else within? method ns rest
  | _ => none

end Operation

end TenantEndpoints.Http
