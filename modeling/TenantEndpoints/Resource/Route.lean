import TenantEndpoints.Json.Record
import TenantEndpoints.Text.Split

/-!
# Routes

A route is a list of rules. Each rule is a text that says which requests it
takes, a chain of middlewares to run, and the services behind it. A rule made
here asks for a host and for a path prefix, and both can be found in its text.
-/
namespace TenantEndpoints

/-- A resource by its name and perhaps its namespace. -/
structure ObjectRef where
  name : String
  ns : Option String
  deriving DecidableEq, Repr

/-- A port of a service, by number or by name. -/
inductive Port
  | number (n : UInt16)
  | name (s : String)
  deriving DecidableEq, Repr

structure BackendService where
  name : String
  ns : Option String
  port : Port
  deriving DecidableEq, Repr

structure RouteRule where
  text : String
  middlewares : List ObjectRef
  services : List BackendService
  deriving DecidableEq, Repr

structure Tls where
  secretName : Option String
  deriving DecidableEq, Repr

structure RouteSpec where
  entryPoints : List String
  rules : List RouteRule
  tls : Option Tls
  deriving DecidableEq, Repr

namespace RouteRule

/-- The text that opens a path prefix; the slash belongs to it. -/
def prefixMark : List Char := "PathPrefix(\x60/".toList

def hostMark : List Char := "Host(\x60".toList

/-- The text that ends what either mark opens. -/
def endMark : List Char := "\x60)".toList

/-- The rule that takes the requests to a host whose path begins with a segment. -/
def hostPathText (host segment : String) : String :=
  "Host(\x60" ++ host ++ "\x60) && PathPrefix(\x60/" ++ segment ++ "\x60)"

/-- What stands between the first occurrence of a mark and the end mark after it. -/
def between? (mark : List Char) (text : String) : Option String := do
  let opened ← Text.splitAtFirst? mark text.toList
  let closed ← Text.splitAtFirst? endMark opened.2
  some (String.ofList closed.1)

/-- The path prefix that a rule asks for, without its slash. -/
def pathPrefix? (r : RouteRule) : Option String := between? prefixMark r.text

def host? (r : RouteRule) : Option String := between? hostMark r.text

end RouteRule

namespace ObjectRef

def ofDraft? (d : Json.Draft) : Option ObjectRef := do
  let fs ← d.positional? ["name", "namespace"]
  some { name := ← fs.required "name" Json.Draft.string?, ns := ← fs.optional "namespace" Json.Draft.string? }

def toJson (r : ObjectRef) : Json := Json.record
  [("name", some (.string r.name)), ("namespace", r.ns.map .string)]

end ObjectRef

namespace Port

def text : Port → String
  | .number n => toString n.toNat
  | .name s => s

def ofDraft? : Json.Draft → Option Port
  | .value (.string s) => some (.name s)
  | d => (d.unsigned? 16).map fun n => .number (UInt16.ofNat n)

def toJson : Port → Json
  | .number n => .integer n.toNat
  | .name s => .string s

end Port

namespace BackendService

def ofDraft? (d : Json.Draft) : Option BackendService := do
  let fs ← d.positional? ["name", "namespace", "port"]
  some
    { name := ← fs.required "name" Json.Draft.string?
      ns := ← fs.optional "namespace" Json.Draft.string?
      port := ← fs.required "port" Port.ofDraft? }

def toJson (b : BackendService) : Json := Json.record
  [("name", some (.string b.name)), ("namespace", b.ns.map .string),
   ("port", some b.port.toJson)]

end BackendService

namespace RouteRule

/-- The only kind of rule there is, as its name or as an object with that name for `null`. -/
def kindOfDraft? : Json.Draft → Option Unit
  | .value (.string "Rule") => some ()
  | .value (.object [("Rule", .null)]) => some ()
  | _ => none

/-- A list that is not written when it is empty. -/
def nonEmpty (f : α → Json) (xs : List α) : Option Json :=
  if xs.isEmpty then none else some (.array (xs.map f))

def ofDraft? (d : Json.Draft) : Option RouteRule := do
  let fs ← d.positional? ["match", "kind", "middlewares", "services"]
  let text ← fs.required "match" Json.Draft.string?
  fs.required "kind" kindOfDraft?
  some
    { text
      middlewares := ← fs.defaulted "middlewares" (Json.Draft.listOf? ObjectRef.ofDraft?) []
      services := ← fs.defaulted "services" (Json.Draft.listOf? BackendService.ofDraft?) [] }

def toJson (r : RouteRule) : Json := Json.record
  [("match", some (.string r.text)), ("kind", some (.string "Rule")),
   ("middlewares", nonEmpty ObjectRef.toJson r.middlewares),
   ("services", some (.array (r.services.map BackendService.toJson)))]

end RouteRule

namespace Tls

def ofDraft? (d : Json.Draft) : Option Tls := do
  let fs ← d.positional? ["secretName"]
  some { secretName := ← fs.optional "secretName" Json.Draft.string? }

def toJson (t : Tls) : Json := Json.record [("secretName", t.secretName.map .string)]

end Tls

namespace RouteSpec

def ofDraft? (d : Json.Draft) : Option RouteSpec := do
  let fs ← d.positional? ["entryPoints", "routes", "tls"]
  some
    { entryPoints := ← fs.defaulted "entryPoints" (Json.Draft.listOf? Json.Draft.string?) []
      rules := ← fs.required "routes" (Json.Draft.listOf? RouteRule.ofDraft?)
      tls := ← fs.optional "tls" Tls.ofDraft? }

def toJson (s : RouteSpec) : Json := Json.record
  [("entryPoints", RouteRule.nonEmpty .string s.entryPoints),
   ("routes", some (.array (s.rules.map RouteRule.toJson))),
   ("tls", s.tls.map Tls.toJson)]

end RouteSpec

end TenantEndpoints
