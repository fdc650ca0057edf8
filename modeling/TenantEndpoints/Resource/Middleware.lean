import TenantEndpoints.Json.Record

/-!
# Middlewares

A middleware is one step in the processing of a request: it strips path
prefixes, asks for basic authentication, or runs plugins. The text of one is an
object whose first field with the name of a kind decides which it is.
-/
namespace TenantEndpoints

/-- A JSON value in its canonical form. -/
structure Payload where
  value : Json
  canonical_eq : value.canonical = value := by rfl

def Payload.ofJson (v : Json) : Payload := ⟨v.canonical, v.canonical_canonical⟩

inductive MiddlewareSpec
  | stripPrefix (prefixes : List String)
  | basicAuth (secret : String)
  /-- Configurations by the names of the plugins they are for. -/
  | plugin (configs : SortedMap String Payload)

namespace MiddlewareSpec

def ofKind? (kind : String) (d : Json.Draft) : Option MiddlewareSpec :=
  if kind = "stripPrefix" then do
    let fs ← d.positional? ["prefixes"]
    some (.stripPrefix (← fs.required "prefixes" (Json.Draft.listOf? Json.Draft.string?)))
  else if kind = "basicAuth" then do
    let fs ← d.positional? ["secret"]
    some (.basicAuth (← fs.required "secret" Json.Draft.string?))
  else if kind = "plugin" then
    (d.mapOf? fun c => c.value?.map Payload.ofJson).map .plugin
  else none

def kindNames : List String := ["stripPrefix", "basicAuth", "plugin"]

/-- Reads a middleware, all of which has to stand for a value. -/
def ofDraft? : Json.Draft → Option MiddlewareSpec
  | .value (.object members) => do
    let m ← members.find? (·.1 ∈ kindNames)
    ofKind? m.1 (.value m.2)
  | _ => none

def toJson : MiddlewareSpec → Json
  | .stripPrefix prefixes =>
    .object [("stripPrefix", .object [("prefixes", Json.ofStrings prefixes)])]
  | .basicAuth secret => .object [("basicAuth", .object [("secret", .string secret)])]
  | .plugin configs => .object [("plugin", Json.ofMap Payload.value configs)]

end MiddlewareSpec

end TenantEndpoints
