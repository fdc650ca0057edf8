import TenantEndpoints.ApiServer.Trouble
import TenantEndpoints.Http.Target
import TenantEndpoints.Json.Basic
import TenantEndpoints.Program.Basic
import TenantEndpoints.Text.FormEncoded

/-!
# Actions of the API server

Each call on the resources of a cluster, and the replacement of a resource, as
the request that is sent to the API server and as the reading of its answer.
Names are put into a path as they are.
-/
namespace TenantEndpoints.ApiServer

/-- A call, or the replacement of a resource. -/
inductive Action
  | call (c : Call)
  | update {k : Kind} (r : Resource k)

structure Request where
  method : String
  target : Http.Target
  contentType : Option String
  body : Option Json

structure Response where
  status : Nat
  body : String
  deriving DecidableEq, Repr

namespace Action

abbrev Answer : Action → Type
  | .call c => c.Answer
  | .update (k := k) _ => Resource k

def kind : Action → Kind
  | .call c => c.kind
  | .update (k := k) _ => k

def ns : Action → String
  | .call c => c.ns
  | .update r => r.metadata.namespaceOrEmpty

def name : Action → String
  | .call c => c.name
  | .update r => r.displayName

/-- Who is said to have written a resource. -/
def fieldManager : String := "kotal-api"

/-- The path of the resources of a kind in a namespace. -/
def basePath (k : Kind) (ns : String) : String :=
  (if k.group = "" then "/api/" else "/apis/") ++ k.apiVersion ++ "/namespaces/" ++ ns ++ "/" ++
    k.plural

/-- The path of the one resource that an action is about. -/
def itemPath (a : Action) : String := basePath a.kind a.ns ++ "/" ++ a.name

def jsonType : String := "application/json"

/-- What is sent: the method, the path with the query, and the body. -/
def parts : Action → String × String × Option Json
  | .call (.create (k := k) r) =>
    ("POST", basePath k r.metadata.namespaceOrEmpty ++ "?&fieldManager=" ++ fieldManager,
      some r.toJson)
  | a@(.update r) => ("PUT", a.itemPath ++ "?&fieldManager=" ++ fieldManager, some r.toJson)
  | a@(.call (.get _ _ _)) => ("GET", a.itemPath, none)
  | .call (.list k ns selector) =>
    let query := if selector.isEmpty then ""
      else "&labelSelector=" ++ Text.FormEncoded.encode selector.text
    ("GET", basePath k ns ++ "?" ++ query, none)
  | a@(.call (.delete _ _ _)) =>
    ("DELETE", a.itemPath ++ "?", some (.object [("propagationPolicy", .string "Background")]))

/-- Whether an action has to have a name. -/
def needsName : Action → Bool
  | .call (.create _) | .call (.list _ _ _) => false
  | _ => true

/-- Whether an action submits a resource that has no namespace. -/
def lacksNamespace : Action → Bool
  | .call (.create r) => r.metadata.ns.isNone
  | .update r => r.metadata.ns.isNone
  | _ => false

def fail (a : Action) (t : Trouble) : Failure := t.failure a.kind a.ns a.name

/-- The request of an action, unless it cannot be sent. -/
def request (a : Action) : Except Failure Request := do
  if a.lacksNamespace then throw (.invalid (.missingNamespace a.kind a.name))
  if a.needsName && a.name = "" then throw (a.fail .emptyName)
  let (method, path, body) := a.parts
  match Http.Target.ofPath path with
  | .ok target => return { method, target, body, contentType := body.map fun _ => jsonType }
  | .error fault => throw (a.fail (.invalidUri fault))

/-- Reads a list of resources. Beside the items and the metadata of the list, only
what stands for a value is ignored. -/
def itemsOfDraft? (k : Kind) (d : Json.Draft) : Option (List (Resource k)) := do
  let names := ["metadata", "items"]
  let fs ← d.distinct? names
  if !(← d.members?).all fun m => m.1 ∈ names || m.2.value?.isSome then none
  let _ ← fs.defaulted "metadata" (fun d => do
    let ms : Json.Fields ← d.members?
    let _ ← ms.last "continue" Json.Draft.string?
    let _ ← ms.last "remainingItemCount" (Json.Draft.signed? 64)
    let _ ← ms.last "resourceVersion" Json.Draft.string?
    let _ ← ms.last "selfLink" Json.Draft.string?
    some ()) ()
  match ← fs.lookup "items" with
  | .value .null => some []
  | items => items.listOf? (Resource.ofDraft? k)

/-- One of the words for how an operation ended, alone or as an object with it for `null`. -/
def endingOfDraft? : Json.Draft → Option Unit
  | .value (.string "Success") | .value (.string "Failure") => some ()
  | .value (.object [("Success", .null)]) | .value (.object [("Failure", .null)]) => some ()
  | _ => none

def causeOfDraft? (d : Json.Draft) : Option Unit := do
  let names := ["reason", "message", "field"]
  let fs ← d.positional? names
  names.forM fun name => do let _ ← fs.defaulted name Json.Draft.string? ""

def detailsOfDraft? (d : Json.Draft) : Option Unit := do
  let texts := ["name", "group", "kind", "uid"]
  let fs ← d.positional? (texts ++ ["causes", "retryAfterSeconds"])
  texts.forM fun name => do let _ ← fs.defaulted name Json.Draft.string? ""
  let _ ← fs.defaulted "causes" (Json.Draft.listOf? causeOfDraft?) []
  let _ ← fs.defaulted "retryAfterSeconds" (Json.Draft.unsigned? 32) 0

/-- Whether this is the status that a deletion may answer with. -/
def statusOfDraft? (d : Json.Draft) : Option Unit := do
  let fs ← d.positional? ["status", "code", "message", "reason", "details"]
  let _ ← fs.optional "status" endingOfDraft?
  let _ ← fs.defaulted "code" (Json.Draft.unsigned? 16) 0
  let _ ← fs.defaulted "message" Json.Draft.string? ""
  let _ ← fs.defaulted "reason" Json.Draft.string? ""
  let _ ← fs.optional "details" detailsOfDraft?

/-- Reads the body of a successful answer. All of an answer to a deletion has to
stand for a value. -/
def answerOfDraft? (d : Json.Draft) : (a : Action) → Option a.Answer
  | .call (.create (k := k) _) => Resource.ofDraft? k d
  | .update (k := k) _ => Resource.ofDraft? k d
  | .call (.get k _ _) => Resource.ofDraft? k d
  | .call (.list k _ _) => itemsOfDraft? k d
  | .call (.delete k _ _) => do
    let v ← d.value?
    if (v.get? "kind").bind Json.string? = some "Status" then statusOfDraft? d
    else (Resource.ofDraft? k d).map fun _ => ()

/-- What an action comes to when the server has answered, or could not be reached. -/
def conclude (a : Action) : Except String Response → Except Failure a.Answer
  | .error cause => .error (a.fail (.transport cause))
  | .ok response =>
    if 400 ≤ response.status ∧ response.status < 600 then
      .error (a.fail (.refused (.ofResponse response.status response.body)))
    else match (Json.Draft.parseText? response.body).bind (answerOfDraft? · a) with
      | some answer => .ok answer
      | none => .error (a.fail .undecodable)

end Action

/-- An action that has come to an end, with what was sent and the time it took. -/
structure Exchange (α : Type) where
  outcome : Except Failure α
  requests : List Request
  elapsed : Nat

/-- How the server deals with a request: what comes back, and after how long, if ever. -/
structure Script where
  delay : Option Nat
  reply : Except String Response

/-- Carries out an action against a script, within a time limit. Nothing is sent
when there is no time at all. -/
def exchange (a : Action) (timeoutMs : Nat) (script : Script) : Exchange a.Answer :=
  match a.request with
  | .error failure => ⟨.error failure, [], 0⟩
  | .ok request =>
    let sent := if timeoutMs = 0 then [] else [request]
    match script.delay.filter fun delay => 0 < timeoutMs && delay ≤ timeoutMs with
    | some delay => ⟨a.conclude script.reply, sent, delay⟩
    | none => ⟨.error (.internal (.timedOut a.kind a.ns a.name)), sent, timeoutMs⟩

end TenantEndpoints.ApiServer
