import TenantEndpoints.Failure
import TenantEndpoints.Http.Target
import TenantEndpoints.Json.Reader

/-!
# Trouble with the API server

What can go wrong when the API server of a cluster is asked for something, and
the failure that it comes to. Only an answer with the very code for it means
that a resource is absent, or taken, or refused.
-/
namespace TenantEndpoints.ApiServer

/-- An error as the server describes it. The code in it counts, not the code of
the response that brought it. -/
structure ErrorStatus where
  status : String
  message : String
  reason : String
  code : UInt16
  deriving DecidableEq, Repr

inductive Trouble
  | refused (status : ErrorStatus)
  | transport (cause : String)
  | emptyName
  | invalidUri (fault : Http.Target.Fault)
  | undecodable
  deriving DecidableEq, Repr

namespace ErrorStatus

/-- All of an error in one line. -/
def detail (e : ErrorStatus) : String :=
  "ErrorResponse \x7b status: " ++ Text.quote e.status ++ ", message: " ++ Text.quote e.message ++
    ", reason: " ++ Text.quote e.reason ++ ", code: " ++ toString e.code.toNat ++ " \x7d"

def summary (e : ErrorStatus) : String := e.message ++ ": " ++ e.reason

def ofDraft? (d : Json.Draft) : Option ErrorStatus := do
  let fs ← d.positional? ["status", "message", "reason", "code"]
  some
    { status := ← fs.required "status" Json.Draft.string?
      message := ← fs.defaulted "message" Json.Draft.string? ""
      reason := ← fs.defaulted "reason" Json.Draft.string? ""
      code := UInt16.ofNat (← fs.required "code" (Json.Draft.unsigned? 16)) }

/-- The names of the error codes. -/
def phrases : List (Nat × String) :=
  [(400, "Bad Request"), (401, "Unauthorized"), (402, "Payment Required"), (403, "Forbidden"),
   (404, "Not Found"), (405, "Method Not Allowed"), (406, "Not Acceptable"),
   (407, "Proxy Authentication Required"), (408, "Request Timeout"), (409, "Conflict"),
   (410, "Gone"), (411, "Length Required"), (412, "Precondition Failed"),
   (413, "Payload Too Large"), (414, "URI Too Long"), (415, "Unsupported Media Type"),
   (416, "Range Not Satisfiable"), (417, "Expectation Failed"), (418, "I'm a teapot"),
   (421, "Misdirected Request"), (422, "Unprocessable Entity"), (423, "Locked"),
   (424, "Failed Dependency"), (425, "Too Early"), (426, "Upgrade Required"),
   (428, "Precondition Required"), (429, "Too Many Requests"),
   (431, "Request Header Fields Too Large"), (451, "Unavailable For Legal Reasons"),
   (500, "Internal Server Error"), (501, "Not Implemented"), (502, "Bad Gateway"),
   (503, "Service Unavailable"), (504, "Gateway Timeout"), (505, "HTTP Version Not Supported"),
   (506, "Variant Also Negotiates"), (507, "Insufficient Storage"), (508, "Loop Detected"),
   (510, "Not Extended"), (511, "Network Authentication Required")]

def statusLine (code : Nat) : String :=
  toString code ++ " " ++ (phrases.lookup code).getD "<unknown status code>"

/-- The error that a response with an error code brings, or one made up from a
body that describes none. -/
def ofResponse (code : Nat) (body : String) : ErrorStatus :=
  ((Json.Draft.parseText? body).bind ofDraft?).getD
    { status := statusLine code
      message := Text.quote body
      reason := "Failed to parse error data"
      code := UInt16.ofNat code }

end ErrorStatus

namespace Trouble

/-- The causes of a trouble, the outermost first. -/
def causes : Trouble → List String
  | .refused e => ["ApiError: " ++ e.summary ++ " (" ++ e.detail ++ ")", e.summary]
  | .transport cause => ["ServiceError: " ++ cause, cause]
  | .emptyName =>
    let cause := "failed to validate request: A non-empty name is required"
    ["Failed to build request: " ++ cause, cause]
  | .invalidUri fault =>
    let cause := "failed to build request: " ++ fault.message
    ["Failed to build request: " ++ cause, cause, fault.message]
  | .undecodable => ["Error deserializing response"]

def internal (t : Trouble) (k : Kind) (ns name : String) : Failure :=
  .internal (.chain ((k.name ++ " " ++ resourceId ns name) :: t.causes))

/-- What a trouble with a resource comes to. -/
def failure (t : Trouble) (k : Kind) (ns name : String) : Failure :=
  match t with
  | .refused e =>
    if e.code = 404 then .absent k ns name
    else if e.code = 409 then .taken k ns name
    else if e.code = 400 ∨ e.code = 422 then .invalid (.reported e.message)
    else t.internal k ns name
  | _ => t.internal k ns name

end Trouble

end TenantEndpoints.ApiServer
