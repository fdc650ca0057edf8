import TenantEndpoints.CommandLine.Setting
import TenantEndpoints.Endpoint.Provision

/-!
# Arguments

Reading a command line and an environment into what the program is started
with. An argument that begins with a hyphen is never the value of the setting
before it; such a value has to be joined to its setting by `=`.
-/
namespace TenantEndpoints.CommandLine

/-- The values given so far by the name of their setting, and the setting that
still waits for its value to be looked at, or for the value itself. -/
structure Given where
  values : SortedMap String (List String) := ∅
  pending : Option (Setting × Option String) := none

namespace Given

/-- Takes a value for a setting. -/
def add (g : Given) (s : Setting) (value : String) : Except Refusal Given :=
  let before := g.values.find? s.name
  if before.isSome && !s.kind.repeats then .error .repeated
  else do
    let values := before.getD [] ++ (← s.kind.values value)
    return { g with values := g.values.insert s.name values }

/-- Takes the value that still waits. -/
def settle (g : Given) : Except Refusal Given :=
  match g.pending with
  | none => .ok g
  | some (_, none) => .error .missingValue
  | some (s, some value) => { g with pending := none }.add s value

/-- Takes a setting with its value if one is joined to it. -/
def addSetting (g : Given) (s : Setting) (joined : Option String) : Except Refusal Given :=
  match s.kind.takesValue, joined with
  | true, some value => do (← g.settle).add s value
  | true, none => do return { ← g.settle with pending := some (s, none) }
  | false, some _ => .error .needlessValue
  | false, none => do (← g.settle).add s "true"

/-- Takes an argument that is no setting. -/
def addValue (g : Given) (value : String) : Except Refusal Given :=
  match g.pending with
  | some (s, none) => .ok { g with pending := some (s, some value) }
  | _ => .error .unknownArgument

/-- Takes the arguments of a command line. What follows `--` would be no
setting's value, and there is nothing else that it could be. -/
def addAll (g : Given) : List String → Except Refusal Given
  | [] => g.settle
  | a :: as =>
    if a = "--" then if as = [] then g.settle else .error .unknownArgument
    else match a.toList with
      | '-' :: '-' :: s => do
        let (name, value) := Text.cutAtFirst '=' s
        match Setting.named? (String.ofList name) with
        | some setting => (← g.addSetting setting (value.map String.ofList)).addAll as
        | none => throw .unknownArgument
      | '-' :: _ :: _ => .error .unknownArgument
      | _ => do (← g.addValue a).addAll as

end Given

structure Arguments where
  apiAddress : SocketAddress
  domainBaseUrl : String
  pathIdLength : Nat
  entryPoints : List String
  tlsSecretName : Option String
  sharedMiddlewareNamespace : String
  excludedPortNames : List String
  activity : ActivityConfig
  cache : CacheConfig
  requestTimeoutMs : Nat
  ignoreSharedConflicts : Bool

/-- The environment variables that are set. -/
abbrev Environment := String → Option String

/-- Where the values of settings come from. -/
structure Sources where
  given : Given
  environment : Environment

namespace Sources

/-- The values of a setting, which are looked for in the environment only if it is not given. -/
def values (src : Sources) (s : Setting) : Except Refusal (List String) :=
  match src.given.values.find? s.name with
  | some values => .ok values
  | none => match s.envVar.bind src.environment with
    | some value => s.kind.values value
    | none => (s.default.map s.kind.values).getD (.ok [])

def value? (src : Sources) (s : Setting) : Except Refusal (Option String) := do
  return (← src.values s).head?

def text (src : Sources) (s : Setting) : Except Refusal String := do
  return (← src.value? s).getD ""

def number (src : Sources) (s : Setting) : Except Refusal Nat := do
  match (← src.value? s).bind s.kind.number? with
  | some n => return n
  | none => throw .invalidValue

def address (src : Sources) (s : Setting) : Except Refusal SocketAddress := do
  match (← src.value? s).bind SocketAddress.read? with
  | some a => return a
  | none => throw .invalidValue

end Sources

namespace Arguments

def readActivity (src : Sources) : Except Refusal ActivityConfig := do
  return {
    apiKey := ← src.text .activityApiKey
    pattern := ← src.text .activityPattern
    remoteAddress := ← src.text .activityRemoteAddress
    bufferSize := UInt32.ofNat (← src.number .activityBufferSize)
    batchSize := UInt32.ofNat (← src.number .activityBatchSize)
    flushInterval := ← src.text .activityFlushInterval }

def readCache (src : Sources) : Except Refusal CacheConfig := do
  return {
    redisAddress := ← src.text .cacheRedisAddress
    redisAuth := ← src.text .cacheRedisAuth
    redisPoolSize := UInt32.ofNat (← src.number .cacheRedisPoolSize)
    cacheExpiry := UInt64.ofNat (← src.number .cacheExpiry) }

/-- Reads a command line. Every value is looked at before anything can be missing. -/
def read (argv : List String) (environment : Environment) : Except Refusal Arguments := do
  let src : Sources := ⟨← Given.addAll {} argv, environment⟩
  let _ ← Setting.all.mapM src.values
  let domain ← src.value? .domainBaseUrl
  let some domainBaseUrl := domain | throw .missingRequired
  return {
    apiAddress := ← src.address .apiAddress
    domainBaseUrl
    pathIdLength := ← src.number .pathIdLength
    entryPoints := ← src.values .entryPoints
    tlsSecretName := ← src.value? .tlsSecretName
    sharedMiddlewareNamespace := ← src.text .sharedMiddlewareNamespace
    excludedPortNames := ← src.values .excludedPortNames
    activity := ← readActivity src
    cache := ← readCache src
    requestTimeoutMs := ← src.number .requestTimeoutMs
    ignoreSharedConflicts := (← src.value? .ignoreSharedConflicts).isSome }

/-- What keeps the program from starting, if anything does. -/
def startFault? (a : Arguments) : Option String :=
  if a.pathIdLength = 0 then some "--path-id-length must be positive" else none

/-- The configuration of endpoints that was asked for. -/
def config (a : Arguments) : Endpoint.Config :=
  { idLength := a.pathIdLength
    ports := ⟨a.excludedPortNames⟩
    entryPoints := a.entryPoints
    tlsSecretName := a.tlsSecretName
    shared :=
      { ns := a.sharedMiddlewareNamespace
        activity := a.activity
        cache := a.cache
        ignoreConflicts := a.ignoreSharedConflicts } }

def activityJson (c : ActivityConfig) : Json := .object
  [("api_key", .string c.apiKey),
   ("pattern", .string c.pattern),
   ("remote_address", .string c.remoteAddress),
   ("buffer_size", .integer c.bufferSize.toNat),
   ("batch_size", .integer c.batchSize.toNat),
   ("flush_interval", .string c.flushInterval)]

def cacheJson (c : CacheConfig) : Json := .object
  [("redis_address", .string c.redisAddress),
   ("redis_auth", .string c.redisAuth),
   ("redis_pool_size", .integer c.redisPoolSize.toNat),
   ("cache_expiry", .integer c.cacheExpiry.toNat)]

/-- All arguments under the names of their settings. -/
def toJson (a : Arguments) : Json := .object
  [("api_addr", .string a.apiAddress.text),
   ("domain_base_url", .string a.domainBaseUrl),
   ("path_id_length", .integer a.pathIdLength),
   ("entry_points", Json.ofStrings a.entryPoints),
   ("tls_secret_name", (a.tlsSecretName.map Json.string).getD .null),
   ("shared_middleware_namespace", .string a.sharedMiddlewareNamespace),
   ("excluded_port_names", Json.ofStrings a.excludedPortNames),
   ("activity", activityJson a.activity),
   ("cache", cacheJson a.cache),
   ("request_timeout_ms", .integer a.requestTimeoutMs),
   ("ignore_shared_conflicts", .bool a.ignoreSharedConflicts)]

/-- The domain that was asked for. -/
def domain (a : Arguments) : Except Failure String := Endpoint.fixedDomain a.domainBaseUrl

end Arguments

end TenantEndpoints.CommandLine
