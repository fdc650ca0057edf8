import TenantEndpoints.CommandLine.Values

/-!
# Settings

What can be set on the command line, and where each setting is looked for: among
the arguments, then in an environment variable, then its default.
-/
namespace TenantEndpoints.CommandLine

/-- Why a command line is refused. -/
inductive Refusal
  | unknownArgument
  | missingRequired
  | repeated
  | invalidValue
  | missingValue
  | needlessValue
  deriving DecidableEq, Repr

def Refusal.message : Refusal → String
  | .unknownArgument => "unknown argument"
  | .missingRequired => "a required setting is missing"
  | .repeated => "a setting is given twice"
  | .invalidValue => "a value is not valid"
  | .missingValue => "a setting has no value"
  | .needlessValue => "a setting takes no value"

/-- What the values of a setting are. -/
inductive ValueKind
  /-- Given or not; it takes no value. -/
  | flag
  | text
  /-- A text that counts as no value when it is empty. -/
  | path
  /-- Values between commas, which are added up when the setting is repeated. -/
  | texts
  | unsigned (bits : Nat)
  /-- An unsigned number that may also be written as a signed zero. -/
  | small (bits : Nat)
  | duration
  | address
  | logFilter
  | logFormat
  deriving DecidableEq, Repr

structure Setting where
  name : String
  kind : ValueKind
  envVar : Option String := none
  default : Option String := none
  deriving DecidableEq, Repr

namespace ValueKind

def takesValue (k : ValueKind) : Bool := k ≠ .flag

def repeats (k : ValueKind) : Bool := k = .texts

/-- The number that a text stands for, if the kind is one of numbers. -/
def number? : ValueKind → String → Option Nat
  | .unsigned bits, s => Text.readUnsigned? bits s
  | .small bits, s => match s.toList with
    | '-' :: ds => (Text.readDigits? ds).filter (· = 0)
    | _ => Text.readUnsigned? bits s
  | _, _ => none

/-- Whether a text, if it is a value, is one of this kind. -/
def accepts (k : ValueKind) (s : String) : Bool :=
  match k with
  | .flag | .text | .path | .texts => true
  | .unsigned _ | .small _ => (k.number? s).isSome
  | .duration => (readDuration? s).isSome
  | .address => (SocketAddress.read? s).isSome
  | .logFilter => LogFilter.accepts s
  | .logFormat => s = "plain" || s = "json"

/-- The values that one text gives. -/
def values (k : ValueKind) (s : String) : Except Refusal (List String) :=
  if k = .path ∧ s = "" then .error .missingValue
  else if !k.accepts s then .error .invalidValue
  else if k = .texts then .ok ((Text.pieces ',' s.toList).map String.ofList)
  else .ok [s]

end ValueKind

namespace Setting

def logLevel : Setting := ⟨"log-level", .logFilter, "KOTAL_ENDPOINTS_LOG", "kotal=info,warn"⟩

def logFormat : Setting := ⟨"log-format", .logFormat, "KOTAL_ENDPOINTS_LOG_FORMAT", "plain"⟩

def cluster : Setting := ⟨"cluster", .text, none, none⟩

def context : Setting := ⟨"context", .text, none, none⟩

def user : Setting := ⟨"user", .text, none, none⟩

def kubeconfig : Setting := ⟨"kubeconfig", .path, none, none⟩

def asUser : Setting := ⟨"as", .text, none, none⟩

def asGroup : Setting := ⟨"as-group", .text, none, none⟩

def apiTimeout : Setting := ⟨"kube-api-response-headers-timeout", .duration, none, "9s"⟩

def adminAddress : Setting := ⟨"admin-addr", .address, none, "0.0.0.0:8080"⟩

def apiAddress : Setting :=
  ⟨"api-addr", .address, "KOTAL_ENDPOINTS_API_ADDR", "0.0.0.0:8080"⟩

def domainBaseUrl : Setting := ⟨"domain-base-url", .text, "KOTAL_DOMAIN_BASE_URL", none⟩

def pathIdLength : Setting :=
  ⟨"path-id-length", .unsigned 64, "ENDPOINT_PATH_ID_LENGTH", "16"⟩

def entryPoints : Setting := ⟨"entry-points", .texts, none, "websecure"⟩

def tlsSecretName : Setting := ⟨"tls-secret-name", .text, none, none⟩

def sharedMiddlewareNamespace : Setting :=
  ⟨"shared-middleware-namespace", .text, none, "kotal"⟩

def excludedPortNames : Setting := ⟨"excluded-port-names", .texts, none, "ws,p2p"⟩

def activityApiKey : Setting := ⟨"activity-api-key", .text, "CROSSOVER_API_KEY", ""⟩

def activityPattern : Setting := ⟨"activity-pattern", .text, "CROSSOVER_PATTERN", ""⟩

def activityRemoteAddress : Setting :=
  ⟨"activity-remote-address", .text, "CROSSOVER_REMOTE_ADDRESS", ""⟩

def activityBufferSize : Setting :=
  ⟨"activity-buffer-size", .small 32, "CROSSOVER_BUFFER_SIZE", "1000"⟩

def activityBatchSize : Setting :=
  ⟨"activity-batch-size", .small 32, "CROSSOVER_BATCH_SIZE", "100"⟩

def activityFlushInterval : Setting :=
  ⟨"activity-flush-interval", .text, "CROSSOVER_FLUSH_INTERVAL", "5s"⟩

def cacheRedisAddress : Setting := ⟨"cache-redis-address", .text, "CROSSOVER_REDIS_ADDRESS", ""⟩

def cacheRedisAuth : Setting := ⟨"cache-redis-auth", .text, "CROSSOVER_REDIS_AUTH", ""⟩

def cacheRedisPoolSize : Setting :=
  ⟨"cache-redis-pool-size", .small 32, "CROSSOVER_REDIS_POOL_SIZE", "10"⟩

def cacheExpiry : Setting := ⟨"cache-expiry", .unsigned 64, "CROSSOVER_CACHE_EXPIRY", "15"⟩

def requestTimeoutMs : Setting := ⟨"request-timeout-ms", .unsigned 64, none, "10000"⟩

def ignoreSharedConflicts : Setting := ⟨"ignore-shared-conflicts", .flag, none, none⟩

def all : List Setting :=
  [logLevel, logFormat, cluster, context, user, kubeconfig, asUser, asGroup, apiTimeout,
   adminAddress, apiAddress, domainBaseUrl, pathIdLength, entryPoints, tlsSecretName,
   sharedMiddlewareNamespace, excludedPortNames, activityApiKey, activityPattern,
   activityRemoteAddress, activityBufferSize, activityBatchSize, activityFlushInterval,
   cacheRedisAddress, cacheRedisAuth, cacheRedisPoolSize, cacheExpiry, requestTimeoutMs,
   ignoreSharedConflicts]

def named? (name : String) : Option Setting := all.find? (·.name = name)

end Setting

end TenantEndpoints.CommandLine
