import TenantEndpoints.Program.Basic

/-!
# Shared middlewares

Two middlewares are shared by all endpoints. They are made when the first
endpoint needs them, belong to no endpoint, and are never changed afterwards.
Two endpoints may find one missing at the same time; the one that then comes
second is in conflict, unless conflicts are ignored.
-/
namespace TenantEndpoints

structure ActivityConfig where
  apiKey : String := ""
  pattern : String := ""
  remoteAddress : String := ""
  bufferSize : UInt32 := 0
  batchSize : UInt32 := 0
  flushInterval : String := ""
  deriving DecidableEq, Repr

structure CacheConfig where
  redisAddress : String := ""
  redisAuth : String := ""
  redisPoolSize : UInt32 := 0
  /-- Seconds that a cached response remains valid. -/
  cacheExpiry : UInt64 := 0
  deriving DecidableEq, Repr

structure SharedMiddlewares where
  ns : String := "kotal"
  activity : ActivityConfig := {}
  cache : CacheConfig := {}
  ignoreConflicts : Bool := false
  deriving DecidableEq, Repr

def ActivityConfig.toJson (c : ActivityConfig) : Json := .object
  [("apiKey", .string c.apiKey),
   ("pattern", .string c.pattern),
   ("remoteAddress", .string c.remoteAddress),
   ("bufferSize", .integer c.bufferSize.toNat),
   ("batchSize", .integer c.batchSize.toNat),
   ("flushInterval", .string c.flushInterval)]

def CacheConfig.toJson (c : CacheConfig) : Json := .object
  [("redisAddress", .string c.redisAddress),
   ("redisAuth", .string c.redisAuth),
   ("redisPoolSize", .integer c.redisPoolSize.toNat),
   ("cacheExpiry", .integer c.cacheExpiry.toNat)]

namespace SharedMiddlewares

def activityName : String := "crossover-activity"

def cacheName : String := "crossover-cache"

/-- References to both, in the order in which they apply. -/
def refs (s : SharedMiddlewares) : List ObjectRef :=
  [⟨activityName, some s.ns⟩, ⟨cacheName, some s.ns⟩]

/-- A middleware that configures the plugin it is named after. -/
def plugin (name ns : String) (config : Json) : Middleware :=
  { metadata := { name := some name, ns := some ns }
    spec := .plugin (SortedMap.empty.insert name (Payload.ofJson config)) }

def activityMiddleware (s : SharedMiddlewares) : Middleware :=
  plugin activityName s.ns s.activity.toJson

def cacheMiddleware (s : SharedMiddlewares) : Middleware :=
  plugin cacheName s.ns s.cache.toJson

/-- Creates a middleware unless there is one under its key. One that exists is
never compared nor changed. -/
def ensureExists (name ns : String) (build : Except Failure Middleware) (ignoreConflicts : Bool)
    (deadline : Instant) : Attempt Unit := do
  let key := [("namespace", ns), ("name", name)]
  match ← Attempt.outcome (.get .middleware ns name) deadline with
  | .ok _ => return
  | .error failure =>
    if !failure.isNotFound then throw failure
    let middleware ← Attempt.ofExcept build
    match ← Attempt.outcome (.create middleware) deadline with
    | .ok _ => logInfo "Created shared middleware" key
    | .error failure =>
      if ignoreConflicts && failure.isConflict then
        logInfo "Shared middleware was created concurrently" key
      else throw failure

def ensureActivity (s : SharedMiddlewares) (deadline : Instant) : Attempt Unit :=
  ensureExists activityName s.ns (.ok s.activityMiddleware) s.ignoreConflicts deadline

def ensureCache (s : SharedMiddlewares) (deadline : Instant) : Attempt Unit :=
  ensureExists cacheName s.ns (.ok s.cacheMiddleware) s.ignoreConflicts deadline

end SharedMiddlewares

end TenantEndpoints
