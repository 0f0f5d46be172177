import Tableside.Cache.Memory
import Tableside.Cache.Redis

/-!
The caches that instances of the server use: one within the process or one on a shared server,
whichever the settings ask for.
-/

namespace Tableside

/-- The cache that settings ask for. -/
inductive CacheChoice
  | off
  | inProcess
  | shared (url : String)
deriving DecidableEq, Repr, Inhabited

/-- Which cache the settings ask for: none when caching is off, the shared one when its address is
given, otherwise one within the process. -/
def CacheConfig.choice (config : CacheConfig) : CacheChoice :=
  if !config.enabled then .off
  else
    match config.redisUrl with
    | some url => .shared url
    | none => .inProcess

/-- The content of a cache of either kind. -/
inductive CacheStore
  | memory (cache : MemoryCache)
  | redis (server : RedisServer)
deriving DecidableEq, Inhabited

namespace CacheStore

/-- The answer to a call at a moment and the store after it. -/
def call (s : CacheStore) (now : Nanos) (c : CacheCall) :
    Except CacheError CacheReply × CacheStore :=
  match s with
  | memory cache =>
    let (reply, cache) := cache.call now c
    (.ok reply, memory cache)
  | redis server =>
    let (reply, server) := server.call c
    (reply, redis server)

/-- Opens the cache that settings ask for. `servers` gives the shared server at an address, if one
can be reached there; a server that gives no sign of life cannot be used. -/
def open? (config : CacheConfig) (servers : String → Option RedisServer) :
    Except CacheError (Option CacheStore) :=
  match config.choice with
  | .off => .ok none
  | .inProcess => .ok (some (memory .empty))
  | .shared url =>
    match servers url with
    | none => .error .backend
    | some server =>
      match server.connect with
      | (.ok _, server) => .ok (some (redis server))
      | (.error e, _) => .error e

end CacheStore

end Tableside
