import Tableside.Cache.Backend
import Tableside.Catalog.Source
import Tableside.Store.Migration

/-!
Everything that the instances of the service share, and what an instance is.

The world holds the database, the caches by name, the moment, and a log of what was asked of caches
and how often a menu was read from the database. An instance names its cache and says how its calls
can fail: a call that fails has no effect.
-/

namespace Tableside

/-- Something that the log keeps: a call to a cache or a menu read from the database, each with the
number of the instance it came from. -/
inductive Event
  | cacheCall (sender : Nat) (call : CacheCall)
  | load (sender : Nat) (code : String)
deriving DecidableEq, Repr

/-- A running server. Without a cache every menu is read from the database; with a lifetime of zero
the cache is neither read nor written but still cleared. -/
structure Instance where
  number : Nat
  cache : Option String
  menuTtl : Nanos
  jwtSecret : Option String
  faults : CacheOp → Option CacheError

/-- The server that settings ask for, where `cache` names the cache it could use. With caching off
it uses none. -/
def Instance.configured (number : Nat) (config : CacheConfig) (cache : Option String)
    (jwtSecret : Option String) (faults : CacheOp → Option CacheError) : Instance where
  number
  cache := if config.enabled then cache else none
  menuTtl := config.menuTtl
  jwtSecret
  faults

/-- What the instances share. -/
structure World where
  database : Database
  caches : List (String × CacheStore)
  now : Nanos
  log : List Event
deriving Inhabited

/-- A request to the service, up to its failure. -/
abbrev Service := ExceptT ApiError (StateM World)

namespace Service

/-- Work on the database. -/
def db (m : Db α) : Service α := fun w =>
  match m w.database with
  | (answer, database) => (answer, { w with database })

/-- A check that needs nothing. -/
def check (c : Except ApiError α) : Service α := fun w => (c, w)

/-- A change of the world that cannot fail. -/
def change (f : World → World) : Service Unit := fun w => (.ok (), f w)

end Service

namespace World

/-- The world with an event in its log. -/
def record (w : World) (e : Event) : World :=
  { w with log := w.log ++ [e] }

/-- The cache of a name; one that was never used is an empty one within the process. -/
def cache (w : World) (name : String) : CacheStore :=
  (w.caches.lookup name).getD (.memory .empty)

/-- The world with another cache under a name. -/
def setCache (w : World) (name : String) (store : CacheStore) : World :=
  { w with caches := (name, store) :: w.caches.filter fun c => c.1 != name }

/-- The answer of a cache, past every fault. -/
def cacheAnswer (w : World) (name : String) (call : CacheCall) :
    Except CacheError CacheReply × World :=
  let (reply, store) := (w.cache name).call w.now call
  (reply, w.setCache name store)

/-- The answer to a cache call of an instance. -/
def cacheCall (w : World) (i : Instance) (name : String) (call : CacheCall) :
    Except CacheError CacheReply × World :=
  let w := w.record (.cacheCall i.number call)
  match i.faults call.op with
  | some e => (.error e, w)
  | none => w.cacheAnswer name call

/-- The text that a cache has under a key for an instance. -/
def cacheGet (w : World) (i : Instance) (name key : String) :
    Except CacheError (Option String) × World :=
  match w.cacheCall i name (.get key) with
  | (.ok (.value text), w) => (.ok text, w)
  | (.ok .done, w) => (.ok none, w)
  | (.error e, w) => (.error e, w)

end World

end Tableside
