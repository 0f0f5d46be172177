import Tableside.Cache.Call

/-!
A cache within the process: a map from keys to texts, each with the moment until which it lives.

Setting a key replaces its text and its life; a life of zero removes the key. Time is what the
caller says it is.
-/

namespace Tableside

/-- A text and the moment at which it is gone. -/
structure CacheEntry where
  value : String
  expires : Nanos
deriving DecidableEq, Inhabited

/-- A cache within the process. No key comes twice. -/
structure MemoryCache where
  entries : List (String × CacheEntry)
deriving DecidableEq, Inhabited

namespace MemoryCache

/-- The cache without entries. -/
def empty : MemoryCache := ⟨[]⟩

/-- The text of a key at a moment. -/
def get (c : MemoryCache) (now : Nanos) (key : String) : Option String :=
  match c.entries.lookup key with
  | some entry => if now < entry.expires then some entry.value else none
  | none => none

/-- The cache without a key. -/
def erase (c : MemoryCache) (key : String) : MemoryCache :=
  ⟨c.entries.filter fun e => e.1 != key⟩

/-- The cache with a text under a key for a time from now. -/
def set (c : MemoryCache) (now : Nanos) (key value : String) (ttl : Nanos) : MemoryCache :=
  if ttl = 0 then c.erase key else ⟨(key, ⟨value, now + ttl⟩) :: (c.erase key).entries⟩

/-- The cache without a list of keys. -/
def del (c : MemoryCache) (keys : List String) : MemoryCache :=
  keys.foldl erase c

/-- The answer to a call and the cache after it. -/
def call (c : MemoryCache) (now : Nanos) : CacheCall → CacheReply × MemoryCache
  | .get key => (.value (c.get now key), c)
  | .set key value ttl => (.done, c.set now key value ttl)
  | .del keys => (.done, c.del keys)

end MemoryCache

end Tableside
