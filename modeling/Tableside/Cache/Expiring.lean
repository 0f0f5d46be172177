import Tableside.Cache.Memory

/-!
A cache within the process over an expiring map from elsewhere.

The map is built with a bound on the keys that it holds and with a rule for how long entries live.
It asks the rule when an entry is new, when it takes the place of another and when it is read. The
cache gives every entry the life that it was set for, and drops the key when that is none.
-/

namespace Tableside

/-- A text and how long it is to live. -/
structure TimedText where
  value : String
  ttl : Nanos
deriving DecidableEq, Repr, Inhabited

/-- How long an entry lives from a moment on, if it ends at all: a new one, one in the place of
another and one that is read. `left` is the time that the old one, or the one that is read, had
left. -/
structure Expiry where
  created (key : String) (entry : TimedText) (now : Nanos) : Option Nanos
  updated (key : String) (entry : TimedText) (now : Nanos) (left : Option Nanos) : Option Nanos
  read (key : String) (entry : TimedText) (now : Nanos) (left : Option Nanos) : Option Nanos :=
    left

/-- Every entry lives as long as it says, new or in the place of another. -/
def Expiry.perEntry : Expiry where
  created _ entry _ := some entry.ttl
  updated _ entry _ _ := some entry.ttl

/-- An expiring map: its contents, how many keys they hold, and what can be done with them at a
moment. -/
structure ExpiringMap where
  State : Type
  empty : State
  held : State → Nat
  get (s : State) (now : Nanos) (key : String) : Option TimedText × State
  insert (s : State) (now : Nanos) (key : String) (entry : TimedText) : State
  invalidate (s : State) (now : Nanos) (key : String) : State

/-- Where expiring maps come from: one for every bound on the keys and every rule. -/
abbrev ExpiringMap.Library := Nat → Expiry → ExpiringMap

/-- A cache to those who call it: its contents and the answer to a call at a moment. -/
structure Cache where
  State : Type
  empty : State
  call (s : State) (now : Nanos) (c : CacheCall) : CacheReply × State

/-- The answer that an entry gives, or that there is none. -/
def CacheReply.found (entry : Option TimedText) : CacheReply :=
  .value (entry.map (·.value))

/-- The cache over an expiring map. -/
def ExpiringMap.cache (m : ExpiringMap) : Cache where
  State := m.State
  empty := m.empty
  call s now
    | .get key => (.found (m.get s now key).1, (m.get s now key).2)
    | .set key value ttl =>
      (.done, if ttl = 0 then m.invalidate s now key else m.insert s now key ⟨value, ttl⟩)
    | .del keys => (.done, keys.foldl (fun s key => m.invalidate s now key) s)

namespace MemoryCache

/-- How many keys the map under the cache may hold. -/
def maxEntries : Nat := 10000

/-- The map that holds the entries. -/
def backing (library : ExpiringMap.Library) : ExpiringMap := library maxEntries .perEntry

/-- The cache without a bound that keeps the entries itself. -/
def cache : Cache := ⟨MemoryCache, empty, call⟩

end MemoryCache

end Tableside
