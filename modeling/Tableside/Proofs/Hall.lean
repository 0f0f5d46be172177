import Tableside.Proofs.MenuCache

/-!
# Menu reads under way

Servers read menus through caches of their own or through shared ones while rows change, time passes
and saved menus are dropped. A `Hall` is the world with the reads that are under way in it, and a
`Move` is one exchange of one read or one thing that happens around them. A move adds to a cache at
most the text that a call sets, with its lifetime (`Hall.mem_dated_make`), and takes a read at most
one exchange further (`Hall.visits_make`). What servers do is made of moves (`Call.run_made`).
-/

namespace Tableside

/-! ## Menu reads, exchange by exchange -/

namespace MenuRead

/-- One exchange of a read on an instance, whose cache is `name`. -/
def step (i : Instance) (name : String) : MenuRead → World → MenuRead × World
  | done answer, w => (done answer, w)
  | lookup key next, w => (next (w.cacheGet i name key).1, (w.cacheGet i name key).2)
  | load code next, w =>
    let loaded := Service.db (Catalog.loadMenu code) (w.record (.load i.number code))
    (next loaded.1, loaded.2)
  | save key value ttl next, w => (next, (w.cacheCall i name (.set key value ttl)).2)

/-- What the next exchange asks of the cache, if anything. -/
def call? : MenuRead → Option CacheCall
  | lookup key _ => some (.get key)
  | save key value ttl _ => some (.set key value ttl)
  | _ => none

/-- A read begins refused, without a cache or with a lookup. -/
theorem start_cases (ttl : Option Nanos) (code : String) :
    (∃ e, start ttl code = .done (.error e)) ∨
    (ttl = none ∧ start ttl code = uncached (Text.trim code)) ∨
    ∃ life, ttl = some life ∧ start ttl code = throughCache (Text.trim code) life := by
  unfold start
  dsimp only
  generalize Text.trim code = trimmed
  by_cases empty : trimmed.isEmpty
  · exact .inl ⟨_, if_pos empty⟩
  · rw [if_neg empty]
    cases ttl with
    | none => exact .inr (.inl ⟨rfl, rfl⟩)
    | some life => exact .inr (.inr ⟨life, rfl, rfl⟩)

theorem call?_eq_set {read : MenuRead} {key value : String} {ttl : Nanos}
    (asked : read.call? = some (.set key value ttl)) : ∃ next, read = .save key value ttl next := by
  cases read with
  | save key' value' ttl' next =>
    cases asked
    exact ⟨next, rfl⟩
  | lookup key' next => cases asked
  | _ => cases asked

variable (i : Instance) (name : String)

/-- A read that is carried through is one exchange and the rest. -/
theorem run_step (read : MenuRead) (w : World) :
    read.run i name w = (read.step i name w).1.run i name (read.step i name w).2 := by
  cases read <;> rfl

end MenuRead

theorem Instance.cache_of_readThroughTtl {i : Instance} {ttl : Nanos}
    (lifetime : i.readThroughTtl = some ttl) : ∃ name, i.cache = some name := by
  unfold readThroughTtl at lifetime
  cases named : i.cache with
  | some name => exact ⟨name, rfl⟩
  | none =>
    rw [named] at lifetime
    cases lifetime

/-! ## Until when entries live -/

namespace RedisServer

/-- The moments at which entries end, after a call. The server counts a life in whole milliseconds
from the moment that it is told to keep a text. -/
def endsAfter (ends : String → Nanos) (now : Nanos) (server : RedisServer) (c : CacheCall) :
    String → Nanos :=
  match server.failing, commandFor? c with
  | false, some (.setFor key _ millis) =>
    fun other => if other = key then now + millis * 1000000 else ends other
  | _, _ => ends

end RedisServer

namespace CacheStore

/-- The moments at which the entries of a shared server end, after a call. Caches within a process
keep these moments themselves. -/
def endsAfter (ends : String → Nanos) (now : Nanos) (cache : CacheStore) (c : CacheCall) :
    String → Nanos :=
  match cache with
  | memory _ => ends
  | redis server => server.endsAfter ends now c

/-- A shared server lets go of what has ended. -/
def expire (ends : String → Nanos) (now : Nanos) : CacheStore → CacheStore
  | memory cache => memory cache
  | redis server => redis { server with entries := server.entries.filter fun e => now < ends e.1 }

/-- The entries of a cache with the moments at which they end. -/
def dated (ends : String → Nanos) : CacheStore → List (String × CacheEntry)
  | memory cache => cache.entries
  | redis server => server.entries.map fun e => (e.1, ⟨e.2, ends e.1⟩)

/-- What a shared server holds under a key has not ended. -/
def Alive (ends : String → Nanos) (now : Nanos) (key : String) : CacheStore → Prop
  | memory _ => True
  | redis server => ∀ text, (key, text) ∈ server.entries → now < ends key

end CacheStore

namespace RedisServer

variable {server : RedisServer} {ends : String → Nanos} {now : Nanos} {c : CacheCall}
  {key other text : String}

theorem mem_erase (member : (key, text) ∈ (server.erase other).entries) :
    (key, text) ∈ server.entries ∧ key ≠ other := by
  obtain ⟨there, differs⟩ := List.mem_filter.1 member
  exact ⟨there, bne_iff_ne.1 differs⟩

theorem mem_foldl_erase (keys : List String)
    (member : (key, text) ∈ (keys.foldl erase server).entries) : (key, text) ∈ server.entries := by
  induction keys generalizing server with
  | nil => exact member
  | cons other rest ih => exact (mem_erase (ih member)).1

/-- After a call, a shared server holds what it held before, with the same end, or the text that it
was told to keep, which ends within the lifetime asked for. -/
theorem mem_call (member : (key, text) ∈ (server.call c).2.entries) :
    ((key, text) ∈ server.entries ∧ server.endsAfter ends now c key = ends key) ∨
      ∃ ttl, c = .set key text ttl ∧ now < server.endsAfter ends now c key ∧
        server.endsAfter ends now c key ≤ now + ttl := by
  unfold call answer at member
  unfold endsAfter
  cases failing : server.failing with
  | true =>
    refine .inl ⟨?_, rfl⟩
    cases asked : commandFor? c <;> simpa [asked, failing] using member
  | false =>
    cases c with
    | get key' => exact .inl ⟨by simpa [commandFor?, failing] using member, rfl⟩
    | del keys =>
      cases keys with
      | nil => exact .inl ⟨member, rfl⟩
      | cons first rest =>
        refine .inl ⟨mem_foldl_erase (first :: rest) ?_, rfl⟩
        simpa [commandFor?, failing] using member
    | set key' value ttl =>
      simp only [commandFor?] at member ⊢
      by_cases none : min (ttl / 1000000) (UInt64.size - 1) = 0
      · rw [if_pos none] at member ⊢
        simp only [failing, Bool.false_eq_true, if_false] at member
        exact .inl ⟨mem_foldl_erase [key'] member, rfl⟩
      · rw [if_neg none] at member ⊢
        simp only [failing, Bool.false_eq_true, if_false] at member ⊢
        rcases List.mem_cons.1 member with new | old
        · cases new
          have whole : min (ttl / 1000000) (UInt64.size - 1) * 1000000 ≤ ttl :=
            (Nat.mul_le_mul_right _ (Nat.min_le_left ..)).trans (Nat.div_mul_le_self ttl 1000000)
          have some : 0 < min (ttl / 1000000) (UInt64.size - 1) * 1000000 :=
            Nat.mul_pos (Nat.pos_of_ne_zero none) (by decide)
          refine .inr ⟨ttl, rfl, ?_⟩
          rw [if_pos rfl]
          exact ⟨Nat.lt_add_of_pos_right some, Nat.add_le_add_left whole now⟩
        · obtain ⟨there, differs⟩ := mem_erase old
          exact .inl ⟨there, if_neg differs⟩

end RedisServer

theorem MemoryCache.mem_del {cache : MemoryCache} {e : String × CacheEntry} (keys : List String)
    (member : e ∈ (cache.del keys).entries) : e ∈ cache.entries := by
  induction keys generalizing cache with
  | nil => exact member
  | cons key rest ih => exact (List.mem_filter.1 (ih member)).1

namespace CacheStore

variable {cache : CacheStore} {ends : String → Nanos} {now : Nanos} {c : CacheCall}
  {key text : String} {entry : CacheEntry}

theorem mem_dated_redis {server : RedisServer} :
    (key, entry) ∈ (redis server).dated ends ↔
      (key, entry.value) ∈ server.entries ∧ entry.expires = ends key := by
  constructor
  · intro member
    obtain ⟨e, there, same⟩ := List.mem_map.1 member
    cases same
    exact ⟨there, rfl⟩
  · rintro ⟨there, ended⟩
    exact List.mem_map.2 ⟨_, there, by rw [← ended]⟩

theorem mem_texts_of_dated (member : (key, entry) ∈ cache.dated ends) :
    (key, entry.value) ∈ cache.texts := by
  cases cache with
  | memory cache => exact List.mem_map.2 ⟨_, member, rfl⟩
  | redis server => exact (mem_dated_redis.1 member).1

theorem mem_dated_keep {keys : String → Bool}
    (member : (key, entry) ∈ (cache.keep keys).dated ends) : (key, entry) ∈ cache.dated ends := by
  cases cache with
  | memory cache => exact (List.mem_filter.1 member).1
  | redis server =>
    obtain ⟨there, ended⟩ := mem_dated_redis.1 member
    exact mem_dated_redis.2 ⟨(List.mem_filter.1 there).1, ended⟩

theorem mem_dated_expire (member : (key, entry) ∈ (cache.expire ends now).dated ends) :
    (key, entry) ∈ cache.dated ends := by
  cases cache with
  | memory cache => exact member
  | redis server =>
    obtain ⟨there, ended⟩ := mem_dated_redis.1 member
    exact mem_dated_redis.2 ⟨(List.mem_filter.1 there).1, ended⟩

theorem alive_of_bare (bare : ∀ text, (key, text) ∉ cache.texts) : cache.Alive ends now key := by
  cases cache with
  | memory cache => trivial
  | redis server => exact fun text there => absurd there (bare text)

theorem alive_keep {keys : String → Bool} (alive : cache.Alive ends now key) :
    (cache.keep keys).Alive ends now key := by
  cases cache with
  | memory cache => trivial
  | redis server => exact fun text there => alive text (List.mem_filter.1 there).1

theorem alive_expire : (cache.expire ends now).Alive ends now key := by
  cases cache with
  | memory cache => trivial
  | redis server => exact fun text there => of_decide_eq_true (List.mem_filter.1 there).2

/-- After a call, a cache holds what it held before or the text that it was told to keep, which ends
within the lifetime asked for. -/
theorem mem_dated_call
    (member : (key, entry) ∈ (cache.call now c).2.dated (cache.endsAfter ends now c)) :
    (key, entry) ∈ cache.dated ends ∨
      ∃ ttl, c = .set key entry.value ttl ∧ entry.expires ≤ now + ttl := by
  cases cache with
  | redis server =>
    obtain ⟨there, ended⟩ := mem_dated_redis.1 member
    rcases RedisServer.mem_call there with ⟨old, same⟩ | ⟨ttl, told, -, within⟩
    · exact .inl (mem_dated_redis.2 ⟨old, ended.trans same⟩)
    · exact .inr ⟨ttl, told, ended ▸ within⟩
  | memory cache =>
    cases c with
    | get key' => exact .inl member
    | del keys => exact .inl (MemoryCache.mem_del keys member)
    | set key' value ttl =>
      change (key, entry) ∈ (cache.set now key' value ttl).entries at member
      unfold MemoryCache.set at member
      split at member
      · exact .inl (List.mem_filter.1 member).1
      · rcases List.mem_cons.1 member with new | old
        · cases new
          exact .inr ⟨ttl, rfl, Nat.le_refl _⟩
        · exact .inl (List.mem_filter.1 old).1

theorem alive_call (alive : cache.Alive ends now key) :
    (cache.call now c).2.Alive (cache.endsAfter ends now c) now key := by
  cases cache with
  | memory cache => trivial
  | redis server =>
    intro text there
    rcases RedisServer.mem_call there with ⟨old, same⟩ | ⟨ttl, -, lives, -⟩
    · exact (alive text old).trans_eq same.symm
    · exact lives

/-- A text that is answered is one that is held and has not ended. -/
theorem mem_dated_of_get (alive : cache.Alive ends now key)
    (answer : (cache.call now (.get key)).1 = .ok (.value (some text))) :
    ∃ entry, (key, entry) ∈ cache.dated ends ∧ entry.value = text ∧ now < entry.expires := by
  cases cache with
  | redis server =>
    have held := mem_texts_of_get answer
    exact ⟨⟨text, ends key⟩, mem_dated_redis.2 ⟨held, rfl⟩, rfl, alive text held⟩
  | memory cache =>
    have found : cache.get now key = some text := by
      simpa [call, MemoryCache.call] using answer
    unfold MemoryCache.get at found
    split at found
    · rename_i entry looked
      split at found
      · rename_i lives
        obtain ⟨before, after, entries, -⟩ := List.lookup_eq_some_iff.1 looked
        refine ⟨entry, ?_, Option.some.inj found, lives⟩
        rw [dated, entries]
        exact List.mem_append_right _ List.mem_cons_self
      · cases found
    · cases found

end CacheStore

/-! ## Reads under way -/

/-- A menu read of a server for a code, under way or done. -/
structure Visit where
  server : Instance
  code : String
  read : MenuRead

/-- The world with the reads that were begun in it, and the moments at which the entries of shared
servers end, by cache and key. -/
structure Hall where
  world : World
  visits : List Visit
  ends : String → String → Nanos

/-- Something that happens in a hall. -/
inductive Move
  /-- Time passes. -/
  | wait (elapsed : Nanos)
  /-- A cache loses the entries whose keys are not kept. -/
  | evict (name : String) (keys : String → Bool)
  /-- The database becomes another one, through a server or past all of them. -/
  | database (d : Database)
  /-- Something else than a menu read calls a cache, as servers do that drop a menu. -/
  | call (server : Instance) (name : String) (c : CacheCall)
  /-- A server is asked for the menu of a code. -/
  | arrive (server : Instance) (code : String)
  /-- The read of a number makes its next exchange, whose call to the cache may fail. -/
  | proceed (n : Nat) (faults : CacheOp → Option CacheError)

/-- Nothing but menu reads sets the keys of menus. -/
def Move.Proper : Move → Prop
  | call _ _ (.set key _ _) => ∀ code, key ≠ menuKey code
  | _ => True

namespace Visit

/-- The server of a visit while its calls to the cache fail in a certain way. -/
def sender (v : Visit) (faults : CacheOp → Option CacheError) : Instance :=
  { v.server with faults }

/-- The next exchange of a visit. -/
def step (v : Visit) (faults : CacheOp → Option CacheError) (w : World) : MenuRead × World :=
  v.read.step (v.sender faults) (v.server.cache.getD "") w

variable {v : Visit} {code : String} {ttl : Nanos}

theorem step_done {answer : Except ApiError Menu} (read : v.read = .done answer)
    (faults : CacheOp → Option CacheError) (w : World) : (v.step faults w).1 = .done answer := by
  rw [step, read, MenuRead.step]

theorem step_uncached (read : v.read = .uncached code) (faults : CacheOp → Option CacheError)
    (w : World) : (v.step faults w).1 = .done (Catalog.loadMenu code w.database).1 := by
  rw [step, read]
  rfl

theorem step_throughCache {name : String} (named : v.server.cache = some name)
    (read : v.read = .throughCache code ttl) (faults : CacheOp → Option CacheError) (w : World) :
    (v.step faults w).1 =
      match MenuRead.cached? (w.cacheGet (v.sender faults) name (menuKey code)).1 with
      | some m => .done (.ok m)
      | none => .loadAndSave code ttl := by
  rw [step, read, named]
  rfl

/-- A menu that the cache answers is the one that the visit is done with. -/
theorem step_found {name : String} (named : v.server.cache = some name)
    (read : v.read = .throughCache code ttl) {faults : CacheOp → Option CacheError} {w : World}
    {m : Menu} (answer : (w.cacheGet (v.sender faults) name (menuKey code)).1 =
      .ok (some m.snapshot)) : (v.step faults w).1 = .done (.ok m) := by
  rw [step_throughCache named read, answer, MenuRead.cached?_snapshot]

theorem step_loadAndSave (read : v.read = .loadAndSave code ttl)
    (faults : CacheOp → Option CacheError) (w : World) :
    (v.step faults w).1 = match (Catalog.loadMenu code w.database).1 with
      | .error e => .done (.error e)
      | .ok m => .save (menuKey code) m.snapshot ttl (.done (.ok m)) := by
  rw [step, read]
  rfl

theorem step_save {key value : String} {next : MenuRead} (read : v.read = .save key value ttl next)
    (faults : CacheOp → Option CacheError) (w : World) : (v.step faults w).1 = next := by
  rw [step, read, MenuRead.step]

end Visit

namespace Hall

/-- The moments at which entries end, after a call of an instance to a cache. -/
def endsAfter (h : Hall) (i : Instance) (name : String) (c : CacheCall) :
    String → String → Nanos := fun other =>
  if other = name ∧ i.faults c.op = none then
    (h.world.cache name).endsAfter (h.ends name) h.world.now c
  else h.ends other

/-- The hall after the next exchange of its visit of a number. -/
def advance (h : Hall) (n : Nat) (v : Visit) (faults : CacheOp → Option CacheError) : Hall where
  world := (v.step faults h.world).2
  visits := h.visits.set n { v with read := (v.step faults h.world).1 }
  ends := match v.read.call? with
    | some c => h.endsAfter (v.sender faults) (v.server.cache.getD "") c
    | none => h.ends

/-- The hall after a move. -/
def make (h : Hall) : Move → Hall
  | .wait elapsed =>
    let now := h.world.now + elapsed
    { h with world := { h.world with
        now, caches := h.world.caches.map fun c => (c.1, c.2.expire (h.ends c.1) now) } }
  | .evict name keys =>
    { h with world := h.world.setCache name ((h.world.cache name).keep keys) }
  | .database d => { h with world := { h.world with database := d } }
  | .call server name c =>
    { h with world := (h.world.cacheCall server name c).2, ends := h.endsAfter server name c }
  | .arrive server code =>
    { h with visits := h.visits ++ [⟨server, code, .start server.readThroughTtl code⟩] }
  | .proceed n faults =>
    match h.visits[n]? with
    | some v => h.advance n v faults
    | none => h

end Hall

/-! ## What a move can do -/

theorem World.cacheCall_now (w : World) (i : Instance) (name : String) (call : CacheCall) :
    (w.cacheCall i name call).2.now = w.now := by
  unfold cacheCall
  cases i.faults call.op <;> rfl

namespace MenuRead

/-- An exchange leaves caches as the call that it makes. -/
theorem step_cache (i : Instance) (name : String) (read : MenuRead) (w : World) (other : String) :
    (read.step i name w).2.cache other = match read.call? with
      | some c => (w.cacheCall i name c).2.cache other
      | none => w.cache other := by
  cases read with
  | lookup key next =>
    dsimp only [step, call?]
    rw [w.cacheGet_snd]
  | _ => rfl

theorem step_now (i : Instance) (name : String) (read : MenuRead) (w : World) :
    (read.step i name w).2.now = w.now := by
  cases read with
  | lookup key next =>
    dsimp only [step]
    rw [w.cacheGet_snd, w.cacheCall_now]
  | save key value ttl next => exact w.cacheCall_now ..
  | _ => rfl

end MenuRead

namespace Hall

variable {h : Hall} {m : Move} {name other key : String} {entry : CacheEntry} {i : Instance}
  {c : CacheCall}

theorem mem_dated_call (member : (key, entry) ∈
      ((h.world.cacheCall i name c).2.cache other).dated (h.endsAfter i name c other)) :
    (key, entry) ∈ (h.world.cache other).dated (h.ends other) ∨
      (other = name ∧ i.faults c.op = none ∧
        ∃ ttl, c = .set key entry.value ttl ∧ entry.expires ≤ h.world.now + ttl) := by
  unfold endsAfter at member
  by_cases here : other = name
  · subst here
    rw [World.cache_cacheCall] at member
    cases works : i.faults c.op with
    | some e => exact .inl (by simpa [works] using member)
    | none =>
      simp only [works, and_self, if_true, Option.isSome_none, Bool.false_eq_true, if_false]
        at member
      exact (CacheStore.mem_dated_call member).imp id fun told => ⟨rfl, rfl, told⟩
  · rw [World.cache_cacheCall_of_ne here, if_neg fun both => here both.1] at member
    exact .inl member

theorem alive_call (alive : (h.world.cache other).Alive (h.ends other) h.world.now key) :
    ((h.world.cacheCall i name c).2.cache other).Alive (h.endsAfter i name c other) h.world.now
      key := by
  unfold endsAfter
  by_cases here : other = name
  · subst here
    rw [World.cache_cacheCall]
    cases works : i.faults c.op with
    | some e => simpa [works] using alive
    | none => simpa [works] using CacheStore.alive_call alive
  · rw [World.cache_cacheCall_of_ne here, if_neg fun both => here both.1]
    exact alive

theorem cache_wait (h : Hall) (elapsed : Nanos) (name : String) :
    (h.make (.wait elapsed)).world.cache name =
      (h.world.cache name).expire (h.ends name) (h.world.now + elapsed) :=
  h.world.cache_map _ (fun name cache => cache.expire (h.ends name) (h.world.now + elapsed))
    (fun _ => rfl) name

theorem cache_evict (h : Hall) (shrunk : String) (keys : String → Bool) (name : String) :
    (h.make (.evict shrunk keys)).world.cache name =
      if name = shrunk then (h.world.cache name).keep keys else h.world.cache name := by
  split
  · rename_i here
    subst here
    exact World.cache_setCache ..
  · rename_i apart
    exact World.cache_setCache_of_ne apart _

theorem make_proceed_of_there {n : Nat} {v : Visit} (there : h.visits[n]? = some v)
    (faults : CacheOp → Option CacheError) :
    h.make (.proceed n faults) = h.advance n v faults := by
  unfold make
  simp only [there]

theorem visit_advance {n : Nat} {v : Visit} (there : h.visits[n]? = some v)
    (faults : CacheOp → Option CacheError) :
    (h.advance n v faults).visits[n]? = some { v with read := (v.step faults h.world).1 } :=
  List.getElem?_set_self (List.getElem?_eq_some_iff.1 there).1

/-- The read of a number makes its exchange, if there is one. -/
theorem make_proceed (h : Hall) (n : Nat) (faults : CacheOp → Option CacheError) :
    (∃ v, h.visits[n]? = some v ∧ h.make (.proceed n faults) = h.advance n v faults) ∨
      h.make (.proceed n faults) = h := by
  cases there : h.visits[n]? with
  | some v => exact .inl ⟨v, rfl, make_proceed_of_there there faults⟩
  | none =>
    unfold make
    exact .inr (by simp only [there])

theorem cache_advance (h : Hall) (n : Nat) (v : Visit) (faults : CacheOp → Option CacheError)
    (name : String) : (h.advance n v faults).world.cache name = match v.read.call? with
      | some c => (h.world.cacheCall (v.sender faults) (v.server.cache.getD "") c).2.cache name
      | none => h.world.cache name :=
  v.read.step_cache ..

theorem now_advance (h : Hall) (n : Nat) (v : Visit) (faults : CacheOp → Option CacheError) :
    (h.advance n v faults).world.now = h.world.now :=
  v.read.step_now ..

theorem now_proceed (h : Hall) (n : Nat) (faults : CacheOp → Option CacheError) :
    (h.make (.proceed n faults)).world.now = h.world.now := by
  rcases h.make_proceed n faults with ⟨v, -, made⟩ | idle
  · rw [made, now_advance]
  · rw [idle]

/-- An entry that a cache holds after a move was there before, or the move is a call that sets it.
-/
theorem mem_dated_make
    (member : (key, entry) ∈ ((h.make m).world.cache name).dated ((h.make m).ends name)) :
    (key, entry) ∈ (h.world.cache name).dated (h.ends name) ∨
    (∃ server ttl, m = .call server name (.set key entry.value ttl)) ∨
    ∃ n faults v ttl next, m = .proceed n faults ∧ faults .set = none ∧ h.visits[n]? = some v ∧
      v.server.cache.getD "" = name ∧ v.read = .save key entry.value ttl next ∧
      entry.expires ≤ h.world.now + ttl := by
  cases m with
  | wait elapsed =>
    rw [cache_wait] at member
    exact .inl (CacheStore.mem_dated_expire member)
  | evict shrunk keys =>
    rw [cache_evict] at member
    split at member
    · exact .inl (CacheStore.mem_dated_keep member)
    · exact .inl member
  | database d => exact .inl member
  | arrive server code => exact .inl member
  | call server asked c =>
    rcases mem_dated_call member with old | ⟨rfl, -, ttl, rfl, -⟩
    · exact .inl old
    · exact .inr (.inl ⟨server, ttl, rfl⟩)
  | proceed n faults =>
    rcases h.make_proceed n faults with ⟨v, there, made⟩ | idle
    · rw [made, cache_advance, advance] at member
      cases asked : v.read.call? with
      | none =>
        rw [asked] at member
        exact .inl member
      | some c =>
        rw [asked] at member
        rcases mem_dated_call member with old | ⟨named, works, ttl, rfl, within⟩
        · exact .inl old
        · obtain ⟨next, read⟩ := MenuRead.call?_eq_set asked
          exact .inr (.inr ⟨n, faults, v, ttl, next, rfl, works, there, named.symm, read, within⟩)
    · rw [idle] at member
      exact .inl member

/-- What a cache holds under a key does not outlive its end. -/
theorem alive_make (m : Move)
    (alive : (h.world.cache name).Alive (h.ends name) h.world.now key) :
    ((h.make m).world.cache name).Alive ((h.make m).ends name) (h.make m).world.now key := by
  cases m with
  | wait elapsed =>
    rw [cache_wait]
    exact CacheStore.alive_expire
  | evict shrunk keys =>
    rw [cache_evict]
    split
    · exact CacheStore.alive_keep alive
    · exact alive
  | database d => exact alive
  | arrive server code => exact alive
  | call server asked c =>
    unfold make
    dsimp only
    rw [World.cacheCall_now]
    exact alive_call alive
  | proceed n faults =>
    rcases h.make_proceed n faults with ⟨v, -, made⟩ | idle
    · rw [made, cache_advance, now_advance, advance]
      cases v.read.call? with
      | none => exact alive
      | some c => exact alive_call alive
    · rw [idle]
      exact alive

/-- A visit after a move was there before, or has just begun, or has made one exchange. -/
theorem visits_make {n : Nat} {v : Visit} (there : (h.make m).visits[n]? = some v) :
    h.visits[n]? = some v ∨
    (m = .arrive v.server v.code ∧ v.read = .start v.server.readThroughTtl v.code) ∨
    ∃ faults u, m = .proceed n faults ∧ h.visits[n]? = some u ∧
      v = { u with read := (u.step faults h.world).1 } := by
  cases m with
  | arrive server code =>
    change (h.visits ++ [_])[n]? = some v at there
    by_cases before : n < h.visits.length
    · rw [List.getElem?_append_left before] at there
      exact .inl there
    · rw [List.getElem?_append_right (Nat.le_of_not_lt before), List.getElem?_singleton] at there
      split at there
      · have same := Option.some.inj there
        exact .inr (.inl ⟨by rw [← same], by rw [← same]⟩)
      · cases there
  | proceed k faults =>
    rcases h.make_proceed k faults with ⟨u, reading, made⟩ | idle
    · rw [made] at there
      by_cases here : k = n
      · subst here
        rw [visit_advance reading] at there
        cases there
        exact .inr (.inr ⟨faults, u, rfl, reading, rfl⟩)
      · rw [advance, List.getElem?_set_ne here] at there
        exact .inl there
    · rw [idle] at there
      exact .inl there
  | _ => exact .inl there

end Hall

/-! ## Reads that are not disturbed -/

namespace MenuRead

/-- A read that is done after so many exchanges, whatever it is answered. -/
inductive Within : Nat → MenuRead → Prop
  | done {k : Nat} {answer : Except ApiError Menu} : Within k (done answer)
  | lookup {k : Nat} {key : String} {next : Except CacheError (Option String) → MenuRead}
      (short : ∀ answer, (next answer).Within k) : Within (k + 1) (lookup key next)
  | load {k : Nat} {code : String} {next : Except ApiError Menu → MenuRead}
      (short : ∀ answer, (next answer).Within k) : Within (k + 1) (load code next)
  | save {k : Nat} {key value : String} {ttl : Nanos} {next : MenuRead}
      (short : next.Within k) : Within (k + 1) (save key value ttl next)

theorem within_loadAndSave (code : String) (ttl : Nanos) : (loadAndSave code ttl).Within 2 := by
  refine .load fun answer => ?_
  cases answer with
  | error e => exact .done
  | ok m => exact .save .done

theorem within_throughCache (code : String) (ttl : Nanos) : (throughCache code ttl).Within 3 := by
  refine .lookup fun answer => ?_
  cases cached? answer with
  | some m => exact .done
  | none => exact within_loadAndSave code ttl

/-- A menu read takes a lookup, a load and a save at most. -/
theorem within_start (ttl : Option Nanos) (code : String) : (start ttl code).Within 3 := by
  rcases start_cases ttl code with ⟨e, read⟩ | ⟨-, read⟩ | ⟨life, -, read⟩
  all_goals rw [read]
  · exact .done
  · exact .load fun answer => .done
  · exact within_throughCache _ life

theorem Within.step {k : Nat} {read : MenuRead} (short : read.Within (k + 1)) (i : Instance)
    (name : String) (w : World) : (read.step i name w).1.Within k := by
  cases short with
  | done => exact .done
  | lookup short => exact short _
  | load short => exact short _
  | save short => exact short

end MenuRead

namespace Hall

variable {h : Hall} {n : Nat}

/-- Once it makes its exchanges undisturbed, a visit comes to what its server answers. -/
theorem carry_through {i : Instance} {code : String} {read : MenuRead} {k : Nat}
    (there : h.visits[n]? = some ⟨i, code, read⟩) (short : read.Within k) :
    ((List.replicate k (.proceed n i.faults)).foldl make h).world =
        (read.run i (i.cache.getD "") h.world).2 ∧
      ((List.replicate k (.proceed n i.faults)).foldl make h).visits[n]? =
        some ⟨i, code, .done (read.run i (i.cache.getD "") h.world).1⟩ := by
  induction k generalizing h read with
  | zero =>
    cases short
    exact ⟨rfl, there⟩
  | succ k ih =>
    rw [List.replicate_succ, List.foldl_cons, make_proceed_of_there there, MenuRead.run_step]
    exact ih (visit_advance there _) (short.step ..)

theorem visit_arrive (h : Hall) (i : Instance) (code : String) :
    (h.make (.arrive i code)).visits[h.visits.length]? =
      some ⟨i, code, .start i.readThroughTtl code⟩ :=
  List.getElem?_concat_length ..

end Hall

/-! ## Moves of servers -/

namespace Service

/-- A service that does what some moves do. -/
def Made {α : Type} (m : Service α) : Prop :=
  ∀ h : Hall, ∃ moves : List Move, (∀ move ∈ moves, move.Proper) ∧
    (moves.foldl Hall.make h).world = (m h.world).2

variable {α β : Type} {m : Service α} {k : α → Service β}

theorem db_made (m : Db α) : (Service.db m).Made := by
  intro h
  refine ⟨[.database (m h.world.database).2], fun move member => ?_, rfl⟩
  obtain rfl := List.mem_singleton.1 member
  trivial

theorem check_made (c : Except ApiError α) : (Service.check c).Made :=
  fun _ => ⟨[], fun _ member => absurd member List.not_mem_nil, rfl⟩

theorem pure_made (a : α) : (pure a : Service α).Made :=
  fun _ => ⟨[], fun _ member => absurd member List.not_mem_nil, rfl⟩

theorem Made.map (made : m.Made) (f : α → β) : (f <$> m).Made := by
  intro h
  rw [map_apply]
  exact made h

theorem Made.bind (made : m.Made) (next : ∀ a, (k a).Made) : (m >>= k).Made := by
  intro h
  obtain ⟨first, proper, came⟩ := made h
  rw [bind_apply]
  split
  all_goals
    rename_i a w ran
    rw [ran] at came
  · obtain ⟨rest, proper', came'⟩ := next a (first.foldl Hall.make h)
    refine ⟨first ++ rest, fun move member => ?_, ?_⟩
    · exact (List.mem_append.1 member).elim (proper move) (proper' move)
    · rw [List.foldl_append, came', came]
  · exact ⟨first, proper, came⟩

end Service

namespace Instance

variable (i : Instance)

/-- To read a menu is to visit and to make all exchanges. -/
theorem getMenu_made (code : String) : (i.getMenu code).Made := by
  intro h
  refine ⟨.arrive i code :: List.replicate 3 (.proceed h.visits.length i.faults),
    fun move member => ?_, ?_⟩
  · rcases List.mem_cons.1 member with rfl | member
    · trivial
    · obtain rfl := List.eq_of_mem_replicate member
      trivial
  · have carried := Hall.carry_through (h.visit_arrive i code)
      (MenuRead.within_start i.readThroughTtl code)
    rw [List.foldl_cons]
    exact carried.1

/-- To drop a saved menu is to call the cache. -/
theorem invalidateMenu_made (code : String) : (i.invalidateMenu code).Made := by
  intro h
  have idle : ∃ moves : List Move, (∀ move ∈ moves, move.Proper) ∧
      (moves.foldl Hall.make h).world = h.world :=
    ⟨[], fun _ member => absurd member List.not_mem_nil, rfl⟩
  cases cached : i.cache with
  | none =>
    have ran : (i.invalidateMenu code h.world).2 = h.world := by
      simp only [Instance.invalidateMenu, Service.change, cached]
    rw [ran]
    exact idle
  | some name =>
    have ran : (i.invalidateMenu code h.world).2 =
        if (Text.trim code).isEmpty then h.world
        else (h.world.cacheCall i name (.del [menuKey (Text.trim code)])).2 := by
      simp only [Instance.invalidateMenu, Service.change, cached]
    rw [ran]
    split
    · exact idle
    · refine ⟨[.call i name (.del [menuKey (Text.trim code)])], fun move member => ?_, rfl⟩
      obtain rfl := List.mem_singleton.1 member
      trivial

theorem editItem_made (edit : Db (String × Item)) : (i.editItem edit).Made :=
  (Service.db_made edit).bind fun found =>
    (i.invalidateMenu_made found.1).bind fun _ => Service.pure_made _

end Instance

/-- Whatever a server is asked, it makes moves, none of which sets the key of a menu past a read. -/
theorem Call.run_made (i : Instance) (c : Call) : (c.run i).Made := by
  cases c with
  | getMenu code => exact (i.getMenu_made code).map _
  | dropMenu code => exact (i.invalidateMenu_made code).map _
  | resolveTable token => exact ((Service.db_made _).bind fun _ => Service.pure_made _).map _
  | health =>
    have marked : i.health.Made := fun h => (Service.db_made (Db.run .mark)) h
    exact marked.map _
  | placeOrder fresh r => exact ((Service.db_made _).bind fun _ => Service.pure_made _).map _
  | createOrder fresh r => exact (Service.db_made _).map _
  | listOrders user q =>
    exact ((Service.check_made _).bind fun _ => (Service.check_made _).bind fun _ =>
      (Service.db_made _).bind fun _ => Service.pure_made _).map _
  | listPage tenantId status token asked => exact (Service.db_made _).map _
  | getOrder user id =>
    exact ((Service.check_made _).bind fun _ =>
      (Service.db_made _).bind fun _ => Service.pure_made _).map _
  | findOrder tenantId id => exact (Service.db_made _).map _
  | updateOrderStatus user id u =>
    exact ((Service.check_made _).bind fun _ => (Service.check_made _).bind fun _ =>
      (Service.db_made _).bind fun _ => Service.pure_made _).map _
  | setStatus tenantId id status => exact (Service.db_made _).map _
  | patchItem user id p =>
    exact ((Service.check_made _).bind fun _ => i.editItem_made _).map _
  | setItemAvailability user id a =>
    exact ((Service.check_made _).bind fun _ => i.editItem_made _).map _

end Tableside
