import Tableside.Proofs.Calls
import Tableside.Proofs.Snapshot

/-!
# Menus from caches

A cache that servers share holds nothing but snapshots of menus as the database has them
(`CacheStore.Coherent`). Menu reads, saves that fail, entries that die and edits followed by a drop
keep it so; an edit touches the menu of one code only, and this is the code that is dropped. Hence
menus from a cache are menus from the database (`Instance.getMenu_coherent`), and a run of calls
answers as it would without any cache.
-/

namespace Tableside

/-! ## What caches hold -/

theorem menuKey_inj {code code' : String} (same : menuKey code = menuKey code') : code = code' := by
  have chars := congrArg String.toList same
  simp only [menuKey, String.toList_append, List.append_cancel_left_eq] at chars
  exact String.toList_inj.1 chars

namespace RedisServer

theorem failing_erase (server : RedisServer) (keys : List String) :
    (keys.foldl erase server).failing = server.failing := by
  induction keys generalizing server with
  | nil => rfl
  | cons key rest ih => exact ih (server.erase key)

theorem failing_answer (server : RedisServer) (command : RedisCommand) :
    (server.answer command).2.failing = false := by
  unfold answer
  split
  · rfl
  · rename_i works
    have works : server.failing = false := Bool.eq_false_iff.2 works
    cases command with
    | del keys => exact (server.failing_erase keys).trans works
    | ping => exact works
    | get key => exact works
    | setFor key value millis => exact works

end RedisServer

namespace CacheStore

/-- The texts of a cache with their keys, whether or not they still live. -/
def texts : CacheStore → List (String × String)
  | memory cache => cache.entries.map fun e => (e.1, e.2.value)
  | redis server => server.entries

/-- Whether the next command to a cache is carried out. -/
def Ready : CacheStore → Prop
  | memory _ => True
  | redis server => server.failing = false

variable {cache : CacheStore} {now : Nanos} {key : String} {e : String × String}

theorem ready_call (ready : cache.Ready) (c : CacheCall) : (cache.call now c).2.Ready := by
  cases cache with
  | memory cache => trivial
  | redis server =>
    change (server.call c).2.failing = false
    unfold RedisServer.call
    cases RedisServer.commandFor? c with
    | none => exact ready
    | some command => exact server.failing_answer command

/-- A text that is answered is one that is held. -/
theorem mem_texts_of_get {text : String}
    (answer : (cache.call now (.get key)).1 = .ok (.value (some text))) :
    (key, text) ∈ cache.texts := by
  cases cache with
  | memory cache =>
    have found : cache.get now key = some text := by
      simpa [call, MemoryCache.call] using answer
    unfold MemoryCache.get at found
    split at found
    · rename_i entry looked
      split at found
      · cases found
        obtain ⟨before, after, entries, -⟩ := List.lookup_eq_some_iff.1 looked
        have member : (key, entry) ∈ cache.entries := by
          rw [entries]
          exact List.mem_append_right _ List.mem_cons_self
        exact List.mem_map.2 ⟨(key, entry), member, rfl⟩
      · cases found
    · cases found
  | redis server =>
    simp only [call, RedisServer.call, RedisServer.commandFor?, RedisServer.answer] at answer
    split at answer
    · cases answer
    · have looked : server.entries.lookup key = some text := by simpa using answer
      obtain ⟨before, after, entries, -⟩ := List.lookup_eq_some_iff.1 looked
      rw [texts, entries]
      exact List.mem_append_right _ List.mem_cons_self

theorem texts_get : (cache.call now (.get key)).2.texts = cache.texts := by
  cases cache with
  | memory cache => rfl
  | redis server =>
    simp only [call, RedisServer.call, RedisServer.commandFor?, RedisServer.answer]
    split <;> rfl

theorem mem_texts_erase_memory {cache : MemoryCache}
    (member : e ∈ (memory (cache.erase key)).texts) :
    e ∈ (memory cache).texts ∧ e.1 ≠ key := by
  obtain ⟨entry, there, rfl⟩ := List.mem_map.1 member
  obtain ⟨there, other⟩ := List.mem_filter.1 there
  exact ⟨List.mem_map_of_mem there, bne_iff_ne.1 other⟩

theorem mem_texts_erase_redis {server : RedisServer}
    (member : e ∈ (redis (server.erase key)).texts) :
    e ∈ (redis server).texts ∧ e.1 ≠ key := by
  obtain ⟨there, other⟩ := List.mem_filter.1 member
  exact ⟨there, bne_iff_ne.1 other⟩

/-- A deletion takes the texts of its key away. -/
theorem mem_texts_del (ready : cache.Ready)
    (member : e ∈ (cache.call now (.del [key])).2.texts) : e ∈ cache.texts ∧ e.1 ≠ key := by
  cases cache with
  | memory cache => exact mem_texts_erase_memory member
  | redis server =>
    change server.failing = false at ready
    refine mem_texts_erase_redis ?_
    simpa [call, RedisServer.call, RedisServer.commandFor?, RedisServer.answer, ready] using member

/-- Setting a key adds at most the text that is set. -/
theorem mem_texts_set {value : String} {ttl : Nanos}
    (member : e ∈ (cache.call now (.set key value ttl)).2.texts) :
    e = (key, value) ∨ e ∈ cache.texts := by
  cases cache with
  | memory cache =>
    simp only [call, MemoryCache.call, MemoryCache.set] at member
    split at member
    · exact .inr (mem_texts_erase_memory member).1
    · rcases List.mem_cons.1 member with new | old
      · exact .inl new
      · exact .inr (mem_texts_erase_memory old).1
  | redis server =>
    change e ∈ (server.answer _).2.entries at member
    unfold RedisServer.answer at member
    split at member
    · exact .inr member
    by_cases none : min (ttl / 1000000) (UInt64.size - 1) = 0
    · rw [if_pos none] at member
      exact .inr (mem_texts_erase_redis member).1
    · rw [if_neg none] at member
      rcases List.mem_cons.1 member with new | old
      · exact .inl new
      · exact .inr (mem_texts_erase_redis old).1

theorem mem_texts_keep {keys : String → Bool} (member : e ∈ (cache.keep keys).texts) :
    e ∈ cache.texts := by
  cases cache with
  | memory cache =>
    obtain ⟨entry, there, rfl⟩ := List.mem_map.1 member
    exact List.mem_map_of_mem (List.mem_filter.1 there).1
  | redis server => exact (List.mem_filter.1 member).1

end CacheStore

/-! ## Menus that stay -/

namespace Catalog

variable {s : Store} {tenantId id : Uuid}

/-- Rows that a question passes over, before and after a change, do not count for it. -/
theorem filter_map_outside {α : Type} {l : List α} {f : α → α} {p : α → Bool}
    (outside : ∀ x ∈ l, f x = x ∨ (p x = false ∧ p (f x) = false)) :
    (l.map f).filter p = l.filter p := by
  induction l with
  | nil => rfl
  | cons x rest ih =>
    have others := ih fun y member => outside y (List.mem_cons_of_mem x member)
    rcases outside x List.mem_cons_self with same | ⟨before, after⟩
    · rw [List.map_cons, same, List.filter_cons, List.filter_cons, others]
    · rw [List.map_cons, List.filter_cons_of_neg (by simp [after]),
        List.filter_cons_of_neg (by simp [before]), others]

/-- An edit touches no menu but that of the code of the item's tenant. -/
theorem menuIn_updateItem (keyed : s.Keyed) {code other : String} {item : Item} {f : Item → Item}
    (found : editTarget s tenantId id = .ok (code, item)) (keeps : ∀ i, (f i).tenantId = i.tenantId)
    (differs : other ≠ code) : menuIn (s.updateItem item.id f) other = menuIn s other := by
  obtain ⟨⟨tenant, member, named, coded⟩, there, -, own⟩ := editTarget_eq_ok found
  have tenants : (s.updateItem item.id f).tenantByCode? other = s.tenantByCode? other := rfl
  rw [menuIn, menuIn, tenants]
  cases asked : s.tenantByCode? other with
  | none => rfl
  | some owner =>
    obtain ⟨present, spelled⟩ := Store.tenantByCode?_eq_some asked
    have apart : owner.id ≠ item.tenantId := by
      intro same
      have one : owner = tenant :=
        eq_of_key_eq (keyed.ids .tenant) present member (by rw [same, own, named])
      rw [one, coded] at spelled
      exact differs spelled.symm
    have items : activeItems (s.updateItem item.id f) owner.id = activeItems s owner.id := by
      unfold activeItems
      rw [Store.updateItem, filter_map_outside]
      intro i within
      by_cases here : i.id = item.id
      · obtain rfl := eq_of_key_eq (keyed.ids .item) within there here
        refine .inr ⟨?_, ?_⟩
        · simp [apart.symm]
        · simp [keeps, apart.symm]
      · exact .inl (if_neg here)
    dsimp only
    rw [items]
    rfl

/-- A menu changes only by an edit that is carried out for its code. -/
theorem menuIn_step (keyed : s.Keyed) (c : Call) (code : String) :
    menuIn (c.step s) code = menuIn s code ∨
      ∃ tenantId id f item, c.edits = some (tenantId, id, f) ∧
        editTarget s tenantId id = .ok (code, item) := by
  rw [Call.step]
  rcases c.effect_cases s with idle | ⟨fresh, r, row, lines, -, -, changed⟩ |
    ⟨tenantId, id, status, row, -, -, changed, -⟩ |
    ⟨tenantId, id, f, owner, item, asked, found, changed, -⟩
  · rw [idle]
    exact .inl rfl
  · rw [changed]
    exact .inl rfl
  · rw [changed]
    exact .inl rfl
  · by_cases here : code = owner
    · exact .inr ⟨tenantId, id, f, item, asked, here ▸ found⟩
    · obtain ⟨-, -, same, -⟩ := editTarget_eq_ok found
      rw [changed, ← same]
      exact .inl (menuIn_updateItem keyed found (fun i => (Call.edits_keep asked i).2) here)

end Catalog

/-! ## Coherent caches -/

/-- What a cache may hold: under the key of a trimmed code the snapshot of the menu of this code. -/
def Catalog.Current (s : Store) (e : String × String) : Prop :=
  ∃ code m, Text.trim code = code ∧ code.isEmpty = false ∧ e = (menuKey code, m.snapshot) ∧
    menuIn s code = .ok m

/-- A cache that works and holds only what it may. -/
structure CacheStore.Coherent (s : Store) (cache : CacheStore) : Prop where
  ready : cache.Ready
  current : ∀ e ∈ cache.texts, Catalog.Current s e

namespace CacheStore.Coherent

variable {s s' : Store} {cache : CacheStore} {now : Nanos} {code : String}

theorem of_empty (empty : cache = .memory .empty ∨ cache = .redis .empty) :
    cache.Coherent s := by
  rcases empty with rfl | rfl
  · exact ⟨trivial, fun e member => absurd member List.not_mem_nil⟩
  · exact ⟨rfl, fun e member => absurd member List.not_mem_nil⟩

theorem of_menus (coherent : cache.Coherent s)
    (same : ∀ code, Catalog.menuIn s' code = Catalog.menuIn s code) : cache.Coherent s' := by
  refine ⟨coherent.ready, fun e member => ?_⟩
  obtain ⟨code, m, trimmed, filled, held, menu⟩ := coherent.current e member
  exact ⟨code, m, trimmed, filled, held, (same code).trans menu⟩

theorem keep (coherent : cache.Coherent s) (keys : String → Bool) :
    (cache.keep keys).Coherent s := by
  refine ⟨?_, fun e member => coherent.current e (mem_texts_keep member)⟩
  cases cache with
  | memory cache => trivial
  | redis server => exact coherent.ready

theorem get (coherent : cache.Coherent s) (key : String) :
    (cache.call now (.get key)).2.Coherent s :=
  ⟨ready_call coherent.ready _, fun e member => coherent.current e (texts_get ▸ member)⟩

/-- What is found under the key of a code is the snapshot of its menu. -/
theorem found (coherent : cache.Coherent s) {text : String}
    (answer : (cache.call now (.get (menuKey code))).1 = .ok (.value (some text))) :
    ∃ m, text = m.snapshot ∧ Catalog.menuIn s code = .ok m := by
  obtain ⟨code', m, -, -, held, menu⟩ := coherent.current _ (mem_texts_of_get answer)
  obtain ⟨key, rfl⟩ := Prod.mk.inj held
  obtain rfl := menuKey_inj key
  exact ⟨m, rfl, menu⟩

theorem set (coherent : cache.Coherent s) (trimmed : Text.trim code = code)
    (filled : code.isEmpty = false) {m : Menu} (menu : Catalog.menuIn s code = .ok m)
    (ttl : Nanos) :
    (cache.call now (.set (menuKey code) m.snapshot ttl)).2.Coherent s := by
  refine ⟨ready_call coherent.ready _, fun e member => ?_⟩
  rcases mem_texts_set member with rfl | old
  · exact ⟨code, m, trimmed, filled, rfl, menu⟩
  · exact coherent.current e old

theorem del (coherent : cache.Coherent s) (key : String) :
    (cache.call now (.del [key])).2.Coherent s :=
  ⟨ready_call coherent.ready _, fun e member =>
    coherent.current e (mem_texts_del coherent.ready member).1⟩

/-- A store may go over to one in which a menu differs, once the texts of its code are gone. No text
is held for a code that is not trimmed, nor for the empty one. -/
theorem drop (coherent : cache.Coherent s)
    (same : ∀ other, other ≠ code → Catalog.menuIn s' other = Catalog.menuIn s other)
    (now : Nanos) :
    (if (Text.trim code).isEmpty then cache
      else (cache.call now (.del [menuKey (Text.trim code)])).2).Coherent s' := by
  split
  · rename_i empty
    refine ⟨coherent.ready, fun e member => ?_⟩
    obtain ⟨held, m, trimmed, filled, rfl, menu⟩ := coherent.current e member
    refine ⟨held, m, trimmed, filled, rfl, (same held ?_).trans menu⟩
    rintro rfl
    rw [trimmed, filled] at empty
    cases empty
  · refine ⟨ready_call coherent.ready _, fun e member => ?_⟩
    obtain ⟨member, other⟩ := mem_texts_del coherent.ready member
    obtain ⟨held, m, trimmed, filled, rfl, menu⟩ := coherent.current e member
    refine ⟨held, m, trimmed, filled, rfl, (same held ?_).trans menu⟩
    rintro rfl
    rw [trimmed] at other
    exact other rfl

end CacheStore.Coherent

/-! ## Servers that share a cache -/

namespace MenuRead

/-- A lookup gives a menu when it finds a text that is not empty and spells it. -/
theorem cached?_eq_some_iff {answer : Except CacheError (Option String)} {m : Menu} :
    cached? answer = some m ↔
      ∃ text, answer = .ok (some text) ∧ text ≠ "" ∧ Menu.ofSnapshot? text = some m := by
  constructor
  · intro hit
    unfold cached? at hit
    split at hit
    · rename_i text
      split at hit
      · cases hit
      · rename_i filled
        refine ⟨text, rfl, ?_, hit⟩
        rintro rfl
        exact filled rfl
    · cases hit
  · rintro ⟨text, rfl, filled, read⟩
    unfold cached?
    dsimp only
    rw [if_neg (by simpa using filled), read]

theorem cached?_snapshot (m : Menu) : cached? (.ok (some m.snapshot)) = some m := by
  unfold cached?
  dsimp only
  rw [m.isEmpty_snapshot, if_neg Bool.false_ne_true, m.ofSnapshot?_snapshot]

end MenuRead

/-- What is saved of a menu is read as that menu, whatever stands in it; it is never empty, so that
a read that finds it takes it for the menu and not for a miss. -/
theorem Menu.snapshot_lossless (m : Menu) :
    Json.parse Menu.decode m.snapshot = .ok m ∧ m.snapshot ≠ "" ∧
      MenuRead.cached? (.ok (some m.snapshot)) = some m := by
  refine ⟨m.parse_snapshot, fun empty => ?_, MenuRead.cached?_snapshot m⟩
  have filled := m.isEmpty_snapshot
  rw [empty] at filled
  cases filled

namespace World

variable {w : World} {name : String}

/-- The cache of a name is coherent with the database. -/
def Coherent (w : World) (name : String) : Prop :=
  (w.cache name).Coherent w.database.store

theorem cache_setCache (w : World) (name : String) (store : CacheStore) :
    (w.setCache name store).cache name = store := by
  simp [setCache, cache]

theorem cache_setCache_of_ne {other : String} (apart : other ≠ name) (store : CacheStore) :
    (w.setCache name store).cache other = w.cache other := by
  unfold setCache cache
  dsimp only
  rw [List.lookup_cons, beq_false_of_ne apart]
  dsimp only
  rw [lookup_filter_of_ne apart]

theorem cache_map (w : World) (now : Nanos) (change : String → CacheStore → CacheStore)
    (new : ∀ name, change name (.memory .empty) = .memory .empty) (name : String) :
    World.cache { w with now, caches := w.caches.map fun c => (c.1, change c.1 c.2) } name =
      change name (w.cache name) := by
  unfold cache
  dsimp only
  induction w.caches with
  | nil => exact (new name).symm
  | cons c rest ih =>
    rw [List.map_cons, List.lookup_cons, List.lookup_cons]
    cases same : name == c.1 with
    | true =>
      rw [← beq_iff_eq.1 same]
      rfl
    | false => exact ih

theorem cache_later (w : World) (elapsed : Nanos) (keys : String → Bool) (name : String) :
    (w.later elapsed keys).cache name = (w.cache name).keep keys :=
  w.cache_map (w.now + elapsed) (fun _ cache => cache.keep keys) (fun _ => rfl) name

theorem cache_cacheCall (w : World) (i : Instance) (name : String) (call : CacheCall) :
    (w.cacheCall i name call).2.cache name =
      if (i.faults call.op).isSome then w.cache name else ((w.cache name).call w.now call).2 := by
  unfold cacheCall
  cases i.faults call.op with
  | some e => rfl
  | none => exact cache_setCache ..

theorem cache_cacheCall_of_ne {other : String} (apart : other ≠ name) (i : Instance)
    (call : CacheCall) : (w.cacheCall i name call).2.cache other = w.cache other := by
  unfold cacheCall
  cases i.faults call.op with
  | some e => rfl
  | none => exact cache_setCache_of_ne apart _

/-- A text is answered only by a cache that is reached. -/
theorem answer_of_cacheGet {i : Instance} {key text : String}
    (answer : (w.cacheGet i name key).1 = .ok (some text)) :
    i.faults .get = none ∧
      ((w.cache name).call w.now (.get key)).1 = .ok (.value (some text)) := by
  unfold cacheGet cacheCall at answer
  cases faulty : i.faults (CacheCall.get key).op with
  | some e =>
    simp only [faulty] at answer
    cases answer
  | none =>
    refine ⟨faulty, ?_⟩
    simp only [faulty] at answer
    split at answer
    · rename_i found called
      cases answer
      exact congrArg Prod.fst called
    · cases answer
    · cases answer

theorem cacheGet_of_answer {i : Instance} {key : String} {text : Option String}
    (works : i.faults .get = none)
    (answer : ((w.cache name).call w.now (.get key)).1 = .ok (.value text)) :
    (w.cacheGet i name key).1 = .ok text := by
  have works : i.faults (CacheCall.get key).op = none := works
  have called : (w.cacheCall i name (.get key)).1 = .ok (.value text) := by
    simp only [cacheCall, works]
    exact answer
  unfold cacheGet
  split
  all_goals
    rename_i answered
    rw [answered] at called
    cases called
  rfl

theorem cacheGet_snd (w : World) (i : Instance) (name key : String) :
    (w.cacheGet i name key).2 = (w.cacheCall i name (.get key)).2 := by
  unfold cacheGet
  split
  all_goals
    rename_i answered
    rw [answered]

namespace Coherent

theorem of_cacheCall {i : Instance} {call : CacheCall} (coherent : w.Coherent name)
    (kept : ((w.cache name).call w.now call).2.Coherent w.database.store) :
    (w.cacheCall i name call).2.Coherent name := by
  unfold Coherent
  rw [w.cacheCall_database, cache_cacheCall]
  split
  · exact coherent
  · exact kept

theorem later (coherent : w.Coherent name) (elapsed : Nanos) (keys : String → Bool) :
    (w.later elapsed keys).Coherent name := by
  unfold Coherent
  rw [cache_later]
  exact CacheStore.Coherent.keep coherent keys

theorem guarded {α β : Type} (coherent : w.Coherent name) {c : Except ApiError β}
    {m : β → Service α} (passed : ∀ b, c = .ok b → (m b w).2.Coherent name) :
    ((Service.check c >>= m) w).2.Coherent name := by
  cases c with
  | error e => exact coherent
  | ok b => exact passed b rfl

/-- What a lookup gives is the menu of the code. -/
theorem cached (coherent : w.Coherent name) {i : Instance} {code : String} {m : Menu}
    (hit : MenuRead.cached? (w.cacheGet i name (menuKey code)).1 = some m) :
    Catalog.menuIn w.database.store code = .ok m := by
  obtain ⟨text, answer, -, read⟩ := MenuRead.cached?_eq_some_iff.1 hit
  obtain ⟨held, rfl, menu⟩ := CacheStore.Coherent.found coherent (answer_of_cacheGet answer).2
  rw [Menu.ofSnapshot?_snapshot] at read
  cases read
  exact menu

end Coherent

end World

/-- A menu read through a coherent cache is a menu read from the database, and leaves the cache
coherent. -/
theorem Instance.getMenu_coherent {i : Instance} {w : World} {name : String}
    (shared : i.cache = none ∨ i.cache = some name) (serving : w.database.Serving)
    (coherent : w.Coherent name) (code : String) :
    (i.getMenu code w).1 = Catalog.menuAnswer w.database.store code ∧
      (i.getMenu code w).2.Coherent name := by
  cases read : i.readThroughTtl with
  | none =>
    refine ⟨i.getMenu_uncached read serving code, ?_⟩
    rw [getMenu, read, MenuRead.start]
    split
    · exact coherent
    · rw [MenuRead.uncached, MenuRead.run_load _ _ serving]
      exact coherent
  | some ttl =>
    have named : i.cache = some name := by
      rcases shared with none | named
      · rw [readThroughTtl, none] at read
        cases read
      · exact named
    rw [getMenu, read, named, MenuRead.start, Catalog.menuAnswer, Option.getD_some]
    split
    · exact ⟨rfl, coherent⟩
    rename_i filled
    rw [MenuRead.throughCache, MenuRead.run_lookup]
    have same := w.cacheGet_database i name (menuKey (Text.trim code))
    have kept : (w.cacheGet i name (menuKey (Text.trim code))).2.Coherent name := by
      rw [World.cacheGet_snd]
      exact coherent.of_cacheCall (CacheStore.Coherent.get coherent _)
    cases hit : MenuRead.cached? (w.cacheGet i name (menuKey (Text.trim code))).1 with
    | some m => exact ⟨(coherent.cached hit).symm, kept⟩
    | none =>
      rw [MenuRead.loadAndSave, MenuRead.run_load _ _ (same ▸ serving), same]
      cases menu : Catalog.menuIn w.database.store (Text.trim code) with
      | error e => exact ⟨rfl, kept⟩
      | ok m =>
        dsimp only
        rw [MenuRead.run_save]
        refine ⟨rfl, World.Coherent.of_cacheCall kept ?_⟩
        exact CacheStore.Coherent.set kept (Text.trim_trim code) (Bool.eq_false_iff.2 filled)
          (same ▸ menu) ttl

/-- Dropping the saved menu of a code makes room for another menu of this code. -/
theorem Instance.invalidateMenu_coherent {i : Instance} {w : World} {name : String} {s : Store}
    (named : i.cache = some name) (deletes : i.faults .del = none)
    (coherent : (w.cache name).Coherent s) {code : String}
    (same : ∀ other, other ≠ code →
      Catalog.menuIn w.database.store other = Catalog.menuIn s other) :
    (i.invalidateMenu code w).2.Coherent name := by
  have dropped := CacheStore.Coherent.drop coherent same w.now
  have ran : (i.invalidateMenu code w).2 = if (Text.trim code).isEmpty then w
      else (w.cacheCall i name (.del [menuKey (Text.trim code)])).2 := by
    simp only [invalidateMenu, Service.change, named]
  rw [ran]
  split
  · rename_i empty
    rwa [if_pos empty] at dropped
  · rename_i filled
    rw [if_neg filled] at dropped
    have works : i.faults (CacheCall.del [menuKey (Text.trim code)]).op = none := deletes
    unfold World.Coherent
    rw [w.cacheCall_database, w.cache_cacheCall, works]
    exact dropped

/-! ## Services that ask no cache -/

namespace Service

/-- A service that leaves all caches alone. -/
def Quiet {α : Type} (m : Service α) : Prop :=
  ∀ w, (m w).2.caches = w.caches

variable {α β : Type} {m : Service α} {k : α → Service β}

theorem Quiet.db (m : Db α) : (Service.db m).Quiet := fun _ => rfl

theorem Quiet.check (c : Except ApiError α) : (Service.check c).Quiet := fun _ => rfl

theorem Quiet.pure (a : α) : (pure a : Service α).Quiet := fun _ => rfl

theorem Quiet.map (quiet : m.Quiet) (f : α → β) : (f <$> m).Quiet := by
  intro w
  rw [map_apply]
  exact quiet w

theorem Quiet.bind (quiet : m.Quiet) (next : ∀ a, (k a).Quiet) : (m >>= k).Quiet := by
  intro w
  have first := quiet w
  rw [bind_apply]
  split
  all_goals
    rename_i a w' ran
    rw [ran] at first
  · exact (next a w').trans first
  · exact first

end Service

namespace Call

/-- Whether a call is about menus: only such calls ask caches. -/
def aboutMenus : Call → Bool
  | getMenu _ | dropMenu _ | patchItem .. | setItemAvailability .. => true
  | _ => false

theorem quiet_run (i : Instance) {c : Call} (other : c.aboutMenus = false) : (c.run i).Quiet := by
  cases c
  case getMenu => cases other
  case dropMenu => cases other
  case patchItem => cases other
  case setItemAvailability => cases other
  case resolveTable token => exact .map (.bind (.db _) fun _ => .pure _) _
  case health => exact .map (fun _ => rfl) _
  case placeOrder fresh r => exact .map (.bind (.db _) fun _ => .pure _) _
  case createOrder fresh r => exact .map (.db _) _
  case listOrders user q =>
    exact .map (.bind (.check _) fun _ => .bind (.check _) fun _ => .bind (.db _) fun _ =>
      .pure _) _
  case listPage => exact .map (.db _) _
  case getOrder user id => exact .map (.bind (.check _) fun _ => .bind (.db _) fun _ => .pure _) _
  case findOrder => exact .map (.db _) _
  case updateOrderStatus user id u =>
    exact .map (.bind (.check _) fun _ => .bind (.check _) fun _ => .bind (.db _) fun _ =>
      .pure _) _
  case setStatus => exact .map (.db _) _

theorem edits_of_other {c : Call} (other : c.aboutMenus = false) : c.edits = none := by
  cases c
  case patchItem => cases other
  case setItemAvailability => cases other
  all_goals rfl

end Call

/-- An edit drops the one menu that it changes. -/
theorem Instance.editItem_coherent {i : Instance} {w : World} {name : String}
    (named : i.cache = some name) (deletes : i.faults .del = none) (keyed : w.database.store.Keyed)
    (coherent : w.Coherent name) {edit : Db (String × Item)}
    {target : Except ApiError (String × Item)} {tenantId id : Uuid} {f : Item → Item}
    (ran : edit w.database = Catalog.edited target f w.database)
    (found : ∀ there, target = .ok there →
      Catalog.editTarget w.database.store tenantId id = .ok there)
    (keeps : ∀ i, (f i).tenantId = i.tenantId) : ((i.editItem edit) w).2.Coherent name := by
  rw [editItem]
  cases target with
  | error e =>
    rw [Service.bind_of_error _ (by rw [Service.db, ran]; rfl)]
    exact coherent
  | ok there =>
    rw [Service.bind_of_ok _ (by rw [Service.db, ran]; rfl)]
    dsimp only
    obtain ⟨w', dropped, -⟩ := i.invalidateMenu_apply there.1
      { w with database :=
        { w.database with store := w.database.store.updateItem there.2.id f } }
    have made := i.invalidateMenu_coherent (w := { w with database :=
        { w.database with store := w.database.store.updateItem there.2.id f } })
      named deletes coherent
      fun other differs => Catalog.menuIn_updateItem keyed (found there rfl) keeps differs
    rw [Service.bind_of_ok _ dropped]
    rwa [dropped] at made

/-- Whatever is called, a coherent cache stays coherent. -/
theorem Call.run_coherent {i : Instance} {c : Call} {w : World} {name : String} (sound : w.Sound)
    (shared : i.cache = none ∨ i.cache = some name)
    (editors : c.edits.isSome = true → i.cache = some name) (deletes : i.faults .del = none)
    (coherent : w.Coherent name) : (c.run i w).2.Coherent name := by
  cases about : c.aboutMenus with
  | false =>
    have caches : (c.run i w).2.cache name = w.cache name := by
      rw [World.cache, Call.quiet_run i about w]
      rfl
    unfold World.Coherent
    rw [caches, c.run_database i sound.serving sound.keyed]
    refine CacheStore.Coherent.of_menus coherent fun code => ?_
    rcases Catalog.menuIn_step sound.keyed c code with same | ⟨_, _, _, _, edits, -⟩
    · exact same
    · rw [edits_of_other about] at edits
      cases edits
  | true =>
    cases c with
    | getMenu code =>
      have read := Instance.getMenu_coherent shared sound.serving coherent code
      rw [run, Service.map_apply]
      dsimp only
      exact read.2
    | dropMenu code =>
      rw [run, Service.map_apply]
      rcases shared with none | named
      · rw [Instance.invalidateMenu, none]
        exact coherent
      · exact Instance.invalidateMenu_coherent named deletes coherent fun _ _ => rfl
    | patchItem user id p =>
      rw [run, Service.map_apply, Instance.patchItem]
      refine World.Coherent.guarded coherent fun _ passed => ?_
      have named := editors (by rw [edits, if_pos (admin_of_ensureAdmin passed)]; rfl)
      exact Instance.editItem_coherent named deletes sound.keyed coherent
        (Catalog.patchItem_apply sound.serving sound.keyed user.tenantId id p)
        (fun there => Catalog.patchTarget_eq_ok) fun _ => rfl
    | setItemAvailability user id a =>
      rw [run, Service.map_apply, Instance.setItemAvailability]
      refine World.Coherent.guarded coherent fun _ passed => ?_
      have named := editors (by rw [edits, if_pos (admin_of_ensureAdmin passed)]; rfl)
      exact Instance.editItem_coherent named deletes sound.keyed coherent
        (Catalog.setAvailability_apply sound.serving sound.keyed user.tenantId id a)
        (fun there found => found) fun _ => rfl
    | _ => cases about

/-! ## Runs with and without a cache -/

namespace Turn

/-- What is promised of a turn where servers share the cache of a name: the server uses this cache
or none, a server that may edit items uses it, and deletions are carried out. Lookups and saves may
fail as they like. -/
structure Shares (name : String) (t : Turn) : Prop where
  cache : t.server.cache = none ∨ t.server.cache = some name
  editors : t.call.edits.isSome = true → t.server.cache = some name
  deletes : t.server.faults .del = none

/-- The turn on a server whose cache is turned off. -/
def uncached (t : Turn) : Turn :=
  { t with server := { t.server with cache := none } }

variable {w : World} {name : String} {t : Turn}

theorem take_uncached (t : Turn) (sound : w.Sound) :
    (t.uncached.take w).1 = (t.call.effect w.database.store).1 :=
  t.uncached.take_answer sound fun _ _ => rfl

theorem take_cached (shares : t.Shares name) (sound : w.Sound) (coherent : w.Coherent name) :
    (t.take w).1 = (t.call.effect w.database.store).1 := by
  by_cases read : ∃ code, t.call = .getMenu code
  · obtain ⟨code, asked⟩ := read
    have menu := Instance.getMenu_coherent shares.cache
      (w := w.later t.elapsed t.keys) sound.serving (coherent.later t.elapsed t.keys) code
    rw [take, asked, Call.run, Service.map_apply, menu.1]
    rfl
  · exact t.take_answer sound fun code asked => absurd ⟨code, asked⟩ read

theorem take_coherent (shares : t.Shares name) (sound : w.Sound) (coherent : w.Coherent name) :
    (t.take w).2.Coherent name :=
  Call.run_coherent ⟨sound.serving, sound.keyed⟩ shares.cache shares.editors shares.deletes
    (coherent.later t.elapsed t.keys)

end Turn

/-- A run of servers that share a coherent cache answers as a run on the same database without. -/
theorem World.play_uncached {w w' : World} {name : String} (sound : w.Sound)
    (coherent : w.Coherent name) (same : w'.database = w.database) {turns : List Turn}
    (shares : ∀ t ∈ turns, t.Shares name) :
    (w.play turns).1 = (w'.play (turns.map Turn.uncached)).1 := by
  induction turns generalizing w w' with
  | nil => rfl
  | cons t rest ih =>
    have shared := shares t List.mem_cons_self
    have sound' : w'.Sound := ⟨same ▸ sound.serving, same ▸ sound.keyed⟩
    have answer : (t.take w).1 = (t.uncached.take w').1 := by
      rw [Turn.take_cached shared sound coherent, t.take_uncached sound', same]
    have database : (t.uncached.take w').2.database = (t.take w).2.database := by
      rw [t.uncached.take_database sound', t.take_database sound, same]
      rfl
    rw [List.map_cons, play_cons, play_cons, answer,
      ih (t.take_sound sound) (Turn.take_coherent shared sound coherent) database
        fun u member => shares u (List.mem_cons_of_mem t member)]
    rfl

/-- Servers share a cache that is empty at first. Whatever is called on them, in whatever order and
with whatever time and lost entries in between, every call is answered as it is when no server has
a cache, provided that whoever edits items uses the cache and deletions from it are carried out. -/
theorem caching_invisible {w : World} (sound : w.Sound) {name : String}
    (empty : w.cache name = .memory .empty ∨ w.cache name = .redis .empty) {turns : List Turn}
    (shares : ∀ t ∈ turns, t.Shares name) :
    (w.play turns).1 = (w.play (turns.map Turn.uncached)).1 :=
  World.play_uncached sound (.of_empty empty) rfl shares

theorem caching_invisible_cafe :
    ((Sample.world []).play Sample.day).1 =
      ((Sample.world []).play (Sample.day.map Turn.uncached)).1 := by
  have shares : ∀ t ∈ Sample.day, t.Shares "menus" := by
    intro t member
    obtain ⟨c, -, rfl⟩ := List.mem_map.1 member
    exact ⟨.inr rfl, fun _ => rfl, rfl⟩
  exact caching_invisible (Sample.sound (by decide)) (.inl rfl) shares

end Tableside
