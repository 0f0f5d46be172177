import Tableside.Proofs.Hall
import Tableside.Proofs.Outage

/-!
# The age of menus

A course is a sequence of moves in any order, where nothing but menu reads sets the keys of menus.
Whatever a cache then holds under the key of a code is a menu that a read of this code loaded and
saved, and it ends no later than the lifetime of this save (`Course.Kept`). So a read that is done
with a menu has loaded it itself, or has looked it up before its lifetime was over
(`Course.menus_in_time`), and the menu is never that of another code (`Course.menus_of_code`).
-/

namespace Tableside

/-- A menu names the tenant whose code was asked for. -/
theorem Catalog.tenant_of_menuIn {s : Store} {code : String} {m : Menu}
    (menu : menuIn s code = .ok m) : m.tenant = code := by
  unfold menuIn at menu
  cases asked : s.tenantByCode? code with
  | none =>
    rw [asked] at menu
    cases menu
  | some tenant =>
    rw [asked] at menu
    cases menu
    exact (Store.tenantByCode?_eq_some asked).2

/-! ## Courses of moves -/

/-- A course of moves, one at every instant, in a hall that no one has entered yet and where no
cache holds a menu. -/
structure Course where
  opening : Hall
  moves : Nat → Move
  idle : opening.visits = []
  bare : ∀ name code text, (menuKey code, text) ∉ (opening.world.cache name).texts
  proper : ∀ t, (moves t).Proper

/-- The server of a visit reads and writes the cache of a name and saves menus for a time. -/
structure Visit.Uses (v : Visit) (name : String) (ttl : Nanos) : Prop where
  named : v.server.cache = some name
  lifetime : v.server.readThroughTtl = some ttl

namespace Course

/-- The hall at an instant, before the move of this instant. -/
def hall (c : Course) : Nat → Hall
  | 0 => c.opening
  | t + 1 => (c.hall t).make (c.moves t)

/-- At an instant, the read of a number loads a menu for a code. -/
structure Loads (c : Course) (t n : Nat) (code : String) (m : Menu) : Prop where
  move : ∃ faults, c.moves t = .proceed n faults
  visit : ∃ v next, (c.hall t).visits[n]? = some v ∧ Text.trim v.code = code ∧
    v.read = .load code next
  menu : (Catalog.loadMenu code (c.hall t).world.database).1 = .ok m

/-- At an instant, the read of a number saves a menu for a code in the cache of a name, for a time.
-/
structure Saves (c : Course) (t n : Nat) (name code : String) (m : Menu) (ttl : Nanos) : Prop where
  move : ∃ faults, c.moves t = .proceed n faults ∧ faults .set = none
  visit : ∃ v next, (c.hall t).visits[n]? = some v ∧ v.Uses name ttl ∧
    v.read = .save (menuKey code) m.snapshot ttl next
  saved : (menuKey code, m.snapshot) ∈ ((c.hall (t + 1)).world.cache name).texts

/-- At an instant, the read of a number looks a menu up for a code in the cache of a name. -/
structure LooksUp (c : Course) (t n : Nat) (name code : String) : Prop where
  move : ∃ faults, c.moves t = .proceed n faults ∧ faults .get = none
  visit : ∃ v next, (c.hall t).visits[n]? = some v ∧ v.server.cache = some name ∧
    v.read = .lookup (menuKey code) next

/-- What a read of a code may be done with before `t`: a menu that a read of the code loaded at
`t₀`. Either this is the read itself, or it saved the menu at `t₁`, for a time that was not over
when the other one looked it up at `t₂`. -/
def Served (c : Course) (t n : Nat) (code : String) (m : Menu) : Prop :=
  ∃ t₀ k, t₀ < t ∧ c.Loads t₀ k code m ∧
    (k = n ∨ ∃ t₁ t₂ name ttl, c.Saves t₁ k name code m ttl ∧ c.LooksUp t₂ n name code ∧
      t₀ < t₁ ∧ t₁ < t₂ ∧ t₂ < t ∧ (c.hall t₂).world.now ≤ (c.hall t₁).world.now + ttl)

/-- An entry that a cache may hold for a code before `t`: a menu that a read of the code loaded at
`t₀` and saved at `t₁`, for a time that is not over before the entry ends. -/
def Kept (c : Course) (t : Nat) (name code : String) (entry : CacheEntry) : Prop :=
  ∃ t₀ t₁ k m ttl, c.Loads t₀ k code m ∧ c.Saves t₁ k name code m ttl ∧ t₀ < t₁ ∧ t₁ < t ∧
    entry.value = m.snapshot ∧ entry.expires ≤ (c.hall t₁).world.now + ttl

/-- How far a visit can be. -/
inductive Stage (c : Course) (t n : Nat) (v : Visit) : Prop
  | refused (e : ApiError) (read : v.read = .done (.error e))
  | looking (name : String) (ttl : Nanos) (uses : v.Uses name ttl)
      (read : v.read = .throughCache (Text.trim v.code) ttl)
  | loading (read : v.read = .uncached (Text.trim v.code))
  | filling (name : String) (ttl : Nanos) (uses : v.Uses name ttl)
      (read : v.read = .loadAndSave (Text.trim v.code) ttl)
  | saving (name : String) (ttl : Nanos) (uses : v.Uses name ttl) (m : Menu) (t₀ : Nat)
      (before : t₀ < t) (loads : c.Loads t₀ n (Text.trim v.code) m)
      (read : v.read = .save (menuKey (Text.trim v.code)) m.snapshot ttl (.done (.ok m)))
  | served (m : Menu) (served : c.Served t n (Text.trim v.code) m) (read : v.read = .done (.ok m))

/-- What holds at every instant of a course. -/
structure Traced (c : Course) (t : Nat) : Prop where
  visits : ∀ n v, (c.hall t).visits[n]? = some v → c.Stage t n v
  kept : ∀ name code entry,
    (menuKey code, entry) ∈ ((c.hall t).world.cache name).dated ((c.hall t).ends name) →
      c.Kept t name code entry
  alive : ∀ name code, ((c.hall t).world.cache name).Alive ((c.hall t).ends name)
    (c.hall t).world.now (menuKey code)

variable {c : Course} {t n : Nat} {v : Visit} {name code : String} {entry : CacheEntry} {m : Menu}

theorem Served.succ (served : c.Served t n code m) : c.Served (t + 1) n code m := by
  obtain ⟨t₀, k, before, loads, origin⟩ := served
  refine ⟨t₀, k, before.trans t.lt_succ_self, loads, ?_⟩
  rcases origin with own | ⟨t₁, t₂, name, ttl, saves, looks, first, second, past, inTime⟩
  · exact .inl own
  · exact .inr ⟨t₁, t₂, name, ttl, saves, looks, first, second, past.trans t.lt_succ_self, inTime⟩

theorem Kept.succ (kept : c.Kept t name code entry) : c.Kept (t + 1) name code entry := by
  obtain ⟨t₀, t₁, k, m, ttl, loads, saves, order, before, rest⟩ := kept
  exact ⟨t₀, t₁, k, m, ttl, loads, saves, order, before.trans t.lt_succ_self, rest⟩

theorem Stage.succ (stage : c.Stage t n v) : c.Stage (t + 1) n v := by
  cases stage with
  | refused e read => exact .refused e read
  | looking name ttl uses read => exact .looking name ttl uses read
  | loading read => exact .loading read
  | filling name ttl uses read => exact .filling name ttl uses read
  | saving name ttl uses m t₀ before loads read =>
    exact .saving name ttl uses m t₀ (before.trans t.lt_succ_self) loads read
  | served m served read => exact .served m served.succ read

theorem Stage.start (began : v.read = .start v.server.readThroughTtl v.code) : c.Stage t n v := by
  rcases MenuRead.start_cases v.server.readThroughTtl v.code with ⟨e, read⟩ | ⟨-, read⟩ |
    ⟨ttl, lifetime, read⟩
  · exact .refused e (began.trans read)
  · exact .loading (began.trans read)
  · obtain ⟨name, named⟩ := Instance.cache_of_readThroughTtl lifetime
    exact .looking name ttl ⟨named, lifetime⟩ (began.trans read)

/-- What a read finds in a cache was loaded and saved, in time. -/
theorem Traced.found (traced : c.Traced t) {i : Instance}
    (hit : MenuRead.cached? ((c.hall t).world.cacheGet i name (menuKey code)).1 = some m) :
    i.faults .get = none ∧ ∃ t₀ t₁ k ttl, c.Loads t₀ k code m ∧ c.Saves t₁ k name code m ttl ∧
      t₀ < t₁ ∧ t₁ < t ∧ (c.hall t).world.now ≤ (c.hall t₁).world.now + ttl := by
  obtain ⟨text, answer, -, menu⟩ := MenuRead.cached?_eq_some_iff.1 hit
  obtain ⟨works, called⟩ := World.answer_of_cacheGet answer
  obtain ⟨entry, held, rfl, lives⟩ := CacheStore.mem_dated_of_get (traced.alive name code) called
  obtain ⟨t₀, t₁, k, m', ttl, loads, saves, order, past, value, within⟩ :=
    traced.kept name code entry held
  rw [value, Menu.ofSnapshot?_snapshot] at menu
  cases menu
  exact ⟨works, t₀, t₁, k, ttl, loads, saves, order, past, lives.le.trans within⟩

/-- An exchange takes a visit to its next stage. -/
theorem Traced.proceed (traced : c.Traced t) {faults : CacheOp → Option CacheError}
    (move : c.moves t = .proceed n faults) (there : (c.hall t).visits[n]? = some v) :
    c.Stage (t + 1) n { v with read := (v.step faults (c.hall t).world).1 } := by
  have now := t.lt_succ_self
  cases traced.visits n v there with
  | refused e read => exact .refused e (Visit.step_done read ..)
  | served m served read => exact .served m served.succ (Visit.step_done read ..)
  | loading read =>
    rw [Visit.step_uncached read]
    cases loaded : (Catalog.loadMenu (Text.trim v.code) (c.hall t).world.database).1 with
    | error e => exact .refused e rfl
    | ok m =>
      have loads : c.Loads t n (Text.trim v.code) m :=
        ⟨⟨faults, move⟩, ⟨v, _, there, rfl, read⟩, loaded⟩
      exact .served m ⟨t, n, now, loads, .inl rfl⟩ rfl
  | looking name ttl uses read =>
    rw [Visit.step_throughCache uses.named read]
    cases hit : MenuRead.cached? ((c.hall t).world.cacheGet (v.sender faults) name
        (menuKey (Text.trim v.code))).1 with
    | none => exact .filling name ttl ⟨uses.named, uses.lifetime⟩ rfl
    | some m =>
      obtain ⟨works, t₀, t₁, k, lives, loads, saves, order, past, inTime⟩ := traced.found hit
      have looks : c.LooksUp t n name (Text.trim v.code) :=
        ⟨⟨faults, move, works⟩, ⟨v, _, there, uses.named, read⟩⟩
      refine .served m ⟨t₀, k, (order.trans past).trans now, loads, .inr ?_⟩ rfl
      exact ⟨t₁, t, name, lives, saves, looks, order, past, now, inTime⟩
  | filling name ttl uses read =>
    rw [Visit.step_loadAndSave read]
    cases loaded : (Catalog.loadMenu (Text.trim v.code) (c.hall t).world.database).1 with
    | error e => exact .refused e rfl
    | ok m =>
      have loads : c.Loads t n (Text.trim v.code) m :=
        ⟨⟨faults, move⟩, ⟨v, _, there, rfl, read⟩, loaded⟩
      exact .saving name ttl ⟨uses.named, uses.lifetime⟩ m t now loads rfl
  | saving name ttl uses m t₀ before loads read =>
    exact .served m ⟨t₀, n, before.trans now, loads, .inl rfl⟩ (Visit.step_save read ..)

/-- A move of a course leaves what holds at every instant. -/
theorem Traced.succ (traced : c.Traced t) : c.Traced (t + 1) where
  visits := by
    intro n v there
    rcases Hall.visits_make there with old | ⟨-, began⟩ | ⟨faults, u, move, old, rfl⟩
    · exact (traced.visits n v old).succ
    · exact .start began
    · exact traced.proceed move old
  kept := by
    intro name code entry member
    rcases Hall.mem_dated_make member with old | ⟨server, ttl, move⟩ |
      ⟨n, faults, v, ttl, next, move, works, there, named, read, within⟩
    · exact (traced.kept name code entry old).succ
    · have proper := c.proper t
      rw [move] at proper
      exact absurd rfl (proper code)
    · cases traced.visits n v there with
      | saving name' ttl' uses m t₀ before loads read' =>
        rw [uses.named, Option.getD_some] at named
        subst named
        obtain ⟨key, value, rfl, -⟩ := MenuRead.save.inj (read.symm.trans read')
        obtain rfl := menuKey_inj key
        have saved := CacheStore.mem_texts_of_dated member
        rw [value] at saved
        have saves : c.Saves t n name' (Text.trim v.code) m ttl :=
          ⟨⟨faults, move, works⟩, ⟨v, _, there, uses, read'⟩, saved⟩
        exact ⟨t₀, t, n, m, ttl, loads, saves, before, t.lt_succ_self, value, within⟩
      | refused e other => cases read.symm.trans other
      | looking name ttl uses other => cases read.symm.trans other
      | loading other => cases read.symm.trans other
      | filling name ttl uses other => cases read.symm.trans other
      | served m served other => cases read.symm.trans other
  alive := fun name code => Hall.alive_make _ (traced.alive name code)

theorem traced (c : Course) (t : Nat) : c.Traced t := by
  induction t with
  | succ t ih => exact ih.succ
  | zero =>
    refine ⟨fun n v there => ?_, fun name code entry member => ?_, fun name code => ?_⟩
    · change c.opening.visits[n]? = some v at there
      rw [c.idle] at there
      cases there
    · exact absurd (CacheStore.mem_texts_of_dated member) (c.bare name code entry.value)
    · exact CacheStore.alive_of_bare fun text => c.bare name code text

theorem Stage.served_of_done (stage : c.Stage t n v) (answered : v.read = .done (.ok m)) :
    c.Served t n (Text.trim v.code) m := by
  cases stage with
  | served m' served read =>
    cases answered.symm.trans read
    exact served
  | refused e other => cases answered.symm.trans other
  | looking name ttl uses other => cases answered.symm.trans other
  | loading other => cases answered.symm.trans other
  | filling name ttl uses other => cases answered.symm.trans other
  | saving name ttl uses m t₀ before loads other => cases answered.symm.trans other

/-- Whatever menu a read is done with, at some instant of the course a read of the same code loaded
it, and either this was the read itself, or the menu was saved for a time that was not over when the
read looked it up. -/
theorem menus_in_time (c : Course) {t n : Nat} {v : Visit} {m : Menu}
    (there : (c.hall t).visits[n]? = some v) (answered : v.read = .done (.ok m)) :
    c.Served t n (Text.trim v.code) m := by
  have stage := (c.traced t).visits n v there
  exact stage.served_of_done answered

/-- No read is done with the menu of another code. -/
theorem menus_of_code (c : Course) (there : (c.hall t).visits[n]? = some v)
    (answered : v.read = .done (.ok m)) : m.tenant = Text.trim v.code := by
  have stage := (c.traced t).visits n v there
  obtain ⟨t₀, k, -, loads, -⟩ := stage.served_of_done answered
  exact Catalog.tenant_of_menuIn (Catalog.menuIn_of_loadMenu loads.menu)

end Course

namespace Sample

def menu : Menu := ⟨"cafe", [drinks], [coffee]⟩

/-- The database once the coffee is dearer. -/
def dearer : Database :=
  { (world []).database with
    store := (store []).updateItem coffee.id fun i => { i with price := 400 } }

/-- The menu is read, the coffee gets dearer past all servers, and before the minute is over the
menu is read again. -/
def evening : Course where
  opening := ⟨world [], [], fun _ _ => 0⟩
  moves
    | 0 => .arrive server " cafe"
    | 1 | 2 | 3 => .proceed 0 server.faults
    | 4 => .database dearer
    | 5 => .wait 59000000000
    | 6 => .arrive server "cafe"
    | 7 => .proceed 1 server.faults
    | _ => .wait 0
  idle := rfl
  bare := fun _ _ _ => List.not_mem_nil
  proper := fun _ => by split <;> trivial

theorem menuIn_store : Catalog.menuIn (store []) "cafe" = .ok menu := by
  simp [Catalog.menuIn, Store.tenantByCode?, store, Catalog.activeCategories,
    Catalog.activeItems, menu, cafe, drinks, coffee]

theorem start_menu {code : String} (trimmed : Text.trim code = "cafe") :
    MenuRead.start server.readThroughTtl code = .throughCache "cafe" 60000000000 := by
  unfold MenuRead.start
  rw [trimmed]
  rfl

/-- The first read saves the menu for a minute. -/
theorem cache_evening : (evening.hall 4).world.cache "menus" =
    .memory ⟨[(menuKey "cafe", ⟨menu.snapshot, 60000000000⟩)]⟩ := by
  have came : (evening.hall 4).world = (server.getMenu " cafe" (world [])).2 :=
    (Hall.carry_through (evening.opening.visit_arrive server " cafe")
      (MenuRead.within_start ..)).1
  have named : server.cache.getD "" = "menus" := rfl
  have misses : MenuRead.cached? ((world []).cacheGet server "menus" (menuKey "cafe")).1 = none :=
    rfl
  have serving : (world []).database.Serving := (sound (by decide)).serving
  have same := (world []).cacheGet_database server "menus" (menuKey "cafe")
  have loaded : Catalog.menuIn (world []).database.store "cafe" = .ok menu := menuIn_store
  rw [came, Instance.getMenu, start_menu (by decide +kernel), named, MenuRead.throughCache,
    MenuRead.run_lookup, misses]
  dsimp only
  rw [MenuRead.loadAndSave, MenuRead.run_load _ _ (same ▸ serving), same, loaded]
  dsimp only
  rw [MenuRead.run_save, MenuRead.run, Service.check, World.cache_cacheCall]
  rfl

theorem now_evening : (evening.hall 4).world.now = 0 :=
  ((evening.hall 3).now_proceed 0 server.faults).trans
    (((evening.hall 2).now_proceed 0 server.faults).trans
      ((evening.hall 1).now_proceed 0 server.faults))

/-- The second one finds it. -/
theorem visit_evening :
    (evening.hall 8).visits[1]? = some ⟨server, "cafe", .done (.ok menu)⟩ := by
  have trimmed : Text.trim "cafe" = "cafe" := by decide +kernel
  have there : (evening.hall 7).visits[1]? =
      some ⟨server, "cafe", .throughCache "cafe" 60000000000⟩ := by
    rw [← start_menu trimmed]
    exact (evening.hall 6).visit_arrive server "cafe"
  have held : (evening.hall 7).world.cache "menus" =
      .memory ⟨[(menuKey "cafe", ⟨menu.snapshot, 60000000000⟩)]⟩ := by
    change ((evening.hall 5).make (.wait 59000000000)).world.cache "menus" = _
    rw [Hall.cache_wait]
    change ((evening.hall 4).world.cache "menus").expire _ _ = _
    rw [cache_evening]
    rfl
  have now : (evening.hall 7).world.now = 59000000000 := by
    change (evening.hall 4).world.now + 59000000000 = _
    rw [now_evening]
  have answer : ((evening.hall 7).world.cacheGet server "menus" (menuKey "cafe")).1 =
      .ok (some menu.snapshot) := by
    refine World.cacheGet_of_answer rfl ?_
    rw [held, now]
    simp [CacheStore.call, MemoryCache.call, MemoryCache.get]
  have found : (Visit.step ⟨server, "cafe", .throughCache "cafe" 60000000000⟩ server.faults
      (evening.hall 7).world).1 = .done (.ok menu) :=
    Visit.step_found rfl rfl answer
  have made : evening.hall 8 = (evening.hall 7).advance 1
      ⟨server, "cafe", .throughCache "cafe" 60000000000⟩ server.faults :=
    Hall.make_proceed_of_there there _
  rw [made, Hall.visit_advance there, found]

end Sample

namespace Course

theorem menus_in_time_cafe :
    (Sample.evening.hall 8).visits[1]? =
        some ⟨Sample.server, "cafe", .done (.ok Sample.menu)⟩ ∧
      Sample.evening.Served 8 1 (Text.trim "cafe") Sample.menu := by
  have served := Sample.evening.menus_in_time Sample.visit_evening rfl
  exact ⟨Sample.visit_evening, served⟩

end Course

end Tableside
