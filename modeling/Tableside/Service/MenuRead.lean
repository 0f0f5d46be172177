import Tableside.Service.World

/-!
Reading menus through the cache.

A read is a finite exchange: it looks up the key, loads the menu from the database, saves it, and is
done, each step waiting for the answer to the one before. The cache is asked once; a text that is
there, is not empty and spells a menu is the answer. Otherwise the menu is loaded, and what was
loaded is saved. No answer of the cache makes the read fail.
-/

namespace Tableside

/-- A menu read that waits for its next answer, or is done. -/
inductive MenuRead
  | done (answer : Except ApiError Menu)
  | lookup (key : String) (next : Except CacheError (Option String) → MenuRead)
  | load (code : String) (next : Except ApiError Menu → MenuRead)
  | save (key value : String) (ttl : Nanos) (next : MenuRead)

namespace MenuRead

/-- The menu that an answer of the cache holds. -/
def cached? : Except CacheError (Option String) → Option Menu
  | .ok (some text) => if text.isEmpty then none else Menu.ofSnapshot? text
  | _ => none

/-- Loads a menu without a cache. -/
def uncached (code : String) : MenuRead :=
  .load code .done

/-- Loads a menu and saves it. -/
def loadAndSave (code : String) (ttl : Nanos) : MenuRead :=
  .load code fun answer =>
    match answer with
    | .error e => .done (.error e)
    | .ok menu => .save (menuKey code) menu.snapshot ttl (.done (.ok menu))

/-- Looks a menu up and loads it if it is not there. -/
def throughCache (code : String) (ttl : Nanos) : MenuRead :=
  .lookup (menuKey code) fun answer =>
    match cached? answer with
    | some menu => .done (.ok menu)
    | none => loadAndSave code ttl

/-- The read of a code; `ttl` is the lifetime of saved menus where there is a cache to use. -/
def start (ttl : Option Nanos) (code : String) : MenuRead :=
  let code := Text.trim code
  if code.isEmpty then .done (.error (.badRequest "tenant code is required"))
  else
    match ttl with
    | some ttl => throughCache code ttl
    | none => uncached code

/-- Carries a read through on an instance, whose cache is `name`. -/
def run (i : Instance) (name : String) : MenuRead → Service Menu
  | .done answer => Service.check answer
  | .lookup key next => fun w =>
    match w.cacheGet i name key with
    | (answer, w) => run i name (next answer) w
  | .load code next => fun w =>
    match Service.db (Catalog.loadMenu code) (w.record (.load i.number code)) with
    | (answer, w) => run i name (next answer) w
  | .save key value ttl next => fun w =>
    match w.cacheCall i name (.set key value ttl) with
    | (_, w) => run i name next w

end MenuRead

namespace Instance

/-- The lifetime of saved menus, where the cache is read and written at all. -/
def readThroughTtl (i : Instance) : Option Nanos :=
  if i.cache.isSome && i.menuTtl != 0 then some i.menuTtl else none

/-- The menu of a tenant code. -/
def getMenu (i : Instance) (code : String) : Service Menu :=
  (MenuRead.start i.readThroughTtl code).run i (i.cache.getD "")

/-- Drops the saved menu of a tenant code, whatever the cache answers. -/
def invalidateMenu (i : Instance) (code : String) : Service Unit :=
  Service.change fun w =>
    let code := Text.trim code
    match i.cache with
    | none => w
    | some name =>
      if code.isEmpty then w else (w.cacheCall i name (.del [menuKey code])).2

end Instance

end Tableside
