import Tableside.Cache.Address
import Tableside.Cache.Backend
import Tableside.Host
import Tableside.Store.Migration

/-!
The programs that set a server up: migrating the database, filling it with a restaurant to try
things on, and starting the server.

A program works on a database and ends with an exit code and what it printed. Every failure ends
with code one and one line that says why. The server migrates the database, opens its cache and
reads the address it listens on; listening itself is not part of it.
-/

namespace Tableside

/-- The programs. -/
inductive Program
  | migrate
  | seed
  | server
deriving DecidableEq, Repr

/-- How a program ended. -/
structure Outcome where
  exit : Nat
  stdout : String
  stderr : String
deriving DecidableEq, Repr, Inhabited

/-- Why a program failed. -/
inductive CommandError
  | config (e : ConfigError)
  | unknownCommand (word : String)
  | database
  /-- No cache server can be used at the address. -/
  | cache (address : String)
  | host
deriving DecidableEq, Repr

namespace CommandError

/-- The text of a failure. -/
def message : CommandError → String
  | config e => e.message
  | unknownCommand word => "unknown command '" ++ word ++ "', expected 'up' or 'down'"
  | database => "Execution Error"
  | cache address => "cache backend error: " ++ ServerAddress.refusal address
  | host => "invalid IP address syntax"

end CommandError

namespace Outcome

/-- A program that did its work and printed lines. -/
def success (lines : List String) : Outcome :=
  ⟨0, String.join (lines.map (· ++ "\n")), ""⟩

/-- A program that failed. -/
def failure (e : CommandError) : Outcome :=
  ⟨1, "", "Error: " ++ e.message ++ "\n"⟩

end Outcome

namespace Command

/-- Runs a statement of a program. -/
def run (s : Statement α) (d : Database) : Except CommandError α × Database :=
  match d.execute s with
  | (.ok a, d) => (.ok a, d)
  | (.error _, d) => (.error .database, d)

/-! ## Migrating -/

/-- What the first word after the name of the program asks for; nothing asks for migrating up. -/
def direction (args : List String) : Except CommandError (Statement Unit) :=
  match args.head? with
  | none => .ok .migrateUp
  | some "up" => .ok .migrateUp
  | some "down" => .ok .migrateDown
  | some word => .error (.unknownCommand word)

/-- Migrates the database up or down. -/
def migrate (args : List String) (d : Database) : Outcome × Database :=
  match direction args with
  | .error e => (.failure e, d)
  | .ok s =>
    match run s d with
    | (.ok _, d) => (.success [], d)
    | (.error e, d) => (.failure e, d)

/-! ## A restaurant to try things on -/

/-- The code of the restaurant. -/
def seedCode : String := "demo"

/-- The categories of the restaurant with their sort numbers, and their items with prices. -/
def seedMenu : List (String × Int32 × List (String × Int64)) :=
  [("Coffee", 1, [("Espresso", 3500), ("Cappuccino", 4500), ("Latte", 4800)]),
    ("Pastry", 2, [("Croissant", 3000), ("Banana Bread", 3200)])]

/-- What is made up for the restaurant: its time, and identifiers by number. -/
structure SeedIds where
  now : Instant
  id : Nat → Uuid

/-- The rows of a category and its items; identifiers are taken from `next` on. -/
def seedCategory (ids : SeedIds) (tenantId : Uuid) (next : Nat) (name : String) (sort : Int32)
    (items : List (String × Int64)) : List (Statement Unit) :=
  .insertCategory ⟨ids.id next, tenantId, name, sort, true⟩ ::
    (items.zipIdx (next + 1)).map fun ((item, price), k) =>
      .insertItem ⟨ids.id k, tenantId, ids.id next, item, none, price, true⟩

/-- The rows of a list of categories. -/
def seedCategories (ids : SeedIds) (tenantId : Uuid) :
    (next : Nat) → List (String × Int32 × List (String × Int64)) → List (Statement Unit)
  | _, [] => []
  | next, (name, sort, items) :: rest =>
    seedCategory ids tenantId next name sort items ++
      seedCategories ids tenantId (next + items.length + 1) rest

/-- The token of the restaurant's table. -/
def seedToken (ids : SeedIds) : String := (ids.id 2).simpleText

/-- All rows of the restaurant. -/
def seedRows (ids : SeedIds) : List (Statement Unit) :=
  let tenantId := ids.id 0
  .insertTenant ⟨tenantId, seedCode, "Demo Cafe", ids.now⟩ ::
    .insertTable ⟨⟨ids.id 1, tenantId, "T1", "Table 1", true⟩, seedToken ids⟩ ::
    seedCategories ids tenantId 3 seedMenu

/-- What is printed on the way. -/
def seedLines (ids : SeedIds) : List String :=
  ("Ensured tenant " ++ seedCode) ::
    (seedMenu.map fun (name, _, items) => s!"Seeded category {name} with {items.length} items") ++
    ["Seed completed. Tenant ID: " ++ (ids.id 0).text ++ ", table token: " ++ seedToken ids]

/-- Runs statements up to the first failure. -/
def runAll : List (Statement Unit) → Database → Except CommandError Unit × Database
  | [], d => (.ok (), d)
  | s :: rest, d =>
    match run s d with
    | (.ok _, d) => runAll rest d
    | (.error e, d) => (.error e, d)

/-- Migrates the database and adds the restaurant unless it is there. -/
def seed (ids : SeedIds) (d : Database) : Outcome × Database :=
  match run .migrateUp d with
  | (.error e, d) => (.failure e, d)
  | (.ok _, d) =>
    match run (.select .tenant fun s => s.tenantByCode? seedCode) d with
    | (.error e, d) => (.failure e, d)
    | (.ok (some tenant), d) =>
      (.success ["Tenant '" ++ seedCode ++ "' already seeded (id " ++ tenant.id.text ++ ")"], d)
    | (.ok none, d) =>
      match runAll (seedRows ids) d with
      | (.ok _, d) => (.success (seedLines ids), d)
      | (.error e, d) => (.failure e, d)

/-! ## Starting the server -/

/-- Migrates the database, opens the cache and reads the address. -/
def startServer (config : AppConfig) (d : Database) : Outcome × Database :=
  match run .migrateUp d with
  | (.error e, d) => (.failure e, d)
  | (.ok _, d) =>
    match CacheStore.open? config.cache fun _ => none with
    | .error _ => (.failure (.cache (config.cache.redisUrl.getD "")), d)
    | .ok _ => if Host.isAddress config.host then (.success [], d) else (.failure .host, d)

end Command

/-- Runs a program with its arguments and variables on a database. -/
def Program.run (p : Program) (args : List String) (env : Environment) (ids : Command.SeedIds)
    (d : Database) : Outcome × Database :=
  match AppConfig.ofEnvironment env with
  | .error e => (.failure (.config e), d)
  | .ok config =>
    match p with
    | .migrate => Command.migrate args d
    | .seed => Command.seed ids d
    | .server => Command.startServer config d

end Tableside
