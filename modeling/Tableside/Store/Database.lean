import Tableside.Error
import Tableside.Store.Constraint

/-!
The database as the service sees it: statements that are answered one by one.

`Database.answers` bounds how many more statements are answered, so that a database that fails in
the middle of an operation, or is closed, is a value like any other: from then on every statement is
refused and nothing changes. `Db` runs statements in turn, and `Db.transaction` takes back every
write when a part of it fails.
-/

namespace Tableside

/-! ## The database -/

/-- Rows, and what surrounds them: which tables exist, whether the ledger of migrations exists and
says that the schema was applied, whether foreign keys are enforced, and how many more statements
are answered, none meaning all. -/
structure Database where
  store : Store
  tables : List Entity
  hasLedger : Bool
  applied : Bool
  foreignKeys : Bool
  answers : Option Nat
deriving Inhabited

namespace Database

/-- A new database, without tables. -/
def new : Database := ⟨Store.empty, [], false, false, true, none⟩

/-- The database that answers no more. -/
def close (d : Database) : Database :=
  { d with answers := some 0 }

end Database

/-! ## Statements -/

/-- A statement gives an answer and the database after it, or is refused. -/
abbrev Statement (α : Type) := Database → Except Fault (α × Database)

namespace Statement

/-- A question about a table. -/
def select (e : Entity) (ask : Store → α) : Statement α := fun d =>
  if e ∈ d.tables then .ok (ask d.store, d) else .error .unavailable

/-- A write to a table. -/
def write (e : Entity) (change : Bool → Store → Except Fault (α × Store)) : Statement α := fun d =>
  if e ∈ d.tables then
    (change d.foreignKeys d.store).map fun (a, store) => (a, { d with store })
  else .error .unavailable

/-- A write that answers nothing. -/
def writeOnly (e : Entity) (change : Bool → Store → Except Fault Store) : Statement Unit :=
  write e fun foreignKeys s => (change foreignKeys s).map fun s => ((), s)

/-- A statement without effect, such as the beginning and the end of a transaction. -/
def mark : Statement Unit := fun d => .ok ((), d)

def insertTenant (t : Tenant) : Statement Unit :=
  writeOnly .tenant fun _ s => s.insertTenant t

def insertTable (t : TableRow) : Statement Unit :=
  writeOnly .table fun foreignKeys s => s.insertTable foreignKeys t

def insertCategory (c : Category) : Statement Unit :=
  writeOnly .category fun foreignKeys s => s.insertCategory foreignKeys c

def insertItem (i : Item) : Statement Unit :=
  writeOnly .item fun foreignKeys s => s.insertItem foreignKeys i

def insertOrder (o : OrderRow) : Statement Unit :=
  writeOnly .order fun foreignKeys s => s.insertOrder foreignKeys o

def insertLine (l : LineRow) : Statement Unit :=
  writeOnly .line fun foreignKeys s => s.insertLine foreignKeys l

def updateItem (id : Uuid) (f : Item → Item) : Statement Unit :=
  writeOnly .item fun _ s => .ok (s.updateItem id f)

def updateStatus (id : Uuid) (status : OrderStatus) : Statement Unit :=
  writeOnly .order fun _ s => .ok (s.updateStatus id status)

/-- Removes a row and answers how many were named. -/
def delete (r : RowRef) : Statement Nat :=
  write r.1 fun foreignKeys s => s.delete foreignKeys r

end Statement

namespace Database

/-- Runs a statement, which takes one of the answers that are left. -/
def execute (d : Database) (s : Statement α) : Except Fault α × Database :=
  if d.answers = some 0 then (.error .unavailable, d)
  else
    let d := { d with answers := d.answers.map (· - 1) }
    match s d with
    | .ok (a, d) => (.ok a, d)
    | .error fault => (.error fault, d)

end Database

/-! ## Runs of statements -/

/-- Statements in turn, up to the first failure. -/
abbrev Db := ExceptT ApiError (StateM Database)

namespace Db

/-- One statement; a refusal is a failure of the database. -/
def run (s : Statement α) : Db α := fun d =>
  match d.execute s with
  | (.ok a, d) => (.ok a, d)
  | (.error _, d) => (.error .database, d)

/-- A question about a table. -/
def select (e : Entity) (ask : Store → α) : Db α :=
  run (Statement.select e ask)

/-- A row that must be there. -/
def find (e : Entity) (ask : Store → Option α) (missing : ApiError) : Db α := do
  match ← select e ask with
  | some a => pure a
  | none => throw missing

/-- Statements whose writes are kept only when all of them succeed. -/
def transaction (body : Db α) : Db α := fun d =>
  match run .mark d with
  | (.error e, d) => (.error e, d)
  | (.ok _, begun) =>
    match body begun with
    | (.error e, d) => (.error e, { d with store := begun.store })
    | (.ok a, d) =>
      match run .mark d with
      | (.ok _, d) => (.ok a, d)
      | (.error e, d) => (.error e, { d with store := begun.store })

end Db

end Tableside
