import Tableside.Store.Database

/-!
Creating and removing the tables.

There is one migration, and a ledger that says whether it was applied. Applying it creates the six
tables that are not there; taking it back drops them, every table before those that its rows refer
to. The rows of a table go before the table does, as if they were removed by a statement: with
foreign keys enforced those that belong to them go along, and the table stays, with all rows, when
references are open at the end.
-/

namespace Tableside

/-! ## Removing all rows of a table -/

namespace Store

/-- Removes a row with those that go with it and counts on. -/
def clearCounting (counted : Nat × Store) (r : RowRef) : Nat × Store :=
  (r :: counted.2.owned r).foldl removeCounting counted

/-- The rows of a table. -/
def rowsOf (s : Store) (e : Entity) : List RowRef :=
  (s.ids e).map fun id => (e, id)

/-- Removes the rows of a table. -/
def clear (s : Store) (foreignKeys : Bool) (e : Entity) : Except Fault Store :=
  if !foreignKeys then .ok ((s.rowsOf e).foldl removeRow s)
  else
    match (s.rowsOf e).foldl clearCounting (0, s) with
    | (0, s) => .ok s
    | _ => .error .foreignKey

end Store

/-! ## The schema -/

/-- A table or an index: what it is called, the table it stands on, and its columns. -/
structure SchemaObject where
  name : String
  table : String
  columns : List String
deriving DecidableEq, Repr, Inhabited

namespace Entity

/-- The indexes on a table. -/
def indexes : Entity → List SchemaObject
  | .tenant => []
  | .table => [⟨"index idx-tables-tenant_id", "tables", ["tenant_id"]⟩]
  | .category => [⟨"index idx-categories-tenant_id", "categories", ["tenant_id"]⟩]
  | .item => [⟨"index idx-items-tenant_id", "items", ["tenant_id"]⟩]
  | .order => [
      ⟨"index idx-orders-tenant_id", "orders", ["tenant_id"]⟩,
      ⟨"index idx-orders-status", "orders", ["status"]⟩,
      ⟨"index idx-orders-tenant-created-id", "orders", ["tenant_id", "created_at", "id"]⟩]
  | .line => [⟨"index idx-order_items-order_id", "order_items", ["order_id"]⟩]

/-- A table and its indexes. -/
def schema (e : Entity) : List SchemaObject :=
  ⟨"table " ++ e.name, e.name, e.columns⟩ :: e.indexes

end Entity

namespace Database

/-- The name of the table that the ledger is kept in. -/
def ledgerName : String := "seaql_migrations"

/-- All tables and indexes. -/
def schema (d : Database) : List SchemaObject :=
  (if d.hasLedger then [⟨"table " ++ ledgerName, ledgerName, ["version", "applied_at"]⟩] else []) ++
    d.tables.flatMap Entity.schema

/-- The names of all tables. -/
def tableNames (d : Database) : List String :=
  (if d.hasLedger then [ledgerName] else []) ++ d.tables.map Entity.name

/-! ## Migrating -/

/-- Creates a table if it is not there. -/
def createTable (d : Database) (e : Entity) : Database :=
  if e ∈ d.tables then d else { d with tables := d.tables ++ [e] }

/-- The tables in the order in which they are dropped. -/
def dropOrder : List Entity := Entity.all.reverse

/-- Applies the migration unless the ledger says that it was. -/
def migrateUp (d : Database) : Database :=
  let d := { d with hasLedger := true }
  if d.applied then d else { Entity.all.foldl createTable d with applied := true }

/-- A database with the schema and no rows. -/
def migrated : Database := new.migrateUp

end Database

namespace Statement

/-- Applies the migration. -/
def migrateUp : Statement Unit := fun d => .ok ((), d.migrateUp)

/-- Removes a table with its rows and its indexes, if it is there. -/
def dropTable (e : Entity) : Statement Unit := fun d =>
  if e ∈ d.tables then
    (d.store.clear d.foreignKeys e).map fun store =>
      ((), { d with store, tables := d.tables.filter (· ≠ e) })
  else .ok ((), d)

/-- Removes tables in turn. -/
def dropTables : List Entity → Statement Unit
  | [] => mark
  | e :: rest => fun d =>
    match dropTable e d with
    | .ok (_, d) => dropTables rest d
    | .error fault => .error fault

/-- Takes the migration back if it was applied. -/
def migrateDown : Statement Unit := fun d =>
  let d := { d with hasLedger := true }
  if d.applied then
    (dropTables Database.dropOrder d).map fun (_, d) => ((), { d with applied := false })
  else .ok ((), d)

end Statement

end Tableside
