import Tableside.Store.Basic

/-!
Writes to the store and the rules they keep.

Ids are unique within a table, as are the codes of tenants and the tokens of tables. With foreign
keys enforced a new row refers only to rows that are there, and a row that others refer to goes away
only with them: a tenant takes its items, categories and tables along and an order its lines. A
refused write changes nothing.

Whether a removal is refused is found by counting. Every row that goes opens a reference for each
row that refers to it, and closes one for each of its own references that is not met, as long as any
is open. The removal is refused when references are open at the end. In a store in which all
references are met this refuses exactly the removals after which one is not; a row whose reference
was not met before closes one that another row opened.
-/

namespace Tableside

/-- Why the database refuses a statement. -/
inductive Fault
  /-- Another row has the same value in a column. -/
  | unique (column : String)
  /-- A row refers to one that is not there. -/
  | foreignKey
  /-- The database does not answer, or has no such table. -/
  | unavailable
deriving DecidableEq, Repr

/-- The text of a repeated value. -/
def Fault.uniqueMessage (column : String) : String :=
  "UNIQUE constraint failed: " ++ column

namespace Store

/-! ## Adding rows -/

/-- Whether the references of a new row are met, where foreign keys are enforced. -/
def admits (s : Store) (foreignKeys : Bool) (refs : List RowRef) : Bool :=
  !foreignKeys || refs.all s.has

/-- Adds a tenant. -/
def insertTenant (s : Store) (t : Tenant) : Except Fault Store :=
  if s.tenants.any fun u => u.code == t.code then .error (.unique "tenants.code")
  else if s.has (.tenant, t.id) then .error (.unique "tenants.id")
  else .ok { s with tenants := s.tenants ++ [t] }

/-- Adds a table. -/
def insertTable (s : Store) (foreignKeys : Bool) (t : TableRow) : Except Fault Store :=
  if s.tables.any fun u => u.token == t.token then .error (.unique "tables.token")
  else if s.has (.table, t.id) then .error (.unique "tables.id")
  else if !s.admits foreignKeys t.references then .error .foreignKey
  else .ok { s with tables := s.tables ++ [t] }

/-- Adds a category. -/
def insertCategory (s : Store) (foreignKeys : Bool) (c : Category) : Except Fault Store :=
  if s.has (.category, c.id) then .error (.unique "categories.id")
  else if !s.admits foreignKeys c.references then .error .foreignKey
  else .ok { s with categories := s.categories ++ [c] }

/-- Adds an item. -/
def insertItem (s : Store) (foreignKeys : Bool) (i : Item) : Except Fault Store :=
  if s.has (.item, i.id) then .error (.unique "items.id")
  else if !s.admits foreignKeys i.references then .error .foreignKey
  else .ok { s with items := s.items ++ [i] }

/-- Adds an order. -/
def insertOrder (s : Store) (foreignKeys : Bool) (o : OrderRow) : Except Fault Store :=
  if s.has (.order, o.id) then .error (.unique "orders.id")
  else if !s.admits foreignKeys o.references then .error .foreignKey
  else .ok { s with orders := s.orders ++ [o] }

/-- Adds an order line. -/
def insertLine (s : Store) (foreignKeys : Bool) (l : LineRow) : Except Fault Store :=
  if s.has (.line, l.id) then .error (.unique "order_items.id")
  else if !s.admits foreignKeys l.references then .error .foreignKey
  else .ok { s with lines := s.lines ++ [l] }

/-! ## Changing rows -/

/-- Changes the items with an id. -/
def updateItem (s : Store) (id : Uuid) (f : Item → Item) : Store :=
  { s with items := s.items.map fun i => if i.id = id then f i else i }

/-- Sets the state of the orders with an id. -/
def updateStatus (s : Store) (id : Uuid) (status : OrderStatus) : Store :=
  { s with
    orders := s.orders.map fun o => if o.id = id then { o with status := status.name } else o }

/-! ## Removing rows -/

/-- The store without a row. -/
def removeRow (s : Store) (r : RowRef) : Store :=
  let gone := r.2
  match r.1 with
  | .tenant => { s with tenants := s.tenants.filter fun t => t.id != gone }
  | .table => { s with tables := s.tables.filter fun t => t.id != gone }
  | .category => { s with categories := s.categories.filter fun c => c.id != gone }
  | .item => { s with items := s.items.filter fun i => i.id != gone }
  | .order => { s with orders := s.orders.filter fun o => o.id != gone }
  | .line => { s with lines := s.lines.filter fun l => l.id != gone }

/-- The rows that go with a row, in the order in which they go. -/
def owned (s : Store) (r : RowRef) : List RowRef :=
  match r.1 with
  | .tenant =>
    ((s.items.filter fun i => i.tenantId == r.2).map fun i => (.item, i.id)) ++
      ((s.categories.filter fun c => c.tenantId == r.2).map fun c => (.category, c.id)) ++
      ((s.tables.filter fun t => t.tenantId == r.2).map fun t => (.table, t.id))
  | .order => (s.lines.filter fun l => l.orderId == r.2).map fun l => (.line, l.id)
  | _ => []

/-- Removes a row and counts on: first its own references that are not met are closed, then those of
the rows that refer to it are opened. -/
def removeCounting (counted : Nat × Store) (r : RowRef) : Nat × Store :=
  let (opened, s) := counted
  let unmet := (s.referencesFrom r).countP fun target => !s.has target
  (opened - unmet + s.references.count r, s.removeRow r)

/-- Removes a row: how many rows were named, and the store after it. -/
def delete (s : Store) (foreignKeys : Bool) (r : RowRef) : Except Fault (Nat × Store) :=
  if !s.has r then .ok (0, s)
  else if !foreignKeys then .ok (1, s.removeRow r)
  else
    match (r :: s.owned r).foldl removeCounting (0, s) with
    | (0, s) => .ok (1, s)
    | _ => .error .foreignKey

end Store

end Tableside
