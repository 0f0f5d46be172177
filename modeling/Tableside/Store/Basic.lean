import Tableside.Orders.Model

/-!
The rows that the service keeps, in six tables, and the questions asked of them.

Rows stand in the order in which they came. A row refers to rows of other tables by their ids:
`Store.references` lists all these, and `Store.has` says whether one is met.
-/

namespace Tableside

/-! ## Tables -/

/-- The tables of the store. -/
inductive Entity
  | tenant
  | table
  | category
  | item
  | order
  | line
deriving DecidableEq, Repr, Inhabited

namespace Entity

/-- All tables, every one after those that its rows refer to. -/
def all : List Entity := [.tenant, .table, .category, .item, .order, .line]

/-- The name of a table. -/
def name : Entity → String
  | tenant => "tenants"
  | table => "tables"
  | category => "categories"
  | item => "items"
  | order => "orders"
  | line => "order_items"

/-- The table of a name. -/
def ofName? (s : String) : Option Entity :=
  all.find? fun e => e.name == s

/-- The columns of a table. -/
def columns : Entity → List String
  | tenant => ["id", "code", "name", "created_at"]
  | table => ["id", "tenant_id", "code", "name", "token", "is_active"]
  | category => ["id", "tenant_id", "name", "sort", "is_active"]
  | item => ["id", "tenant_id", "category_id", "name", "description", "price", "is_active"]
  | order => ["id", "tenant_id", "table_id", "guest_session_id", "note", "status", "paid_status",
      "created_at"]
  | line => ["id", "order_id", "line_no", "item_id", "name", "qty", "unit_price", "options"]

end Entity

/-- A row, named by its table and id. -/
abbrev RowRef := Entity × Uuid

/-! ## References of a row -/

/-- The rows that a table refers to. -/
def Table.references (t : Table) : List RowRef := [(.tenant, t.tenantId)]

/-- The rows that a category refers to. -/
def Category.references (c : Category) : List RowRef := [(.tenant, c.tenantId)]

/-- The rows that an item refers to. -/
def Item.references (i : Item) : List RowRef := [(.tenant, i.tenantId), (.category, i.categoryId)]

/-- The rows that an order refers to. -/
def OrderRow.references (o : OrderRow) : List RowRef := [(.tenant, o.tenantId), (.table, o.tableId)]

/-- The rows that an order line refers to. -/
def LineRow.references (l : LineRow) : List RowRef := [(.order, l.orderId), (.item, l.itemId)]

/-! ## The store -/

/-- The rows of all tables. -/
structure Store where
  tenants : List Tenant
  tables : List TableRow
  categories : List Category
  items : List Item
  orders : List OrderRow
  lines : List LineRow
deriving Inhabited

namespace Store

/-- The store without rows. -/
def empty : Store := ⟨[], [], [], [], [], []⟩

/-- The ids of the rows of a table. -/
def ids (s : Store) : Entity → List Uuid
  | .tenant => s.tenants.map (·.id)
  | .table => s.tables.map (·.id)
  | .category => s.categories.map (·.id)
  | .item => s.items.map (·.id)
  | .order => s.orders.map (·.id)
  | .line => s.lines.map (·.id)

/-- Whether a row is there. -/
def has (s : Store) (r : RowRef) : Bool :=
  (s.ids r.1).contains r.2

/-- The rows of a table with their references. -/
def links (s : Store) : Entity → List (Uuid × List RowRef)
  | .tenant => s.tenants.map fun t => (t.id, [])
  | .table => s.tables.map fun t => (t.id, t.references)
  | .category => s.categories.map fun c => (c.id, c.references)
  | .item => s.items.map fun i => (i.id, i.references)
  | .order => s.orders.map fun o => (o.id, o.references)
  | .line => s.lines.map fun l => (l.id, l.references)

/-- The references of all rows. -/
def references (s : Store) : List RowRef :=
  Entity.all.flatMap fun e => (s.links e).flatMap (·.2)

/-- The references of a row, none when it is not there. -/
def referencesFrom (s : Store) (r : RowRef) : List RowRef :=
  ((s.links r.1).lookup r.2).getD []

/-! ## Questions -/

/-- The tenant of a code. -/
def tenantByCode? (s : Store) (code : String) : Option Tenant :=
  s.tenants.find? fun t => t.code == code

/-- The tenant of an id. -/
def tenant? (s : Store) (id : Uuid) : Option Tenant :=
  s.tenants.find? fun t => t.id == id

/-- The active table of a tenant with a token. -/
def tableOf? (s : Store) (tenantId : Uuid) (token : String) : Option TableRow :=
  s.tables.find? fun t => t.token == token && t.tenantId == tenantId && t.isActive

/-- The active table with a token. -/
def tableByToken? (s : Store) (token : String) : Option TableRow :=
  s.tables.find? fun t => t.token == token && t.isActive

/-- The category of a tenant with an id. -/
def categoryOf? (s : Store) (tenantId id : Uuid) : Option Category :=
  s.categories.find? fun c => c.id == id && c.tenantId == tenantId

/-- The item of a tenant with an id. -/
def itemOf? (s : Store) (tenantId id : Uuid) : Option Item :=
  s.items.find? fun i => i.id == id && i.tenantId == tenantId

/-- The active item of a tenant with an id. -/
def activeItemOf? (s : Store) (tenantId id : Uuid) : Option Item :=
  s.items.find? fun i => i.id == id && i.tenantId == tenantId && i.isActive

/-- The item of an id. -/
def item? (s : Store) (id : Uuid) : Option Item :=
  s.items.find? fun i => i.id == id

/-- The order of a tenant with an id. -/
def orderOf? (s : Store) (tenantId id : Uuid) : Option OrderRow :=
  s.orders.find? fun o => o.id == id && o.tenantId == tenantId

/-- The order of an id. -/
def order? (s : Store) (id : Uuid) : Option OrderRow :=
  s.orders.find? fun o => o.id == id

/-- The line of an id. -/
def line? (s : Store) (id : Uuid) : Option LineRow :=
  s.lines.find? fun l => l.id == id

end Store

end Tableside
