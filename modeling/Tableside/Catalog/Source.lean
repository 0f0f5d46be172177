import Tableside.Catalog.Menu
import Tableside.Store.Database
import Tableside.Text.Utf8

/-!
Reading menus and tables from the database.

A menu holds the active categories of a tenant by their sort number and name and its active items by
name, whether or not their category is active. Names are ordered by their bytes.
-/

namespace Tableside

/-- The order of categories in a menu. -/
def Category.displayLe (a b : Category) : Bool :=
  decide (a.sort.toInt < b.sort.toInt) ||
    (decide (a.sort.toInt = b.sort.toInt) && Text.bytesLe a.name b.name)

/-- The order of items in a menu. -/
def Item.displayLe (a b : Item) : Bool :=
  Text.bytesLe a.name b.name

namespace Catalog

/-- The active categories of a tenant, in display order. -/
def activeCategories (s : Store) (tenantId : Uuid) : List Category :=
  (s.categories.filter fun c => c.tenantId == tenantId && c.isActive).mergeSort Category.displayLe

/-- The active items of a tenant, in display order. -/
def activeItems (s : Store) (tenantId : Uuid) : List Item :=
  (s.items.filter fun i => i.tenantId == tenantId && i.isActive).mergeSort Item.displayLe

/-- The menu of a tenant code. -/
def loadMenu (code : String) : Db Menu := do
  let tenant ← Db.find .tenant (fun s => s.tenantByCode? code) (.notFound ("tenant " ++ code))
  let categories ← Db.select .category fun s => activeCategories s tenant.id
  let items ← Db.select .item fun s => activeItems s tenant.id
  return { tenant := tenant.code, categories, items }

end Catalog

/-- What a scanned token stands for. -/
structure TableResolution where
  tenant : Tenant
  table : Table
deriving DecidableEq, Inhabited

namespace TableResolution

def json (r : TableResolution) : Json :=
  .obj [("tenant", r.tenant.json), ("table", r.table.json)]

end TableResolution

namespace Catalog

/-- The tenant and table of a scanned token. Tables that are not active are not found. -/
def resolveTable (token : String) : Db TableResolution := do
  let token := Text.trim token
  if token.isEmpty then throw (.badRequest "token is required")
  let table ← Db.find .table (fun s => s.tableByToken? token) (.notFound "table")
  let tenant ← Db.find .tenant (fun s => s.tenant? table.tenantId) (.notFound "tenant")
  return { tenant, table := table.toTable }

end Catalog

end Tableside
