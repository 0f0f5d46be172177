import Tableside.Catalog.Update
import Tableside.Store.Database

/-!
Changing menu items in the database.

Everything that can be missing is looked for before the item is written: the tenant, the item among
the tenant's, and the category it moves to among the tenant's. An edit answers the tenant's code, so
that the cached menu of that code can be dropped, and the item as it is now stored.
-/

namespace Tableside.Catalog

/-- The code of a tenant. -/
def tenantCode (tenantId : Uuid) : Db String := do
  let tenant ← Db.find .tenant (fun s => s.tenant? tenantId) (.notFound "tenant")
  return tenant.code

/-- An item of a tenant. -/
def findItem (tenantId id : Uuid) : Db Item :=
  Db.find .item (fun s => s.itemOf? tenantId id) (.notFound ("item " ++ id.text))

/-- Looks for a category among the tenant's. -/
def requireCategory (tenantId id : Uuid) : Db Unit := do
  let _ ← Db.find .category (fun s => s.categoryOf? tenantId id)
    (.notFound ("category " ++ id.text))

/-- Writes an item and reads it again. -/
def writeItem (id : Uuid) (f : Item → Item) : Db Item := do
  Db.run (.updateItem id f)
  Db.find .item (fun s => s.item? id) .database

/-- Applies a patch to an item of a tenant. -/
def patchItem (tenantId id : Uuid) (p : ItemPatch) : Db (String × Item) := do
  match p.validate with
  | .error e => throw e
  | .ok _ => pure ()
  if p.isEmpty then throw (.badRequest "no fields to update")
  let code ← tenantCode tenantId
  let item ← findItem tenantId id
  match p.categoryId with
  | some categoryId => requireCategory tenantId categoryId
  | none => pure ()
  let updated ← writeItem item.id p.apply
  return (code, updated)

/-- Sets whether an item of a tenant can be ordered. -/
def setAvailability (tenantId id : Uuid) (a : Availability) : Db (String × Item) := do
  let code ← tenantCode tenantId
  let item ← findItem tenantId id
  let updated ← writeItem item.id fun i => { i with isActive := a.isActive }
  return (code, updated)

end Tableside.Catalog
