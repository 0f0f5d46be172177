import Tableside.Catalog.Model
import Tableside.Json.Printer

/-!
The menu of a restaurant as guests see it. Its JSON text is also what the menu cache holds, so
reading that text gives the menu back.
-/

namespace Tableside

/-- The active categories and items of a tenant, in display order. -/
structure Menu where
  tenant : String
  categories : List Category
  items : List Item
deriving DecidableEq, Inhabited

namespace Menu

def json (m : Menu) : Json :=
  .obj [("tenant", .str m.tenant), ("categories", .arr (m.categories.map Category.json)),
    ("items", .arr (m.items.map Item.json))]

def fields : List FieldRule :=
  [.required "tenant" Node.text, .required "categories" (Node.list Category.decode),
    .required "items" (Node.list Item.decode)]

def decode : Decoder Menu := fun n => do
  let slots ← Slots.read fields n
  return {
    tenant := ← slots.required "tenant" Node.text
    categories := ← slots.required "categories" (Node.list Category.decode)
    items := ← slots.required "items" (Node.list Item.decode) }

/-- The text that a cache holds. -/
def snapshot (m : Menu) : String :=
  m.json.text

/-- The menu of a snapshot. -/
def ofSnapshot? (s : String) : Option Menu :=
  (Json.parse decode s).toOption

end Menu

end Tableside
