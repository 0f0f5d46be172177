import Tableside.Json.Free

/-!
What a restaurant sells and where: tenants, their tables, and the categories and items of their
menus, each with its JSON form.

A table row carries the token printed on the table's code; the table that answers show does not.
-/

namespace Tableside

/-- A restaurant. -/
structure Tenant where
  id : Uuid
  code : String
  name : String
  createdAt : Instant
deriving DecidableEq, Inhabited

/-- A table of a restaurant as guests see it. -/
structure Table where
  id : Uuid
  tenantId : Uuid
  code : String
  name : String
  isActive : Bool
deriving DecidableEq, Inhabited

/-- A table with the token that guests scan. -/
structure TableRow extends Table where
  token : String
deriving DecidableEq, Inhabited

/-- A group of menu items. -/
structure Category where
  id : Uuid
  tenantId : Uuid
  name : String
  sort : Int32
  isActive : Bool
deriving DecidableEq, Inhabited

/-- A menu item; its price is in minor currency units. -/
structure Item where
  id : Uuid
  tenantId : Uuid
  categoryId : Uuid
  name : String
  description : Option String
  price : Int64
  isActive : Bool
deriving DecidableEq, Inhabited

/-! ## Encoding -/

/-- An identifier as a JSON string. -/
def Uuid.json (u : Uuid) : Json :=
  .str u.text

/-- A time as a JSON string. -/
def Instant.json (t : Instant) : Json :=
  .str t.text

namespace Tenant

def json (t : Tenant) : Json :=
  .obj [("id", t.id.json), ("code", .str t.code), ("name", .str t.name),
    ("created_at", t.createdAt.json)]

end Tenant

namespace Table

def json (t : Table) : Json :=
  .obj [("id", t.id.json), ("tenant_id", t.tenantId.json), ("code", .str t.code),
    ("name", .str t.name), ("is_active", .bool t.isActive)]

end Table

namespace Category

def json (c : Category) : Json :=
  .obj [("id", c.id.json), ("tenant_id", c.tenantId.json), ("name", .str c.name),
    ("sort", .int c.sort.toInt), ("is_active", .bool c.isActive)]

end Category

namespace Item

/-- An item without a description has no such field. -/
def json (i : Item) : Json :=
  .obj ([("id", i.id.json), ("tenant_id", i.tenantId.json), ("category_id", i.categoryId.json),
    ("name", .str i.name)] ++ Json.optionalField "description" (i.description.map .str) ++
    [("price", .int i.price.toInt), ("is_active", .bool i.isActive)])

end Item

/-! ## Decoding -/

namespace Tenant

def fields : List FieldRule :=
  [.required "id" Node.uuid, .required "code" Node.text, .required "name" Node.text,
    .required "created_at" Node.instant]

def decode : Decoder Tenant := fun n => do
  let slots ← Slots.read fields n
  return {
    id := ← slots.required "id" Node.uuid
    code := ← slots.required "code" Node.text
    name := ← slots.required "name" Node.text
    createdAt := ← slots.required "created_at" Node.instant }

end Tenant

namespace Table

def fields : List FieldRule :=
  [.required "id" Node.uuid, .required "tenant_id" Node.uuid, .required "code" Node.text,
    .required "name" Node.text, .required "is_active" Node.truth]

def decode : Decoder Table := fun n => do
  let slots ← Slots.read fields n
  return {
    id := ← slots.required "id" Node.uuid
    tenantId := ← slots.required "tenant_id" Node.uuid
    code := ← slots.required "code" Node.text
    name := ← slots.required "name" Node.text
    isActive := ← slots.required "is_active" Node.truth }

end Table

namespace Category

def fields : List FieldRule :=
  [.required "id" Node.uuid, .required "tenant_id" Node.uuid, .required "name" Node.text,
    .required "sort" Node.int32, .required "is_active" Node.truth]

def decode : Decoder Category := fun n => do
  let slots ← Slots.read fields n
  return {
    id := ← slots.required "id" Node.uuid
    tenantId := ← slots.required "tenant_id" Node.uuid
    name := ← slots.required "name" Node.text
    sort := ← slots.required "sort" Node.int32
    isActive := ← slots.required "is_active" Node.truth }

end Category

namespace Item

def fields : List FieldRule :=
  [.required "id" Node.uuid, .required "tenant_id" Node.uuid, .required "category_id" Node.uuid,
    .required "name" Node.text, .optional "description" Node.text, .required "price" Node.int64,
    .required "is_active" Node.truth]

def decode : Decoder Item := fun n => do
  let slots ← Slots.read fields n
  return {
    id := ← slots.required "id" Node.uuid
    tenantId := ← slots.required "tenant_id" Node.uuid
    categoryId := ← slots.required "category_id" Node.uuid
    name := ← slots.required "name" Node.text
    description := ← slots.optional "description" Node.text
    price := ← slots.required "price" Node.int64
    isActive := ← slots.required "is_active" Node.truth }

end Item

end Tableside
