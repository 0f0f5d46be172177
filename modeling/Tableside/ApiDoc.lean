import Tableside.Json.Pointer
import Tableside.Orders.Model

/-!
The description of the service that clients read: its paths, the shapes of what they take and give,
and how administrators prove who they are.

Shapes are built from a few combinators. A value that may be null has null among its types; a shape
with a name of its own is referred to by the name, and stands in full only inside the envelopes of
answers.
-/

namespace Tableside.ApiDoc

/-! ## Shapes -/

/-- A shape of a type, with what else is said about it. -/
def typed (kind : String) (more : List (String × Json)) : Json :=
  .obj (("type", .str kind) :: more)

/-- The shape, or null. -/
def orNull : Json → Json
  | .obj fields => .obj (fields.map fun (name, value) =>
      match name, value with
      | "type", .str kind => (name, .arr [.str kind, .str "null"])
      | _, _ => (name, value))
  | j => j

/-- The shape with a description. -/
def described (text : String) : Json → Json
  | .obj fields => .obj (("description", .str text) :: fields)
  | j => j

def text : Json := typed "string" []
def truth : Json := typed "boolean" []
def uuid : Json := typed "string" [("format", .str "uuid")]
def time : Json := typed "string" [("format", .str "date-time")]
def int32 : Json := typed "integer" [("format", .str "int32")]
def int64 : Json := typed "integer" [("format", .str "int64")]
def count : Json := typed "integer" [("format", .str "int64"), ("minimum", .int 0)]
def anyObject : Json := typed "object" []

/-- The shape of a name. -/
def ref (name : String) : Json :=
  .obj [("$ref", .str ("#/components/schemas/" ++ name))]

/-- An array of a shape. -/
def listOf (item : Json) : Json :=
  typed "array" [("items", item)]

/-- One of a set of names. -/
def oneOfNames (names : List String) : Json :=
  typed "string" [("enum", .arr (names.map .str))]

/-- Null, or a shape that is not a plain type. -/
def nullOr (shape : Json) : Json :=
  .obj [("oneOf", .arr [typed "null" [], shape])]

/-- An object: its fields, and which of them are always there. -/
def object (required : List String) (fields : List (String × Json)) : Json :=
  typed "object" (("properties", .obj fields) ::
    (if required.isEmpty then [] else [("required", .arr (required.map .str))]))

/-! ## The shapes of the service -/

def tenant : Json :=
  object ["id", "code", "name", "created_at"]
    [("id", uuid), ("code", text), ("name", text), ("created_at", time)]

def table : Json :=
  object ["id", "tenant_id", "code", "name", "is_active"]
    [("id", uuid), ("tenant_id", uuid), ("code", text), ("name", text), ("is_active", truth)]

def category : Json :=
  object ["id", "tenant_id", "name", "sort", "is_active"]
    [("id", uuid), ("tenant_id", uuid), ("name", text), ("sort", int32), ("is_active", truth)]

def item : Json :=
  object ["id", "tenant_id", "category_id", "name", "price", "is_active"]
    [("id", uuid), ("tenant_id", uuid), ("category_id", uuid), ("name", text),
      ("description", orNull text), ("price", int64), ("is_active", truth)]

def order : Json :=
  object ["id", "tenant_id", "table_id", "guest_session_id", "status", "paid_status", "created_at",
      "items"]
    [("id", uuid), ("tenant_id", uuid), ("table_id", uuid), ("guest_session_id", text),
      ("note", orNull text), ("status", text), ("paid_status", text), ("created_at", time),
      ("items", listOf (ref "OrderItem"))]

def orderItem : Json :=
  object ["id", "order_id", "item_id", "name", "qty", "unit_price"]
    [("id", uuid), ("order_id", uuid), ("item_id", uuid), ("name", text), ("qty", int32),
      ("unit_price", int64), ("options", orNull anyObject)]

def orderStatus : Json :=
  described
    ("Lifecycle of an order. Guests always start at `Waiting`; every later\n" ++
      "change is made by an administrator.")
    (oneOfNames (OrderStatus.all.map OrderStatus.name))

def paidStatus : Json :=
  oneOfNames (PaidStatus.all.map PaidStatus.name)

def menu : Json :=
  described
    ("Guest-facing menu snapshot. Also the value stored in the menu cache, so\n" ++
      "it must survive a serde round trip unchanged.")
    (object ["tenant", "categories", "items"]
      [("tenant", text), ("categories", listOf (ref "Category")), ("items", listOf (ref "Item"))])

def tableResolution : Json :=
  object ["tenant", "table"] [("tenant", ref "Tenant"), ("table", ref "Table")]

def createOrder : Json :=
  described
    ("Guest order submission. No authentication: the guest identifies the\n" ++
      "restaurant by code and the table by the token printed on its QR code.")
    (object [] [("tenant", text), ("table_token", text), ("guest_session_id", text),
      ("note", orNull text), ("items", listOf (ref "CreateOrderItem"))])

def createOrderItem : Json :=
  object ["item_id", "qty"]
    [("item_id", uuid), ("qty", int32),
      ("options", described "Selected modifiers, stored as given." (orNull anyObject))]

def createOrderResponse : Json :=
  object ["order_id", "status"] [("order_id", uuid), ("status", ref "OrderStatus")]

def ordersPage : Json :=
  object ["data"] [("data", listOf (ref "Order")), ("next_cursor", orNull text)]

def updateOrderStatus : Json :=
  object [] [("status", text)]

def patchItem : Json :=
  described
    ("Partial update of a menu item. Absent fields are left untouched;\n" ++
      "`description: null` clears the description.")
    (object [] [("name", orNull text), ("description", orNull text), ("price", orNull int64),
      ("category_id", orNull uuid), ("is_active", orNull truth)])

def setItemAvailability : Json :=
  object ["is_active"] [("is_active", truth)]

/-- The fields of the query of a listing: name, description and shape. -/
def listQueryFields : List (String × String × Json) :=
  [("status", "Exact status match.", text),
    ("cursor", "Opaque value from a previous page's `next_cursor`.", text),
    ("limit", "Page size, 1..=100. Defaults to 20.", int64)]

def orderListQuery : Json :=
  object [] (listQueryFields.map fun (name, note, shape) => (name, described note (orNull shape)))

def healthData : Json :=
  object ["status", "database"] [("status", text), ("database", text)]

def pageFacts : Json :=
  described
    ("Paging facts attached to list responses. Order listings are cursor based,\n" ++
      "so there is no page number or total.")
    (object [] [("limit", orNull count), ("count", orNull count), ("next_cursor", orNull text)])

/-- The envelope around a shape. -/
def envelope (data : Json) : Json :=
  object ["message"] [("message", text), ("data", data), ("meta", nullOr (ref "Meta"))]

/-- The shapes of the data in answers. -/
def answerShapes : List (String × Json) :=
  [("HealthData", healthData), ("MenuResponse", menu), ("TableResolution", tableResolution),
    ("CreateOrderResponse", createOrderResponse), ("OrdersPage", ordersPage), ("Order", order),
    ("Item", item)]

/-- The name of the envelope around a shape. -/
def envelopeName (name : String) : String := "ApiResponse_" ++ name

/-- All named shapes. -/
def schemas : List (String × Json) :=
  [("Tenant", tenant), ("Table", table), ("Category", category), ("Item", item), ("Order", order),
    ("OrderItem", orderItem), ("OrderStatus", orderStatus), ("PaidStatus", paidStatus),
    ("MenuResponse", menu), ("TableResolution", tableResolution),
    ("CreateOrderRequest", createOrder), ("CreateOrderItem", createOrderItem),
    ("CreateOrderResponse", createOrderResponse), ("OrdersPage", ordersPage),
    ("UpdateOrderStatusRequest", updateOrderStatus), ("PatchItemRequest", patchItem),
    ("SetItemAvailabilityRequest", setItemAvailability), ("OrderListQuery", orderListQuery),
    ("HealthData", healthData), ("Meta", pageFacts)] ++
    answerShapes.map fun (name, shape) => (envelopeName name, envelope shape)

/-! ## Paths -/

/-- What a path offers under its one method. -/
structure Operation where
  path : String
  method : String
  name : String
  tag : String
  parameters : List Json
  body : Option String
  /-- The status of success, what it means and the shape it carries. -/
  success : String × String × String
  failures : List (String × String)
  secured : Bool

/-- The content of a named shape. -/
def content (name : String) : Json :=
  .obj [("application/json", .obj [("schema", ref name)])]

/-- A parameter in the path. -/
def pathParameter (name note : String) (shape : Json) : Json :=
  .obj [("name", .str name), ("in", .str "path"), ("description", .str note),
    ("required", .bool true), ("schema", shape)]

/-- A parameter in the query. -/
def queryParameter (name : String) (note : Option String) (shape : Json) : Json :=
  .obj ([("name", .str name), ("in", .str "query"), ("required", .bool false), ("schema", shape)] ++
    Json.optionalField "description" (note.map .str))

namespace Operation

def json (o : Operation) : Json :=
  let (status, note, shape) := o.success
  let success := (status,
    .obj [("description", .str note), ("content", content (envelopeName shape))])
  let failures := o.failures.map fun (status, note) => (status, .obj [("description", .str note)])
  .obj ([("tags", .arr [.str o.tag]), ("operationId", .str o.name)] ++
    (if o.parameters.isEmpty then [] else [("parameters", .arr o.parameters)]) ++
    Json.optionalField "requestBody"
      (o.body.map fun name => .obj [("content", content name), ("required", .bool true)]) ++
    [("responses", .obj (success :: failures))] ++
    (if o.secured then [("security", .arr [.obj [("bearer_auth", .arr [])]])] else []))

end Operation

/-- The parameter that names an order. -/
def orderId : Json := pathParameter "id" "Order ID" uuid

/-- The parameter that names an item. -/
def itemId : Json := pathParameter "id" "Item ID" uuid

/-- All operations. -/
def operations : List Operation := [
  { path := "/health", method := "get", name := "health_check", tag := "Health", parameters := []
    body := none, success := ("200", "OK", "HealthData"), failures := [], secured := false },
  { path := "/api/v1/menu", method := "get", name := "get_menu", tag := "Menu"
    parameters := [queryParameter "tenant_code" none text]
    body := none
    success := ("200", "Active categories and items of a tenant", "MenuResponse")
    failures := [("400", "tenant_code missing"), ("404", "Tenant not found")]
    secured := false },
  { path := "/api/v1/table/{token}", method := "get", name := "resolve_table", tag := "Tables"
    parameters := [pathParameter "token" "Token printed on the table's QR code" text]
    body := none
    success := ("200", "Tenant and table for the token", "TableResolution")
    failures := [("404", "Unknown or inactive table")]
    secured := false },
  { path := "/api/v1/orders", method := "post", name := "create_order", tag := "Orders"
    parameters := []
    body := some "CreateOrderRequest"
    success := ("201", "Order placed", "CreateOrderResponse")
    failures := [("400", "Invalid payload or unknown tenant, table or item")]
    secured := false },
  { path := "/api/admin/orders", method := "get", name := "list_orders", tag := "Admin"
    parameters := listQueryFields.map fun (name, note, shape) =>
      queryParameter name (some note) shape
    body := none
    success := ("200", "Orders of the admin's tenant, newest first", "OrdersPage")
    failures := [("400", "Unknown status filter"), ("401", "Unauthorized"), ("403", "Forbidden")]
    secured := true },
  { path := "/api/admin/orders/{id}", method := "get", name := "get_order", tag := "Admin"
    parameters := [orderId]
    body := none
    success := ("200", "Order with its lines", "Order")
    failures := [("404", "Not Found")]
    secured := true },
  { path := "/api/admin/orders/{id}/status", method := "patch", name := "update_order_status"
    tag := "Admin"
    parameters := [orderId]
    body := some "UpdateOrderStatusRequest"
    success := ("200", "Updated order", "Order")
    failures := [("400", "Missing or unknown status"), ("404", "Not Found")]
    secured := true },
  { path := "/api/admin/items/{id}", method := "patch", name := "patch_item", tag := "Admin"
    parameters := [itemId]
    body := some "PatchItemRequest"
    success := ("200", "Updated item", "Item")
    failures := [("400", "Invalid update"), ("404", "Not Found")]
    secured := true },
  { path := "/api/admin/items/{id}/availability", method := "patch", name := "set_item_availability"
    tag := "Admin"
    parameters := [itemId]
    body := some "SetItemAvailabilityRequest"
    success := ("200", "Updated item", "Item")
    failures := [("404", "Not Found")]
    secured := true }]

/-! ## The document -/

/-- The groups of operations, with what they are for. -/
def tags : List (String × String) :=
  [("Health", "Health check endpoint"), ("Menu", "Public menu endpoints"),
    ("Tables", "QR table resolution"), ("Orders", "Guest order placement"),
    ("Admin", "Tenant administration endpoints")]

/-- The whole description. -/
def document : Json :=
  .obj [("openapi", .str "3.1.0"),
    ("info", .obj [("title", .str "qrmenu-api"), ("description", .str ""),
      ("license", .obj [("name", .str "")]), ("version", .str "0.1.0")]),
    ("paths", .obj (operations.map fun o => (o.path, .obj [(o.method, o.json)]))),
    ("components", .obj [("schemas", .obj schemas),
      ("securitySchemes", .obj [("bearer_auth", .obj [("type", .str "http"),
        ("scheme", .str "bearer"), ("bearerFormat", .str "JWT")])])]),
    ("tags", .arr (tags.map fun (name, note) =>
      .obj [("name", .str name), ("description", .str note)]))]

end Tableside.ApiDoc
