import Tableside.Error
import Tableside.Orders.Model
import Tableside.Text.Blank

/-!
Orders as guests submit them and status changes as administrators do.

`OrderRequest.normalize` trims the texts of a request and drops a blank note; `OrderRequest.check`
names the first thing that is missing from the result. Neither looks at the database.
-/

namespace Tableside

/-- A line of a submitted order. -/
structure LineRequest where
  itemId : Uuid
  qty : Int32
  options : Option Json
deriving Inhabited

/-- A submitted order. -/
structure OrderRequest where
  tenant : String
  tableToken : String
  guestSessionId : String
  note : Option String
  items : List LineRequest
deriving Inhabited

namespace OrderRequest

/-! ## Normal form -/

/-- What is said of an order without lines. -/
def noItems : ApiError :=
  .badRequest "order must contain at least one item"

/-- The request with its texts trimmed; a blank note is none. -/
def normalize (r : OrderRequest) : OrderRequest :=
  { r with
    tenant := Text.trim r.tenant
    tableToken := Text.trim r.tableToken
    guestSessionId := Text.trim r.guestSessionId
    note := (r.note.map Text.trim).filter fun note => !note.isEmpty }

/-- Whether nothing is missing: the three texts, a line, and a positive quantity in every line. -/
def check (r : OrderRequest) : Except ApiError Unit :=
  if r.tenant.isEmpty then .error (.badRequest "tenant is required")
  else if r.tableToken.isEmpty then .error (.badRequest "table_token is required")
  else if r.guestSessionId.isEmpty then .error (.badRequest "guest_session_id is required")
  else if r.items.isEmpty then .error noItems
  else
    match r.items.find? fun line => line.qty.toInt ≤ 0 with
    | some line => .error (.badRequest ("qty must be positive for item " ++ line.itemId.text))
    | none => .ok ()

end OrderRequest

/-! ## JSON -/

namespace LineRequest

/-- The options of a submitted line stand three containers deep. -/
def optionsDecoder : Decoder Json :=
  Node.json (Json.maxDepth - 3)

def fields : List FieldRule :=
  [.required "item_id" Node.uuid, .required "qty" Node.int32,
    .defaulted "options" (Node.nullable optionsDecoder)]

def decode : Decoder LineRequest := fun n => do
  let slots ← Slots.read fields n
  return {
    itemId := ← slots.required "item_id" Node.uuid
    qty := ← slots.required "qty" Node.int32
    options := ← slots.optional "options" optionsDecoder }

end LineRequest

namespace OrderRequest

def fields : List FieldRule :=
  [.defaulted "tenant" Node.text, .defaulted "table_token" Node.text,
    .defaulted "guest_session_id" Node.text, .defaulted "note" (Node.nullable Node.text),
    .defaulted "items" (Node.list LineRequest.decode)]

def decode : Decoder OrderRequest := fun n => do
  let slots ← Slots.read fields n
  return {
    tenant := ← slots.defaulted "tenant" "" Node.text
    tableToken := ← slots.defaulted "table_token" "" Node.text
    guestSessionId := ← slots.defaulted "guest_session_id" "" Node.text
    note := ← slots.optional "note" Node.text
    items := ← slots.defaulted "items" [] (Node.list LineRequest.decode) }

end OrderRequest

/-- The answer to a placed order. -/
structure OrderReceipt where
  orderId : Uuid
  status : OrderStatus
deriving DecidableEq, Inhabited

namespace OrderReceipt

def json (r : OrderReceipt) : Json :=
  .obj [("order_id", r.orderId.json), ("status", .str r.status.name)]

def fields : List FieldRule :=
  [.required "order_id" Node.uuid, .required "status" OrderStatus.decode]

def decode : Decoder OrderReceipt := fun n => do
  let slots ← Slots.read fields n
  return {
    orderId := ← slots.required "order_id" Node.uuid
    status := ← slots.required "status" OrderStatus.decode }

end OrderReceipt

/-- A submitted status change: the name of the state asked for. -/
structure StatusUpdate where
  status : String
deriving DecidableEq, Inhabited

namespace StatusUpdate

def json (u : StatusUpdate) : Json :=
  .obj [("status", .str u.status)]

def fields : List FieldRule :=
  [.defaulted "status" Node.text]

def decode : Decoder StatusUpdate := fun n => do
  let slots ← Slots.read fields n
  return { status := ← slots.defaulted "status" "" Node.text }

end StatusUpdate

end Tableside
