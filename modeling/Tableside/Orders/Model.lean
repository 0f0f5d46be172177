import Tableside.Catalog.Model

/-!
Orders: their states, their rows and lines, and their JSON forms.

An order row is the head of an order. A line row also knows its place in the submitted order, which
answers show by the order of the lines only.
-/

namespace Tableside

/-! ## States -/

/-- The states of an order. Guests start at `waiting`; administrators make every later change. -/
inductive OrderStatus
  | waiting
  | processing
  | delivering
  | done
  | canceled
deriving DecidableEq, Repr, Inhabited

namespace OrderStatus

/-- All states, in the order in which an order usually takes them. -/
def all : List OrderStatus := [.waiting, .processing, .delivering, .done, .canceled]

/-- The name of a state. -/
def name : OrderStatus → String
  | .waiting => "waiting"
  | .processing => "processing"
  | .delivering => "delivering"
  | .done => "done"
  | .canceled => "canceled"

/-- The state of a name. -/
def ofName? (s : String) : Option OrderStatus :=
  all.find? fun status => status.name == s

/-- What is said of a name that no state has. -/
def unknownMessage (s : String) : String :=
  "unknown order status '" ++ s ++ "'"

theorem mem_all (status : OrderStatus) : status ∈ all := by
  cases status <;> decide

theorem ofName?_name (status : OrderStatus) : ofName? status.name = some status := by
  cases status <;> decide

end OrderStatus

/-- Whether an order is paid. -/
inductive PaidStatus
  | unpaid
  | paid
deriving DecidableEq, Repr, Inhabited

namespace PaidStatus

def all : List PaidStatus := [.unpaid, .paid]

def name : PaidStatus → String
  | .unpaid => "unpaid"
  | .paid => "paid"

def ofName? (s : String) : Option PaidStatus :=
  all.find? fun status => status.name == s

end PaidStatus

/-! ## Rows -/

/-- The head of an order. -/
structure OrderRow where
  id : Uuid
  tenantId : Uuid
  tableId : Uuid
  guestSessionId : String
  note : Option String
  status : String
  paidStatus : String
  createdAt : Instant
deriving DecidableEq, Inhabited

/-- A line of an order. Name and price are those of the item when the order was placed. -/
structure OrderLine where
  id : Uuid
  orderId : Uuid
  itemId : Uuid
  name : String
  qty : Int32
  unitPrice : Int64
  options : Option Json
deriving Inhabited

/-- A line and its place in the submitted order, counted from zero. -/
structure LineRow extends OrderLine where
  lineNo : Int32
deriving Inhabited

/-- An order with its lines. -/
structure Order extends OrderRow where
  items : List OrderLine
deriving Inhabited

/-! ## Encoding -/

namespace OrderLine

/-- A line without options has no such field. -/
def json (l : OrderLine) : Json :=
  .obj ([("id", l.id.json), ("order_id", l.orderId.json), ("item_id", l.itemId.json),
    ("name", .str l.name), ("qty", .int l.qty.toInt), ("unit_price", .int l.unitPrice.toInt)] ++
    Json.optionalField "options" l.options)

end OrderLine

namespace Order

/-- An order without a note has no such field. -/
def json (o : Order) : Json :=
  .obj ([("id", o.id.json), ("tenant_id", o.tenantId.json), ("table_id", o.tableId.json),
    ("guest_session_id", .str o.guestSessionId)] ++ Json.optionalField "note" (o.note.map .str) ++
    [("status", .str o.status), ("paid_status", .str o.paidStatus),
      ("created_at", o.createdAt.json), ("items", .arr (o.items.map OrderLine.json))])

end Order

/-! ## Decoding -/

namespace OrderStatus

def decode : Decoder OrderStatus := Node.oneOf ofName?

end OrderStatus

namespace PaidStatus

def decode : Decoder PaidStatus := Node.oneOf ofName?

end PaidStatus

namespace OrderLine

/-- The fields of a line whose options may nest `room` deep. -/
def fields (room : Nat) : List FieldRule :=
  [.required "id" Node.uuid, .required "order_id" Node.uuid, .required "item_id" Node.uuid,
    .required "name" Node.text, .required "qty" Node.int32, .required "unit_price" Node.int64,
    .optional "options" (Node.json room)]

def decode (room : Nat) : Decoder OrderLine := fun n => do
  let slots ← Slots.read (fields room) n
  return {
    id := ← slots.required "id" Node.uuid
    orderId := ← slots.required "order_id" Node.uuid
    itemId := ← slots.required "item_id" Node.uuid
    name := ← slots.required "name" Node.text
    qty := ← slots.required "qty" Node.int32
    unitPrice := ← slots.required "unit_price" Node.int64
    options := ← slots.optional "options" (Node.json room) }

end OrderLine

namespace LineRow

/-- A line as it is read from the store. Its options come from their stored text; when that cannot
be read, neither can the line. -/
def read? (l : LineRow) : Option OrderLine :=
  match l.options with
  | none => some l.toOrderLine
  | some j => j.restored.toOption.map fun options => { l.toOrderLine with options }

end LineRow

namespace Order

/-- The lines of an order stand three containers deep. -/
def lineDecoder : Decoder OrderLine :=
  OrderLine.decode (Json.maxDepth - 3)

def fields : List FieldRule :=
  [.required "id" Node.uuid, .required "tenant_id" Node.uuid, .required "table_id" Node.uuid,
    .required "guest_session_id" Node.text, .optional "note" Node.text,
    .required "status" Node.text, .required "paid_status" Node.text,
    .required "created_at" Node.instant, .required "items" (Node.list lineDecoder)]

def decode : Decoder Order := fun n => do
  let slots ← Slots.read fields n
  return {
    id := ← slots.required "id" Node.uuid
    tenantId := ← slots.required "tenant_id" Node.uuid
    tableId := ← slots.required "table_id" Node.uuid
    guestSessionId := ← slots.required "guest_session_id" Node.text
    note := ← slots.optional "note" Node.text
    status := ← slots.required "status" Node.text
    paidStatus := ← slots.required "paid_status" Node.text
    createdAt := ← slots.required "created_at" Node.instant
    items := ← slots.required "items" (Node.list lineDecoder) }

end Order

end Tableside
