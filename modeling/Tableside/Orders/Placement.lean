import Tableside.Orders.Request
import Tableside.Store.Database

/-!
Placing an order.

The tenant is found by its code and the table by its token; then, in one transaction, the order is
written and every line in turn: its item must be active and the tenant's, and its name and price are
copied into the line. Every row is read again as it was stored, and options that do not come back
fail like a write that is refused. Whatever fails, nothing is kept. To guests every miss looks the
same.
-/

namespace Tableside

/-- What is made up for a new order: its id, the ids of its lines by position, and its time. -/
structure Fresh where
  orderId : Uuid
  lineId : Nat → Uuid
  now : Instant

namespace Fresh

/-- The head of a new order. -/
def orderRow (fresh : Fresh) (tenant : Tenant) (table : TableRow) (r : OrderRequest) :
    OrderRow where
  id := fresh.orderId
  tenantId := tenant.id
  tableId := table.id
  guestSessionId := r.guestSessionId
  note := r.note
  status := OrderStatus.waiting.name
  paidStatus := PaidStatus.unpaid.name
  createdAt := fresh.now

/-- The line of a new order at a position. -/
def lineRow (fresh : Fresh) (position : Nat) (item : Item) (line : LineRequest) : LineRow where
  id := fresh.lineId position
  orderId := fresh.orderId
  itemId := item.id
  name := item.name
  qty := line.qty
  unitPrice := item.price
  options := line.options
  lineNo := Int32.ofNat position

end Fresh

namespace Orders

/-- A write followed by reading the row again, as every row is written. -/
def insertAndRead (write : Statement Unit) (e : Entity) (ask : Store → Option α) : Db α := do
  Db.run write
  Db.find e ask .database

/-- Writes the lines of an order from a position on. -/
def placeLines (fresh : Fresh) (tenant : Tenant) : (position : Nat) → List LineRequest → Db Unit
  | _, [] => pure ()
  | position, line :: rest => do
    let item ← Db.find .item (fun s => s.activeItemOf? tenant.id line.itemId)
      (.notFound ("item " ++ line.itemId.text))
    let row := fresh.lineRow position item line
    let _ ← insertAndRead (.insertLine row) .line fun s => (s.line? row.id).bind LineRow.read?
    placeLines fresh tenant (position + 1) rest

/-- Writes an order with its lines. -/
def create (fresh : Fresh) (r : OrderRequest) : Db OrderReceipt := do
  if r.items.isEmpty then throw OrderRequest.noItems
  let tenant ← Db.find .tenant (fun s => s.tenantByCode? r.tenant)
    (.notFound ("tenant " ++ r.tenant))
  let table ← Db.find .table (fun s => s.tableOf? tenant.id r.tableToken) (.notFound "table")
  Db.transaction do
    let row := fresh.orderRow tenant table r
    let order ← insertAndRead (.insertOrder row) .order fun s => s.order? row.id
    placeLines fresh tenant 0 r.items
    return { orderId := order.id, status := .waiting }

/-- What a guest is told when something was not found. -/
def hideMiss : ApiError → ApiError
  | .notFound _ => .badRequest "order could not be placed"
  | e => e

/-- Places an order as a guest submits it. -/
def place (fresh : Fresh) (r : OrderRequest) : Db OrderReceipt := do
  let r := r.normalize
  match r.check with
  | .error e => throw e
  | .ok _ => fun d =>
    match create fresh r d with
    | (.error e, d) => (.error (hideMiss e), d)
    | (.ok receipt, d) => (.ok receipt, d)

end Orders

end Tableside
