import Tableside.Cursor
import Tableside.Orders.Request
import Tableside.Store.Database

/-!
Looking at orders and setting their state.

A page of a listing holds the newest orders first, by creation time and id, below the position of a
cursor if one is given. It is cut from one row more than it shows, and the row too many says that
there is a next page, which begins after the last row shown. A cursor that cannot be read counts as
none. Lines are fetched for all orders of a page at once.
-/

namespace Tableside

/-! ## Order of rows -/

/-- How a time is written at its beginning: with a plus sign, with a minus sign, or with four digits
of year. Stored times are compared as texts, so those with a sign come first. -/
def Instant.era (t : Instant) : Nat :=
  if 9999 < t.year then 0 else if t.year < 0 then 1 else 2

/-- The order of stored times; within the four-digit years it is the order of time. -/
def Instant.storedBefore (a b : Instant) : Bool :=
  a.era < b.era || (a.era == b.era && decide (a < b))

/-- The position of a row in a listing. -/
def OrderRow.cursor (o : OrderRow) : Cursor := ⟨o.createdAt, o.id⟩

/-- The order of positions. -/
def Cursor.before (a b : Cursor) : Bool :=
  a.createdAt.storedBefore b.createdAt || (a.createdAt == b.createdAt && decide (a.id < b.id))

/-- Whether a row is not older than another. -/
def OrderRow.notBefore (a b : OrderRow) : Bool :=
  !a.cursor.before b.cursor

/-! ## Pages -/

/-- The size of a page when none that is allowed is asked for. -/
def defaultPageLimit : Nat := 20

/-- The largest size of a page. -/
def maxPageLimit : Nat := 100

/-- The size of a page: what is asked for when that is between one and the largest. -/
def pageLimit (asked : Option Int) : Nat :=
  match asked with
  | some n => if 0 < n ∧ n ≤ maxPageLimit then n.toNat else defaultPageLimit
  | none => defaultPageLimit

/-- A page of orders, the token of the next page, and the size that was applied. -/
structure OrdersPage where
  data : List Order
  nextCursor : Option String
  limit : Nat
deriving Inhabited

/-- The size that was applied is not shown. -/
def OrdersPage.json (p : OrdersPage) : Json :=
  .obj [("data", .arr (p.data.map Order.json)),
    ("next_cursor", Json.orNull (p.nextCursor.map .str))]

namespace Orders

/-- Which rows a listing asks for. -/
structure Filter where
  tenantId : Uuid
  status : Option OrderStatus
  below : Option Cursor

/-- Whether a row is asked for. -/
def Filter.admits (f : Filter) (o : OrderRow) : Bool :=
  o.tenantId == f.tenantId && f.status.all (fun s => o.status == s.name) &&
    f.below.all fun c => o.cursor.before c

/-- The first `count` rows that are asked for, newest first. -/
def newest (s : Store) (f : Filter) (count : Nat) : List OrderRow :=
  ((s.orders.filter f.admits).mergeSort OrderRow.notBefore).take count

/-- The lines of a set of orders, by order and place. -/
def linesOf (s : Store) (ids : List Uuid) : List LineRow :=
  (s.lines.filter fun l => ids.contains l.orderId).mergeSort fun a b =>
    decide (a.orderId < b.orderId) ||
      (a.orderId == b.orderId && decide (a.lineNo.toInt ≤ b.lineNo.toInt))

/-- Fetches the lines of a set of orders; all of them must be readable. -/
def readLines (ids : List Uuid) : Db (List OrderLine) :=
  Db.find .line (fun s => (linesOf s ids).mapM LineRow.read?) .database

/-- A row with those of the lines that belong to it. -/
def withLines (row : OrderRow) (lines : List OrderLine) : Order :=
  { row with items := lines.filter fun l => l.orderId == row.id }

/-- Fetches the lines of a set of rows; no rows need no question. -/
def attachLines (rows : List OrderRow) : Db (List Order) :=
  if rows.isEmpty then pure []
  else do
    let lines ← readLines (rows.map (·.id))
    return rows.map fun row => withLines row lines

/-- Fetches the lines of one row. -/
def attachTo (row : OrderRow) : Db Order := do
  let lines ← readLines [row.id]
  return withLines row lines

/-- The cursor of a token; an empty one counts as none. -/
def cursorOf? (token : Option String) : Option Cursor :=
  token.bind fun t => if t.isEmpty then none else Cursor.decode t

/-- The token of the next page, from the rows of this one and the row too many. -/
def nextToken? (rows : List OrderRow) (limit : Nat) : Option String :=
  if limit < rows.length then (rows.take limit).getLast?.map fun o => o.cursor.encode else none

/-- One page of a tenant's orders. -/
def list (tenantId : Uuid) (status : Option OrderStatus) (token : Option String)
    (asked : Option Int) : Db OrdersPage := do
  let limit := pageLimit asked
  let filter : Filter := ⟨tenantId, status, cursorOf? token⟩
  let rows ← Db.select .order fun s => newest s filter (limit + 1)
  let data ← attachLines (rows.take limit)
  return { data, nextCursor := nextToken? rows limit, limit }

/-! ## Single orders -/

/-- What is said of an order that is not there. -/
def missing (id : Uuid) : ApiError :=
  .notFound ("order " ++ id.text)

/-- An order of a tenant. -/
def get (tenantId id : Uuid) : Db Order := do
  let row ← Db.find .order (fun s => s.orderOf? tenantId id) (missing id)
  attachTo row

/-- Sets the state of an order of a tenant, whatever it is. -/
def setStatus (tenantId id : Uuid) (status : OrderStatus) : Db Order := do
  let row ← Db.find .order (fun s => s.orderOf? tenantId id) (missing id)
  Db.run (.updateStatus row.id status)
  let row ← Db.find .order (fun s => s.order? row.id) .database
  attachTo row

end Orders

end Tableside
