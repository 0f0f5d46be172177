import Tableside.Orders.Placement
import Tableside.Response
import Tableside.Service.MenuRead

/-!
What guests and probes can ask for: the menu of a restaurant, the table of a scanned token, placing
an order, and whether the server is well.
-/

namespace Tableside

/-- Whether the database answers. -/
structure Health where
  databaseUp : Bool
deriving DecidableEq, Inhabited

namespace Health

def json (h : Health) : Json :=
  .obj [("status", .str (if h.databaseUp then "ok" else "degraded")),
    ("database", .str (if h.databaseUp then "up" else "down"))]

end Health

namespace Instance

/-- Whether the server is well; it always answers. -/
def health (_ : Instance) : Service (Envelope Health) := fun w =>
  match Service.db (Db.run .mark) w with
  | (answer, w) => (.ok (.plain "Health check" ⟨answer.isOk⟩), w)

/-- The tenant and table of a scanned token. -/
def resolveTable (_ : Instance) (token : String) : Service (Envelope TableResolution) := do
  let resolution ← Service.db (Catalog.resolveTable token)
  return .plain "Table" resolution

/-- Places an order. -/
def placeOrder (_ : Instance) (fresh : Fresh) (r : OrderRequest) :
    Service (Envelope OrderReceipt) := do
  let receipt ← Service.db (Orders.place fresh r)
  return .plain "Order created" receipt

/-- The menu of a tenant code as a query gives it. -/
def menuOf (i : Instance) (code : Option String) : Service (Envelope Menu) := do
  match code with
  | some code =>
    if (Text.trim code).isEmpty then throw (.badRequest "tenant_code is required")
    let menu ← i.getMenu code
    return .plain "Menu" menu
  | none => throw (.badRequest "tenant_code is required")

end Instance

end Tableside
