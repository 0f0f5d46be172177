import Tableside.Auth.Token
import Tableside.Catalog.Edit
import Tableside.Orders.Listing
import Tableside.Response
import Tableside.Service.MenuRead

/-!
What administrators can ask for. Every request begins with the check of the role and reaches only
rows of the user's tenant. A changed item is followed by dropping the tenant's saved menu.
-/

namespace Tableside

/-- What a listing asks for. -/
structure ListQuery where
  status : Option String
  cursor : Option String
  limit : Option Int
deriving DecidableEq, Inhabited

namespace ListQuery

/-- The state that is asked for; a blank one asks for none. -/
def statusFilter (raw : Option String) : Except ApiError (Option OrderStatus) :=
  match (raw.map Text.trim).filter fun s => !s.isEmpty with
  | none => .ok none
  | some s =>
    match OrderStatus.ofName? s with
    | some status => .ok (some status)
    | none => .error (.badRequest (OrderStatus.unknownMessage s))

end ListQuery

namespace StatusUpdate

/-- The state that an update asks for. -/
def target (u : StatusUpdate) : Except ApiError OrderStatus :=
  let raw := Text.trim u.status
  if raw.isEmpty then .error (.badRequest "status is required")
  else
    match OrderStatus.ofName? raw with
    | some status => .ok status
    | none => .error (.badRequest (OrderStatus.unknownMessage raw))

end StatusUpdate

namespace Instance

/-- One page of the orders of the user's tenant. -/
def listOrders (_ : Instance) (user : AdminUser) (q : ListQuery) :
    Service (Envelope OrdersPage) := do
  Service.check user.ensureAdmin
  let status ← Service.check (ListQuery.statusFilter q.status)
  let page ← Service.db (Orders.list user.tenantId status q.cursor q.limit)
  return ⟨"Orders", page, some (Meta.cursorPage page.limit page.data.length page.nextCursor)⟩

/-- An order of the user's tenant. -/
def getOrder (_ : Instance) (user : AdminUser) (id : Uuid) : Service (Envelope Order) := do
  Service.check user.ensureAdmin
  let order ← Service.db (Orders.get user.tenantId id)
  return .plain "Order found" order

/-- Sets the state of an order of the user's tenant. -/
def updateOrderStatus (_ : Instance) (user : AdminUser) (id : Uuid) (u : StatusUpdate) :
    Service (Envelope Order) := do
  Service.check user.ensureAdmin
  let status ← Service.check u.target
  let order ← Service.db (Orders.setStatus user.tenantId id status)
  return .plain "Order updated" order

/-- Carries out an edit of an item and drops the saved menu of the tenant's code. -/
def editItem (i : Instance) (edit : Db (String × Item)) : Service (Envelope Item) := do
  let (code, item) ← Service.db edit
  i.invalidateMenu code
  return .plain "Item updated" item

/-- Applies a patch to an item of the user's tenant. -/
def patchItem (i : Instance) (user : AdminUser) (id : Uuid) (p : ItemPatch) :
    Service (Envelope Item) := do
  Service.check user.ensureAdmin
  i.editItem (Catalog.patchItem user.tenantId id p)

/-- Sets whether an item of the user's tenant can be ordered. -/
def setItemAvailability (i : Instance) (user : AdminUser) (id : Uuid) (a : Availability) :
    Service (Envelope Item) := do
  Service.check user.ensureAdmin
  i.editItem (Catalog.setAvailability user.tenantId id a)

end Instance

end Tableside
