import Tableside.Http.Message
import Tableside.Text.Percent

/-!
The paths of the service and the method of each.

Paths are matched as they stand, piece by piece; a piece in the place of a parameter is not empty
and is decoded only later. Where a path is read, asking for its head is allowed too.
-/

namespace Tableside.Http

/-- A path of the service, with its parameter as it stands. -/
inductive Route
  | health
  | menu
  | table (token : String)
  | orders
  | adminOrders
  | adminOrder (id : String)
  | adminOrderStatus (id : String)
  | adminItem (id : String)
  | adminItemAvailability (id : String)
deriving DecidableEq, Repr

namespace Route

/-- A route with a parameter, which is not empty. -/
def withParameter (make : String → Route) (piece : String) : Option Route :=
  if piece.isEmpty then none else some (make piece)

/-- The route of a path. -/
def ofPath? (path : String) : Option Route :=
  match (Text.splitAll '/' path.toList).map String.ofList with
  | ["", "health"] => some health
  | ["", "api", "v1", "menu"] => some menu
  | ["", "api", "v1", "orders"] => some orders
  | ["", "api", "v1", "table", token] => withParameter table token
  | ["", "api", "admin", "orders"] => some adminOrders
  | ["", "api", "admin", "orders", id] => withParameter adminOrder id
  | ["", "api", "admin", "orders", id, "status"] => withParameter adminOrderStatus id
  | ["", "api", "admin", "items", id] => withParameter adminItem id
  | ["", "api", "admin", "items", id, "availability"] =>
    withParameter adminItemAvailability id
  | _ => none

/-- The method of a route. -/
def method : Route → String
  | health => "GET"
  | menu => "GET"
  | table _ => "GET"
  | orders => "POST"
  | adminOrders => "GET"
  | adminOrder _ => "GET"
  | adminOrderStatus _ => "PATCH"
  | adminItem _ => "PATCH"
  | adminItemAvailability _ => "PATCH"

/-- The methods that may be used on a path of a method. -/
def allowFor (method : String) : String :=
  if method = "GET" then "GET,HEAD" else method

/-- Whether a route is for administrators. -/
def isAdmin : Route → Bool
  | adminOrders => true
  | adminOrder _ => true
  | adminOrderStatus _ => true
  | adminItem _ => true
  | adminItemAvailability _ => true
  | _ => false

end Route

end Tableside.Http
