import Tableside.Json.Value

/-!
What can go wrong with a request, with its text and its status code.
-/

namespace Tableside

/-- The failure of a request. -/
inductive ApiError
  | notFound (what : String)
  | badRequest (why : String)
  | unauthorized
  | forbidden
  | conflict (what : String)
  | unavailable (what : String)
  /-- The database failed. -/
  | database
  /-- The server is not set up for the request. -/
  | internal
deriving DecidableEq, Repr

namespace ApiError

/-- The text of a failure. -/
def message : ApiError → String
  | notFound what => "Not Found: " ++ what
  | badRequest why => "Bad Request: " ++ why
  | unauthorized => "Unauthorized"
  | forbidden => "Forbidden"
  | conflict what => "Conflict: " ++ what
  | unavailable what => "Service Unavailable: " ++ what
  | database => "ORM error"
  | internal => "Internal Server Error"

/-- The HTTP status of a failure. -/
def status : ApiError → Nat
  | notFound _ => 404
  | badRequest _ => 400
  | unauthorized => 401
  | forbidden => 403
  | conflict _ => 409
  | unavailable _ => 503
  | database => 500
  | internal => 500

/-- Whether something was looked for and not found. -/
def isNotFound : ApiError → Bool
  | notFound _ => true
  | _ => false

end ApiError

end Tableside
