import Tableside.Auth.Token
import Tableside.Text.Blank

/-!
Where a request carries the token of an administrator: in the first `Authorization` header, after
`Bearer`, or else in the first cookie of the given name over all `Cookie` headers.
-/

namespace Tableside.Auth

/-- Headers of a request, in order; names are in lower case. -/
abbrev Headers := List (String × String)

/-- Whether a header value is visible text: printable ASCII and tabs. -/
def isVisible (value : String) : Bool :=
  value.toList.all fun c => c = '\t' || (32 ≤ c.toNat && c.toNat ≤ 126)

/-- The values of a header that are visible text, and none in the place of the others. -/
def headerValues (headers : Headers) (name : String) : List (Option String) :=
  (headers.filter fun h => h.1 == name).map fun h => if isVisible h.2 then some h.2 else none

/-- The cookie that carries the token. -/
def cookieName : String := "admin_token"

/-- The token after `Bearer` in a header value. -/
def bearerToken? (value : String) : Option String :=
  let lead := "Bearer ".toList
  let cs := value.toList
  if cs.take lead.length = lead then
    let token := Text.trimChars (cs.drop lead.length)
    if token.isEmpty then none else some (String.ofList token)
  else none

/-- The name and value of a piece of a cookie header. -/
def cookiePair? (piece : List Char) : Option (String × String) :=
  (Text.splitOnce '=' (Text.trimChars piece)).map fun (name, value) =>
    (String.ofList name, String.ofList value)

/-- All cookies, in order. -/
def cookies (headers : Headers) : List (String × String) :=
  (headerValues headers "cookie").filterMap id |>.flatMap fun value =>
    (Text.splitAll ';' value.toList).filterMap cookiePair?

/-- The token of a request. -/
def token? (headers : Headers) : Option String :=
  match (headerValues headers "authorization").head?.bind fun value => value.bind bearerToken? with
  | some token => some token
  | none => ((cookies headers).find? fun c => c.1 == cookieName).map (·.2)

/-- The administrator that a request comes from. Without a token the request is refused before the
server's secret is looked for. -/
def extractAdmin (headers : Headers) (secret : Option String) (now : Int) :
    Except ApiError AdminUser :=
  match token? headers with
  | none => .error .unauthorized
  | some token =>
    match secret with
    | none => .error .internal
    | some secret => decodeToken token secret now

end Tableside.Auth
