import Tableside.Http.Gateway

/-!
The whole application: the service, a page of documentation, an answer for unknown paths, and what
goes around every answer.

A request that announces a body above the limit is refused before anything else. Every other answer
carries the request's identifier, taken from the request or made up, and says which pages of other
origins may read it; a question what is allowed is answered without reaching the service.
-/

namespace Tableside.Http

/-- What the application is set up with. -/
structure Application where
  server : Instance
  allowedOrigins : List String

namespace Application

/-- The largest body that is read. -/
def maxBody : Nat := 1024 * 1024

/-- The path of the documentation. -/
def docsPath : String := "/docs"

/-- The answer for an unknown path names the path. -/
def notFound (r : Request) : Response :=
  .ofBody 404 (.json ((Envelope.plain "Not Found" (Json.obj [("path", .str r.path)])).json id))

/-- The method of a known path. -/
def methodOf? (r : Request) : Option String :=
  if r.path = docsPath then some "GET" else (Route.ofPath? r.path).map Route.method

/-- The answer without what goes around it. -/
def inner (app : Application) (c : Context) (r : Request) (w : World) : Response × World :=
  match Route.ofPath? r.path with
  | some route => Gateway.byMethod route.method r (Gateway.serve c app.server r route) w
  | none =>
    if r.path = docsPath then
      Gateway.byMethod "GET" r (fun w => (.ofBody 200 .page, w)) w
    else if r.method = "HEAD" then ((notFound r).withoutBody, w)
    else (notFound r, w)

/-- The header that a known path with another method gives on every answer. -/
def allowHeader (r : Request) : List (String × String) :=
  match methodOf? r with
  | some own =>
    if r.method = own ∨ (r.method = "HEAD" ∧ own = "GET") then []
    else [("allow", Route.allowFor own)]
  | none => []

/-- What pages of other origins may do. -/
def originHeaders (app : Application) (r : Request) : List (String × String) :=
  let origin := match r.header? "origin" with
    | some o => if app.allowedOrigins.contains o then [("access-control-allow-origin", o)] else []
    | none => []
  ("access-control-allow-credentials", "true") :: origin ++
    [("vary", "origin, access-control-request-method, access-control-request-headers")]

/-- The answer to the question what is allowed. -/
def preflight (app : Application) (r : Request) : Response where
  status := 200
  headers := originHeaders app r ++
    [("access-control-allow-methods", "GET,POST,PATCH,OPTIONS"),
      ("access-control-allow-headers", "content-type,authorization")] ++ allowHeader r
  body := .empty

/-- The length of the body that a request announces, if it announces one that can be read. -/
def announced? (r : Request) : Option Nat :=
  (r.header? "content-length").bind fun value => Text.natUpTo? (UInt64.size - 1) value.toList

/-- The refusal of a request with too large a body. -/
def tooLarge (r : Request) : Response :=
  let refusal := Gateway.refuse 413
  let refusal := { refusal with headers := refusal.headers ++ allowHeader r }
  if r.method = "HEAD" then refusal.withoutBody else refusal

/-- The answer to a request; `requestId` is the identifier for one that brings none. No more of the
body is read than was announced. -/
def handle (app : Application) (c : Context) (requestId : String) (r : Request) (w : World) :
    Response × World :=
  let length := (announced? r).getD maxBody
  if maxBody < length then (tooLarge r, w)
  else
    let c := { c with bodyLimit := length }
    let own := ("x-request-id", (r.header? "x-request-id").getD requestId)
    if r.method = "OPTIONS" then
      let answer := preflight app r
      ({ answer with headers := own :: answer.headers }, w)
    else
      match inner app c r w with
      | (answer, w) =>
        ({ answer with headers := own :: (originHeaders app r ++ answer.headers) }, w)

end Application

end Tableside.Http
