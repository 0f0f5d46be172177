import Tableside.Http.MediaType
import Tableside.Http.Query
import Tableside.Http.Route
import Tableside.Service.Admin
import Tableside.Service.Guest

/-!
Answering requests to the service.

On a known path with its method the parts of a request are looked at in a fixed order: first, on the
paths of administrators, who asks; then the parameter of the path; then the query or the body. The
first part that is refused decides the answer, and nothing is asked of the database or the cache
before all are accepted. Refusals of the framing are plain texts, those of the service are JSON.
-/

namespace Tableside.Http

/-- What a request cannot bring along: the time, what is made up for a new order, and how many bytes
of its body are read. -/
structure Context where
  now : Int
  fresh : Fresh
  bodyLimit : Nat

namespace Gateway

/-- How many bytes of a body are read where nothing else limits them. -/
def defaultBodyLimit : Nat := 2 * 1024 * 1024

/-- The answer to an unknown path. -/
def unknownPath : Response := .ofBody 404 .empty

/-- The answer to a known path with another method. -/
def wrongMethod (allow : String) : Response :=
  { Response.ofBody 405 .empty with headers := [("allow", allow)] }

/-- A refusal of the framing. -/
def refuse (status : Nat) : Response := .ofBody status .plain

/-- The answer to a failed request. -/
def failure (e : ApiError) : Response := .ofBody e.status (.json e.body)

/-- Carries out what a request asks for. -/
def perform (m : Service α) (status : Nat) (encode : α → Json) (w : World) : Response × World :=
  match m w with
  | (.ok a, w) => (.ofBody status (.json (encode a)), w)
  | (.error e, w) => (failure e, w)

/-- An identifier in a path, in the order: text, then form. -/
def pathId? (piece : String) : Option Uuid :=
  (Text.Percent.segment? piece).bind Uuid.ofText?

/-- The value of a body, or the status of its refusal: another media type, a body that is too large
or not JSON, or one of another shape. -/
def bodyOf (limit : Nat) (d : Decoder α) (r : Request) : Except Nat α :=
  if !MediaType.isJson r then .error 415
  else if limit < r.body.utf8ByteSize then .error 413
  else
    match Json.parse d r.body with
    | .ok a => .ok a
    | .error .malformed => .error 400
    | .error .mismatch => .error 422

/-- Asks with the value of a body. -/
def withBody (limit : Nat) (d : Decoder α) (r : Request) (ask : α → World → Response × World)
    (w : World) : Response × World :=
  match bodyOf limit d r with
  | .ok a => ask a w
  | .error status => (refuse status, w)

/-- Asks with the identifier of a path. -/
def withId (piece : String) (ask : Uuid → World → Response × World) (w : World) :
    Response × World :=
  match pathId? piece with
  | some id => ask id w
  | none => (refuse 400, w)

/-- The answer to a guest. -/
def serveGuest (c : Context) (i : Instance) (r : Request) (route : Route) (w : World) :
    Response × World :=
  match route with
  | .health => perform i.health 200 (Envelope.json Health.json) w
  | .menu =>
    match Query.tenantCode? r.query with
    | some code => perform (i.menuOf code) 200 (Envelope.json Menu.json) w
    | none => (refuse 400, w)
  | .table piece =>
    match Text.Percent.segment? piece with
    | some token => perform (i.resolveTable token) 200 (Envelope.json TableResolution.json) w
    | none => (refuse 400, w)
  | .orders =>
    withBody c.bodyLimit OrderRequest.decode r (fun request =>
      perform (i.placeOrder c.fresh request) 201 (Envelope.json OrderReceipt.json)) w
  | _ => (unknownPath, w)

/-- The answer to an administrator. -/
def serveAdmin (c : Context) (i : Instance) (r : Request) (user : AdminUser) (route : Route)
    (w : World) : Response × World :=
  match route with
  | .adminOrders =>
    match Query.listQuery? r.query with
    | some q => perform (i.listOrders user q) 200 (Envelope.json OrdersPage.json) w
    | none => (refuse 400, w)
  | .adminOrder piece =>
    withId piece (fun id => perform (i.getOrder user id) 200 (Envelope.json Order.json)) w
  | .adminOrderStatus piece =>
    withId piece (fun id => withBody c.bodyLimit StatusUpdate.decode r fun u =>
      perform (i.updateOrderStatus user id u) 200 (Envelope.json Order.json)) w
  | .adminItem piece =>
    withId piece (fun id => withBody c.bodyLimit ItemPatch.decode r fun p =>
      perform (i.patchItem user id p) 200 (Envelope.json Item.json)) w
  | .adminItemAvailability piece =>
    withId piece (fun id => withBody c.bodyLimit Availability.decode r fun a =>
      perform (i.setItemAvailability user id a) 200 (Envelope.json Item.json)) w
  | _ => (unknownPath, w)

/-- The answer to a request on a route with its method. -/
def serve (c : Context) (i : Instance) (r : Request) (route : Route) (w : World) :
    Response × World :=
  if route.isAdmin then
    match Auth.extractAdmin r.headers i.jwtSecret c.now with
    | .ok user => serveAdmin c i r user route w
    | .error e => (failure e, w)
  else serveGuest c i r route w

/-- Answers on a known path: its own method is served, asking for its head gives the answer without
the body, and every other method is refused. -/
def byMethod (own : String) (r : Request) (answer : World → Response × World) (w : World) :
    Response × World :=
  if r.method = own then answer w
  else if r.method = "HEAD" ∧ own = "GET" then
    match answer w with
    | (response, w) => (response.withoutBody, w)
  else (wrongMethod (Route.allowFor own), w)

/-- The answer to a request. -/
def handle (c : Context) (i : Instance) (r : Request) (w : World) : Response × World :=
  match Route.ofPath? r.path with
  | some route => byMethod route.method r (serve c i r route) w
  | none => (unknownPath, w)

end Gateway

end Tableside.Http
