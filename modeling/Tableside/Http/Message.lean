import Tableside.Auth.Credentials
import Tableside.Json.Value

/-!
Requests and answers as they cross the network.

A target is a path and a query after the first question mark; what follows a number sign is no part
of it. A scheme and an authority may stand before the path. The body of an answer is a JSON value, a
text whose wording is not fixed, or nothing.
-/

namespace Tableside.Http

/-- A request. The names of its headers are in lower case. Its body is text: bodies that are not
UTF-8 cannot be written down here. -/
structure Request where
  method : String
  target : String
  headers : Auth.Headers
  body : String
deriving Inhabited

/-- The body of an answer. -/
inductive Body
  | empty
  | json (value : Json)
  /-- Plain text for people. -/
  | plain
  /-- A page for people. -/
  | page
deriving Inhabited

/-- An answer. Header names are in lower case. -/
structure Response where
  status : Nat
  headers : List (String × String)
  body : Body
deriving Inhabited

namespace Request

/-- The characters of the names of schemes. -/
def isSchemeChar (c : Char) : Bool :=
  c.isAlphanum || c = '+' || c = '-' || c = '.'

/-- What follows the authority in a target that does not begin with a path: a slash when a scheme
stands there and nothing else, and nothing when no scheme stands there. -/
def afterAuthority (target : List Char) : List Char :=
  match target.dropWhile isSchemeChar with
  | ':' :: '/' :: '/' :: rest =>
    match rest.dropWhile fun c => c != '/' && c != '?' && c != '#' with
    | '/' :: rest => '/' :: rest
    | rest => '/' :: rest
  | _ => []

/-- The path and the query as they stand in the target. -/
def resource (r : Request) : List Char :=
  let target := r.target.toList
  let own := if target.head? = some '/' ∨ target = ['*'] then target else afterAuthority target
  own.takeWhile (· != '#')

/-- The path of the target. -/
def path (r : Request) : String :=
  String.ofList (r.resource.takeWhile (· != '?'))

/-- The query of the target, empty when there is none. -/
def query (r : Request) : String :=
  String.ofList ((r.resource.dropWhile (· != '?')).drop 1)

/-- The first value of a header. -/
def header? (r : Request) (name : String) : Option String :=
  r.headers.lookup name

end Request

namespace Body

/-- The media type that goes with a body. -/
def contentType? : Body → Option String
  | empty => none
  | json _ => some "application/json"
  | plain => some "text/plain; charset=utf-8"
  | page => some "text/html; charset=utf-8"

end Body

namespace Response

/-- An answer with the header that its body needs. -/
def ofBody (status : Nat) (body : Body) : Response :=
  ⟨status, (body.contentType?.map fun t => ("content-type", t)).toList, body⟩

/-- The same answer without its body, its headers kept. -/
def withoutBody (r : Response) : Response :=
  { r with body := .empty }

/-- The first value of a header. -/
def header? (r : Response) (name : String) : Option String :=
  r.headers.lookup name

end Response

end Tableside.Http
