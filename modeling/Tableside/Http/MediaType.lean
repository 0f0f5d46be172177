import Tableside.Http.Message
import Tableside.Text.Split

/-!
Media types of request bodies.

A body counts as JSON when its media type is `application/json`, or has `json` as its subtype before
or after the last plus sign, and is well formed up to its last parameter.
-/

namespace Tableside.Http.MediaType

/-- The characters of names in a media type. -/
def isToken (c : Char) : Bool :=
  c.isAlphanum || "!#$%&'*+-.^_`|~".toList.contains c

/-- The characters within a quoted value. -/
def isQuotable (c : Char) : Bool :=
  31 < c.toNat && c.toNat != 127

/-- What follows the value of a parameter; none when the value is not well formed. A quoted value is
not empty and has nothing but spaces up to the next semicolon. -/
def afterValue? (cs : List Char) : Option (List Char) :=
  match cs with
  | '"' :: cs =>
    let first := cs.take 1
    let rest := (cs.drop 1).dropWhile fun c => c != '"' && isQuotable c
    match first.all isQuotable, rest with
    | true, '"' :: rest =>
      match rest.dropWhile (· == ' ') with
      | [] => some []
      | ';' :: rest => some rest
      | _ => none
    | _, _ => none
  | cs =>
    match cs.dropWhile isToken with
    | [] => some []
    | ';' :: rest => if cs.head? = some ';' then none else some rest
    | _ => none

/-- Whether a list of parameters is well formed; `fuel` bounds their number. -/
def parametersOk : (fuel : Nat) → List Char → Bool
  | 0, _ => true
  | fuel + 1, cs =>
    match cs.dropWhile (· == ' ') with
    | [] => true
    | cs =>
      let name := cs.takeWhile isToken
      match name.isEmpty, cs.drop name.length with
      | false, '=' :: rest =>
        match afterValue? rest with
        | some rest => parametersOk fuel rest
        | none => false
      | _, _ => false

/-- The type and subtype of a media type, in lower case, and whether its parameters are well
formed. -/
def parse? (value : String) : Option (String × String) :=
  let cs := value.toList
  let kind := cs.takeWhile isToken
  match kind.isEmpty, cs.drop kind.length with
  | false, '/' :: rest =>
    let sub := rest.takeWhile isToken
    let names := (String.ofList (kind.map Char.toLower), String.ofList (sub.map Char.toLower))
    match rest.drop sub.length with
    | [] => some names
    | ';' :: parameters =>
      if !sub.isEmpty && parametersOk (parameters.length + 1) parameters then some names else none
    | _ => none
  | _, _ => none

/-- Whether a subtype is `json` before or after its last plus sign. -/
def namesJson (subtype : String) : Bool :=
  match subtype.toList with
  | [] => false
  | first :: rest =>
    match Text.splitLast '+' rest with
    | some (before, suffix) =>
      String.ofList (first :: before) == "json" || String.ofList suffix == "json"
    | none => subtype == "json"

/-- Whether a request says that its body is JSON. -/
def isJson (r : Request) : Bool :=
  match r.header? "content-type" with
  | some value =>
    if Auth.isVisible value then
      match parse? value with
      | some (kind, subtype) => kind == "application" && namesJson subtype
      | none => false
    else false
  | none => false

end Tableside.Http.MediaType
