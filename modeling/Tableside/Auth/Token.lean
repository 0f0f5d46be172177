import Tableside.Auth.Key
import Tableside.Auth.Sha256
import Tableside.Error
import Tableside.Json.Bytes
import Tableside.Text.Base64Url
import Tableside.Text.Split

/-!
Signed tokens of administrators.

A token has three parts in base64 between points: a header, claims, and a signature, which is the
HMAC of the first two under the server's secret. It is taken only when the header names exactly that
algorithm, the signature is right and the claims have not expired; it then says who the
administrator is, for which tenant, and in which role. A token for a stated audience is refused,
since the server has no name of its own.

Claims are read twice, for what they say and for whether they may be used. The second reading takes
the issuer, the audience and the beginning of validity as they come, whatever they are, but must be
able to go on after them.
-/

namespace Tableside

/-- An authenticated administrator. The tenant scopes everything the administrator can do. -/
structure AdminUser where
  adminId : Uuid
  tenantId : Uuid
  role : String
deriving DecidableEq, Inhabited

namespace AdminUser

/-- Whether the user has a role. -/
def ensureRole (user : AdminUser) (role : String) : Except ApiError Unit :=
  if user.role = role then .ok () else .error .forbidden

/-- Whether the user is an administrator. -/
def ensureAdmin (user : AdminUser) : Except ApiError Unit :=
  user.ensureRole "admin"

end AdminUser

namespace Auth

/-! ## Header -/

/-- The one accepted algorithm. -/
def algorithm : String := "HS256"

/-- Fields of the header that are texts when they are there. -/
def headerTexts : List String :=
  ["typ", "cty", "jku", "kid", "x5u", "x5t", "x5t#S256", "enc", "zip", "url", "nonce"]

/-- The known fields of the header. -/
def headerFields : List FieldRule :=
  .required "alg" (Node.oneOf fun s => if s = algorithm then some () else none) ::
    .optional "x5c" (Node.list Node.text) :: .optional "crit" (Node.list Node.text) ::
    .optional "jwk" Key.decode ::
    headerTexts.map fun name => .optional name Node.text

/-- Whether a header is an object that names the algorithm, whose known fields come once and have
their kind, and whose other fields are texts. -/
def headerAccepted (n : Node) : Bool :=
  match n with
  | .obj fields =>
    (Slots.read headerFields n).isOk && fields.all fun (name, value) =>
      headerFields.any (fun r => some r.name == name) || (Node.text value).isOk
  | _ => false

/-! ## Claims -/

/-- What a token says. -/
structure Claims where
  sub : String
  tenantId : String
  role : String
  exp : Nat

/-- Whether a claim names an audience: a text or a list of texts. -/
def namesAudience : Node → Bool
  | .str _ => true
  | .arr items => items.all fun n => (Node.text n).isOk
  | _ => false

/-- A field of any value that a condition lets pass. -/
def claimRule (name : String) (accepted : Node → Bool) : FieldRule :=
  ⟨name, fun n => if n.wellFormed && accepted n then .ok () else .error .mismatch, true, false⟩

/-- Whether reading can go on after a value that was to be a number: a container must be empty. -/
def passesAsNumber : Node → Bool
  | .arr items => items.isEmpty
  | .obj fields => fields.isEmpty
  | .unfit midway => !midway
  | _ => true

/-- Whether reading can go on after a value that was to be kept. The claims around it are one
container. -/
def passesAsKept (n : Node) : Bool :=
  n.keeping (Json.maxDepth - 1) != .lost

namespace Claims

def fields : List FieldRule :=
  [.required "sub" Node.text, .required "tenant_id" Node.text, .required "role" Node.text,
    .required "exp" (Node.int 0 (UInt64.size - 1)),
    claimRule "aud" fun n => !namesAudience n && passesAsKept n,
    claimRule "nbf" passesAsNumber, claimRule "iss" passesAsKept]

/-- The claims of an object; arrays are not taken. -/
def decode : Decoder Claims := fun n =>
  match n with
  | .obj _ => do
    let slots ← Slots.read fields n
    return {
      sub := ← slots.required "sub" Node.text
      tenantId := ← slots.required "tenant_id" Node.text
      role := ← slots.required "role" Node.text
      exp := (← slots.required "exp" (Node.int 0 (UInt64.size - 1))).toNat }
  | n => throw n.refusal

end Claims

/-- Seconds after its expiry for which a token is still taken. -/
def leeway : Int := 60

/-! ## Tokens -/

/-- The content of a part of a token. -/
def part? (cs : List Char) (d : Decoder α) : Option α := do
  let bytes ← Text.Base64Url.decode cs
  let text ← Json.textOfBytes? bytes
  (Json.parse d text).toOption

/-- The claims of a token whose header is accepted and whose signature is right. -/
def verified? (token secret : String) : Option Claims := do
  let (message, signature) ← Text.splitLast '.' token.toList
  let (header, payload) ← Text.splitLast '.' message
  let _ ← part? header fun n => if headerAccepted n then .ok () else .error n.refusal
  let signature ← Text.Base64Url.decode signature
  let expected := Hmac.sign (Text.utf8 secret) (Text.utf8 (String.ofList message))
  if signature = expected then part? payload Claims.decode else none

/-- The administrator that a token names at a time. -/
def user? (token secret : String) (now : Int) : Option AdminUser := do
  let claims ← verified? token secret
  if (claims.exp : Int) < now - leeway then none
  else
    let adminId ← Uuid.ofText? claims.sub
    let tenantId ← Uuid.ofText? claims.tenantId
    some ⟨adminId, tenantId, claims.role⟩

/-- The administrator that a token names, or the refusal of the request. -/
def decodeToken (token secret : String) (now : Int) : Except ApiError AdminUser :=
  match user? token secret now with
  | some user => .ok user
  | none => .error .unauthorized

end Auth

end Tableside
