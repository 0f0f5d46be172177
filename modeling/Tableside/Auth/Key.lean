import Tableside.Json.Free

/-!
Keys that the header of a token can carry.

A carried key is never used, but a header with one that is not well formed is refused. A key is an
object with what all keys can say, and with the parameters of one kind of key at least. It is read
as a whole before its fields are looked at, so that unknown fields too can spoil it.
-/

namespace Tableside.Auth.Key

/-- The name of an algorithm. Any name will do, also one that stands as the key of an object with
nothing for its value. -/
def algorithm : Decoder Unit
  | .str _ => .ok ()
  | .obj [(some _, .null)] => .ok ()
  | .obj [(some _, .obj [])] => .ok ()
  | n => .error n.refusal

/-- What all keys can say. -/
def commonFields : List FieldRule :=
  [.optional "use" Node.text, .optional "key_ops" (Node.list Node.text),
    .optional "alg" algorithm, .optional "kid" Node.text, .optional "x5u" Node.text,
    .optional "x5c" (Node.list Node.text), .optional "x5t" Node.text,
    .optional "x5t#S256" Node.text]

/-- One of a set of names. -/
def named (names : List String) : Decoder Unit :=
  Node.oneOf fun s => if names.contains s then some () else none

/-- The curves that keys lie on. -/
def curves : List String := ["P-256", "P-384", "P-521", "Ed25519"]

/-- A kind of key: its name, whether it lies on a curve, and its other parameters. -/
def kind (name : String) (onCurve : Bool) (parameters : List String) : List FieldRule :=
  .required "kty" (named [name]) ::
    (if onCurve then [.required "crv" (named curves)] else []) ++
    parameters.map fun p => .required p Node.text

/-- The kinds of keys. -/
def kinds : List (List FieldRule) :=
  [kind "EC" true ["x", "y"], kind "RSA" false ["n", "e"], kind "oct" false ["k"],
    kind "OKP" true ["x"]]

/-- A key in a header, which is itself the outermost container. -/
def decode : Decoder Unit := fun n =>
  match n with
  | .obj _ =>
    if n.keeping (Json.maxDepth - 1) = .whole ∧ (Slots.read commonFields n).isOk ∧
        kinds.any fun rules => (Slots.read rules n).isOk then
      .ok ()
    else .error .mismatch
  | n => .error n.refusal

end Tableside.Auth.Key
