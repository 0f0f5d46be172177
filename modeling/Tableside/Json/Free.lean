import Tableside.Json.Decode

/-!
Values of any shape.

A free value is kept as it is, with one exception: an object whose first key is
`Json.embeddingKey` stands for another value, whose text the key carries. The text is read on its
own, with the whole depth of nesting again at its disposal, and can carry further texts. A value
that is stored as a text and read again goes through the same rules, so that not every value comes
back as it was, and some do not come back at all.
-/

namespace Tableside

namespace Json

/-- The depth to which arrays and objects may nest. -/
def maxDepth : Nat := 127

/-- The key of an object that stands for the value of a text. -/
def embeddingKey : String := "$serde_json::private::RawValue"

end Json

namespace Node

/-! ## Reading -/

mutual

/-- Any value that nests at most `room` deep; `embedded` gives the value of a text that an object
carries. -/
def jsonWith (embedded : String → Except Refusal Json) (room : Nat) : Decoder Json
  | .null => .ok .null
  | .bool b => .ok (.bool b)
  | .num n => .ok (.num n)
  | .str s => .ok (.str s)
  | .arr items =>
    match room with
    | 0 => .error .malformed
    | room + 1 => (jsonItems embedded room items).map .arr
  | .obj fields =>
    match room with
    | 0 => .error .malformed
    | room + 1 => jsonObject embedded room fields
  | .unfit _ => .error .malformed
  | .broken => .error .malformed

/-- `jsonWith` on the items of an array. -/
def jsonItems (embedded : String → Except Refusal Json) (room : Nat) :
    List Node → Except Refusal (List Json)
  | [] => .ok []
  | n :: rest => do
    let j ← jsonWith embedded room n
    let rest ← jsonItems embedded room rest
    .ok (j :: rest)

/-- `jsonWith` on an object. One that carries a text has no other field, and what is wrong with the
text is wrong with the shape of the object only. -/
def jsonObject (embedded : String → Except Refusal Json) (room : Nat) :
    List (Option String × Node) → Except Refusal Json
  | [] => .ok (Json.ofFields [])
  | (none, _) :: _ => .error .malformed
  | (some name, n) :: rest =>
    if name = Json.embeddingKey then do
      let j ← embedded (← text n)
      if rest.isEmpty then .ok j else .error .malformed
    else do
      let j ← jsonWith embedded room n
      let rest ← jsonFields embedded room rest
      .ok (Json.ofFields ((name, j) :: rest))

/-- `jsonWith` on the fields of an object after the first. -/
def jsonFields (embedded : String → Except Refusal Json) (room : Nat) :
    List (Option String × Node) → Except Refusal (List (String × Json))
  | [] => .ok []
  | (none, _) :: _ => .error .malformed
  | (some name, n) :: rest => do
    let j ← jsonWith embedded room n
    let rest ← jsonFields embedded room rest
    .ok ((name, j) :: rest)

end

/-- The value of an embedded text; `levels` bounds how many texts stand in one another. -/
def embeddedJson : (levels : Nat) → String → Except Refusal Json
  | 0, _ => .error .mismatch
  | levels + 1, s =>
    match Json.parse (jsonWith (embeddedJson levels) Json.maxDepth) s with
    | .ok j => .ok j
    | .error _ => .error .mismatch

/-- Any value that nests at most `room` deep. An embedded text is longer than those that it embeds,
so its length bounds their number. -/
def json (room : Nat) : Decoder Json :=
  jsonWith (fun s => embeddedJson (s.length + 1) s) room

end Node

namespace Json

/-! ## Storing -/

/-- The value that comes back when a value is stored as a text and the text is read: null counts as
no value, and an object lists its fields by name. -/
def restored (j : Json) : Except Refusal (Option Json) :=
  (Node.json maxDepth (Node.ofJson j.reread)).map fun
    | .null => none
    | j => some j

end Json

end Tableside
