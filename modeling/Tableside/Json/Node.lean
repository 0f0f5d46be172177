import Tableside.Json.Value

/-!
What a JSON text holds, as far as it can be read.

A node keeps all that decides whether a text is accepted and, if not, in which way it fails: fields
in their order with repeated names, numbers too large to hold, strings that pair no surrogates, and
the place where reading stopped. A text that breaks off inside an array or object ends there in
`Node.broken`; a decoder that walks the nodes in order meets the faults in the order of the text.

A value that is read to be kept and cannot be may leave the reader after it or in the middle of it,
which `Node.keeping` tells: only in the first case can the rest of the text still be read.
-/

namespace Tableside

/-- The content of a JSON text. -/
inductive Node
  | null
  | bool (value : Bool)
  | num (value : Number)
  | str (value : String)
  /-- A number that is too large, or a string in which a surrogate stands alone; `midway` when that
  is found before its last character. -/
  | unfit (midway : Bool)
  | arr (items : List Node)
  | obj (fields : List (Option String × Node))
  /-- The text stops being JSON here. -/
  | broken
deriving Inhabited

/-- A whole text: its content, and whether something other than blanks follows it. -/
structure Document where
  root : Node
  trailing : Bool

namespace Node

/-- The text of a node that is a string. -/
def name? : Node → Option String
  | .str s => some s
  | _ => none

mutual

/-- Whether a node is well formed all through, unfit numbers and strings let pass: what is asked of
a value that nobody reads. -/
def wellFormed : Node → Bool
  | .broken => false
  | .arr items => wellFormedItems items
  | .obj fields => wellFormedFields fields
  | _ => true

/-- `wellFormed` on the items of an array. -/
def wellFormedItems : List Node → Bool
  | [] => true
  | n :: rest => wellFormed n && wellFormedItems rest

/-- `wellFormed` on the fields of an object. -/
def wellFormedFields : List (Option String × Node) → Bool
  | [] => true
  | (_, n) :: rest => wellFormed n && wellFormedFields rest

end

/-- How reading a value to keep it ends. -/
inductive Keeping
  /-- It can be kept. -/
  | whole
  /-- It cannot be kept, and its text was read to the end. -/
  | spoilt
  /-- It cannot be kept, and reading stopped within it. -/
  | lost
deriving DecidableEq, Repr

/-- A container goes on after an item only when that is whole; an item that is spoilt spoils the
container when it stands last, and loses it otherwise. -/
def Keeping.followedBy (first rest : Keeping) (last : Bool) : Keeping :=
  match first with
  | whole => rest
  | spoilt => if last then spoilt else lost
  | lost => lost

mutual

/-- How reading a value to keep it ends, when containers may nest `room` deep. -/
def keeping (room : Nat) : Node → Keeping
  | .unfit midway => if midway then .lost else .spoilt
  | .broken => .lost
  | .arr items =>
    match room with
    | 0 => .lost
    | room + 1 => keepingItems room items
  | .obj fields =>
    match room with
    | 0 => .lost
    | room + 1 => keepingFields room fields
  | _ => .whole

/-- `keeping` on the items of an array. -/
def keepingItems (room : Nat) : List Node → Keeping
  | [] => .whole
  | n :: rest => (keeping room n).followedBy (keepingItems room rest) rest.isEmpty

/-- `keeping` on the fields of an object; a name that is unfit loses it. -/
def keepingFields (room : Nat) : List (Option String × Node) → Keeping
  | [] => .whole
  | (none, _) :: _ => .lost
  | (some _, n) :: rest => (keeping room n).followedBy (keepingFields room rest) rest.isEmpty

end

mutual

/-- The node of a value. -/
def ofJson : Json → Node
  | .null => .null
  | .bool b => .bool b
  | .num n => .num n
  | .str s => .str s
  | .arr items => .arr (ofItems items)
  | .obj fields => .obj (ofFields fields)

/-- The nodes of the items of an array. -/
def ofItems : List Json → List Node
  | [] => []
  | j :: rest => ofJson j :: ofItems rest

/-- The nodes of the fields of an object. -/
def ofFields : List (String × Json) → List (Option String × Node)
  | [] => []
  | (name, j) :: rest => (some name, ofJson j) :: ofFields rest

end

end Node

end Tableside
