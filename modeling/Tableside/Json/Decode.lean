import Tableside.Json.Reader
import Tableside.Text.Utf8
import Tableside.Time.Rfc3339
import Tableside.Uuid

/-!
Decoding nodes into values.

A text can be refused in two ways: it is malformed, or it is well formed and has another shape than
the one asked for. Where both faults occur the one that stands first in the text decides, so every
decoder walks its node in order. A record is written as an object with its fields in any order, or
as an array with its fields in the order of declaration; unknown fields of an object are passed over
when they are well formed.
-/

namespace Tableside

/-- Why a text is no value of the kind asked for. -/
inductive Refusal
  | malformed
  | mismatch
deriving DecidableEq, Repr

/-- Reads a value of a kind from a node. -/
abbrev Decoder (α : Type) := Node → Except Refusal α

namespace Node

/-- The fault of a node in whose place something else was expected: what cannot be read at all is
malformed, everything else is of another shape. -/
def refusal : Node → Refusal
  | .broken => .malformed
  | .unfit _ => .malformed
  | _ => .mismatch

/-! ## Scalars -/

/-- A string. -/
def text : Decoder String
  | .str s => .ok s
  | n => .error n.refusal

/-- A truth value. -/
def truth : Decoder Bool
  | .bool b => .ok b
  | n => .error n.refusal

/-- A whole number between two bounds. -/
def int (low high : Int) : Decoder Int
  | .num (.int z) => if low ≤ z ∧ z ≤ high then .ok z else .error .mismatch
  | n => .error n.refusal

/-- A whole number of 32 bits. -/
def int32 : Decoder Int32 := fun n =>
  (int Int32.minValue.toInt Int32.maxValue.toInt n).map Int32.ofInt

/-- A whole number of 64 bits. -/
def int64 : Decoder Int64 := fun n =>
  (int Int64.minValue.toInt Int64.maxValue.toInt n).map Int64.ofInt

/-- A string that a reader takes. -/
def parsed (read? : String → Option α) : Decoder α := fun n => do
  let s ← text n
  match read? s with
  | some a => .ok a
  | none => .error .mismatch

/-- An identifier in any of its forms. -/
def uuid : Decoder Uuid :=
  parsed Uuid.ofText?

/-- A time of the relaxed grammar. -/
def instant : Decoder Instant :=
  parsed Instant.ofRelaxed?

/-- Null or a value. -/
def nullable (d : Decoder α) : Decoder (Option α)
  | .null => .ok none
  | n => (d n).map some

/-- An array of values. -/
def list (d : Decoder α) : Decoder (List α)
  | .arr items => items.mapM d
  | n => .error n.refusal

/-- One of a set of names, as a string or as an object that has the name as its only key, with the
value null. -/
def oneOf (named : String → Option α) : Decoder α
  | .str s =>
    match named s with
    | some a => .ok a
    | none => .error .mismatch
  | .obj ((some s, value) :: rest) =>
    match named s, value with
    | none, _ => .error .mismatch
    | some a, .null => if rest.isEmpty then .ok a else .error .malformed
    | some _, n => .error n.refusal
  | _ => .error .malformed

end Node

/-! ## Records -/

/-- A field of a record: what its value must be, whether an object may lack it, and whether an array
may end before it. -/
structure FieldRule where
  name : String
  check : Node → Except Refusal Unit
  mayLack : Bool
  mayEnd : Bool

namespace FieldRule

/-- A field that must be there. -/
def required (name : String) (d : Decoder α) : FieldRule :=
  ⟨name, fun n => (d n).map fun _ => (), false, false⟩

/-- A field that may be null or lacking. -/
def optional (name : String) (d : Decoder α) : FieldRule :=
  ⟨name, fun n => (Node.nullable d n).map fun _ => (), true, false⟩

/-- A field with a value of its own for when it is lacking. -/
def defaulted (name : String) (d : Decoder α) : FieldRule :=
  ⟨name, fun n => (d n).map fun _ => (), true, true⟩

end FieldRule

/-- The values of the fields of a record that were there. -/
abbrev Slots := List (String × Node)

namespace Slots

/-- Walks the fields of an object. A known name comes once at most. -/
def ofFields (rules : List FieldRule) :
    (seen : List String) → List (Option String × Node) → Except Refusal Slots
  | _, [] => .ok []
  | _, (none, _) :: _ => .error .malformed
  | seen, (some name, n) :: rest =>
    match rules.find? fun r => r.name == name with
    | none => if n.wellFormed then ofFields rules seen rest else .error .malformed
    | some rule =>
      if seen.contains name then .error .mismatch
      else do
        rule.check n
        let slots ← ofFields rules (name :: seen) rest
        .ok ((name, n) :: slots)

/-- Walks the items of an array. -/
def ofItems : List FieldRule → List Node → Except Refusal Slots
  | [], [] => .ok []
  | [], _ :: _ => .error .malformed
  | rules, [] => if rules.all (·.mayEnd) then .ok [] else .error .mismatch
  | rule :: rules, n :: rest => do
    rule.check n
    let slots ← ofItems rules rest
    .ok ((rule.name, n) :: slots)

/-- The fields of a record. -/
def read (rules : List FieldRule) : Decoder Slots
  | .obj fields => do
    let slots ← ofFields rules [] fields
    if rules.all fun r => r.mayLack || (slots.lookup r.name).isSome then .ok slots
    else .error .mismatch
  | .arr items => ofItems rules items
  | n => .error n.refusal

/-- The value of a field that must be there. -/
def required (slots : Slots) (name : String) (d : Decoder α) : Except Refusal α :=
  match slots.lookup name with
  | some n => d n
  | none => .error .mismatch

/-- The value of a field, none when it is lacking or null. -/
def optional (slots : Slots) (name : String) (d : Decoder α) : Except Refusal (Option α) :=
  match slots.lookup name with
  | some n => Node.nullable d n
  | none => .ok none

/-- The value of a field, or another when it is lacking. -/
def defaulted (slots : Slots) (name : String) (value : α) (d : Decoder α) : Except Refusal α :=
  match slots.lookup name with
  | some n => d n
  | none => .ok value

end Slots

/-! ## Whole texts -/

/-- The value of a whole text: nothing but blanks may follow it. -/
def Document.decode (doc : Document) (d : Decoder α) : Except Refusal α := do
  let value ← d doc.root
  if doc.trailing then .error .malformed else .ok value

namespace Json

/-- The value of a text. -/
def parse (d : Decoder α) (s : String) : Except Refusal α :=
  (read s).decode d

end Json

end Tableside
