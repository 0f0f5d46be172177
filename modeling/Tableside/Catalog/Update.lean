import Tableside.Catalog.Model
import Tableside.Error
import Tableside.Text.Blank

/-!
Changes to menu items as administrators submit them.

A patch names the fields it changes; the description has a third case, since it can also be removed.
-/

namespace Tableside

/-- What happens to the description of an item. -/
inductive DescriptionChange
  | keep
  | clear
  | set (text : String)
deriving DecidableEq, Repr, Inhabited

/-- A partial change of an item. -/
structure ItemPatch where
  name : Option String
  description : DescriptionChange
  price : Option Int64
  categoryId : Option Uuid
  isActive : Option Bool
deriving DecidableEq, Inhabited

namespace ItemPatch

/-- Whether a patch names no field. -/
def isEmpty (p : ItemPatch) : Bool :=
  p.name.isNone && p.description == .keep && p.price.isNone && p.categoryId.isNone &&
    p.isActive.isNone

/-- A name must not be blank and a price not negative. -/
def validate (p : ItemPatch) : Except ApiError Unit := do
  if p.name.any fun name => (Text.trim name).isEmpty then
    throw (.badRequest "name must not be empty")
  if p.price.any fun price => price.toInt < 0 then
    throw (.badRequest "price must not be negative")

/-- The item after the change. Names are trimmed. -/
def apply (p : ItemPatch) (i : Item) : Item :=
  { i with
    name := (p.name.map Text.trim).getD i.name
    description := match p.description with
      | .keep => i.description
      | .clear => none
      | .set text => some text
    price := p.price.getD i.price
    categoryId := p.categoryId.getD i.categoryId
    isActive := p.isActive.getD i.isActive }

/-! ## Decoding -/

/-- A description that is null or a text; lacking, it is kept. -/
def changeOf (n : Option Node) : Except Refusal DescriptionChange :=
  match n with
  | none => .ok .keep
  | some n => (Node.nullable Node.text n).map fun
    | none => .clear
    | some text => .set text

def fields : List FieldRule :=
  [.optional "name" Node.text, .defaulted "description" (Node.nullable Node.text),
    .optional "price" Node.int64, .optional "category_id" Node.uuid,
    .optional "is_active" Node.truth]

def decode : Decoder ItemPatch := fun n => do
  let slots ← Slots.read fields n
  return {
    name := ← slots.optional "name" Node.text
    description := ← changeOf (slots.lookup "description")
    price := ← slots.optional "price" Node.int64
    categoryId := ← slots.optional "category_id" Node.uuid
    isActive := ← slots.optional "is_active" Node.truth }

end ItemPatch

/-- Whether an item can be ordered, as submitted. -/
structure Availability where
  isActive : Bool
deriving DecidableEq, Inhabited

namespace Availability

def json (a : Availability) : Json :=
  .obj [("is_active", .bool a.isActive)]

def fields : List FieldRule :=
  [.required "is_active" Node.truth]

def decode : Decoder Availability := fun n => do
  let slots ← Slots.read fields n
  return { isActive := ← slots.required "is_active" Node.truth }

end Availability

end Tableside
