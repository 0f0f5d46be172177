import Tableside.Error

/-!
The envelope around every answer: a message, the data, and what is said about the page.
-/

namespace Tableside

/-- What is said about a page of a listing: its size, how many rows it has, and where the next one
begins. Other answers say nothing. -/
structure Meta where
  limit : Option Nat
  count : Option Nat
  nextCursor : Option String
deriving DecidableEq, Inhabited

namespace Meta

/-- Nothing about a page. -/
def empty : Meta := ⟨none, none, none⟩

/-- A page of a listing. -/
def cursorPage (limit count : Nat) (nextCursor : Option String) : Meta :=
  ⟨some limit, some count, nextCursor⟩

def json (m : Meta) : Json :=
  .obj (Json.optionalField "limit" (m.limit.map fun n => .int n) ++
    Json.optionalField "count" (m.count.map fun n => .int n) ++
    Json.optionalField "next_cursor" (m.nextCursor.map .str))

end Meta

/-- An answer in its envelope. -/
structure Envelope (α : Type) where
  message : String
  data : α
  paging : Option Meta
deriving Inhabited

namespace Envelope

/-- An answer that is no page. -/
def plain (message : String) (data : α) : Envelope α :=
  ⟨message, data, some Meta.empty⟩

def json (encode : α → Json) (e : Envelope α) : Json :=
  .obj [("message", .str e.message), ("data", encode e.data),
    ("meta", Json.orNull (e.paging.map Meta.json))]

end Envelope

/-- The body of a failed request. -/
def ApiError.body (e : ApiError) : Json :=
  (Envelope.plain e.message e.message).json fun text => .obj [("error", .str text)]

end Tableside
