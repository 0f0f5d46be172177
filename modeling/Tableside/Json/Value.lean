import Tableside.Json.Number

/-!
JSON values.

The fields of an object that was read stand in the order of their names; where a name comes twice
the value that came last counts. `Json.ofFields` establishes both.
-/

namespace Tableside

/-- A JSON value. -/
inductive Json
  | null
  | bool (value : Bool)
  | num (value : Number)
  | str (value : String)
  | arr (items : List Json)
  | obj (fields : List (String × Json))
deriving Inhabited

namespace Json

/-- A whole number. -/
def int (z : Int) : Json :=
  .num (.int z)

/-- A value, or null for none. -/
def orNull (value : Option Json) : Json :=
  value.getD .null

/-- A field for a value that is there, nothing for none. -/
def optionalField (name : String) (value : Option Json) : List (String × Json) :=
  match value with
  | some v => [(name, v)]
  | none => []

/-- Sets a field among fields in the order of their names, in its old place when the name is
known. -/
def setField (fields : List (String × Json)) (name : String) (value : Json) :
    List (String × Json) :=
  match fields with
  | [] => [(name, value)]
  | (n, v) :: rest =>
    if n = name then (n, value) :: rest
    else if name < n then (name, value) :: (n, v) :: rest
    else (n, v) :: setField rest name value

/-- An object with its fields in the order of their names, in which the last value of each name
counts. -/
def ofFields (fields : List (String × Json)) : Json :=
  .obj (fields.foldl (fun acc f => setField acc f.1 f.2) [])

/-- The value of a field. -/
def field? (j : Json) (name : String) : Option Json :=
  match j with
  | .obj fields => fields.lookup name
  | _ => none

/-! ## Reading stored values again -/

mutual

/-- The value that its own text is read as: every number is read from its text. -/
def reread : Json → Json
  | .num n => .num n.reread
  | .arr items => .arr (rereadItems items)
  | .obj fields => .obj (rereadFields fields)
  | j => j

/-- `reread` on the items of an array. -/
def rereadItems : List Json → List Json
  | [] => []
  | j :: rest => reread j :: rereadItems rest

/-- `reread` on the fields of an object. -/
def rereadFields : List (String × Json) → List (String × Json)
  | [] => []
  | (name, j) :: rest => (name, reread j) :: rereadFields rest

end

end Json

end Tableside
