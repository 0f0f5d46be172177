import Tableside.Json.Value
import Tableside.Text.Split

/-!
Pointers into JSON values: names and positions after slashes, in which `~1` stands for a slash and
`~0` for a tilde. The empty pointer names the whole value.
-/

namespace Tableside.Json

/-- A name with its escapes resolved. -/
def unescapePointer : List Char → List Char
  | '~' :: '1' :: rest => '/' :: unescapePointer rest
  | '~' :: '0' :: rest => '~' :: unescapePointer rest
  | c :: rest => c :: unescapePointer rest
  | [] => []

/-- A position in an array: digits without a leading zero. -/
def pointerIndex? (cs : List Char) : Option Nat :=
  if cs.head? = some '0' ∧ 1 < cs.length then none else Text.nat? cs

/-- The value under one name or position. -/
def child? (j : Json) (name : List Char) : Option Json :=
  match j with
  | .obj fields => fields.lookup (String.ofList name)
  | .arr items => (pointerIndex? name).bind fun k => items[k]?
  | _ => none

/-- The value that a pointer names. -/
def pointer? (j : Json) (pointer : String) : Option Json :=
  match Text.splitAll '/' pointer.toList with
  | [[]] => some j
  | [] :: names => names.foldlM (fun j name => child? j (unescapePointer name)) j
  | _ => none

end Tableside.Json
