import Tableside.Service.Admin
import Tableside.Text.Percent

/-!
Queries of requests: pairs of names and values. A known name comes once at most, and unknown ones
are passed over.
-/

namespace Tableside.Http.Query

/-- The value of a name; fails when the name comes twice. -/
def single (pairs : List (String × String)) (name : String) : Option (Option String) :=
  match pairs.filter fun p => p.1 == name with
  | [] => some none
  | [(_, value)] => some (some value)
  | _ => none

/-- A whole number of 64 bits. -/
def int64? (s : String) : Option Int :=
  (Text.int? s.toList).filter fun n => decide (Int64.minValue.toInt ≤ n ∧ n ≤ Int64.maxValue.toInt)

/-- What a listing asks for; none when the query is refused. -/
def listQuery? (query : String) : Option ListQuery := do
  let pairs := Text.Percent.formPairs query
  let status ← single pairs "status"
  let cursor ← single pairs "cursor"
  let limit ← single pairs "limit"
  match limit with
  | none => some ⟨status, cursor, none⟩
  | some text => (int64? text).map fun n => ⟨status, cursor, some n⟩

/-- The tenant code that a menu is asked for; fails when the query is refused. -/
def tenantCode? (query : String) : Option (Option String) :=
  single (Text.Percent.formPairs query) "tenant_code"

end Tableside.Http.Query
