import Tableside.Store.Basic

/-!
Following references between tables, in both directions.

Two tables are related when rows of one refer to rows of the other. From a row the related rows are
those that refer to it, or the one it refers to, whatever tenant they belong to.
-/

namespace Tableside.Store

/-- The rows of a table that are related to a row; none when that row is not there. -/
def related? (s : Store) (r : RowRef) (target : Entity) : Option (List Uuid) :=
  ((s.links r.1).lookup r.2).map fun refs =>
    (s.links target).filterMap fun (id, back) =>
      if back.contains r || refs.contains (target, id) then some id else none

end Tableside.Store
