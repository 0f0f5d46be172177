import Tableside.Proofs.History
import Tableside.Proofs.Text

/-!
# Consistent stores

A store is consistent when every reference of an item, an order or a line is met by a row of the
same tenant. A call names rows by codes, tokens and ids, and each is looked for among the rows of
one tenant: an order takes its table and its items from the tenant of its code, and an item moves
only to a category of the tenant it belongs to. Hence calls keep stores consistent
(`Call.consistent_step`).
The lines of a new order are written in one pass over the request (`Orders.lineRows_pairs`), which
numbers them. A run that is interrupted by failures of the database at any point keeps all this.
-/

namespace Tableside

/-! ## Consistency -/

namespace Store

/-- Every item has its category, every order its table and every line its order and its item, all of
one tenant. -/
structure Consistent (s : Store) : Prop where
  items : ∀ i ∈ s.items, ∃ c ∈ s.categories, c.id = i.categoryId ∧ c.tenantId = i.tenantId
  orders : ∀ o ∈ s.orders, ∃ t ∈ s.tables, t.id = o.tableId ∧ t.tenantId = o.tenantId
  lines : ∀ l ∈ s.lines, ∃ o ∈ s.orders, o.id = l.orderId ∧
    ∃ i ∈ s.items, i.id = l.itemId ∧ i.tenantId = o.tenantId

instance (s : Store) : Decidable s.Consistent :=
  decidable_of_iff
    ((∀ i ∈ s.items, ∃ c ∈ s.categories, c.id = i.categoryId ∧ c.tenantId = i.tenantId) ∧
      (∀ o ∈ s.orders, ∃ t ∈ s.tables, t.id = o.tableId ∧ t.tenantId = o.tenantId) ∧
      ∀ l ∈ s.lines, ∃ o ∈ s.orders, o.id = l.orderId ∧
        ∃ i ∈ s.items, i.id = l.itemId ∧ i.tenantId = o.tenantId)
    ⟨fun ⟨items, orders, lines⟩ => ⟨items, orders, lines⟩,
      fun consistent => ⟨consistent.items, consistent.orders, consistent.lines⟩⟩

/-- The lines of an order, as they were written. -/
def linesOf (s : Store) (id : Uuid) : List LineRow :=
  s.lines.filter fun l => l.orderId == id

/-- An order has lines, and they are numbered from zero on. Numbers have 32 bits: up to `2 ^ 31`
lines have different ones. -/
structure WellFormed (s : Store) (o : OrderRow) : Prop where
  nonempty : s.linesOf o.id ≠ []
  numbered : (s.linesOf o.id).map (·.lineNo) =
    (List.range (s.linesOf o.id).length).map Int32.ofNat
  counted : (s.linesOf o.id).length ≤ 2 ^ 31 →
    (s.linesOf o.id).map (·.lineNo.toInt) = (List.range (s.linesOf o.id).length).map Int.ofNat

/-- What holds of an order that a guest has placed: its quantities are positive, and its texts are
trimmed and not blank. -/
structure ByGuest (s : Store) (o : OrderRow) : Prop where
  quantities : ∀ l ∈ s.linesOf o.id, 1 ≤ l.qty.toInt
  session : o.guestSessionId ≠ "" ∧ Text.trim o.guestSessionId = o.guestSessionId
  note : ∀ note, o.note = some note → note ≠ "" ∧ Text.trim note = note

/-- No line of a consistent store belongs to an order that is not there. -/
theorem Consistent.linesOf_absent {s : Store} (consistent : s.Consistent) {id : Uuid}
    (absent : id ∉ s.ids .order) : s.linesOf id = [] := by
  rw [linesOf, List.filter_eq_nil_iff]
  intro l member same
  obtain ⟨o, there, named, -⟩ := consistent.lines l member
  exact absent (List.mem_map.2 ⟨o, there, named.trans (beq_iff_eq.1 same)⟩)

namespace Consistent

variable {s : Store}

/-- An order at a table of its tenant, with lines for items of its tenant, may come. -/
theorem withOrder (consistent : s.Consistent) {o : OrderRow} {lines : List LineRow}
    (references : (∃ t ∈ s.tables, t.id = o.tableId ∧ t.tenantId = o.tenantId) ∧
      ∀ l ∈ lines, l.orderId = o.id ∧
        ∃ i ∈ s.items, i.id = l.itemId ∧ i.tenantId = o.tenantId) :
    (s.withOrder o lines).Consistent where
  items := consistent.items
  orders := by
    intro p member
    rcases List.mem_append.1 member with old | new
    · exact consistent.orders p old
    · obtain rfl := List.mem_singleton.1 new
      exact references.1
  lines := by
    intro l member
    rcases List.mem_append.1 member with old | new
    · obtain ⟨p, there, rest⟩ := consistent.lines l old
      exact ⟨p, List.mem_append_left _ there, rest⟩
    · obtain ⟨own, item⟩ := references.2 l new
      exact ⟨o, List.mem_append_right _ (List.mem_singleton.2 rfl), own.symm, item⟩

/-- The state of an order is no reference. -/
theorem updateStatus (consistent : s.Consistent) (id : Uuid) (status : OrderStatus) :
    (s.updateStatus id status).Consistent where
  items := consistent.items
  orders := by
    intro p member
    obtain ⟨o, there, rfl⟩ := List.mem_map.1 member
    obtain ⟨t, known, same, own⟩ := consistent.orders o there
    refine ⟨t, known, ?_⟩
    split
    · exact ⟨same, own⟩
    · exact ⟨same, own⟩
  lines := by
    intro l member
    obtain ⟨o, there, named, i, known, same, own⟩ := consistent.lines l member
    refine ⟨_, List.mem_map_of_mem there, ?_⟩
    split
    · exact ⟨named, i, known, same, own⟩
    · exact ⟨named, i, known, same, own⟩

/-- An item may be changed that stays in a category of its tenant. -/
theorem updateItem (consistent : s.Consistent) {id : Uuid} {f : Item → Item}
    (keeps : ∀ i, (f i).id = i.id ∧ (f i).tenantId = i.tenantId)
    (category : ∀ i ∈ s.items, i.id = id →
      ∃ c ∈ s.categories, c.id = (f i).categoryId ∧ c.tenantId = i.tenantId) :
    (s.updateItem id f).Consistent where
  items := by
    intro j member
    obtain ⟨i, there, rfl⟩ := List.mem_map.1 member
    split
    · rename_i here
      rw [(keeps i).2]
      exact category i there here
    · exact consistent.items i there
  orders := consistent.orders
  lines := by
    intro l member
    obtain ⟨o, there, named, i, known, same, own⟩ := consistent.lines l member
    refine ⟨o, there, named, _, List.mem_map_of_mem known, ?_⟩
    split
    · rw [(keeps i).1, (keeps i).2]
      exact ⟨same, own⟩
    · exact ⟨same, own⟩

end Consistent

/-- Up to `2 ^ 31` lines the numbers are those they are written for. -/
theorem WellFormed.of_numbered {s : Store} {o : OrderRow} (nonempty : s.linesOf o.id ≠ [])
    (numbered : (s.linesOf o.id).map (·.lineNo) =
      (List.range (s.linesOf o.id).length).map Int32.ofNat) : s.WellFormed o where
  nonempty := nonempty
  numbered := numbered
  counted := by
    intro small
    have numbers := congrArg (List.map Int32.toInt) numbered
    rw [List.map_map, List.map_map] at numbers
    refine numbers.trans (List.map_congr_left fun n member => ?_)
    exact Int32.toInt_ofNat_of_lt (Nat.lt_of_lt_of_le (List.mem_range.1 member) small)

end Store

/-! ## The lines of a new order -/

namespace Orders

variable {fresh : Fresh} {r : OrderRequest} {s : Store} {row : OrderRow} {lines : List LineRow}

/-- Each line is made of the line that was asked for, its position and an item that is offered. -/
theorem lineRows_pairs {offered : Uuid → Option Item} {position : Nat}
    {requests : List LineRequest} {taken : List Uuid}
    (done : lineRows fresh offered position requests taken = .ok lines) :
    List.Forall₂ (fun (asked : LineRequest × Nat) l => ∃ item, offered asked.1.itemId = some item ∧
      l = fresh.lineRow asked.2 item asked.1) (requests.zipIdx position) lines := by
  induction requests generalizing position taken lines with
  | nil =>
    cases done
    exact .nil
  | cons line rest ih =>
    rw [lineRows] at done
    cases found : offered line.itemId with
    | none =>
      rw [found] at done
      cases done
    | some item =>
      simp only [found] at done
      split at done
      · cases done
      split at done
      · cases after : lineRows fresh offered (position + 1) rest
          (taken ++ [(fresh.lineRow position item line).id]) with
        | error e =>
          rw [after] at done
          cases done
        | ok rows =>
          rw [after] at done
          cases done
          exact .cons ⟨item, found, rfl⟩ (ih after)
      · cases done

theorem lineRows_numbered {offered : Uuid → Option Item} {requests : List LineRequest}
    {taken : List Uuid} (done : lineRows fresh offered 0 requests taken = .ok lines) :
    lines.map (·.lineNo) = (List.range lines.length).map Int32.ofNat := by
  have pairs := lineRows_pairs done
  have numbers := map_of_pairs pairs (f := fun asked => Int32.ofNat asked.2) (g := (·.lineNo)) <| by
    rintro asked l ⟨item, -, rfl⟩
    rfl
  have length := pairs.length_eq
  rw [List.length_zipIdx] at length
  rw [← numbers, ← length, List.range_eq_range', ← List.zipIdx_map_snd 0 requests, List.map_map]
  rfl

/-- An order asks for something. -/
theorem items_of_placement (done : placement fresh r s = .ok (row, lines)) : r.items ≠ [] := by
  rintro none
  rw [placement, none] at done
  cases done

/-- The new order is numbered, and its lines are those that were asked for. -/
theorem placement_numbered (done : placement fresh r s = .ok (row, lines)) :
    lines ≠ [] ∧ lines.map (·.lineNo) = (List.range lines.length).map Int32.ofNat ∧
      lines.map (·.qty) = r.items.map (·.qty) := by
  obtain ⟨tenant, table, -, -, -, -, ordered⟩ := placement_eq_ok done
  have pairs := lineRows_pairs ordered
  have length := pairs.length_eq
  rw [List.length_zipIdx] at length
  refine ⟨?_, lineRows_numbered ordered, ?_⟩
  · rintro rfl
    exact items_of_placement done (List.length_eq_zero_iff.1 length)
  · have quantities := map_of_pairs pairs (f := fun asked => asked.1.qty) (g := (·.qty)) <| by
      rintro asked l ⟨item, -, rfl⟩
      rfl
    have asked := congrArg (List.map LineRequest.qty) (List.zipIdx_map_fst 0 r.items)
    rw [List.map_map] at asked
    exact quantities.symm.trans asked

/-- A new order refers to rows of its own tenant. -/
theorem placement_references (done : placement fresh r s = .ok (row, lines)) :
    (∃ t ∈ s.tables, t.id = row.tableId ∧ t.tenantId = row.tenantId) ∧
      ∀ l ∈ lines, l.orderId = row.id ∧
        ∃ i ∈ s.items, i.id = l.itemId ∧ i.tenantId = row.tenantId := by
  obtain ⟨tenant, table, -, scanned, rfl, -, ordered⟩ := placement_eq_ok done
  obtain ⟨there, -, own⟩ := Store.tableOf?_eq_some scanned
  refine ⟨⟨table, there, rfl, own⟩, fun l member => ?_⟩
  obtain ⟨asked, -, item, offered, rfl⟩ := exists_of_pairs (lineRows_pairs ordered) member
  obtain ⟨there, -, own⟩ := Store.activeItemOf?_eq_some offered
  exact ⟨rfl, item, there, rfl, own⟩

end Orders

/-! ## Requests of guests -/

/-- Nothing is missing in a request: it has its three texts and a line, and every quantity is
positive. -/
structure OrderRequest.Complete (r : OrderRequest) : Prop where
  tenant : r.tenant ≠ ""
  tableToken : r.tableToken ≠ ""
  guestSessionId : r.guestSessionId ≠ ""
  items : r.items ≠ []
  quantities : ∀ line ∈ r.items, 0 < line.qty.toInt

/-- A request in which nothing is missing passes the check. -/
theorem OrderRequest.Complete.check_eq_ok {r : OrderRequest} (complete : r.Complete) :
    r.check = .ok () := by
  have none : r.items.find? (fun line => line.qty.toInt ≤ 0) = none := by
    rw [List.find?_eq_none]
    intro line member
    have more := complete.quantities line member
    simp only [decide_eq_true_eq]
    omega
  rw [check, if_neg (by simpa using complete.tenant), if_neg (by simpa using complete.tableToken),
    if_neg (by simpa using complete.guestSessionId), if_neg (by simpa using complete.items), none]

/-- The check finds what is missing. -/
theorem OrderRequest.check_cases (r : OrderRequest) :
    r.Complete ∧ r.check = .ok () ∨ ¬r.Complete ∧ ∃ why, r.check = .error (.badRequest why) := by
  by_cases complete : r.Complete
  · exact .inl ⟨complete, complete.check_eq_ok⟩
  refine .inr ⟨complete, ?_⟩
  rw [check]
  split
  · exact ⟨_, rfl⟩
  rename_i tenant
  split
  · exact ⟨_, rfl⟩
  rename_i token
  split
  · exact ⟨_, rfl⟩
  rename_i session
  split
  · exact ⟨_, rfl⟩
  rename_i filled
  split
  · exact ⟨_, rfl⟩
  rename_i positive
  refine absurd ⟨?_, ?_, ?_, ?_, fun line member => ?_⟩ complete
  · simpa using tenant
  · simpa using token
  · simpa using session
  · simpa using filled
  · have more := List.find?_eq_none.1 positive line member
    simp only [decide_eq_true_eq] at more
    omega

theorem OrderRequest.complete_of_check {r : OrderRequest} (passed : r.check = .ok ()) :
    r.Complete := by
  rcases r.check_cases with ⟨complete, -⟩ | ⟨-, why, failed⟩
  · exact complete
  · rw [failed] at passed
    cases passed

/-- Trimmed texts stay so, and a blank note is dropped. -/
theorem OrderRequest.normalize_trimmed (r : OrderRequest) :
    Text.trim r.normalize.guestSessionId = r.normalize.guestSessionId ∧
      ∀ note, r.normalize.note = some note → note ≠ "" ∧ Text.trim note = note := by
  refine ⟨Text.trim_trim _, fun note kept => ?_⟩
  obtain ⟨there, solid⟩ := Option.filter_eq_some_iff.1 kept
  obtain ⟨raw, -, rfl⟩ := Option.map_eq_some_iff.1 there
  refine ⟨fun empty => ?_, Text.trim_trim raw⟩
  rw [empty] at solid
  cases solid

/-! ## One call -/

namespace Catalog

/-- A patch moves an item only to a category of the tenant. -/
theorem patchTarget_category {s : Store} {tenantId id : Uuid} {p : ItemPatch}
    {target : String × Item} (found : patchTarget s tenantId id p = .ok target) :
    ∀ categoryId, p.categoryId = some categoryId →
      ∃ c ∈ s.categories, c.id = categoryId ∧ c.tenantId = tenantId := by
  intro categoryId named
  obtain ⟨-, -, -, category⟩ := patchTarget_eq_ok_iff.1 found
  obtain ⟨c, there⟩ := Option.isSome_iff_exists.1 (category categoryId named)
  obtain ⟨member, same, own⟩ := Store.categoryOf?_eq_some there
  exact ⟨c, member, same, own⟩

end Catalog

namespace Call

variable {c : Call} {s : Store}

/-- An item stays in its category or moves to one of the tenant for whom it is edited. -/
theorem edits_category {tenantId id : Uuid} {f : Item → Item}
    (asked : c.edits = some (tenantId, id, f)) (changed : (c.effect s).2 ≠ .nothing) (i : Item) :
    (f i).categoryId = i.categoryId ∨
      ∃ category ∈ s.categories, category.id = (f i).categoryId ∧
        category.tenantId = tenantId := by
  cases c
  case patchItem user id' p =>
    rw [edits] at asked
    split at asked
    · rename_i admin
      cases asked
      rw [effect, ensureAdmin_of_admin admin] at changed
      cases found : Catalog.patchTarget s user.tenantId id p with
      | error e =>
        rw [found] at changed
        exact (changed rfl).elim
      | ok target =>
        cases named : p.categoryId with
        | none => exact .inl (by simp [ItemPatch.apply, named])
        | some categoryId =>
          obtain ⟨category, member, same, own⟩ :=
            Catalog.patchTarget_category found categoryId named
          exact .inr ⟨category, member, by simp [ItemPatch.apply, named, same], own⟩
    · cases asked
  case setItemAvailability user id' a =>
    rw [edits] at asked
    split at asked
    · cases asked
      exact .inl rfl
    · cases asked
  all_goals cases asked

/-- An order that was not there before a call is one that the call asked for and wrote. -/
theorem placed_step {o : OrderRow} (member : o ∈ (c.step s).orders)
    (absent : o.id ∉ s.ids .order) :
    ∃ fresh r lines, c.creates = some (fresh, r) ∧
      Orders.placement fresh r s = .ok (o, lines) ∧ c.step s = s.withOrder o lines ∧
      (c.effect s).2 = .order o lines := by
  have here : o.id ∈ (c.step s).ids .order := List.mem_map_of_mem member
  rw [step] at here member ⊢
  rcases c.effect_cases s with idle | ⟨fresh, r, row, lines, creates, placed, changed⟩ |
    ⟨_, id, status, _, -, -, changed, -⟩ | ⟨_, id, f, _, _, -, -, changed, -⟩
  · rw [idle] at here
    exact absurd here absent
  · rw [changed] at member ⊢
    rcases List.mem_append.1 member with old | new
    · exact absurd (List.mem_map_of_mem old) absent
    · obtain rfl := List.mem_singleton.1 new
      exact ⟨fresh, r, lines, creates, placed, rfl, rfl⟩
  · rw [changed] at here
    exact absurd (by simpa [Change.apply] using here) absent
  · rw [changed] at here
    exact absurd here absent

/-- A guest's order is written only after its request has passed the check. -/
theorem checked_of_placed {fresh : Fresh} {r : OrderRequest} {row : OrderRow}
    {lines : List LineRow} (changed : ((placeOrder fresh r).effect s).2 = .order row lines) :
    r.normalize.check = .ok () := by
  rw [effect] at changed
  cases checked : r.normalize.check with
  | ok _ => rfl
  | error e =>
    rw [checked] at changed
    cases changed

/-- Whatever is asked, a consistent store stays so. -/
theorem consistent_step (c : Call) (keyed : s.Keyed) (consistent : s.Consistent) :
    (c.step s).Consistent := by
  rw [step]
  rcases c.effect_cases s with idle | ⟨fresh, r, row, lines, -, placed, changed⟩ |
    ⟨tenantId, id, status, _, -, -, changed, -⟩ |
    ⟨tenantId, id, f, code, item, asked, found, changed, -⟩
  · rw [idle]
    exact consistent
  · rw [changed]
    exact consistent.withOrder (Orders.placement_references placed)
  · rw [changed]
    exact consistent.updateStatus id status
  · have moved := edits_category (s := s) asked (by rw [changed]; rintro ⟨⟩)
    obtain ⟨-, member, named, own⟩ := Catalog.editTarget_eq_ok found
    rw [changed]
    refine consistent.updateItem (edits_keep asked) fun i there same => ?_
    obtain rfl := eq_of_key_eq (keyed.ids .item) there member (same.trans named.symm)
    rcases moved i with kept | ⟨category, known, same, shared⟩
    · obtain ⟨category, known, same, shared⟩ := consistent.items i there
      exact ⟨category, known, same.trans kept.symm, shared⟩
    · exact ⟨category, known, same, shared.trans own.symm⟩

/-- The lines of an order that a call has written are those of the placement. -/
theorem linesOf_step {fresh : Fresh} {r : OrderRequest} {o : OrderRow} {lines : List LineRow}
    (consistent : s.Consistent) (placed : Orders.placement fresh r s = .ok (o, lines))
    (absent : o.id ∉ s.ids .order) : (s.withOrder o lines).linesOf o.id = lines := by
  have old := consistent.linesOf_absent absent
  have new : lines.filter (fun l => l.orderId == o.id) = lines := by
    rw [List.filter_eq_self]
    intro l member
    exact beq_iff_eq.2 ((Orders.placement_references placed).2 l member).1
  rw [Store.linesOf] at old ⊢
  rw [Store.withOrder, List.filter_append, old, new, List.nil_append]

/-- An order that a call has written is well formed. -/
theorem wellFormed_step (consistent : s.Consistent) {o : OrderRow}
    (member : o ∈ (c.step s).orders) (absent : o.id ∉ s.ids .order) :
    (c.step s).WellFormed o := by
  obtain ⟨fresh, r, lines, -, placed, added, -⟩ := placed_step member absent
  have own := linesOf_step consistent placed absent
  obtain ⟨some, numbered, -⟩ := Orders.placement_numbered placed
  rw [added]
  exact .of_numbered (by rw [own]; exact some) (by rw [own]; exact numbered)

/-- An order that a guest's call has written is as guests may write them. -/
theorem byGuest_step (consistent : s.Consistent) {fresh : Fresh} {r : OrderRequest}
    (guest : c = .placeOrder fresh r) {o : OrderRow} (member : o ∈ (c.step s).orders)
    (absent : o.id ∉ s.ids .order) : (c.step s).ByGuest o := by
  obtain ⟨_, _, lines, creates, placed, added, changed⟩ := placed_step member absent
  subst guest
  cases creates
  have own := linesOf_step consistent placed absent
  obtain ⟨-, -, quantities⟩ := Orders.placement_numbered placed
  have complete := OrderRequest.complete_of_check (checked_of_placed changed)
  obtain ⟨trimmed, note⟩ := r.normalize_trimmed
  obtain ⟨tenant, table, -, -, rfl, -, -⟩ := Orders.placement_eq_ok placed
  rw [added]
  refine ⟨fun l there => ?_, ⟨complete.guestSessionId, trimmed⟩, note⟩
  rw [own] at there
  have asked : l.qty ∈ r.normalize.items.map (·.qty) := quantities ▸ List.mem_map_of_mem there
  obtain ⟨line, named, same⟩ := List.mem_map.1 asked
  exact same ▸ complete.quantities line named

end Call

/-! ## Runs -/

namespace Store

variable {s s' : Store} {history : List Call} {o : OrderRow}

theorem Continues.linesOf (kept : s.Continues s' history) (member : o ∈ s.orders) :
    s'.linesOf o.id = s.linesOf o.id :=
  kept.lines_of_order member

/-- An order with the id of an earlier one is that one, perhaps in another state. -/
theorem Continues.order_of_id (kept : s.Continues s' history) (keyed : s'.Keyed)
    (member : o ∈ s'.orders) (known : o.id ∈ s.ids .order) :
    ∃ p ∈ s.orders, o = p.after history := by
  obtain ⟨p, there, same⟩ := List.mem_map.1 known
  exact ⟨p, there, eq_of_key_eq (keyed.ids .order) member (kept.after_mem there) same.symm⟩

theorem WellFormed.later (formed : s.WellFormed o) (kept : s.Continues s' history)
    (member : o ∈ s.orders) : s'.WellFormed (o.after history) := by
  have same : s'.linesOf (o.after history).id = s.linesOf o.id :=
    kept.linesOf (o := o) member
  exact ⟨by rw [same]; exact formed.nonempty, by rw [same]; exact formed.numbered,
    by rw [same]; exact formed.counted⟩

theorem ByGuest.later (guest : s.ByGuest o) (kept : s.Continues s' history)
    (member : o ∈ s.orders) : s'.ByGuest (o.after history) := by
  have same : s'.linesOf (o.after history).id = s.linesOf o.id :=
    kept.linesOf (o := o) member
  exact ⟨by rw [same]; exact guest.quantities, guest.session, guest.note⟩

end Store

namespace Attempt

variable (a : Attempt) {w : World}

theorem make_consistent (keyed : w.database.store.Keyed)
    (consistent : w.database.store.Consistent) : (a.make w).database.store.Consistent := by
  rcases a.make_store keyed with idle | done
  · rw [idle]
    exact consistent
  · rw [done]
    exact a.call.consistent_step keyed consistent

theorem continues (keyed : w.database.store.Keyed) :
    ∃ history, w.database.store.Continues (a.make w).database.store history := by
  rcases a.make_store keyed with idle | done
  · rw [idle]
    exact ⟨[], .refl _⟩
  · rw [done]
    exact Call.continues_step keyed a.call

/-- What holds of every order that the call writes holds of every order that has come. -/
theorem made_of_step (keyed : w.database.store.Keyed) {holds : Store → OrderRow → Prop}
    (written : ∀ o ∈ (a.call.step w.database.store).orders, o.id ∉ w.database.store.ids .order →
      holds (a.call.step w.database.store) o) :
    ∀ o ∈ (a.make w).database.store.orders, o.id ∉ w.database.store.ids .order →
      holds (a.make w).database.store o := by
  rcases a.make_store keyed with idle | done
  · rw [idle]
    exact fun o member absent => absurd (List.mem_map_of_mem member) absent
  · rw [done]
    exact written

end Attempt

namespace World

variable {w : World}

theorem attempt_consistent (keyed : w.database.store.Keyed)
    (consistent : w.database.store.Consistent) (attempts : List Attempt) :
    (w.attempt attempts).database.store.Consistent := by
  induction attempts generalizing w with
  | nil => exact consistent
  | cons a rest ih => exact ih (a.make_keyed keyed) (a.make_consistent keyed consistent)

theorem attempt_continues (keyed : w.database.store.Keyed) (attempts : List Attempt) :
    ∃ history, w.database.store.Continues (w.attempt attempts).database.store history := by
  induction attempts generalizing w with
  | nil => exact ⟨[], .refl _⟩
  | cons a rest ih =>
    obtain ⟨history, first⟩ := a.continues keyed
    obtain ⟨history', second⟩ := ih (a.make_keyed keyed)
    exact ⟨_, first.trans second⟩

/-- Every order that has come in a run is well formed after it. -/
theorem attempt_wellFormed (keyed : w.database.store.Keyed)
    (consistent : w.database.store.Consistent) (attempts : List Attempt) :
    ∀ o ∈ (w.attempt attempts).database.store.orders, o.id ∉ w.database.store.ids .order →
      (w.attempt attempts).database.store.WellFormed o := by
  induction attempts generalizing w with
  | nil => exact fun o member absent => absurd (List.mem_map_of_mem member) absent
  | cons a rest ih =>
    intro o member absent
    have keyed' := a.make_keyed keyed
    by_cases here : o.id ∈ (a.make w).database.store.ids .order
    · obtain ⟨history, kept⟩ := attempt_continues keyed' rest
      obtain ⟨p, there, rfl⟩ := kept.order_of_id (attempt_keyed keyed' rest) member here
      have formed := a.made_of_step keyed (fun _ => Call.wellFormed_step consistent) p there absent
      exact formed.later kept there
    · exact ih keyed' (a.make_consistent keyed consistent) o member here

end World

/-- In every run of calls, whatever is asked by whomever and whenever the database stops, every
store is consistent and every order that has come is well formed; those that a guest placed are as
guests may write them. -/
theorem runs_keep_consistent {w : World} (keyed : w.database.store.Keyed)
    (consistent : w.database.store.Consistent) (attempts : List Attempt) :
    (∀ before, before <+: attempts → (w.attempt before).database.store.Consistent) ∧
    (∀ o ∈ (w.attempt attempts).database.store.orders, o.id ∉ w.database.store.ids .order →
      (w.attempt attempts).database.store.WellFormed o) ∧
    ∀ before a after fresh r, attempts = before ++ a :: after → a.call = .placeOrder fresh r →
      ∀ o ∈ (w.attempt attempts).database.store.orders,
        o.id ∉ (w.attempt before).database.store.ids .order →
        o.id ∈ (w.attempt (before ++ [a])).database.store.ids .order →
          (w.attempt attempts).database.store.ByGuest o := by
  refine ⟨fun before _ => World.attempt_consistent keyed consistent before,
    World.attempt_wellFormed keyed consistent attempts, ?_⟩
  rintro before a after fresh r rfl guest o member absent here
  have keyed' := World.attempt_keyed keyed before
  have consistent' := World.attempt_consistent keyed consistent before
  rw [World.attempt_append] at here member ⊢
  obtain ⟨history, kept⟩ := World.attempt_continues (a.make_keyed keyed') after
  obtain ⟨p, there, rfl⟩ :=
    kept.order_of_id (World.attempt_keyed (a.make_keyed keyed') after) member here
  have written :=
    a.made_of_step keyed' (fun _ => Call.byGuest_step consistent' guest) p there absent
  exact written.later kept there

namespace Sample

/-- Coffee is ordered twice, and the database stops in the middle of the second order. -/
def outage : List Attempt :=
  [⟨⟨server, refill, 1, fun _ => true⟩, none⟩,
    ⟨⟨server, .placeOrder ⟨.ofNat 22, fun _ => .ofNat 23, noon⟩
      ⟨"cafe", " window ", " guest", some " ", [⟨coffee.id, 2, none⟩]⟩, 1, fun _ => true⟩, some 6⟩,
    ⟨⟨server, raise, 1, fun _ => true⟩, none⟩]

end Sample

theorem runs_keep_consistent_cafe :
    ((Sample.world []).attempt Sample.outage).database.store.Consistent ∧
      ∀ o ∈ ((Sample.world []).attempt Sample.outage).database.store.orders, o.id = .ofNat 20 →
        ((Sample.world []).attempt Sample.outage).database.store.WellFormed o ∧
          ((Sample.world []).attempt Sample.outage).database.store.ByGuest o := by
  obtain ⟨consistent, formed, guests⟩ :=
    runs_keep_consistent (w := Sample.world []) (by decide) (by decide) Sample.outage
  refine ⟨consistent _ List.prefix_rfl, fun o member named => ⟨formed o member ?_, ?_⟩⟩
  · rw [named]
    decide
  · refine guests [] _ _ _ _ rfl rfl o member ?_ ?_
    · rw [named]
      decide
    · rw [named]
      decide +kernel

/-- Of the order in the middle of which the database stopped nothing is left. -/
example : ((Sample.world []).attempt Sample.outage).database.store.orders.map (·.id) =
    [.ofNat 6, .ofNat 20] := by decide +kernel

end Tableside
