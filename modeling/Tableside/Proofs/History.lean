import Tableside.Proofs.Failure

/-!
# What the past keeps

A run of calls only adds orders and lines, sets states of orders and edits items. `Store.Continues`
says what a store has in common with an earlier one, given the calls that were carried out in
between: nothing has gone, an order differs at most in its state, which the calls determine, and its
lines not at all.

A call that succeeds was carried out. One that fails may have been as well: the state of an order is
written before its lines are read, and a database that stops may do so after a write. The answer
and the number of statements that were answered tell (`Attempt.carriedOut`), which is why a run in
which the database stops as it pleases still has a history that settles every row
(`history_append_only`).
-/

namespace Tableside

/-! ## Rows after calls -/

/-- The state that a call gives an order. -/
def Call.given (tenantId id : Uuid) (c : Call) : Option OrderStatus :=
  match c.sets with
  | some (asked, named, status) => if asked = tenantId ∧ named = id then some status else none
  | none => none

/-- An order after a list of calls has the state that the last one gave it. -/
def OrderRow.after (o : OrderRow) (history : List Call) : OrderRow :=
  { o with
    status := ((history.filterMap (Call.given o.tenantId o.id)).getLast?.map
      OrderStatus.name).getD o.status }

/-- An item after a call. -/
def Item.afterOne (i : Item) (c : Call) : Item :=
  match c.edits with
  | some (tenantId, id, f) => if tenantId = i.tenantId ∧ id = i.id then f i else i
  | none => i

/-- An item after a list of calls. -/
def Item.after (i : Item) (history : List Call) : Item :=
  history.foldl Item.afterOne i

namespace OrderRow

theorem after_nil (o : OrderRow) : o.after [] = o := rfl

theorem after_append (o : OrderRow) (before after : List Call) :
    o.after (before ++ after) = (o.after before).after after := by
  simp only [OrderRow.after, List.filterMap_append, List.getLast?_append]
  cases (after.filterMap (Call.given o.tenantId o.id)).getLast? <;> rfl

theorem after_single (o : OrderRow) (c : Call) :
    o.after [c] = match c.given o.tenantId o.id with
      | some status => { o with status := status.name }
      | none => o := by
  rw [OrderRow.after, List.filterMap_cons, List.filterMap_nil]
  cases c.given o.tenantId o.id <;> rfl

end OrderRow

namespace Item

theorem after_append (i : Item) (before after : List Call) :
    i.after (before ++ after) = (i.after before).after after :=
  List.foldl_append

theorem after_single (i : Item) (c : Call) : i.after [c] = i.afterOne c := rfl

theorem afterOne_eq_self_or (i : Item) (c : Call) :
    i.afterOne c = i ∨ ∃ f, c.edits = some (i.tenantId, i.id, f) ∧ i.afterOne c = f i := by
  unfold afterOne
  split
  · rename_i tenantId id f asked
    split
    · rename_i here
      obtain ⟨rfl, rfl⟩ := here
      exact .inr ⟨f, asked, rfl⟩
    · exact .inl rfl
  · exact .inl rfl

end Item

/-! ## Stores after calls -/

/-- What a later store has in common with an earlier one. -/
structure Store.Continues (s s' : Store) (history : List Call) : Prop where
  tenants : s'.tenants = s.tenants
  tables : s'.tables = s.tables
  categories : s'.categories = s.categories
  items : s'.items = s.items.map (·.after history)
  orders : ∃ created, s'.orders = s.orders.map (·.after history) ++ created
  lines : ∃ added, s'.lines = s.lines ++ added ∧ ∀ l ∈ added, l.orderId ∉ s.ids .order

namespace Store.Continues

variable {s s' s'' : Store} {history history' : List Call}

theorem refl (s : Store) : s.Continues s [] where
  tenants := rfl
  tables := rfl
  categories := rfl
  items := (List.map_id _).symm
  orders := ⟨[], by simp [OrderRow.after_nil]⟩
  lines := ⟨[], by simp⟩

theorem after_mem (kept : s.Continues s' history) {o : OrderRow} (member : o ∈ s.orders) :
    o.after history ∈ s'.orders := by
  obtain ⟨created, orders⟩ := kept.orders
  rw [orders]
  exact List.mem_append_left _ (List.mem_map_of_mem member)

theorem ids_order (kept : s.Continues s' history) {id : Uuid} (member : id ∈ s.ids .order) :
    id ∈ s'.ids .order := by
  obtain ⟨o, there, rfl⟩ := List.mem_map.1 member
  exact List.mem_map.2 ⟨o.after history, kept.after_mem there, rfl⟩

theorem trans (first : s.Continues s' history) (second : s'.Continues s'' history') :
    s.Continues s'' (history ++ history') where
  tenants := second.tenants.trans first.tenants
  tables := second.tables.trans first.tables
  categories := second.categories.trans first.categories
  items := by
    rw [second.items, first.items, List.map_map]
    exact List.map_congr_left fun i _ => (i.after_append history history').symm
  orders := by
    obtain ⟨created, orders⟩ := first.orders
    obtain ⟨created', orders'⟩ := second.orders
    refine ⟨created.map (·.after history') ++ created', ?_⟩
    rw [orders', orders, List.map_append, List.map_map, List.append_assoc]
    congr 1
    exact List.map_congr_left fun o _ => (o.after_append history history').symm
  lines := by
    obtain ⟨added, lines, others⟩ := first.lines
    obtain ⟨added', lines', others'⟩ := second.lines
    refine ⟨added ++ added', by rw [lines', lines, List.append_assoc], ?_⟩
    intro l member
    rcases List.mem_append.1 member with member | member
    · exact others l member
    · exact fun there => others' l member (first.ids_order there)

/-- The lines of an order that is there stay as they are. -/
theorem lines_of_order (kept : s.Continues s' history) {o : OrderRow} (member : o ∈ s.orders) :
    s'.lines.filter (fun l => l.orderId == o.id) = s.lines.filter fun l => l.orderId == o.id := by
  obtain ⟨added, lines, others⟩ := kept.lines
  have none : added.filter (fun l => l.orderId == o.id) = [] := by
    rw [List.filter_eq_nil_iff]
    intro l there same
    exact others l there (beq_iff_eq.1 same ▸ List.mem_map_of_mem member)
  rw [lines, List.filter_append, none, List.append_nil]

end Store.Continues

/-! ## One call -/

/-- An order is shown unless one of its lines cannot be read. -/
theorem Orders.shownOne_cases (s : Store) (row : OrderRow) :
    (∃ o, Orders.shownOne s row = .ok o) ∨
      Orders.shownOne s row = .error .database ∧
        ∃ l ∈ s.lines, l.orderId = row.id ∧ l.read? = none := by
  rw [Orders.shownOne]
  rcases Orders.linesRead_cases s [row.id] with ⟨-, lines, read⟩ | ⟨⟨l, member, own, lost⟩, unread⟩
  · exact .inl ⟨_, by rw [read]; rfl⟩
  · exact .inr ⟨by rw [unread]; rfl, l, member, List.mem_singleton.1 own, lost⟩

/-! ### Failures of the database -/

namespace Catalog

variable {s : Store} {tenantId id : Uuid} {e : ApiError}

theorem fault_of_editTarget (failed : editTarget s tenantId id = .error e) : e ≠ .database := by
  rw [editTarget] at failed
  split at failed
  · cases failed
    exact ApiError.noConfusion
  split at failed
  · cases failed
    exact ApiError.noConfusion
  · cases failed

theorem fault_of_patchTarget {p : ItemPatch} (failed : patchTarget s tenantId id p = .error e) :
    e ≠ .database := by
  rw [patchTarget] at failed
  split at failed
  · rename_i invalid
    cases failed
    exact p.fault_of_validate invalid
  split at failed
  · cases failed
    exact ApiError.noConfusion
  split at failed
  · rename_i lost
    cases failed
    exact fault_of_editTarget lost
  split at failed
  · cases failed
  split at failed
  · cases failed
  · cases failed
    exact ApiError.noConfusion

end Catalog

namespace Effect

variable {α : Type} {s : Store} {tenantId id : Uuid}

theorem fault_of_guarded {check : Except ApiError α} {next : α → Effect}
    (other : ∀ e, check = .error e → e ≠ .database)
    (failed : (guarded check next).1 = .error .database) :
    ∃ a, check = .ok a ∧ (next a).1 = .error .database := by
  cases check with
  | ok a => exact ⟨a, rfl, failed⟩
  | error e => exact absurd (Except.error.inj failed) (other e rfl)

theorem fault_of_ofStatus {status : OrderStatus} {reply : Order → Reply}
    (failed : (ofStatus s tenantId id status reply).1 = .error .database) :
    ∃ l ∈ s.lines, l.orderId = id ∧ l.read? = none := by
  rw [ofStatus] at failed
  cases found : s.orderOf? tenantId id with
  | none =>
    rw [found] at failed
    exact absurd (Except.error.inj failed) ApiError.noConfusion
  | some row =>
    rw [found] at failed
    obtain ⟨-, named, -⟩ := Store.orderOf?_eq_some found
    rcases Orders.shownOne_cases s { row with status := status.name } with
      ⟨o, shown⟩ | ⟨-, l, member, own, lost⟩
    · simp only [shown] at failed
      cases failed
    · exact ⟨l, member, own.trans named, lost⟩

theorem fault_of_ofEdit {target : Except ApiError (String × Item)} {f : Item → Item}
    (other : ∀ e, target = .error e → e ≠ .database) :
    (ofEdit target f).1 ≠ .error .database := by
  intro failed
  cases target with
  | ok found => cases failed
  | error e => exact other e rfl (Except.error.inj failed)

end Effect

namespace Call

variable {c : Call} {s : Store} {tenantId id : Uuid}

/-- With a database that answers everything only the update of an order fails as the database does,
for a line of the order that cannot be read. -/
theorem effect_fault {u : Update} (writes : c.update = some u)
    (failed : (c.effect s).1 = .error .database) :
    ∃ tenantId id status, c.sets = some (tenantId, id, status) ∧
      ∃ l ∈ s.lines, l.orderId = id ∧ l.read? = none := by
  cases c
  case updateOrderStatus user id asked =>
    obtain ⟨_, passed, failed⟩ :=
      Effect.fault_of_guarded (fun _ => user.fault_of_ensureAdmin) failed
    obtain ⟨status, named, failed⟩ :=
      Effect.fault_of_guarded (fun _ => asked.fault_of_target) failed
    refine ⟨user.tenantId, id, status, ?_, Effect.fault_of_ofStatus failed⟩
    rw [sets, if_pos (admin_of_ensureAdmin passed), named]
    rfl
  case setStatus tenantId id status =>
    exact ⟨tenantId, id, status, rfl, Effect.fault_of_ofStatus failed⟩
  case patchItem user id p =>
    obtain ⟨_, -, failed⟩ := Effect.fault_of_guarded (fun _ => user.fault_of_ensureAdmin) failed
    exact absurd failed (Effect.fault_of_ofEdit fun _ => Catalog.fault_of_patchTarget)
  case setItemAvailability user id a =>
    obtain ⟨_, -, failed⟩ := Effect.fault_of_guarded (fun _ => user.fault_of_ensureAdmin) failed
    exact absurd failed (Effect.fault_of_ofEdit fun _ => Catalog.fault_of_editTarget)
  all_goals cases writes

/-! ### The write of a call -/

theorem edits_of_sets {status : OrderStatus} (sets : c.sets = some (tenantId, id, status)) :
    c.edits = none := by
  cases c
  case patchItem => cases sets
  case setItemAvailability => cases sets
  all_goals rfl

theorem update_of_creates {asked : Fresh × OrderRequest} (creates : c.creates = some asked) :
    c.update = none := by
  cases c
  case placeOrder => rfl
  case createOrder => rfl
  all_goals cases creates

theorem update_of_sets {status : OrderStatus} (sets : c.sets = some (tenantId, id, status)) :
    c.update = some ⟨1, (·.updateStatus id status)⟩ := by
  cases c
  case updateOrderStatus user id' u =>
    rw [Call.sets] at sets
    split at sets
    · rw [update]
      cases target : u.target with
      | error e =>
        rw [target] at sets
        cases sets
      | ok status' =>
        rw [target] at sets
        cases sets
        rfl
    · cases sets
  case setStatus =>
    cases sets
    rfl
  all_goals cases sets

theorem update_of_edits {f : Item → Item} (edits : c.edits = some (tenantId, id, f)) :
    ∃ k, c.update = some ⟨k, (·.updateItem id f)⟩ := by
  cases c
  case patchItem =>
    rw [Call.edits] at edits
    split at edits
    · cases edits
      exact ⟨_, rfl⟩
    · cases edits
  case setItemAvailability =>
    rw [Call.edits] at edits
    split at edits
    · cases edits
      exact ⟨_, rfl⟩
    · cases edits
  all_goals cases edits

theorem sets_of_update (writes : c.update = none) : c.sets = none := by
  cases sets : c.sets with
  | none => rfl
  | some asked =>
    rw [update_of_sets sets] at writes
    cases writes

theorem edits_of_update (writes : c.update = none) : c.edits = none := by
  cases edits : c.edits with
  | none => rfl
  | some asked =>
    obtain ⟨k, same⟩ := update_of_edits edits
    rw [same] at writes
    cases writes

/-- A call with a write that stands for itself comes to that write or to nothing. -/
theorem step_of_update {u : Update} (writes : c.update = some u) :
    c.step s = s ∨ c.step s = u.apply s := by
  rw [step]
  rcases c.effect_cases s with idle | ⟨fresh, r, row, lines, creates, -, -⟩ |
    ⟨tenantId, id, status, row, sets, -, changed, -⟩ |
    ⟨tenantId, id, f, code, item, edits, -, changed, -⟩
  · exact .inl (by rw [idle]; rfl)
  · rw [update_of_creates creates] at writes
    cases writes
  · rw [update_of_sets sets] at writes
    cases writes
    exact .inr (by rw [changed]; rfl)
  · obtain ⟨k, same⟩ := update_of_edits edits
    rw [same] at writes
    cases writes
    exact .inr (by rw [changed]; rfl)

/-! ### Rows after one call -/

/-- An update of an order changes the orders that it is about, and nothing else. -/
theorem step_sets (keyed : s.Keyed) {status : OrderStatus}
    (sets : c.sets = some (tenantId, id, status)) :
    c.step s = { s with orders := s.orders.map (·.after [c]) } := by
  obtain ⟨reply, set⟩ := effect_sets (s := s) sets
  rw [step, set, Effect.ofStatus]
  cases found : s.orderOf? tenantId id with
  | none =>
    have same := map_eq_self (l := s.orders) (f := (·.after [c])) fun o member => by
      have other : ¬(tenantId = o.tenantId ∧ id = o.id) := by
        intro both
        exact absurd (List.find?_eq_none.1 found o member) (by simp [both.1, both.2])
      simp only [OrderRow.after_single, given, sets, if_neg other]
    exact congrArg (fun orders => { s with orders }) same.symm
  | some row =>
    obtain ⟨member, rfl, rfl⟩ := Store.orderOf?_eq_some found
    refine congrArg (fun orders => { s with orders }) (List.map_congr_left fun o there => ?_)
    simp only [OrderRow.after_single, given, sets]
    by_cases here : o.id = row.id
    · obtain rfl := eq_of_key_eq (keyed.ids .order) there member here
      simp
    · rw [if_neg here, if_neg fun all => here all.2.symm]

/-- An edit of an item changes the items that it is about, and nothing else, unless it comes to
nothing. -/
theorem step_edits (keyed : s.Keyed) {f : Item → Item} (edits : c.edits = some (tenantId, id, f))
    (changed : (c.effect s).2 ≠ .nothing) :
    c.step s = { s with items := s.items.map (·.after [c]) } := by
  obtain ⟨target, edit, found⟩ := effect_edits (s := s) edits
  rw [edit] at changed
  rw [step, edit]
  cases target with
  | error e => exact absurd rfl changed
  | ok target =>
    obtain ⟨-, member, rfl, rfl⟩ := Catalog.editTarget_eq_ok (found target rfl)
    refine congrArg (fun items => { s with items }) (List.map_congr_left fun i there => ?_)
    simp only [Item.after_single, Item.afterOne, edits]
    by_cases here : i.id = target.2.id
    · obtain rfl := eq_of_key_eq (keyed.ids .item) there member here
      simp
    · rw [if_neg here, if_neg fun all => here all.2.symm]

/-- An edit whose write is carried out changes the items that it is about, and nothing else. -/
theorem step_edits_of_carried (keyed : s.Keyed) {f : Item → Item}
    (edits : c.edits = some (tenantId, id, f))
    (carried : ∀ u, c.update = some u → c.step s = u.apply s) :
    c.step s = { s with items := s.items.map (·.after [c]) } := by
  by_cases idle : (c.effect s).2 = .nothing
  · -- nothing was found to edit, so that the write has left every item as it was
    obtain ⟨k, writes⟩ := update_of_edits edits
    have still : c.step s = s := by rw [step, idle]; rfl
    have written : s.updateItem id f = s := (carried _ writes).symm.trans still
    have same : (s.updateItem id f).items = s.items.map fun i => i := by
      rw [List.map_id', written]
    have fixed := List.map_inj_left.1 same
    rw [still, map_eq_self fun i member => ?_]
    rcases i.afterOne_eq_self_or c with other | ⟨g, asked, edited⟩
    · exact other
    · rw [edits] at asked
      cases asked
      rw [Item.after_single, edited]
      simpa using fixed i member
  · exact step_edits keyed edits idle

/-- A call that asks for an order leaves the store as it was or with an order that waits, is not
paid, and has a new id. -/
theorem step_creates {fresh : Fresh} {r : OrderRequest} (creates : c.creates = some (fresh, r)) :
    c.step s = s ∨ ∃ row lines, c.step s = s.withOrder row lines ∧ row.id ∉ s.ids .order ∧
      (∀ l ∈ lines, l.orderId = row.id) ∧ row.status = OrderStatus.waiting.name ∧
      row.paidStatus = PaidStatus.unpaid.name ∧ row.id = fresh.orderId ∧
      row.createdAt = fresh.now := by
  rcases effect_creates (s := s) creates with ⟨e, refused⟩ | ⟨reply, told, placing⟩
  · exact .inl (by rw [step, refused]; rfl)
  rw [step, placing]
  cases placed : Orders.placement fresh r s with
  | error e => exact .inl rfl
  | ok added =>
    obtain ⟨tenant, table, -, -, same, absent, ordered⟩ := Orders.placement_eq_ok placed
    refine .inr ⟨added.1, added.2, rfl, ?_⟩
    rw [same]
    have own := (Orders.lineRows_eq_ok ordered).1
    exact ⟨absent, fun l member => (own l member).1, rfl, rfl, rfl, rfl⟩

theorem orders_after_other (sets : c.sets = none) : s.orders.map (·.after [c]) = s.orders :=
  map_eq_self fun o _ => by simp only [OrderRow.after_single, given, sets]

theorem items_after_other (edits : c.edits = none) : s.items.map (·.after [c]) = s.items :=
  map_eq_self fun i _ => by simp only [Item.after_single, Item.afterOne, edits]

/-- A call that writes no state and no item is one after which nothing differs. -/
theorem continues_other (sets : c.sets = none) (edits : c.edits = none) : s.Continues s [c] where
  tenants := rfl
  tables := rfl
  categories := rfl
  items := (items_after_other edits).symm
  orders := ⟨[], by rw [orders_after_other sets, List.append_nil]⟩
  lines := ⟨[], by simp⟩

/-- What a call comes to continues what was there, as long as its write is carried out. -/
theorem continues_carried (keyed : s.Keyed)
    (carried : ∀ u, c.update = some u → c.step s = u.apply s) : s.Continues (c.step s) [c] := by
  cases sets : c.sets with
  | some asked =>
    obtain ⟨tenantId, id, status⟩ := asked
    rw [step_sets keyed sets]
    exact ⟨rfl, rfl, rfl, (items_after_other (edits_of_sets sets)).symm,
      ⟨[], (List.append_nil _).symm⟩, ⟨[], by simp⟩⟩
  | none =>
  cases edits : c.edits with
  | some asked =>
    obtain ⟨tenantId, id, f⟩ := asked
    rw [step_edits_of_carried keyed edits carried]
    exact ⟨rfl, rfl, rfl, rfl, ⟨[], by rw [orders_after_other sets, List.append_nil]⟩,
      ⟨[], by simp⟩⟩
  | none =>
  cases creates : c.creates with
  | none =>
    rw [step, effect_idle creates sets edits]
    exact continues_other sets edits
  | some asked =>
    obtain ⟨fresh, r⟩ := asked
    rcases step_creates (s := s) creates with idle | ⟨row, lines, added, absent, own, -⟩
    · rw [idle]
      exact continues_other sets edits
    · rw [added]
      refine ⟨rfl, rfl, rfl, (items_after_other edits).symm, ⟨[row], ?_⟩, ⟨lines, rfl, ?_⟩⟩
      · rw [orders_after_other sets]
        rfl
      · intro l member
        rw [own l member]
        exact absent

/-- What a call comes to continues what was there, with that call or without it. -/
theorem continues_step (keyed : s.Keyed) (c : Call) :
    ∃ history, s.Continues (c.step s) history := by
  by_cases carried : ∀ u, c.update = some u → c.step s = u.apply s
  · exact ⟨[c], continues_carried keyed carried⟩
  · push Not at carried
    obtain ⟨u, writes, other⟩ := carried
    rcases step_of_update (s := s) writes with idle | done
    · rw [idle]
      exact ⟨[], .refl s⟩
    · exact absurd done other

/-- An order that was not there before a call is one that the call asked for. -/
theorem created_step (keyed : s.Keyed) (c : Call) {o : OrderRow} (member : o ∈ (c.step s).orders)
    (absent : o.id ∉ s.ids .order) :
    (∃ fresh r, c.creates = some (fresh, r) ∧ o.id = fresh.orderId ∧ o.createdAt = fresh.now) ∧
      o.status = OrderStatus.waiting.name ∧ o.paidStatus = PaidStatus.unpaid.name := by
  have gone (same : (c.step s).ids .order = s.ids .order) : False := by
    have there : o.id ∈ (c.step s).ids .order := List.mem_map_of_mem member
    exact absent (same ▸ there)
  cases creates : c.creates with
  | some asked =>
    obtain ⟨fresh, r⟩ := asked
    rcases step_creates (s := s) creates with
      idle | ⟨row, lines, added, -, -, status, paid, named, dated⟩
    · exact (gone (by rw [idle])).elim
    rw [added] at member
    rcases List.mem_append.1 member with there | there
    · exact absurd (List.mem_map_of_mem there) absent
    · obtain rfl := List.mem_singleton.1 there
      exact ⟨⟨fresh, r, rfl, named, dated⟩, status, paid⟩
  | none =>
  cases sets : c.sets with
  | some asked =>
    obtain ⟨tenantId, id, status⟩ := asked
    rw [step_sets keyed sets] at gone
    exact (gone (by simp only [Store.ids, List.map_map]; rfl)).elim
  | none =>
  cases edits : c.edits with
  | some asked =>
    obtain ⟨tenantId, id, f⟩ := asked
    have same : (c.step s).ids .order = s.ids .order := by
      obtain ⟨k, writes⟩ := update_of_edits edits
      rcases step_of_update (s := s) writes with idle | done
      · rw [idle]
      · rw [done]
        rfl
    exact (gone same).elim
  | none =>
    rw [step, effect_idle creates sets edits] at gone
    exact (gone rfl).elim

end Call

/-! ## One attempt -/

/-- Whether the call of an attempt was carried out, by its answer. One that succeeds was. One that
fails as the database does was if it makes a write that stands for itself and this was answered. -/
def Attempt.carriedOut (a : Attempt) (w : World) : Bool :=
  match a.answer w with
  | .ok _ => true
  | .error e => e == .database && a.call.update.any fun u => a.answers.all (u.before < ·)

/-- The call of an attempt, if it was carried out. -/
def Attempt.done (a : Attempt) (w : World) : List Call :=
  if a.carriedOut w then [a.call] else []

/-- The calls of a run that were carried out. -/
def World.history (w : World) : List Attempt → List Call
  | [] => []
  | a :: rest => a.done w ++ (a.make w).history rest

namespace Attempt

variable {a : Attempt} {w : World} {u : Update}

/-- A write that stands for itself is made just when the call was carried out. -/
theorem make_of_update (tables : ∀ t, t ∈ w.database.tables) (writes : a.call.update = some u) :
    (a.make w).database.store =
      if a.carriedOut w then u.apply w.database.store else w.database.store := by
  rcases Call.run_rewrites a.server writes (a.take_eq w) with ⟨e, failed, untouched⟩ | written
  · have idle : a.carriedOut w = false := by
      rw [carriedOut, failed]
      by_cases fault : e = .database
      · obtain ⟨n, left, few⟩ := untouched.stopped fault tables
        have left : a.answers = some n := left
        simp [writes, left, few]
      · simp [fault]
    rw [idle]
    exact untouched.store
  · have done : a.carriedOut w = true := by
      rw [carriedOut]
      cases answered : a.answer w with
      | ok reply => rfl
      | error e =>
        obtain rfl := written.fault e answered
        have answers : a.answers.all (u.before < ·) = true := by
          rw [Option.all_eq_true]
          exact fun n left => decide_eq_true (written.answered n left)
        rw [writes, Option.any_some, answers]
        rfl
    rw [done]
    exact written.store

/-- What is not carried out changes no row. -/
theorem make_of_idle (tables : ∀ t, t ∈ w.database.tables) (idle : a.carriedOut w = false) :
    (a.make w).database.store = w.database.store := by
  cases writes : a.call.update with
  | some u =>
    rw [make_of_update tables writes, idle]
    rfl
  | none =>
    cases answered : a.answer w with
    | error e =>
      have kept := Call.run_atomic a.server writes ((a.take_eq w).trans (by rw [answered]))
      exact kept
    | ok reply =>
      rw [carriedOut, answered] at idle
      cases idle

/-- A write that stands for itself is, once carried out, what the call comes to. -/
theorem step_of_carriedOut (keyed : w.database.store.Keyed)
    (tables : ∀ t, t ∈ w.database.tables) (carried : a.carriedOut w = true)
    (writes : a.call.update = some u) :
    a.call.step w.database.store = u.apply w.database.store := by
  have left := make_of_update tables writes
  rw [carried, if_pos rfl] at left
  rcases Call.step_of_update (s := w.database.store) writes with idle | same
  · rcases a.make_store keyed with kept | done
    · rw [idle, ← left, kept]
    · rw [← left, done]
  · exact same

/-- What an attempt leaves continues what was there. -/
theorem continues_done (a : Attempt) (keyed : w.database.store.Keyed)
    (tables : ∀ t, t ∈ w.database.tables) :
    w.database.store.Continues (a.make w).database.store (a.done w) := by
  rw [done]
  cases carried : a.carriedOut w with
  | false =>
    rw [make_of_idle tables carried]
    exact .refl _
  | true =>
    have whole := Call.continues_carried keyed fun u => step_of_carriedOut keyed tables carried
    cases writes : a.call.update with
    | some u =>
      rw [make_of_update tables writes, carried, if_pos rfl,
        ← step_of_carriedOut keyed tables carried writes]
      exact whole
    | none =>
      rcases a.make_store keyed with kept | done
      · rw [kept]
        exact Call.continues_other (Call.sets_of_update writes) (Call.edits_of_update writes)
      · rw [done]
        exact whole

/-- What is carried out succeeds, or fails as the database does after its write. -/
theorem answer_of_carriedOut (carried : a.carriedOut w = true) :
    (a.answer w).isOk = true ∨ a.answer w = .error .database ∧
      ∃ u, a.call.update = some u ∧ ∀ n, a.answers = some n → u.before < n := by
  rw [carriedOut] at carried
  cases answered : a.answer w with
  | ok reply => exact .inl rfl
  | error e =>
    rw [answered, Bool.and_eq_true, beq_iff_eq, Option.any_eq_true] at carried
    obtain ⟨rfl, u, writes, answers⟩ := carried
    refine .inr ⟨rfl, u, writes, fun n left => ?_⟩
    rw [left] at answers
    exact of_decide_eq_true answers

/-! ### Attempts that are not interrupted -/

theorem answer_of_update (answers : a.answers = none) (keyed : w.database.store.Keyed)
    (tables : ∀ t, t ∈ w.database.tables) (writes : a.call.update = some u) :
    a.answer w = (a.call.effect w.database.store).1 := by
  have serving : ((a.onset w).later a.elapsed a.keys).database.Serving := ⟨answers, tables⟩
  exact (a.call.run_leaves a.server serving keyed fun code same => by
    rw [same] at writes
    cases writes).answer

/-- Whoever may set the state of an order does so. -/
theorem carriedOut_of_sets (answers : a.answers = none) (keyed : w.database.store.Keyed)
    (tables : ∀ t, t ∈ w.database.tables) {o : OrderRow} (member : o ∈ w.database.store.orders)
    {status : OrderStatus} (sets : a.call.sets = some (o.tenantId, o.id, status)) :
    a.carriedOut w = true := by
  have writes := Call.update_of_sets sets
  obtain ⟨reply, set⟩ := Call.effect_sets (s := w.database.store) sets
  have answer := answer_of_update answers keyed tables writes
  rw [set, Effect.ofStatus, keyed.orderOf?_eq_some member] at answer
  rcases Orders.shownOne_cases w.database.store { o with status := status.name } with
    ⟨shown, read⟩ | ⟨failed, -⟩
  · simp only [read] at answer
    rw [carriedOut, answer]
    rfl
  · simp only [failed] at answer
    rw [carriedOut, answer, writes, answers]
    rfl

/-- What is carried out succeeds, but for an update of an order with a line that cannot be read. -/
theorem isOk_of_carriedOut (answers : a.answers = none) (keyed : w.database.store.Keyed)
    (tables : ∀ t, t ∈ w.database.tables) (carried : a.carriedOut w = true) :
    (a.answer w).isOk = true ∨
      ∃ tenantId id status, a.call.sets = some (tenantId, id, status) ∧
        ∃ l ∈ w.database.store.lines, l.orderId = id ∧ l.read? = none := by
  refine (answer_of_carriedOut carried).imp_right fun ⟨failed, u, writes, _⟩ => ?_
  rw [answer_of_update answers keyed tables writes] at failed
  exact Call.effect_fault writes failed

end Attempt

/-! ## Runs -/

namespace World

variable {w : World}

theorem history_continues (keyed : w.database.store.Keyed) (tables : ∀ t, t ∈ w.database.tables)
    (attempts : List Attempt) :
    w.database.store.Continues (w.attempt attempts).database.store (w.history attempts) := by
  induction attempts generalizing w with
  | nil => exact .refl _
  | cons a rest ih =>
    have tables' : ∀ t, t ∈ (a.make w).database.tables := fun t => a.make_tables w ▸ tables t
    exact (a.continues_done keyed tables).trans (ih (a.make_keyed keyed) tables')

/-- An order that came in a run was placed by one attempt of it. -/
theorem created_in_run (keyed : w.database.store.Keyed) (tables : ∀ t, t ∈ w.database.tables)
    (attempts : List Attempt) {o : OrderRow}
    (member : o ∈ (w.attempt attempts).database.store.orders)
    (absent : o.id ∉ w.database.store.ids .order) :
    ∃ before a after row, attempts = before ++ a :: after ∧
      a.carriedOut (w.attempt before) = true ∧
      row.id ∉ (w.attempt before).database.store.ids .order ∧
      row ∈ (w.attempt (before ++ [a])).database.store.orders ∧
      row.status = OrderStatus.waiting.name ∧ row.paidStatus = PaidStatus.unpaid.name ∧
      o = row.after ((w.attempt (before ++ [a])).history after) := by
  induction attempts generalizing w with
  | nil => exact absurd (List.mem_map_of_mem member) absent
  | cons a rest ih =>
    have keyed' := a.make_keyed keyed
    have tables' : ∀ t, t ∈ (a.make w).database.tables := fun t => a.make_tables w ▸ tables t
    by_cases here : o.id ∈ (a.make w).database.store.ids .order
    · obtain ⟨row, there, same⟩ := List.mem_map.1 here
      have created := there
      rcases a.make_store keyed with kept | done
      · rw [kept] at here
        exact absurd here absent
      rw [done] at created
      obtain ⟨-, status, paid⟩ := a.call.created_step keyed created (same ▸ absent)
      have carried : a.carriedOut w = true := by
        rw [← Bool.not_eq_false]
        intro idle
        rw [Attempt.make_of_idle tables idle] at here
        exact absent here
      refine ⟨[], a, rest, row, rfl, carried, same ▸ absent, there, status, paid, ?_⟩
      have last := (history_continues keyed' tables' rest).after_mem there
      exact eq_of_key_eq ((attempt_keyed keyed' rest).ids .order) member last same.symm
    · obtain ⟨before, a', after, row, rfl, carried, unseen, there, status, paid, same⟩ :=
        ih keyed' tables' member here
      exact ⟨a :: before, a', after, row, rfl, carried, unseen, there, status, paid, same⟩

end World

/-! ## What stays -/

theorem OrderRow.known_after {o : OrderRow} (known : (OrderStatus.ofName? o.status).isSome = true)
    (history : List Call) : (OrderStatus.ofName? (o.after history).status).isSome = true := by
  rw [OrderRow.after]
  cases (history.filterMap (Call.given o.tenantId o.id)).getLast? with
  | none => exact known
  | some status =>
    have named := OrderStatus.ofName?_name status
    simp [named]

theorem Item.id_after (i : Item) (history : List Call) : (i.after history).id = i.id := by
  induction history generalizing i with
  | nil => rfl
  | cons x rest ih =>
    have kept : (i.afterOne x).id = i.id := by
      rcases i.afterOne_eq_self_or x with same | ⟨f, edits, changed⟩
      · rw [same]
      · rw [changed, (Call.edits_keep edits i).1]
    exact (ih (i.afterOne x)).trans kept

/-- An item that differs was edited by a call that may. -/
theorem Item.edited_of_after_ne {i : Item} {history : List Call} (differs : i.after history ≠ i) :
    ∃ c ∈ history, ∃ f, c.edits = some (i.tenantId, i.id, f) := by
  induction history with
  | nil => exact absurd rfl differs
  | cons c rest ih =>
    rcases i.afterOne_eq_self_or c with same | ⟨f, edits, -⟩
    · have later : i.after rest ≠ i := by
        rwa [Item.after, List.foldl_cons, same] at differs
      obtain ⟨d, member, edited⟩ := ih later
      exact ⟨d, List.mem_cons_of_mem c member, edited⟩
    · exact ⟨c, List.mem_cons_self, f, edits⟩

/-- Whatever is called and whenever the database stops, the store at a later moment continues the
store at an earlier one. Tenants, tables and categories are the same rows. Every order is there with
all its fields but the state, which is the one that the last update of it gave that was carried out,
and with the very lines it had. Every other order was placed in between, unpaid and waiting, and its
state comes about in the same way. States that had names have names. Items differ only where an
administrator of their tenant edited them. Unless the database stops in the middle of it, an update
by someone who may is carried out, and what is carried out succeeds, but for an update of an order
with a line that cannot be read. -/
theorem history_append_only {w : World} (keyed : w.database.store.Keyed)
    (tables : ∀ t, t ∈ w.database.tables) (before after : List Attempt) :
    let first := w.attempt before
    let history := first.history after
    let s := first.database.store
    let s' := (w.attempt (before ++ after)).database.store
    s.Continues s' history ∧
      (∀ o ∈ s.orders, o.after history ∈ s'.orders ∧
        (s'.lines.filter fun l => l.orderId == o.id) =
          s.lines.filter fun l => l.orderId == o.id) ∧
      (∀ o ∈ s'.orders, o.id ∉ s.ids .order →
        ∃ earlier a later row, after = earlier ++ a :: later ∧
          a.carriedOut (first.attempt earlier) = true ∧
          row.id ∉ (first.attempt earlier).database.store.ids .order ∧
          row ∈ (first.attempt (earlier ++ [a])).database.store.orders ∧
          row.status = OrderStatus.waiting.name ∧ row.paidStatus = PaidStatus.unpaid.name ∧
          o = row.after ((first.attempt (earlier ++ [a])).history later)) ∧
      ((∀ o ∈ s.orders, (OrderStatus.ofName? o.status).isSome = true) →
        ∀ o ∈ s'.orders, (OrderStatus.ofName? o.status).isSome = true) ∧
      (∀ i ∈ s.items, i.after history ∈ s'.items ∧ (i.after history).id = i.id ∧
        (i.after history ≠ i → ∃ c ∈ history, ∃ f, c.edits = some (i.tenantId, i.id, f))) ∧
      ∀ earlier a later, after = earlier ++ a :: later → a.answers = none →
        let here := first.attempt earlier
        (∀ o ∈ s.orders, ∀ status, a.call.sets = some (o.tenantId, o.id, status) →
          a.carriedOut here = true) ∧
        (a.carriedOut here = true → (a.answer here).isOk = true ∨
          ∃ tenantId id status, a.call.sets = some (tenantId, id, status) ∧
            ∃ l ∈ here.database.store.lines, l.orderId = id ∧ l.read? = none) := by
  intro first history s s'
  have keyed' : first.database.store.Keyed := World.attempt_keyed keyed before
  have tables' : ∀ t, t ∈ first.database.tables := fun t =>
    (w.attempt_tables before).symm ▸ tables t
  have last : s' = (first.attempt after).database.store :=
    congrArg (·.database.store) (w.attempt_append before after)
  have kept : s.Continues s' history := last ▸ World.history_continues keyed' tables' after
  have come {o : OrderRow} (member : o ∈ s'.orders) (absent : o.id ∉ s.ids .order) :=
    World.created_in_run keyed' tables' after (last ▸ member) absent
  refine ⟨kept, fun o member => ⟨kept.after_mem member, kept.lines_of_order member⟩,
    fun o member absent => come member absent, fun known o member => ?_,
    fun i member => ⟨?_, i.id_after history, Item.edited_of_after_ne⟩,
    fun earlier a later split answers => ?_⟩
  · by_cases there : o.id ∈ s.ids .order
    · obtain ⟨row, found, same⟩ := List.mem_map.1 there
      have keyed'' : s'.Keyed := last ▸ World.attempt_keyed keyed' after
      obtain rfl := eq_of_key_eq (keyed''.ids .order) (kept.after_mem found) member same
      exact OrderRow.known_after (known row found) history
    · obtain ⟨_, _, _, row, -, -, -, -, waits, -, rfl⟩ := come member there
      exact OrderRow.known_after (by rw [waits]; rfl) _
  · rw [kept.items]
    exact List.mem_map_of_mem member
  · have keyedHere := World.attempt_keyed keyed' earlier
    have tablesHere : ∀ t, t ∈ (first.attempt earlier).database.tables := fun t =>
      (first.attempt_tables earlier).symm ▸ tables' t
    have meanwhile := World.history_continues keyed' tables' earlier
    exact ⟨fun o member status sets => Attempt.carriedOut_of_sets (o := o.after _) answers keyedHere
      tablesHere (meanwhile.after_mem member) sets,
      Attempt.isOk_of_carriedOut answers keyedHere tablesHere⟩

namespace Sample

/-- A call after a while. -/
def attempt (c : Call) (answers : Option Nat) : Attempt := ⟨⟨server, c, 1, fun _ => true⟩, answers⟩

/-- There is another order. -/
def opening : List Attempt := [attempt refill none]

/-- The database stops after the order is done, before the coffee gets dearer, and before the order
is canceled. -/
def stops : List Attempt :=
  [attempt finish (some 2), attempt raise (some 2),
    attempt (.setStatus cafe.id order.id .canceled) (some 1)]

/-- The cafe with an order of which a line cannot be read. -/
def blotted : World :=
  ⟨⟨{ store [] with lines := [lostLine] }, Entity.all, true, true, true, none⟩, [], 0, []⟩

end Sample

theorem history_append_only_cafe :
    (((Sample.world []).attempt Sample.opening).history Sample.stops).map
        (·.given Sample.cafe.id Sample.order.id) = [some .done] ∧
      { Sample.order with status := "done" } ∈
        ((Sample.world []).attempt (Sample.opening ++ Sample.stops)).database.store.orders ∧
      (((Sample.world []).attempt (Sample.opening ++ Sample.stops)).database.store.lines.filter
        fun l => l.orderId == Sample.order.id).map (fun l => (l.id, l.name, l.qty, l.unitPrice)) =
          [(Sample.line.id, "Coffee", 2, 300)] ∧
      Sample.coffee ∈
        ((Sample.world []).attempt (Sample.opening ++ Sample.stops)).database.store.items := by
  obtain ⟨-, orders, -, -, items, -⟩ := history_append_only (w := Sample.world []) (by decide)
    Entity.mem_all Sample.opening Sample.stops
  have opened :
      Sample.order ∈ ((Sample.world []).attempt Sample.opening).database.store.orders := by
    decide +kernel
  have offered :
      Sample.coffee ∈ ((Sample.world []).attempt Sample.opening).database.store.items := by
    decide +kernel
  obtain ⟨order, lines⟩ := orders Sample.order opened
  obtain ⟨item, -⟩ := items Sample.coffee offered
  have done : Sample.order.after (((Sample.world []).attempt Sample.opening).history Sample.stops) =
      { Sample.order with status := "done" } := by decide +kernel
  have kept : Sample.coffee.after (((Sample.world []).attempt Sample.opening).history
      Sample.stops) = Sample.coffee := by decide +kernel
  rw [done] at order
  rw [kept] at item
  refine ⟨by decide +kernel, order, ?_, item⟩
  rw [lines]
  decide +kernel

/-- The only update of an order is answered with the failure of the database, which could not give
one of its lines, and yet it sets the state. -/
theorem done_without_success :
    Sample.blotted.database.Serving ∧
      Sample.blotted.database.store.orders = [Sample.order] ∧ Sample.order.status = "waiting" ∧
      (Sample.attempt Sample.finish none).answer Sample.blotted = .error .database ∧
      (Sample.blotted.attempt [Sample.attempt Sample.finish none]).database.store.orders =
        [{ Sample.order with status := "done" }] := by
  have carried : (Sample.attempt Sample.finish none).carriedOut Sample.blotted = true := by
    decide +kernel
  have unsuccessful : ((Sample.attempt Sample.finish none).answer Sample.blotted).isOk ≠ true := by
    decide +kernel
  rcases Attempt.answer_of_carriedOut carried with ok | ⟨failed, -⟩
  · exact absurd ok unsuccessful
  · exact ⟨⟨rfl, Entity.mem_all⟩, rfl, rfl, failed, by decide +kernel⟩

end Tableside
