import Mathlib.Data.List.Nodup
import Tableside.Store.Constraint

/-!
# Keyed stores

`Store.Keyed` is what the schema promises of every store: ids do not repeat within a table, nor do
the codes of tenants and the tokens of tables. In a keyed store a row is named by its id, so that
the questions about a row and the writes to it mean the same row. Adding a row that is not there
and changing a row without changing its key keep a store keyed.
-/

namespace Tableside

/-! ## Keyed lists -/

/-- In a list without repeated keys, a row that is asked for by its key is the row that is found. -/
theorem find?_eq_some_of_keyed {α κ : Type} (key : α → κ) {l : List α} (nodup : (l.map key).Nodup)
    {p : α → Bool} {x : α} (member : x ∈ l) (holds : p x = true)
    (only : ∀ y ∈ l, p y = true → key y = key x) : l.find? p = some x := by
  cases found : l.find? p with
  | none => exact absurd holds (List.find?_eq_none.1 found x member)
  | some y =>
    have there := List.mem_of_find?_eq_some found
    have same := only y there (List.find?_some found)
    rw [List.inj_on_of_nodup_map nodup there member same]

/-- Rows of a keyed list with one key are one row. -/
theorem eq_of_key_eq {α κ : Type} {key : α → κ} {l : List α} (nodup : (l.map key).Nodup) {x y : α}
    (hx : x ∈ l) (hy : y ∈ l) (same : key x = key y) : x = y :=
  List.inj_on_of_nodup_map nodup hx hy same

theorem map_key_update {α κ : Type} [DecidableEq κ] (key : α → κ) (l : List α) (k : κ) {f : α → α}
    (keeps : ∀ x, key (f x) = key x) :
    (l.map fun x => if key x = k then f x else x).map key = l.map key := by
  rw [List.map_map]
  refine List.map_congr_left fun x _ => ?_
  by_cases here : key x = k
  · simp [here, keeps]
  · simp [here]

theorem map_eq_self {α : Type} {l : List α} {f : α → α} (fixed : ∀ x ∈ l, f x = x) :
    l.map f = l := by
  rw [List.map_congr_left fixed, List.map_id']

section Lookup

variable {κ β : Type} [BEq κ] [LawfulBEq κ] {key : κ}

theorem lookup_filter_self (l : List (κ × β)) : (l.filter fun e => e.1 != key).lookup key = none := by
  rw [List.lookup_eq_none_iff]
  intro e member
  have other := bne_iff_ne.1 (List.mem_filter.1 member).2
  exact bne_iff_ne.2 other.symm

theorem lookup_filter_of_ne {other : κ} (apart : other ≠ key) (l : List (κ × β)) :
    (l.filter fun e => e.1 != key).lookup other = l.lookup other := by
  induction l with
  | nil => rfl
  | cons e rest ih =>
    by_cases here : e.1 = key
    · rw [List.filter_cons_of_neg (by simp [here]), ih, List.lookup_cons, here,
        beq_false_of_ne apart]
    · rw [List.filter_cons_of_pos (by simp [here]), List.lookup_cons, List.lookup_cons, ih]

end Lookup

theorem Entity.mem_all (e : Entity) : e ∈ all := by
  cases e <;> decide

namespace Store

/-! ## What the schema promises -/

/-- No id comes twice in a table, no code among the tenants and no token among the tables. -/
structure Keyed (s : Store) : Prop where
  ids : ∀ e, (s.ids e).Nodup
  codes : (s.tenants.map (·.code)).Nodup
  tokens : (s.tables.map (·.token)).Nodup

/-- Decided table by table. -/
instance (s : Store) : Decidable s.Keyed :=
  decidable_of_iff
    ((∀ e ∈ Entity.all, (s.ids e).Nodup) ∧ (s.tenants.map (·.code)).Nodup ∧
      (s.tables.map (·.token)).Nodup)
    ⟨fun ⟨ids, codes, tokens⟩ => ⟨fun e => ids e (by cases e <;> decide), codes, tokens⟩,
      fun keyed => ⟨fun e _ => keyed.ids e, keyed.codes, keyed.tokens⟩⟩

theorem has_iff {s : Store} {r : RowRef} : s.has r = true ↔ r.2 ∈ s.ids r.1 := by
  rw [has, List.contains_iff_mem]

/-! ## Changing rows -/

variable {s s' : Store} {id : Uuid}

@[simp] theorem ids_updateItem (s : Store) (id : Uuid) {f : Item → Item}
    (keeps : ∀ i, (f i).id = i.id) (e : Entity) : (s.updateItem id f).ids e = s.ids e := by
  cases e
  case item => exact map_key_update Item.id s.items id keeps
  all_goals rfl

@[simp] theorem ids_updateStatus (s : Store) (id : Uuid) (status : OrderStatus) (e : Entity) :
    (s.updateStatus id status).ids e = s.ids e := by
  cases e
  case order => exact map_key_update OrderRow.id s.orders id fun _ => rfl
  all_goals rfl

theorem updateItem_of_absent {f : Item → Item} (absent : ∀ i ∈ s.items, i.id ≠ id) :
    s.updateItem id f = s := by
  rw [Store.updateItem, map_eq_self fun i member => if_neg (absent i member)]

theorem updateStatus_of_absent {status : OrderStatus} (absent : ∀ o ∈ s.orders, o.id ≠ id) :
    s.updateStatus id status = s := by
  rw [Store.updateStatus, map_eq_self fun o member => if_neg (absent o member)]

theorem Keyed.updateItem (keyed : s.Keyed) (id : Uuid) {f : Item → Item}
    (keeps : ∀ i, (f i).id = i.id) :
    (s.updateItem id f).Keyed :=
  ⟨fun e => by rw [ids_updateItem s id keeps]; exact keyed.ids e, keyed.codes, keyed.tokens⟩

theorem Keyed.updateStatus (keyed : s.Keyed) (id : Uuid) (status : OrderStatus) :
    (s.updateStatus id status).Keyed :=
  ⟨fun e => by rw [ids_updateStatus]; exact keyed.ids e, keyed.codes, keyed.tokens⟩

/-! ## Adding rows -/

/-- An order of a tenant and a table that are there is added unless its id is taken. -/
theorem insertOrder_of_met {o : OrderRow} (tenant : s.has (.tenant, o.tenantId) = true)
    (table : s.has (.table, o.tableId) = true) (foreignKeys : Bool) :
    s.insertOrder foreignKeys o =
      if s.has (.order, o.id) then .error (.unique "orders.id")
      else .ok { s with orders := s.orders ++ [o] } := by
  have met : s.admits foreignKeys o.references = true := by
    simp [admits, OrderRow.references, tenant, table]
  simp [insertOrder, met]

/-- A line of an order and an item that are there is added unless its id is taken. -/
theorem insertLine_of_met {l : LineRow} (order : s.has (.order, l.orderId) = true)
    (item : s.has (.item, l.itemId) = true) (foreignKeys : Bool) :
    s.insertLine foreignKeys l =
      if s.has (.line, l.id) then .error (.unique "order_items.id")
      else .ok { s with lines := s.lines ++ [l] } := by
  have met : s.admits foreignKeys l.references = true := by
    simp [admits, LineRow.references, order, item]
  simp [insertLine, met]

/-- The store with an order and its lines. -/
def withOrder (s : Store) (o : OrderRow) (lines : List LineRow) : Store :=
  { s with orders := s.orders ++ [o], lines := s.lines ++ lines }

theorem nodup_concat {κ : Type} {keys : List κ} {key : κ} (nodup : keys.Nodup)
    (absent : key ∉ keys) : (keys ++ [key]).Nodup :=
  List.nodup_append.2 ⟨nodup, List.nodup_singleton _, fun a ha b hb => by
    rw [List.mem_singleton] at hb
    rintro rfl
    exact absent (hb ▸ ha)⟩

/-- Ids that are new and do not repeat leave the store keyed. -/
theorem Keyed.withOrder (keyed : s.Keyed) {o : OrderRow} {lines : List LineRow}
    (absent : o.id ∉ s.ids .order) (fresh : (s.ids .line ++ lines.map (·.id)).Nodup) :
    (s.withOrder o lines).Keyed := by
  refine ⟨fun e => ?_, keyed.codes, keyed.tokens⟩
  cases e with
  | order =>
    have nodup := nodup_concat (keyed.ids .order) absent
    simpa [Store.ids, Store.withOrder] using nodup
  | line => simpa [Store.ids, Store.withOrder] using fresh
  | tenant => exact keyed.ids .tenant
  | table => exact keyed.ids .table
  | category => exact keyed.ids .category
  | item => exact keyed.ids .item

/-! ## Questions about a row -/

theorem orderOf?_eq_some {tenantId : Uuid} {o : OrderRow}
    (found : s.orderOf? tenantId id = some o) :
    o ∈ s.orders ∧ o.id = id ∧ o.tenantId = tenantId := by
  have holds := List.find?_some found
  simp only [Bool.and_eq_true, beq_iff_eq] at holds
  exact ⟨List.mem_of_find?_eq_some found, holds⟩

theorem activeItemOf?_eq_some {tenantId : Uuid} {i : Item}
    (found : s.activeItemOf? tenantId id = some i) :
    i ∈ s.items ∧ i.id = id ∧ i.tenantId = tenantId := by
  have holds := List.find?_some found
  simp only [Bool.and_eq_true, beq_iff_eq] at holds
  exact ⟨List.mem_of_find?_eq_some found, holds.1⟩

theorem tableOf?_eq_some {tenantId : Uuid} {token : String} {t : TableRow}
    (found : s.tableOf? tenantId token = some t) :
    t ∈ s.tables ∧ t.token = token ∧ t.tenantId = tenantId := by
  have holds := List.find?_some found
  simp only [Bool.and_eq_true, beq_iff_eq] at holds
  exact ⟨List.mem_of_find?_eq_some found, holds.1⟩

theorem itemOf?_eq_some {tenantId : Uuid} {i : Item} (found : s.itemOf? tenantId id = some i) :
    i ∈ s.items ∧ i.id = id ∧ i.tenantId = tenantId := by
  have holds := List.find?_some found
  simp only [Bool.and_eq_true, beq_iff_eq] at holds
  exact ⟨List.mem_of_find?_eq_some found, holds⟩

theorem categoryOf?_eq_some {tenantId : Uuid} {c : Category}
    (found : s.categoryOf? tenantId id = some c) :
    c ∈ s.categories ∧ c.id = id ∧ c.tenantId = tenantId := by
  have holds := List.find?_some found
  simp only [Bool.and_eq_true, beq_iff_eq] at holds
  exact ⟨List.mem_of_find?_eq_some found, holds⟩

theorem tenant?_eq_some {t : Tenant} (found : s.tenant? id = some t) :
    t ∈ s.tenants ∧ t.id = id := by
  have holds := List.find?_some found
  exact ⟨List.mem_of_find?_eq_some found, beq_iff_eq.1 holds⟩

theorem tenantByCode?_eq_some {code : String} {t : Tenant} (found : s.tenantByCode? code = some t) :
    t ∈ s.tenants ∧ t.code = code := by
  have holds := List.find?_some found
  exact ⟨List.mem_of_find?_eq_some found, beq_iff_eq.1 holds⟩

theorem tenantByCode?_eq_none_iff {code : String} :
    s.tenantByCode? code = none ↔ ∀ tenant ∈ s.tenants, tenant.code ≠ code := by
  rw [Store.tenantByCode?, List.find?_eq_none]
  simp only [beq_iff_eq, ne_eq]

/-- Where no code comes twice, a tenant is found by its code. -/
theorem tenantByCode?_of_mem (codes : (s.tenants.map (·.code)).Nodup) {t : Tenant}
    (member : t ∈ s.tenants) : s.tenantByCode? t.code = some t :=
  find?_eq_some_of_keyed Tenant.code codes member (beq_self_eq_true _)
    fun _ _ holds => beq_iff_eq.1 holds

theorem Keyed.order?_eq_some (keyed : s.Keyed) {o : OrderRow} (member : o ∈ s.orders) :
    s.order? o.id = some o :=
  find?_eq_some_of_keyed OrderRow.id (keyed.ids .order) member (beq_self_eq_true _)
    fun _ _ holds => beq_iff_eq.1 holds

theorem Keyed.orderOf?_eq_some (keyed : s.Keyed) {o : OrderRow} (member : o ∈ s.orders) :
    s.orderOf? o.tenantId o.id = some o := by
  refine find?_eq_some_of_keyed OrderRow.id (keyed.ids .order) member (by simp) fun p _ holds => ?_
  simp only [Bool.and_eq_true, beq_iff_eq] at holds
  exact holds.1

theorem Keyed.item?_eq_some (keyed : s.Keyed) {i : Item} (member : i ∈ s.items) :
    s.item? i.id = some i :=
  find?_eq_some_of_keyed Item.id (keyed.ids .item) member (beq_self_eq_true _)
    fun _ _ holds => beq_iff_eq.1 holds

theorem Keyed.tenant?_eq_some (keyed : s.Keyed) {t : Tenant} (member : t ∈ s.tenants) :
    s.tenant? t.id = some t :=
  find?_eq_some_of_keyed Tenant.id (keyed.ids .tenant) member (beq_self_eq_true _)
    fun _ _ holds => beq_iff_eq.1 holds

theorem Keyed.tenantByCode?_eq_some (keyed : s.Keyed) {t : Tenant} (member : t ∈ s.tenants) :
    s.tenantByCode? t.code = some t :=
  tenantByCode?_of_mem keyed.codes member

/-- The order that was changed is found by its id, as changed. -/
theorem Keyed.order?_updateStatus (keyed : s.Keyed) {o : OrderRow} (member : o ∈ s.orders)
    (status : OrderStatus) :
    (s.updateStatus o.id status).order? o.id = some { o with status := status.name } :=
  (keyed.updateStatus o.id status).order?_eq_some
    (o := { o with status := status.name })
    (List.mem_map.2 ⟨o, member, by rw [if_pos rfl]⟩)

/-- The item that was changed is found by its id, as changed. -/
theorem Keyed.item?_updateItem (keyed : s.Keyed) {i : Item} (member : i ∈ s.items)
    {f : Item → Item} (keeps : ∀ i, (f i).id = i.id) :
    (s.updateItem i.id f).item? i.id = some (f i) := by
  have there : f i ∈ (s.updateItem i.id f).items :=
    List.mem_map.2 ⟨i, member, by rw [if_pos rfl]⟩
  have found := (keyed.updateItem i.id keeps).item?_eq_some there
  rwa [keeps] at found

end Store

end Tableside
