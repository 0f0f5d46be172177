import Tableside.Proofs.Consistency
import Tableside.Proofs.Removal

/-!
# What the schema keeps

A database with the schema and no rows is used by statements that add a row, statements that remove
one, and the calls of servers. Ids, codes and tokens stay unique and every reference stays met
(`World.live_governed`): a row is added only when what it refers to is there, calls write references
to rows that they have found, and a removal that leaves a reference open is refused. So every
removal is as `Store.Free` says.
-/

namespace Tableside

/-! ## Rows -/

/-- A row of any table. -/
inductive Row
  | tenant (t : Tenant)
  | table (t : TableRow)
  | category (c : Category)
  | item (i : Item)
  | order (o : OrderRow)
  | line (l : LineRow)

namespace Row

/-- The name of a row. -/
def ref : Row → RowRef
  | tenant t => (.tenant, t.id)
  | table t => (.table, t.id)
  | category c => (.category, c.id)
  | item i => (.item, i.id)
  | order o => (.order, o.id)
  | line l => (.line, l.id)

/-- The rows that a row refers to. -/
def references : Row → List RowRef
  | tenant _ => []
  | table t => t.references
  | category c => c.references
  | item i => i.references
  | order o => o.references
  | line l => l.references

/-- What adding a row does to the rows. -/
def into (s : Store) (foreignKeys : Bool) : Row → Except Fault Store
  | tenant t => s.insertTenant t
  | table t => s.insertTable foreignKeys t
  | category c => s.insertCategory foreignKeys c
  | item i => s.insertItem foreignKeys i
  | order o => s.insertOrder foreignKeys o
  | line l => s.insertLine foreignKeys l

/-- The statement that adds a row. -/
def insert : Row → Statement Unit
  | tenant t => .insertTenant t
  | table t => .insertTable t
  | category c => .insertCategory c
  | item i => .insertItem i
  | order o => .insertOrder o
  | line l => .insertLine l

end Row

namespace Store

variable {s s' : Store} {row : Row} {r : RowRef}

/-- The store with one more row. -/
def add (s : Store) : Row → Store
  | .tenant t => { s with tenants := s.tenants ++ [t] }
  | .table t => { s with tables := s.tables ++ [t] }
  | .category c => { s with categories := s.categories ++ [c] }
  | .item i => { s with items := s.items ++ [i] }
  | .order o => { s with orders := s.orders ++ [o] }
  | .line l => { s with lines := s.lines ++ [l] }

theorem links_add (s : Store) (row : Row) (e : Entity) :
    (s.add row).links e =
      s.links e ++ if e = row.ref.1 then [(row.ref.2, row.references)] else [] := by
  cases row <;> cases e <;> simp [add, links, Row.ref, Row.references]

theorem ids_add (s : Store) (row : Row) (e : Entity) :
    (s.add row).ids e = s.ids e ++ if e = row.ref.1 then [row.ref.2] else [] := by
  rw [ids_eq, ids_eq, links_add, List.map_append]
  split <;> rfl

/-- What a row needs that is added: its references are met where foreign keys are enforced, and its
id and its code or token are new. -/
structure Accepts (s : Store) (foreignKeys : Bool) (row : Row) : Prop where
  references : foreignKeys = true → ∀ r ∈ row.references, s.has r = true
  id : row.ref.2 ∉ s.ids row.ref.1
  code : ∀ t, row = .tenant t → t.code ∉ s.tenants.map (·.code)
  token : ∀ t, row = .table t → t.token ∉ s.tables.map (·.token)

theorem admits_iff {foreignKeys : Bool} {refs : List RowRef} :
    s.admits foreignKeys refs = true ↔ (foreignKeys = true → ∀ r ∈ refs, s.has r = true) := by
  cases foreignKeys <;> simp [admits]

theorem any_key_iff {α : Type} {l : List α} {key : α → String} {k : String} :
    (l.any fun x => key x == k) = true ↔ k ∈ l.map key := by
  simp [List.mem_map]

/-- A row that was added was accepted, and is the last one of its table. -/
theorem into_eq_ok {foreignKeys : Bool} (done : row.into s foreignKeys = .ok s') :
    s.Accepts foreignKeys row ∧ s' = s.add row := by
  -- what all tables check in the end
  have accepted {taken : Bool} {fault : Fault} {refs : List RowRef} {after : Store}
      (passed : (if taken then .error fault
        else if !s.admits foreignKeys refs then .error .foreignKey
        else .ok after : Except Fault Store) = .ok s') :
      ¬taken = true ∧ s.admits foreignKeys refs = true ∧ s' = after := by
    split at passed
    · cases passed
    · rename_i free
      split at passed
      · cases passed
      · rename_i admitted
        cases passed
        exact ⟨free, by simpa using admitted, rfl⟩
  cases row with
  | tenant t =>
    rw [Row.into, insertTenant] at done
    split at done
    · cases done
    · rename_i code
      split at done
      · cases done
      · rename_i free
        cases done
        refine ⟨⟨fun _ => List.forall_mem_nil _, mt has_iff.2 free, fun t' same => ?_,
          fun _ same => (nomatch same)⟩, rfl⟩
        cases same
        exact mt any_key_iff.2 code
  | table t =>
    rw [Row.into, insertTable] at done
    split at done
    · cases done
    · rename_i token
      obtain ⟨free, admitted, rfl⟩ := accepted done
      refine ⟨⟨admits_iff.1 admitted, mt has_iff.2 free, fun _ same => (nomatch same),
        fun t' same => ?_⟩, rfl⟩
      cases same
      exact mt any_key_iff.2 token
  | category c =>
    obtain ⟨free, admitted, rfl⟩ := accepted done
    exact ⟨⟨admits_iff.1 admitted, mt has_iff.2 free, fun _ same => (nomatch same),
      fun _ same => (nomatch same)⟩, rfl⟩
  | item i =>
    obtain ⟨free, admitted, rfl⟩ := accepted done
    exact ⟨⟨admits_iff.1 admitted, mt has_iff.2 free, fun _ same => (nomatch same),
      fun _ same => (nomatch same)⟩, rfl⟩
  | order o =>
    obtain ⟨free, admitted, rfl⟩ := accepted done
    exact ⟨⟨admits_iff.1 admitted, mt has_iff.2 free, fun _ same => (nomatch same),
      fun _ same => (nomatch same)⟩, rfl⟩
  | line l =>
    obtain ⟨free, admitted, rfl⟩ := accepted done
    exact ⟨⟨admits_iff.1 admitted, mt has_iff.2 free, fun _ same => (nomatch same),
      fun _ same => (nomatch same)⟩, rfl⟩

/-- A row that is accepted is added. -/
theorem into_of_accepts {foreignKeys : Bool} (accepts : s.Accepts foreignKeys row) :
    row.into s foreignKeys = .ok (s.add row) := by
  have free : ¬s.has row.ref = true := mt has_iff.1 accepts.id
  have admitted : ¬(!s.admits foreignKeys row.references) = true := by
    rw [admits_iff.2 accepts.references]
    exact Bool.false_ne_true
  cases row with
  | tenant t => exact (if_neg (mt any_key_iff.1 (accepts.code t rfl))).trans (if_neg free)
  | table t =>
    have token := mt any_key_iff.1 (accepts.token t rfl)
    exact (if_neg token).trans ((if_neg free).trans (if_neg admitted))
  | category c => exact (if_neg free).trans (if_neg admitted)
  | item i => exact (if_neg free).trans (if_neg admitted)
  | order o => exact (if_neg free).trans (if_neg admitted)
  | line l => exact (if_neg free).trans (if_neg admitted)

theorem Keyed.add (keyed : s.Keyed) {foreignKeys : Bool} (accepts : s.Accepts foreignKeys row) :
    (s.add row).Keyed where
  ids := by
    intro e
    rw [ids_add]
    split
    · rename_i own
      subst own
      exact nodup_concat (keyed.ids _) accepts.id
    · rw [List.append_nil]
      exact keyed.ids e
  codes := by
    cases row with
    | tenant t =>
      have codes := nodup_concat keyed.codes (accepts.code t rfl)
      simpa [Store.add] using codes
    | _ => exact keyed.codes
  tokens := by
    cases row with
    | table t =>
      have tokens := nodup_concat keyed.tokens (accepts.token t rfl)
      simpa [Store.add] using tokens
    | _ => exact keyed.tokens

theorem has_add (there : s.has r = true) : (s.add row).has r = true := by
  rw [has_iff, ids_add]
  exact List.mem_append_left _ (has_iff.1 there)

/-- A row comes when what it refers to is there. -/
theorem Met.add (met : s.Met) (references : ∀ r ∈ row.references, s.has r = true) :
    (s.add row).Met := by
  intro r known
  obtain ⟨e, l, member, own⟩ := mem_references.1 known
  rw [links_add] at member
  rcases List.mem_append.1 member with old | new
  · exact has_add (met r (mem_references.2 ⟨e, l, old, own⟩))
  · split at new
    · obtain rfl := List.mem_singleton.1 new
      exact has_add (references r own)
    · cases new

/-! ### Changes of calls -/

theorem has_updateStatus {id : Uuid} {status : OrderStatus} :
    (s.updateStatus id status).has r = s.has r := by
  rw [has, has, ids_updateStatus]

theorem has_updateItem {id : Uuid} {f : Item → Item} (keeps : ∀ i, (f i).id = i.id) :
    (s.updateItem id f).has r = s.has r := by
  rw [has, has, ids_updateItem s id keeps]

theorem Met.updateStatus (met : s.Met) (id : Uuid) (status : OrderStatus) :
    (s.updateStatus id status).Met := by
  obtain ⟨tables, categories, items, orders, lines⟩ := met_iff.1 met
  refine met_iff.2 ?_
  simp only [has_updateStatus]
  refine ⟨tables, categories, items, fun o member => ?_, lines⟩
  obtain ⟨p, there, rfl⟩ := List.mem_map.1 member
  split
  · exact orders p there
  · exact orders p there

/-- An item may move to a category that is there. -/
theorem Met.updateItem (met : s.Met) {id : Uuid} {f : Item → Item}
    (keeps : ∀ i, (f i).id = i.id ∧ (f i).tenantId = i.tenantId)
    (moved : ∀ i, (f i).categoryId = i.categoryId ∨
      s.has (.category, (f i).categoryId) = true) :
    (s.updateItem id f).Met := by
  obtain ⟨tables, categories, items, orders, lines⟩ := met_iff.1 met
  refine met_iff.2 ?_
  simp only [has_updateItem fun i => (keeps i).1]
  refine ⟨tables, categories, fun j member => ?_, orders, lines⟩
  obtain ⟨i, there, rfl⟩ := List.mem_map.1 member
  obtain ⟨tenant, category⟩ := items i there
  split
  · rw [(keeps i).2]
    refine ⟨tenant, ?_⟩
    rcases moved i with same | known
    · rw [same]
      exact category
    · exact known
  · exact ⟨tenant, category⟩

/-- An order may come with its lines when its tenant, its table and their items are there. -/
theorem Met.withOrder (met : s.Met) {o : OrderRow} {lines : List LineRow}
    (tenant : s.has (.tenant, o.tenantId) = true) (table : s.has (.table, o.tableId) = true)
    (items : ∀ l ∈ lines, l.orderId = o.id ∧ s.has (.item, l.itemId) = true) :
    (s.withOrder o lines).Met := by
  obtain ⟨tables, categories, items', orders, lines'⟩ := met_iff.1 met
  refine met_iff.2 ⟨tables, categories, items', fun p member => ?_, fun l member => ?_⟩
  · rcases List.mem_append.1 member with old | new
    · exact orders p old
    · obtain rfl := List.mem_singleton.1 new
      exact ⟨tenant, table⟩
  · rcases List.mem_append.1 member with old | new
    · obtain ⟨order, item⟩ := lines' l old
      obtain ⟨p, there, same⟩ := has_order.1 order
      exact ⟨has_order.2 ⟨p, List.mem_append_left _ there, same⟩, item⟩
    · obtain ⟨own, item⟩ := items l new
      exact ⟨has_order.2 ⟨o, List.mem_append_right _ (List.mem_singleton.2 rfl), own.symm⟩, item⟩

end Store

/-- Whatever is asked, references stay met. -/
theorem Call.met_step (c : Call) {s : Store} (met : s.Met) : (c.step s).Met := by
  rw [step]
  rcases c.effect_cases s with idle | ⟨fresh, r, row, lines, -, placed, changed⟩ |
    ⟨tenantId, id, status, row, -, -, changed, -⟩ |
    ⟨tenantId, id, f, code, item, asked, -, changed, -⟩
  · rw [idle]
    exact met
  · rw [changed]
    obtain ⟨tenant, table, named, -, rfl, -, -⟩ := Orders.placement_eq_ok placed
    obtain ⟨⟨t, there, same, -⟩, items⟩ := Orders.placement_references placed
    have tenant := (Store.tenantByCode?_eq_some named).1
    refine met.withOrder (Store.has_tenant.2 ⟨_, tenant, rfl⟩)
      (Store.has_table.2 ⟨t, there, same⟩) fun l member => ?_
    obtain ⟨own, i, known, same, -⟩ := items l member
    exact ⟨own, Store.has_item.2 ⟨i, known, same⟩⟩
  · rw [changed]
    exact met.updateStatus id status
  · have moved := edits_category (s := s) asked (by rw [changed]; rintro ⟨⟩)
    rw [changed]
    refine met.updateItem (edits_keep asked) fun i => (moved i).imp_right ?_
    rintro ⟨category, known, same, -⟩
    exact Store.has_category.2 ⟨category, known, same⟩

/-! ## Statements -/

theorem Row.insert_eq (row : Row) :
    row.insert = .writeOnly row.ref.1 fun foreignKeys s => row.into s foreignKeys := by
  cases row <;> rfl

namespace Database

variable {d : Database}

theorem Serving.execute_insert (serving : d.Serving) (row : Row) :
    d.execute row.insert = match row.into d.store d.foreignKeys with
      | .ok s => (.ok (), { d with store := s })
      | .error fault => (.error fault, d) := by
  rw [serving.execute, row.insert_eq, Statement.writeOnly, Statement.write,
    if_pos (serving.tables _)]
  cases row.into d.store d.foreignKeys <;> rfl

theorem Serving.execute_delete (serving : d.Serving) (r : RowRef) :
    d.execute (.delete r) = match d.store.delete d.foreignKeys r with
      | .ok (n, s) => (.ok n, { d with store := s })
      | .error fault => (.error fault, d) := by
  rw [serving.execute, Statement.delete, Statement.write, if_pos (serving.tables _)]
  cases d.store.delete d.foreignKeys r <;> rfl

/-- The database serves and enforces foreign keys, and its store is as the schema promises. -/
structure Governed (d : Database) : Prop where
  serving : d.Serving
  foreignKeys : d.foreignKeys = true
  keyed : d.store.Keyed
  met : d.store.Met

namespace Governed

theorem migrated : Database.migrated.Governed where
  serving := ⟨rfl, fun e => show e ∈ Entity.all from e.mem_all⟩
  foreignKeys := rfl
  keyed := show Store.empty.Keyed by decide
  met := show Store.empty.Met by decide

theorem withStore (governed : d.Governed) {s : Store} (keyed : s.Keyed) (met : s.Met) :
    ({ d with store := s } : Database).Governed :=
  ⟨governed.serving.withStore s, governed.foreignKeys, keyed, met⟩

theorem of_insert (governed : d.Governed) (row : Row) : (d.execute row.insert).2.Governed := by
  rw [governed.serving.execute_insert]
  cases done : row.into d.store d.foreignKeys with
  | error fault => exact governed
  | ok s =>
    obtain ⟨accepts, rfl⟩ := Store.into_eq_ok done
    exact governed.withStore (governed.keyed.add accepts)
      (governed.met.add (accepts.references governed.foreignKeys))

/-- A row is added exactly if it is accepted. -/
theorem execute_insert (governed : d.Governed) {row : Row} {d' : Database} :
    d.execute row.insert = (.ok (), d') ↔
      d.store.Accepts true row ∧ d' = { d with store := d.store.add row } := by
  rw [governed.serving.execute_insert]
  constructor
  · intro added
    cases done : row.into d.store d.foreignKeys with
    | error fault =>
      rw [done] at added
      cases added
    | ok s =>
      rw [done] at added
      cases added
      obtain ⟨accepts, rfl⟩ := Store.into_eq_ok done
      exact ⟨governed.foreignKeys ▸ accepts, rfl⟩
  · rintro ⟨accepts, rfl⟩
    rw [← governed.foreignKeys] at accepts
    rw [Store.into_of_accepts accepts]

/-- A row is removed, with those that belong to it, exactly if it is free. -/
theorem execute_delete (governed : d.Governed) (r : RowRef) :
    d.execute (.delete r) =
      if d.store.Free r then
        (.ok (if d.store.has r then 1 else 0), { d with store := d.store.without r })
      else (.error .foreignKey, d) := by
  have free := Store.met_without governed.keyed governed.met r
  rw [governed.serving.execute_delete, governed.foreignKeys,
    Store.delete_eq governed.keyed governed.met]
  by_cases goes : d.store.Free r
  · rw [if_pos goes, if_pos (free.2 goes)]
  · rw [if_neg goes, if_neg (mt free.1 goes)]

end Governed

end Database

/-! ## Runs -/

/-- What is done to a database: a row is added, a row is removed, or a server is called. -/
inductive Deed
  | insert (row : Row)
  | delete (r : RowRef)
  | turn (t : Turn)

/-- The deed is done. -/
def Deed.carryOut (w : World) : Deed → World
  | insert row => { w with database := (w.database.execute row.insert).2 }
  | delete r => { w with database := (w.database.execute (.delete r)).2 }
  | turn t => (t.take w).2

/-- The world after a run. -/
def World.live (w : World) : List Deed → World
  | [] => w
  | deed :: rest => (deed.carryOut w).live rest

theorem Deed.governed (deed : Deed) {w : World} (governed : w.database.Governed) :
    (deed.carryOut w).database.Governed := by
  cases deed with
  | insert row => exact governed.of_insert row
  | delete r =>
    rw [carryOut, governed.execute_delete]
    split
    · rename_i free
      exact governed.withStore (Store.keyed_without governed.keyed r)
        ((Store.met_without governed.keyed governed.met r).2 free)
    · exact governed
  | turn t =>
    rw [carryOut, t.take_database ⟨governed.serving, governed.keyed⟩]
    exact governed.withStore (t.call.keyed_step governed.keyed) (t.call.met_step governed.met)

theorem World.live_governed {w : World} (governed : w.database.Governed) (deeds : List Deed) :
    (w.live deeds).database.Governed := by
  induction deeds generalizing w with
  | nil => exact governed
  | cons deed rest ih => exact ih (deed.governed governed)

/-- Whatever rows are added to a database without rows and removed from it, and whatever servers are
called, every reference is met, and ids, codes and tokens are unique. What is refused changes
nothing. A row is added exactly if it is accepted and removed, with those that belong to it, exactly
if it is free. -/
theorem schema_governs (caches : List (String × CacheStore)) (now : Nanos) (log : List Event)
    (deeds : List Deed) :
    let d := (World.live ⟨.migrated, caches, now, log⟩ deeds).database
    (d.store.Met ∧ d.store.Keyed) ∧
      (∀ row fault d', d.execute (Row.insert row) = (.error fault, d') → d' = d) ∧
      (∀ r fault d', d.execute (.delete r) = (.error fault, d') → d' = d) ∧
      (∀ row d', d.execute (Row.insert row) = (.ok (), d') ↔
        d.store.Accepts true row ∧ d' = { d with store := d.store.add row }) ∧
      ∀ r, d.execute (.delete r) =
        if d.store.Free r then
          (.ok (if d.store.has r then 1 else 0), { d with store := d.store.without r })
        else (.error .foreignKey, d) := by
  intro d
  have governed : d.Governed := World.live_governed .migrated deeds
  refine ⟨⟨governed.met, governed.keyed⟩, fun row fault d' refused => ?_,
    fun r fault d' refused => ?_, fun row d' => governed.execute_insert, governed.execute_delete⟩
  · rw [governed.serving.execute_insert] at refused
    split at refused
    · cases refused
    · cases refused
      rfl
  · rw [governed.execute_delete] at refused
    split at refused
    · cases refused
    · cases refused
      rfl

/-- A tenant is kept by an item that another tenant has put in one of its categories. -/
example : ¬Store.Free ⟨[Sample.cafe, Sample.bar], [], [Sample.drinks],
    [{ Sample.coffee with tenantId := Sample.bar.id }], [], []⟩ (.tenant, Sample.cafe.id) := by
  decide

end Tableside
