import Tableside.Proofs.Removal
import Tableside.Proofs.Statements
import Tableside.Store.Migration

/-!
# Migrating down and up

A table is dropped after its rows, which is refused when a row that stays refers to one that goes
(`Store.clear_eq`). The migration drops every table before those that its rows may refer to
(`Entity.targets`), so that when a table goes there is no row that refers to it, whatever rows there
are and whether or not their references are met: no drop is refused, and a row goes only with its
own table (`Statement.dropTables_eq`).
-/

namespace Tableside

/-- The tables that the rows of a table refer to. -/
def Entity.targets : Entity → List Entity
  | .tenant => []
  | .table => [.tenant]
  | .category => [.tenant]
  | .item => [.tenant, .category]
  | .order => [.tenant, .table]
  | .line => [.order, .item]

theorem Entity.not_mem_targets (e : Entity) : e ∉ e.targets := by
  cases e <;> decide

namespace Store

variable {s : Store} {e : Entity} {r : RowRef}

/-- Rows refer to rows of the tables that their table refers to. -/
theorem mem_targets {l : Uuid × List RowRef} (member : l ∈ s.links e) :
    ∀ target ∈ l.2, target.1 ∈ e.targets := by
  cases e
  all_goals
    obtain ⟨row, -, rfl⟩ := List.mem_map.1 member
    simp [Entity.targets, Table.references, Category.references, Item.references,
      OrderRow.references, LineRow.references]

/-! ## Rows of one table -/

theorem mem_rowsOf : r ∈ s.rowsOf e ↔ r.1 = e ∧ s.has r = true := by
  rcases r with ⟨e', id⟩
  simp only [rowsOf, List.mem_map, Prod.mk.injEq, has_iff]
  constructor
  · intro listed
    rcases listed with ⟨id, member, rfl, rfl⟩
    exact ⟨rfl, member⟩
  · intro there
    rcases there with ⟨rfl, member⟩
    exact ⟨id, member, rfl, rfl⟩

/-- What is kept depends on the rows that are there. -/
theorem keep_congr {p q : RowRef → Bool} (same : ∀ r, s.has r = true → p r = q r) :
    s.keep p = s.keep q := by
  have stays {α : Type} {l : List α} {key : α → Uuid} {e : Entity} (ids : l.map key = s.ids e) :
      (l.filter fun x => p (e, key x)) = l.filter fun x => q (e, key x) :=
    List.filter_congr fun x member =>
      same _ (has_iff.2 (ids ▸ List.mem_map_of_mem member : key x ∈ s.ids e))
  rw [keep, keep]
  congr 1
  · exact stays (e := .tenant) rfl
  · exact stays (e := .table) rfl
  · exact stays (e := .category) rfl
  · exact stays (e := .item) rfl
  · exact stays (e := .order) rfl
  · exact stays (e := .line) rfl

theorem foldl_removeRow_rowsOf (s : Store) (e : Entity) :
    (s.rowsOf e).foldl removeRow s = s.keep fun r => r.1 != e := by
  rw [foldl_removeRow]
  refine keep_congr fun r there => ?_
  rw [Bool.eq_iff_iff, Bool.not_eq_true', ← Bool.not_eq_true, List.contains_iff_mem, mem_rowsOf,
    bne_iff_ne]
  exact not_congr (and_iff_left there)

theorem keep_none (s : Store) : (s.keep fun _ => false) = .empty := by
  simp only [keep, List.filter_false]
  rfl

theorem references_keep {p : RowRef → Bool} (member : r ∈ (s.keep p).references) :
    r ∈ s.references := by
  obtain ⟨e, l, linked, own⟩ := mem_references.1 member
  rw [links_keep] at linked
  exact mem_references.2 ⟨e, l, (List.mem_filter.1 linked).1, own⟩

/-! ## Tables that nothing refers to -/

/-- No row refers to a row of a table. -/
def Unreferenced (s : Store) (e : Entity) : Prop :=
  ∀ r ∈ s.references, r.1 ≠ e

/-- A table is not referred to when the tables whose rows might have no rows. -/
theorem unreferenced_of_links (none : ∀ e', e ∈ e'.targets → s.links e' = []) :
    s.Unreferenced e := by
  intro r known same
  subst same
  rcases mem_references.1 known with ⟨e', l, linked, own⟩
  rw [none e' (mem_targets linked r own)] at linked
  exact absurd linked List.not_mem_nil

/-- A row goes alone, and opens nothing. -/
theorem clearCounting_of_unreferenced (free : s.Unreferenced r.1) :
    clearCounting (0, s) r = (0, s.removeRow r) := by
  have alone : s.owned r = [] := by
    refine List.eq_nil_iff_forall_not_mem.2 fun target owned => ?_
    obtain ⟨refs, linked, own⟩ := owned_refers owned
    exact free r (mem_references.2 ⟨_, _, linked, own⟩) rfl
  have opened : s.references.count r = 0 := List.count_eq_zero.2 fun known => free r known rfl
  simp only [clearCounting, alone, List.foldl_cons, List.foldl_nil, removeCounting, opened,
    Nat.zero_sub, Nat.add_zero]

theorem foldl_clearCounting_of_unreferenced {rows : List RowRef} (free : s.Unreferenced e)
    (own : ∀ r ∈ rows, r.1 = e) :
    rows.foldl clearCounting (0, s) = (0, rows.foldl removeRow s) := by
  induction rows generalizing s with
  | nil => rfl
  | cons row rest ih =>
    obtain ⟨here, later⟩ := List.forall_mem_cons.1 own
    rw [List.foldl_cons, List.foldl_cons, clearCounting_of_unreferenced (here ▸ free)]
    refine ih (fun r member => free r (references_keep (?_ : r ∈ (s.keep (· != row)).references)))
      later
    rwa [← removeRow_eq]

theorem clear_of_unreferenced (free : s.Unreferenced e) (foreignKeys : Bool) :
    s.clear foreignKeys e = .ok (s.keep fun r => r.1 != e) := by
  cases foreignKeys with
  | false => exact congrArg Except.ok (foldl_removeRow_rowsOf s e)
  | true =>
    have own : ∀ r ∈ s.rowsOf e, r.1 = e := fun r member => (mem_rowsOf.1 member).1
    rw [clear, foldl_clearCounting_of_unreferenced free own, foldl_removeRow_rowsOf]
    rfl

/-! ## What is refused -/

/-- The store without the rows of a table and what belongs to them. -/
def cleared (s : Store) (e : Entity) : Store :=
  (s.rowsOf e).foldl without s

theorem clearCounting_eq (keyed : s.Keyed) (there : s.has r = true) :
    clearCounting (s.dangling, s) r = ((s.without r).dangling, s.without r) := by
  have rows : ∀ target ∈ r :: s.owned r, s.has target = true := by
    intro target member
    rcases List.mem_cons.1 member with rfl | owned
    · exact there
    · obtain ⟨refs, linked, -⟩ := owned_refers owned
      exact has_iff.2 (ids_eq s target.1 ▸ List.mem_map_of_mem linked)
  rw [← foldl_owned keyed r]
  exact foldl_removeCounting keyed (nodup_owned keyed r) rows

/-- What does not belong to a row stays when the row goes. -/
theorem has_without (keyed : s.Keyed) (target : RowRef) :
    (s.without r).has target = (s.has target && !(r :: s.owned r).contains target) := by
  rw [← foldl_owned keyed, foldl_removeRow, has_keep]

theorem foldl_clearCounting (keyed : s.Keyed) {rows : List RowRef} (nodup : rows.Nodup)
    (own : ∀ r ∈ rows, r.1 = e) (there : ∀ r ∈ rows, s.has r = true) :
    rows.foldl clearCounting (s.dangling, s) =
      ((rows.foldl without s).dangling, rows.foldl without s) := by
  induction rows generalizing s with
  | nil => rfl
  | cons row rest ih =>
    obtain ⟨absent, nodup⟩ := List.nodup_cons.1 nodup
    obtain ⟨here, own⟩ := List.forall_mem_cons.1 own
    obtain ⟨present, there⟩ := List.forall_mem_cons.1 there
    rw [List.foldl_cons, List.foldl_cons, clearCounting_eq keyed present]
    refine ih (keyed_without keyed row) nodup own fun r member => ?_
    -- what belongs to the row is in other tables, and the rows that are still to go are other ones
    have stays : r ∉ row :: s.owned row := by
      intro goes
      rcases List.mem_cons.1 goes with rfl | owned
      · exact absent member
      · obtain ⟨refs, linked, refers⟩ := owned_refers owned
        exact references_elsewhere linked row refers (here.trans (own r member).symm)
    rw [has_without keyed, there r member, Bool.true_and, Bool.not_eq_true', ← Bool.not_eq_true,
      List.contains_iff_mem]
    exact stays

/-- In a keyed store in which all references are met, the rows of a table go with those that belong
to them, unless a reference would not be met then. -/
theorem clear_eq (keyed : s.Keyed) (met : s.Met) (e : Entity) :
    s.clear true e =
      if (s.cleared e).Met then .ok (s.cleared e) else .error .foreignKey := by
  have nodup : (s.rowsOf e).Nodup :=
    (keyed.ids e).map fun a b same => (Prod.mk.inj same).2
  have counted := foldl_clearCounting keyed nodup (fun r member => (mem_rowsOf.1 member).1)
    fun r member => (mem_rowsOf.1 member).2
  rw [dangling_eq_zero.2 met] at counted
  change _ = ((s.cleared e).dangling, s.cleared e) at counted
  rw [clear, counted]
  by_cases after : (s.cleared e).Met
  · rw [if_pos after, dangling_eq_zero.2 after]
    rfl
  · rw [if_neg after]
    cases left : (s.cleared e).dangling with
    | zero => exact absurd (dangling_eq_zero.1 left) after
    | succ n => rfl

/-- Categories cannot go before the items in them. -/
example : Store.clear ⟨[], [], [⟨.ofNat 2, .ofNat 1, "Drinks", 1, true⟩],
    [⟨.ofNat 3, .ofNat 1, .ofNat 2, "Coffee", none, 300, true⟩], [], []⟩ true .category =
      .error .foreignKey :=
  rfl

end Store

/-! ## Dropping tables -/

namespace Database

/-- Whether tables can be dropped in an order: none of them comes twice or refers to one that goes
earlier. -/
abbrev Droppable (order : List Entity) : Prop :=
  order.Pairwise fun e later => e ≠ later ∧ e ∉ later.targets

theorem droppable_dropOrder : Droppable dropOrder := by
  decide

theorem mem_dropOrder (e : Entity) : e ∈ dropOrder :=
  List.mem_reverse.2 e.mem_all

end Database

namespace Statement

open Store Database

variable {d : Database} {e : Entity}

theorem dropTable_of_unreferenced (there : e ∈ d.tables) (free : d.store.Unreferenced e) :
    dropTable e d = .ok ((), { d with
      store := d.store.keep fun r => r.1 != e
      tables := d.tables.filter (· ≠ e) }) := by
  rw [dropTable, if_pos there, clear_of_unreferenced free]
  rfl

/-- Tables go, each with its rows and nothing else, when rows are left in them alone. -/
theorem dropTables_eq {order : List Entity} (droppable : Droppable order)
    (there : ∀ e ∈ order, e ∈ d.tables) (alone : ∀ e, e ∉ order → d.store.links e = []) :
    dropTables order d = .ok ((), { d with
      store := d.store.keep fun r => !order.contains r.1
      tables := d.tables.filter (· ∉ order) }) := by
  induction order generalizing d with
  | nil => simp [dropTables, mark, keep]
  | cons e rest ih =>
    obtain ⟨first, droppable⟩ := List.pairwise_cons.1 droppable
    obtain ⟨here, there⟩ := List.forall_mem_cons.1 there
    have free : d.store.Unreferenced e := by
      refine unreferenced_of_links fun e' refers => alone e' fun goes => ?_
      rcases List.mem_cons.1 goes with rfl | later
      · exact e'.not_mem_targets refers
      · exact (first e' later).2 refers
    simp only [dropTables, dropTable_of_unreferenced here free]
    refine (ih droppable (fun e' later => ?_) (fun e' stays => ?_)).trans ?_
    · exact List.mem_filter.2 ⟨there e' later, decide_eq_true (first e' later).1.symm⟩
    · rw [links_keep]
      by_cases same : e' = e
      · simp [same]
      · simp [alone e' (by simp [same, stays])]
    · simp [List.filter_filter, Bool.and_comm, bne, beq_eq_decide]

/-- The migration is taken back whatever rows there are. -/
theorem migrateDown_eq (applied : d.applied = true) (serving : d.Serving) :
    migrateDown d = .ok ((), { d with
      store := .empty, tables := [], hasLedger := true, applied := false }) := by
  have dropped := dropTables_eq (d := { d with hasLedger := true }) droppable_dropOrder
    (fun e _ => serving.tables e) (fun e absent => absurd (mem_dropOrder e) absent)
  have nothing : (d.store.keep fun r => !dropOrder.contains r.1) = .empty := by
    simp only [List.contains_eq_mem, mem_dropOrder, decide_true, Bool.not_true, keep_none]
  have none : d.tables.filter (· ∉ dropOrder) = [] :=
    List.filter_eq_nil_iff.2 fun e _ kept => of_decide_eq_true kept (mem_dropOrder e)
  refine (if_pos applied).trans ?_
  rw [dropped, nothing, none]
  rfl

end Statement

/-! ## The migration -/

namespace Database

/-- Nothing is left of what the migration creates, neither a table nor an index on one. -/
structure Bare (d : Database) : Prop where
  tables : ∀ e : Entity, e.name ∉ d.tableNames
  schema : ∀ o ∈ d.schema, ∀ e : Entity, o.table ≠ e.name

theorem ledgerName_ne (e : Entity) : ledgerName ≠ e.name := by
  cases e <;> decide

theorem bare_of_tables {d : Database} (none : d.tables = []) : d.Bare where
  tables e := by
    rw [tableNames, none]
    split
    · simpa using (ledgerName_ne e).symm
    · simp
  schema o member e := by
    rw [schema, none] at member
    split at member
    · obtain rfl : o = _ := by simpa using member
      exact ledgerName_ne e
    · simp at member

end Database

open Database in
/-- Whatever rows a migrated database has, and whether or not foreign keys are enforced, the
migration can be taken back, which leaves nothing of it, and applied again, which gives the schema
of a new database and no row. Applied where it is, it changes nothing, even if the ledger has lost
it. -/
theorem migration_reversible (content : Store) (foreignKeys : Bool) :
    let d := { migrated with store := content, foreignKeys }
    (∃ down, d.execute .migrateDown = (.ok (), down) ∧ down.Bare ∧
      ∃ again, down.execute .migrateUp = (.ok (), again) ∧
        again.schema = migrated.schema ∧ again.store = .empty) ∧
    d.execute .migrateUp = (.ok (), d) ∧
    ({ d with applied := false }).execute .migrateUp = (.ok (), d) := by
  intro d
  have serving : d.Serving := ⟨rfl, Entity.mem_all⟩
  have down : d.execute .migrateDown = (.ok (), ⟨.empty, [], true, false, foreignKeys, none⟩) := by
    rw [serving.execute, Statement.migrateDown_eq rfl serving]
    rfl
  exact ⟨⟨_, down, bare_of_tables rfl, _, rfl, rfl, rfl⟩, rfl, rfl⟩

end Tableside
