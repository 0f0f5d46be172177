import Tableside.Proofs.Store

/-!
# Removals

A row goes with the rows that belong to it, and the removal is refused when a reference is open
after it. This is found by counting while the rows go one by one; `Store.delete_eq` says that the
count is right in a keyed store whose references are met: the removal is refused exactly if a row
that stays refers to one that goes. The count is kept exact by every row
(`Store.removeCounting_eq`), since no row refers to its own table, and the rows that go are
different ones that are there.

From this follows when a row of each kind may go (`Store.met_without`).
-/

namespace Tableside

/-- Rows of a list with keys: what is counted in all of them is counted in one of them or in the
others. -/
theorem countP_flatMap_of_keyed {κ α : Type} [BEq κ] [LawfulBEq κ] (q : α → Bool) (key : κ)
    {l : List (κ × List α)} (nodup : (l.map (·.1)).Nodup) :
    (l.flatMap (·.2)).countP q =
      ((l.filter fun x => x.1 != key).flatMap (·.2)).countP q +
        ((l.lookup key).getD []).countP q := by
  induction l with
  | nil => rfl
  | cons x rest ih =>
    obtain ⟨absent, nodup⟩ := List.nodup_cons.1 nodup
    have rest_eq := ih nodup
    by_cases here : x.1 = key
    · have others : (rest.filter fun y => y.1 != key) = rest := by
        refine List.filter_eq_self.2 fun y member => bne_iff_ne.2 fun same => absent ?_
        exact List.mem_map.2 ⟨y, member, same.trans here.symm⟩
      have found : (x :: rest).lookup key = some x.2 := by
        rw [List.lookup_cons, beq_iff_eq.2 here.symm]
      rw [List.filter_cons_of_neg (by simpa using here), others, found, List.flatMap_cons,
        List.countP_append, Option.getD_some, Nat.add_comm]
    · have found : (x :: rest).lookup key = rest.lookup key := by
        rw [List.lookup_cons, beq_false_of_ne fun same => here same.symm]
      rw [List.filter_cons_of_pos (by simpa using here), found, List.flatMap_cons,
        List.flatMap_cons, List.countP_append, List.countP_append, rest_eq, Nat.add_assoc]

namespace Store

variable {s : Store} {r : RowRef}

/-! ## References -/

/-- Every reference is met. -/
def Met (s : Store) : Prop :=
  ∀ r ∈ s.references, s.has r = true

instance (s : Store) : Decidable s.Met :=
  inferInstanceAs (Decidable (∀ r ∈ s.references, s.has r = true))

/-- How many references are not met. -/
def dangling (s : Store) : Nat :=
  s.references.countP fun r => !s.has r

theorem dangling_eq_zero : s.dangling = 0 ↔ s.Met := by
  simp [dangling, Met, List.countP_eq_zero]

theorem ids_eq (s : Store) (e : Entity) : s.ids e = (s.links e).map (·.1) := by
  cases e <;> simp [ids, links, List.map_map, Function.comp_def]

theorem mem_references : r ∈ s.references ↔ ∃ e, ∃ l ∈ s.links e, r ∈ l.2 := by
  simp only [references, List.mem_flatMap]
  exact ⟨fun ⟨e, _, there⟩ => ⟨e, there⟩, fun ⟨e, there⟩ => ⟨e, e.mem_all, there⟩⟩

/-- Every foreign key by itself. -/
theorem met_iff : s.Met ↔
    (∀ t ∈ s.tables, s.has (.tenant, t.tenantId) = true) ∧
    (∀ c ∈ s.categories, s.has (.tenant, c.tenantId) = true) ∧
    (∀ i ∈ s.items, s.has (.tenant, i.tenantId) = true ∧
      s.has (.category, i.categoryId) = true) ∧
    (∀ o ∈ s.orders, s.has (.tenant, o.tenantId) = true ∧ s.has (.table, o.tableId) = true) ∧
    ∀ l ∈ s.lines, s.has (.order, l.orderId) = true ∧ s.has (.item, l.itemId) = true := by
  simp only [Met, references, Entity.all, links, List.flatMap_cons, List.flatMap_nil,
    List.flatMap_map, List.forall_mem_append, List.forall_mem_flatMap, List.forall_mem_cons,
    Table.references, Category.references, Item.references, OrderRow.references,
    LineRow.references]
  simp

/-- No row refers to its own table. -/
theorem references_elsewhere {e : Entity} {l : Uuid × List RowRef} (member : l ∈ s.links e) :
    ∀ target ∈ l.2, target.1 ≠ e := by
  cases e
  all_goals
    obtain ⟨row, -, rfl⟩ := List.mem_map.1 member
    simp [Table.references, Category.references, Item.references, OrderRow.references,
      LineRow.references]

theorem count_referencesFrom (s : Store) (r : RowRef) : (s.referencesFrom r).count r = 0 := by
  rw [List.count_eq_zero, referencesFrom]
  cases found : (s.links r.1).lookup r.2 with
  | none => exact List.not_mem_nil
  | some refs =>
    obtain ⟨before, after, split, -⟩ := List.lookup_eq_some_iff.1 found
    have member : (r.2, refs) ∈ s.links r.1 := by
      rw [split]
      exact List.mem_append_right _ List.mem_cons_self
    exact fun itself => references_elsewhere member r itself rfl

theorem has_tenant {id : Uuid} :
    s.has (.tenant, id) = true ↔ ∃ t ∈ s.tenants, t.id = id :=
  has_iff.trans List.mem_map

theorem has_table {id : Uuid} : s.has (.table, id) = true ↔ ∃ t ∈ s.tables, t.id = id :=
  has_iff.trans List.mem_map

theorem has_category {id : Uuid} :
    s.has (.category, id) = true ↔ ∃ c ∈ s.categories, c.id = id :=
  has_iff.trans List.mem_map

theorem has_item {id : Uuid} : s.has (.item, id) = true ↔ ∃ i ∈ s.items, i.id = id :=
  has_iff.trans List.mem_map

theorem has_order {id : Uuid} : s.has (.order, id) = true ↔ ∃ o ∈ s.orders, o.id = id :=
  has_iff.trans List.mem_map

/-! ## Keeping rows -/

/-- The rows that are kept. -/
def keep (s : Store) (p : RowRef → Bool) : Store where
  tenants := s.tenants.filter fun t => p (.tenant, t.id)
  tables := s.tables.filter fun t => p (.table, t.id)
  categories := s.categories.filter fun c => p (.category, c.id)
  items := s.items.filter fun i => p (.item, i.id)
  orders := s.orders.filter fun o => p (.order, o.id)
  lines := s.lines.filter fun l => p (.line, l.id)

theorem bne_row (e e' : Entity) (a b : Uuid) :
    (((e, a) : RowRef) != (e', b)) = (e != e' || a != b) := by
  rw [bne, bne, bne, ← Bool.not_and]
  rfl

theorem removeRow_eq (s : Store) (r : RowRef) : s.removeRow r = s.keep (· != r) := by
  have apart {e e' : Entity} (other : e ≠ e') : (e != e') = true := bne_iff_ne.2 other
  rcases r with ⟨e, id⟩
  cases e <;> simp [removeRow, keep, bne_row, apart]

@[simp] theorem keep_keep (s : Store) (p q : RowRef → Bool) :
    (s.keep p).keep q = s.keep fun r => q r && p r := by
  simp [keep, List.filter_filter]

theorem links_keep (s : Store) (p : RowRef → Bool) (e : Entity) :
    (s.keep p).links e = (s.links e).filter fun l => p (e, l.1) := by
  cases e <;> simp [links, keep, List.filter_map, Function.comp_def]

theorem has_keep (s : Store) (p : RowRef → Bool) (r : RowRef) :
    (s.keep p).has r = (s.has r && p r) := by
  rw [Bool.eq_iff_iff, Bool.and_eq_true, has_iff, has_iff, ids_eq, ids_eq, links_keep]
  simp only [List.mem_map, List.mem_filter]
  constructor
  · rintro ⟨l, ⟨member, kept⟩, same⟩
    rw [same] at kept
    exact ⟨⟨l, member, same⟩, kept⟩
  · rintro ⟨⟨l, member, same⟩, kept⟩
    exact ⟨l, ⟨member, by rw [same]; exact kept⟩, same⟩

theorem Keyed.keep (keyed : s.Keyed) (p : RowRef → Bool) : (s.keep p).Keyed where
  ids := by
    intro e
    have nodup := keyed.ids e
    rw [ids_eq] at nodup ⊢
    rw [links_keep]
    exact nodup.sublist (List.filter_sublist.map _)
  codes := keyed.codes.sublist (List.filter_sublist.map _)
  tokens := keyed.tokens.sublist (List.filter_sublist.map _)

theorem foldl_removeRow (s : Store) (rows : List RowRef) :
    rows.foldl removeRow s = s.keep fun r => !rows.contains r := by
  induction rows generalizing s with
  | nil => simp [keep]
  | cons row rest ih =>
    rw [List.foldl_cons, ih, removeRow_eq, keep_keep]
    refine congrArg s.keep (funext fun r => ?_)
    rw [List.contains_cons, Bool.not_or, Bool.and_comm]
    rfl

/-! ## Counting -/

/-- A removal changes the table of the row alone, by the references of the row. -/
theorem countP_links (keyed : s.Keyed) (q : RowRef → Bool) (r : RowRef) (e : Entity) :
    ((s.links e).flatMap (·.2)).countP q =
      (((s.removeRow r).links e).flatMap (·.2)).countP q +
        if e = r.1 then (s.referencesFrom r).countP q else 0 := by
  rw [removeRow_eq, links_keep]
  by_cases own : e = r.1
  · subst own
    have same : ((s.links r.1).filter fun l => (r.1, l.1) != r) =
        (s.links r.1).filter fun l => l.1 != r.2 :=
      List.filter_congr fun l _ => by rw [bne_row, bne_self_eq_false, Bool.false_or]
    rw [if_pos rfl, same, referencesFrom]
    exact countP_flatMap_of_keyed q r.2 (ids_eq s r.1 ▸ keyed.ids r.1)
  · have same : ((s.links e).filter fun l => (e, l.1) != r) = s.links e :=
      List.filter_eq_self.2 fun l _ => by rw [bne_row, bne_iff_ne.2 own, Bool.true_or]
    rw [if_neg own, same, Nat.add_zero]

/-- What is counted in all references is counted in those of a row or in the others. -/
theorem countP_references (keyed : s.Keyed) (q : RowRef → Bool) (r : RowRef) :
    s.references.countP q =
      (s.removeRow r).references.countP q + (s.referencesFrom r).countP q := by
  -- a list of tables counts the row as often as it names the table of the row
  have tables (es : List Entity) :
      (es.flatMap fun e => (s.links e).flatMap (·.2)).countP q =
        (es.flatMap fun e => ((s.removeRow r).links e).flatMap (·.2)).countP q +
          es.count r.1 * (s.referencesFrom r).countP q := by
    induction es with
    | nil => simp
    | cons e rest ih =>
      rw [List.flatMap_cons, List.flatMap_cons, List.countP_append, List.countP_append, ih,
        countP_links keyed q r e, List.count_cons, Nat.add_mul]
      by_cases own : e = r.1
      · rw [if_pos own, if_pos (beq_iff_eq.2 own), Nat.one_mul]
        omega
      · rw [if_neg own, if_neg (mt beq_iff_eq.1 own), Nat.zero_mul]
        omega
  have once : Entity.all.count r.1 = 1 := by cases r.1 <;> rfl
  have all := tables Entity.all
  rwa [once, Nat.one_mul] at all

/-- A row that is there goes: its own references go with it, and those to it are open. -/
theorem dangling_removeRow (keyed : s.Keyed) (there : s.has r = true) :
    (s.removeRow r).dangling =
      s.dangling - ((s.referencesFrom r).countP fun target => !s.has target) +
        s.references.count r := by
  -- a reference is open afterwards if it was before or if it names the row
  have open_after (refs : List RowRef) :
      (refs.countP fun target => !(s.removeRow r).has target) =
        (refs.countP fun target => !s.has target) + refs.count r := by
    rw [removeRow_eq]
    induction refs with
    | nil => rfl
    | cons target rest ih =>
      rw [List.countP_cons, List.countP_cons, List.count_cons, ih, has_keep]
      by_cases same : target = r
      · simp only [same, there, bne_self_eq_false, Bool.and_false, Bool.not_false, Bool.not_true,
          beq_self_eq_true, Bool.false_eq_true, if_true, if_false]
        omega
      · simp only [bne_iff_ne.2 same, beq_false_of_ne same, Bool.and_true, Bool.false_eq_true,
          if_false]
        omega
  have all := countP_references keyed (fun target => !s.has target) r
  have named := countP_references keyed (· == r) r
  have itself := count_referencesFrom s r
  rw [dangling, dangling, open_after]
  simp only [List.count] at itself ⊢
  omega

theorem removeCounting_eq (keyed : s.Keyed) (there : s.has r = true) :
    removeCounting (s.dangling, s) r = ((s.removeRow r).dangling, s.removeRow r) := by
  rw [dangling_removeRow keyed there]
  rfl

theorem foldl_removeCounting (keyed : s.Keyed) {rows : List RowRef} (nodup : rows.Nodup)
    (there : ∀ r ∈ rows, s.has r = true) :
    rows.foldl removeCounting (s.dangling, s) =
      ((rows.foldl removeRow s).dangling, rows.foldl removeRow s) := by
  induction rows generalizing s with
  | nil => rfl
  | cons row rest ih =>
    obtain ⟨absent, nodup⟩ := List.nodup_cons.1 nodup
    rw [List.foldl_cons, List.foldl_cons, removeCounting_eq keyed (there row List.mem_cons_self)]
    -- the rows that are still to go are other ones, and hence still there
    refine ih (removeRow_eq s row ▸ keyed.keep _) nodup fun r member => ?_
    rw [removeRow_eq, has_keep, there r (List.mem_cons_of_mem _ member), Bool.true_and]
    exact bne_iff_ne.2 fun same => absent (same ▸ member)

/-! ## Rows that go together -/

section Owned

variable {α : Type} {l : List α} {key : α → Uuid}

theorem mem_refs {e e' : Entity} {id : Uuid} :
    ((e, id) : RowRef) ∈ l.map (fun x => (e', key x)) ↔ e = e' ∧ id ∈ l.map key := by
  simp only [List.mem_map, Prod.mk.injEq]
  exact ⟨fun ⟨x, member, own, same⟩ => ⟨own.symm, x, member, same⟩,
    fun ⟨own, x, member, same⟩ => ⟨x, member, own.symm, same⟩⟩

theorem nodup_refs (nodup : (l.map key).Nodup) (e : Entity) (p : α → Bool) :
    ((l.filter p).map fun x => ((e, key x) : RowRef)).Nodup := by
  have ids : ((l.filter p).map key).Nodup := nodup.sublist (List.filter_sublist.map key)
  have pairs := ids.map (f := fun id => ((e, id) : RowRef)) fun a b same => (Prod.mk.inj same).2
  rwa [List.map_map] at pairs

/-- A row is among those that were chosen if it was chosen itself. -/
theorem key_mem_filter (nodup : (l.map key).Nodup) {p : α → Bool} {x : α} (member : x ∈ l) :
    key x ∈ (l.filter p).map key ↔ p x = true := by
  constructor
  · intro chosen
    obtain ⟨y, there, same⟩ := List.mem_map.1 chosen
    obtain ⟨there, holds⟩ := List.mem_filter.1 there
    rwa [eq_of_key_eq nodup member there same.symm]
  · exact fun holds => List.mem_map_of_mem (List.mem_filter.2 ⟨member, holds⟩)

end Owned

/-- The store without a row and the rows that belong to it. -/
def without (s : Store) : RowRef → Store
  | (.tenant, id) =>
    { s with
      tenants := s.tenants.filter fun t => t.id != id
      tables := s.tables.filter fun t => t.tenantId != id
      categories := s.categories.filter fun c => c.tenantId != id
      items := s.items.filter fun i => i.tenantId != id }
  | (.order, id) =>
    { s with
      orders := s.orders.filter fun o => o.id != id
      lines := s.lines.filter fun l => l.orderId != id }
  | r => s.removeRow r

/-- What belongs to a row is there and refers to it. -/
theorem owned_refers {target : RowRef} (owned : target ∈ s.owned r) :
    ∃ refs, (target.2, refs) ∈ s.links target.1 ∧ r ∈ refs := by
  rcases r with ⟨e, id⟩
  cases e with
  | tenant =>
    simp only [Store.owned, List.mem_append, List.mem_map, List.mem_filter, beq_iff_eq] at owned
    rcases owned with (⟨i, ⟨member, rfl⟩, rfl⟩ | ⟨c, ⟨member, rfl⟩, rfl⟩) | ⟨t, ⟨member, rfl⟩, rfl⟩
    · exact ⟨i.references, List.mem_map_of_mem member, List.mem_cons_self⟩
    · exact ⟨c.references, List.mem_map_of_mem member, List.mem_cons_self⟩
    · exact ⟨t.references, List.mem_map_of_mem member, List.mem_cons_self⟩
  | order =>
    simp only [Store.owned, List.mem_map, List.mem_filter, beq_iff_eq] at owned
    obtain ⟨l, ⟨member, rfl⟩, rfl⟩ := owned
    exact ⟨l.references, List.mem_map_of_mem member, List.mem_cons_self⟩
  | _ => cases owned

theorem nodup_owned (keyed : s.Keyed) (r : RowRef) : (r :: s.owned r).Nodup := by
  refine List.nodup_cons.2 ⟨fun itself => ?_, ?_⟩
  · obtain ⟨refs, member, own⟩ := owned_refers itself
    exact references_elsewhere member r own rfl
  rcases r with ⟨e, id⟩
  cases e with
  | tenant =>
    have items := nodup_refs (keyed.ids .item) .item fun i => i.tenantId == id
    have categories := nodup_refs (keyed.ids .category) .category fun c => c.tenantId == id
    have tables := nodup_refs (keyed.ids .table) .table fun t => t.tenantId == id
    simp only [Store.owned, List.nodup_append, List.mem_append]
    refine ⟨⟨items, categories, ?_⟩, tables, ?_⟩
    · rintro ⟨e, a⟩ first ⟨e', b⟩ second
      rw [mem_refs] at first second
      simp [first.1, second.1]
    · rintro ⟨e, a⟩ (first | first) ⟨e', b⟩ second
      · rw [mem_refs] at first second
        simp [first.1, second.1]
      · rw [mem_refs] at first second
        simp [first.1, second.1]
  | order => exact nodup_refs (keyed.ids .line) .line _
  | _ => exact List.nodup_nil

/-- What goes with a row is told by the keys alone. -/
theorem foldl_owned (keyed : s.Keyed) (r : RowRef) :
    (r :: s.owned r).foldl removeRow s = s.without r := by
  have stays {α : Type} {l : List α} {key : α → Uuid} {e : Entity} {p : α → Bool}
      (goes : ∀ x ∈ l, (e, key x) ∈ r :: s.owned r ↔ ¬p x = true) :
      (l.filter fun x => !(r :: s.owned r).contains (e, key x)) = l.filter p :=
    List.filter_congr fun x member => by
      rw [Bool.eq_iff_iff, Bool.not_eq_true', ← Bool.not_eq_true, List.contains_iff_mem,
        goes x member, not_not]
  have all {α : Type} {l : List α} {key : α → Uuid} {e : Entity}
      (apart : ∀ x ∈ l, (e, key x) ∉ r :: s.owned r) :
      (l.filter fun x => !(r :: s.owned r).contains (e, key x)) = l :=
    (stays (p := fun _ => true) fun x member => by simp [apart x member]).trans
      (List.filter_true l)
  rcases r with ⟨e, id⟩
  cases e with
  | tenant =>
    rw [foldl_removeRow, keep, without]
    congr 1
    · exact stays fun t _ => by simp [Store.owned, mem_refs]
    · exact stays fun t member => by
        simp [Store.owned, mem_refs, key_mem_filter (keyed.ids .table) member]
    · exact stays fun c member => by
        simp [Store.owned, mem_refs, key_mem_filter (keyed.ids .category) member]
    · exact stays fun i member => by
        simp [Store.owned, mem_refs, key_mem_filter (keyed.ids .item) member]
    · exact all fun o _ => by simp [Store.owned, mem_refs]
    · exact all fun l _ => by simp [Store.owned, mem_refs]
  | order =>
    rw [foldl_removeRow, keep, without]
    congr 1
    · exact all fun t _ => by simp [Store.owned, mem_refs]
    · exact all fun t _ => by simp [Store.owned, mem_refs]
    · exact all fun c _ => by simp [Store.owned, mem_refs]
    · exact all fun i _ => by simp [Store.owned, mem_refs]
    · exact stays fun o _ => by simp [Store.owned, mem_refs]
    · exact stays fun l member => by
        simp [Store.owned, mem_refs, key_mem_filter (keyed.ids .line) member]
  | _ => rfl

/-! ## What is refused -/

theorem keyed_without (keyed : s.Keyed) (r : RowRef) : (s.without r).Keyed := by
  rw [← foldl_owned keyed, foldl_removeRow]
  exact keyed.keep _

theorem removeRow_of_absent (absent : s.has r = false) : s.removeRow r = s := by
  have stays {α : Type} {l : List α} {key : α → Uuid} {e : Entity} (ids : l.map key = s.ids e) :
      (l.filter fun x => (e, key x) != r) = l := by
    refine List.filter_eq_self.2 fun x member => bne_iff_ne.2 ?_
    rintro rfl
    have there : s.has (e, key x) = true := has_iff.2 (ids ▸ List.mem_map_of_mem member)
    rw [absent] at there
    cases there
  rw [removeRow_eq, keep]
  congr 1
  · exact stays (e := .tenant) rfl
  · exact stays (e := .table) rfl
  · exact stays (e := .category) rfl
  · exact stays (e := .item) rfl
  · exact stays (e := .order) rfl
  · exact stays (e := .line) rfl

/-- Nothing belongs to a row that is not there. -/
theorem without_of_absent (keyed : s.Keyed) (met : s.Met) (absent : s.has r = false) :
    s.without r = s := by
  have alone : s.owned r = [] := by
    refine List.eq_nil_iff_forall_not_mem.2 fun target owned => ?_
    obtain ⟨refs, linked, own⟩ := owned_refers owned
    have known := met r (mem_references.2 ⟨_, _, linked, own⟩)
    rw [absent] at known
    cases known
  rw [← foldl_owned keyed, alone]
  exact removeRow_of_absent absent

/-- In a keyed store in which all references are met, a row goes with those that belong to it,
unless a reference would not be met then. -/
theorem delete_eq (keyed : s.Keyed) (met : s.Met) (r : RowRef) :
    s.delete true r =
      if (s.without r).Met then .ok (if s.has r then 1 else 0, s.without r)
      else .error .foreignKey := by
  cases there : s.has r with
  | false =>
    rw [without_of_absent keyed met there, if_pos met, delete, there]
    rfl
  | true =>
    have rows : ∀ target ∈ r :: s.owned r, s.has target = true := by
      intro target member
      rcases List.mem_cons.1 member with rfl | owned
      · exact there
      · obtain ⟨refs, linked, -⟩ := owned_refers owned
        exact has_iff.2 (ids_eq s target.1 ▸ List.mem_map_of_mem linked)
    have counted := foldl_removeCounting keyed (nodup_owned keyed r) rows
    rw [dangling_eq_zero.2 met, foldl_owned keyed r] at counted
    rw [delete, there, counted]
    by_cases after : (s.without r).Met
    · rw [if_pos after, dangling_eq_zero.2 after]
      rfl
    · rw [if_neg after]
      have opened := mt dangling_eq_zero.1 after
      cases left : (s.without r).dangling with
      | zero => exact absurd left opened
      | succ n => rfl

/-- A tenant is not needed: no order refers to it or to one of its tables, no line to one of its
items, and no item of another tenant lies in one of its categories. -/
structure Vacated (s : Store) (id : Uuid) : Prop where
  orders : ∀ o ∈ s.orders, o.tenantId ≠ id
  tables : ∀ t ∈ s.tables, t.tenantId = id → ∀ o ∈ s.orders, o.tableId ≠ t.id
  lines : ∀ i ∈ s.items, i.tenantId = id → ∀ l ∈ s.lines, l.itemId ≠ i.id
  items : ∀ c ∈ s.categories, c.tenantId = id → ∀ i ∈ s.items, i.tenantId ≠ id → i.categoryId ≠ c.id

instance (s : Store) (id : Uuid) : Decidable (s.Vacated id) :=
  decidable_of_iff
    ((∀ o ∈ s.orders, o.tenantId ≠ id) ∧
      (∀ t ∈ s.tables, t.tenantId = id → ∀ o ∈ s.orders, o.tableId ≠ t.id) ∧
      (∀ i ∈ s.items, i.tenantId = id → ∀ l ∈ s.lines, l.itemId ≠ i.id) ∧
      ∀ c ∈ s.categories, c.tenantId = id →
        ∀ i ∈ s.items, i.tenantId ≠ id → i.categoryId ≠ c.id)
    ⟨fun ⟨orders, tables, lines, items⟩ => ⟨orders, tables, lines, items⟩,
      fun vacated => ⟨vacated.orders, vacated.tables, vacated.lines, vacated.items⟩⟩

/-- A row may go: a tenant that is not needed, an order always, and any other row when nothing
refers to it. -/
def Free (s : Store) : RowRef → Prop
  | (.tenant, id) => s.Vacated id
  | (.order, _) => True
  | r => r ∉ s.references

instance (s : Store) : (r : RowRef) → Decidable (s.Free r)
  | (.tenant, id) => inferInstanceAs (Decidable (s.Vacated id))
  | (.table, id) => inferInstanceAs (Decidable ((.table, id) ∉ s.references))
  | (.category, id) => inferInstanceAs (Decidable ((.category, id) ∉ s.references))
  | (.item, id) => inferInstanceAs (Decidable ((.item, id) ∉ s.references))
  | (.order, _) => .isTrue trivial
  | (.line, id) => inferInstanceAs (Decidable ((.line, id) ∉ s.references))

theorem mem_filter_keys {α : Type} {l : List α} {key : α → Uuid} {id x : Uuid} :
    x ∈ (l.filter fun y => key y != id).map key ↔ x ∈ l.map key ∧ x ≠ id := by
  simp only [List.mem_map, List.mem_filter, bne_iff_ne]
  constructor
  · rintro ⟨y, ⟨member, other⟩, rfl⟩
    exact ⟨⟨y, member, rfl⟩, other⟩
  · rintro ⟨⟨y, member, rfl⟩, other⟩
    exact ⟨y, ⟨member, other⟩, rfl⟩

section Tenant

variable {id : Uuid}

theorem tenant_stays {x : Uuid} : (s.without (.tenant, id)).has (.tenant, x) = true ↔
    s.has (.tenant, x) = true ∧ x ≠ id := by
  rw [has_iff, has_iff]
  exact mem_filter_keys

theorem table_stays (keyed : s.Keyed) {t : TableRow} (member : t ∈ s.tables) :
    (s.without (.tenant, id)).has (.table, t.id) = true ↔ t.tenantId ≠ id :=
  has_iff.trans ((key_mem_filter (keyed.ids .table) member).trans bne_iff_ne)

theorem category_stays (keyed : s.Keyed) {c : Category} (member : c ∈ s.categories) :
    (s.without (.tenant, id)).has (.category, c.id) = true ↔ c.tenantId ≠ id :=
  has_iff.trans ((key_mem_filter (keyed.ids .category) member).trans bne_iff_ne)

theorem item_stays (keyed : s.Keyed) {i : Item} (member : i ∈ s.items) :
    (s.without (.tenant, id)).has (.item, i.id) = true ↔ i.tenantId ≠ id :=
  has_iff.trans ((key_mem_filter (keyed.ids .item) member).trans bne_iff_ne)

theorem vacated_of_met (keyed : s.Keyed) (after : (s.without (.tenant, id)).Met) :
    s.Vacated id := by
  obtain ⟨-, -, items, orders, lines⟩ := met_iff.1 after
  refine ⟨fun o member => (tenant_stays.1 (orders o member).1).2, ?_, ?_, ?_⟩
  · intro t member own o there same
    have kept := (orders o there).2
    rw [same] at kept
    exact (table_stays keyed member).1 kept own
  · intro i member own l there same
    have kept := (lines l there).2
    rw [same] at kept
    exact (item_stays keyed member).1 kept own
  · intro c member own i there other same
    have kept := (items i (List.mem_filter.2 ⟨there, bne_iff_ne.2 other⟩)).2
    rw [same] at kept
    exact (category_stays keyed member).1 kept own

theorem met_of_vacated (keyed : s.Keyed) (met : s.Met) (vacated : s.Vacated id) :
    (s.without (.tenant, id)).Met := by
  obtain ⟨tables, categories, items, orders, lines⟩ := met_iff.1 met
  refine met_iff.2 ⟨?_, ?_, ?_, ?_, ?_⟩
  · intro t kept
    obtain ⟨member, other⟩ := List.mem_filter.1 kept
    exact tenant_stays.2 ⟨tables t member, bne_iff_ne.1 other⟩
  · intro c kept
    obtain ⟨member, other⟩ := List.mem_filter.1 kept
    exact tenant_stays.2 ⟨categories c member, bne_iff_ne.1 other⟩
  · intro i kept
    obtain ⟨member, other⟩ := List.mem_filter.1 kept
    have other := bne_iff_ne.1 other
    refine ⟨tenant_stays.2 ⟨(items i member).1, other⟩, ?_⟩
    obtain ⟨c, there, same⟩ := has_category.1 (items i member).2
    rw [← same]
    exact (category_stays keyed there).2 fun own =>
      vacated.items c there own i member other same.symm
  · intro o member
    refine ⟨tenant_stays.2 ⟨(orders o member).1, vacated.orders o member⟩, ?_⟩
    obtain ⟨t, there, same⟩ := has_table.1 (orders o member).2
    rw [← same]
    exact (table_stays keyed there).2 fun own => vacated.tables t there own o member same.symm
  · intro l member
    refine ⟨(lines l member).1, ?_⟩
    obtain ⟨i, there, same⟩ := has_item.1 (lines l member).2
    rw [← same]
    exact (item_stays keyed there).2 fun own => vacated.lines i there own l member same.symm

end Tenant

/-- Nothing but its lines refers to an order. -/
theorem met_without_order (met : s.Met) (id : Uuid) : (s.without (.order, id)).Met := by
  obtain ⟨tables, categories, items, orders, lines⟩ := met_iff.1 met
  refine met_iff.2 ⟨tables, categories, items, ?_, ?_⟩
  · intro o kept
    exact orders o (List.mem_filter.1 kept).1
  · intro l kept
    obtain ⟨member, other⟩ := List.mem_filter.1 kept
    refine ⟨has_iff.2 (mem_filter_keys.2 ⟨?_, bne_iff_ne.1 other⟩), (lines l member).2⟩
    exact has_iff.1 (lines l member).1

theorem met_removeRow (keyed : s.Keyed) (met : s.Met) (r : RowRef) :
    (s.removeRow r).Met ↔ r ∉ s.references := by
  cases there : s.has r with
  | false =>
    rw [removeRow_of_absent there]
    refine ⟨fun _ known => ?_, fun _ => met⟩
    rw [met r known] at there
    cases there
  | true =>
    rw [← dangling_eq_zero, dangling_removeRow keyed there, dangling_eq_zero.2 met, Nat.zero_sub,
      Nat.zero_add, List.count_eq_zero]

theorem met_without (keyed : s.Keyed) (met : s.Met) (r : RowRef) :
    (s.without r).Met ↔ s.Free r := by
  rcases r with ⟨e, id⟩
  cases e with
  | tenant => exact ⟨vacated_of_met keyed, met_of_vacated keyed met⟩
  | order => exact iff_of_true (met_without_order met id) trivial
  | _ => exact met_removeRow keyed met _

end Store

end Tableside
