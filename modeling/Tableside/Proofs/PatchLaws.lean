import Tableside.Proofs.ItemEdit

/-!
# Partial changes compose

Two patches in turn do what one patch does that names the fields of both, the later one deciding
where both name a field (`ItemPatch.merge`, `ItemPatch.apply_merge`). What stands in the way of a
patch does not depend on patches carried out before (`ItemPatch.Allowed.updateItem_iff`), so the one
patch is allowed whenever the two are (`ItemPatch.Allowed.merge`), and it has the same answer and
leaves the same store (`Instance.patches_compose`). Hence a patch that is repeated changes nothing
more, and patches of different fields may change places.
-/

namespace Tableside

/-! ## One patch for two -/

namespace DescriptionChange

/-- The first of two changes, or the second where the first keeps the description. -/
def or : DescriptionChange → DescriptionChange → DescriptionChange
  | keep, other => other
  | change, _ => change

@[simp] theorem keep_or (c : DescriptionChange) : keep.or c = c := rfl

@[simp] theorem or_keep (c : DescriptionChange) : c.or keep = c := by
  cases c <;> rfl

@[simp] theorem or_self (c : DescriptionChange) : c.or c = c := by
  cases c <;> rfl

theorem or_eq_keep_iff {c d : DescriptionChange} : c.or d = keep ↔ c = keep ∧ d = keep := by
  cases c <;> simp [or]

theorem or_comm_of_keep {c d : DescriptionChange} (apart : c = keep ∨ d = keep) :
    c.or d = d.or c := by
  rcases apart with rfl | rfl
  · rw [keep_or, or_keep]
  · rw [keep_or, or_keep]

end DescriptionChange

theorem or_comm_of_none {α : Type} {a b : Option α} (apart : a = none ∨ b = none) :
    a.or b = b.or a := by
  rcases apart with rfl | rfl
  · rw [Option.or_none, Option.none_or]
  · rw [Option.or_none, Option.none_or]

namespace ItemPatch

/-- The patch that names what either of two patches names, as the second one has it where both
do. -/
def merge (p q : ItemPatch) : ItemPatch where
  name := q.name.or p.name
  description := q.description.or p.description
  price := q.price.or p.price
  categoryId := q.categoryId.or p.categoryId
  isActive := q.isActive.or p.isActive

/-- No field is named by both of two patches. -/
structure Apart (p q : ItemPatch) : Prop where
  name : p.name = none ∨ q.name = none
  description : p.description = .keep ∨ q.description = .keep
  price : p.price = none ∨ q.price = none
  categoryId : p.categoryId = none ∨ q.categoryId = none
  isActive : p.isActive = none ∨ q.isActive = none

variable {p q : ItemPatch}

/-- The one patch changes an item as the two do in turn. -/
theorem apply_merge (p q : ItemPatch) (i : Item) : (p.merge q).apply i = q.apply (p.apply i) := by
  have later : ∀ {α : Type} (a b : Option α) (x : α), (a.or b).getD x = a.getD (b.getD x) := by
    intro α a b x
    cases a <;> rfl
  cases changed : q.description <;>
    simp only [apply, merge, changed, DescriptionChange.or, Option.map_or, later]

@[simp] theorem merge_self (p : ItemPatch) : p.merge p = p := by
  rw [merge, Option.or_self, Option.or_self, Option.or_self, Option.or_self,
    DescriptionChange.or_self]

theorem Apart.merge_comm (apart : p.Apart q) : p.merge q = q.merge p := by
  rw [merge, merge, or_comm_of_none apart.name, or_comm_of_none apart.price,
    or_comm_of_none apart.categoryId, or_comm_of_none apart.isActive,
    DescriptionChange.or_comm_of_keep apart.description]

theorem merge_eq_empty_iff : p.merge q = ⟨none, .keep, none, none, none⟩ ↔
    q = ⟨none, .keep, none, none, none⟩ ∧ p = ⟨none, .keep, none, none, none⟩ := by
  obtain ⟨name, description, price, categoryId, isActive⟩ := p
  obtain ⟨name', description', price', categoryId', isActive'⟩ := q
  simp only [merge, ItemPatch.mk.injEq, Option.or_eq_none_iff, DescriptionChange.or_eq_keep_iff]
  tauto

/-! ## Patches that are allowed -/

variable {s : Store} {user : AdminUser} {id : Uuid}

/-- Whatever two patches name is acceptable in one patch if it is in each of them. -/
theorem Allowed.merge (first : p.Allowed s user id) (second : q.Allowed s user id) :
    (p.merge q).Allowed s user id where
  admin := first.admin
  name := by
    intro name named
    rcases Option.or_eq_some_iff.1 named with later | ⟨-, earlier⟩
    · exact second.name name later
    · exact first.name name earlier
  price := by
    intro price named
    rcases Option.or_eq_some_iff.1 named with later | ⟨-, earlier⟩
    · exact second.price price later
    · exact first.price price earlier
  nonempty := fun empty => first.nonempty (merge_eq_empty_iff.1 empty).2
  tenant := first.tenant
  item := first.item
  category := by
    intro categoryId named
    rcases Option.or_eq_some_iff.1 named with later | ⟨-, earlier⟩
    · exact second.category categoryId later
    · exact first.category categoryId earlier

/-- A change of an item that keeps its id and its tenant makes no difference to what is allowed. -/
theorem Allowed.updateItem_iff {f : Item → Item} {other : Uuid}
    (keeps : ∀ i, (f i).id = i.id ∧ (f i).tenantId = i.tenantId) :
    p.Allowed (s.updateItem other f) user id ↔ p.Allowed s user id := by
  have same : ∀ i : Item, (if i.id = other then f i else i).id = i.id ∧
      (if i.id = other then f i else i).tenantId = i.tenantId := by
    intro i
    split
    · exact keeps i
    · exact ⟨rfl, rfl⟩
  have items : (∃ item ∈ (s.updateItem other f).items, item.id = id ∧
      item.tenantId = user.tenantId) ↔
        ∃ item ∈ s.items, item.id = id ∧ item.tenantId = user.tenantId := by
    simp [Store.updateItem, same]
  constructor
  · rintro ⟨admin, name, price, nonempty, tenant, item, category⟩
    exact ⟨admin, name, price, nonempty, tenant, items.1 item, category⟩
  · rintro ⟨admin, name, price, nonempty, tenant, item, category⟩
    exact ⟨admin, name, price, nonempty, tenant, items.2 item, category⟩

/-! ## What a patch leads to -/

/-- Wherever the database is as said before, and whatever else the world and the instance are like,
a patch of a user is carried out with an answer and leaves the database as said after it. -/
def Leads (p : ItemPatch) (user : AdminUser) (id : Uuid) (before : Database) (answer : Envelope Item)
    (after : Database) : Prop :=
  ∀ (i : Instance) (w : World), w.database = before →
    (i.patchItem user id p w).1 = .ok answer ∧ (i.patchItem user id p w).2.database = after

/-- The database once a patch is carried out. -/
def update (p : ItemPatch) (id : Uuid) (d : Database) : Database :=
  { d with store := d.store.updateItem id p.apply }

variable {d : Database} {item : Item}

theorem serving_update (serving : d.Serving) (p : ItemPatch) (id : Uuid) :
    (p.update id d).Serving :=
  serving.withStore _

theorem keyed_update (keyed : d.store.Keyed) (p : ItemPatch) (id : Uuid) :
    (p.update id d).store.Keyed :=
  keyed.updateItem id fun _ => rfl

theorem leads_of_allowed (serving : d.Serving) (keyed : d.store.Keyed)
    (allowed : p.Allowed d.store user id) (member : item ∈ d.store.items) (named : item.id = id) :
    p.Leads user id d (.plain "Item updated" (p.apply item)) (p.update id d) := by
  rintro i w rfl
  obtain ⟨⟨code, other⟩, found⟩ := target_isOk_iff.2 allowed
  obtain ⟨-, ready⟩ := target_eq_ok_iff.1 found
  obtain ⟨-, there, same, -⟩ := Catalog.editTarget_eq_ok (Catalog.patchTarget_eq_ok ready)
  obtain rfl : other = item := eq_of_key_eq (keyed.ids .item) there member (same.trans named.symm)
  obtain ⟨after, dropped, kept⟩ := i.invalidateMenu_apply code { w with database := { w.database with
    store := w.database.store.updateItem other.id p.apply } }
  rw [i.patchItem_eq serving keyed, found]
  refine ⟨rfl, ?_⟩
  dsimp only
  rw [dropped, kept, named, update]

/-- What was carried out was allowed, and led to the answer and the database that were left. -/
theorem leads_of_ok {w w' : World} (serving : w.database.Serving) (keyed : w.database.store.Keyed)
    {i : Instance} {answer : Envelope Item} (done : i.patchItem user id p w = (.ok answer, w')) :
    p.Allowed w.database.store user id ∧ ∃ item ∈ w.database.store.items, item.id = id ∧
      answer = .plain "Item updated" (p.apply item) ∧ w'.database = p.update id w.database := by
  have allowed : p.Allowed w.database.store user id := by
    rw [← target_isOk_iff]
    cases found : p.target w.database.store user id with
    | ok target => exact ⟨target, rfl⟩
    | error e =>
      rw [i.patchItem_eq serving keyed, found] at done
      cases done
  obtain ⟨item, member, named, -⟩ := allowed.item
  obtain ⟨answered, left⟩ := leads_of_allowed serving keyed allowed member named i w rfl
  rw [done] at answered left
  exact ⟨allowed, item, member, named, Except.ok.inj answered, left⟩

/-! ## Patches in turn -/

theorem update_update (p q : ItemPatch) (id : Uuid) (d : Database) :
    q.update id (p.update id d) = (p.merge q).update id d := by
  have twice : ∀ i : Item, (if (if i.id = id then p.apply i else i).id = id then
      q.apply (if i.id = id then p.apply i else i) else if i.id = id then p.apply i else i) =
        if i.id = id then (p.merge q).apply i else i := by
    intro i
    by_cases here : i.id = id
    · have kept : (p.apply i).id = id := here
      rw [if_pos here, if_pos kept, if_pos here, apply_merge]
    · rw [if_neg here, if_neg here, if_neg here]
  simp only [update, Store.updateItem, List.map_map, Function.comp_def, twice]

theorem Allowed.update_iff : p.Allowed (q.update id d).store user id ↔ p.Allowed d.store user id :=
  updateItem_iff fun _ => ⟨rfl, rfl⟩

/-- A patch that is allowed is carried out after another one, on the item that the other one
left. -/
theorem leads_after (serving : d.Serving) (keyed : d.store.Keyed)
    (allowed : q.Allowed d.store user id) (member : item ∈ d.store.items) (named : item.id = id)
    (p : ItemPatch) :
    q.Leads user id (p.update id d) (.plain "Item updated" ((p.merge q).apply item))
      ((p.merge q).update id d) := by
  have there : p.apply item ∈ (p.update id d).store.items :=
    List.mem_map.2 ⟨item, member, if_pos named⟩
  have leads := leads_of_allowed (serving_update serving p id) (keyed_update keyed p id)
    (Allowed.update_iff.2 allowed) there named
  rwa [← apply_merge, update_update] at leads

end ItemPatch

/-- Let a patch of a user be carried out. When it is carried out again, it has the same answer and
changes nothing. When another patch of the user follows, the one patch that names what the two name
leads to the answer and the database that the second of them leads to. And when another patch, which
names other fields, is carried out before or after the first, both orders are possible and lead to
the same. -/
theorem Instance.patches_compose {w w₁ : World} (serving : w.database.Serving)
    (keyed : w.database.store.Keyed) {i : Instance} {user : AdminUser} {id : Uuid} {p : ItemPatch}
    {first : Envelope Item} (done : i.patchItem user id p w = (.ok first, w₁)) :
    p.Leads user id w₁.database first w₁.database ∧
    (∀ (j : Instance) (q : ItemPatch) (v w₂ : World) (second : Envelope Item),
      v.database = w₁.database → j.patchItem user id q v = (.ok second, w₂) →
        (p.merge q).Leads user id w.database second w₂.database) ∧
    ∀ (j : Instance) (q : ItemPatch) (v w₂ : World) (second : Envelope Item),
      v.database = w.database ∨ v.database = w₁.database →
      j.patchItem user id q v = (.ok second, w₂) → p.Apart q →
        ∃ other between last after, q.Leads user id w.database other between ∧
          p.Leads user id between last after ∧ q.Leads user id w₁.database last after := by
  obtain ⟨allowed, item, member, named, rfl, left⟩ := ItemPatch.leads_of_ok serving keyed done
  have serving' := ItemPatch.serving_update serving p id
  have keyed' := ItemPatch.keyed_update keyed p id
  rw [left]
  refine ⟨?_, ?_, ?_⟩
  · have again := ItemPatch.leads_after serving keyed allowed member named p
    rwa [ItemPatch.merge_self] at again
  · intro j q v w₂ second found later
    obtain ⟨allowed', -⟩ := ItemPatch.leads_of_ok (found ▸ serving') (found ▸ keyed') later
    rw [found, ItemPatch.Allowed.update_iff] at allowed'
    have leads := ItemPatch.leads_after serving keyed allowed' member named p
    obtain ⟨answered, left'⟩ := leads j v found
    rw [later] at answered left'
    obtain rfl := Except.ok.inj answered
    rw [left']
    exact ItemPatch.leads_of_allowed serving keyed (allowed.merge allowed') member named
  · intro j q v w₂ second found other apart
    have allowed' : q.Allowed w.database.store user id := by
      rcases found with found | found
      · rw [← found]
        exact (ItemPatch.leads_of_ok (found ▸ serving) (found ▸ keyed) other).1
      · obtain ⟨allowed', -⟩ := ItemPatch.leads_of_ok (found ▸ serving') (found ▸ keyed') other
        rwa [found, ItemPatch.Allowed.update_iff] at allowed'
    have second := ItemPatch.leads_after serving keyed allowed' member named p
    have swapped := ItemPatch.leads_after serving keyed allowed member named q
    rw [← apart.merge_comm] at swapped
    exact ⟨_, _, _, _, ItemPatch.leads_of_allowed serving keyed allowed' member named, swapped,
      second⟩

namespace Sample

/-- The coffee gets cheaper, in the category that it is in. -/
def reprice : ItemPatch := ⟨none, .keep, some 250, some drinks.id, none⟩

theorem reprice_allowed : reprice.Allowed (store [bar]) admin coffee.id where
  admin := rfl
  name := by rintro name ⟨⟩
  price := by
    rintro price same
    cases same
    decide
  nonempty := by decide
  tenant := ⟨cafe, List.mem_cons_self, rfl⟩
  item := ⟨coffee, List.mem_cons_self, rfl, rfl⟩
  category := by
    rintro categoryId same
    cases same
    exact ⟨drinks, List.mem_cons_self, rfl, rfl⟩

theorem rename_apart_reprice : rename.Apart reprice :=
  ⟨.inr rfl, .inr rfl, .inl rfl, .inl rfl, .inr rfl⟩

end Sample

theorem Instance.patches_compose_cafe :
    let renamed := Sample.server.patchItem Sample.admin Sample.coffee.id Sample.rename
      (Sample.world [Sample.bar])
    let priced := Sample.server.patchItem Sample.admin Sample.coffee.id Sample.reprice renamed.2
    ∃ first second, renamed.1 = .ok first ∧ priced.1 = .ok second ∧
      Sample.rename.Leads Sample.admin Sample.coffee.id renamed.2.database first
        renamed.2.database ∧
      (Sample.rename.merge Sample.reprice).Leads Sample.admin Sample.coffee.id
        (Sample.world [Sample.bar]).database second priced.2.database ∧
      ∃ other between last after,
        Sample.reprice.Leads Sample.admin Sample.coffee.id (Sample.world [Sample.bar]).database
          other between ∧
        Sample.rename.Leads Sample.admin Sample.coffee.id between last after ∧
        Sample.reprice.Leads Sample.admin Sample.coffee.id renamed.2.database last after := by
  intro renamed priced
  have sound : (Sample.world [Sample.bar]).Sound := Sample.sound (by decide)
  have member : Sample.coffee ∈ (Sample.world [Sample.bar]).database.store.items :=
    List.mem_cons_self
  obtain ⟨first, left⟩ := ItemPatch.leads_of_allowed sound.serving sound.keyed
    Sample.rename_allowed member rfl Sample.server _ rfl
  obtain ⟨second, -⟩ := ItemPatch.leads_after sound.serving sound.keyed Sample.reprice_allowed
    member rfl Sample.rename Sample.server renamed.2 left
  have done : renamed = (.ok _, renamed.2) := Prod.ext first rfl
  have later : priced = (.ok _, priced.2) := Prod.ext second rfl
  obtain ⟨again, merged, swapped⟩ := patches_compose sound.serving sound.keyed done
  exact ⟨_, _, first, second, again, merged Sample.server _ _ _ _ rfl later,
    swapped Sample.server _ _ _ _ (.inr rfl) later Sample.rename_apart_reprice⟩

end Tableside
