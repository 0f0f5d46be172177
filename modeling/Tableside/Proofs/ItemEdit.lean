import Tableside.Proofs.Calls
import Tableside.Proofs.Text

/-!
# What a partial change of an item does

A patch is carried out when nothing stands in its way (`ItemPatch.Allowed`): the user is an
administrator, what the patch names is acceptable, and the rows that it is about are there and the
tenant's. Then one row changes, in the fields that the patch names (`ItemPatch.Turns`), and after
that the tenant's saved menu is dropped (`Instance.Drops`). Otherwise nothing happens at all.
Setting the availability of an item is a patch that names nothing else
(`Instance.patchItem_exact`).
-/

namespace Tableside

open Text (isBlank)

/-! ## Rows that change -/

/-- A change of one row leaves the rows around it. -/
theorem map_update_of_mem {α κ : Type} [DecidableEq κ] {key : α → κ} {l : List α} {x : α}
    (nodup : (l.map key).Nodup) (member : x ∈ l) (f : α → α) :
    ∃ before after, l = before ++ x :: after ∧
      (l.map fun y => if key y = key x then f y else y) = before ++ f x :: after := by
  obtain ⟨before, after, rfl⟩ := List.append_of_mem member
  have others : ∀ y ∈ before ++ after, key y ≠ key x := by
    intro y there same
    rw [List.map_append, List.map_cons, List.nodup_middle, ← List.map_append] at nodup
    exact (List.nodup_cons.1 nodup).1 (same ▸ List.mem_map_of_mem there)
  have kept : ∀ ys : List α, (∀ y ∈ ys, key y ≠ key x) →
      (ys.map fun y => if key y = key x then f y else y) = ys :=
    fun ys differ => map_eq_self fun y there => if_neg (differ y there)
  refine ⟨before, after, rfl, ?_⟩
  rw [List.map_append, List.map_cons, if_pos rfl,
    kept before fun y there => others y (List.mem_append_left _ there),
    kept after fun y there => others y (List.mem_append_right _ there)]

namespace ItemPatch

/-- What has to hold for a patch of a user to be carried out. -/
structure Allowed (s : Store) (user : AdminUser) (id : Uuid) (p : ItemPatch) : Prop where
  admin : user.role = "admin"
  name : ∀ name, p.name = some name → ∃ c ∈ name.toList, isBlank c = false
  price : ∀ price, p.price = some price → 0 ≤ price.toInt
  nonempty : p ≠ ⟨none, .keep, none, none, none⟩
  tenant : ∃ tenant ∈ s.tenants, tenant.id = user.tenantId
  item : ∃ item ∈ s.items, item.id = id ∧ item.tenantId = user.tenantId
  category : ∀ categoryId, p.categoryId = some categoryId →
    ∃ category ∈ s.categories, category.id = categoryId ∧ category.tenantId = user.tenantId

/-- An item before and after a patch: the fields that the patch names are as it says, all others as
they were. -/
structure Turns (p : ItemPatch) (old new : Item) : Prop where
  id : new.id = old.id
  tenantId : new.tenantId = old.tenantId
  name : match p.name with
    | none => new.name = old.name
    | some name => new.name = Text.trim name
  description : match p.description with
    | .keep => new.description = old.description
    | .clear => new.description = none
    | .set text => new.description = some text
  price : match p.price with
    | none => new.price = old.price
    | some price => new.price = price
  categoryId : match p.categoryId with
    | none => new.categoryId = old.categoryId
    | some categoryId => new.categoryId = categoryId
  isActive : match p.isActive with
    | none => new.isActive = old.isActive
    | some isActive => new.isActive = isActive

theorem turns_apply (p : ItemPatch) (i : Item) : p.Turns i (p.apply i) := by
  obtain ⟨name, description, price, categoryId, isActive⟩ := p
  refine ⟨rfl, rfl, ?_, ?_, ?_, ?_, ?_⟩
  · cases name <;> rfl
  · cases description <;> rfl
  · cases price <;> rfl
  · cases categoryId <;> rfl
  · cases isActive <;> rfl

/-! ## What stands in the way of a patch -/

theorem isEmpty_iff {p : ItemPatch} : p.isEmpty = true ↔ p = ⟨none, .keep, none, none, none⟩ := by
  obtain ⟨name, description, price, categoryId, isActive⟩ := p
  simp [isEmpty, and_assoc]

theorem validate_isOk_iff {p : ItemPatch} : p.validate = .ok () ↔
    (∀ name, p.name = some name → ∃ c ∈ name.toList, isBlank c = false) ∧
      ∀ price, p.price = some price → 0 ≤ price.toInt := by
  have names : (p.name.any fun name => (Text.trim name).isEmpty) = true ↔
      ¬∀ name, p.name = some name → ∃ c ∈ name.toList, isBlank c = false := by
    cases p.name with
    | none => simp
    | some name => simp [Text.trim_eq_empty_iff]
  have prices : (p.price.any fun price => price.toInt < 0) = true ↔
      ¬∀ price, p.price = some price → 0 ≤ price.toInt := by
    cases p.price with
    | none => simp
    | some price => simp
  rw [validate]
  by_cases blank : (p.name.any fun name => (Text.trim name).isEmpty) = true
  · rw [if_pos blank]
    refine iff_of_false (fun passed => by cases passed) fun allowed => names.1 blank allowed.1
  · rw [if_neg blank]
    by_cases negative : (p.price.any fun price => price.toInt < 0) = true
    · rw [if_pos negative]
      exact iff_of_false (fun passed => by cases passed) fun allowed => prices.1 negative allowed.2
    · rw [if_neg negative]
      exact iff_of_true rfl ⟨not_not.1 (mt names.2 blank), not_not.1 (mt prices.2 negative)⟩

end ItemPatch

namespace Catalog

variable {s : Store} {tenantId id : Uuid} {p : ItemPatch}

theorem editTarget_isOk_iff : (∃ target, editTarget s tenantId id = .ok target) ↔
    (∃ tenant ∈ s.tenants, tenant.id = tenantId) ∧
      ∃ item ∈ s.items, item.id = id ∧ item.tenantId = tenantId := by
  have tenants : (s.tenant? tenantId).isSome = true ↔
      ∃ tenant ∈ s.tenants, tenant.id = tenantId := by
    rw [Store.tenant?, List.find?_isSome]
    simp only [beq_iff_eq]
  have items : (s.itemOf? tenantId id).isSome = true ↔
      ∃ item ∈ s.items, item.id = id ∧ item.tenantId = tenantId := by
    rw [Store.itemOf?, List.find?_isSome]
    simp only [Bool.and_eq_true, beq_iff_eq]
  rw [← tenants, ← items, editTarget]
  cases s.tenant? tenantId with
  | none => simp
  | some tenant => cases s.itemOf? tenantId id <;> simp

end Catalog

/-- What a patch of a user is about, once nothing stands in its way. -/
def ItemPatch.target (s : Store) (user : AdminUser) (id : Uuid) (p : ItemPatch) :
    Except ApiError (String × Item) := do
  user.ensureAdmin
  Catalog.patchTarget s user.tenantId id p

namespace ItemPatch

variable {s : Store} {user : AdminUser} {id : Uuid} {p : ItemPatch}

theorem target_eq_ok_iff {found : String × Item} : p.target s user id = .ok found ↔
    user.role = "admin" ∧ Catalog.patchTarget s user.tenantId id p = .ok found := by
  by_cases admin : user.role = "admin"
  · rw [target, Call.ensureAdmin_of_admin admin, and_iff_right admin]
    rfl
  · rw [target, Call.ensureAdmin_of_other admin]
    exact iff_of_false (fun passed => by cases passed) fun both => admin both.1

theorem target_isOk_iff : (∃ found, p.target s user id = .ok found) ↔ p.Allowed s user id := by
  have filled : p.isEmpty = false ↔ p ≠ ⟨none, .keep, none, none, none⟩ := by
    rw [Ne, ← isEmpty_iff, Bool.not_eq_true]
  have categories : ∀ categoryId, (s.categoryOf? user.tenantId categoryId).isSome = true ↔
      ∃ category ∈ s.categories, category.id = categoryId ∧ category.tenantId = user.tenantId := by
    intro categoryId
    rw [Store.categoryOf?, List.find?_isSome]
    simp only [Bool.and_eq_true, beq_iff_eq]
  simp only [target_eq_ok_iff, Catalog.patchTarget_eq_ok_iff, exists_and_left, exists_and_right,
    Catalog.editTarget_isOk_iff, validate_isOk_iff, filled, categories]
  constructor
  · rintro ⟨admin, ⟨name, price⟩, nonempty, ⟨tenant, item⟩, category⟩
    exact ⟨admin, name, price, nonempty, tenant, item, category⟩
  · rintro ⟨admin, name, price, nonempty, tenant, item, category⟩
    exact ⟨admin, ⟨name, price⟩, nonempty, ⟨tenant, item⟩, category⟩

end ItemPatch

/-! ## Saved menus that are dropped -/

namespace Instance

/-- What is asked of the cache when the saved menu of a code is dropped. -/
def deletes (i : Instance) (code : String) : List Event :=
  if i.cache.isSome = true ∧ Text.trim code ≠ "" then
    [.cacheCall i.number (.del [menuKey (Text.trim code)])]
  else []

/-- The saved menu of a code is dropped: the cache, if the instance has one and the code is not
blank, is asked once to delete its key, and whatever it answers, nothing else happens. -/
structure Drops (i : Instance) (code : String) (written after : World) : Prop where
  database : after.database = written.database
  log : after.log = written.log ++ i.deletes code
  idle : i.deletes code = [] → after = written
  called : ∀ name, i.cache = some name → Text.trim code ≠ "" →
    after = (written.cacheCall i name (.del [menuKey (Text.trim code)])).2

theorem drops_invalidateMenu (i : Instance) (code : String) (written : World) :
    ∃ after, i.invalidateMenu code written = (.ok (), after) ∧ i.Drops code written after := by
  refine ⟨_, rfl, ?_⟩
  have blank : (Text.trim code).isEmpty = true ↔ Text.trim code = "" := String.isEmpty_iff
  cases named : i.cache with
  | none =>
    refine ⟨rfl, ?_, fun _ => rfl, fun name same => by cases named.symm.trans same⟩
    simp [deletes, named]
  | some name =>
    by_cases empty : Text.trim code = ""
    · simp only [blank.2 empty, if_true]
      refine ⟨rfl, ?_, fun _ => rfl, fun _ _ filled => absurd empty filled⟩
      simp [deletes, empty]
    · simp only [if_neg (mt blank.1 empty)]
      have asked : i.deletes code = [.cacheCall i.number (.del [menuKey (Text.trim code)])] :=
        if_pos ⟨by rw [named]; rfl, empty⟩
      refine ⟨written.cacheCall_database i name _, ?_, ?_, ?_⟩
      · rw [asked]
        exact written.cacheCall_log i name _
      · rw [asked]
        rintro ⟨⟩
      · intro other same _
        obtain rfl : name = other := Option.some.inj (named.symm.trans same)
        rfl

/-! ## Patches -/

variable {w : World} {user : AdminUser} {id : Uuid} {p : ItemPatch}

/-- A patch writes one row and then drops the saved menu, or does nothing. -/
theorem patchItem_eq (i : Instance) (serving : w.database.Serving)
    (keyed : w.database.store.Keyed) : i.patchItem user id p w =
      match p.target w.database.store user id with
      | .ok (code, item) => (.ok (.plain "Item updated" (p.apply item)),
        (i.invalidateMenu code { w with database := { w.database with
          store := w.database.store.updateItem item.id p.apply } }).2)
      | .error e => (.error e, w) := by
  have ran := Catalog.patchItem_apply serving keyed user.tenantId id p
  rw [patchItem, ItemPatch.target]
  by_cases admin : user.role = "admin"
  · have passed : Service.check user.ensureAdmin w = (.ok (), w) := by
      rw [Service.check, Call.ensureAdmin_of_admin admin]
    rw [Service.bind_of_ok _ passed, Call.ensureAdmin_of_admin admin, editItem]
    change _ = match Catalog.patchTarget w.database.store user.tenantId id p with
      | .ok (code, item) => _
      | .error e => _
    cases found : Catalog.patchTarget w.database.store user.tenantId id p with
    | error e =>
      rw [found] at ran
      exact Service.bind_of_error _ (by rw [Service.db, ran]; rfl)
    | ok target =>
      rw [found] at ran
      rw [Service.bind_of_ok _ (by rw [Service.db, ran]; rfl)]
      rfl
  · have refused : Service.check user.ensureAdmin w = (.error .forbidden, w) := by
      rw [Service.check, Call.ensureAdmin_of_other admin]
    rw [Service.bind_of_error _ refused, Call.ensureAdmin_of_other admin]
    rfl

/-- To set the availability of an item is to patch nothing else. -/
theorem setItemAvailability_eq (i : Instance) (user : AdminUser) (id : Uuid) (b : Bool) :
    i.setItemAvailability user id ⟨b⟩ =
      i.patchItem user id ⟨none, .keep, none, none, some b⟩ := rfl

/-- A patch succeeds just when it is allowed. Then the row of the item changes in what the patch
names, and nothing else in the store does; the answer is the row as it now is, and after the write
the saved menu of the tenant is dropped. A patch that fails leaves the world as it was. The answer
is a matter of the database alone, whatever the caches hold and answer. -/
theorem patchItem_exact (serving : w.database.Serving) (keyed : w.database.store.Keyed)
    (i : Instance) (user : AdminUser) (id : Uuid) (p : ItemPatch) :
    ((∃ answer, (i.patchItem user id p w).1 = .ok answer) ↔ p.Allowed w.database.store user id) ∧
    (∀ answer, (i.patchItem user id p w).1 = .ok answer →
      ∃ tenant ∈ w.database.store.tenants, tenant.id = user.tenantId ∧
        ∃ before old new after, w.database.store.items = before ++ old :: after ∧ old.id = id ∧
          old.tenantId = user.tenantId ∧ p.Turns old new ∧
          answer = .plain "Item updated" new ∧
          i.Drops tenant.code { w with database := { w.database with
            store := { w.database.store with items := before ++ new :: after } } }
            (i.patchItem user id p w).2) ∧
    (∀ e, (i.patchItem user id p w).1 = .error e → (i.patchItem user id p w).2 = w) ∧
    (∀ (j : Instance) (v : World), v.database = w.database →
      (j.patchItem user id p v).1 = (i.patchItem user id p w).1) ∧
    ∀ b, i.setItemAvailability user id ⟨b⟩ =
      i.patchItem user id ⟨none, .keep, none, none, some b⟩ := by
  refine ⟨?_, ?_, ?_, ?_, setItemAvailability_eq i user id⟩
  · rw [← ItemPatch.target_isOk_iff, i.patchItem_eq serving keyed]
    cases p.target w.database.store user id with
    | error e => simp
    | ok found => simp
  · intro answer succeeded
    rw [i.patchItem_eq serving keyed] at succeeded ⊢
    cases found : p.target w.database.store user id with
    | error e =>
      rw [found] at succeeded
      cases succeeded
    | ok target =>
      rw [found] at succeeded
      cases succeeded
      obtain ⟨-, ready⟩ := ItemPatch.target_eq_ok_iff.1 found
      obtain ⟨⟨tenant, known, own, code⟩, member, same, its⟩ :=
        Catalog.editTarget_eq_ok (Catalog.patchTarget_eq_ok ready)
      obtain ⟨before, after, split, changed⟩ :=
        map_update_of_mem (keyed.ids .item) member p.apply
      obtain ⟨left, ran, drops⟩ := i.drops_invalidateMenu target.1 { w with database :=
        { w.database with store := w.database.store.updateItem target.2.id p.apply } }
      refine ⟨tenant, known, own, before, _, _, after, split, same, its, p.turns_apply _, rfl, ?_⟩
      rw [code, ← changed]
      dsimp only
      rw [ran]
      exact drops
  · intro e failed
    rw [i.patchItem_eq serving keyed] at failed ⊢
    cases found : p.target w.database.store user id with
    | error e => rfl
    | ok target =>
      rw [found] at failed
      cases failed
  · intro j v same
    rw [i.patchItem_eq serving keyed, j.patchItem_eq (same ▸ serving) (same ▸ keyed), same]
    cases p.target w.database.store user id <;> rfl

end Instance

namespace Sample

/-- The coffee gets another name and is not sold for now. -/
def rename : ItemPatch := ⟨some " Espresso ", .clear, none, none, some false⟩

theorem rename_allowed : rename.Allowed (store [bar]) admin coffee.id where
  admin := rfl
  name := by
    rintro name same
    cases same
    exact ⟨'E', by decide, by decide⟩
  price := by rintro price ⟨⟩
  nonempty := by decide
  tenant := ⟨cafe, List.mem_cons_self, rfl⟩
  item := ⟨coffee, List.mem_cons_self, rfl, rfl⟩
  category := by rintro categoryId ⟨⟩

end Sample

namespace Instance

theorem patchItem_exact_cafe :
    ∃ new, (Sample.server.patchItem Sample.admin Sample.coffee.id Sample.rename
        (Sample.world [Sample.bar])).1 = .ok (.plain "Item updated" new) ∧
      Sample.rename.Turns Sample.coffee new ∧
      (Sample.server.patchItem Sample.admin Sample.coffee.id Sample.rename
        (Sample.world [Sample.bar])).2.log = [.cacheCall 0 (.del [menuKey "cafe"])] := by
  have sound : (Sample.world [Sample.bar]).Sound := Sample.sound (by decide)
  obtain ⟨accepted, effect, -⟩ := patchItem_exact sound.serving sound.keyed Sample.server
    Sample.admin Sample.coffee.id Sample.rename
  obtain ⟨answer, succeeded⟩ := accepted.2 Sample.rename_allowed
  obtain ⟨tenant, known, own, before, old, new, after, split, -, -, turns, rfl, drops⟩ :=
    effect answer succeeded
  have only : before = [] ∧ old = Sample.coffee := by
    cases before with
    | nil => exact ⟨rfl, (List.cons.inj split).1.symm⟩
    | cons row before =>
      have length := congrArg List.length split
      simp [Sample.world, Sample.store] at length
  obtain ⟨-, rfl⟩ := only
  have cafe : tenant = Sample.cafe := by
    rcases List.mem_cons.1 known with rfl | neighbour
    · rfl
    · obtain rfl := List.mem_singleton.1 neighbour
      exact absurd own (by decide)
  have asked : Sample.server.deletes Sample.cafe.code = [.cacheCall 0 (.del [menuKey "cafe"])] := by
    decide
  refine ⟨new, succeeded, turns, ?_⟩
  rw [drops.log, cafe]
  exact asked

end Instance

end Tableside
