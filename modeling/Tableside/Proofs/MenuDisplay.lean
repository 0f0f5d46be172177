import Tableside.Proofs.Calls
import Tableside.Proofs.TextOrder

/-!
# What a menu shows

A menu shows the active categories of a tenant and its active items, every row as often as it is
stored and none of another tenant, in the order in which they are displayed: categories by their
sort number and then by name, items by name, where names are ordered by their bytes
(`Menu.Displays`). A menu is loaded for just the codes that tenants have
(`Catalog.loadMenu_displays`).
-/

namespace Tableside

open Text (utf8)

/-! ## Display order -/

namespace Category

/-- By sort number, and by name where the numbers are the same. -/
def Precedes (a b : Category) : Prop :=
  a.sort.toInt < b.sort.toInt ∨ (a.sort.toInt = b.sort.toInt ∧ utf8 a.name ≤ utf8 b.name)

variable {a b c : Category}

theorem displayLe_iff : a.displayLe b = true ↔ a.Precedes b := by
  simp only [displayLe, Precedes, Bool.or_eq_true, Bool.and_eq_true, decide_eq_true_eq,
    Text.bytesLe_iff]

theorem displayLe_trans (ab : a.displayLe b = true) (bc : b.displayLe c = true) :
    a.displayLe c = true := by
  rw [displayLe_iff] at *
  rcases ab with less | ⟨same, names⟩
  · rcases bc with less' | ⟨same', -⟩
    · exact .inl (Int.lt_trans less less')
    · exact .inl (same' ▸ less)
  · rcases bc with less' | ⟨same', names'⟩
    · exact .inl (same ▸ less')
    · exact .inr ⟨same.trans same', List.le_trans names names'⟩

theorem displayLe_total (a b : Category) : (a.displayLe b || b.displayLe a) = true := by
  rw [Bool.or_eq_true, displayLe_iff, displayLe_iff]
  rcases Int.lt_trichotomy a.sort.toInt b.sort.toInt with less | same | greater
  · exact .inl (.inl less)
  · rcases List.le_total (utf8 a.name) (utf8 b.name) with names | names
    · exact .inl (.inr ⟨same, names⟩)
    · exact .inr (.inr ⟨same.symm, names⟩)
  · exact .inr (.inl greater)

end Category

namespace Item

/-- By name. -/
def Precedes (a b : Item) : Prop :=
  utf8 a.name ≤ utf8 b.name

variable {a b c : Item}

theorem displayLe_iff : a.displayLe b = true ↔ a.Precedes b := Text.bytesLe_iff

theorem displayLe_trans (ab : a.displayLe b = true) (bc : b.displayLe c = true) :
    a.displayLe c = true :=
  Text.bytesLe_trans ab bc

theorem displayLe_total (a b : Item) : (a.displayLe b || b.displayLe a) = true := by
  rw [Bool.or_eq_true]
  exact Text.bytesLe_total a.name b.name

end Item

/-! ## The rows of a menu -/

/-- A menu is that of a tenant: it has the tenant's code and shows the active rows of the tenant,
each as often as it is stored, and nothing else, in display order. -/
structure Menu.Displays (s : Store) (tenant : Tenant) (m : Menu) : Prop where
  code : m.tenant = tenant.code
  categories : ∀ c, m.categories.count c =
    if c.tenantId = tenant.id ∧ c.isActive = true then s.categories.count c else 0
  categoryOrder : m.categories.Pairwise Category.Precedes
  items : ∀ i, m.items.count i =
    if i.tenantId = tenant.id ∧ i.isActive = true then s.items.count i else 0
  itemOrder : m.items.Pairwise Item.Precedes

/-- Sorting the rows that are chosen loses none of them and doubles none. -/
theorem count_mergeSort_filter {α : Type} [DecidableEq α] {l : List α} {p : α → Bool}
    {le : α → α → Bool} (x : α) :
    ((l.filter p).mergeSort le).count x = if p x = true then l.count x else 0 := by
  rw [(List.mergeSort_perm (l.filter p) le).count_eq]
  split
  · rename_i chosen
    exact List.count_filter chosen
  · rename_i other
    exact List.count_eq_zero.2 fun member => other (List.mem_filter.1 member).2

namespace Catalog

variable {d : Database}

theorem displays_of_tenant (s : Store) (tenant : Tenant) :
    (⟨tenant.code, activeCategories s tenant.id, activeItems s tenant.id⟩ : Menu).Displays s
      tenant where
  code := rfl
  categories := by
    intro c
    rw [activeCategories, count_mergeSort_filter]
    simp only [Bool.and_eq_true, beq_iff_eq]
  categoryOrder := by
    refine (List.pairwise_mergeSort ?_ ?_ _).imp Category.displayLe_iff.1
    · exact fun _ _ _ => Category.displayLe_trans
    · exact Category.displayLe_total
  items := by
    intro i
    rw [activeItems, count_mergeSort_filter]
    simp only [Bool.and_eq_true, beq_iff_eq]
  itemOrder := by
    refine (List.pairwise_mergeSort ?_ ?_ _).imp Item.displayLe_iff.1
    · exact fun _ _ _ => Item.displayLe_trans
    · exact Item.displayLe_total

/-- A menu is missing just when no tenant has the code. Otherwise it is loaded, and it is that of
the tenant of the code. Loading it changes nothing. -/
theorem loadMenu_displays (serving : d.Serving) (codes : (d.store.tenants.map (·.code)).Nodup)
    (code : String) :
    ((loadMenu code d).1 = .error (.notFound ("tenant " ++ code)) ↔
      ∀ tenant ∈ d.store.tenants, tenant.code ≠ code) ∧
    (∀ tenant ∈ d.store.tenants, tenant.code = code →
      ∃ m, (loadMenu code d).1 = .ok m ∧ m.Displays d.store tenant) ∧
    (loadMenu code d).2 = d := by
  rw [loadMenu_apply serving]
  refine ⟨?_, ?_, rfl⟩
  · rw [← Store.tenantByCode?_eq_none_iff, menuIn]
    cases d.store.tenantByCode? code with
    | none => exact iff_of_true rfl rfl
    | some tenant => simp
  · rintro tenant member rfl
    refine ⟨_, ?_, displays_of_tenant d.store tenant⟩
    rw [menuIn, Store.tenantByCode?_of_mem codes member]

end Catalog

namespace Sample

/-- The cafe on a busy day: categories with a negative number, with the same number and out of use,
items with other letters, sold out and in the category out of use, and those of the neighbour. -/
def feast : Database where
  store :=
    { store [bar] with
      categories := [drinks, ⟨.ofNat 40, cafe.id, "Été", -1, true⟩,
        ⟨.ofNat 41, cafe.id, "Brunch", 1, true⟩, ⟨.ofNat 42, cafe.id, "Winter", 0, false⟩,
        ⟨.ofNat 43, bar.id, "Snacks", 0, true⟩]
      items := [⟨.ofNat 44, cafe.id, drinks.id, "Éclair", none, 450, true⟩, coffee,
        ⟨.ofNat 45, cafe.id, .ofNat 42, "Punch", some "hot", 500, true⟩,
        ⟨.ofNat 46, cafe.id, drinks.id, "Mocha", none, 400, false⟩,
        ⟨.ofNat 47, bar.id, .ofNat 43, "Olives", none, 350, true⟩] }
  tables := Entity.all
  hasLedger := true
  applied := true
  foreignKeys := true
  answers := none

end Sample

namespace Catalog

theorem loadMenu_displays_feast :
    (∃ m, (loadMenu "cafe" Sample.feast).1 = .ok m ∧
      m.Displays Sample.feast.store Sample.cafe) ∧
    (loadMenu "diner" Sample.feast).1 = .error (.notFound ("tenant " ++ "diner")) := by
  have serving : Sample.feast.Serving := ⟨rfl, Entity.mem_all⟩
  have codes : (Sample.feast.store.tenants.map (·.code)).Nodup := by decide
  obtain ⟨-, shown, -⟩ := loadMenu_displays serving codes "cafe"
  obtain ⟨missing, -⟩ := loadMenu_displays serving codes "diner"
  exact ⟨shown Sample.cafe List.mem_cons_self rfl, missing.2 (by decide)⟩

end Catalog

end Tableside
